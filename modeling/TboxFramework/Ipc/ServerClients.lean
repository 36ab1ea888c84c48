import TboxFramework.Ipc.ServerRegistry

/-!
# Who is in `m_clients`, and which threads may run

From its insertion to its own clean-up a connection is what `m_clients` finds
under its descriptor, and nothing else is. The accept thread exists only between
`start` and the join in `stop`, so nobody is accepted while handlers change.
-/

namespace TboxFramework.Ipc.Server

open Interleaving

set_option autoImplicit false

variable {Pusher : Type}

/-! ## The accept thread -/

structure Controlled (state : State Pusher) : Prop where
  running : state.running = true → state.control = .idle ∨ state.control = .spawning
  spawning : state.control = .spawning → state.running = true
  accepting : state.accepting = .absent ∨ state.control = .waking ∨ state.control = .joining ∨
    (state.running = true ∧ state.control = .idle)

theorem Controlled.initially : Controlled (initial : State Pusher) :=
  ⟨nofun, nofun, Or.inl rfl⟩

namespace Controlled

variable {state next : State Pusher} {action : Action Pusher} {point : ControlPoint}

/-- The server is off wherever the controlling thread is not idle or starting. -/
theorem off (controlled : Controlled state) (here : state.control = point)
    (apart : point ≠ .idle ∧ point ≠ .spawning) : state.running = false := by
  by_contra on
  rcases controlled.running (by simpa using on) with idle | spawning
  · exact apart.1 (here.symm.trans idle)
  · exact apart.2 (here.symm.trans spawning)

/-- While handlers change, nobody accepts a connection. -/
theorem absent (controlled : Controlled state) (here : state.control = point)
    (apart : point ≠ .waking ∧ point ≠ .joining ∧ (point = .idle → state.running = false)) :
    state.accepting = .absent := by
  rcases controlled.accepting with absent | waking | joining | ⟨on, idle⟩
  · exact absent
  · exact absurd (here.symm.trans waking) apart.1
  · exact absurd (here.symm.trans joining) apart.2.1
  · rw [apart.2.2 (here.symm.trans idle)] at on
    cases on

theorem of_off (off : next.running = false) (control : next.control ≠ .spawning)
    (absent : next.accepting = .absent ∨ next.control = .waking ∨ next.control = .joining) :
    Controlled next := by
  refine ⟨?_, fun spawning => absurd spawning control, ?_⟩
  · intro on
    rw [off] at on
    cases on
  · rcases absent with absent | waking | joining
    · exact Or.inl absent
    · exact Or.inr (Or.inl waking)
    · exact Or.inr (Or.inr (Or.inl joining))

end Controlled

/-- Only `start` makes an accept thread. -/
theorem TableMove.absent {state : State Pusher} {action : Action Pusher}
    {clients : List (Fd × ConnId)} {accepting : AcceptPoint}
    (move : TableMove state action clients accepting) (other : action ≠ .spawnAccept)
    (absent : state.accepting = .absent) : accepting = .absent := by
  cases move with
  | still | erases => exact absent
  | spawnsAccept => exact absurd rfl other
  | joins => rfl
  | tests here | breaks here | fails here | accepts fd here | inserts connection fd here
  | spawns connection here =>
      rw [absent] at here
      cases here

theorem TableMove.joined {state : State Pusher} {clients : List (Fd × ConnId)}
    {accepting : AcceptPoint} (move : TableMove state .join clients accepting) :
    accepting = .absent := by
  cases move with
  | still _ aside => cases aside
  | joins => rfl

/-! ## Entries -/

structure Listed (state : State Pusher) : Prop where
  controlled : Controlled state
  registered : Registered state
  fresh : ∀ connection, state.nextConnection ≤ connection →
    (state.connections connection).point = .unborn
  awaited : ∀ pair ∈ state.clients, (state.connections pair.2).point = .unborn →
    state.accepting = .spawning pair.2
  listed : ∀ connection, (state.connections connection).point.phase = .serving ∨
    state.accepting = .spawning connection →
    state.find (state.connections connection).fd = some connection

theorem Listed.initially : Listed (initial : State Pusher) :=
  ⟨.initially, .initially, fun _ _ => rfl, nofun, nofun⟩

theorem unborn_of_phase {point : ConnPoint} (phase : point.phase = .unborn) : point = .unborn := by
  cases point with
  | unborn => rfl
  | _ => cases phase

variable {state next : State Pusher} {action : Action Pusher} {connection : ConnId}
  {own : Connection Pusher}

/-- Removing the entries of one descriptor leaves the others. -/
theorem lookup_filter_ne {fd other : Fd} (clients : List (Fd × ConnId)) (apart : other ≠ fd) :
    (clients.filter (·.1 ≠ fd)).lookup other = clients.lookup other := by
  induction clients with
  | nil => rfl
  | cons pair rest ih =>
      by_cases mine : pair.1 = fd
      · have missed : (other == pair.1) = false := by simpa [mine] using apart
        rw [List.filter_cons_of_neg (by simp [mine]), ih, List.lookup_cons, missed]
      · rw [List.filter_cons_of_pos (by simp [mine]), List.lookup_cons, List.lookup_cons, ih]

namespace Move

/-- A thread begins only when the accept thread starts it. -/
theorem unborn_stays (move : Move state action connection own)
    (unborn : (state.connections connection).point = .unborn)
    (waiting : state.accepting ≠ .spawning connection) : own.point = .unborn := by
  cases move with
  | goes _ _ _ point edge =>
      rw [unborn] at edge
      cases edge
  | born => rfl
  | spawned _ here => exact absurd here waiting
  | reads _ request here =>
      rw [unborn] at here
      cases here
  | returns _ request handler outcome here =>
      rw [unborn] at here
      cases here
  | skips _ request here =>
      rw [unborn] at here
      cases here
  | responds _ owner answer rest count writer here =>
      rw [unborn] at here
      cases here
  | _ => exact unborn

/-- No thread gets back behind its own start. -/
theorem unborn_before (move : Move state action connection own)
    (old : connection ≠ state.nextConnection) (unborn : own.point = .unborn) :
    (state.connections connection).point = .unborn := by
  cases move with
  | goes _ _ _ point edge =>
      generalize (state.connections connection).point = before at edge
      cases edge with
      | testLoop | testRunning =>
          simp only at unborn
          split at unborn <;> cases unborn
      | _ => cases unborn
  | born => exact absurd rfl old
  | spawned | reads | returns | skips => cases unborn
  | responds _ owner answer rest count =>
      simp only at unborn
      split at unborn <;> cases unborn
  | _ => exact unborn

theorem serving_before (move : Move state action connection own)
    (serving : own.point.phase = .serving) :
    (state.connections connection).point.phase = .serving ∨
      state.accepting = .spawning connection := by
  cases move with
  | goes _ _ _ point edge =>
      left
      generalize (state.connections connection).point = before at edge
      cases edge with
      | testRunning =>
          simp only at serving
          split at serving <;> cases serving
      | erase | copyDisconnect | callDisconnect | skipDisconnect | disconnectReturns | close =>
          cases serving
      | _ => rfl
  | born => cases serving
  | spawned _ here => exact Or.inr here
  | reads _ request here | returns _ request handler outcome here | skips _ request here =>
      rw [here]
      exact Or.inl rfl
  | responds _ owner answer rest count writer here =>
      rw [here]
      exact Or.inl rfl
  | _ => exact Or.inl serving

/-- A connection keeps its descriptor. -/
theorem keeps_fd (move : Move state action connection own)
    (old : connection ≠ state.nextConnection) : own.fd = (state.connections connection).fd := by
  cases move with
  | born => exact absurd rfl old
  | _ => rfl

end Move

theorem Listed.older (listed : Listed state)
    (alive : (state.connections connection).point.phase = .serving ∨
      (state.connections connection).point.phase = .leaving) :
    connection < state.nextConnection :=
  (listed.registered.opened _ _ (listed.registered.alive connection alive)).1

/-- A connection that is served, or is about to be, has its descriptor. -/
theorem Listed.opened (listed : Listed state)
    (serving : (state.connections connection).point.phase = .serving ∨
      state.accepting = .spawning connection) :
    state.descriptors (state.connections connection).fd = some connection := by
  rcases serving with serving | spawning
  · exact listed.registered.alive connection (Or.inl serving)
  · exact (listed.registered.spawning connection spawning).1

/-- An entry of `m_clients` is that of the connection which has the descriptor. -/
theorem Listed.find_only (listed : Listed state) {fd : Fd} {other : ConnId}
    (found : state.find fd = some other) (open_ : state.descriptors fd = some connection) :
    other = connection := by
  have reached := (listed.registered.client _ (State.mem_of_find found)).1
  exact Option.some.inj (reached.symm.trans open_)

/-- A thread that has erased its connection is not found any more. -/
theorem Listed.find_leaving (listed : Listed state)
    (leaving : (state.connections connection).point.phase = .leaving) :
    state.find (state.connections connection).fd = none := by
  have opened := listed.registered.alive connection (Or.inr leaving)
  cases found : state.find (state.connections connection).fd with
  | none => rfl
  | some other =>
      have entry := listed.registered.client _ (State.mem_of_find found)
      rw [listed.find_only found opened, leaving] at entry
      rcases entry.2 with unborn | serving
      · cases unborn
      · cases serving

/-- The accept thread finds no entry under the descriptor that it was given. -/
theorem Listed.find_inserting (listed : Listed state) {fd : Fd}
    (here : state.accepting = .inserting connection fd) : state.find fd = none := by
  obtain ⟨opened, unborn⟩ := listed.registered.inserting connection fd here
  cases found : state.find fd with
  | none => rfl
  | some other =>
      have entry := State.mem_of_find found
      rw [listed.find_only found opened] at entry
      have spawning := listed.awaited _ entry (unborn_of_phase unborn)
      rw [here] at spawning
      cases spawning

/-- The accept thread moves on from a connection only by starting its thread. -/
theorem TableMove.spawning_stays {clients : List (Fd × ConnId)} {point : AcceptPoint}
    (move : TableMove state action clients point) (listed : Listed state)
    (spawning : state.accepting = .spawning connection) :
    point = .spawning connection ∨ action = .spawnConnection connection := by
  cases move with
  | still | erases => exact Or.inl spawning
  | spawnsAccept here =>
      have absent := listed.controlled.absent here (by simp)
      rw [spawning] at absent
      cases absent
  | joins here ended =>
      rw [spawning] at ended
      rcases ended with absent | exited
      · cases absent
      · cases exited
  | spawns other here =>
      rw [spawning] at here
      cases here
      exact Or.inr rfl
  | tests here | breaks here | fails here | accepts fd here | inserts other fd here =>
      rw [spawning] at here
      cases here

variable [DecidableEq Pusher] {maxFrameBytes : UInt32}

theorem controlled_step (controlled : Controlled state)
    (taken : step maxFrameBytes state action = some next) : Controlled next := by
  have controls := step_controls taken
  have tables := step_tables taken
  obtain ⟨after, same⟩ : ∃ after, next.settings = after := ⟨_, rfl⟩
  have running : next.running = after.running := congrArg Settings.running same
  have control : next.control = after.control := congrArg Settings.control same
  rw [same] at controls
  cases controls with
  | still _ aside =>
      refine ⟨by rw [running, control]; exact controlled.running,
        by rw [running, control]; exact controlled.spawning, ?_⟩
      rw [running, control]
      refine controlled.accepting.imp_left (tables.absent ?_)
      rintro rfl
      cases aside
  | startsAgain request disconnect on =>
      refine ⟨by rw [running, control]; exact controlled.running,
        by rw [running, control]; exact controlled.spawning, ?_⟩
      rw [running, control]
      exact controlled.accepting.imp_left (tables.absent nofun)
  | listens here =>
      exact ⟨fun _ => Or.inr control, fun _ => running,
        Or.inl (tables.absent nofun (controlled.absent here (by simp)))⟩
  | spawnsAccept here =>
      have on := controlled.spawning here
      refine ⟨fun _ => Or.inl control, ?_, Or.inr (Or.inr (Or.inr ⟨running.trans on, control⟩))⟩
      rw [control]
      nofun
  | stops here on => exact .of_off running (by rw [control]; nofun) (Or.inr (Or.inl control))
  | wakes here =>
      exact .of_off (running.trans (controlled.off here (by simp))) (by rw [control]; nofun)
        (Or.inr (Or.inr control))
  | joins here ended =>
      exact .of_off (running.trans (controlled.off here (by simp))) (by rw [control]; nofun)
        (Or.inl tables.joined)
  | starts request disconnect here off | stopsAgain here off =>
      have absent : state.accepting = .absent := by
        rcases here with here | here <;> exact controlled.absent here (by simp [off])
      exact .of_off (running.trans off) (by rw [control]; nofun)
        (Or.inl (tables.absent nofun absent))
  | listenFails here | assigns request disconnect here | collects fds here all | shuts fd rest here
  | shutsAll here | clears here | finishes here =>
      exact .of_off (running.trans (controlled.off here (by simp))) (by rw [control]; nofun)
        (Or.inl (tables.absent nofun (controlled.absent here (by simp))))

/-- An entry of an unborn connection is the one whose thread is about to start. -/
theorem awaited_step (listed : Listed state)
    (taken : step maxFrameBytes state action = some next) :
    ∀ pair ∈ next.clients, (next.connections pair.2).point = .unborn →
      next.accepting = .spawning pair.2 := by
  intro pair member unborn
  have tables := step_tables taken
  generalize clients : next.clients = after at tables member
  generalize accepting : next.accepting = point at tables
  have before (old : pair ∈ state.clients) : state.accepting = .spawning pair.2 := by
    have opened := (listed.registered.client pair old).1
    have recent := (listed.registered.opened _ _ opened).1
    exact listed.awaited pair old
      ((step_moves taken pair.2).unborn_before (Nat.ne_of_lt recent) unborn)
  cases tables with
  | still => exact before member
  | inserts connection fd here =>
      rcases List.mem_cons.mp member with rfl | old
      · rfl
      · have other := before (List.mem_filter.mp old).1
        rw [here] at other
        cases other
  | erases connection here => exact before (List.mem_filter.mp member).1
  | spawns connection here =>
      obtain ⟨-, rfl⟩ := (guarded_eq_some ..).mp taken
      have same := before member
      rw [here] at same
      cases same
      simp [State.setPoint, State.setAccepting, State.modify] at unborn
  | spawnsAccept here =>
      have absent := listed.controlled.absent here (by simp)
      rw [before member] at absent
      cases absent
  | joins here ended =>
      rw [before member] at ended
      rcases ended with absent | exited
      · cases absent
      · cases exited
  | tests here | breaks here | fails here | accepts fd here =>
      rw [before member] at here
      cases here

/-- A connection that nobody removes stays found. -/
theorem found_step (listed : Listed state) (taken : step maxFrameBytes state action = some next)
    (connection : ConnId) (serving : (next.connections connection).point.phase = .serving ∨
      next.accepting = .spawning connection) :
    next.find (next.connections connection).fd = some connection := by
  have move := step_moves taken connection
  have tables := step_tables taken
  have kept (before : (state.connections connection).point.phase = .serving ∨
      state.accepting = .spawning connection) :
      state.descriptors (state.connections connection).fd = some connection ∧
        (next.connections connection).fd = (state.connections connection).fd ∧
        state.clients.lookup (state.connections connection).fd = some connection := by
    have opened := listed.opened before
    have recent := (listed.registered.opened _ _ opened).1
    exact ⟨opened, move.keeps_fd (Nat.ne_of_lt recent), listed.listed connection before⟩
  have early := serving.imp_left move.serving_before
  unfold State.find
  generalize next.clients = after at tables
  generalize next.accepting = point at tables early
  have quiet (before : (state.connections connection).point.phase = .serving ∨
      state.accepting = .spawning connection) :
      state.clients.lookup (next.connections connection).fd = some connection := by
    obtain ⟨-, fd, found⟩ := kept before
    rw [fd]
    exact found
  cases tables with
  | still => exact quiet (early.elim id Or.inr)
  | inserts inserted fd here =>
      obtain ⟨reached, unborn⟩ := listed.registered.inserting inserted fd here
      by_cases mine : connection = inserted
      · subst mine
        have own := (listed.registered.opened _ _ reached)
        rw [move.keeps_fd (Nat.ne_of_lt own.1), own.2, List.lookup_cons_self]
      · have before : (state.connections connection).point.phase = .serving ∨
            state.accepting = .spawning connection := by
          rcases early with before | spawning
          · exact before
          · cases spawning
            exact absurd rfl mine
        obtain ⟨opened, same, found⟩ := kept before
        have apart : (state.connections connection).fd ≠ fd := by
          intro shared
          rw [shared, reached] at opened
          exact mine (Option.some.inj opened).symm
        have missed : ((state.connections connection).fd == fd) = false := by simpa using apart
        rw [same, List.lookup_cons, missed, lookup_filter_ne _ apart]
        exact found
  | erases erased here =>
      have before := early.elim id Or.inr
      obtain ⟨opened, same, found⟩ := kept before
      have other : erased ≠ connection := by
        rintro rfl
        obtain ⟨-, rfl⟩ := (guarded_eq_some ..).mp taken
        rcases serving with served | spawning
        · rw [State.point_set_point] at served
          cases served
        · have unborn := (listed.registered.spawning erased spawning).2
          rw [here] at unborn
          cases unborn
      have apart : (state.connections connection).fd ≠ (state.connections erased).fd := by
        intro shared
        have own := listed.registered.alive erased (Or.inl (by rw [here]; rfl))
        rw [← shared, opened] at own
        exact other (Option.some.inj own).symm
      rw [same, lookup_filter_ne _ apart]
      exact found
  | tests here =>
      rcases early with before | spawning
      · exact quiet before
      · split at spawning <;> cases spawning
  | breaks | fails | accepts | spawns | spawnsAccept | joins =>
      rcases early with before | spawning
      · exact quiet before
      · cases spawning

theorem listed_step (listed : Listed state)
    (taken : step maxFrameBytes state action = some next) : Listed next := by
  refine ⟨controlled_step listed.controlled taken, registered_step listed.registered taken, ?_,
    awaited_step listed taken, found_step listed taken⟩
  intro connection recent
  have opens := step_opens taken
  have old := listed.fresh connection (Nat.le_trans opens.recent recent)
  apply (step_moves taken connection).unborn_stays old
  intro spawning
  have opened := (listed.registered.spawning connection spawning).1
  have before := (listed.registered.opened _ _ opened).1
  exact Nat.lt_irrefl _ (Nat.lt_of_lt_of_le before (Nat.le_trans opens.recent recent))

end TboxFramework.Ipc.Server

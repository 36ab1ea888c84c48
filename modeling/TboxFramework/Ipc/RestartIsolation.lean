import TboxFramework.Ipc.DisconnectNotice

/-!
# Handlers and periods

The handlers and `m_running` belong to the server, not to a period between
`start` and `stop`. A connection thread that outlives the `stop` of its period
takes whatever it finds there for its own.
-/

namespace TboxFramework.Ipc.Server

open Interleaving

set_option autoImplicit false

variable {Pusher : Type}

/-- The request handler and the disconnect handler of one `start`. -/
abbrev Handlers := Option HandlerId × Option HandlerId

/-- The handlers of the last `start`, and those of the period in which each
connection was accepted. -/
structure Periods where
  current : Handlers
  accepted : ConnId → Handlers

def Periods.initial : Periods := ⟨(none, none), fun _ => (none, none)⟩

def notePeriod (state : State Pusher) (action : Action Pusher) (periods : Periods) : Periods :=
  match action with
  | .assignHandlers request disconnect => { periods with current := (request, disconnect) }
  | .accept _ =>
      { periods with
        accepted := Function.update periods.accepted state.nextConnection periods.current }
  | _ => periods

def Invocation.connection : Invocation → ConnId
  | .request _ connection | .disconnect _ connection => connection

/-- The handler that is called is the one of the connection's period. -/
def Invocation.Within (periods : Periods) : Invocation → Prop
  | .request handler connection => (periods.accepted connection).1 = some handler
  | .disconnect handler connection => (periods.accepted connection).2 = some handler

def Invocation.ends (connection : ConnId) : Invocation → Bool
  | .disconnect _ other => other == connection
  | _ => false

/-- Handlers are called for connections of their own period only, and the
disconnect handler at most once for each. -/
structure KeptApart (periods : Periods) (state : State Pusher) : Prop where
  within : ∀ invocation ∈ state.invocations, invocation.Within periods
  once : ∀ connection, state.invocations.countP (·.ends connection) ≤ 1

structure Owned (periods : Periods) (state : State Pusher) : Prop where
  listed : Listed state
  request : state.requestHandler = none ∨ state.requestHandler = periods.current.1
  disconnect : state.disconnectHandler = none ∨ state.disconnectHandler = periods.current.2
  looking : ∀ connection, (state.connections connection).point.looks = true →
    periods.accepted connection = periods.current
  inserting : ∀ connection fd, state.accepting = .inserting connection fd →
    periods.accepted connection = periods.current
  spawning : ∀ connection, state.accepting = .spawning connection →
    periods.accepted connection = periods.current
  requestCopied : ∀ connection request handler,
    (state.connections connection).point = .handlerCopied request (some handler) →
    (periods.accepted connection).1 = some handler
  disconnectCopied : ∀ connection handler,
    (state.connections connection).point = .disconnectCopied (some handler) →
    (periods.accepted connection).2 = some handler
  recent : ∀ invocation ∈ state.invocations, invocation.connection < state.nextConnection
  within : ∀ invocation ∈ state.invocations, invocation.Within periods
  once : ∀ connection, state.invocations.countP (·.ends connection) ≤
    (state.connections connection).point.notices.1

theorem Owned.initially : Owned .initial (initial : State Pusher) where
  listed := .initially
  request := Or.inl rfl
  disconnect := Or.inl rfl
  looking := nofun
  inserting := nofun
  spawning := nofun
  requestCopied := nofun
  disconnectCopied := nofun
  recent := nofun
  within := nofun
  once := fun _ => Nat.le_refl _

variable {periods : Periods} {state next : State Pusher} {action : Action Pusher}
  {connection : ConnId} {own : Connection Pusher}

theorem Owned.apart (owned : Owned periods state) : KeptApart periods state := by
  refine ⟨owned.within, ?_⟩
  intro connection
  apply Nat.le_trans (owned.once connection)
  cases (state.connections connection).point <;> simp [ConnPoint.notices]

/-- A connection keeps the handlers of its period. -/
theorem accepted_stays (recent : connection < state.nextConnection) :
    (notePeriod state action periods).accepted connection = periods.accepted connection := by
  cases action with
  | accept fd => exact Function.update_of_ne (Nat.ne_of_lt recent) ..
  | _ => rfl

theorem current_stays (other : ∀ request disconnect, action ≠ .assignHandlers request disconnect) :
    (notePeriod state action periods).current = periods.current := by
  cases action with
  | assignHandlers request disconnect => exact absurd rfl (other request disconnect)
  | _ => rfl

theorem ControlMove.handlers {after : Settings} (move : ControlMove state action after)
    (request : state.requestHandler = none ∨ state.requestHandler = periods.current.1)
    (disconnect : state.disconnectHandler = none ∨ state.disconnectHandler = periods.current.2) :
    (after.requestHandler = none ∨
        after.requestHandler = (notePeriod state action periods).current.1) ∧
      (after.disconnectHandler = none ∨
        after.disconnectHandler = (notePeriod state action periods).current.2) := by
  cases move with
  | still _ aside =>
      rw [current_stays (by rintro _ _ rfl; cases aside)]
      exact ⟨request, disconnect⟩
  | assigns given givenDisconnect here => exact ⟨Or.inr rfl, Or.inr rfl⟩
  | clears here => exact ⟨Or.inl rfl, Or.inl rfl⟩
  | _ => exact ⟨request, disconnect⟩

/-- A handler has been copied and not yet been called or found missing. -/
def ConnPoint.copied : ConnPoint → Bool
  | .handlerCopied _ _ | .disconnectCopied _ => true
  | _ => false

namespace Move

theorem looks_before (move : Move state action connection own) (looks : own.point.looks = true) :
    (state.connections connection).point.looks = true ∨ state.accepting = .spawning connection := by
  cases move with
  | goes _ _ writer point edge =>
      left
      generalize (state.connections connection).point = before at edge
      cases edge with
      | copyDisconnect | callDisconnect | skipDisconnect | disconnectReturns | close => cases looks
      | _ => rfl
  | born => cases looks
  | spawned _ here => exact Or.inr here
  | reads _ request here | returns _ request handler outcome here | skips _ request here =>
      rw [here]
      exact Or.inl rfl
  | responds _ owner answer rest count writer here =>
      rw [here]
      exact Or.inl rfl
  | _ => exact Or.inl looks

/-- A copied handler was copied before, or is found by this step. -/
theorem copied_before (move : Move state action connection own)
    (copied : own.point.copied = true) :
    (state.connections connection).point = own.point ∨
      (∃ request, (state.connections connection).point = .copyingHandler request ∧
        own.point = .handlerCopied request state.requestHandler) ∨
      (state.connections connection).point = .copyingDisconnect ∧
        own.point = .disconnectCopied state.disconnectHandler := by
  cases move with
  | goes _ _ writer point edge =>
      generalize (state.connections connection).point = before at edge
      cases edge with
      | testLoop | testRunning =>
          simp only at copied
          split at copied <;> cases copied
      | copyHandler request => exact Or.inr (Or.inl ⟨request, rfl, rfl⟩)
      | copyDisconnect => exact Or.inr (Or.inr ⟨rfl, rfl⟩)
      | _ => cases copied
  | responds _ owner answer rest count writer here =>
      simp only at copied
      split at copied <;> cases copied
  | born | spawned | reads | returns | skips => cases copied
  | _ => exact Or.inl rfl

theorem request_copied (move : Move state action connection own) {request : Request}
    {handler : Option HandlerId} (copied : own.point = .handlerCopied request handler) :
    (state.connections connection).point = .handlerCopied request handler ∨
      (state.connections connection).point = .copyingHandler request ∧
        handler = state.requestHandler := by
  rcases move.copied_before (by rw [copied]; rfl) with same | ⟨other, here, found⟩ | ⟨_, found⟩
  · exact Or.inl (same.trans copied)
  · obtain ⟨rfl, rfl⟩ := ConnPoint.handlerCopied.inj (copied.symm.trans found)
    exact Or.inr ⟨here, rfl⟩
  · cases copied.symm.trans found

theorem disconnect_copied (move : Move state action connection own) {handler : Option HandlerId}
    (copied : own.point = .disconnectCopied handler) :
    (state.connections connection).point = .disconnectCopied handler ∨
      (state.connections connection).point = .copyingDisconnect ∧
        handler = state.disconnectHandler := by
  rcases move.copied_before (by rw [copied]; rfl) with same | ⟨other, _, found⟩ | ⟨here, found⟩
  · exact Or.inl (same.trans copied)
  · cases copied.symm.trans found
  · obtain rfl := ConnPoint.disconnectCopied.inj (copied.symm.trans found)
    exact Or.inr ⟨here, rfl⟩

/-- A thread calls the disconnect handler on its way out, and goes on from there. -/
theorem notices_grow (move : Move state action connection own) (listed : Listed state) :
    (state.connections connection).point.notices.1 + (if action.notifies connection then 1 else 0) ≤
      own.point.notices.1 := by
  cases move with
  | still _ _ writer shutDown stays aside =>
      have silent : action.notifies connection = false := by
        cases action with
        | callDisconnect mover handler => simpa [Action.notifies, Action.mover] using aside
        | _ => rfl
      simp [silent]
  | goes _ _ writer point edge =>
      generalize (state.connections connection).point = before at edge
      cases edge with
      | testLoop | testRunning => cases state.running <;> simp [Action.notifies, ConnPoint.notices]
      | callDisconnect handler => simp [Action.notifies, ConnPoint.notices]
      | _ => simp [Action.notifies, ConnPoint.notices]
  | born fd =>
      rw [listed.fresh _ (Nat.le_refl _)]
      simp [Action.notifies, ConnPoint.notices]
  | spawned _ here =>
      rw [unborn_of_phase (listed.registered.spawning connection here).2]
      simp [Action.notifies, ConnPoint.notices]
  | reads _ request here | returns _ request handler outcome here | skips _ request here =>
      rw [here]
      simp [Action.notifies, ConnPoint.notices]
  | responds _ owner answer rest count writer here =>
      rw [here]
      simp [Action.notifies, ConnPoint.notices]
  | _ => simp [Action.notifies]

end Move

/-- A handler is called only by the thread that has copied it. -/
theorem InvokeMove.member {invocations : List Invocation}
    (move : InvokeMove state action invocations) {invocation : Invocation}
    (member : invocation ∈ invocations) :
    invocation ∈ state.invocations ∨
      (∃ connection request handler, invocation = .request handler connection ∧
        (state.connections connection).point = .handlerCopied request (some handler)) ∨
      ∃ connection handler, invocation = .disconnect handler connection ∧
        (state.connections connection).point = .disconnectCopied (some handler) := by
  cases move with
  | still => exact Or.inl member
  | requests connection request handler here =>
      rcases List.mem_append.mp member with old | new
      · exact Or.inl old
      · exact Or.inr (Or.inl ⟨connection, request, handler, List.mem_singleton.mp new, here⟩)
  | disconnects connection handler here =>
      rcases List.mem_append.mp member with old | new
      · exact Or.inl old
      · exact Or.inr (Or.inr ⟨connection, handler, List.mem_singleton.mp new, here⟩)

/-- How often a handler call ends a connection grows by the calls that do. -/
theorem InvokeMove.ends {invocations : List Invocation}
    (move : InvokeMove state action invocations) (connection : ConnId) :
    invocations.countP (·.ends connection) ≤
      state.invocations.countP (·.ends connection) +
        (if action.notifies connection then 1 else 0) := by
  cases move with
  | still => exact Nat.le_add_right ..
  | requests other request handler here =>
      simp [List.countP_append, Invocation.ends]
  | disconnects other handler here =>
      simp [List.countP_append, List.countP_singleton, Invocation.ends, Action.notifies]

/-- Outside of `start` a connection stays in its period, which stays the current one. -/
theorem period_stays (other : ∀ request disconnect, action ≠ .assignHandlers request disconnect)
    (recent : connection < state.nextConnection)
    (same : periods.accepted connection = periods.current) :
    (notePeriod state action periods).accepted connection =
      (notePeriod state action periods).current := by
  rw [accepted_stays recent, current_stays other, same]

variable [DecidableEq Pusher] {maxFrameBytes : UInt32}

/-- While a `start` gives its handlers nobody is being accepted, and no thread
looks for them. -/
theorem Owned.assigning (owned : Owned periods state) (past : ThreadsPast state action)
    {request disconnect : Option HandlerId} (assigns : action = .assignHandlers request disconnect)
    (taken : step maxFrameBytes state action = some next) :
    next.accepting = .absent ∧
      ∀ connection, (next.connections connection).point.looks = false := by
  subst assigns
  obtain ⟨here, rfl⟩ := (guarded_eq_some ..).mp taken
  refine ⟨owned.listed.controlled.absent here (by simp), ?_⟩
  intro connection
  by_cases recent : connection < state.nextConnection
  · exact past connection recent
  · simp only [owned.listed.fresh connection (Nat.le_of_not_lt recent)]
    rfl

theorem period_step (owned : Owned periods state) (past : ThreadsPast state action)
    (taken : step maxFrameBytes state action = some next) (connection : ConnId)
    (open_ : (next.connections connection).point.looks = true ∨
      (∃ fd, next.accepting = .inserting connection fd) ∨ next.accepting = .spawning connection) :
    (notePeriod state action periods).accepted connection =
      (notePeriod state action periods).current := by
  have listed := owned.listed
  by_cases assigns : ∃ request disconnect, action = .assignHandlers request disconnect
  · obtain ⟨request, disconnect, assigns⟩ := assigns
    obtain ⟨absent, looking⟩ := owned.assigning past assigns taken
    rw [looking, absent] at open_
    rcases open_ with looks | ⟨fd, inserting⟩ | spawning
    · cases looks
    · cases inserting
    · cases spawning
  · have other : ∀ request disconnect, action ≠ .assignHandlers request disconnect :=
      fun request disconnect same => assigns ⟨request, disconnect, same⟩
    have spawned (here : state.accepting = .spawning connection) :
        (notePeriod state action periods).accepted connection =
          (notePeriod state action periods).current :=
      period_stays other (listed.registered.opened _ _ (listed.opened (Or.inr here))).1
        (owned.spawning connection here)
    have inserted (fd : Fd) (here : state.accepting = .inserting connection fd) :
        (notePeriod state action periods).accepted connection =
          (notePeriod state action periods).current :=
      period_stays other
        (listed.registered.opened _ _ (listed.registered.inserting connection fd here).1).1
        (owned.inserting connection fd here)
    have tables := step_tables taken
    generalize next.accepting = point at open_ tables
    generalize next.clients = clients at tables
    rcases open_ with looks | ⟨fd, inserting⟩ | spawning
    · rcases (step_moves taken connection).looks_before looks with looked | here
      · have recent : connection < state.nextConnection := by
          apply Nat.lt_of_not_le
          intro new
          rw [listed.fresh connection new] at looked
          cases looked
        exact period_stays other recent (owned.looking connection looked)
      · exact spawned here
    · cases tables with
      | still | erases => exact inserted fd inserting
      | tests => split at inserting <;> cases inserting
      | accepts =>
          cases inserting
          exact Function.update_self ..
      | _ => cases inserting
    · cases tables with
      | still | erases => exact spawned spawning
      | tests => split at spawning <;> cases spawning
      | inserts _ fd here =>
          cases spawning
          exact inserted fd here
      | _ => cases spawning

theorem owned_step (owned : Owned periods state) (past : ThreadsPast state action)
    (taken : step maxFrameBytes state action = some next) :
    Owned (notePeriod state action periods) next := by
  have listed := owned.listed
  have opens := step_opens taken
  have handlers := (step_controls taken).handlers owned.request owned.disconnect
  have period := period_step owned past taken
  have older (connection : ConnId) (born : (state.connections connection).point ≠ .unborn) :
      connection < state.nextConnection := by
    apply Nat.lt_of_not_le
    intro new
    exact born (listed.fresh connection new)
  have invokes := step_invokes taken
  have called (invocation : Invocation) (member : invocation ∈ next.invocations) :
      invocation.connection < state.nextConnection ∧ invocation.Within periods := by
    rcases invokes.member member with old | ⟨connection, request, handler, rfl, here⟩ |
      ⟨connection, handler, rfl, here⟩
    · exact ⟨owned.recent invocation old, owned.within invocation old⟩
    · exact ⟨older connection (by rw [here]; nofun),
        owned.requestCopied connection request handler here⟩
    · exact ⟨older connection (by rw [here]; nofun),
        owned.disconnectCopied connection handler here⟩
  refine ⟨listed_step listed taken, handlers.1, handlers.2, fun connection looks =>
    period connection (Or.inl looks), fun connection fd here => period connection
    (Or.inr (Or.inl ⟨fd, here⟩)), fun connection here => period connection (Or.inr (Or.inr here)),
    ?_, ?_, ?_, ?_, ?_⟩
  · intro connection request handler copied
    rcases (step_moves taken connection).request_copied copied with before | ⟨here, found⟩
    · rw [accepted_stays (older connection (by rw [before]; nofun))]
      exact owned.requestCopied connection request handler before
    · rw [accepted_stays (older connection (by rw [here]; nofun))]
      rcases owned.request with none | current
      · rw [none] at found
        cases found
      · rw [owned.looking connection (by rw [here]; rfl), ← current, ← found]
  · intro connection handler copied
    rcases (step_moves taken connection).disconnect_copied copied with before | ⟨here, found⟩
    · rw [accepted_stays (older connection (by rw [before]; nofun))]
      exact owned.disconnectCopied connection handler before
    · rw [accepted_stays (older connection (by rw [here]; nofun))]
      rcases owned.disconnect with none | current
      · rw [none] at found
        cases found
      · rw [owned.looking connection (by rw [here]; rfl), ← current, ← found]
  · intro invocation member
    exact Nat.lt_of_lt_of_le (called invocation member).1 opens.recent
  · intro invocation member
    obtain ⟨recent, within⟩ := called invocation member
    cases invocation with
    | request handler connection =>
        exact (congrArg Prod.fst (accepted_stays recent)).trans within
    | disconnect handler connection =>
        exact (congrArg Prod.snd (accepted_stays recent)).trans within
  · intro connection
    have before := owned.once connection
    have grows := (step_moves taken connection).notices_grow listed
    have ends := invokes.ends connection
    omega

/-- Handlers keep to the connections of their period as long as no `start` comes
while a thread of an earlier one may still look for a handler. -/
theorem handlers_keep_to_their_period (maxFrameBytes : UInt32) (actions : List (Action Pusher))
    (state : State Pusher) (past : Along (step maxFrameBytes) ThreadsPast initial actions)
    (completed : run (step maxFrameBytes) initial actions = some state) :
    KeptApart (observe (step maxFrameBytes) notePeriod initial .initial actions) state := by
  have owned := observed_invariant Owned (fun _ _ _ _ => owned_step) Owned.initially past completed
  exact owned.apart

/-- A period that begins with its own handlers and accepts one connection. -/
def period (request disconnect : HandlerId) (connection : ConnId) : List (Action Unit) :=
  [.start (some request) (some disconnect), .assignHandlers (some request) (some disconnect),
    .listen true, .spawnAccept, .testAccept, .accept 5, .insertClient connection 5,
    .spawnConnection connection, .testLoop connection]

/-- A connection thread from the failure of its read to its end. -/
def leaving (connection : ConnId) (disconnect : HandlerId) : List (Action Unit) :=
  [.readFails connection, .erase connection, .testRunning connection, .copyDisconnect connection,
    .callDisconnect connection disconnect, .disconnectReturns connection disconnect,
    .close connection]

/-- A whole `stop`, with these connections in `m_clients`. -/
def stopPeriod (fds : List Fd) : List (Action Unit) :=
  [.stop, .wake, .testAccept, .join, .collect fds] ++
    fds.map (fun fd => .shutdown fd []) ++ [.shutdownDone, .clear, .finishStop]

theorem quiet_restart_kept_apart :
    ∃ last, run (step 1024) initial
        (period 0 1 0 ++ leaving 0 1 ++ stopPeriod [] ++ period 2 3 1 ++ leaving 1 3) = some last ∧
      last.invocations = [.disconnect 1 0, .disconnect 3 1] ∧
      KeptApart (observe (step 1024) notePeriod initial .initial
        (period 0 1 0 ++ leaving 0 1 ++ stopPeriod [] ++ period 2 3 1 ++ leaving 1 3)) last :=
  ⟨_, rfl, rfl, handlers_keep_to_their_period 1024
    (period 0 1 0 ++ leaving 0 1 ++ stopPeriod [] ++ period 2 3 1 ++ leaving 1 3) _ (by decide) rfl⟩

/-- The next `start` up to the moment at which the server runs again. -/
def restart (request disconnect : HandlerId) : List (Action Unit) :=
  [.start (some request) (some disconnect), .assignHandlers (some request) (some disconnect),
    .listen true]

/-- A thread of the first period is slow: after the restart it calls the second
disconnect handler, or the second request handler for a request of the first
period. -/
theorem old_thread_calls_new_handlers :
    (∃ last, run (step 1024) initial
        (period 0 1 0 ++ stopPeriod [5] ++ restart 2 3 ++ leaving 0 3) = some last ∧
      last.invocations = [.disconnect 3 0] ∧
      ¬KeptApart (observe (step 1024) notePeriod initial .initial
        (period 0 1 0 ++ stopPeriod [5] ++ restart 2 3 ++ leaving 0 3)) last) ∧
    ∃ last, run (step 1024) initial
        (period 0 1 0 ++ [.readRequest 0 ⟨1, []⟩] ++ stopPeriod [5] ++ restart 2 3 ++
          [.copyHandler 0 ⟨1, []⟩, .callHandler 0 ⟨1, []⟩ 2]) = some last ∧
      last.invocations = [.request 2 0] ∧
      ¬KeptApart (observe (step 1024) notePeriod initial .initial
        (period 0 1 0 ++ [.readRequest 0 ⟨1, []⟩] ++ stopPeriod [5] ++ restart 2 3 ++
          [.copyHandler 0 ⟨1, []⟩, .callHandler 0 ⟨1, []⟩ 2])) last := by
  refine ⟨⟨_, rfl, rfl, ?_⟩, _, rfl, rfl, ?_⟩
  · intro apart
    have own := apart.within (.disconnect 3 0) (List.mem_singleton.mpr rfl)
    exact absurd (Option.some.inj (own : some 1 = some 3)) (by decide)
  · intro apart
    have own := apart.within (.request 2 0) (List.mem_singleton.mpr rfl)
    exact absurd (Option.some.inj (own : some 0 = some 2)) (by decide)

end TboxFramework.Ipc.Server

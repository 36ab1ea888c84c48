import TboxFramework.Ipc.ServerClients

/-!
# The disconnect handler and the life of a descriptor

A connection thread removes its connection from `m_clients`, calls the disconnect
handler and closes the descriptor, in this order. While the server runs, whoever
keeps books on a descriptor therefore hears of its end before its number can
come back.
-/

namespace TboxFramework.Ipc.Server

open Interleaving

set_option autoImplicit false

variable {Pusher : Type}

/-- The disconnect handler is called for a connection. -/
def Action.notifies (connection : ConnId) : Action Pusher → Bool
  | .callDisconnect other _ => other == connection
  | _ => false

/-- The disconnect handler returns to the thread of a connection. -/
def Action.notified (connection : ConnId) : Action Pusher → Bool
  | .disconnectReturns other _ => other == connection
  | _ => false

/-- The server is not stopped, and started with a disconnect handler only. -/
def Action.keepsNotifying : Action Pusher → Prop
  | .start _ disconnect => disconnect.isSome = true
  | .stop => False
  | _ => True

/-- How often the disconnect handler has been called for a connection, and how
often it has returned. -/
def noticesIn (past : List (Action Pusher)) (connection : ConnId) : Nat × Nat :=
  (past.countP (·.notifies connection), past.countP (·.notified connection))

/-- How often a thread that has got here has called the disconnect handler, and
how often the handler has returned to it. -/
def ConnPoint.notices : ConnPoint → Nat × Nat
  | .inDisconnect _ => (1, 0)
  | .closing | .done => (1, 1)
  | _ => (0, 0)

/-- A server that nobody stops has a disconnect handler wherever it runs. -/
def Settings.announcing (settings : Settings) : Prop :=
  match settings.control with
  | .idle | .spawning => settings.running = true → settings.disconnectHandler.isSome = true
  | .assigning _ disconnect => disconnect.isSome = true
  | .listening => settings.disconnectHandler.isSome = true
  | _ => False

structure Noticed (past : List (Action Pusher)) (state : State Pusher) : Prop where
  listed : Listed state
  announcing : state.settings.announcing
  on : ∀ connection, (state.connections connection).point ≠ .unborn → state.running = true
  notices : ∀ connection,
    noticesIn past connection = (state.connections connection).point.notices
  copied : ∀ connection, (state.connections connection).point ≠ .disconnectCopied none
  /-- A connection that is not in `m_clients` yet has no subscriptions. -/
  bare : ∀ connection, (state.connections connection).point = .unborn →
    state.accepting ≠ .spawning connection → (state.connections connection).subscriptions = []

theorem Noticed.initially : Noticed [] (initial : State Pusher) where
  listed := .initially
  announcing := nofun
  on := fun _ born => absurd rfl born
  notices := fun _ => rfl
  copied := nofun
  bare := fun _ _ _ => rfl

variable {past : List (Action Pusher)} {state next : State Pusher} {action : Action Pusher}
  {connection : ConnId} {own : Connection Pusher}

theorem notices_snoc (past : List (Action Pusher)) (action : Action Pusher) (connection : ConnId) :
    noticesIn (past ++ [action]) connection =
      ((noticesIn past connection).1 + (if action.notifies connection then 1 else 0),
        (noticesIn past connection).2 + (if action.notified connection then 1 else 0)) := by
  simp only [noticesIn, List.countP_append, List.countP_singleton]

theorem notices_quiet (calls : action.notifies connection = false)
    (returns : action.notified connection = false) :
    noticesIn (past ++ [action]) connection = noticesIn past connection := by
  simp [notices_snoc, calls, returns]

theorem notices_aside (other : action.mover ≠ some connection) :
    noticesIn (past ++ [action]) connection = noticesIn past connection := by
  cases action with
  | callDisconnect mover handler =>
      apply notices_quiet _ rfl
      simpa [Action.notifies, Action.mover] using other
  | disconnectReturns mover handler =>
      apply notices_quiet rfl
      simpa [Action.notified, Action.mover] using other
  | _ => exact notices_quiet rfl rfl

/-- The server stays on, and with a disconnect handler. -/
theorem ControlMove.announcing {after : Settings} (move : ControlMove state action after)
    (permitted : action.keepsNotifying) (before : state.settings.announcing) :
    after.announcing ∧ (state.running = true → after.running = true) := by
  cases move with
  | still | startsAgain => exact ⟨before, id⟩
  | starts request disconnect here off => exact ⟨permitted, id⟩
  | assigns request disconnect here =>
      simp only [Settings.announcing, State.settings, here] at before
      exact ⟨before, id⟩
  | listens here =>
      simp only [Settings.announcing, State.settings, here] at before
      exact ⟨fun _ => before, fun _ => rfl⟩
  | listenFails here =>
      simp only [Settings.announcing, State.settings, here] at before
      exact ⟨fun _ => before, id⟩
  | spawnsAccept here =>
      simp only [Settings.announcing, State.settings, here] at before
      exact ⟨before, id⟩
  | stops | stopsAgain => exact permitted.elim
  | wakes here | joins here ended | collects fds here all | shuts fd rest here | shutsAll here
  | clears here | finishes here =>
      simp only [Settings.announcing, State.settings, here] at before

theorem Noticed.handler (noticed : Noticed past state) (on : state.running = true) :
    state.disconnectHandler.isSome = true := by
  have announcing := noticed.announcing
  unfold Settings.announcing State.settings at announcing
  rcases noticed.listed.controlled.running on with here | here
  · simp only [here] at announcing
    exact announcing on
  · simp only [here] at announcing
    exact announcing on

/-- Connections are accepted only while the server is on. -/
theorem Noticed.accepting (noticed : Noticed past state) {point : AcceptPoint}
    (here : state.accepting = point) (present : point ≠ .absent) : state.running = true := by
  have announcing := noticed.announcing
  unfold Settings.announcing State.settings at announcing
  rcases noticed.listed.controlled.accepting with absent | waking | joining | ⟨on, -⟩
  · exact absurd (here.symm.trans absent) present
  · simp only [waking] at announcing
  · simp only [joining] at announcing
  · exact on

variable [DecidableEq Pusher] {maxFrameBytes : UInt32}

omit [DecidableEq Pusher] in
theorem Move.notices (move : Move state action connection own) (noticed : Noticed past state) :
    noticesIn (past ++ [action]) connection = own.point.notices ∧
      own.point ≠ .disconnectCopied none := by
  have before := noticed.notices connection
  have copied := noticed.copied connection
  cases move with
  | still _ _ writer shutDown stays aside => exact ⟨(notices_aside aside).trans before, copied⟩
  | goes _ _ writer point edge =>
      have on := noticed.on connection
      generalize (state.connections connection).point = here at edge before copied on
      cases edge with
      | testLoop =>
          refine ⟨(notices_quiet rfl rfl).trans (before.trans ?_), ?_⟩ <;> simp only <;> split
          · rfl
          · rfl
          · nofun
          · nofun
      | testRunning =>
          simp only [if_pos (on nofun)]
          exact ⟨(notices_quiet rfl rfl).trans before, nofun⟩
      | copyDisconnect =>
          refine ⟨(notices_quiet rfl rfl).trans before, ?_⟩
          intro none
          have handler := noticed.handler (on nofun)
          rw [ConnPoint.disconnectCopied.inj none] at handler
          cases handler
      | callDisconnect handler =>
          refine ⟨?_, nofun⟩
          rw [notices_snoc, before]
          simp [Action.notifies, Action.notified, ConnPoint.notices]
      | skipDisconnect => exact absurd rfl copied
      | disconnectReturns handler =>
          refine ⟨?_, nofun⟩
          rw [notices_snoc, before]
          simp [Action.notifies, Action.notified, ConnPoint.notices]
      | _ => exact ⟨(notices_quiet rfl rfl).trans before, nofun⟩
  | born fd =>
      rw [noticed.listed.fresh _ (Nat.le_refl _)] at before
      exact ⟨(notices_quiet rfl rfl).trans before, nofun⟩
  | spawned _ here =>
      rw [unborn_of_phase (noticed.listed.registered.spawning connection here).2] at before
      exact ⟨(notices_quiet rfl rfl).trans before, nofun⟩
  | reads _ request here | returns _ request handler outcome here | skips _ request here =>
      rw [here] at before
      exact ⟨(notices_quiet rfl rfl).trans before, nofun⟩
  | responds _ owner answer rest count writer here =>
      rw [here] at before
      refine ⟨(notices_quiet rfl rfl).trans (before.trans ?_), ?_⟩ <;> simp only <;> split
      · rfl
      · rfl
      · nofun
      · nofun
  | _ => exact ⟨(notices_quiet rfl rfl).trans before, copied⟩

theorem bare_step (noticed : Noticed past state)
    (taken : step maxFrameBytes state action = some next) (connection : ConnId)
    (unborn : (next.connections connection).point = .unborn)
    (waiting : next.accepting ≠ .spawning connection) :
    (next.connections connection).subscriptions = [] := by
  have move := step_moves taken connection
  have early : (state.connections connection).point = .unborn := by
    by_cases new : connection = state.nextConnection
    · exact noticed.listed.fresh connection (Nat.le_of_eq new.symm)
    · exact move.unborn_before new unborn
  have apart : state.accepting ≠ .spawning connection := by
    intro spawning
    rcases (step_tables taken).spawning_stays noticed.listed spawning with stays | rfl
    · exact waiting stays
    · obtain ⟨-, rfl⟩ := (guarded_eq_some ..).mp taken
      simp [State.setPoint, State.setAccepting, State.modify] at unborn
  have before := noticed.bare connection early apart
  generalize next.connections connection = own at move
  cases move with
  | born => rfl
  | subscribes fd eventType _ registered =>
      exact absurd (noticed.listed.awaited _ (State.mem_of_find registered) early) apart
  | unsubscribes fd eventType _ registered =>
      exact absurd (noticed.listed.awaited _ (State.mem_of_find registered) early) apart
  | _ => exact before

theorem noticed_step (noticed : Noticed past state) (permitted : action.keepsNotifying)
    (taken : step maxFrameBytes state action = some next) : Noticed (past ++ [action]) next := by
  have listed := listed_step noticed.listed taken
  have control := (step_controls taken).announcing permitted noticed.announcing
  refine ⟨listed, control.1, ?_,
    fun connection => ((step_moves taken connection).notices noticed).1,
    fun connection => ((step_moves taken connection).notices noticed).2, bare_step noticed taken⟩
  intro connection born
  apply control.2
  by_cases unborn : (state.connections connection).point = .unborn
  · have spawning : state.accepting = .spawning connection := by
      by_contra waiting
      exact born ((step_moves taken connection).unborn_stays unborn waiting)
    exact noticed.accepting spawning nofun
  · exact noticed.on connection unborn

/-! ## Runs -/

/-- No entry of `m_clients` for a descriptor: nobody subscribes it and no event
goes to it. -/
def Unregistered (maxFrameBytes : UInt32) (state : State Pusher) (fd : Fd) : Prop :=
  state.find fd = none ∧
    (∀ eventType, state.addSubscription fd eventType = (state, false)) ∧
    (∀ eventType, state.removeSubscription fd eventType = (state, false)) ∧
    ∀ pusher eventType payloadJson next,
      step maxFrameBytes state (.pushEventTo pusher fd eventType payloadJson) = some next →
      next = state

theorem unregistered_of_find {fd : Fd} (gone : state.find fd = none) :
    Unregistered maxFrameBytes state fd := by
  refine ⟨gone, ?_, ?_, ?_⟩
  · intro eventType
    simp only [State.addSubscription, gone]
  · intro eventType
    simp only [State.removeSubscription, gone]
  · intro pusher eventType payloadJson next taken
    obtain ⟨-, rfl⟩ := (guarded_eq_some ..).mp taken
    simp only [gone]

/-- Without a `stop` a descriptor is closed after one call of the disconnect
handler, which has returned; the call finds the descriptor unregistered, and so
does the next connection that gets it. -/
theorem disconnect_notified_once (maxFrameBytes : UInt32) (actions : List (Action Pusher))
    (state : State Pusher) (unstopped : .stop ∉ actions)
    (handled : ∀ request disconnect, .start request disconnect ∈ actions →
      disconnect.isSome = true)
    (completed : run (step maxFrameBytes) initial actions = some state) :
    (∀ connection next, step maxFrameBytes state (.close connection) = some next →
      actions.countP (·.notifies connection) = 1 ∧ actions.countP (·.notified connection) = 1) ∧
    (∀ connection handler, (state.connections connection).point = .inDisconnect handler →
      Unregistered maxFrameBytes state (state.connections connection).fd) ∧
    ∀ connection fd next, step maxFrameBytes state (.insertClient connection fd) = some next →
      state.find fd = none ∧ next.find fd = some connection ∧
        (next.connections connection).subscriptions = [] := by
  have permitted : ∀ action ∈ actions, action.keepsNotifying := by
    intro action member
    cases action with
    | start request disconnect => exact handled request disconnect member
    | stop => exact absurd member unstopped
    | _ => trivial
  have noticed : Noticed actions state :=
    traced_invariant Noticed (fun _ _ _ _ => noticed_step) .initially
      (along_of_forall permitted initial) completed
  refine ⟨?_, ?_, ?_⟩
  · intro connection next closed
    obtain ⟨here, -⟩ := (guarded_eq_some ..).mp closed
    have notices := noticed.notices connection
    rw [here] at notices
    exact Prod.mk.inj notices
  · intro connection handler here
    apply unregistered_of_find
    apply noticed.listed.find_leaving
    rw [here]
    rfl
  · intro connection fd next inserted
    obtain ⟨here, rfl⟩ := (guarded_eq_some ..).mp inserted
    have unborn := unborn_of_phase (noticed.listed.registered.inserting connection fd here).2
    refine ⟨noticed.listed.find_inserting here, List.lookup_cons_self, ?_⟩
    exact noticed.bare connection unborn (by rw [here]; nofun)

/-- The peer of the only connection is gone, and the disconnect handler knows. -/
def peerGone : List (Action Unit) :=
  [.start (some 0) (some 1), .assignHandlers (some 0) (some 1), .listen true, .spawnAccept,
    .testAccept, .accept 5, .insertClient 0 5, .spawnConnection 0, .testLoop 0, .readFails 0,
    .erase 0, .testRunning 0, .copyDisconnect 0, .callDisconnect 0 1, .disconnectReturns 0 1]

theorem peer_gone_notified :
    ∃ state next, run (step 1024) initial peerGone = some state ∧
      step 1024 state (.close 0) = some next ∧ peerGone.countP (·.notifies 0) = 1 ∧
      peerGone.countP (·.notified 0) = 1 :=
  ⟨_, _, rfl, rfl, (disconnect_notified_once 1024 peerGone _ (by simp [peerGone])
    (by simp [peerGone]) rfl).1 0 _ rfl⟩

end TboxFramework.Ipc.Server

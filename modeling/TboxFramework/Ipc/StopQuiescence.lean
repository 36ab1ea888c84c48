import TboxFramework.Ipc.ServerThreads

/-!
# Handler calls after `stop`

`stop` joins the accept thread only. A connection thread copies a handler in one
section under the lock and calls the copy later, without another look at
`m_running`: what it has copied before the handlers are cleared it may still
call when `stop` has returned.
-/

namespace TboxFramework.Ipc.Server

open Interleaving

set_option autoImplicit false

variable {Pusher : Type}

def Action.starts : Action Pusher → Bool
  | .start _ _ => true
  | _ => false

/-- The thread of a connection has a handler to call, or will find one. -/
def State.Poised (state : State Pusher) (connection : ConnId) : Prop :=
  match (state.connections connection).point with
  | .reading | .copyingHandler _ => state.requestHandler.isSome = true
  | .handlerCopied _ handler => handler.isSome = true
  | .copyingDisconnect => state.disconnectHandler.isSome = true
  | .disconnectCopied handler => handler.isSome = true
  | _ => False

/-- The handlers are left alone, and called only by a thread that has copied one. -/
structure Aside (state next : State Pusher) : Prop where
  running : next.running = state.running
  control : next.control = state.control
  request : next.requestHandler = state.requestHandler
  disconnect : next.disconnectHandler = state.disconnectHandler
  invocations : next.invocations = state.invocations ∨ ∃ connection, state.Poised connection

/-- What the thread that starts and stops the server leaves behind. -/
structure Halted (state : State Pusher) : Prop where
  running : state.running = true → state.control = .idle ∨ state.control = .spawning
  cleared : state.control = .finishing →
    state.requestHandler = none ∧ state.disconnectHandler = none

theorem Halted.initially : Halted (initial : State Pusher) := ⟨nofun, nofun⟩

variable {state next : State Pusher} {action : Action Pusher} {connection : ConnId}

theorem Halted.of_settings (halted : Halted state) (same : next.settings = state.settings) :
    Halted next := by
  simp only [State.settings, Settings.mk.injEq] at same
  obtain ⟨running, request, disconnect, control⟩ := same
  constructor
  · rw [running, control]
    exact halted.running
  · rw [control, request, disconnect]
    exact halted.cleared

/-- The server is off wherever the controlling thread is not idle or starting. -/
theorem Halted.off (halted : Halted state) {point : ControlPoint} (here : state.control = point)
    (apart : point ≠ .idle ∧ point ≠ .spawning) : state.running = false := by
  by_contra on
  rcases halted.running (by simpa using on) with idle | spawning
  · exact apart.1 (here.symm.trans idle)
  · exact apart.2 (here.symm.trans spawning)

theorem Halted.of_off (off : next.running = false) (early : next.control ≠ .finishing) :
    Halted next := by
  refine ⟨?_, fun late => absurd late early⟩
  intro on
  rw [off] at on
  cases on

theorem Halted.of_open (opened : next.control = .idle ∨ next.control = .spawning) :
    Halted next := by
  refine ⟨fun _ => opened, ?_⟩
  intro late
  rw [late] at opened
  rcases opened with idle | spawning
  · cases idle
  · cases spawning

variable [DecidableEq Pusher] {maxFrameBytes : UInt32}

omit [DecidableEq Pusher] in
/-- A server that has stopped stays so until it is started. -/
theorem ControlMove.rests {settings : Settings} (move : ControlMove state action settings)
    (stopped : state.control = .stopped) (off : state.running = false)
    (unstarted : action.starts = false) : settings = state.settings := by
  cases move with
  | still => rfl
  | startsAgain | starts => cases unstarted
  | stopsAgain => simp [State.settings, stopped]
  | stops here on => exact absurd on (by simp [off])
  | listens here | listenFails here | assigns _ _ here | spawnsAccept here | wakes here
  | joins here | collects _ here | shuts _ _ here | shutsAll here | clears here
  | finishes here => simp [stopped] at here

omit [DecidableEq Pusher] in
theorem InvokeMove.poised {invocations : List Invocation}
    (move : InvokeMove state action invocations) :
    invocations = state.invocations ∨ ∃ connection, state.Poised connection := by
  cases move with
  | still => exact Or.inl rfl
  | requests connection request handler here =>
      exact Or.inr ⟨connection, by simp [State.Poised, here]⟩
  | disconnects connection handler here =>
      exact Or.inr ⟨connection, by simp [State.Poised, here]⟩

theorem step_aside (same : next.settings = state.settings)
    (taken : step maxFrameBytes state action = some next) : Aside state next := by
  simp only [State.settings, Settings.mk.injEq] at same
  obtain ⟨running, request, disconnect, control⟩ := same
  exact ⟨running, control, request, disconnect, (step_invokes taken).poised⟩

theorem halted_step (halted : Halted state)
    (taken : step maxFrameBytes state action = some next) : Halted next := by
  have controls := step_controls taken
  obtain ⟨after, same⟩ : ∃ after, next.settings = after := ⟨_, rfl⟩
  have running : next.running = after.running := congrArg Settings.running same
  have control : next.control = after.control := congrArg Settings.control same
  rw [same] at controls
  cases controls with
  | still | startsAgain => exact halted.of_settings same
  | starts request disconnect here off | stopsAgain here off =>
      exact .of_off (running.trans off) (by simp [control])
  | listens => exact .of_open (Or.inr control)
  | listenFails | spawnsAccept => exact .of_open (Or.inl control)
  | stops => exact .of_off running (by simp [control])
  | clears here =>
      have off : next.running = false := running.trans (halted.off here (by simp))
      refine ⟨fun on => absurd on (by simp [off]), fun _ => ⟨?_, ?_⟩⟩
      · exact congrArg Settings.requestHandler same
      · exact congrArg Settings.disconnectHandler same
  | assigns request disconnect here | wakes here | joins here ended | collects fds here all
  | shuts fd rest here | shutsAll here | finishes here =>
      exact .of_off (running.trans (halted.off here (by simp))) (by simp [control])

/-! ## No handler in reach -/

/-- After `stop`, with no handler in the reach of any thread. -/
structure Settled (invocations : List Invocation) (state : State Pusher) : Prop where
  stopped : state.control = .stopped
  off : state.running = false
  unpoised : ∀ connection, ¬state.Poised connection
  invocations : state.invocations = invocations

omit [DecidableEq Pusher] in
/-- While the server is off, a thread out of reach of a handler stays so. -/
theorem Move.unpoised {own : Connection Pusher} (move : Move state action connection own)
    (off : state.running = false) (aside : Aside state next)
    (same : next.connections connection = own) (unpoised : ¬state.Poised connection) :
    ¬next.Poised connection := by
  unfold State.Poised at unpoised ⊢
  rw [same, aside.request, aside.disconnect]
  cases move with
  | still => exact unpoised
  | goes _ _ _ point edge =>
      generalize here : (state.connections connection).point = before at edge unpoised
      cases edge with
      | testLoop =>
          rw [off]
          exact id
      | testRunning =>
          rw [off]
          exact id
      | copyHandler | copyDisconnect => exact unpoised
      | _ => exact id
  | reads _ request here =>
      rw [here] at unpoised
      exact unpoised
  | responds _ owner answer rest count =>
      by_cases last : rest.length ≤ count
      · simp only [if_pos last]
        exact id
      · simp only [if_neg last]
        exact id
  | born | spawned | returns | skips => exact id
  | receives | subscribes | unsubscribes | subscriberReads | subscriberFails => exact unpoised

theorem settled_step {invocations : List Invocation} (settled : Settled invocations state)
    (unstarted : action.starts = false)
    (taken : step maxFrameBytes state action = some next) : Settled invocations next := by
  have same := (step_controls taken).rests settled.stopped settled.off unstarted
  have aside := step_aside same taken
  refine ⟨aside.control.trans settled.stopped, aside.running.trans settled.off, ?_, ?_⟩
  · intro connection
    exact (step_moves taken connection).unpoised settled.off aside rfl
      (settled.unpoised connection)
  · rcases aside.invocations with same | ⟨connection, poised⟩
    · exact same.trans settled.invocations
    · exact absurd poised (settled.unpoised connection)

/-! ## A handler in reach -/

/-- Some continuation without a `start` begins a handler call. -/
def Invokes (maxFrameBytes : UInt32) (state : State Pusher) : Prop :=
  ∃ later last, (∀ action ∈ later, action.starts = false) ∧
    run (step maxFrameBytes) state later = some last ∧ last.invocations ≠ state.invocations

theorem Invokes.at_once (action : Action Pusher) (unstarted : action.starts = false)
    (taken : step maxFrameBytes state action = some next) (invocation : Invocation)
    (calls : next.invocations = state.invocations ++ [invocation]) :
    Invokes maxFrameBytes state := by
  refine ⟨[action], next, ?_, by rw [run_cons, taken]; rfl, ?_⟩
  · intro other member
    rw [List.mem_singleton.mp member]
    exact unstarted
  · rw [calls]
    simp

theorem Invokes.after (action : Action Pusher) (unstarted : action.starts = false)
    (taken : step maxFrameBytes state action = some next)
    (same : next.invocations = state.invocations) (invokes : Invokes maxFrameBytes next) :
    Invokes maxFrameBytes state := by
  obtain ⟨later, last, each, completed, different⟩ := invokes
  refine ⟨action :: later, last, ?_, run_cons_eq_some.mpr ⟨next, taken, completed⟩,
    same ▸ different⟩
  intro other member
  rcases List.mem_cons.mp member with rfl | member
  · exact unstarted
  · exact each other member

theorem copied_invokes {request : Request} {handler : HandlerId}
    (here : (state.connections connection).point = .handlerCopied request (some handler)) :
    Invokes maxFrameBytes state :=
  .at_once (.callHandler connection request handler) rfl (guarded_of _ _ here)
    (.request handler connection) rfl

theorem copying_invokes {request : Request} (found : state.requestHandler.isSome = true)
    (here : (state.connections connection).point = .copyingHandler request) :
    Invokes maxFrameBytes state := by
  obtain ⟨handler, found⟩ := Option.isSome_iff_exists.mp found
  refine .after (.copyHandler connection request) rfl (guarded_of _ _ here) rfl ?_
  exact copied_invokes (by rw [State.point_set_point, found])

theorem reading_invokes (found : state.requestHandler.isSome = true)
    (here : (state.connections connection).point = .reading) : Invokes maxFrameBytes state := by
  refine .after (.readRequest connection ⟨0, []⟩) rfl (guarded_of _ _ here) rfl ?_
  have copying : ((state.modify connection fun own =>
      { own with point := .copyingHandler ⟨0, []⟩, requests := own.requests + 1 }).connections
        connection).point = .copyingHandler ⟨0, []⟩ := by
    simp only [State.modify, Function.update_self]
  exact copying_invokes found copying

theorem disconnect_copied_invokes {handler : HandlerId}
    (here : (state.connections connection).point = .disconnectCopied (some handler)) :
    Invokes maxFrameBytes state :=
  .at_once (.callDisconnect connection handler) rfl (guarded_of _ _ here)
    (.disconnect handler connection) rfl

theorem copying_disconnect_invokes (found : state.disconnectHandler.isSome = true)
    (here : (state.connections connection).point = .copyingDisconnect) :
    Invokes maxFrameBytes state := by
  obtain ⟨handler, found⟩ := Option.isSome_iff_exists.mp found
  refine .after (.copyDisconnect connection) rfl (guarded_of _ _ here) rfl ?_
  exact disconnect_copied_invokes (by rw [State.point_set_point, found])

theorem poised_invokes (poised : state.Poised connection) : Invokes maxFrameBytes state := by
  unfold State.Poised at poised
  split at poised
  · rename_i here
    exact reading_invokes poised here
  · rename_i request here
    exact copying_invokes poised here
  · rename_i request handler here
    obtain ⟨handler, rfl⟩ := Option.isSome_iff_exists.mp poised
    exact copied_invokes here
  · rename_i here
    exact copying_disconnect_invokes poised here
  · rename_i handler here
    obtain ⟨handler, rfl⟩ := Option.isSome_iff_exists.mp poised
    exact disconnect_copied_invokes here
  · cases poised

/-- No continuation without a `start` begins a handler call. -/
def Quiescent (maxFrameBytes : UInt32) (state : State Pusher) : Prop :=
  ∀ later last, (∀ action ∈ later, action.starts = false) →
    run (step maxFrameBytes) state later = some last → last.invocations = state.invocations

theorem Halted.quiescent_iff (halted : Halted state) (returned : state.control = .stopped) :
    Quiescent maxFrameBytes state ↔ ∀ connection, ¬state.Poised connection := by
  constructor
  · intro quiescent connection poised
    obtain ⟨later, last, each, continued, different⟩ := poised_invokes poised
    exact different (quiescent later last each continued)
  · intro unpoised later last each continued
    have off := halted.off returned (by simp)
    have settled : Settled state.invocations last :=
      run_invariant (Settled state.invocations) (fun _ _ _ => settled_step)
        ⟨returned, off, unpoised, rfl⟩ (along_of_forall each state) continued
    exact settled.invocations

theorem run_halted {actions : List (Action Pusher)}
    (completed : run (step maxFrameBytes) initial actions = some state) : Halted state :=
  reachable_invariant Halted (fun _ _ _ => halted_step) Halted.initially completed

/-- Once `stop` has returned, no handler call begins any more exactly when it has
left no thread with a handler in its reach. -/
theorem quiescent_iff_unpoised (maxFrameBytes : UInt32) (actions : List (Action Pusher))
    (state : State Pusher) (completed : run (step maxFrameBytes) initial actions = some state)
    (returned : state.control = .stopped) :
    (∀ later last, (∀ action ∈ later, action.starts = false) →
        run (step maxFrameBytes) state later = some last →
        last.invocations = state.invocations) ↔
      ∀ connection, ¬state.Poised connection :=
  (run_halted completed).quiescent_iff returned

omit [DecidableEq Pusher] in
/-- When a `stop` that found the server running comes to its end, the handlers in
reach are those that have been copied and not called. -/
theorem finishing_poised_iff (halted : Halted state) (finishing : state.control = .finishing)
    (connection : ConnId) :
    state.Poised connection ↔ ∃ handler,
      (∃ request, (state.connections connection).point = .handlerCopied request (some handler)) ∨
        (state.connections connection).point = .disconnectCopied (some handler) := by
  obtain ⟨request, disconnect⟩ := halted.cleared finishing
  unfold State.Poised
  rw [request, disconnect]
  cases (state.connections connection).point <;> simp [Option.isSome_iff_exists]

/-- Such a `stop` leaves no handler call to come exactly when it leaves no copied handler. -/
theorem finished_stop_quiescent_iff {actions : List (Action Pusher)}
    (completed : run (step maxFrameBytes) initial actions = some state)
    (returns : step maxFrameBytes state .finishStop = some next) :
    Quiescent maxFrameBytes next ↔ ¬∃ connection handler,
      (∃ request, (state.connections connection).point = .handlerCopied request (some handler)) ∨
        (state.connections connection).point = .disconnectCopied (some handler) := by
  have halted := run_halted completed
  have stopped := halted_step halted returns
  obtain ⟨finishing, rfl⟩ := (guarded_eq_some ..).mp returns
  rw [stopped.quiescent_iff rfl, not_exists]
  apply forall_congr'
  intro connection
  -- the return itself changes nothing that a handler is reached by
  exact not_congr (finishing_poised_iff halted finishing connection)

/-- A whole `stop` of a server whose only connection has descriptor 5. -/
def stopping : List (Action Unit) :=
  [.stop, .wake, .testAccept, .join, .collect [5], .shutdown 5 [], .shutdownDone, .clear,
    .finishStop]

/-- The handler of the only connection has run and its response is written. -/
def servedRequest : List (Action Unit) :=
  firstRequest 5 ⟨1, []⟩ ++ [.callHandler 0 ⟨1, []⟩ 0, .handlerReturns 0 ⟨1, []⟩ 0 (some []),
    .findState 0 (0, []), .lockWrite 0 0 (0, []),
    .sendResponse 0 0 (0, []) (encodeResponse 0 []) 8, .testLoop 0]

theorem served_request_quiescent :
    ∃ state, run (step 1024) initial (servedRequest ++ stopping) = some state ∧
      ∀ later last, (∀ action ∈ later, action.starts = false) →
        run (step 1024) state later = some last → last.invocations = state.invocations := by
  refine ⟨_, rfl, (quiescent_iff_unpoised 1024 (servedRequest ++ stopping) _ rfl rfl).mpr ?_⟩
  intro connection
  cases connection with
  | zero => nofun
  | succ later => exact id

/-- The thread has copied the handler before `stop` and calls it behind it. -/
theorem copied_handler_called_after_stop :
    ∃ state, run (step 1024) initial (firstRequest 5 ⟨1, []⟩ ++ stopping) = some state ∧
      state.control = .stopped ∧ state.running = false ∧ state.invocations = [] ∧
      ∃ last, run (step 1024) state [.callHandler 0 ⟨1, []⟩ 0] = some last ∧
        last.invocations = [.request 0 0] :=
  ⟨_, rfl, rfl, rfl, rfl, _, rfl, rfl⟩

end TboxFramework.Ipc.Server

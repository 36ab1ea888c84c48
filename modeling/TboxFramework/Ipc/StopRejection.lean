import TboxFramework.Ipc.ServerClients

/-!
# A stop is not a rejection

`connectionLoop` answers a request with status 306 when the handler throws, and
also when it finds no handler. `stop` clears the handlers only after every
connection that is still in `m_clients` has been shut down, so an answer of the
second kind never leaves the server.
-/

namespace TboxFramework.Ipc.Server

open Interleaving

set_option autoImplicit false

variable {Pusher : Type}

/-- What `connectionLoop` makes an answer of. -/
inductive Origin
  | handler (outcome : Option Bytes)
  | skipped
  deriving DecidableEq, Repr

def Origin.answer : Origin → Result
  | .handler outcome => handlerResult outcome
  | .skipped => handlerResult none

def Action.origin (connection : ConnId) : Action Pusher → Option Origin
  | .handlerReturns other _ _ outcome =>
      if other = connection then some (.handler outcome) else none
  | .skipHandler other _ => if other = connection then some .skipped else none
  | _ => none

/-- The origin of the last answer to a connection. -/
def originOf (connection : ConnId) (past : List (Action Pusher)) : Option Origin :=
  (past.filterMap (·.origin connection)).getLast?

def ConnPoint.answering : ConnPoint → Option Result
  | .findingState answer | .lockingWrite _ answer | .writing _ answer _ => some answer
  | _ => none

/-- Every connection that is served has been shut down, or is about to be. -/
def ShutOff (state : State Pusher) (fds : List Fd) : Prop :=
  ∀ connection, (state.connections connection).point.phase = .serving →
    (state.connections connection).shutDown = true ∨ (state.connections connection).fd ∈ fds

/-- A `start` is given a request handler. -/
def Action.handles : Action Pusher → Prop
  | .start request _ => request.isSome = true
  | _ => True

/-- A server that starts has a request handler. -/
def Settings.handling (settings : Settings) : Prop :=
  match settings.control with
  | .assigning request _ => request.isSome = true
  | .listening | .spawning => settings.requestHandler.isSome = true
  | _ => True

structure Unrejecting (past : List (Action Pusher)) (state : State Pusher) : Prop where
  listed : Listed state
  handling : state.settings.handling
  cleared : state.requestHandler = none → state.accepting = .absent ∧ ShutOff state []
  shutting : ∀ fds, state.control = .shutting fds → ShutOff state fds
  clearing : state.control = .clearing → ShutOff state []
  copied : ∀ connection request,
    (state.connections connection).point = .handlerCopied request none →
    (state.connections connection).shutDown = true
  origin : ∀ connection answer, (state.connections connection).point.answering = some answer →
    ∃ origin, originOf connection past = some origin ∧ answer = origin.answer ∧
      (origin = .skipped → (state.connections connection).shutDown = true)

theorem Unrejecting.initially : Unrejecting [] (initial : State Pusher) where
  listed := .initially
  handling := trivial
  cleared := fun _ => ⟨rfl, nofun⟩
  shutting := nofun
  clearing := nofun
  copied := nofun
  origin := nofun

variable {past : List (Action Pusher)} {state next : State Pusher} {action : Action Pusher}
  {connection : ConnId} {own : Connection Pusher} {fds : List Fd}

theorem origin_snoc (connection : ConnId) (past : List (Action Pusher)) (action : Action Pusher) :
    originOf connection (past ++ [action]) =
      (action.origin connection).or (originOf connection past) := by
  cases found : action.origin connection with
  | none => simp [originOf, List.filterMap_append, found]
  | some origin => simp [originOf, List.filterMap_append, found]

theorem origin_aside (other : action.mover ≠ some connection) :
    action.origin connection = none := by
  cases action with
  | handlerReturns mover request handler outcome =>
      exact if_neg (by simpa [Action.mover] using other)
  | skipHandler mover request => exact if_neg (by simpa [Action.mover] using other)
  | _ => rfl

namespace Move

/-- What has been shut down stays so. -/
theorem stays_shut (move : Move state action connection own)
    (old : connection ≠ state.nextConnection)
    (shut : (state.connections connection).shutDown = true) : own.shutDown = true := by
  cases move with
  | still _ _ writer shutDown stays aside => exact stays shut
  | born => exact absurd rfl old
  | _ => exact shut

/-- A thread that finds no handler serves a connection that has been shut down. -/
theorem copies_none (move : Move state action connection own)
    (unrejecting : Unrejecting past state) {request : Request}
    (copied : own.point = .handlerCopied request none) : own.shutDown = true := by
  cases move with
  | still _ _ writer shutDown stays aside =>
      exact stays (unrejecting.copied connection request copied)
  | goes _ _ writer point edge =>
      generalize here : (state.connections connection).point = before at edge
      cases edge with
      | testLoop | testRunning =>
          simp only at copied
          split at copied <;> cases copied
      | copyHandler request =>
          have none := (ConnPoint.handlerCopied.inj copied).2
          have shut := (unrejecting.cleared none).2 connection (by rw [here]; rfl)
          simpa using shut
      | _ => cases copied
  | responds _ owner answer rest count writer here =>
      simp only at copied
      split at copied <;> cases copied
  | born | spawned | reads | returns | skips => cases copied
  | _ => exact unrejecting.copied connection request copied

theorem originates (move : Move state action connection own)
    (unrejecting : Unrejecting past state) {answer : Result}
    (answering : own.point.answering = some answer) :
    ∃ origin, originOf connection (past ++ [action]) = some origin ∧ answer = origin.answer ∧
      (origin = .skipped → own.shutDown = true) := by
  have quiet (silent : action.origin connection = none)
      (before : (state.connections connection).point.answering = some answer)
      (stays : (state.connections connection).shutDown = true → own.shutDown = true) :
      ∃ origin, originOf connection (past ++ [action]) = some origin ∧ answer = origin.answer ∧
        (origin = .skipped → own.shutDown = true) := by
    obtain ⟨origin, found, same, shut⟩ := unrejecting.origin connection answer before
    refine ⟨origin, ?_, same, fun skipped => stays (shut skipped)⟩
    rw [origin_snoc, silent]
    exact found
  cases move with
  | still _ _ writer shutDown stays aside => exact quiet (origin_aside aside) answering stays
  | goes _ _ writer point edge =>
      generalize here : (state.connections connection).point = before at edge
      cases edge with
      | testLoop | testRunning =>
          simp only at answering
          split at answering <;> cases answering
      | found _ owner registered => exact quiet rfl (by rw [here]; exact answering) id
      | lockWrite owner _ free => exact quiet rfl (by rw [here]; exact answering) id
      | _ => cases answering
  | born | spawned | reads => cases answering
  | returns _ request handler outcome here =>
      cases answering
      refine ⟨.handler outcome, ?_, rfl, nofun⟩
      simp [origin_snoc, Action.origin]
  | skips _ request here =>
      cases answering
      refine ⟨.skipped, ?_, rfl, fun _ => unrejecting.copied connection request here⟩
      simp [origin_snoc, Action.origin]
  | responds _ owner _ rest count writer here =>
      simp only at answering
      split at answering
      · cases answering
      · exact quiet rfl (by rw [here]; exact answering) id
  | subscribes | unsubscribes | receives | subscriberReads | subscriberFails =>
      exact quiet rfl answering id

/-- Nothing more is sent on a connection that has been shut down. -/
theorem wire_shut (move : Move state action connection own)
    (old : connection ≠ state.nextConnection)
    (shut : (state.connections connection).shutDown = true) :
    own.wire = (state.connections connection).wire := by
  cases move with
  | born => exact absurd rfl old
  | responds _ owner answer rest count writer here reached =>
      rw [reached.2] at shut
      cases shut
  | receives _ target pusher eventType payloadJson fd rest targets anySent count writer here
      reached =>
      rw [reached.2] at shut
      cases shut
  | _ => rfl

end Move

theorem ControlMove.handling {after : Settings} (move : ControlMove state action after)
    (permitted : action.handles) (before : state.settings.handling) : after.handling := by
  cases move with
  | still | startsAgain => exact before
  | starts request disconnect here off => exact permitted
  | assigns request disconnect here =>
      simp only [Settings.handling, State.settings, here] at before
      exact before
  | listens here =>
      simp only [Settings.handling, State.settings, here] at before
      exact before
  | _ => trivial

/-- The snapshot of `m_clients` has every connection that is served. -/
theorem Listed.collects (listed : Listed state)
    (all : fds.Perm (state.clients.map Prod.fst)) : ShutOff state fds := by
  intro connection serving
  have entry := State.mem_of_find (listed.listed connection (Or.inl serving))
  exact Or.inr (all.mem_iff.mpr (List.mem_map.mpr ⟨_, entry, rfl⟩))

variable [DecidableEq Pusher] {maxFrameBytes : UInt32}

/-- What is served after a step, while nobody accepts, was served before. -/
theorem Listed.served_before (listed : Listed state) (absent : state.accepting = .absent)
    (taken : step maxFrameBytes state action = some next)
    (serving : (next.connections connection).point.phase = .serving) :
    (state.connections connection).point.phase = .serving ∧
      (next.connections connection).fd = (state.connections connection).fd ∧
      ((state.connections connection).shutDown = true →
        (next.connections connection).shutDown = true) := by
  have move := step_moves taken connection
  have before : (state.connections connection).point.phase = .serving := by
    rcases move.serving_before serving with before | spawning
    · exact before
    · rw [absent] at spawning
      cases spawning
  have old := Nat.ne_of_lt (listed.older (Or.inl before))
  exact ⟨before, move.keeps_fd old, move.stays_shut old⟩

theorem ShutOff.after (shut : ShutOff state fds) (listed : Listed state)
    (absent : state.accepting = .absent)
    (taken : step maxFrameBytes state action = some next) : ShutOff next fds := by
  intro connection serving
  obtain ⟨before, fd, stays⟩ := listed.served_before absent taken serving
  rw [fd]
  exact (shut connection before).imp_left stays

/-- `shutdown` reaches the connection that has the descriptor. -/
theorem ShutOff.shut {fd : Fd} (shut : ShutOff state (fd :: fds)) (listed : Listed state)
    (absent : state.accepting = .absent)
    (taken : step maxFrameBytes state (.shutdown fd fds) = some next) : ShutOff next fds := by
  intro connection serving
  obtain ⟨before, same, stays⟩ := listed.served_before absent taken serving
  rw [same]
  rcases shut connection before with done | waiting
  · exact Or.inl (stays done)
  · rcases List.mem_cons.mp waiting with mine | later
    · left
      have opened := listed.registered.alive connection (Or.inl before)
      rw [mine] at opened
      obtain ⟨-, rfl⟩ := (guarded_eq_some ..).mp taken
      simp only [opened, State.setControl, State.modify, Function.update_self]
    · exact Or.inr later

/-- While `stop` works on its snapshot, what is served is in the rest of it or shut down. -/
theorem shutting_step (unrejecting : Unrejecting past state)
    (taken : step maxFrameBytes state action = some next) (fds : List Fd)
    (shutting : next.control = .shutting fds) : ShutOff next fds := by
  have listed := unrejecting.listed
  have controls := step_controls taken
  obtain ⟨after, same⟩ : ∃ after, next.settings = after := ⟨_, rfl⟩
  have control : next.control = after.control := congrArg Settings.control same
  rw [same] at controls
  rw [control] at shutting
  cases controls with
  | still | startsAgain =>
      exact (unrejecting.shutting fds shutting).after listed
        (listed.controlled.absent shutting (by simp)) taken
  | collects others here all =>
      obtain rfl := ControlPoint.shutting.inj shutting
      exact (listed.collects all).after listed (listed.controlled.absent here (by simp)) taken
  | shuts fd rest here =>
      obtain rfl := ControlPoint.shutting.inj shutting
      exact (unrejecting.shutting _ here).shut listed
        (listed.controlled.absent here (by simp)) taken
  | _ => cases shutting

theorem clearing_step (unrejecting : Unrejecting past state)
    (taken : step maxFrameBytes state action = some next) (clearing : next.control = .clearing) :
    ShutOff next [] := by
  have listed := unrejecting.listed
  have controls := step_controls taken
  obtain ⟨after, same⟩ : ∃ after, next.settings = after := ⟨_, rfl⟩
  have control : next.control = after.control := congrArg Settings.control same
  rw [same] at controls
  rw [control] at clearing
  cases controls with
  | still | startsAgain =>
      exact (unrejecting.clearing clearing).after listed
        (listed.controlled.absent clearing (by simp)) taken
  | shutsAll here =>
      exact (unrejecting.shutting [] here).after listed
        (listed.controlled.absent here (by simp)) taken
  | _ => cases clearing

/-- The handler is missing only after `stop` has taken it away. -/
theorem cleared_step (unrejecting : Unrejecting past state)
    (taken : step maxFrameBytes state action = some next) (missing : next.requestHandler = none) :
    next.accepting = .absent ∧ ShutOff next [] := by
  have listed := unrejecting.listed
  have handling := unrejecting.handling
  unfold Settings.handling State.settings at handling
  have controls := step_controls taken
  have tables := step_tables taken
  obtain ⟨after, same⟩ : ∃ after, next.settings = after := ⟨_, rfl⟩
  have request : next.requestHandler = after.requestHandler :=
    congrArg Settings.requestHandler same
  rw [same] at controls
  have cleared (before : state.requestHandler = none) (other : action ≠ .spawnAccept) :
      next.accepting = .absent ∧ ShutOff next [] := by
    obtain ⟨absent, shut⟩ := unrejecting.cleared before
    exact ⟨tables.absent other absent, shut.after listed absent taken⟩
  rw [request] at missing
  cases controls with
  | still _ aside =>
      apply cleared missing
      rintro rfl
      cases aside
  | assigns given disconnect here =>
      simp only [here] at handling
      rw [show given = none from missing] at handling
      cases handling
  | spawnsAccept here =>
      simp only [here] at handling
      rw [show state.requestHandler = none from missing] at handling
      cases handling
  | clears here =>
      have absent := listed.controlled.absent here (by simp)
      exact ⟨tables.absent nofun absent, (unrejecting.clearing here).after listed absent taken⟩
  | _ => exact cleared missing nofun

theorem unrejecting_step (unrejecting : Unrejecting past state) (permitted : action.handles)
    (taken : step maxFrameBytes state action = some next) :
    Unrejecting (past ++ [action]) next := by
  exact {
    listed := listed_step unrejecting.listed taken
    handling := (step_controls taken).handling permitted unrejecting.handling
    cleared := cleared_step unrejecting taken
    shutting := shutting_step unrejecting taken
    clearing := clearing_step unrejecting taken
    copied := fun connection _ => (step_moves taken connection).copies_none unrejecting
    origin := fun connection _ => (step_moves taken connection).originates unrejecting }

/-! ## Runs -/

/-- The wire of a connection that has been shut down stays as it is. -/
theorem wire_stays_shut {last : State Pusher} {later : List (Action Pusher)}
    (recent : connection < state.nextConnection)
    (shut : (state.connections connection).shutDown = true)
    (completed : run (step maxFrameBytes) state later = some last) :
    (last.connections connection).wire = (state.connections connection).wire := by
  have kept : ∀ (before : State Pusher) (action : Action Pusher) (after : State Pusher),
      (connection < before.nextConnection ∧
      (before.connections connection).shutDown = true ∧
      (before.connections connection).wire = (state.connections connection).wire) →
      step maxFrameBytes before action = some after →
      connection < after.nextConnection ∧ (after.connections connection).shutDown = true ∧
        (after.connections connection).wire = (state.connections connection).wire := by
    intro before action after ⟨recent, shut, wire⟩ taken
    have move := step_moves taken connection
    exact ⟨Nat.lt_of_lt_of_le recent (step_opens taken).recent,
      move.stays_shut (Nat.ne_of_lt recent) shut,
      (move.wire_shut (Nat.ne_of_lt recent) shut).trans wire⟩
  exact (reachable_invariant _ kept ⟨recent, shut, rfl⟩ completed).2.2

/-- If every `start` is given a request handler, every response byte that leaves
the server was made by the handler, and with status 306 because it threw; once a
thread finds no handler, its peer gets no further byte. -/
theorem rejections_come_from_handlers (maxFrameBytes : UInt32) (actions : List (Action Pusher))
    (state : State Pusher)
    (handled : ∀ request disconnect, .start request disconnect ∈ actions →
      request.isSome = true)
    (completed : run (step maxFrameBytes) initial actions = some state) :
    (∀ connection owner answer rest count next,
      step maxFrameBytes state (.sendResponse connection owner answer rest count) = some next →
      ∃ outcome, originOf connection actions = some (.handler outcome) ∧
        answer = handlerResult outcome ∧
        (answer.1 = IpcError.kHandlerFailed.code → outcome = none)) ∧
    ∀ connection request next later last,
      step maxFrameBytes state (.skipHandler connection request) = some next →
      run (step maxFrameBytes) next later = some last →
      (last.connections connection).wire = (state.connections connection).wire := by
  have permitted : ∀ action ∈ actions, action.handles := by
    intro action member
    cases action with
    | start request disconnect => exact handled request disconnect member
    | _ => trivial
  have unrejecting : Unrejecting actions state :=
    traced_invariant Unrejecting (fun _ _ _ _ => unrejecting_step) .initially
      (along_of_forall permitted initial) completed
  constructor
  · intro connection owner answer rest count next sent
    obtain ⟨⟨here, -, -, reached⟩, -⟩ := (guarded_eq_some ..).mp sent
    obtain ⟨origin, found, rfl, shut⟩ := unrejecting.origin connection answer (by rw [here]; rfl)
    cases origin with
    | skipped =>
        rw [reached.2] at shut
        cases shut rfl
    | handler outcome =>
        refine ⟨outcome, found, rfl, ?_⟩
        intro failed
        cases outcome with
        | none => rfl
        | some responseJson => exact absurd (show (0 : Int32) = 306 from failed) (by decide)
  · intro connection request next later last skipped completed
    obtain ⟨here, -⟩ := (guarded_eq_some ..).mp skipped
    have serving : (state.connections connection).point.phase = .serving := by rw [here]; rfl
    have recent := unrejecting.listed.older (Or.inl serving)
    have shut := unrejecting.copied connection request here
    exact wire_stays_shut recent shut (run_cons_eq_some.mpr ⟨next, skipped, completed⟩)

/-- Two requests are read before a `stop`; one of the threads is in its handler, which throws,
and is about to write the response while the other connections are being collected. -/
def throwing : List (Action Unit) :=
  firstRequest 5 ⟨1, []⟩ ++ [.callHandler 0 ⟨1, []⟩ 0, .testAccept, .accept 6, .insertClient 1 6,
    .spawnConnection 1, .testLoop 1, .readRequest 1 ⟨2, []⟩, .stop, .wake, .testAccept, .join,
    .collect [6, 5], .handlerReturns 0 ⟨1, []⟩ 0 none, .findState 0 (306, []),
    .lockWrite 0 0 (306, [])]

/-- The other thread comes to its handler after all of them have been cleared. -/
def unhandled : List (Action Unit) :=
  throwing ++ [.sendResponse 0 0 (306, []) (encodeResponse 306 []) 8, .shutdown 6 [5],
    .shutdown 5 [], .shutdownDone, .clear, .copyHandler 1 ⟨2, []⟩]

/-- Its answer does not get out any more. -/
def unheard : List (Action Unit) :=
  [.findState 1 (306, []), .lockWrite 1 1 (306, []),
    .sendResponseFails 1 1 (306, []) (encodeResponse 306 []), .erase 1]

theorem thrown_request_rejected :
    (∃ state next, run (step 1024) initial throwing = some state ∧
      step 1024 state (.sendResponse 0 0 (306, []) (encodeResponse 306 []) 8) = some next ∧
      ∃ outcome, originOf 0 throwing = some (.handler outcome) ∧
        (306, []) = handlerResult outcome ∧
        ((306 : Int32) = IpcError.kHandlerFailed.code → outcome = none)) ∧
    ∃ state next last, run (step 1024) initial unhandled = some state ∧
      step 1024 state (.skipHandler 1 ⟨2, []⟩) = some next ∧
      run (step 1024) next unheard = some last ∧
      (last.connections 1).wire = (state.connections 1).wire := by
  constructor
  · exact ⟨_, _, rfl, rfl, (rejections_come_from_handlers 1024 throwing _
      (by simp [throwing, firstRequest]) rfl).1 0 0 (306, []) (encodeResponse 306 []) 8 _ rfl⟩
  · exact ⟨_, _, _, rfl, rfl, rfl, (rejections_come_from_handlers 1024 unhandled _
      (by simp [unhandled, throwing, firstRequest]) rfl).2 1 ⟨2, []⟩ _ unheard _ rfl rfl⟩

end TboxFramework.Ipc.Server

import TboxFramework.Ipc.ServerClients

/-!
# Who holds a `write_mutex`

A connection thread and the pushes take the `write_mutex` of a `ClientState`
around every frame. The `ClientState` that a connection thread finds is its own;
the one that a push holds was made for the connection that had its descriptor
then.
-/

namespace TboxFramework.Ipc.Server

open Interleaving

set_option autoImplicit false

variable {Pusher : Type}

/-- The `write_mutex` that an action takes, and for whom. -/
def Action.locks : Action Pusher → Option (ConnId × Writer Pusher)
  | .lockWrite connection owner _ => some (owner, .connection connection)
  | .lockPush pusher _ _ _ target _ _ => some (target, .pusher pusher)
  | _ => none

/-- The `write_mutex` that an action leaves, and who left it. -/
def Action.unlocks : Action Pusher → Option (ConnId × Writer Pusher)
  | .sendResponse connection owner _ rest count =>
      if rest.length ≤ count then some (owner, .connection connection) else none
  | .sendResponseFails connection owner _ _ => some (owner, .connection connection)
  | .sendEvent pusher _ _ _ target rest _ _ count =>
      if rest.length ≤ count then some (target, .pusher pusher) else none
  | .sendEventFails pusher _ _ _ target _ _ _ => some (target, .pusher pusher)
  | _ => none

/-- What an action can make of one `write_mutex`. -/
inductive LockMove (state : State Pusher) :
    Action Pusher → ConnId → Option (Writer Pusher) → Prop
  | still (action : Action Pusher) (connection : ConnId)
      (untaken : ∀ writer, action.locks ≠ some (connection, writer))
      (unleft : ∀ writer, action.unlocks ≠ some (connection, writer)) :
      LockMove state action connection (state.connections connection).writeMutex
  | born (fd : Fd) : LockMove state (.accept fd) state.nextConnection none
  | taken (action : Action Pusher) (connection : ConnId) (writer : Writer Pusher)
      (locks : action.locks = some (connection, writer))
      (free : (state.connections connection).writeMutex = none) :
      LockMove state action connection (some writer)
  | left (action : Action Pusher) (connection : ConnId) (writer : Writer Pusher)
      (unlocks : action.unlocks = some (connection, writer)) :
      LockMove state action connection none

variable {state next : State Pusher} {action : Action Pusher} {connection : ConnId}

namespace State

@[simp] theorem write_mutex_set_point (state : State Pusher) (changed : ConnId)
    (point : ConnPoint) (connection : ConnId) :
    ((state.setPoint changed point).connections connection).writeMutex =
      (state.connections connection).writeMutex :=
  modify_field (fun own => own.writeMutex) state changed _ rfl connection

@[simp] theorem write_mutex_sent (state : State Pusher) (changed : ConnId) (chunk : Chunk)
    (connection : ConnId) :
    ((state.sent changed chunk).connections connection).writeMutex =
      (state.connections connection).writeMutex :=
  modify_field (fun own => own.writeMutex) state changed _ rfl connection

@[simp] theorem write_mutex_set_write_mutex (state : State Pusher) (owner : ConnId)
    (writer : Option (Writer Pusher)) (connection : ConnId) :
    ((state.setWriteMutex owner writer).connections connection).writeMutex =
      if connection = owner then writer else (state.connections connection).writeMutex := by
  rw [setWriteMutex, connections_modify]
  split <;> rfl

end State

namespace LockMove

/-- An action that takes and leaves no `write_mutex`. -/
theorem of_same (same : (next.connections connection).writeMutex =
      (state.connections connection).writeMutex)
    (untaken : action.locks = none) (unleft : action.unlocks = none) :
    LockMove state action connection (next.connections connection).writeMutex := by
  rw [same]
  exact .still action connection (by simp [untaken]) (by simp [unleft])

theorem of_modify (changed : ConnId) (change : Connection Pusher → Connection Pusher)
    (kept : ∀ own, (change own).writeMutex = own.writeMutex)
    (untaken : action.locks = none) (unleft : action.unlocks = none) :
    LockMove state action connection
      ((state.modify changed change).connections connection).writeMutex :=
  of_same (State.modify_field (fun own => own.writeMutex) state changed change (kept _) connection)
    untaken unleft

/-- An action that changes one `write_mutex`. -/
theorem of_set {owner : ConnId} {writer : Option (Writer Pusher)}
    (mine : LockMove state action owner writer)
    (untaken : ∀ pair ∈ action.locks, pair.1 = owner)
    (unleft : ∀ pair ∈ action.unlocks, pair.1 = owner)
    (same : (next.connections connection).writeMutex =
      if connection = owner then writer else (state.connections connection).writeMutex) :
    LockMove state action connection (next.connections connection).writeMutex := by
  rw [same]
  split
  · rename_i owned
    exact owned ▸ mine
  · rename_i other
    apply LockMove.still
    · intro writer taken
      exact other (untaken _ taken)
    · intro writer left
      exact other (unleft _ left)

end LockMove

/-! ## Holders -/

/-- The `ClientState` whose `write_mutex` a connection thread needs or has. -/
def ConnPoint.owner : ConnPoint → Option ConnId
  | .lockingWrite owner _ | .writing owner _ _ => some owner
  | _ => none

/-- The `ClientState` in whose section under `write_mutex` a connection thread is. -/
def ConnPoint.holding : ConnPoint → Option ConnId
  | .writing owner _ _ => some owner
  | _ => none

/-- The `ClientState` in whose section under `write_mutex` a push is. -/
def PushPoint.holding : PushPoint → Option ConnId
  | .writing _ _ _ target _ _ _ => some target
  | _ => none

def State.holding (state : State Pusher) : Writer Pusher → Option ConnId
  | .connection connection => (state.connections connection).point.holding
  | .pusher pusher => (state.pushes pusher).holding

structure Locked (state : State Pusher) : Prop where
  listed : Listed state
  owner : ∀ connection owner, (state.connections connection).point.owner = some owner →
    owner = connection
  target : ∀ pusher, ∀ entry ∈ (state.pushes pusher).awaited,
    entry.2.2 < state.nextConnection ∧ ((state.connections entry.2.2).point ≠ .done →
      state.descriptors entry.2.1 = some entry.2.2)
  held : ∀ writer owner, state.holding writer = some owner →
    (state.connections owner).writeMutex = some writer

theorem Locked.initially : Locked (initial : State Pusher) := by
  refine ⟨.initially, nofun, nofun, ?_⟩
  intro writer owner holding
  cases writer <;> cases holding

namespace Action

theorem mover_of_unlocks {owner : ConnId}
    (left : action.unlocks = some (owner, .connection connection)) :
    action.mover = some connection := by
  cases action with
  | sendResponse mover mine answer rest count =>
      simp only [unlocks] at left
      split at left <;> cases left
      rfl
  | sendResponseFails mover mine answer rest =>
      cases left
      rfl
  | sendEvent pusher eventType payloadJson fd target rest targets anySent count =>
      simp only [unlocks] at left
      split at left <;> cases left
  | _ => cases left

theorem pusher_of_unlocks {pusher : Pusher} {owner : ConnId}
    (left : action.unlocks = some (owner, .pusher pusher)) : action.pusher = some pusher := by
  cases action with
  | sendEvent mover eventType payloadJson fd target rest targets anySent count =>
      simp only [unlocks] at left
      split at left <;> cases left
      rfl
  | sendEventFails mover eventType payloadJson fd target rest targets anySent =>
      cases left
      rfl
  | sendResponse mover mine answer rest count =>
      simp only [unlocks] at left
      split at left <;> cases left
  | _ => cases left

theorem unlocks_of_locks {pair : ConnId × Writer Pusher} (locks : action.locks = some pair) :
    action.unlocks = none := by
  cases action with
  | lockWrite | lockPush => rfl
  | _ => cases locks

end Action

/-- A connection thread gets into a section by taking the lock, and leaves it with
the lock. -/
theorem Move.holding {own : Connection Pusher} (move : Move state action connection own)
    {owner : ConnId} (holding : own.point.holding = some owner) :
    action.locks = some (owner, .connection connection) ∨
      (state.connections connection).point.holding = some owner ∧
        ∀ other, action.unlocks ≠ some (other, .connection connection) := by
  cases move with
  | still _ _ writer shutDown stays aside =>
      exact Or.inr ⟨holding, fun other left => aside (Action.mover_of_unlocks left)⟩
  | goes _ _ writer point edge =>
      left
      generalize (state.connections connection).point = before at edge
      cases edge with
      | testLoop | testRunning =>
          simp only at holding
          split at holding <;> cases holding
      | lockWrite mine answer =>
          cases holding
          rfl
      | _ => cases holding
  | born | spawned | reads | returns | skips => cases holding
  | responds _ mine answer rest count writer here =>
      right
      simp only at holding
      split at holding
      · cases holding
      · rename_i short
        rw [here]
        refine ⟨holding, ?_⟩
        intro other left
        rw [Action.unlocks, if_neg short] at left
        cases left
  | receives _ target pusher eventType payloadJson fd rest targets anySent count =>
      refine Or.inr ⟨holding, fun other left => ?_⟩
      have moved := Action.mover_of_unlocks left
      cases moved
  | subscribes | unsubscribes | subscriberReads | subscriberFails => exact Or.inr ⟨holding, nofun⟩

theorem PushMove.holding {pusher : Pusher} {point : PushPoint}
    (move : PushMove state action pusher point) {owner : ConnId}
    (holding : point.holding = some owner) :
    action.locks = some (owner, .pusher pusher) ∨
      (state.pushes pusher).holding = some owner ∧
        ∀ other, action.unlocks ≠ some (other, .pusher pusher) := by
  cases move with
  | still _ _ aside =>
      exact Or.inr ⟨holding, fun other left => aside (Action.pusher_of_unlocks left)⟩
  | locks =>
      cases holding
      exact Or.inl rfl
  | sends _ eventType payloadJson fd target rest targets anySent count here short =>
      right
      rw [here]
      refine ⟨holding, ?_⟩
      intro other left
      rw [Action.unlocks, if_neg (Nat.not_le_of_lt short)] at left
      cases left
  | declines | collects | sendsAll | fails | finishes => cases holding

/-- What a connection thread locks is its own `ClientState`. -/
theorem Move.owner {own : Connection Pusher} (locked : Locked state)
    (move : Move state action connection own) {owner : ConnId}
    (needs : own.point.owner = some owner) : owner = connection := by
  have before := locked.owner connection
  cases move with
  | goes _ _ writer point edge =>
      have serving : (state.connections connection).point.phase = .serving →
          state.descriptors (state.connections connection).fd = some connection := by
        intro serving
        exact locked.listed.opened (Or.inl serving)
      generalize (state.connections connection).point = here at edge before serving
      cases edge with
      | testLoop | testRunning =>
          simp only at needs
          split at needs <;> cases needs
      | found answer _ registered =>
          cases needs
          exact locked.listed.find_only registered (serving rfl)
      | lockWrite mine answer =>
          cases needs
          exact before owner rfl
      | _ => cases needs
  | born | spawned | reads | returns | skips => cases needs
  | responds _ mine answer rest count writer here =>
      simp only at needs
      split at needs
      · cases needs
      · cases needs
        exact before owner (by rw [here]; rfl)
  | _ => exact before owner needs

theorem Locked.older (locked : Locked state) {writer : Writer Pusher} {owner : ConnId}
    (holding : state.holding writer = some owner) : owner < state.nextConnection := by
  cases writer with
  | connection connection =>
      rw [State.holding] at holding
      cases here : (state.connections connection).point with
      | writing mine answer rest =>
          rw [here] at holding
          cases holding
          have same := locked.owner connection owner (by rw [here]; rfl)
          rw [same]
          exact locked.listed.older (Or.inl (by rw [here]; rfl))
      | _ =>
          rw [here] at holding
          cases holding
  | pusher pusher =>
      rw [State.holding] at holding
      cases here : state.pushes pusher with
      | writing eventType payloadJson fd target rest targets anySent =>
          rw [here] at holding
          cases holding
          exact (locked.target pusher (eventType, fd, owner)
            (by rw [here]; exact List.mem_cons_self ..)).1
      | _ =>
          rw [here] at holding
          cases holding

/-- A thread that has closed its descriptor is gone for good. -/
theorem Move.done_stays {own : Connection Pusher} (move : Move state action connection own)
    (old : connection ≠ state.nextConnection)
    (unspawned : state.accepting ≠ .spawning connection)
    (done : (state.connections connection).point = .done) : own.point = .done := by
  cases move with
  | goes _ _ _ point edge =>
      rw [done] at edge
      cases edge
  | born => exact absurd rfl old
  | spawned _ here => exact absurd here unspawned
  | reads _ request here | returns _ request handler outcome here | skips _ request here
  | responds _ owner answer rest count writer here =>
      rw [done] at here
      cases here
  | _ => exact done

variable [DecidableEq Pusher] {maxFrameBytes : UInt32}

/-- A descriptor stays with its connection until the thread of that closes it. -/
theorem opened_stays (listed : Listed state)
    (taken : step maxFrameBytes state action = some next) {fd : Fd}
    (opened : state.descriptors fd = some connection) :
    next.descriptors fd = some connection ∨ (next.connections connection).point = .done := by
  cases action with
  | accept accepted =>
      obtain ⟨⟨-, free⟩, rfl⟩ := (guarded_eq_some ..).mp taken
      left
      have other : fd ≠ accepted := by
        rintro rfl
        rw [opened] at free
        cases free
      simp only [Function.update_of_ne other]
      exact opened
  | close mover =>
      obtain ⟨here, rfl⟩ := (guarded_eq_some ..).mp taken
      by_cases same : fd = (state.connections mover).fd
      · right
        have own := listed.registered.alive mover (Or.inr (by rw [here]; rfl))
        rw [← same, opened] at own
        cases own
        exact State.point_set_point ..
      · left
        simp only [State.setPoint, State.modify, Function.update_of_ne same]
        exact opened
  | start | stop | listen | shutdown =>
      obtain ⟨-, rfl⟩ := (guarded_eq_some ..).mp taken
      left
      split <;> exact opened
  | sendResponse | addSubscription | removeSubscription | pushEventTo | sendEvent
  | subscriberRead =>
      have unmoved := step_unmoved rfl taken
      left
      rw [unmoved.descriptors]
      exact opened
  | _ =>
      obtain ⟨-, rfl⟩ := (guarded_eq_some ..).mp taken
      exact Or.inl opened

theorem step_locks (taken : step maxFrameBytes state action = some next) (connection : ConnId) :
    LockMove state action connection (next.connections connection).writeMutex := by
  cases action with
  | start request disconnect =>
      obtain ⟨-, rfl⟩ := (guarded_eq_some ..).mp taken
      split <;> exact .of_same rfl rfl rfl
  | stop =>
      obtain ⟨-, rfl⟩ := (guarded_eq_some ..).mp taken
      split <;> exact .of_same rfl rfl rfl
  | listen ok =>
      obtain ⟨-, rfl⟩ := (guarded_eq_some ..).mp taken
      split <;> exact .of_same rfl rfl rfl
  | shutdown fd rest =>
      obtain ⟨-, rfl⟩ := (guarded_eq_some ..).mp taken
      split
      · exact .of_modify _ (fun own => { own with shutDown := true }) (fun _ => rfl) rfl rfl
      · exact .of_same rfl rfl rfl
  | accept fd =>
      obtain ⟨-, rfl⟩ := (guarded_eq_some ..).mp taken
      by_cases new : connection = state.nextConnection
      · simp only [new, Function.update_self]
        exact .born fd
      · apply LockMove.of_same _ rfl rfl
        simp only [Function.update_of_ne new]
  | spawnConnection mover | testLoop mover | readFails mover | copyHandler mover request
  | callHandler mover request handler | findState mover answer | erase mover | testRunning mover
  | copyDisconnect mover | callDisconnect mover handler | skipDisconnect mover
  | disconnectReturns mover handler | close mover =>
      obtain ⟨-, rfl⟩ := (guarded_eq_some ..).mp taken
      exact .of_modify mover (fun own => { own with point := _ }) (fun _ => rfl) rfl rfl
  | readRequest mover request =>
      obtain ⟨-, rfl⟩ := (guarded_eq_some ..).mp taken
      exact .of_modify mover
        (fun own => { own with point := _, requests := own.requests + 1 }) (fun _ => rfl) rfl rfl
  | skipHandler mover request | handlerReturns mover request handler outcome =>
      obtain ⟨-, rfl⟩ := (guarded_eq_some ..).mp taken
      exact .of_modify mover
        (fun own => { own with point := _, outcomes := own.outcomes ++ _ }) (fun _ => rfl) rfl rfl
  | lockWrite mover owner answer =>
      obtain ⟨⟨-, free⟩, rfl⟩ := (guarded_eq_some ..).mp taken
      apply LockMove.of_set (.taken _ owner _ rfl free)
      · rintro _ ⟨⟩
        rfl
      · nofun
      · simp
  | sendResponse mover owner answer rest count =>
      obtain ⟨-, rfl⟩ := (guarded_eq_some ..).mp taken
      simp only
      split
      · rename_i all
        have left : Action.unlocks (.sendResponse mover owner answer rest count) =
            some (owner, (.connection mover : Writer Pusher)) := if_pos all
        apply LockMove.of_set (.left _ owner _ left) (by simp [Action.locks])
        · rw [left]
          rintro _ ⟨⟩
          rfl
        · simp
      · rename_i short
        exact .of_same (by simp) rfl (if_neg short)
  | sendResponseFails mover owner answer rest =>
      obtain ⟨-, rfl⟩ := (guarded_eq_some ..).mp taken
      apply LockMove.of_set (.left _ owner _ rfl) (by simp [Action.locks])
      · rintro _ ⟨⟩
        rfl
      · simp
  | addSubscription fd eventType =>
      cases taken
      unfold State.addSubscription
      split
      · exact .of_modify _ (fun own => { own with subscriptions := _, everSubscribed := _ })
          (fun _ => rfl) rfl rfl
      · exact .of_same rfl rfl rfl
  | removeSubscription fd eventType =>
      cases taken
      unfold State.removeSubscription
      split
      · exact .of_modify _ (fun own => { own with subscriptions := _ }) (fun _ => rfl) rfl rfl
      · exact .of_same rfl rfl rfl
  | pushEventTo pusher fd eventType payloadJson =>
      obtain ⟨-, rfl⟩ := (guarded_eq_some ..).mp taken
      split
      · split <;> exact .of_same rfl rfl rfl
      · exact .of_same rfl rfl rfl
  | lockPush pusher eventType payloadJson fd target targets anySent =>
      obtain ⟨⟨-, free⟩, rfl⟩ := (guarded_eq_some ..).mp taken
      apply LockMove.of_set (.taken _ target _ rfl free)
      · rintro _ ⟨⟩
        rfl
      · nofun
      · simp [State.setPush]
  | sendEvent pusher eventType payloadJson fd target rest targets anySent count =>
      simp only [step] at taken
      split at taken
      · obtain ⟨-, rfl⟩ := (guarded_eq_some ..).mp taken
        split
        · rename_i all
          have left : Action.unlocks (.sendEvent pusher eventType payloadJson fd target rest targets
              anySent count) = some (target, .pusher pusher) := if_pos all
          apply LockMove.of_set (.left _ target _ left) (by simp [Action.locks])
          · rw [left]
            rintro _ ⟨⟩
            rfl
          · simp [State.setPush]
        · rename_i short
          exact .of_same (by simp [State.setPush]) rfl (if_neg short)
      · cases taken
  | sendEventFails pusher eventType payloadJson fd target rest targets anySent =>
      obtain ⟨-, rfl⟩ := (guarded_eq_some ..).mp taken
      apply LockMove.of_set (.left _ target _ rfl) (by simp [Action.locks])
      · rintro _ ⟨⟩
        rfl
      · simp [State.setPush]
  | subscriberRead mover =>
      simp only [step] at taken
      split at taken
      · cases taken
        exact .of_modify mover (fun own => { own with reader := _ }) (fun _ => rfl) rfl rfl
      · cases taken
  | subscriberFails mover =>
      obtain ⟨-, rfl⟩ := (guarded_eq_some ..).mp taken
      exact .of_modify mover
        (fun own => { own with reader := { own.reader with point := .failed } })
        (fun _ => rfl) rfl rfl
  | _ =>
      obtain ⟨-, rfl⟩ := (guarded_eq_some ..).mp taken
      exact .of_same rfl rfl rfl

/-- Nobody leaves a lock that he does not hold. -/
theorem holding_of_unlocks (taken : step maxFrameBytes state action = some next)
    {owner : ConnId} {writer : Writer Pusher} (left : action.unlocks = some (owner, writer)) :
    state.holding writer = some owner := by
  cases action with
  | sendResponse mover mine answer rest count =>
      obtain ⟨⟨here, -⟩, -⟩ := (guarded_eq_some ..).mp taken
      simp only [Action.unlocks] at left
      split at left <;> cases left
      rw [State.holding, here]
      rfl
  | sendResponseFails mover mine answer rest =>
      obtain ⟨here, -⟩ := (guarded_eq_some ..).mp taken
      cases left
      rw [State.holding, here]
      rfl
  | sendEvent pusher eventType payloadJson fd target rest targets anySent count =>
      simp only [step] at taken
      split at taken
      · obtain ⟨⟨here, -⟩, -⟩ := (guarded_eq_some ..).mp taken
        simp only [Action.unlocks] at left
        split at left <;> cases left
        rw [State.holding, here]
        rfl
      · cases taken
  | sendEventFails pusher eventType payloadJson fd target rest targets anySent =>
      obtain ⟨here, -⟩ := (guarded_eq_some ..).mp taken
      cases left
      rw [State.holding, here]
      rfl
  | _ => cases left

theorem locked_step (locked : Locked state) (taken : step maxFrameBytes state action = some next) :
    Locked next := by
  refine ⟨listed_step locked.listed taken,
    fun connection owner => (step_moves taken connection).owner locked, ?_, ?_⟩
  · intro pusher entry member
    have before : entry.2.2 < state.nextConnection ∧
        ((state.connections entry.2.2).point ≠ .done →
          state.descriptors entry.2.1 = some entry.2.2) := by
      rcases (step_pushes taken pusher).awaited entry member with old | collected
      · exact locked.target pusher entry old
      · have registered := locked.listed.registered
        have opened := (registered.client _ (List.mem_filter.mp collected).1).1
        exact ⟨(registered.opened _ _ opened).1, fun _ => opened⟩
    refine ⟨Nat.lt_of_lt_of_le before.1 (step_opens taken).recent, ?_⟩
    intro undone
    have alive : (state.connections entry.2.2).point ≠ .done := by
      intro done
      apply undone
      apply (step_moves taken entry.2.2).done_stays (Nat.ne_of_lt before.1) _ done
      intro spawning
      have unborn := (locked.listed.registered.spawning entry.2.2 spawning).2
      rw [done] at unborn
      cases unborn
    exact (opened_stays locked.listed taken (before.2 alive)).resolve_right undone
  · intro writer owner holding
    have entered : action.locks = some (owner, writer) ∨
        state.holding writer = some owner ∧ ∀ other, action.unlocks ≠ some (other, writer) := by
      cases writer with
      | connection connection => exact (step_moves taken connection).holding holding
      | pusher pusher => exact (step_pushes taken pusher).holding holding
    have lock := step_locks taken owner
    generalize (next.connections owner).writeMutex = after at lock
    cases lock with
    | still _ _ untaken unleft =>
        rcases entered with locks | ⟨before, -⟩
        · exact absurd locks (untaken writer)
        · exact locked.held writer owner before
    | born fd =>
        rcases entered with locks | ⟨before, -⟩
        · cases locks
        · exact absurd (locked.older before) (Nat.lt_irrefl _)
    | taken _ _ mine locks free =>
        rcases entered with own | ⟨before, -⟩
        · rw [locks] at own
          cases own
          rfl
        · rw [locked.held writer owner before] at free
          cases free
    | left _ _ mine unlocks =>
        rcases entered with locks | ⟨before, kept⟩
        · rw [Action.unlocks_of_locks locks] at unlocks
          cases unlocks
        · have holder := locked.held mine owner (holding_of_unlocks taken unlocks)
          rw [locked.held writer owner before] at holder
          cases holder
          exact absurd unlocks (kept owner)

end TboxFramework.Ipc.Server

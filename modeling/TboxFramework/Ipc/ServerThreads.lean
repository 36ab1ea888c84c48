import Mathlib.Data.Fintype.Basic
import TboxFramework.Ipc.Server

/-!
# What a step can do

Whatever thread moves, a connection either keeps its data, or its own thread
goes along an edge of `connectionLoop`, or one of a few things happens to its
subscriptions, to its wire or to the subscriber at its other end. A push, the
open descriptors, `m_clients`, the accept thread and the thread that starts and
stops the server change in few ways, too.
-/

namespace TboxFramework.Ipc.Server

open Interleaving

set_option autoImplicit false

variable {Pusher : Type}

/-- The connection whose own thread an action moves. -/
def Action.mover : Action Pusher → Option ConnId
  | .spawnConnection connection | .testLoop connection | .readRequest connection _
  | .readFails connection | .copyHandler connection _ | .callHandler connection _ _
  | .skipHandler connection _ | .handlerReturns connection _ _ _ | .findState connection _
  | .lockWrite connection _ _ | .sendResponse connection _ _ _ _
  | .sendResponseFails connection _ _ _ | .erase connection | .testRunning connection
  | .copyDisconnect connection | .callDisconnect connection _ | .skipDisconnect connection
  | .disconnectReturns connection _ | .close connection => some connection
  | _ => none

/-- The edges of `connectionLoop` that change nothing but the program point. -/
inductive Edge (state : State Pusher) (connection : ConnId) :
    Action Pusher → ConnPoint → ConnPoint → Prop
  | testLoop :
      Edge state connection (.testLoop connection) .testingLoop
        (if state.running then .reading else .erasing)
  | readFails : Edge state connection (.readFails connection) .reading .erasing
  | copyHandler (request : Request) :
      Edge state connection (.copyHandler connection request) (.copyingHandler request)
        (.handlerCopied request state.requestHandler)
  | callHandler (request : Request) (handler : HandlerId) :
      Edge state connection (.callHandler connection request handler)
        (.handlerCopied request (some handler)) (.inHandler request handler)
  | found (answer : Result) (owner : ConnId)
      (registered : state.find (state.connections connection).fd = some owner) :
      Edge state connection (.findState connection answer) (.findingState answer)
        (.lockingWrite owner answer)
  | removed (answer : Result) (gone : state.find (state.connections connection).fd = none) :
      Edge state connection (.findState connection answer) (.findingState answer) .erasing
  | lockWrite (owner : ConnId) (answer : Result)
      (free : (state.connections owner).writeMutex = none) :
      Edge state connection (.lockWrite connection owner answer) (.lockingWrite owner answer)
        (.writing owner answer (encodeResponse answer.1 answer.2))
  | writeFails (owner : ConnId) (answer : Result) (rest : Bytes) :
      Edge state connection (.sendResponseFails connection owner answer rest)
        (.writing owner answer rest) .erasing
  | erase : Edge state connection (.erase connection) .erasing .testingRunning
  | testRunning :
      Edge state connection (.testRunning connection) .testingRunning
        (if state.running then .copyingDisconnect else .closing)
  | copyDisconnect :
      Edge state connection (.copyDisconnect connection) .copyingDisconnect
        (.disconnectCopied state.disconnectHandler)
  | callDisconnect (handler : HandlerId) :
      Edge state connection (.callDisconnect connection handler) (.disconnectCopied (some handler))
        (.inDisconnect handler)
  | skipDisconnect :
      Edge state connection (.skipDisconnect connection) (.disconnectCopied none) .closing
  | disconnectReturns (handler : HandlerId) :
      Edge state connection (.disconnectReturns connection handler) (.inDisconnect handler) .closing
  | close : Edge state connection (.close connection) .closing .done

/-- What an action can make of one connection. -/
inductive Move (state : State Pusher) : Action Pusher → ConnId → Connection Pusher → Prop
  | still (action : Action Pusher) (connection : ConnId) (writer : Option (Writer Pusher))
      (shutDown : Bool) (stays : (state.connections connection).shutDown = true → shutDown = true)
      (aside : action.mover ≠ some connection) :
      Move state action connection
        { state.connections connection with writeMutex := writer, shutDown := shutDown }
  | goes (action : Action Pusher) (connection : ConnId) (writer : Option (Writer Pusher))
      (point : ConnPoint)
      (edge : Edge state connection action (state.connections connection).point point) :
      Move state action connection
        { state.connections connection with writeMutex := writer, point := point }
  | born (fd : Fd) :
      Move state (.accept fd) state.nextConnection { Connection.unborn with fd := fd }
  | spawned (connection : ConnId) (here : state.accepting = .spawning connection) :
      Move state (.spawnConnection connection) connection
        { state.connections connection with point := .testingLoop }
  | reads (connection : ConnId) (request : Request)
      (here : (state.connections connection).point = .reading) :
      Move state (.readRequest connection request) connection
        { state.connections connection with
          point := .copyingHandler request
          requests := (state.connections connection).requests + 1 }
  | returns (connection : ConnId) (request : Request) (handler : HandlerId)
      (outcome : Option Bytes)
      (here : (state.connections connection).point = .inHandler request handler) :
      Move state (.handlerReturns connection request handler outcome) connection
        { state.connections connection with
          point := .findingState (handlerResult outcome)
          outcomes := (state.connections connection).outcomes ++ [outcome] }
  | skips (connection : ConnId) (request : Request)
      (here : (state.connections connection).point = .handlerCopied request none) :
      Move state (.skipHandler connection request) connection
        { state.connections connection with
          point := .findingState (handlerResult none)
          outcomes := (state.connections connection).outcomes ++ [none] }
  | responds (connection owner : ConnId) (answer : Result) (rest : Bytes) (count : Nat)
      (writer : Option (Writer Pusher))
      (here : (state.connections connection).point = .writing owner answer rest)
      (reached : state.Reaches (state.connections connection).fd connection) :
      Move state (.sendResponse connection owner answer rest count) connection
        { state.connections connection with
          writeMutex := writer
          point := if rest.length ≤ count then .testingLoop
            else .writing owner answer (rest.drop count)
          wire := (state.connections connection).wire ++
            [⟨.response answer, rest.take count⟩] }
  | receives (connection target : ConnId) (pusher : Pusher) (eventType : UInt32)
      (payloadJson : Bytes) (fd : Fd) (rest : Bytes) (targets : List (Fd × ConnId))
      (anySent : Bool) (count : Nat) (writer : Option (Writer Pusher))
      (here : state.pushes pusher = .writing eventType payloadJson fd target rest targets anySent)
      (reached : state.Reaches fd connection) :
      Move state (.sendEvent pusher eventType payloadJson fd target rest targets anySent count)
        connection
        { state.connections connection with
          writeMutex := writer
          wire := (state.connections connection).wire ++
            [⟨.event eventType payloadJson target, rest.take count⟩] }
  | subscribes (fd : Fd) (eventType : UInt32) (connection : ConnId)
      (registered : state.find fd = some connection) :
      Move state (.addSubscription fd eventType) connection
        { state.connections connection with
          subscriptions := eventType :: (state.connections connection).subscriptions
          everSubscribed := eventType :: (state.connections connection).everSubscribed }
  | unsubscribes (fd : Fd) (eventType : UInt32) (connection : ConnId)
      (registered : state.find fd = some connection) :
      Move state (.removeSubscription fd eventType) connection
        { state.connections connection with
          subscriptions := (state.connections connection).subscriptions.filter (· ≠ eventType) }
  | subscriberReads (connection : ConnId) (maxFrameBytes : UInt32) (reader : Reader)
      (taken : (state.connections connection).reader.read maxFrameBytes
        (state.connections connection).wire = some reader) :
      Move state (.subscriberRead connection) connection
        { state.connections connection with reader := reader }
  | subscriberFails (connection : ConnId) :
      Move state (.subscriberFails connection) connection
        { state.connections connection with
          reader := { (state.connections connection).reader with point := .failed } }

/-- The push that an action moves. -/
def Action.pusher : Action Pusher → Option Pusher
  | .pushEvent pusher _ _ _ | .pushEventTo pusher _ _ _ | .lockPush pusher _ _ _ _ _ _
  | .sendEvent pusher _ _ _ _ _ _ _ _ | .sendEventFails pusher _ _ _ _ _ _ _
  | .finishPush pusher _ _ _ => some pusher
  | _ => none

/-- What an action can make of one push. -/
inductive PushMove (state : State Pusher) : Action Pusher → Pusher → PushPoint → Prop
  | still (action : Action Pusher) (pusher : Pusher) (aside : action.pusher ≠ some pusher) :
      PushMove state action pusher (state.pushes pusher)
  | declines (pusher : Pusher) (fd : Fd) (eventType : UInt32) (payloadJson : Bytes)
      (here : state.pushes pusher = .idle) :
      PushMove state (.pushEventTo pusher fd eventType payloadJson) pusher .idle
  | collects (action : Action Pusher) (pusher : Pusher) (eventType : UInt32) (payloadJson : Bytes)
      (targets : List (Fd × ConnId)) (here : state.pushes pusher = .idle)
      (subscribed : ∀ pair ∈ targets, pair ∈ state.subscribers eventType) :
      PushMove state action pusher (.locking eventType payloadJson targets false)
  | locks (pusher : Pusher) (eventType : UInt32) (payloadJson : Bytes) (fd : Fd)
      (target : ConnId) (targets : List (Fd × ConnId)) (anySent : Bool)
      (here : state.pushes pusher =
        .locking eventType payloadJson ((fd, target) :: targets) anySent)
      (free : (state.connections target).writeMutex = none) :
      PushMove state (.lockPush pusher eventType payloadJson fd target targets anySent) pusher
        (.writing eventType payloadJson fd target (encodeEvent eventType payloadJson) targets
          anySent)
  | sends (pusher : Pusher) (eventType : UInt32) (payloadJson : Bytes) (fd : Fd)
      (target : ConnId) (rest : Bytes) (targets : List (Fd × ConnId)) (anySent : Bool)
      (count : Nat)
      (here : state.pushes pusher =
        .writing eventType payloadJson fd target rest targets anySent)
      (short : count < rest.length) :
      PushMove state (.sendEvent pusher eventType payloadJson fd target rest targets anySent count)
        pusher (.writing eventType payloadJson fd target (rest.drop count) targets anySent)
  | sendsAll (pusher : Pusher) (eventType : UInt32) (payloadJson : Bytes) (fd : Fd)
      (target : ConnId) (rest : Bytes) (targets : List (Fd × ConnId)) (anySent : Bool)
      (count : Nat)
      (here : state.pushes pusher =
        .writing eventType payloadJson fd target rest targets anySent)
      (all : rest.length ≤ count) :
      PushMove state (.sendEvent pusher eventType payloadJson fd target rest targets anySent count)
        pusher (.locking eventType payloadJson targets true)
  | fails (pusher : Pusher) (eventType : UInt32) (payloadJson : Bytes) (fd : Fd)
      (target : ConnId) (rest : Bytes) (targets : List (Fd × ConnId)) (anySent : Bool)
      (here : state.pushes pusher =
        .writing eventType payloadJson fd target rest targets anySent) :
      PushMove state (.sendEventFails pusher eventType payloadJson fd target rest targets anySent)
        pusher (.locking eventType payloadJson targets anySent)
  | finishes (pusher : Pusher) (eventType : UInt32) (payloadJson : Bytes) (anySent : Bool)
      (here : state.pushes pusher = .locking eventType payloadJson [] anySent) :
      PushMove state (.finishPush pusher eventType payloadJson anySent) pusher .idle

/-- What an action can make of the open descriptors. -/
structure Opens (state : State Pusher) (action : Action Pusher) (next : State Pusher) : Prop where
  descriptors : ∀ fd connection, next.descriptors fd = some connection →
    state.descriptors fd = some connection ∨
      action = .accept fd ∧ connection = state.nextConnection
  recent : state.nextConnection ≤ next.nextConnection
  born : ∀ connection, state.nextConnection ≤ connection → connection < next.nextConnection →
    connection = state.nextConnection ∧ ∃ fd, action = .accept fd

/-- The actions that open or close a descriptor. -/
def Action.opens : Action Pusher → Bool
  | .accept _ | .close _ => true
  | _ => false

/-- What an action can make of the descriptor table and of the next connection. -/
inductive DescriptorMove (state : State Pusher) :
    Action Pusher → (Fd → Option ConnId) → ConnId → Prop
  | still (action : Action Pusher) (aside : action.opens = false) :
      DescriptorMove state action state.descriptors state.nextConnection
  | accepts (fd : Fd) (free : state.descriptors fd = none) :
      DescriptorMove state (.accept fd)
        (Function.update state.descriptors fd (some state.nextConnection))
        (state.nextConnection + 1)
  | closes (connection : ConnId) (here : (state.connections connection).point = .closing) :
      DescriptorMove state (.close connection)
        (Function.update state.descriptors (state.connections connection).fd none)
        state.nextConnection

/-- The actions that change `m_clients` or the accept thread. -/
def Action.tables : Action Pusher → Bool
  | .spawnAccept | .join | .testAccept | .acceptBreaks | .acceptFails | .accept _
  | .insertClient _ _ | .spawnConnection _ | .erase _ => true
  | _ => false

/-- What an action can make of `m_clients` and of the accept thread. -/
inductive TableMove (state : State Pusher) :
    Action Pusher → List (Fd × ConnId) → AcceptPoint → Prop
  | still (action : Action Pusher) (aside : action.tables = false) :
      TableMove state action state.clients state.accepting
  | spawnsAccept (here : state.control = .spawning) :
      TableMove state .spawnAccept state.clients .testing
  | joins (here : state.control = .joining)
      (ended : state.accepting = .absent ∨ state.accepting = .exited) :
      TableMove state .join state.clients .absent
  | tests (here : state.accepting = .testing) :
      TableMove state .testAccept state.clients (if state.running then .selecting else .exited)
  | breaks (here : state.accepting = .selecting) :
      TableMove state .acceptBreaks state.clients .exited
  | fails (here : state.accepting = .selecting) :
      TableMove state .acceptFails state.clients .testing
  | accepts (fd : Fd) (here : state.accepting = .selecting) (free : state.descriptors fd = none) :
      TableMove state (.accept fd) state.clients (.inserting state.nextConnection fd)
  | inserts (connection : ConnId) (fd : Fd) (here : state.accepting = .inserting connection fd) :
      TableMove state (.insertClient connection fd)
        ((fd, connection) :: state.clients.filter (·.1 ≠ fd)) (.spawning connection)
  | spawns (connection : ConnId) (here : state.accepting = .spawning connection) :
      TableMove state (.spawnConnection connection) state.clients .testing
  | erases (connection : ConnId) (here : (state.connections connection).point = .erasing) :
      TableMove state (.erase connection)
        (state.clients.filter (·.1 ≠ (state.connections connection).fd)) state.accepting

/-- What `start` and `stop` change. -/
structure Settings where
  running : Bool
  requestHandler : Option HandlerId
  disconnectHandler : Option HandlerId
  control : ControlPoint
  deriving DecidableEq, Repr

def State.settings (state : State Pusher) : Settings :=
  ⟨state.running, state.requestHandler, state.disconnectHandler, state.control⟩

/-- A step that concerns connections and pushes only. -/
structure Unmoved (state next : State Pusher) : Prop where
  settings : next.settings = state.settings
  clients : next.clients = state.clients
  accepting : next.accepting = state.accepting
  descriptors : next.descriptors = state.descriptors
  recent : next.nextConnection = state.nextConnection
  invocations : next.invocations = state.invocations

/-- The actions of the thread that starts and stops the server. -/
def Action.controls : Action Pusher → Bool
  | .start _ _ | .assignHandlers _ _ | .listen _ | .spawnAccept | .stop | .wake | .join
  | .collect _ | .shutdown _ _ | .shutdownDone | .clear | .finishStop => true
  | _ => false

/-- What an action can make of the settings. -/
inductive ControlMove (state : State Pusher) : Action Pusher → Settings → Prop
  | still (action : Action Pusher) (aside : action.controls = false) :
      ControlMove state action state.settings
  | startsAgain (request disconnect : Option HandlerId) (on : state.running = true) :
      ControlMove state (.start request disconnect) state.settings
  | starts (request disconnect : Option HandlerId)
      (here : state.control = .idle ∨ state.control = .stopped) (off : state.running = false) :
      ControlMove state (.start request disconnect)
        { state.settings with control := .assigning request disconnect }
  | assigns (request disconnect : Option HandlerId)
      (here : state.control = .assigning request disconnect) :
      ControlMove state (.assignHandlers request disconnect)
        ⟨state.running, request, disconnect, .listening⟩
  | listens (here : state.control = .listening) :
      ControlMove state (.listen true) { state.settings with running := true, control := .spawning }
  | listenFails (here : state.control = .listening) :
      ControlMove state (.listen false) { state.settings with control := .idle }
  | spawnsAccept (here : state.control = .spawning) :
      ControlMove state .spawnAccept { state.settings with control := .idle }
  | stops (here : state.control = .idle ∨ state.control = .stopped) (on : state.running = true) :
      ControlMove state .stop { state.settings with running := false, control := .waking }
  | stopsAgain (here : state.control = .idle ∨ state.control = .stopped)
      (off : state.running = false) :
      ControlMove state .stop { state.settings with control := .stopped }
  | wakes (here : state.control = .waking) :
      ControlMove state .wake { state.settings with control := .joining }
  | joins (here : state.control = .joining)
      (ended : state.accepting = .absent ∨ state.accepting = .exited) :
      ControlMove state .join { state.settings with control := .collecting }
  | collects (fds : List Fd) (here : state.control = .collecting)
      (all : fds.Perm (state.clients.map Prod.fst)) :
      ControlMove state (.collect fds) { state.settings with control := .shutting fds }
  | shuts (fd : Fd) (rest : List Fd) (here : state.control = .shutting (fd :: rest)) :
      ControlMove state (.shutdown fd rest) { state.settings with control := .shutting rest }
  | shutsAll (here : state.control = .shutting []) :
      ControlMove state .shutdownDone { state.settings with control := .clearing }
  | clears (here : state.control = .clearing) :
      ControlMove state .clear ⟨state.running, none, none, .finishing⟩
  | finishes (here : state.control = .finishing) :
      ControlMove state .finishStop { state.settings with control := .stopped }

/-- What an action can make of the handler calls. -/
inductive InvokeMove (state : State Pusher) : Action Pusher → List Invocation → Prop
  | still (action : Action Pusher) : InvokeMove state action state.invocations
  | requests (connection : ConnId) (request : Request) (handler : HandlerId)
      (here : (state.connections connection).point = .handlerCopied request (some handler)) :
      InvokeMove state (.callHandler connection request handler)
        (state.invocations ++ [.request handler connection])
  | disconnects (connection : ConnId) (handler : HandlerId)
      (here : (state.connections connection).point = .disconnectCopied (some handler)) :
      InvokeMove state (.callDisconnect connection handler)
        (state.invocations ++ [.disconnect handler connection])

section Unmoved

variable {state next : State Pusher} {action : Action Pusher}

theorem DescriptorMove.unmoved (aside : action.opens = false) (unmoved : Unmoved state next) :
    DescriptorMove state action next.descriptors next.nextConnection := by
  rw [unmoved.descriptors, unmoved.recent]
  exact .still action aside

theorem TableMove.unmoved (aside : action.tables = false) (unmoved : Unmoved state next) :
    TableMove state action next.clients next.accepting := by
  rw [unmoved.clients, unmoved.accepting]
  exact .still action aside

theorem ControlMove.unmoved (aside : action.controls = false) (unmoved : Unmoved state next) :
    ControlMove state action next.settings := by
  rw [unmoved.settings]
  exact .still action aside

theorem InvokeMove.unmoved (unmoved : Unmoved state next) :
    InvokeMove state action next.invocations := by
  rw [unmoved.invocations]
  exact .still action

end Unmoved

namespace State

/-- `find` returns an entry of the map. -/
theorem mem_of_find {state : State Pusher} {fd : Fd} {connection : ConnId}
    (found : state.find fd = some connection) : (fd, connection) ∈ state.clients := by
  obtain ⟨front, back, split, -⟩ := List.lookup_eq_some_iff.mp found
  rw [split]
  simp

theorem connections_modify (state : State Pusher) (changed : ConnId)
    (change : Connection Pusher → Connection Pusher) (connection : ConnId) :
    (state.modify changed change).connections connection =
      if connection = changed then change (state.connections connection)
      else state.connections connection := by
  by_cases mine : connection = changed
  · simp only [modify, mine, Function.update_self, if_true]
  · simp only [modify, Function.update_of_ne mine, if_neg mine]

/-- A lock taken or left changes nothing else, whosever it is. -/
theorem connections_set_write_mutex (state : State Pusher) (owner : ConnId)
    (writer : Option (Writer Pusher)) (connection : ConnId) :
    ∃ writer', (state.setWriteMutex owner writer).connections connection =
      { state.connections connection with writeMutex := writer' } := by
  rw [setWriteMutex, connections_modify]
  split
  · exact ⟨writer, rfl⟩
  · exact ⟨_, rfl⟩

end State

namespace Move

variable {state : State Pusher} {action : Action Pusher} {connection : ConnId}

theorem unchanged (action : Action Pusher) (connection : ConnId)
    (aside : action.mover ≠ some connection) :
    Move state action connection (state.connections connection) :=
  .still action connection (state.connections connection).writeMutex
    (state.connections connection).shutDown id aside

/-- An action that is no thread's of a connection leaves all connections alone. -/
theorem aside (action : Action Pusher) (connection : ConnId) (nobody : action.mover = none) :
    Move state action connection (state.connections connection) := by
  apply unchanged action connection
  rw [nobody]
  simp

theorem of_modify (changed : ConnId) (change : Connection Pusher → Connection Pusher)
    (mine : Move state action changed (change (state.connections changed)))
    (mover : action.mover = some changed ∨ action.mover = none) (connection : ConnId) :
    Move state action connection ((state.modify changed change).connections connection) := by
  rw [State.connections_modify]
  split
  · rename_i same
    exact same ▸ mine
  · rename_i other
    apply unchanged action connection
    rcases mover with mover | mover <;> simp [mover, Ne.symm other]

theorem along_edge {point : ConnPoint}
    (edge : Edge state connection action (state.connections connection).point point)
    (mover : action.mover = some connection) (other : ConnId) :
    Move state action other ((state.setPoint connection point).connections other) :=
  of_modify connection (fun own => { own with point := point })
    (.goes action connection _ point edge) (Or.inl mover) other

/-- A `send` of a response, whether or not it ends the frame. -/
theorem responded {after : State Pusher} {mover owner : ConnId} {answer : Result} {rest : Bytes}
    {count : Nat} {point : ConnPoint}
    (here : (state.connections mover).point = .writing owner answer rest)
    (reached : state.Reaches (state.connections mover).fd mover)
    (same : ∃ writer, after.connections connection =
      { (state.sent mover ⟨.response answer, rest.take count⟩).connections connection with
        writeMutex := writer })
    (goes : (if rest.length ≤ count then .testingLoop
      else .writing owner answer (rest.drop count)) = point) :
    Move state (.sendResponse mover owner answer rest count) connection
      ((after.setPoint mover point).connections connection) := by
  obtain ⟨writer, same⟩ := same
  rw [State.setPoint, State.connections_modify, same, State.sent, State.connections_modify, ← goes]
  split
  · rename_i mine
    subst mine
    exact .responds connection owner answer rest count writer here reached
  · rename_i other
    exact .still _ connection writer _ id (by simpa [Action.mover] using Ne.symm other)

/-- A `send` of an event, whether or not it ends the frame. -/
theorem received {after : State Pusher} {receiver target : ConnId} {pusher : Pusher}
    {eventType : UInt32} {payloadJson : Bytes} {fd : Fd} {rest : Bytes}
    {targets : List (Fd × ConnId)} {anySent : Bool} {count : Nat}
    (here : state.pushes pusher = .writing eventType payloadJson fd target rest targets anySent)
    (reached : state.Reaches fd receiver)
    (same : ∃ writer, after.connections connection =
      { (state.sent receiver ⟨.event eventType payloadJson target, rest.take count⟩).connections
          connection with
        writeMutex := writer }) :
    Move state (.sendEvent pusher eventType payloadJson fd target rest targets anySent count)
      connection (after.connections connection) := by
  obtain ⟨writer, same⟩ := same
  rw [same, State.sent, State.connections_modify]
  split
  · rename_i mine
    subst mine
    exact .receives connection target pusher eventType payloadJson fd rest targets anySent count
      writer here reached
  · exact .still _ connection writer _ id nofun

end Move

/-! ## Conditions on a schedule -/

/-- What a push has collected and has not written yet. -/
def PushPoint.awaited : PushPoint → List (UInt32 × Fd × ConnId)
  | .idle => []
  | .locking eventType _ targets _ => targets.map (eventType, ·)
  | .writing eventType _ fd target _ targets _ =>
      (eventType, fd, target) :: targets.map (eventType, ·)

/-- What a push awaits after a step it awaited before, or has collected now. -/
theorem PushMove.awaited {state : State Pusher} {action : Action Pusher} {pusher : Pusher}
    {point : PushPoint} (move : PushMove state action pusher point) :
    ∀ entry ∈ point.awaited,
      entry ∈ (state.pushes pusher).awaited ∨ entry.2 ∈ state.subscribers entry.1 := by
  intro entry member
  cases move with
  | still => exact Or.inl member
  | collects _ _ eventType payloadJson targets here subscribed =>
      obtain ⟨pair, collected, rfl⟩ := List.mem_map.mp member
      exact Or.inr (subscribed pair collected)
  | locks _ eventType payloadJson fd target targets anySent here =>
      rw [here]
      exact Or.inl member
  | sends _ eventType payloadJson fd target rest targets anySent count here =>
      rw [here]
      exact Or.inl member
  | sendsAll _ eventType payloadJson fd target rest targets anySent count here
  | fails _ eventType payloadJson fd target rest targets anySent here =>
      rw [here]
      exact Or.inl (List.mem_cons_of_mem _ member)
  | declines | finishes => cases member

/-- No connection is accepted under a descriptor number that a push still awaits. -/
def DescriptorUnawaited (state : State Pusher) : Action Pusher → Prop
  | .accept fd => ∀ pusher, ∀ entry ∈ (state.pushes pusher).awaited, entry.2.1 ≠ fd
  | _ => True

instance [Fintype Pusher] (state : State Pusher) (action : Action Pusher) :
    Decidable (DescriptorUnawaited state action) := by
  unfold DescriptorUnawaited
  split <;> infer_instance

def Source.isEvent : Source → Bool
  | .response _ => false
  | .event _ _ _ => true

/-- A response is written as one frame. -/
def WholeResponses (_ : State Pusher) : Action Pusher → Prop
  | .sendResponse _ _ _ rest count => count = rest.length
  | _ => True

/-- The response of whatever connection has this descriptor is on its wire. -/
def State.Responded (state : State Pusher) (fd : Fd) : Prop :=
  ∀ connection ∈ state.descriptors fd,
    (state.connections connection).wire.any (fun chunk => !chunk.source.isEvent) = true

/-- The descriptor in whose section under `write_mutex` a push is. -/
def PushPoint.writingTo : PushPoint → Option Fd
  | .writing _ _ fd _ _ _ _ => some fd
  | _ => none

instance (state : State Pusher) (fd : Fd) : Decidable (state.Responded fd) :=
  inferInstanceAs (Decidable (∀ connection ∈ state.descriptors fd, _ = true))

/-- A push enters its writing section for a descriptor only after the response,
the descriptor stays the same connection's during the section, and the handlers
return responses that fit their length word. -/
def ResponseFirst (state : State Pusher) : Action Pusher → Prop
  | .lockPush _ _ _ fd _ _ _ => state.Responded fd
  | .accept fd => ∀ pusher, (state.pushes pusher).writingTo ≠ some fd
  | .handlerReturns _ _ _ outcome => ∀ responseJson ∈ outcome, responseJson.length < UInt32.size
  | _ => True

instance (state : State Pusher) (action : Action Pusher) :
    Decidable (WholeResponses state action) := by
  unfold WholeResponses
  split <;> infer_instance

instance [Fintype Pusher] (state : State Pusher) (action : Action Pusher) :
    Decidable (ResponseFirst state action) := by
  unfold ResponseFirst
  split <;> infer_instance

/-- The thread of a connection may still take a handler out of the server. -/
def ConnPoint.looks : ConnPoint → Bool
  | .unborn | .disconnectCopied _ | .inDisconnect _ | .closing | .done => false
  | _ => true

/-- A `start` finds no thread of an earlier period that may still look for a handler. -/
def ThreadsPast (state : State Pusher) : Action Pusher → Prop
  | .assignHandlers _ _ => ∀ connection < state.nextConnection,
      (state.connections connection).point.looks = false
  | _ => True

instance (state : State Pusher) (action : Action Pusher) :
    Decidable (ThreadsPast state action) := by
  unfold ThreadsPast
  split <;> infer_instance

/-! ## Steps -/

variable [DecidableEq Pusher] {maxFrameBytes : UInt32} {state next : State Pusher}
  {action : Action Pusher}

theorem step_moves (taken : step maxFrameBytes state action = some next) (connection : ConnId) :
    Move state action connection (next.connections connection) := by
  cases action with
  | start request disconnect =>
      obtain ⟨-, rfl⟩ := (guarded_eq_some ..).mp taken
      split <;> exact .aside _ connection rfl
  | stop =>
      obtain ⟨-, rfl⟩ := (guarded_eq_some ..).mp taken
      split <;> exact .aside _ connection rfl
  | listen ok =>
      obtain ⟨-, rfl⟩ := (guarded_eq_some ..).mp taken
      split <;> exact .aside _ connection rfl
  | shutdown fd rest =>
      obtain ⟨-, rfl⟩ := (guarded_eq_some ..).mp taken
      split
      · rename_i shut _
        exact Move.of_modify shut (fun own => { own with shutDown := true })
          (.still _ shut _ true (fun _ => rfl) (by simp [Action.mover])) (Or.inr rfl) connection
      · exact .aside _ connection rfl
  | accept fd =>
      obtain ⟨-, rfl⟩ := (guarded_eq_some ..).mp taken
      by_cases new : connection = state.nextConnection
      · simp only [new, Function.update_self]
        exact .born fd
      · simp only [Function.update_of_ne new]
        exact .aside _ connection rfl
  | spawnConnection spawned =>
      obtain ⟨here, rfl⟩ := (guarded_eq_some ..).mp taken
      exact Move.of_modify spawned (fun own => { own with point := .testingLoop })
        (.spawned spawned here) (Or.inl rfl) connection
  | testLoop mover =>
      obtain ⟨here, rfl⟩ := (guarded_eq_some ..).mp taken
      exact Move.along_edge (by rw [here]; exact .testLoop) rfl connection
  | readRequest mover request =>
      obtain ⟨here, rfl⟩ := (guarded_eq_some ..).mp taken
      exact Move.of_modify _ _ (.reads mover request here) (Or.inl rfl) connection
  | readFails mover =>
      obtain ⟨here, rfl⟩ := (guarded_eq_some ..).mp taken
      exact Move.along_edge (by rw [here]; exact .readFails) rfl connection
  | copyHandler mover request =>
      obtain ⟨here, rfl⟩ := (guarded_eq_some ..).mp taken
      exact Move.along_edge (by rw [here]; exact .copyHandler request) rfl connection
  | callHandler mover request handler =>
      obtain ⟨here, rfl⟩ := (guarded_eq_some ..).mp taken
      exact Move.along_edge (by rw [here]; exact .callHandler request handler) rfl connection
  | skipHandler mover request =>
      obtain ⟨here, rfl⟩ := (guarded_eq_some ..).mp taken
      exact Move.of_modify _ _ (.skips mover request here) (Or.inl rfl) connection
  | handlerReturns mover request handler outcome =>
      obtain ⟨here, rfl⟩ := (guarded_eq_some ..).mp taken
      exact Move.of_modify _ _ (.returns mover request handler outcome here) (Or.inl rfl) connection
  | findState mover answer =>
      obtain ⟨here, rfl⟩ := (guarded_eq_some ..).mp taken
      refine Move.along_edge ?_ rfl connection
      rw [here]
      split
      · rename_i owner found
        exact .found answer owner found
      · rename_i gone
        exact .removed answer gone
  | lockWrite mover owner answer =>
      obtain ⟨⟨here, free⟩, rfl⟩ := (guarded_eq_some ..).mp taken
      rw [State.setPoint, State.connections_modify]
      obtain ⟨writer, locked⟩ := state.connections_set_write_mutex owner
        (some (.connection mover)) connection
      split
      · rename_i mine
        subst mine
        rw [locked]
        exact .goes _ connection writer _ (by rw [here]; exact .lockWrite owner answer free)
      · rename_i other
        rw [locked]
        exact .still _ connection writer _ id (by simpa [Action.mover] using Ne.symm other)
  | sendResponse mover owner answer rest count =>
      obtain ⟨⟨here, -, -, reached⟩, rfl⟩ := (guarded_eq_some ..).mp taken
      simp only
      split
      · rename_i last
        refine Move.responded here reached ?_ (if_pos last)
        exact State.connections_set_write_mutex _ owner none connection
      · rename_i part
        exact Move.responded here reached ⟨_, rfl⟩ (if_neg part)
  | sendResponseFails mover owner answer rest =>
      obtain ⟨here, rfl⟩ := (guarded_eq_some ..).mp taken
      rw [State.setPoint, State.connections_modify]
      obtain ⟨writer, freed⟩ := state.connections_set_write_mutex owner none connection
      split
      · rename_i mine
        rw [freed]
        subst mine
        exact .goes _ connection writer _ (by rw [here]; exact .writeFails owner answer rest)
      · rename_i other
        rw [freed]
        exact .still _ connection writer _ id (by simpa [Action.mover] using Ne.symm other)
  | erase mover =>
      obtain ⟨here, rfl⟩ := (guarded_eq_some ..).mp taken
      exact Move.along_edge (by rw [here]; exact .erase) rfl connection
  | testRunning mover =>
      obtain ⟨here, rfl⟩ := (guarded_eq_some ..).mp taken
      exact Move.along_edge (by rw [here]; exact .testRunning) rfl connection
  | copyDisconnect mover =>
      obtain ⟨here, rfl⟩ := (guarded_eq_some ..).mp taken
      exact Move.along_edge (by rw [here]; exact .copyDisconnect) rfl connection
  | callDisconnect mover handler =>
      obtain ⟨here, rfl⟩ := (guarded_eq_some ..).mp taken
      exact Move.along_edge (by rw [here]; exact .callDisconnect handler) rfl connection
  | skipDisconnect mover =>
      obtain ⟨here, rfl⟩ := (guarded_eq_some ..).mp taken
      exact Move.along_edge (by rw [here]; exact .skipDisconnect) rfl connection
  | disconnectReturns mover handler =>
      obtain ⟨here, rfl⟩ := (guarded_eq_some ..).mp taken
      exact Move.along_edge (by rw [here]; exact .disconnectReturns handler) rfl connection
  | close mover =>
      obtain ⟨here, rfl⟩ := (guarded_eq_some ..).mp taken
      exact Move.along_edge (by rw [here]; exact .close) rfl connection
  | addSubscription fd eventType =>
      cases taken
      unfold State.addSubscription
      split
      · rename_i found
        dsimp only
        exact Move.of_modify _ _ (.subscribes fd eventType _ found) (Or.inr rfl) connection
      · exact .aside _ connection rfl
  | removeSubscription fd eventType =>
      cases taken
      unfold State.removeSubscription
      split
      · rename_i found
        dsimp only
        exact Move.of_modify _ _ (.unsubscribes fd eventType _ found) (Or.inr rfl) connection
      · exact .aside _ connection rfl
  | pushEventTo pusher fd eventType payloadJson =>
      obtain ⟨-, rfl⟩ := (guarded_eq_some ..).mp taken
      split
      · split <;> exact .aside _ connection rfl
      · exact .aside _ connection rfl
  | lockPush pusher eventType payloadJson fd target targets anySent =>
      obtain ⟨-, rfl⟩ := (guarded_eq_some ..).mp taken
      exact Move.of_modify target (fun own => { own with writeMutex := _ })
        (.still _ target _ _ id (by simp [Action.mover])) (Or.inr rfl) connection
  | sendEvent pusher eventType payloadJson fd target rest targets anySent count =>
      simp only [step] at taken
      split at taken
      · rename_i receiver _
        obtain ⟨⟨here, -, -, reached⟩, rfl⟩ := (guarded_eq_some ..).mp taken
        split
        · apply Move.received here reached
          exact State.connections_set_write_mutex _ target none connection
        · exact Move.received here reached ⟨_, rfl⟩
      · cases taken
  | sendEventFails pusher eventType payloadJson fd target rest targets anySent =>
      obtain ⟨-, rfl⟩ := (guarded_eq_some ..).mp taken
      exact Move.of_modify target (fun own => { own with writeMutex := _ })
        (.still _ target _ _ id (by simp [Action.mover])) (Or.inr rfl) connection
  | subscriberRead mover =>
      simp only [step] at taken
      split at taken
      · rename_i reader read
        cases taken
        exact Move.of_modify _ _ (.subscriberReads mover maxFrameBytes reader read) (Or.inr rfl)
          connection
      · cases taken
  | subscriberFails mover =>
      obtain ⟨-, rfl⟩ := (guarded_eq_some ..).mp taken
      exact Move.of_modify _ _ (.subscriberFails mover) (Or.inr rfl) connection
  | _ =>
      obtain ⟨-, rfl⟩ := (guarded_eq_some ..).mp taken
      exact .aside _ connection rfl

theorem PushMove.of_set_push {mover : Pusher} {point : PushPoint}
    (mine : PushMove state action mover point) (moved : action.pusher = some mover)
    (pusher : Pusher) :
    PushMove state action pusher ((state.setPush mover point).pushes pusher) := by
  by_cases same : pusher = mover
  · subst same
    simp only [State.setPush, Function.update_self]
    exact mine
  · simp only [State.setPush, Function.update_of_ne same]
    exact .still action pusher (by simpa [moved] using Ne.symm same)

theorem step_pushes (taken : step maxFrameBytes state action = some next) (pusher : Pusher) :
    PushMove state action pusher (next.pushes pusher) := by
  cases action with
  | start request disconnect =>
      obtain ⟨-, rfl⟩ := (guarded_eq_some ..).mp taken
      split <;> exact .still _ pusher nofun
  | stop =>
      obtain ⟨-, rfl⟩ := (guarded_eq_some ..).mp taken
      split <;> exact .still _ pusher nofun
  | listen ok =>
      obtain ⟨-, rfl⟩ := (guarded_eq_some ..).mp taken
      split <;> exact .still _ pusher nofun
  | shutdown fd rest =>
      obtain ⟨-, rfl⟩ := (guarded_eq_some ..).mp taken
      split <;> exact .still _ pusher nofun
  | sendResponse mover owner answer rest count =>
      obtain ⟨-, rfl⟩ := (guarded_eq_some ..).mp taken
      simp only
      split <;> exact .still _ pusher nofun
  | addSubscription fd eventType =>
      cases taken
      unfold State.addSubscription
      split <;> exact .still _ pusher nofun
  | removeSubscription fd eventType =>
      cases taken
      unfold State.removeSubscription
      split <;> exact .still _ pusher nofun
  | pushEvent mover eventType payloadJson targets =>
      obtain ⟨⟨here, collected⟩, rfl⟩ := (guarded_eq_some ..).mp taken
      apply PushMove.of_set_push _ rfl
      exact .collects _ mover eventType payloadJson targets here fun _ => collected.mem_iff.mp
  | pushEventTo mover fd eventType payloadJson =>
      obtain ⟨here, rfl⟩ := (guarded_eq_some ..).mp taken
      have declined : PushMove state (.pushEventTo mover fd eventType payloadJson) pusher
          (state.pushes pusher) := by
        by_cases same : mover = pusher
        · subst same
          rw [here]
          exact .declines mover fd eventType payloadJson here
        · exact .still _ pusher (by simpa [Action.pusher] using same)
      split
      · rename_i connection found
        split
        · rename_i subscribed
          apply PushMove.of_set_push _ rfl
          apply PushMove.collects _ _ _ _ _ here
          intro pair member
          rw [List.mem_singleton.mp member]
          exact List.mem_filter.mpr ⟨State.mem_of_find found, by simpa using subscribed⟩
        · exact declined
      · exact declined
  | lockPush mover eventType payloadJson fd target targets anySent =>
      obtain ⟨⟨here, free⟩, rfl⟩ := (guarded_eq_some ..).mp taken
      exact PushMove.of_set_push
        (.locks mover eventType payloadJson fd target targets anySent here free) rfl pusher
  | sendEvent mover eventType payloadJson fd target rest targets anySent count =>
      simp only [step] at taken
      split at taken
      · obtain ⟨⟨here, -⟩, rfl⟩ := (guarded_eq_some ..).mp taken
        split
        · rename_i all
          exact PushMove.of_set_push
            (.sendsAll mover eventType payloadJson fd target rest targets anySent count here all)
            rfl pusher
        · rename_i short
          exact PushMove.of_set_push
            (.sends mover eventType payloadJson fd target rest targets anySent count here
              (Nat.lt_of_not_le short)) rfl pusher
      · cases taken
  | sendEventFails mover eventType payloadJson fd target rest targets anySent =>
      obtain ⟨here, rfl⟩ := (guarded_eq_some ..).mp taken
      exact PushMove.of_set_push
        (.fails mover eventType payloadJson fd target rest targets anySent here) rfl pusher
  | finishPush mover eventType payloadJson anySent =>
      obtain ⟨here, rfl⟩ := (guarded_eq_some ..).mp taken
      exact PushMove.of_set_push (.finishes mover eventType payloadJson anySent here) rfl pusher
  | subscriberRead mover =>
      simp only [step] at taken
      split at taken <;> cases taken
      exact .still _ pusher nofun
  | _ =>
      obtain ⟨-, rfl⟩ := (guarded_eq_some ..).mp taken
      exact .still _ pusher nofun

def Action.unmoving : Action Pusher → Bool
  | .sendResponse _ _ _ _ _ | .addSubscription _ _ | .removeSubscription _ _ | .pushEventTo _ _ _ _
  | .sendEvent _ _ _ _ _ _ _ _ _ | .subscriberRead _ => true
  | _ => false

theorem step_unmoved (unmoving : action.unmoving = true)
    (taken : step maxFrameBytes state action = some next) : Unmoved state next := by
  cases action with
  | sendResponse mover owner answer rest count =>
      obtain ⟨-, rfl⟩ := (guarded_eq_some ..).mp taken
      simp only
      split <;> exact ⟨rfl, rfl, rfl, rfl, rfl, rfl⟩
  | addSubscription fd eventType =>
      cases taken
      unfold State.addSubscription
      split <;> exact ⟨rfl, rfl, rfl, rfl, rfl, rfl⟩
  | removeSubscription fd eventType =>
      cases taken
      unfold State.removeSubscription
      split <;> exact ⟨rfl, rfl, rfl, rfl, rfl, rfl⟩
  | pushEventTo pusher fd eventType payloadJson =>
      obtain ⟨-, rfl⟩ := (guarded_eq_some ..).mp taken
      split
      · split <;> exact ⟨rfl, rfl, rfl, rfl, rfl, rfl⟩
      · exact ⟨rfl, rfl, rfl, rfl, rfl, rfl⟩
  | sendEvent pusher eventType payloadJson used target rest targets anySent count =>
      simp only [step] at taken
      split at taken
      · obtain ⟨-, rfl⟩ := (guarded_eq_some ..).mp taken
        split <;> exact ⟨rfl, rfl, rfl, rfl, rfl, rfl⟩
      · cases taken
  | subscriberRead mover =>
      simp only [step] at taken
      split at taken <;> cases taken
      exact ⟨rfl, rfl, rfl, rfl, rfl, rfl⟩
  | _ => cases unmoving

theorem step_descriptors (taken : step maxFrameBytes state action = some next) :
    DescriptorMove state action next.descriptors next.nextConnection := by
  cases action with
  | accept accepted =>
      obtain ⟨⟨-, free⟩, rfl⟩ := (guarded_eq_some ..).mp taken
      exact .accepts accepted free
  | close mover =>
      obtain ⟨here, rfl⟩ := (guarded_eq_some ..).mp taken
      exact .closes mover here
  | start request disconnect =>
      obtain ⟨-, rfl⟩ := (guarded_eq_some ..).mp taken
      split <;> exact .still _ rfl
  | stop =>
      obtain ⟨-, rfl⟩ := (guarded_eq_some ..).mp taken
      split <;> exact .still _ rfl
  | listen ok =>
      obtain ⟨-, rfl⟩ := (guarded_eq_some ..).mp taken
      split <;> exact .still _ rfl
  | shutdown shut rest =>
      obtain ⟨-, rfl⟩ := (guarded_eq_some ..).mp taken
      split <;> exact .still _ rfl
  | sendResponse | addSubscription | removeSubscription | pushEventTo | sendEvent
  | subscriberRead => exact .unmoved rfl (step_unmoved rfl taken)
  | _ =>
      obtain ⟨-, rfl⟩ := (guarded_eq_some ..).mp taken
      exact .still _ rfl

theorem step_opens (taken : step maxFrameBytes state action = some next) :
    Opens state action next := by
  have move := step_descriptors taken
  generalize opened : next.descriptors = descriptors at move
  generalize counted : next.nextConnection = recent at move
  cases move with
  | still =>
      refine ⟨?_, Nat.le_of_eq counted.symm, ?_⟩
      · intro fd connection reached
        exact Or.inl (opened ▸ reached)
      · intro connection old new
        exact absurd (counted ▸ new) (Nat.not_lt_of_le old)
  | accepts accepted free =>
      refine ⟨?_, counted ▸ Nat.le_succ _, ?_⟩
      · intro fd connection reached
        rw [opened] at reached
        by_cases same : fd = accepted
        · simp only [same, Function.update_self, Option.some.injEq] at reached
          exact Or.inr ⟨by rw [same], reached.symm⟩
        · simp only [Function.update_of_ne same] at reached
          exact Or.inl reached
      · intro connection old new
        rw [counted] at new
        exact ⟨Nat.le_antisymm (Nat.le_of_lt_succ new) old, accepted, rfl⟩
  | closes mover here =>
      refine ⟨?_, Nat.le_of_eq counted.symm, ?_⟩
      · intro fd connection reached
        rw [opened] at reached
        by_cases same : fd = (state.connections mover).fd
        · simp [same] at reached
        · simp only [Function.update_of_ne same] at reached
          exact Or.inl reached
      · intro connection old new
        exact absurd (counted ▸ new) (Nat.not_lt_of_le old)

theorem step_tables (taken : step maxFrameBytes state action = some next) :
    TableMove state action next.clients next.accepting := by
  cases action with
  | start request disconnect =>
      obtain ⟨-, rfl⟩ := (guarded_eq_some ..).mp taken
      split <;> exact .still _ rfl
  | stop =>
      obtain ⟨-, rfl⟩ := (guarded_eq_some ..).mp taken
      split <;> exact .still _ rfl
  | listen ok =>
      obtain ⟨-, rfl⟩ := (guarded_eq_some ..).mp taken
      split <;> exact .still _ rfl
  | spawnAccept =>
      obtain ⟨here, rfl⟩ := (guarded_eq_some ..).mp taken
      exact .spawnsAccept here
  | join =>
      obtain ⟨⟨here, ended⟩, rfl⟩ := (guarded_eq_some ..).mp taken
      exact .joins here ended
  | shutdown shut rest =>
      obtain ⟨-, rfl⟩ := (guarded_eq_some ..).mp taken
      split <;> exact .still _ rfl
  | testAccept =>
      obtain ⟨here, rfl⟩ := (guarded_eq_some ..).mp taken
      exact .tests here
  | acceptBreaks =>
      obtain ⟨here, rfl⟩ := (guarded_eq_some ..).mp taken
      exact .breaks here
  | acceptFails =>
      obtain ⟨here, rfl⟩ := (guarded_eq_some ..).mp taken
      exact .fails here
  | accept fd =>
      obtain ⟨⟨here, free⟩, rfl⟩ := (guarded_eq_some ..).mp taken
      exact .accepts fd here free
  | insertClient connection fd =>
      obtain ⟨here, rfl⟩ := (guarded_eq_some ..).mp taken
      exact .inserts connection fd here
  | spawnConnection connection =>
      obtain ⟨here, rfl⟩ := (guarded_eq_some ..).mp taken
      exact .spawns connection here
  | erase connection =>
      obtain ⟨here, rfl⟩ := (guarded_eq_some ..).mp taken
      exact .erases connection here
  | sendResponse | addSubscription | removeSubscription | pushEventTo | sendEvent
  | subscriberRead => exact .unmoved rfl (step_unmoved rfl taken)
  | _ =>
      obtain ⟨-, rfl⟩ := (guarded_eq_some ..).mp taken
      exact .still _ rfl

theorem step_controls (taken : step maxFrameBytes state action = some next) :
    ControlMove state action next.settings := by
  cases action with
  | start request disconnect =>
      obtain ⟨here, rfl⟩ := (guarded_eq_some ..).mp taken
      split
      · rename_i on
        exact .startsAgain request disconnect on
      · rename_i off
        exact .starts request disconnect here (Bool.eq_false_of_not_eq_true off)
  | assignHandlers request disconnect =>
      obtain ⟨here, rfl⟩ := (guarded_eq_some ..).mp taken
      exact .assigns request disconnect here
  | listen ok =>
      obtain ⟨here, rfl⟩ := (guarded_eq_some ..).mp taken
      cases ok with
      | true => exact .listens here
      | false => exact .listenFails here
  | spawnAccept =>
      obtain ⟨here, rfl⟩ := (guarded_eq_some ..).mp taken
      exact .spawnsAccept here
  | stop =>
      obtain ⟨here, rfl⟩ := (guarded_eq_some ..).mp taken
      split
      · rename_i on
        exact .stops here on
      · rename_i off
        exact .stopsAgain here (Bool.eq_false_of_not_eq_true off)
  | wake =>
      obtain ⟨here, rfl⟩ := (guarded_eq_some ..).mp taken
      exact .wakes here
  | join =>
      obtain ⟨⟨here, ended⟩, rfl⟩ := (guarded_eq_some ..).mp taken
      exact .joins here ended
  | collect fds =>
      obtain ⟨⟨here, all⟩, rfl⟩ := (guarded_eq_some ..).mp taken
      exact .collects fds here all
  | shutdown shut rest =>
      obtain ⟨here, rfl⟩ := (guarded_eq_some ..).mp taken
      split <;> exact .shuts shut rest here
  | shutdownDone =>
      obtain ⟨here, rfl⟩ := (guarded_eq_some ..).mp taken
      exact .shutsAll here
  | clear =>
      obtain ⟨here, rfl⟩ := (guarded_eq_some ..).mp taken
      exact .clears here
  | finishStop =>
      obtain ⟨here, rfl⟩ := (guarded_eq_some ..).mp taken
      exact .finishes here
  | sendResponse | addSubscription | removeSubscription | pushEventTo | sendEvent
  | subscriberRead => exact .unmoved rfl (step_unmoved rfl taken)
  | _ =>
      obtain ⟨-, rfl⟩ := (guarded_eq_some ..).mp taken
      exact .still _ rfl

theorem step_invokes (taken : step maxFrameBytes state action = some next) :
    InvokeMove state action next.invocations := by
  cases action with
  | callHandler connection request handler =>
      obtain ⟨here, rfl⟩ := (guarded_eq_some ..).mp taken
      exact .requests connection request handler here
  | callDisconnect connection handler =>
      obtain ⟨here, rfl⟩ := (guarded_eq_some ..).mp taken
      exact .disconnects connection handler here
  | start | stop | listen | shutdown =>
      obtain ⟨-, rfl⟩ := (guarded_eq_some ..).mp taken
      split <;> exact .still _
  | sendResponse | addSubscription | removeSubscription | pushEventTo | sendEvent
  | subscriberRead => exact .unmoved (step_unmoved rfl taken)
  | _ =>
      obtain ⟨-, rfl⟩ := (guarded_eq_some ..).mp taken
      exact .still _

end TboxFramework.Ipc.Server

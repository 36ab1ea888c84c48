import TboxFramework.Ipc.Protocol
import TboxFramework.Library.Interleaving

/-!
# The server

Every accepted connection has a detached thread in `connectionLoop`; one accept
thread, one thread that calls `start` and `stop`, and any number of threads that
push events run beside them. A section under a mutex, a test of an atomic and a
system call are one step each. The wire of a connection lists every `send` that
reached it, with the frame that its bytes belong to.
-/

namespace TboxFramework.Ipc.Server

open Interleaving FrameStream

set_option autoImplicit false

abbrev Fd := Nat

/-- One accepted connection, with the `ClientState` that was made for it. -/
abbrev ConnId := Nat

/-- One function object that was given to `start`. -/
abbrev HandlerId := Nat

structure Request where
  methodId : UInt32
  paramsJson : Bytes
  deriving DecidableEq, Repr

/-- The program points of `connectionLoop`. -/
inductive ConnPoint
  | unborn
  | testingLoop
  | reading
  | copyingHandler (request : Request)
  | handlerCopied (request : Request) (handler : Option HandlerId)
  | inHandler (request : Request) (handler : HandlerId)
  | findingState (answer : Result)
  | lockingWrite (owner : ConnId) (answer : Result)
  | writing (owner : ConnId) (answer : Result) (rest : Bytes)
  | erasing
  | testingRunning
  | copyingDisconnect
  | disconnectCopied (handler : Option HandlerId)
  | inDisconnect (handler : HandlerId)
  | closing
  | done
  deriving DecidableEq, Repr

/-- The frame that some bytes of a connection belong to; an event remembers the
connection it was collected for. -/
inductive Source
  | response (answer : Result)
  | event (eventType : UInt32) (payloadJson : Bytes) (target : ConnId)
  deriving DecidableEq, Repr

structure Chunk where
  source : Source
  bytes : Bytes
  deriving DecidableEq, Repr

/-- A subscription at the other end, in `doConnectAndSubscribe` and `eventLoop`. -/
inductive ReaderPoint
  | awaitingResponse
  | subscribed
  | rejected
  | failed
  deriving DecidableEq, Repr

structure Reader where
  point : ReaderPoint
  /-- How many bytes it has read. -/
  position : Nat
  /-- The frame whose bytes it took for its response. -/
  taken : Option Source
  /-- The frames whose bytes went to the event callback. -/
  delivered : List Source
  deriving DecidableEq, Repr

/-- Who holds a `write_mutex`. -/
inductive Writer (Pusher : Type)
  | connection (connection : ConnId)
  | pusher (pusher : Pusher)
  deriving DecidableEq, Repr

structure Connection (Pusher : Type) where
  fd : Fd
  point : ConnPoint
  subscriptions : List UInt32
  /-- Every event type that has ever been in `subscriptions`. -/
  everSubscribed : List UInt32
  writeMutex : Option (Writer Pusher)
  shutDown : Bool
  wire : List Chunk
  requests : Nat
  /-- What the handler made of each request. -/
  outcomes : List (Option Bytes)
  reader : Reader
  deriving DecidableEq, Repr

inductive AcceptPoint
  | absent
  | testing
  | selecting
  | inserting (connection : ConnId) (fd : Fd)
  | spawning (connection : ConnId)
  | exited
  deriving DecidableEq, Repr

/-- The thread that calls `start` and `stop`. -/
inductive ControlPoint
  | idle
  | assigning (request disconnect : Option HandlerId)
  | listening
  | spawning
  | waking
  | joining
  | collecting
  | shutting (fds : List Fd)
  | clearing
  | finishing
  | stopped
  deriving DecidableEq, Repr

inductive PushPoint
  | idle
  | locking (eventType : UInt32) (payloadJson : Bytes) (targets : List (Fd × ConnId))
      (anySent : Bool)
  | writing (eventType : UInt32) (payloadJson : Bytes) (fd : Fd) (target : ConnId)
      (rest : Bytes) (targets : List (Fd × ConnId)) (anySent : Bool)
  deriving DecidableEq, Repr

inductive Invocation
  | request (handler : HandlerId) (connection : ConnId)
  | disconnect (handler : HandlerId) (connection : ConnId)
  deriving DecidableEq, Repr

structure State (Pusher : Type) where
  running : Bool
  requestHandler : Option HandlerId
  disconnectHandler : Option HandlerId
  clients : List (Fd × ConnId)
  /-- The connections behind the open descriptors. -/
  descriptors : Fd → Option ConnId
  connections : ConnId → Connection Pusher
  nextConnection : ConnId
  accepting : AcceptPoint
  control : ControlPoint
  pushes : Pusher → PushPoint
  /-- Every handler call that has begun. -/
  invocations : List Invocation

inductive Action (Pusher : Type)
  | start (request disconnect : Option HandlerId)
  | assignHandlers (request disconnect : Option HandlerId)
  | listen (ok : Bool)
  | spawnAccept
  | stop
  | wake
  | join
  | collect (fds : List Fd)
  | shutdown (fd : Fd) (rest : List Fd)
  | shutdownDone
  | clear
  | finishStop
  | testAccept
  | acceptBreaks
  | acceptFails
  | accept (fd : Fd)
  | insertClient (connection : ConnId) (fd : Fd)
  | spawnConnection (connection : ConnId)
  | testLoop (connection : ConnId)
  | readRequest (connection : ConnId) (request : Request)
  | readFails (connection : ConnId)
  | copyHandler (connection : ConnId) (request : Request)
  | callHandler (connection : ConnId) (request : Request) (handler : HandlerId)
  | skipHandler (connection : ConnId) (request : Request)
  | handlerReturns (connection : ConnId) (request : Request) (handler : HandlerId)
      (outcome : Option Bytes)
  | findState (connection : ConnId) (answer : Result)
  | lockWrite (connection : ConnId) (owner : ConnId) (answer : Result)
  | sendResponse (connection : ConnId) (owner : ConnId) (answer : Result) (rest : Bytes)
      (count : Nat)
  | sendResponseInterrupted (connection : ConnId) (owner : ConnId) (answer : Result)
      (rest : Bytes)
  | sendResponseFails (connection : ConnId) (owner : ConnId) (answer : Result) (rest : Bytes)
  | erase (connection : ConnId)
  | testRunning (connection : ConnId)
  | copyDisconnect (connection : ConnId)
  | callDisconnect (connection : ConnId) (handler : HandlerId)
  | skipDisconnect (connection : ConnId)
  | disconnectReturns (connection : ConnId) (handler : HandlerId)
  | close (connection : ConnId)
  | addSubscription (fd : Fd) (eventType : UInt32)
  | removeSubscription (fd : Fd) (eventType : UInt32)
  | pushEvent (pusher : Pusher) (eventType : UInt32) (payloadJson : Bytes)
      (targets : List (Fd × ConnId))
  | pushEventTo (pusher : Pusher) (fd : Fd) (eventType : UInt32) (payloadJson : Bytes)
  | lockPush (pusher : Pusher) (eventType : UInt32) (payloadJson : Bytes) (fd : Fd)
      (target : ConnId) (targets : List (Fd × ConnId)) (anySent : Bool)
  | sendEvent (pusher : Pusher) (eventType : UInt32) (payloadJson : Bytes) (fd : Fd)
      (target : ConnId) (rest : Bytes) (targets : List (Fd × ConnId)) (anySent : Bool)
      (count : Nat)
  | sendEventInterrupted (pusher : Pusher) (eventType : UInt32) (payloadJson : Bytes) (fd : Fd)
      (target : ConnId) (rest : Bytes) (targets : List (Fd × ConnId)) (anySent : Bool)
  | sendEventFails (pusher : Pusher) (eventType : UInt32) (payloadJson : Bytes) (fd : Fd)
      (target : ConnId) (rest : Bytes) (targets : List (Fd × ConnId)) (anySent : Bool)
  | finishPush (pusher : Pusher) (eventType : UInt32) (payloadJson : Bytes) (anySent : Bool)
  | subscriberRead (connection : ConnId)
  | subscriberFails (connection : ConnId)

variable {Pusher : Type}

def Connection.unborn : Connection Pusher where
  fd := 0
  point := .unborn
  subscriptions := []
  everSubscribed := []
  writeMutex := none
  shutDown := false
  wire := []
  requests := 0
  outcomes := []
  reader := ⟨.awaitingResponse, 0, none, []⟩

def initial : State Pusher where
  running := false
  requestHandler := none
  disconnectHandler := none
  clients := []
  descriptors := fun _ => none
  connections := fun _ => .unborn
  nextConnection := 0
  accepting := .absent
  control := .idle
  pushes := fun _ => .idle
  invocations := []

namespace State

def modify (state : State Pusher) (connection : ConnId)
    (change : Connection Pusher → Connection Pusher) : State Pusher :=
  { state with
    connections := Function.update state.connections connection
      (change (state.connections connection)) }

def setPoint (state : State Pusher) (connection : ConnId) (point : ConnPoint) : State Pusher :=
  state.modify connection fun own => { own with point := point }

def setWriteMutex (state : State Pusher) (owner : ConnId) (writer : Option (Writer Pusher)) :
    State Pusher :=
  state.modify owner fun own => { own with writeMutex := writer }

/-- A `send` that reaches a connection. -/
def sent (state : State Pusher) (connection : ConnId) (chunk : Chunk) : State Pusher :=
  state.modify connection fun own => { own with wire := own.wire ++ [chunk] }

/-- The handler is through with a request of a connection. -/
def answered (state : State Pusher) (connection : ConnId) (outcome : Option Bytes) :
    State Pusher :=
  state.modify connection fun own =>
    { own with
      point := .findingState (handlerResult outcome)
      outcomes := own.outcomes ++ [outcome] }

def invoke (state : State Pusher) (invocation : Invocation) : State Pusher :=
  { state with invocations := state.invocations ++ [invocation] }

def setControl (state : State Pusher) (point : ControlPoint) : State Pusher :=
  { state with control := point }

def setAccepting (state : State Pusher) (point : AcceptPoint) : State Pusher :=
  { state with accepting := point }

/-- `m_clients.find`. -/
def find (state : State Pusher) (fd : Fd) : Option ConnId := state.clients.lookup fd

/-- The entries of `m_clients` whose connection subscribes to an event type. -/
def subscribers (state : State Pusher) (eventType : UInt32) : List (Fd × ConnId) :=
  state.clients.filter fun pair => eventType ∈ (state.connections pair.2).subscriptions

def addSubscription (state : State Pusher) (fd : Fd) (eventType : UInt32) :
    State Pusher × Bool :=
  match state.find fd with
  | some connection =>
      (state.modify connection fun own =>
        { own with
          subscriptions := eventType :: own.subscriptions
          everSubscribed := eventType :: own.everSubscribed }, true)
  | none => (state, false)

def removeSubscription (state : State Pusher) (fd : Fd) (eventType : UInt32) :
    State Pusher × Bool :=
  match state.find fd with
  | some connection =>
      (state.modify connection fun own =>
        { own with subscriptions := own.subscriptions.filter (· ≠ eventType) }, true)
  | none => (state, false)

/-- A `send` through this descriptor can reach this connection. -/
def Reaches (state : State Pusher) (fd : Fd) (connection : ConnId) : Prop :=
  state.descriptors fd = some connection ∧ (state.connections connection).shutDown = false

instance (state : State Pusher) (fd : Fd) (connection : ConnId) :
    Decidable (state.Reaches fd connection) := inferInstanceAs (Decidable (_ ∧ _))

/-- A part of a connection that a change leaves alone is the same everywhere. -/
theorem modify_field {Field : Type} (field : Connection Pusher → Field) (state : State Pusher)
    (connection : ConnId) (change : Connection Pusher → Connection Pusher)
    (kept : field (change (state.connections connection)) = field (state.connections connection))
    (other : ConnId) :
    field ((state.modify connection change).connections other) =
      field (state.connections other) := by
  by_cases mine : other = connection
  · simp only [modify, mine, Function.update_self, kept]
  · simp only [modify, Function.update_of_ne mine]

@[simp] theorem point_set_point (state : State Pusher) (connection : ConnId) (point : ConnPoint) :
    ((state.setPoint connection point).connections connection).point = point := by
  simp [setPoint, modify]

variable [DecidableEq Pusher]

def setPush (state : State Pusher) (pusher : Pusher) (point : PushPoint) : State Pusher :=
  { state with pushes := Function.update state.pushes pusher point }

end State

/-- The frame that the byte at a position of the stream belongs to. -/
def sourceAt : List Chunk → Nat → Option Source
  | [], _ => none
  | chunk :: rest, position =>
      if position < chunk.bytes.length then some chunk.source
      else sourceAt rest (position - chunk.bytes.length)

/-- The next frame of a subscription: the first is its response, whatever it is,
and every other one an event. -/
def Reader.read (maxFrameBytes : UInt32) (reader : Reader) (wire : List Chunk) : Option Reader :=
  let unread := (wire.flatMap Chunk.bytes).drop reader.position
  match reader.point with
  | .awaitingResponse =>
      match readResponse maxFrameBytes unread with
      | .complete statusCode responseJson =>
          some { reader with
            point := if statusCode.toInt32 ≠ 0 then .rejected else .subscribed
            position := reader.position + (8 + responseJson.length)
            taken := sourceAt wire reader.position }
      | .overLimit => some { reader with point := .failed }
      | .more _ => none
  | .subscribed =>
      match readEvent maxFrameBytes unread with
      | .complete _ payloadJson =>
          some { reader with
            position := reader.position + (8 + payloadJson.length)
            delivered := reader.delivered ++ (sourceAt wire reader.position).toList }
      | .overLimit => some { reader with point := .failed }
      | .more _ => none
  | _ => none

variable [DecidableEq Pusher]

def step (maxFrameBytes : UInt32) (state : State Pusher) : Action Pusher → Option (State Pusher)
  | .start request disconnect =>
      guarded (state.control = .idle ∨ state.control = .stopped)
        (if state.running then state else state.setControl (.assigning request disconnect))
  | .assignHandlers request disconnect =>
      guarded (state.control = .assigning request disconnect)
        { state with
          requestHandler := request
          disconnectHandler := disconnect
          control := .listening }
  | .listen ok =>
      guarded (state.control = .listening)
        (if ok then { state with running := true, control := .spawning }
        else state.setControl .idle)
  | .spawnAccept =>
      guarded (state.control = .spawning)
        ((state.setAccepting .testing).setControl .idle)
  | .stop =>
      guarded (state.control = .idle ∨ state.control = .stopped)
        (if state.running then { state with running := false, control := .waking }
        else state.setControl .stopped)
  | .wake => guarded (state.control = .waking) (state.setControl .joining)
  | .join =>
      guarded (state.control = .joining ∧ (state.accepting = .absent ∨ state.accepting = .exited))
        ((state.setAccepting .absent).setControl .collecting)
  | .collect fds =>
      guarded (state.control = .collecting ∧ fds.Perm (state.clients.map Prod.fst))
        (state.setControl (.shutting fds))
  | .shutdown fd rest =>
      guarded (state.control = .shutting (fd :: rest))
        ((match state.descriptors fd with
          | some connection => state.modify connection fun own => { own with shutDown := true }
          | none => state).setControl (.shutting rest))
  | .shutdownDone => guarded (state.control = .shutting []) (state.setControl .clearing)
  | .clear =>
      guarded (state.control = .clearing)
        { state with
          requestHandler := none
          disconnectHandler := none
          control := .finishing }
  | .finishStop => guarded (state.control = .finishing) (state.setControl .stopped)
  | .testAccept =>
      guarded (state.accepting = .testing)
        (state.setAccepting (if state.running then .selecting else .exited))
  | .acceptBreaks => guarded (state.accepting = .selecting) (state.setAccepting .exited)
  | .acceptFails => guarded (state.accepting = .selecting) (state.setAccepting .testing)
  | .accept fd =>
      guarded (state.accepting = .selecting ∧ state.descriptors fd = none)
        { state with
          descriptors := Function.update state.descriptors fd (some state.nextConnection)
          connections := Function.update state.connections state.nextConnection
            { Connection.unborn with fd := fd }
          nextConnection := state.nextConnection + 1
          accepting := .inserting state.nextConnection fd }
  | .insertClient connection fd =>
      guarded (state.accepting = .inserting connection fd)
        { state with
          clients := (fd, connection) :: state.clients.filter (·.1 ≠ fd)
          accepting := .spawning connection }
  | .spawnConnection connection =>
      guarded (state.accepting = .spawning connection)
        ((state.setPoint connection .testingLoop).setAccepting .testing)
  | .testLoop connection =>
      guarded ((state.connections connection).point = .testingLoop)
        (state.setPoint connection (if state.running then .reading else .erasing))
  | .readRequest connection request =>
      guarded ((state.connections connection).point = .reading)
        (state.modify connection fun own =>
          { own with point := .copyingHandler request, requests := own.requests + 1 })
  | .readFails connection =>
      guarded ((state.connections connection).point = .reading)
        (state.setPoint connection .erasing)
  | .copyHandler connection request =>
      guarded ((state.connections connection).point = .copyingHandler request)
        (state.setPoint connection (.handlerCopied request state.requestHandler))
  | .callHandler connection request handler =>
      -- `m_running` is not looked at between the copy and the call
      guarded ((state.connections connection).point = .handlerCopied request (some handler))
        ((state.setPoint connection (.inHandler request handler)).invoke
          (.request handler connection))
  | .skipHandler connection request =>
      guarded ((state.connections connection).point = .handlerCopied request none)
        (state.answered connection none)
  | .handlerReturns connection request handler outcome =>
      guarded ((state.connections connection).point = .inHandler request handler)
        (state.answered connection outcome)
  | .findState connection answer =>
      guarded ((state.connections connection).point = .findingState answer)
        (state.setPoint connection (match state.find (state.connections connection).fd with
          | some owner => .lockingWrite owner answer
          | none => .erasing))
  | .lockWrite connection owner answer =>
      guarded ((state.connections connection).point = .lockingWrite owner answer ∧
          (state.connections owner).writeMutex = none)
        ((state.setWriteMutex owner (some (.connection connection))).setPoint connection
          (.writing owner answer (encodeResponse answer.1 answer.2)))
  | .sendResponse connection owner answer rest count =>
      guarded ((state.connections connection).point = .writing owner answer rest ∧
          0 < count ∧ count ≤ rest.length ∧
          state.Reaches (state.connections connection).fd connection)
        (let after := state.sent connection ⟨.response answer, rest.take count⟩
        if rest.length ≤ count then
          (after.setWriteMutex owner none).setPoint connection .testingLoop
        else after.setPoint connection (.writing owner answer (rest.drop count)))
  | .sendResponseInterrupted connection owner answer rest =>
      guarded ((state.connections connection).point = .writing owner answer rest) state
  | .sendResponseFails connection owner answer rest =>
      guarded ((state.connections connection).point = .writing owner answer rest)
        ((state.setWriteMutex owner none).setPoint connection .erasing)
  | .erase connection =>
      guarded ((state.connections connection).point = .erasing)
        (State.setPoint { state with
          clients := state.clients.filter (·.1 ≠ (state.connections connection).fd) }
          connection .testingRunning)
  | .testRunning connection =>
      guarded ((state.connections connection).point = .testingRunning)
        (state.setPoint connection (if state.running then .copyingDisconnect else .closing))
  | .copyDisconnect connection =>
      guarded ((state.connections connection).point = .copyingDisconnect)
        (state.setPoint connection (.disconnectCopied state.disconnectHandler))
  | .callDisconnect connection handler =>
      guarded ((state.connections connection).point = .disconnectCopied (some handler))
        ((state.setPoint connection (.inDisconnect handler)).invoke
          (.disconnect handler connection))
  | .skipDisconnect connection =>
      guarded ((state.connections connection).point = .disconnectCopied none)
        (state.setPoint connection .closing)
  | .disconnectReturns connection handler =>
      guarded ((state.connections connection).point = .inDisconnect handler)
        (state.setPoint connection .closing)
  | .close connection =>
      -- no `write_mutex` is held here, whatever the comment in the source says
      guarded ((state.connections connection).point = .closing)
        (State.setPoint { state with
          descriptors := Function.update state.descriptors (state.connections connection).fd none }
          connection .done)
  | .addSubscription fd eventType => some (state.addSubscription fd eventType).1
  | .removeSubscription fd eventType => some (state.removeSubscription fd eventType).1
  | .pushEvent pusher eventType payloadJson targets =>
      guarded (state.pushes pusher = .idle ∧ targets.Perm (state.subscribers eventType))
        (state.setPush pusher (.locking eventType payloadJson targets false))
  | .pushEventTo pusher fd eventType payloadJson =>
      -- without a target the call returns false at once
      guarded (state.pushes pusher = .idle)
        (match state.find fd with
        | some connection =>
            if eventType ∈ (state.connections connection).subscriptions then
              state.setPush pusher (.locking eventType payloadJson [(fd, connection)] false)
            else state
        | none => state)
  | .lockPush pusher eventType payloadJson fd target targets anySent =>
      guarded (state.pushes pusher =
            .locking eventType payloadJson ((fd, target) :: targets) anySent ∧
          (state.connections target).writeMutex = none)
        ((state.setWriteMutex target (some (.pusher pusher))).setPush pusher
          (.writing eventType payloadJson fd target (encodeEvent eventType payloadJson) targets
            anySent))
  | .sendEvent pusher eventType payloadJson fd target rest targets anySent count =>
      -- the bytes go to whatever connection has the descriptor now
      match state.descriptors fd with
      | some connection =>
          guarded (state.pushes pusher =
                .writing eventType payloadJson fd target rest targets anySent ∧
              0 < count ∧ count ≤ rest.length ∧ state.Reaches fd connection)
            (let after := state.sent connection
              ⟨.event eventType payloadJson target, rest.take count⟩
            if rest.length ≤ count then
              (after.setWriteMutex target none).setPush pusher
                (.locking eventType payloadJson targets true)
            else after.setPush pusher
              (.writing eventType payloadJson fd target (rest.drop count) targets anySent))
      | none => none
  | .sendEventInterrupted pusher eventType payloadJson fd target rest targets anySent =>
      guarded (state.pushes pusher =
          .writing eventType payloadJson fd target rest targets anySent) state
  | .sendEventFails pusher eventType payloadJson fd target rest targets anySent =>
      guarded (state.pushes pusher =
          .writing eventType payloadJson fd target rest targets anySent)
        ((state.setWriteMutex target none).setPush pusher
          (.locking eventType payloadJson targets anySent))
  | .finishPush pusher eventType payloadJson anySent =>
      -- `anySent` is the result of the call
      guarded (state.pushes pusher = .locking eventType payloadJson [] anySent)
        (state.setPush pusher .idle)
  | .subscriberRead connection =>
      match (state.connections connection).reader.read maxFrameBytes
        (state.connections connection).wire with
      | some reader => some (state.modify connection fun own => { own with reader := reader })
      | none => none
  | .subscriberFails connection =>
      guarded ((state.connections connection).reader.point = .awaitingResponse ∨
          (state.connections connection).reader.point = .subscribed)
        (state.modify connection fun own =>
          { own with reader := { own.reader with point := .failed } })

/-- A server with one request handler and no disconnect handler, and its first
connection up to the copy of the handler. -/
def firstRequest (fd : Fd) (request : Request) : List (Action Unit) :=
  [.start (some 0) none, .assignHandlers (some 0) none, .listen true, .spawnAccept, .testAccept,
    .accept fd, .insertClient 0 fd, .spawnConnection 0, .testLoop 0, .readRequest 0 request,
    .copyHandler 0 request]

end TboxFramework.Ipc.Server

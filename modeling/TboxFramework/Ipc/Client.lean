import TboxFramework.Ipc.Protocol
import TboxFramework.Library.Interleaving

/-!
# The main connection of a client

Any number of threads use one `Client`. A section under `m_stateMutex` is one
step, and so is every `send` and `recv`. The other end of every connection is a
server's `connectionLoop`, which answers each request that it has read with one
response. Bytes on their way to the server carry the attempt that sent them,
which neither side can see.
-/

namespace TboxFramework.Ipc.Client

open Interleaving FrameStream

set_option autoImplicit false

abbrev Fd := Nat

abbrev SocketId := Nat

abbrev CallId := Nat

/-- The arguments of a `call`, or of a `callOnce`. -/
structure Call where
  once : Bool
  methodId : UInt32
  paramsJson : Bytes
  deriving DecidableEq, Repr

structure Attempt where
  call : CallId
  retry : Bool
  deriving DecidableEq, Repr

/-- How far `doConnect` gets; the kernel chooses the descriptor. -/
inductive ConnectOutcome
  | socketFailed
  | connectFailed (fd : Fd)
  | connected (fd : Fd)
  deriving DecidableEq, Repr

inductive Point
  | idle
  | lockingCall (id : CallId) (call : Call)
  | lazyConnecting (id : CallId) (call : Call)
  | gettingFd (call : Call) (attempt : Attempt)
  | sending (call : Call) (attempt : Attempt) (fd : Fd) (rest : Bytes)
  | receiving (call : Call) (attempt : Attempt) (fd : Fd) (got : Bytes)
  | closing (call : Call) (attempt : Attempt)
  | reconnecting (id : CallId) (call : Call)
  | unlockingCall (id : CallId) (result : Result)
  deriving DecidableEq, Repr

inductive ServerPoint
  | reading (got : List (Attempt × UInt8))
  | serving (attempt : Attempt) (methodId : UInt32) (paramsJson : Bytes)
  | answering (rest : Bytes)
  | closed
  deriving DecidableEq, Repr

structure Link where
  toServer : List (Attempt × UInt8)
  toClient : Bytes
  server : ServerPoint
  deriving DecidableEq, Repr

def Link.fresh : Link := ⟨[], [], .reading []⟩

/-- One run of the request handler and the attempt whose bytes asked for it. -/
structure Entry where
  attempt : Attempt
  methodId : UInt32
  paramsJson : Bytes
  answer : Result
  deriving DecidableEq, Repr

structure State (Thread : Type) where
  fd : Option Fd
  connected : Bool
  callMutex : Option Thread
  points : Thread → Point
  /-- The sockets behind the descriptors that `doConnect` has opened. -/
  descriptors : Fd → Option SocketId
  nextSocket : SocketId
  links : SocketId → Link
  /-- Every `call` and `callOnce` so far; a `CallId` is a position in it. -/
  issued : List Call
  results : CallId → Option Result
  served : List Entry

inductive Action (Thread : Type)
  | connect (thread : Thread) (outcome : ConnectOutcome)
  | disconnect (thread : Thread)
  | isConnected (thread : Thread)
  | call (thread : Thread) (call : Call)
  | lockCall (thread : Thread)
  | lazyConnect (thread : Thread) (outcome : ConnectOutcome)
  | getFd (thread : Thread)
  | send (thread : Thread) (count : Nat)
  | sendFails (thread : Thread)
  | recv (thread : Thread) (count : Nat)
  | recvFails (thread : Thread)
  | closeFailed (thread : Thread)
  | reconnect (thread : Thread) (outcome : ConnectOutcome)
  | unlockCall (thread : Thread)
  | serverRecv (socket : SocketId) (count : Nat)
  | handle (socket : SocketId) (outcome : Option Bytes)
  | serverSend (socket : SocketId) (count : Nat)
  | serverCloses (socket : SocketId)
  deriving DecidableEq, Repr

variable {Thread : Type} [DecidableEq Thread]

def initial : State Thread where
  fd := none
  connected := false
  callMutex := none
  points := fun _ => .idle
  descriptors := fun _ => none
  nextSocket := 0
  links := fun _ => .fresh
  issued := []
  results := fun _ => none
  served := []

namespace State

def move (state : State Thread) (thread : Thread) (point : Point) : State Thread :=
  { state with points := Function.update state.points thread point }

def setLink (state : State Thread) (socket : SocketId) (link : Link) : State Thread :=
  { state with links := Function.update state.links socket link }

/-- The section of `disconnect` and of every failure exit. -/
def close (state : State Thread) : State Thread :=
  { state with
    fd := none
    connected := false
    descriptors := match state.fd with
      | some fd => Function.update state.descriptors fd none
      | none => state.descriptors }

/-- `doConnect`, which overwrites `m_fd` and sets `m_connected` on success only. -/
def doConnect (state : State Thread) : ConnectOutcome → Option (State Thread)
  | .socketFailed => some { state with fd := none }
  | .connectFailed fd => guarded (state.descriptors fd = none) { state with fd := none }
  | .connected fd =>
      guarded (state.descriptors fd = none)
        { state with
          fd := some fd
          connected := true
          descriptors := Function.update state.descriptors fd (some state.nextSocket)
          nextSocket := state.nextSocket + 1
          links := Function.update state.links state.nextSocket .fresh }

def getFd (state : State Thread) : Option Fd := if state.connected then state.fd else none

end State

/-- Where a call stands after `doConnect`. -/
def afterConnect (outcome : ConnectOutcome) (call : Call) (attempt : Attempt) : Point :=
  match outcome with
  | .connected _ => .gettingFd call attempt
  | _ => .unlockingCall attempt.call (makeTransportError .kSocketFailed)

/-- `readResponse` after one more `recv`. -/
def afterRecv (maxFrameBytes : UInt32) (call : Call) (attempt : Attempt) (fd : Fd) (got : Bytes) :
    Point :=
  match readResponse maxFrameBytes got with
  | .more _ => .receiving call attempt fd got
  | .overLimit => .closing call attempt
  | .complete statusCode responseJson =>
      .unlockingCall attempt.call (statusCode.toInt32, responseJson)

/-- Only a first attempt of `call` is followed by a reconnect. -/
def afterClose (call : Call) (attempt : Attempt) : Point :=
  if call.once ∨ attempt.retry then
    .unlockingCall attempt.call (makeTransportError .kTransportFailed)
  else .reconnecting attempt.call call

/-- `readRequest` of `connectionLoop` after one more `recv`; a request belongs to
the attempt that sent its first byte. -/
def afterServerRecv (maxFrameBytes : UInt32) (got : List (Attempt × UInt8)) : ServerPoint :=
  match readRequest maxFrameBytes (got.map Prod.snd), got with
  | .overLimit, _ => .closed
  | .complete methodId paramsJson, first :: _ => .serving first.1 methodId paramsJson
  | _, _ => .reading got

def step (maxFrameBytes : UInt32) (state : State Thread) : Action Thread → Option (State Thread)
  | .connect thread outcome =>
      if state.points thread = .idle then
        if state.connected then some state else state.doConnect outcome
      else none
  | .disconnect thread => guarded (state.points thread = .idle) state.close
  | .isConnected thread => guarded (state.points thread = .idle) state
  | .call thread call =>
      guarded (state.points thread = .idle)
        (State.move { state with issued := state.issued ++ [call] } thread
          (.lockingCall state.issued.length call))
  | .lockCall thread =>
      match state.points thread with
      | .lockingCall id call =>
          guarded (state.callMutex = none)
            (State.move { state with callMutex := some thread } thread (.lazyConnecting id call))
      | _ => none
  | .lazyConnect thread outcome =>
      match state.points thread with
      | .lazyConnecting id call =>
          if state.connected then some (state.move thread (.gettingFd call ⟨id, false⟩))
          else (state.doConnect outcome).map fun next =>
            next.move thread (afterConnect outcome call ⟨id, false⟩)
      | _ => none
  | .getFd thread =>
      match state.points thread with
      | .gettingFd call attempt =>
          some (state.move thread (match state.getFd with
            | some fd => .sending call attempt fd (encodeRequest call.methodId call.paramsJson)
            | none => .unlockingCall attempt.call (makeTransportError .kSocketFailed)))
      | _ => none
  | .send thread count =>
      match state.points thread with
      | .sending call attempt fd rest =>
          (state.descriptors fd).bind fun socket =>
            guarded (0 < count ∧ count ≤ rest.length)
              ((state.setLink socket { state.links socket with
                toServer := (state.links socket).toServer ++
                  (rest.take count).map fun byte => (attempt, byte) }).move thread
                (if rest.length ≤ count then .receiving call attempt fd []
                else .sending call attempt fd (rest.drop count)))
      | _ => none
  | .sendFails thread =>
      match state.points thread with
      | .sending call attempt _ _ => some (state.move thread (.closing call attempt))
      | _ => none
  | .recv thread count =>
      match state.points thread with
      | .receiving call attempt fd got =>
          (state.descriptors fd).bind fun socket =>
            match readResponse maxFrameBytes got with
            | .more wanted =>
                let arrived := (state.links socket).toClient
                guarded (0 < count ∧ count ≤ wanted ∧ count ≤ arrived.length)
                  ((state.setLink socket { state.links socket with
                    toClient := arrived.drop count }).move thread
                    (afterRecv maxFrameBytes call attempt fd (got ++ arrived.take count)))
            | _ => none
      | _ => none
  | .recvFails thread =>
      match state.points thread with
      | .receiving call attempt _ _ => some (state.move thread (.closing call attempt))
      | _ => none
  | .closeFailed thread =>
      match state.points thread with
      | .closing call attempt => some (state.close.move thread (afterClose call attempt))
      | _ => none
  | .reconnect thread outcome =>
      match state.points thread with
      | .reconnecting id call =>
          -- after the backoff `m_connected` is not looked at again
          (state.doConnect outcome).map fun next =>
            next.move thread (afterConnect outcome call ⟨id, true⟩)
      | _ => none
  | .unlockCall thread =>
      match state.points thread with
      | .unlockingCall id result =>
          some (State.move { state with
            callMutex := none
            results := Function.update state.results id (some result) } thread .idle)
      | _ => none
  | .serverRecv socket count =>
      match (state.links socket).server with
      | .reading got =>
          match readRequest maxFrameBytes (got.map Prod.snd) with
          | .more wanted =>
              let arrived := (state.links socket).toServer
              guarded (0 < count ∧ count ≤ wanted ∧ count ≤ arrived.length)
                (state.setLink socket { state.links socket with
                  toServer := arrived.drop count
                  server := afterServerRecv maxFrameBytes (got ++ arrived.take count) })
          | _ => none
      | _ => none
  | .handle socket outcome =>
      match (state.links socket).server with
      | .serving attempt methodId paramsJson =>
          let answer := handlerResult outcome
          some (State.setLink
            { state with served := state.served ++ [⟨attempt, methodId, paramsJson, answer⟩] }
            socket { state.links socket with
              server := .answering (encodeResponse answer.1 answer.2) })
      | _ => none
  | .serverSend socket count =>
      match (state.links socket).server with
      | .answering rest =>
          guarded (0 < count ∧ count ≤ rest.length)
            (state.setLink socket { state.links socket with
              toClient := (state.links socket).toClient ++ rest.take count
              server := if rest.length ≤ count then .reading [] else .answering (rest.drop count) })
      | _ => none
  | .serverCloses socket =>
      match (state.links socket).server with
      | .reading _ | .answering _ =>
          some (state.setLink socket { state.links socket with server := .closed })
      | _ => none

/-! ## What each step does -/

theorem after_connect_cases (outcome : ConnectOutcome) (call : Call) (attempt : Attempt) :
    afterConnect outcome call attempt = .gettingFd call attempt ∨
      afterConnect outcome call attempt =
        .unlockingCall attempt.call (makeTransportError .kSocketFailed) := by
  cases outcome with
  | connected fd => exact Or.inl rfl
  | socketFailed => exact Or.inr rfl
  | connectFailed fd => exact Or.inr rfl

variable {maxFrameBytes : UInt32} {state next : State Thread} {thread : Thread}
  {socket : SocketId} {count : Nat} {outcome : ConnectOutcome} {answer : Option Bytes}

theorem step_connect (taken : step maxFrameBytes state (.connect thread outcome) = some next) :
    state.points thread = .idle ∧ ((state.connected = true ∧ next = state) ∨
      (¬state.connected = true ∧ state.doConnect outcome = some next)) := by
  simp only [step] at taken
  split at taken
  · rename_i here
    split at taken
    · rename_i connected
      exact ⟨here, Or.inl ⟨connected, (Option.some.inj taken).symm⟩⟩
    · rename_i apart
      exact ⟨here, Or.inr ⟨apart, taken⟩⟩
  · cases taken

theorem step_lock_call (taken : step maxFrameBytes state (.lockCall thread) = some next) :
    ∃ id call, state.points thread = .lockingCall id call ∧ state.callMutex = none ∧
      next = State.move { state with callMutex := some thread } thread
        (.lazyConnecting id call) := by
  simp only [step] at taken
  split at taken
  · rename_i id call here
    obtain ⟨free, rfl⟩ := (guarded_eq_some ..).mp taken
    exact ⟨id, call, here, free, rfl⟩
  · cases taken

theorem step_lazy_connect
    (taken : step maxFrameBytes state (.lazyConnect thread outcome) = some next) :
    ∃ id call, state.points thread = .lazyConnecting id call ∧
      ((state.connected = true ∧ next = state.move thread (.gettingFd call ⟨id, false⟩)) ∨
        (¬state.connected = true ∧ ∃ middle, state.doConnect outcome = some middle ∧
          next = middle.move thread (afterConnect outcome call ⟨id, false⟩))) := by
  simp only [step] at taken
  split at taken
  · rename_i id call here
    split at taken
    · rename_i connected
      exact ⟨id, call, here, Or.inl ⟨connected, (Option.some.inj taken).symm⟩⟩
    · rename_i apart
      obtain ⟨middle, done, rfl⟩ := Option.map_eq_some_iff.mp taken
      exact ⟨id, call, here, Or.inr ⟨apart, middle, done, rfl⟩⟩
  · cases taken

theorem step_get_fd (taken : step maxFrameBytes state (.getFd thread) = some next) :
    ∃ call attempt, state.points thread = .gettingFd call attempt ∧
      next = state.move thread (match state.getFd with
        | some fd => .sending call attempt fd (encodeRequest call.methodId call.paramsJson)
        | none => .unlockingCall attempt.call (makeTransportError .kSocketFailed)) := by
  simp only [step] at taken
  split at taken
  · rename_i call attempt here
    exact ⟨call, attempt, here, (Option.some.inj taken).symm⟩
  · cases taken

theorem step_send (taken : step maxFrameBytes state (.send thread count) = some next) :
    ∃ call attempt fd rest socket, state.points thread = .sending call attempt fd rest ∧
      state.descriptors fd = some socket ∧ 0 < count ∧ count ≤ rest.length ∧
      next = (state.setLink socket { state.links socket with
        toServer := (state.links socket).toServer ++
          (rest.take count).map fun byte => (attempt, byte) }).move thread
        (if rest.length ≤ count then .receiving call attempt fd []
        else .sending call attempt fd (rest.drop count)) := by
  simp only [step] at taken
  split at taken
  · rename_i call attempt fd rest here
    obtain ⟨socket, opened, sent⟩ := Option.bind_eq_some_iff.mp taken
    obtain ⟨⟨positive, fits⟩, rfl⟩ := (guarded_eq_some ..).mp sent
    exact ⟨call, attempt, fd, rest, socket, here, opened, positive, fits, rfl⟩
  · cases taken

theorem step_send_fails (taken : step maxFrameBytes state (.sendFails thread) = some next) :
    ∃ call attempt fd rest, state.points thread = .sending call attempt fd rest ∧
      next = state.move thread (.closing call attempt) := by
  simp only [step] at taken
  split at taken
  · rename_i call attempt fd rest here
    exact ⟨call, attempt, fd, rest, here, (Option.some.inj taken).symm⟩
  · cases taken

theorem step_recv (taken : step maxFrameBytes state (.recv thread count) = some next) :
    ∃ call attempt fd got socket wanted, state.points thread = .receiving call attempt fd got ∧
      state.descriptors fd = some socket ∧ readResponse maxFrameBytes got = .more wanted ∧
      0 < count ∧ count ≤ wanted ∧ count ≤ (state.links socket).toClient.length ∧
      next = (state.setLink socket { state.links socket with
        toClient := (state.links socket).toClient.drop count }).move thread
        (afterRecv maxFrameBytes call attempt fd
          (got ++ (state.links socket).toClient.take count)) := by
  simp only [step] at taken
  split at taken
  · rename_i call attempt fd got here
    obtain ⟨socket, opened, arrived⟩ := Option.bind_eq_some_iff.mp taken
    split at arrived
    · rename_i wanted more
      obtain ⟨⟨positive, asked, there⟩, rfl⟩ := (guarded_eq_some ..).mp arrived
      exact ⟨call, attempt, fd, got, socket, wanted, here, opened, more, positive, asked, there,
        rfl⟩
    · cases arrived
  · cases taken

theorem step_recv_fails (taken : step maxFrameBytes state (.recvFails thread) = some next) :
    ∃ call attempt fd got, state.points thread = .receiving call attempt fd got ∧
      next = state.move thread (.closing call attempt) := by
  simp only [step] at taken
  split at taken
  · rename_i call attempt fd got here
    exact ⟨call, attempt, fd, got, here, (Option.some.inj taken).symm⟩
  · cases taken

theorem step_close_failed (taken : step maxFrameBytes state (.closeFailed thread) = some next) :
    ∃ call attempt, state.points thread = .closing call attempt ∧
      next = state.close.move thread (afterClose call attempt) := by
  simp only [step] at taken
  split at taken
  · rename_i call attempt here
    exact ⟨call, attempt, here, (Option.some.inj taken).symm⟩
  · cases taken

theorem step_reconnect
    (taken : step maxFrameBytes state (.reconnect thread outcome) = some next) :
    ∃ id call middle, state.points thread = .reconnecting id call ∧
      state.doConnect outcome = some middle ∧
      next = middle.move thread (afterConnect outcome call ⟨id, true⟩) := by
  simp only [step] at taken
  split at taken
  · rename_i id call here
    obtain ⟨middle, done, rfl⟩ := Option.map_eq_some_iff.mp taken
    exact ⟨id, call, middle, here, done, rfl⟩
  · cases taken

theorem step_unlock_call (taken : step maxFrameBytes state (.unlockCall thread) = some next) :
    ∃ id result, state.points thread = .unlockingCall id result ∧
      next = State.move { state with
        callMutex := none
        results := Function.update state.results id (some result) } thread .idle := by
  simp only [step] at taken
  split at taken
  · rename_i id result here
    exact ⟨id, result, here, (Option.some.inj taken).symm⟩
  · cases taken

theorem step_server_recv
    (taken : step maxFrameBytes state (.serverRecv socket count) = some next) :
    ∃ got wanted, (state.links socket).server = .reading got ∧
      readRequest maxFrameBytes (got.map Prod.snd) = .more wanted ∧ 0 < count ∧
      count ≤ wanted ∧ count ≤ (state.links socket).toServer.length ∧
      next = state.setLink socket { state.links socket with
        toServer := (state.links socket).toServer.drop count
        server := afterServerRecv maxFrameBytes
          (got ++ (state.links socket).toServer.take count) } := by
  simp only [step] at taken
  split at taken
  · rename_i got here
    split at taken
    · rename_i wanted more
      obtain ⟨⟨positive, asked, there⟩, rfl⟩ := (guarded_eq_some ..).mp taken
      exact ⟨got, wanted, here, more, positive, asked, there, rfl⟩
    · cases taken
  · cases taken

theorem step_handle (taken : step maxFrameBytes state (.handle socket answer) = some next) :
    ∃ attempt methodId paramsJson,
      (state.links socket).server = .serving attempt methodId paramsJson ∧
      next = State.setLink { state with
          served := state.served ++ [⟨attempt, methodId, paramsJson, handlerResult answer⟩] }
        socket { state.links socket with
          server := .answering (encodeResponse (handlerResult answer).1
            (handlerResult answer).2) } := by
  simp only [step] at taken
  split at taken
  · rename_i attempt methodId paramsJson here
    exact ⟨attempt, methodId, paramsJson, here, (Option.some.inj taken).symm⟩
  · cases taken

theorem step_server_send
    (taken : step maxFrameBytes state (.serverSend socket count) = some next) :
    ∃ rest, (state.links socket).server = .answering rest ∧ 0 < count ∧ count ≤ rest.length ∧
      next = state.setLink socket { state.links socket with
        toClient := (state.links socket).toClient ++ rest.take count
        server := if rest.length ≤ count then .reading []
          else .answering (rest.drop count) } := by
  simp only [step] at taken
  split at taken
  · rename_i rest here
    obtain ⟨⟨positive, fits⟩, rfl⟩ := (guarded_eq_some ..).mp taken
    exact ⟨rest, here, positive, fits, rfl⟩
  · cases taken

theorem step_server_closes
    (taken : step maxFrameBytes state (.serverCloses socket) = some next) :
    (∀ attempt methodId paramsJson,
        (state.links socket).server ≠ .serving attempt methodId paramsJson) ∧
      next = state.setLink socket { state.links socket with server := .closed } := by
  simp only [step] at taken
  split at taken
  · rename_i here
    exact ⟨by simp [here], (Option.some.inj taken).symm⟩
  · rename_i here
    exact ⟨by simp [here], (Option.some.inj taken).symm⟩
  · cases taken

end TboxFramework.Ipc.Client

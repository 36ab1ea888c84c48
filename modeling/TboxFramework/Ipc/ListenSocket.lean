import TboxFramework.Ipc.Protocol
import TboxFramework.Library.Interleaving
import TboxFramework.Store.Paths
import Mathlib.Logic.Function.Basic
import Mathlib.Data.List.Basic

/-!
# The listening socket

Servers that start, accept and stop on paths of the file system, system call by system
call, any of which may be refused. A path that is too long for `sun_path` is cut where it is
bound and not where it is removed.
-/

namespace TboxFramework.Ipc.ListenSocket

open Interleaving
open TboxFramework.Store (cString)

set_option autoImplicit false

abbrev Fd := Nat

abbrev ServerId := Nat

abbrev SocketId := Nat

/-- A path that names something to the kernel. -/
structure SocketPath where
  bytes : Bytes
  named : cString bytes ≠ []

/-- The argument of `unlink`. -/
def SocketPath.removed (path : SocketPath) : Bytes := cString path.bytes

/-- What `strncpy` leaves in `addr.sun_path`. -/
def SocketPath.sunPath (path : SocketPath) : Bytes := (cString path.bytes).take 107

inductive Object
  | pipeEnd
  | socket (id : SocketId)
  /-- What the server accepted. -/
  | connection (server : ServerId)
  deriving DecidableEq

/-- Where `start` or `stop` stands; the calls of one server come one after the other. -/
inductive Phase
  | idle
  | piped
  | socketed
  | unlinked
  | bound
  | running
  | stopping
  | closed
  deriving DecidableEq

/-- `Server::Impl`; none models -1. -/
structure Server where
  phase : Phase
  listenFd : Option Fd
  shutdownPipe : Option (Fd × Fd)

def Server.initial : Server := ⟨.idle, none, none⟩

/-- The descriptors that the fields name. -/
def Server.fds (server : Server) : List Fd :=
  server.listenFd.toList ++ (server.shutdownPipe.map fun ends => [ends.1, ends.2]).getD []

structure State where
  servers : ServerId → Server
  descriptors : Fd → Option Object
  /-- The sockets that names of the file system stand for. -/
  entries : Bytes → Option SocketId
  listening : List SocketId
  nextSocket : SocketId

def State.initial : State := ⟨fun _ => .initial, fun _ => none, fun _ => none, [], 0⟩

/-- System calls with the kernel's answers; `setsockopt` only has a warning to give. -/
inductive Action
  | pipe (server : ServerId) (ends : Option (Fd × Fd))
  | socket (server : ServerId) (fd : Option Fd)
  | unlinkBefore (server : ServerId) (ok : Bool)
  | bind (server : ServerId) (ok : Bool)
  | listen (server : ServerId) (ok : Bool)
  | accept (server : ServerId) (fd : Option Fd)
  /-- The end of a `connectionLoop`, for which no `stop` waits. -/
  | closeConnection (fd : Fd)
  /-- `m_running.exchange(false)`, up to the join of the accept thread. -/
  | beginStop (server : ServerId)
  | closeAll (server : ServerId)
  | unlinkAfter (server : ServerId) (ok : Bool)
  /-- The process of all servers dies; its files stay. -/
  | crash
  deriving DecidableEq

namespace State

def setServer (state : State) (id : ServerId) (server : Server) : State :=
  { state with servers := Function.update state.servers id server }

/-- `close` of whatever the fields name. -/
def release (state : State) (id : ServerId) (phase : Phase) : State :=
  { state with
    servers := Function.update state.servers id ⟨phase, none, none⟩
    descriptors := fun fd =>
      if fd ∈ (state.servers id).fds then none else state.descriptors fd }

def enter (state : State) (id : ServerId) (phase : Phase) : State :=
  state.setServer id { state.servers id with phase := phase }

def withPipe (state : State) (id : ServerId) (reader writer : Fd) : State :=
  { state with
    servers := Function.update state.servers id ⟨.piped, none, some (reader, writer)⟩
    descriptors := Function.update (Function.update state.descriptors reader (some .pipeEnd))
      writer (some .pipeEnd) }

def withSocket (state : State) (id : ServerId) (fd : Fd) : State :=
  { state with
    servers := Function.update state.servers id
      ⟨.socketed, some fd, (state.servers id).shutdownPipe⟩
    descriptors := Function.update state.descriptors fd (some (.socket state.nextSocket))
    nextSocket := state.nextSocket + 1 }

def setClient (state : State) (fd : Fd) (client : Option ServerId) : State :=
  { state with
    descriptors := Function.update state.descriptors fd (client.map Object.connection) }

/-- The server whose connection is open at a descriptor. -/
def clientOf (state : State) (fd : Fd) : Option ServerId :=
  match state.descriptors fd with
  | some (.connection server) => some server
  | _ => none

/-- The socket behind `m_listenFd`. -/
def socketOf (state : State) (id : ServerId) : Option SocketId :=
  match (state.servers id).listenFd.bind state.descriptors with
  | some (.socket socket) => some socket
  | _ => none

/-- Nobody looks at the answer of `unlink`. -/
def unlink (state : State) (name : Bytes) (ok : Bool) : State :=
  if ok then { state with entries := Function.update state.entries name none } else state

end State

variable (pathOf : ServerId → SocketPath)

def step (state : State) : Action → Option State
  | .pipe id none => guarded ((state.servers id).phase = .idle) state
  | .pipe id (some (reader, writer)) =>
      guarded ((state.servers id).phase = .idle ∧ state.descriptors reader = none ∧
          state.descriptors writer = none ∧ reader ≠ writer)
        (state.withPipe id reader writer)
  | .socket id none => guarded ((state.servers id).phase = .piped) (state.release id .idle)
  | .socket id (some fd) =>
      guarded ((state.servers id).phase = .piped ∧ state.descriptors fd = none)
        (state.withSocket id fd)
  | .unlinkBefore id ok =>
      guarded ((state.servers id).phase = .socketed)
        ((state.unlink (pathOf id).removed ok).enter id .unlinked)
  | .bind id true =>
      guarded ((state.servers id).phase = .unlinked ∧ state.entries (pathOf id).sunPath = none)
        ({ state with
          entries := Function.update state.entries (pathOf id).sunPath
            (state.socketOf id) }.enter id .bound)
  | .bind id false => guarded ((state.servers id).phase = .unlinked) (state.release id .idle)
  | .listen id true =>
      guarded ((state.servers id).phase = .bound)
        ({ state with listening := (state.socketOf id).toList ++ state.listening }.enter id
          .running)
  | .listen id false => guarded ((state.servers id).phase = .bound) (state.release id .idle)
  | .accept id none => guarded ((state.servers id).phase = .running) state
  | .accept id (some fd) =>
      guarded ((state.servers id).phase = .running ∧ state.descriptors fd = none)
        (state.setClient fd (some id))
  | .closeConnection fd => guarded ((state.clientOf fd).isSome = true) (state.setClient fd none)
  | .beginStop id => guarded ((state.servers id).phase = .running) (state.enter id .stopping)
  | .closeAll id =>
      guarded ((state.servers id).phase = .stopping) (state.release id .closed)
  | .unlinkAfter id ok =>
      guarded ((state.servers id).phase = .closed)
        ((state.unlink (pathOf id).removed ok).enter id .idle)
  | .crash => some { state with servers := fun _ => .initial, descriptors := fun _ => none }

/-- A client that connects to the name gets to this server. -/
def State.Reaches (state : State) (name : Bytes) (id : ServerId) : Prop :=
  ∃ socket, state.entries name = some socket ∧ state.socketOf id = some socket ∧
    socket ∈ state.listening

/-! ## What a run has made of a name -/

/-- The server whose open socket the name stands for. -/
def serve (name : Bytes) (current : Option ServerId) : Action → Option ServerId
  | .bind id true => if (pathOf id).sunPath = name then some id else current
  | .bind id false | .listen id false | .closeAll id =>
      if current = some id then none else current
  | .unlinkBefore id true | .unlinkAfter id true =>
      if (pathOf id).removed = name then none else current
  | .crash => none
  | _ => current

def served (name : Bytes) (past : List Action) : Option ServerId :=
  past.foldl (serve pathOf name) none

/-- Whether the name is taken. -/
def occupy (name : Bytes) (current : Bool) : Action → Bool
  | .bind id true => (pathOf id).sunPath = name || current
  | .unlinkBefore id true | .unlinkAfter id true => (pathOf id).removed ≠ name && current
  | _ => current

def occupied (name : Bytes) (past : List Action) : Bool :=
  past.foldl (occupy pathOf name) false

/-- The server whose connection the descriptor is. -/
def connect (fd : Fd) (current : Option ServerId) : Action → Option ServerId
  | .accept id (some accepted) => if accepted = fd then some id else current
  | .closeConnection closed => if closed = fd then none else current
  | .crash => none
  | _ => current

def connected (fd : Fd) (past : List Action) : Option ServerId :=
  past.foldl (connect fd) none

/-! ## Descriptors -/

/-- Every open descriptor is a connection or named by a field of one server. -/
structure Ledger (state : State) : Prop where
  opened : ∀ fd, state.clientOf fd = none →
    (state.descriptors fd ≠ none ↔ ∃ id, fd ∈ (state.servers id).fds)
  own : ∀ id fd, fd ∈ (state.servers id).fds → state.clientOf fd = none
  owned : ∀ id other fd, fd ∈ (state.servers id).fds → fd ∈ (state.servers other).fds → id = other
  apart : ∀ id, (state.servers id).fds.Nodup

def Phase.holdsPipe : Phase → Bool
  | .idle | .closed => false
  | _ => true

def Phase.holdsSocket : Phase → Bool
  | .idle | .piped | .closed => false
  | _ => true

def Phase.isListening : Phase → Bool
  | .running | .stopping => true
  | _ => false

/-- The fields as the phase has them. -/
structure InPhase (state : State) (id : ServerId) : Prop where
  pipe : (state.servers id).shutdownPipe.isSome = (state.servers id).phase.holdsPipe
  listenFd : (state.servers id).listenFd.isSome = (state.servers id).phase.holdsSocket
  socket : (state.socketOf id).isSome = (state.servers id).phase.holdsSocket
  listens : ∀ socket, state.socketOf id = some socket →
    (socket ∈ state.listening ↔ (state.servers id).phase.isListening = true)

/-- Sockets are numbered as they are made, and each has one descriptor. -/
structure Numbered (state : State) : Prop where
  made : ∀ fd socket, state.descriptors fd = some (.socket socket) → socket < state.nextSocket
  single : ∀ fd other socket, state.descriptors fd = some (.socket socket) →
    state.descriptors other = some (.socket socket) → fd = other
  named : ∀ name socket, state.entries name = some socket → socket < state.nextSocket
  listening : ∀ socket ∈ state.listening, socket < state.nextSocket

structure Sound (state : State) : Prop where
  ledger : Ledger state
  phases : ∀ id, InPhase state id
  numbered : Numbered state

variable {pathOf} {state next : State} {id other : ServerId}

theorem socket_of_eq_some {socket : SocketId} :
    state.socketOf id = some socket ↔
      ∃ fd, (state.servers id).listenFd = some fd ∧
        state.descriptors fd = some (.socket socket) := by
  unfold State.socketOf
  cases (state.servers id).listenFd with
  | none => simp
  | some fd =>
      simp only [Option.bind_some, Option.some.injEq, exists_eq_left']
      cases state.descriptors fd with
      | none => simp
      | some object =>
          cases object with
          | pipeEnd => simp
          | socket made => simp
          | connection server => simp

theorem socket_of_same {before after : State}
    (listenFd : (after.servers id).listenFd = (before.servers id).listenFd)
    (object : ∀ fd, (before.servers id).listenFd = some fd →
      after.descriptors fd = before.descriptors fd) :
    after.socketOf id = before.socketOf id := by
  unfold State.socketOf
  rw [listenFd]
  cases held : (before.servers id).listenFd with
  | none => rfl
  | some fd => simp only [Option.bind_some, object fd held]

theorem listen_fd_mem {fd : Fd} (held : (state.servers id).listenFd = some fd) :
    fd ∈ (state.servers id).fds := by
  unfold Server.fds
  simp [held]

theorem client_of_closed {fd : Fd} (closed : state.descriptors fd = none) :
    state.clientOf fd = none := by
  unfold State.clientOf
  rw [closed]

theorem client_of_same {before after : State} {fd : Fd}
    (same : after.descriptors fd = before.descriptors fd) :
    after.clientOf fd = before.clientOf fd := by
  unfold State.clientOf
  rw [same]

theorem Ledger.open_of_mem (ledger : Ledger state) {fd : Fd} (mine : fd ∈ (state.servers id).fds) :
    state.descriptors fd ≠ none :=
  (ledger.opened fd (ledger.own id fd mine)).mpr ⟨id, mine⟩

/-- Two servers do not share a socket. -/
theorem Sound.socket_owner (sound : Sound state) {socket : SocketId}
    (mine : state.socketOf id = some socket) (its : state.socketOf other = some socket) :
    id = other := by
  obtain ⟨fd, held, object⟩ := socket_of_eq_some.mp mine
  obtain ⟨otherFd, otherHeld, otherObject⟩ := socket_of_eq_some.mp its
  have same := sound.numbered.single fd otherFd socket object otherObject
  rw [← same] at otherHeld
  exact sound.ledger.owned id other fd (listen_fd_mem held) (listen_fd_mem otherHeld)

theorem initial_sound : Sound .initial where
  ledger :=
    { opened := by
        intro fd _
        simp [State.initial, Server.initial, Server.fds]
      own := fun _ _ _ => rfl
      owned := by
        intro id other fd mine
        cases mine
      apart := fun _ => List.nodup_nil }
  phases := by
    intro id
    refine ⟨rfl, rfl, rfl, ?_⟩
    intro socket found
    cases found
  numbered := by
    constructor
    · intro fd socket found
      cases found
    · intro fd other socket found
      cases found
    · intro name socket found
      cases found
    · intro socket member
      cases member

/-! ## Steps -/

@[simp] theorem release_self (phase : Phase) :
    (state.release id phase).servers id = ⟨phase, none, none⟩ :=
  Function.update_self _ _ _

theorem release_of_ne (phase : Phase) (differ : other ≠ id) :
    (state.release id phase).servers other = state.servers other :=
  Function.update_of_ne differ _ _

theorem release_kept (ledger : Ledger state) (phase : Phase) (differ : other ≠ id) {fd : Fd}
    (its : fd ∈ (state.servers other).fds) :
    (state.release id phase).descriptors fd = state.descriptors fd := by
  apply if_neg
  intro mine
  exact differ (ledger.owned other id fd its mine)

theorem release_socket_of (ledger : Ledger state) (phase : Phase) :
    (state.release id phase).socketOf other = if other = id then none else state.socketOf other := by
  by_cases own : other = id
  · rw [if_pos own, own]
    unfold State.socketOf
    simp
  · rw [if_neg own]
    apply socket_of_same
    · rw [release_of_ne phase own]
    · exact fun fd held => release_kept ledger phase own (listen_fd_mem held)

/-- No field names a connection. -/
theorem release_client_of (ledger : Ledger state) (phase : Phase) (fd : Fd) :
    (state.release id phase).clientOf fd = state.clientOf fd := by
  by_cases mine : fd ∈ (state.servers id).fds
  · rw [ledger.own id fd mine]
    exact client_of_closed (if_pos mine)
  · exact client_of_same (if_neg mine)

theorem release_ledger (ledger : Ledger state) (phase : Phase) :
    Ledger (state.release id phase) where
  opened := by
    intro fd foreign
    rw [release_client_of ledger] at foreign
    by_cases mine : fd ∈ (state.servers id).fds
    · have closed : (state.release id phase).descriptors fd = none := if_pos mine
      rw [closed]
      constructor
      · exact fun opened => absurd rfl opened
      · rintro ⟨other, its⟩
        by_cases own : other = id
        · rw [own, release_self] at its
          cases its
        · rw [release_of_ne phase own] at its
          exact absurd (ledger.owned other id fd its mine) own
    · have kept : (state.release id phase).descriptors fd = state.descriptors fd := if_neg mine
      rw [kept, ledger.opened fd foreign]
      constructor
      · rintro ⟨other, its⟩
        have own : other ≠ id := by
          rintro rfl
          exact mine its
        exact ⟨other, by rwa [release_of_ne phase own]⟩
      · rintro ⟨other, its⟩
        by_cases own : other = id
        · rw [own, release_self] at its
          cases its
        · rw [release_of_ne phase own] at its
          exact ⟨other, its⟩
  own := by
    intro other fd its
    rw [release_client_of ledger]
    by_cases own : other = id
    · rw [own, release_self] at its
      cases its
    · rw [release_of_ne phase own] at its
      exact ledger.own other fd its
  owned := by
    intro first second fd mine its
    by_cases own : first = id
    · rw [own, release_self] at mine
      cases mine
    · by_cases same : second = id
      · rw [same, release_self] at its
        cases its
      · rw [release_of_ne phase own] at mine
        rw [release_of_ne phase same] at its
        exact ledger.owned first second fd mine its
  apart := by
    intro other
    by_cases own : other = id
    · rw [own, release_self]
      exact List.nodup_nil
    · rw [release_of_ne phase own]
      exact ledger.apart other

theorem release_sound (sound : Sound state) {phase : Phase} (pipe : phase.holdsPipe = false)
    (socket : phase.holdsSocket = false) : Sound (state.release id phase) where
  ledger := release_ledger sound.ledger phase
  phases := by
    intro other
    have object := @release_socket_of state id other sound.ledger phase
    by_cases own : other = id
    · rw [if_pos own] at object
      rw [own] at object ⊢
      constructor
      · rw [release_self]
        exact pipe.symm
      · rw [release_self]
        exact socket.symm
      · rw [object, release_self]
        exact socket.symm
      · rw [object]
        intro socket found
        cases found
    · rw [if_neg own] at object
      have phases := sound.phases other
      constructor
      · rw [release_of_ne phase own]
        exact phases.pipe
      · rw [release_of_ne phase own]
        exact phases.listenFd
      · rw [object, release_of_ne phase own]
        exact phases.socket
      · rw [object, release_of_ne phase own]
        exact phases.listens
  numbered := by
    have kept : ∀ fd object, (state.release id phase).descriptors fd = some object →
        state.descriptors fd = some object := by
      intro fd object found
      unfold State.release at found
      simp only at found
      split at found
      · cases found
      · exact found
    constructor
    · exact fun fd socket found => sound.numbered.made fd socket (kept fd _ found)
    · exact fun fd other socket found its =>
        sound.numbered.single fd other socket (kept fd _ found) (kept other _ its)
    · exact sound.numbered.named
    · exact sound.numbered.listening

/-- A server goes on to a phase with the same descriptors. -/
structure Enters (state next : State) (id : ServerId) (phase : Phase) : Prop where
  servers : next.servers = Function.update state.servers id
    { state.servers id with phase := phase }
  descriptors : next.descriptors = state.descriptors
  nextSocket : next.nextSocket = state.nextSocket

namespace Enters

variable {phase : Phase}

theorem fields (enters : Enters state next id phase) (other : ServerId) :
    (next.servers other).listenFd = (state.servers other).listenFd ∧
      (next.servers other).shutdownPipe = (state.servers other).shutdownPipe := by
  rw [enters.servers]
  by_cases own : other = id
  · rw [own, Function.update_self]
    exact ⟨rfl, rfl⟩
  · rw [Function.update_of_ne own]
    exact ⟨rfl, rfl⟩

theorem fds (enters : Enters state next id phase) (other : ServerId) :
    (next.servers other).fds = (state.servers other).fds := by
  unfold Server.fds
  rw [(enters.fields other).1, (enters.fields other).2]

theorem socket_of (enters : Enters state next id phase) (other : ServerId) :
    next.socketOf other = state.socketOf other :=
  socket_of_same (enters.fields other).1 fun _ _ => congrFun enters.descriptors _

theorem client_of (enters : Enters state next id phase) (fd : Fd) :
    next.clientOf fd = state.clientOf fd :=
  client_of_same (congrFun enters.descriptors fd)

theorem phase_of (enters : Enters state next id phase) (other : ServerId) :
    (next.servers other).phase = if other = id then phase else (state.servers other).phase := by
  rw [enters.servers]
  by_cases own : other = id
  · rw [own, Function.update_self, if_pos rfl]
  · rw [Function.update_of_ne own, if_neg own]

theorem sound (enters : Enters state next id phase) (sound : Sound state)
    (pipe : phase.holdsPipe = (state.servers id).phase.holdsPipe)
    (socket : phase.holdsSocket = (state.servers id).phase.holdsSocket)
    (named : ∀ name socket, next.entries name = some socket → socket < next.nextSocket)
    (listening : ∀ socket ∈ next.listening, socket < next.nextSocket)
    (listens : ∀ other socket, state.socketOf other = some socket →
      (socket ∈ next.listening ↔ (next.servers other).phase.isListening = true)) :
    Sound next where
  ledger :=
    { opened := by
        intro fd
        simp only [enters.client_of, enters.descriptors, enters.fds]
        exact sound.ledger.opened fd
      own := by
        intro other fd
        rw [enters.client_of, enters.fds]
        exact sound.ledger.own other fd
      owned := by
        intro first second fd
        rw [enters.fds, enters.fds]
        exact sound.ledger.owned first second fd
      apart := by
        intro other
        rw [enters.fds]
        exact sound.ledger.apart other }
  phases := by
    intro other
    have phases := sound.phases other
    have fields := enters.fields other
    have pipes : (next.servers other).phase.holdsPipe = (state.servers other).phase.holdsPipe := by
      rw [enters.phase_of]
      split
      · next own => rw [own, pipe]
      · rfl
    have sockets : (next.servers other).phase.holdsSocket =
        (state.servers other).phase.holdsSocket := by
      rw [enters.phase_of]
      split
      · next own => rw [own, socket]
      · rfl
    constructor
    · rw [fields.2, pipes]
      exact phases.pipe
    · rw [fields.1, sockets]
      exact phases.listenFd
    · rw [enters.socket_of, sockets]
      exact phases.socket
    · rw [enters.socket_of]
      exact listens other
  numbered := by
    constructor
    · rw [enters.descriptors, enters.nextSocket]
      exact sound.numbered.made
    · rw [enters.descriptors]
      exact sound.numbered.single
    · exact named
    · exact listening

end Enters

theorem named_update (sound : Sound state) (name : Bytes) {value : Option SocketId}
    (made : ∀ socket, value = some socket → socket < state.nextSocket) (entry : Bytes)
    (socket : SocketId) (found : Function.update state.entries name value entry = some socket) :
    socket < state.nextSocket := by
  by_cases own : entry = name
  · rw [own, Function.update_self] at found
    exact made socket found
  · rw [Function.update_of_ne own] at found
    exact sound.numbered.named entry socket found

/-- The listening sockets stay those of the servers that listen. -/
theorem Enters.listens_same {phase : Phase} (enters : Enters state next id phase)
    (sound : Sound state) (listening : next.listening = state.listening)
    (same : phase.isListening = (state.servers id).phase.isListening) (other : ServerId)
    (socket : SocketId) (held : state.socketOf other = some socket) :
    socket ∈ next.listening ↔ (next.servers other).phase.isListening = true := by
  rw [listening, (sound.phases other).listens socket held, enters.phase_of]
  by_cases own : other = id
  · rw [if_pos own, same, own]
  · rw [if_neg own]

theorem socket_made (sound : Sound state) {socket : SocketId}
    (held : state.socketOf id = some socket) : socket < state.nextSocket := by
  obtain ⟨fd, _, object⟩ := socket_of_eq_some.mp held
  exact sound.numbered.made fd socket object

theorem bind_sound (sound : Sound state) (here : (state.servers id).phase = .unlinked)
    (name : Bytes) :
    Sound ({ state with
      entries := Function.update state.entries name (state.socketOf id) }.enter id .bound) := by
  have enters : Enters state ({ state with
      entries := Function.update state.entries name (state.socketOf id) }.enter id .bound) id
      .bound := ⟨rfl, rfl, rfl⟩
  apply enters.sound sound
  · rw [here]
    rfl
  · rw [here]
    rfl
  · exact named_update sound name fun socket held => socket_made sound held
  · exact sound.numbered.listening
  · apply enters.listens_same sound rfl
    rw [here]
    rfl

theorem listen_sound (sound : Sound state) (here : (state.servers id).phase = .bound) :
    Sound ({ state with
      listening := (state.socketOf id).toList ++ state.listening }.enter id .running) := by
  have enters : Enters state ({ state with
      listening := (state.socketOf id).toList ++ state.listening }.enter id .running) id
      .running := ⟨rfl, rfl, rfl⟩
  have grown : ∀ socket, socket ∈ (state.socketOf id).toList ++ state.listening ↔
      state.socketOf id = some socket ∨ socket ∈ state.listening := by
    intro socket
    rw [List.mem_append, Option.mem_toList]
  apply enters.sound sound
  · rw [here]
    rfl
  · rw [here]
    rfl
  · exact sound.numbered.named
  · intro socket member
    cases (grown socket).mp member with
    | inl mine => exact socket_made sound mine
    | inr older => exact sound.numbered.listening socket older
  · intro other socket held
    rw [enters.phase_of]
    refine (grown socket).trans ?_
    by_cases own : other = id
    · rw [if_pos own]
      rw [own] at held
      exact ⟨fun _ => rfl, fun _ => .inl held⟩
    · rw [if_neg own, ← (sound.phases other).listens socket held]
      exact or_iff_right fun mine => own (sound.socket_owner held mine)

theorem enter_sound (sound : Sound state) {phase : Phase}
    (pipe : phase.holdsPipe = (state.servers id).phase.holdsPipe)
    (socket : phase.holdsSocket = (state.servers id).phase.holdsSocket)
    (listening : phase.isListening = (state.servers id).phase.isListening) :
    Sound (state.enter id phase) := by
  have enters : Enters state (state.enter id phase) id phase := ⟨rfl, rfl, rfl⟩
  apply enters.sound sound pipe socket
  · exact sound.numbered.named
  · exact sound.numbered.listening
  · exact enters.listens_same sound rfl listening

theorem unlink_sound (sound : Sound state) (name : Bytes) (ok : Bool) {phase : Phase}
    (pipe : phase.holdsPipe = (state.servers id).phase.holdsPipe)
    (socket : phase.holdsSocket = (state.servers id).phase.holdsSocket)
    (listening : phase.isListening = (state.servers id).phase.isListening) :
    Sound ((state.unlink name ok).enter id phase) := by
  cases ok with
  | false => exact enter_sound sound pipe socket listening
  | true =>
      have enters : Enters state ((state.unlink name true).enter id phase) id phase :=
        ⟨rfl, rfl, rfl⟩
      apply enters.sound sound pipe socket
      · apply named_update sound name
        intro socket none
        cases none
      · exact sound.numbered.listening
      · exact enters.listens_same sound rfl listening

theorem idle_fields (sound : Sound state) (here : (state.servers id).phase = .idle) :
    (state.servers id).fds = [] := by
  have pipe := (sound.phases id).pipe
  have listenFd := (sound.phases id).listenFd
  rw [here] at pipe listenFd
  have noPipe : (state.servers id).shutdownPipe = none :=
    Option.not_isSome_iff_eq_none.mp (by rw [pipe]; decide)
  have noSocket : (state.servers id).listenFd = none :=
    Option.not_isSome_iff_eq_none.mp (by rw [listenFd]; decide)
  unfold Server.fds
  rw [noPipe, noSocket]
  rfl

/-- A server gets descriptors that nobody had. -/
structure Opens (state next : State) (id : ServerId) (new : List Fd) : Prop where
  others : ∀ other, other ≠ id → next.servers other = state.servers other
  fds : (next.servers id).fds = new ++ (state.servers id).fds
  fresh : ∀ fd ∈ new, state.descriptors fd = none ∧ next.descriptors fd ≠ none
  objects : ∀ fd ∈ new, next.clientOf fd = none
  kept : ∀ fd, fd ∉ new → next.descriptors fd = state.descriptors fd
  apart : new.Nodup

namespace Opens

variable {new : List Fd}

theorem client_of (opens : Opens state next id new) (fd : Fd) :
    next.clientOf fd = state.clientOf fd := by
  by_cases mine : fd ∈ new
  · rw [opens.objects fd mine, client_of_closed (opens.fresh fd mine).1]
  · exact client_of_same (opens.kept fd mine)

theorem not_held (opens : Opens state next id new) (ledger : Ledger state) {fd : Fd}
    (mine : fd ∈ new) (other : ServerId) : fd ∉ (state.servers other).fds :=
  fun its => ledger.open_of_mem its (opens.fresh fd mine).1

theorem mem_fds (opens : Opens state next id new) {fd : Fd} (other : ServerId) :
    fd ∈ (next.servers other).fds ↔ other = id ∧ fd ∈ new ∨ fd ∈ (state.servers other).fds := by
  by_cases own : other = id
  · rw [own, opens.fds, List.mem_append]
    simp
  · rw [opens.others other own]
    simp [own]

theorem ledger (opens : Opens state next id new) (ledger : Ledger state) : Ledger next where
  opened := by
    intro fd foreign
    rw [opens.client_of] at foreign
    by_cases mine : fd ∈ new
    · constructor
      · exact fun _ => ⟨id, (opens.mem_fds id).mpr (.inl ⟨rfl, mine⟩)⟩
      · exact fun _ => (opens.fresh fd mine).2
    · rw [opens.kept fd mine, ledger.opened fd foreign]
      simp only [opens.mem_fds, mine, and_false, false_or]
  own := by
    intro other fd its
    rw [opens.client_of]
    cases (opens.mem_fds other).mp its with
    | inl mine => exact client_of_closed (opens.fresh fd mine.2).1
    | inr older => exact ledger.own other fd older
  owned := by
    intro first second fd
    rw [opens.mem_fds, opens.mem_fds]
    rintro (⟨rfl, mine⟩ | its) (⟨rfl, also⟩ | others)
    · rfl
    · exact absurd others (opens.not_held ledger mine second)
    · exact absurd its (opens.not_held ledger also first)
    · exact ledger.owned first second fd its others
  apart := by
    intro other
    by_cases own : other = id
    · rw [own, opens.fds, List.nodup_append]
      refine ⟨opens.apart, ledger.apart id, ?_⟩
      rintro fd mine held its rfl
      exact opens.not_held ledger mine id its
    · rw [opens.others other own]
      exact ledger.apart other

/-- The sockets of the other servers are still theirs. -/
theorem socket_of (opens : Opens state next id new) (ledger : Ledger state) {other : ServerId}
    (differ : other ≠ id) : next.socketOf other = state.socketOf other := by
  apply socket_of_same
  · rw [opens.others other differ]
  · intro fd held
    apply opens.kept
    exact fun mine => opens.not_held ledger mine other (listen_fd_mem held)

theorem phases_of_ne (opens : Opens state next id new) (sound : Sound state)
    (listening : next.listening = state.listening) {other : ServerId} (differ : other ≠ id) :
    InPhase next other := by
  have phases := sound.phases other
  have same := opens.others other differ
  have socket := opens.socket_of sound.ledger differ
  refine ⟨?_, ?_, ?_, ?_⟩
  · rw [same]
    exact phases.pipe
  · rw [same]
    exact phases.listenFd
  · rw [same, socket]
    exact phases.socket
  · rw [same, socket, listening]
    exact phases.listens

end Opens

theorem with_pipe_self (reader writer : Fd) :
    (state.withPipe id reader writer).servers id = ⟨.piped, none, some (reader, writer)⟩ :=
  Function.update_self ..

theorem pipe_opens (sound : Sound state) {reader writer : Fd}
    (here : (state.servers id).phase = .idle) (readerFree : state.descriptors reader = none)
    (writerFree : state.descriptors writer = none) (apart : reader ≠ writer) :
    Opens state (state.withPipe id reader writer) id [reader, writer] where
  others := fun _ differ => Function.update_of_ne differ ..
  fds := by
    rw [with_pipe_self, idle_fields sound here]
    rfl
  fresh := by
    intro fd mine
    simp only [List.mem_cons, List.not_mem_nil, or_false] at mine
    simp only [State.withPipe]
    cases mine with
    | inl first =>
        rw [first, Function.update_of_ne apart, Function.update_self]
        exact ⟨readerFree, Option.some_ne_none _⟩
    | inr second =>
        rw [second, Function.update_self]
        exact ⟨writerFree, Option.some_ne_none _⟩
  objects := by
    intro fd mine
    simp only [List.mem_cons, List.not_mem_nil, or_false] at mine
    simp only [State.clientOf, State.withPipe]
    cases mine with
    | inl first => rw [first, Function.update_of_ne apart, Function.update_self]
    | inr second => rw [second, Function.update_self]
  kept := by
    intro fd foreign
    simp only [List.mem_cons, List.not_mem_nil, or_false, not_or] at foreign
    simp only [State.withPipe]
    rw [Function.update_of_ne foreign.2, Function.update_of_ne foreign.1]
  apart := by simpa using apart

/-- The ends of a pipe are no sockets. -/
theorem with_pipe_socket {reader writer fd : Fd} {socket : SocketId}
    (found : (state.withPipe id reader writer).descriptors fd = some (.socket socket)) :
    state.descriptors fd = some (.socket socket) := by
  simp only [State.withPipe] at found
  by_cases second : fd = writer
  · rw [second, Function.update_self] at found
    cases found
  · rw [Function.update_of_ne second] at found
    by_cases first : fd = reader
    · rw [first, Function.update_self] at found
      cases found
    · rwa [Function.update_of_ne first] at found

theorem with_pipe_none (reader writer : Fd) :
    (state.withPipe id reader writer).socketOf id = none := by
  unfold State.socketOf
  rw [with_pipe_self]
  rfl

theorem pipe_sound (sound : Sound state) {reader writer : Fd}
    (here : (state.servers id).phase = .idle) (readerFree : state.descriptors reader = none)
    (writerFree : state.descriptors writer = none) (apart : reader ≠ writer) :
    Sound (state.withPipe id reader writer) where
  ledger := (pipe_opens sound here readerFree writerFree apart).ledger sound.ledger
  phases := by
    intro other
    by_cases own : other = id
    · rw [own]
      constructor
      · rw [with_pipe_self]
        rfl
      · rw [with_pipe_self]
        rfl
      · rw [with_pipe_none, with_pipe_self]
        rfl
      · rw [with_pipe_none]
        intro socket held
        cases held
    · exact (pipe_opens sound here readerFree writerFree apart).phases_of_ne sound rfl own
  numbered := by
    constructor
    · exact fun fd socket found => sound.numbered.made fd socket (with_pipe_socket found)
    · exact fun fd other socket found its => sound.numbered.single fd other socket
        (with_pipe_socket found) (with_pipe_socket its)
    · exact sound.numbered.named
    · exact sound.numbered.listening

theorem with_socket_self (fd : Fd) : (state.withSocket id fd).servers id =
    ⟨.socketed, some fd, (state.servers id).shutdownPipe⟩ :=
  Function.update_self ..

theorem socket_opens (sound : Sound state) {fd : Fd} (here : (state.servers id).phase = .piped)
    (free : state.descriptors fd = none) : Opens state (state.withSocket id fd) id [fd] where
  others := fun _ differ => Function.update_of_ne differ ..
  fds := by
    have listenFd := (sound.phases id).listenFd
    rw [here] at listenFd
    have noSocket : (state.servers id).listenFd = none :=
      Option.not_isSome_iff_eq_none.mp (by rw [listenFd]; decide)
    rw [with_socket_self]
    unfold Server.fds
    rw [noSocket]
    rfl
  fresh := by
    intro mine member
    obtain rfl := List.mem_singleton.mp member
    simp only [State.withSocket]
    rw [Function.update_self]
    exact ⟨free, Option.some_ne_none _⟩
  objects := by
    intro mine member
    obtain rfl := List.mem_singleton.mp member
    simp only [State.clientOf, State.withSocket]
    rw [Function.update_self]
  kept := by
    intro foreign differ
    simp only [State.withSocket]
    rw [Function.update_of_ne (by simpa using differ)]
  apart := by simp

/-- The new socket has the next number and the older ones are as they were. -/
theorem with_socket_cases (sound : Sound state) {fd found : Fd} {socket : SocketId}
    (object : (state.withSocket id fd).descriptors found = some (.socket socket)) :
    found = fd ∧ socket = state.nextSocket ∨
      socket < state.nextSocket ∧ state.descriptors found = some (.socket socket) := by
  simp only [State.withSocket] at object
  by_cases own : found = fd
  · rw [own, Function.update_self] at object
    cases object
    exact .inl ⟨own, rfl⟩
  · rw [Function.update_of_ne own] at object
    exact .inr ⟨sound.numbered.made found socket object, object⟩

theorem with_socket_some (fd : Fd) :
    (state.withSocket id fd).socketOf id = some state.nextSocket :=
  socket_of_eq_some.mpr ⟨fd, by rw [with_socket_self], Function.update_self ..⟩

theorem socket_sound (sound : Sound state) {fd : Fd} (here : (state.servers id).phase = .piped)
    (free : state.descriptors fd = none) : Sound (state.withSocket id fd) where
  ledger := (socket_opens sound here free).ledger sound.ledger
  phases := by
    intro other
    by_cases own : other = id
    · rw [own]
      constructor
      · rw [with_socket_self]
        have pipe := (sound.phases id).pipe
        rwa [here] at pipe
      · rw [with_socket_self]
        rfl
      · rw [with_socket_some, with_socket_self]
        rfl
      · rw [with_socket_some, with_socket_self]
        intro socket same
        cases same
        constructor
        · exact fun member => absurd (sound.numbered.listening _ member) (Nat.lt_irrefl _)
        · intro listening
          cases listening
    · exact (socket_opens sound here free).phases_of_ne sound rfl own
  numbered := by
    constructor
    · intro found socket object
      rcases with_socket_cases sound object with ⟨_, new⟩ | ⟨older, _⟩
      · rw [new]
        exact Nat.lt_succ_self _
      · exact Nat.lt_succ_of_lt older
    · intro found other socket object its
      rcases with_socket_cases sound object with ⟨first, new⟩ | ⟨older, first⟩ <;>
        rcases with_socket_cases sound its with ⟨second, also⟩ | ⟨elder, second⟩
      · exact first.trans second.symm
      · exact absurd (new ▸ elder) (Nat.lt_irrefl _)
      · exact absurd (also ▸ older) (Nat.lt_irrefl _)
      · exact sound.numbered.single found other socket first second
    · exact fun name socket named => Nat.lt_succ_of_lt (sound.numbered.named name socket named)
    · exact fun socket member => Nat.lt_succ_of_lt (sound.numbered.listening socket member)

/-! ### Connections -/

theorem set_client_self (fd : Fd) (client : Option ServerId) :
    (state.setClient fd client).descriptors fd = client.map Object.connection :=
  Function.update_self ..

theorem set_client_of_ne {fd other : Fd} (differ : other ≠ fd) (client : Option ServerId) :
    (state.setClient fd client).descriptors other = state.descriptors other :=
  Function.update_of_ne differ ..

theorem set_client_of (fd other : Fd) (client : Option ServerId) :
    (state.setClient fd client).clientOf other =
      if other = fd then client else state.clientOf other := by
  by_cases own : other = fd
  · rw [if_pos own, own]
    unfold State.clientOf
    rw [set_client_self]
    cases client <;> rfl
  · rw [if_neg own]
    exact client_of_same (set_client_of_ne own client)

theorem set_client_socket_of {fd : Fd} (foreign : ∀ id, fd ∉ (state.servers id).fds)
    (client : Option ServerId) (other : ServerId) :
    (state.setClient fd client).socketOf other = state.socketOf other := by
  apply socket_of_same
  · rfl
  · intro listenFd held
    apply set_client_of_ne
    rintro rfl
    exact foreign other (listen_fd_mem held)

/-- A connection is no listening socket. -/
theorem set_client_socket {fd other : Fd} {client : Option ServerId} {socket : SocketId}
    (found : (state.setClient fd client).descriptors other = some (.socket socket)) :
    state.descriptors other = some (.socket socket) := by
  by_cases own : other = fd
  · rw [own, set_client_self] at found
    cases client <;> cases found
  · rwa [set_client_of_ne own] at found

theorem set_client_sound (sound : Sound state) {fd : Fd}
    (foreign : ∀ id, fd ∉ (state.servers id).fds) (client : Option ServerId) :
    Sound (state.setClient fd client) where
  ledger :=
    { opened := by
        intro other free
        rw [set_client_of] at free
        by_cases own : other = fd
        · rw [if_pos own] at free
          have closed : (state.setClient fd client).descriptors fd = none := by
            rw [set_client_self, free]
            rfl
          rw [own]
          constructor
          · exact absurd closed
          · rintro ⟨id, its⟩
            exact absurd its (foreign id)
        · rw [if_neg own] at free
          rw [set_client_of_ne own]
          exact sound.ledger.opened other free
      own := by
        intro id other its
        rw [set_client_of, if_neg]
        · exact sound.ledger.own id other its
        · rintro rfl
          exact foreign id its
      owned := sound.ledger.owned
      apart := sound.ledger.apart }
  phases := by
    intro id
    have phases := sound.phases id
    refine ⟨phases.pipe, phases.listenFd, ?_, ?_⟩
    · rw [set_client_socket_of foreign]
      exact phases.socket
    · rw [set_client_socket_of foreign]
      exact phases.listens
  numbered := by
    constructor
    · exact fun other socket found => sound.numbered.made other socket (set_client_socket found)
    · exact fun first second socket found its => sound.numbered.single first second socket
        (set_client_socket found) (set_client_socket its)
    · exact sound.numbered.named
    · exact sound.numbered.listening

theorem foreign_of_closed (ledger : Ledger state) {fd : Fd} (free : state.descriptors fd = none)
    (id : ServerId) : fd ∉ (state.servers id).fds :=
  fun mine => ledger.open_of_mem mine free

theorem foreign_of_client (ledger : Ledger state) {fd : Fd}
    (client : (state.clientOf fd).isSome = true) (id : ServerId) :
    fd ∉ (state.servers id).fds := by
  intro mine
  rw [ledger.own id fd mine] at client
  cases client

theorem crash_sound (sound : Sound state) :
    Sound { state with servers := fun _ => .initial, descriptors := fun _ => none } where
  ledger := ⟨initial_sound.ledger.opened, initial_sound.ledger.own, initial_sound.ledger.owned,
    initial_sound.ledger.apart⟩
  phases := by
    intro id
    refine ⟨rfl, rfl, rfl, ?_⟩
    intro socket found
    cases found
  numbered := by
    constructor
    · intro fd socket found
      cases found
    · intro fd other socket found
      cases found
    · exact sound.numbered.named
    · exact sound.numbered.listening

theorem step_sound {action : Action} (sound : Sound state)
    (taken : step pathOf state action = some next) : Sound next := by
  cases action with
  | pipe id ends =>
      cases ends with
      | none =>
          obtain ⟨_, rfl⟩ := (guarded_eq_some ..).mp taken
          exact sound
      | some ends =>
          obtain ⟨⟨here, reader, writer, apart⟩, rfl⟩ := (guarded_eq_some ..).mp taken
          exact pipe_sound sound here reader writer apart
  | socket id fd =>
      cases fd with
      | none =>
          obtain ⟨_, rfl⟩ := (guarded_eq_some ..).mp taken
          exact release_sound sound rfl rfl
      | some fd =>
          obtain ⟨⟨here, free⟩, rfl⟩ := (guarded_eq_some ..).mp taken
          exact socket_sound sound here free
  | unlinkBefore id ok =>
      obtain ⟨here, rfl⟩ := (guarded_eq_some ..).mp taken
      apply unlink_sound sound <;> rw [here] <;> rfl
  | bind id ok =>
      cases ok with
      | true =>
          obtain ⟨⟨here, _⟩, rfl⟩ := (guarded_eq_some ..).mp taken
          exact bind_sound sound here _
      | false =>
          obtain ⟨_, rfl⟩ := (guarded_eq_some ..).mp taken
          exact release_sound sound rfl rfl
  | listen id ok =>
      cases ok with
      | true =>
          obtain ⟨here, rfl⟩ := (guarded_eq_some ..).mp taken
          exact listen_sound sound here
      | false =>
          obtain ⟨_, rfl⟩ := (guarded_eq_some ..).mp taken
          exact release_sound sound rfl rfl
  | accept id fd =>
      cases fd with
      | none =>
          obtain ⟨_, rfl⟩ := (guarded_eq_some ..).mp taken
          exact sound
      | some fd =>
          obtain ⟨⟨_, free⟩, rfl⟩ := (guarded_eq_some ..).mp taken
          exact set_client_sound sound (foreign_of_closed sound.ledger free) _
  | closeConnection fd =>
      obtain ⟨client, rfl⟩ := (guarded_eq_some ..).mp taken
      exact set_client_sound sound (foreign_of_client sound.ledger client) _
  | beginStop id =>
      obtain ⟨here, rfl⟩ := (guarded_eq_some ..).mp taken
      apply enter_sound sound <;> rw [here] <;> rfl
  | closeAll id =>
      obtain ⟨_, rfl⟩ := (guarded_eq_some ..).mp taken
      exact release_sound sound rfl rfl
  | unlinkAfter id ok =>
      obtain ⟨here, rfl⟩ := (guarded_eq_some ..).mp taken
      apply unlink_sound sound <;> rw [here] <;> rfl
  | crash =>
      cases taken
      exact crash_sound sound

end TboxFramework.Ipc.ListenSocket

import TboxFramework.Ipc.ListenSocket
import Mathlib.Data.List.Induction

/-!
# Whom a name reaches

What the calls on a name have been tells which server clients reach by it and whether it
is taken, and those on a descriptor whose connection it is, however the calls of the servers
are mixed and whichever of them fail. A path that is cut differently for binding and removing
is never free again.
-/

namespace TboxFramework.Ipc.ListenSocket

open Interleaving
open TboxFramework.Store (cString)

set_option autoImplicit false

variable {pathOf : ServerId → SocketPath} {state next : State} {id other : ServerId}
  {name : Bytes}

/-- The name stands for the open socket of this server. -/
def State.Stands (state : State) (name : Bytes) (id : ServerId) : Prop :=
  ∃ socket, state.entries name = some socket ∧ state.socketOf id = some socket

/-- What the calls so far say about a name is so. -/
structure NameTold (name : Bytes) (current : Option ServerId) (taken : Bool) (state : State) :
    Prop where
  occupied : (state.entries name).isSome = taken
  served : ∀ id, current = some id ↔ state.Stands name id

theorem stands_of_same (entries : next.entries name = state.entries name)
    (socket : next.socketOf id = state.socketOf id) :
    next.Stands name id ↔ state.Stands name id := by
  unfold State.Stands
  rw [entries, socket]

theorem not_stands_of_none (closed : state.socketOf id = none) : ¬ state.Stands name id := by
  rintro ⟨socket, _, held⟩
  rw [closed] at held
  cases held

namespace NameTold

variable {current : Option ServerId} {taken : Bool}

theorem of_same (told : NameTold name current taken state)
    (entries : next.entries name = state.entries name)
    (sockets : ∀ id, next.socketOf id = state.socketOf id) :
    NameTold name current taken next where
  occupied := by
    rw [entries]
    exact told.occupied
  served := fun id => (told.served id).trans (stands_of_same entries (sockets id)).symm

/-- The socket of one server is gone. -/
theorem released (told : NameTold name current taken state) (sound : Sound state) (phase : Phase) :
    NameTold name (if current = some id then none else current) taken (state.release id phase) where
  occupied := told.occupied
  served := by
    intro other
    have socket := @release_socket_of state id other sound.ledger phase
    by_cases own : other = id
    · rw [if_pos own] at socket
      constructor
      · intro still
        split at still
        · cases still
        · next differ => exact absurd (own ▸ still) differ
      · exact fun stands => absurd stands (not_stands_of_none socket)
    · rw [if_neg own] at socket
      have same : (if current = some id then none else current) = some other ↔
          current = some other := by
        split
        · next mine =>
            rw [mine]
            simp [Ne.symm own]
        · rfl
      rw [same, told.served other]
      symm
      apply stands_of_same
      · rfl
      · exact socket

theorem entered (told : NameTold name current taken state) (phase : Phase) :
    NameTold name current taken (state.enter id phase) :=
  told.of_same rfl (Enters.mk rfl rfl rfl : Enters state (state.enter id phase) id phase).socket_of

theorem unlinked (told : NameTold name current taken state) (removed : Bytes) (phase : Phase) :
    NameTold name (if removed = name then none else current) (decide (removed ≠ name) && taken)
      ((state.unlink removed true).enter id phase) := by
  have sockets := (Enters.mk rfl rfl rfl : Enters state ((state.unlink removed true).enter id phase)
    id phase).socket_of
  by_cases own : removed = name
  · have gone : ((state.unlink removed true).enter id phase).entries name = none := by
      rw [← own]
      exact Function.update_self ..
    rw [if_pos own]
    constructor
    · rw [gone]
      simp [own]
    · intro other
      constructor
      · intro still
        cases still
      · rintro ⟨socket, named, _⟩
        rw [gone] at named
        cases named
  · rw [if_neg own, decide_eq_true own, Bool.true_and]
    exact told.of_same (Function.update_of_ne (Ne.symm own) ..) sockets

theorem bound (told : NameTold name current taken state) (sound : Sound state)
    (here : (state.servers id).phase = .unlinked) (sunPath : Bytes) :
    NameTold name (if sunPath = name then some id else current) (decide (sunPath = name) || taken)
      ({ state with
        entries := Function.update state.entries sunPath (state.socketOf id) }.enter id
          .bound) := by
  have sockets := (Enters.mk rfl rfl rfl : Enters state ({ state with
    entries := Function.update state.entries sunPath (state.socketOf id) }.enter id .bound) id
      .bound).socket_of
  by_cases own : sunPath = name
  · obtain ⟨socket, held⟩ : ∃ socket, state.socketOf id = some socket := by
      have some := (sound.phases id).socket
      rw [here] at some
      exact Option.isSome_iff_exists.mp some
    have named : ({ state with
        entries := Function.update state.entries sunPath (state.socketOf id) }.enter id
          .bound).entries name = some socket := by
      rw [← own, ← held]
      exact Function.update_self ..
    rw [if_pos own]
    constructor
    · rw [named, decide_eq_true own]
      rfl
    · intro other
      constructor
      · intro same
        cases same
        exact ⟨socket, named, (sockets id).trans held⟩
      · rintro ⟨found, stands, its⟩
        rw [named] at stands
        cases stands
        rw [sockets] at its
        rw [sound.socket_owner held its]
  · rw [if_neg own, decide_eq_false own, Bool.false_or]
    exact told.of_same (Function.update_of_ne (Ne.symm own) ..) sockets

theorem clients (told : NameTold name current taken state) {fd : Fd}
    (foreign : ∀ id, fd ∉ (state.servers id).fds) (client : Option ServerId) :
    NameTold name current taken (state.setClient fd client) :=
  told.of_same rfl (set_client_socket_of foreign client)

end NameTold

variable {actions : List Action}

/-- Whose fields a call may change. -/
def Action.server : Action → Option ServerId
  | .pipe id _ | .socket id _ | .unlinkBefore id _ | .bind id _ | .listen id _ | .accept id _
  | .beginStop id | .closeAll id | .unlinkAfter id _ => some id
  | .closeConnection _ | .crash => none

end TboxFramework.Ipc.ListenSocket

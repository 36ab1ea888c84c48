import TboxFramework.Ipc.ServerThreads

/-!
# Descriptors and the registry of clients

A connection owns its descriptor from `accept` to its own `close`, and
`m_clients` names it only before its thread has erased it. What an entry of
`m_clients` says about its descriptor is therefore true for as long as the entry
stands, but not for as long as somebody remembers it.
-/

namespace TboxFramework.Ipc.Server

open Interleaving

set_option autoImplicit false

variable {Pusher : Type}

inductive Phase
  | unborn
  | serving
  | leaving
  | done
  deriving DecidableEq, Repr

/-- A thread is leaving once it has erased its connection from `m_clients`. -/
def ConnPoint.phase : ConnPoint → Phase
  | .unborn => .unborn
  | .testingRunning | .copyingDisconnect | .disconnectCopied _ | .inDisconnect _ | .closing =>
      .leaving
  | .done => .done
  | _ => .serving

/-- The accept thread holds no connection that has no thread yet. -/
def AcceptPoint.resting : AcceptPoint → Bool
  | .inserting _ _ | .spawning _ => false
  | _ => true

structure Registered (state : State Pusher) : Prop where
  opened : ∀ fd connection, state.descriptors fd = some connection →
    connection < state.nextConnection ∧ (state.connections connection).fd = fd
  alive : ∀ connection, (state.connections connection).point.phase = .serving ∨
    (state.connections connection).point.phase = .leaving →
    state.descriptors (state.connections connection).fd = some connection
  client : ∀ pair ∈ state.clients, state.descriptors pair.1 = some pair.2 ∧
    ((state.connections pair.2).point.phase = .unborn ∨
      (state.connections pair.2).point.phase = .serving)
  inserting : ∀ connection fd, state.accepting = .inserting connection fd →
    state.descriptors fd = some connection ∧
      (state.connections connection).point.phase = .unborn
  spawning : ∀ connection, state.accepting = .spawning connection →
    state.descriptors (state.connections connection).fd = some connection ∧
      (state.connections connection).point.phase = .unborn

namespace Registered

variable {state next : State Pusher}

theorem initially : Registered (initial : State Pusher) := by
  constructor <;> nofun

/-- A step that opens, closes, inserts and erases nothing. -/
theorem keep (registered : Registered state) (descriptors : next.descriptors = state.descriptors)
    (clients : next.clients = state.clients)
    (recent : next.nextConnection = state.nextConnection)
    (accepting : next.accepting = state.accepting ∨ next.accepting.resting = true)
    (same : ∀ connection, (next.connections connection).fd = (state.connections connection).fd ∧
      (next.connections connection).point.phase = (state.connections connection).point.phase) :
    Registered next := by
  constructor
  · intro fd connection found
    rw [descriptors] at found
    rw [recent, (same connection).1]
    exact registered.opened fd connection found
  · intro connection phase
    rw [(same connection).2] at phase
    rw [descriptors, (same connection).1]
    exact registered.alive connection phase
  · intro pair member
    rw [clients] at member
    rw [descriptors, (same pair.2).2]
    exact registered.client pair member
  · intro connection fd here
    rcases accepting with kept | resting
    · rw [descriptors, (same connection).2]
      exact registered.inserting connection fd (kept ▸ here)
    · rw [here] at resting
      cases resting
  · intro connection here
    rcases accepting with kept | resting
    · rw [descriptors, (same connection).1, (same connection).2]
      exact registered.spawning connection (kept ▸ here)
    · rw [here] at resting
      cases resting

theorem accept (registered : Registered state) {fd : Fd} (free : state.descriptors fd = none) :
    Registered { state with
      descriptors := Function.update state.descriptors fd (some state.nextConnection)
      connections := Function.update state.connections state.nextConnection
        { Connection.unborn with fd := fd }
      nextConnection := state.nextConnection + 1
      accepting := .inserting state.nextConnection fd } := by
  have older : ∀ other connection, state.descriptors other = some connection →
      connection ≠ state.nextConnection ∧ other ≠ fd := by
    intro other connection found
    refine ⟨Nat.ne_of_lt (registered.opened other connection found).1, ?_⟩
    rintro rfl
    rw [free] at found
    cases found
  constructor
  · intro other connection found
    by_cases mine : other = fd
    · simp only [mine, Function.update_self, Option.some.injEq] at found
      subst found
      simp [mine]
    · simp only [Function.update_of_ne mine] at found
      simp only [Function.update_of_ne (older other connection found).1]
      have before := registered.opened other connection found
      exact ⟨Nat.lt_succ_of_lt before.1, before.2⟩
  · intro connection phase
    by_cases new : connection = state.nextConnection
    · simp [new, Connection.unborn, ConnPoint.phase] at phase
    · simp only [Function.update_of_ne new] at phase ⊢
      have found := registered.alive connection phase
      rw [Function.update_of_ne (older _ _ found).2]
      exact found
  · intro pair member
    obtain ⟨found, phase⟩ := registered.client pair member
    simp only [Function.update_of_ne (older _ _ found).1, Function.update_of_ne (older _ _ found).2]
    exact ⟨found, phase⟩
  · intro connection other here
    cases here
    simp [Connection.unborn, ConnPoint.phase]
  · nofun

theorem insert_client (registered : Registered state) {connection : ConnId} {fd : Fd}
    (here : state.accepting = .inserting connection fd) :
    Registered { state with
      clients := (fd, connection) :: state.clients.filter (·.1 ≠ fd)
      accepting := .spawning connection } := by
  obtain ⟨found, phase⟩ := registered.inserting connection fd here
  constructor
  · exact registered.opened
  · exact registered.alive
  · intro pair member
    rcases List.mem_cons.mp member with rfl | old
    · exact ⟨found, Or.inl phase⟩
    · exact registered.client pair (List.mem_filter.mp old).1
  · nofun
  · intro other same
    cases same
    rw [(registered.opened fd connection found).2]
    exact ⟨found, phase⟩

theorem spawn (registered : Registered state) {connection : ConnId}
    (here : state.accepting = .spawning connection) :
    Registered ((state.setPoint connection .testingLoop).setAccepting .testing) := by
  obtain ⟨found, unborn⟩ := registered.spawning connection here
  constructor
  · intro fd other opened
    have before := registered.opened fd other opened
    refine ⟨before.1, ?_⟩
    by_cases mine : other = connection
    · simp only [State.setAccepting, State.setPoint, State.modify, mine, Function.update_self]
      exact mine ▸ before.2
    · simp only [State.setAccepting, State.setPoint, State.modify, Function.update_of_ne mine]
      exact before.2
  · intro other phase
    by_cases mine : other = connection
    · simp only [State.setAccepting, State.setPoint, State.modify, mine, Function.update_self]
      exact found
    · simp only [State.setAccepting, State.setPoint, State.modify,
        Function.update_of_ne mine] at phase ⊢
      exact registered.alive other phase
  · intro pair member
    obtain ⟨opened, phase⟩ := registered.client pair member
    refine ⟨opened, ?_⟩
    by_cases mine : pair.2 = connection
    · simp [State.setAccepting, State.setPoint, State.modify, mine, ConnPoint.phase]
    · simp only [State.setAccepting, State.setPoint, State.modify, Function.update_of_ne mine]
      exact phase
  · rintro other fd ⟨⟩
  · rintro other ⟨⟩

theorem erase (registered : Registered state) {connection : ConnId}
    (here : (state.connections connection).point = .erasing) :
    Registered (State.setPoint { state with
      clients := state.clients.filter (·.1 ≠ (state.connections connection).fd) }
      connection .testingRunning) := by
  have own : state.descriptors (state.connections connection).fd = some connection :=
    registered.alive connection (Or.inl (by rw [here]; rfl))
  have unborn : ∀ other, (state.connections other).point.phase = .unborn →
      other ≠ connection := by
    rintro other phase rfl
    rw [here] at phase
    cases phase
  constructor
  · intro fd other opened
    have before := registered.opened fd other opened
    refine ⟨before.1, ?_⟩
    by_cases mine : other = connection
    · simp only [State.setPoint, State.modify, mine, Function.update_self]
      exact mine ▸ before.2
    · simp only [State.setPoint, State.modify, Function.update_of_ne mine]
      exact before.2
  · intro other phase
    by_cases mine : other = connection
    · simp only [State.setPoint, State.modify, mine, Function.update_self]
      exact own
    · simp only [State.setPoint, State.modify, Function.update_of_ne mine] at phase ⊢
      exact registered.alive other phase
  · intro pair member
    obtain ⟨member, away⟩ := List.mem_filter.mp member
    obtain ⟨opened, phase⟩ := registered.client pair member
    refine ⟨opened, ?_⟩
    have other : pair.2 ≠ connection := by
      rintro rfl
      have fd := (registered.opened _ _ opened).2
      simp [fd] at away
    simp only [State.setPoint, State.modify, Function.update_of_ne other]
    exact phase
  · intro other fd inserting
    obtain ⟨opened, phase⟩ := registered.inserting other fd inserting
    simp only [State.setPoint, State.modify, Function.update_of_ne (unborn other phase)]
    exact ⟨opened, phase⟩
  · intro other spawning
    obtain ⟨opened, phase⟩ := registered.spawning other spawning
    simp only [State.setPoint, State.modify, Function.update_of_ne (unborn other phase)]
    exact ⟨opened, phase⟩

/-- The descriptor that a thread closes is its own, and nothing refers to it. -/
theorem close (registered : Registered state) {connection : ConnId}
    (here : (state.connections connection).point = .closing) :
    Registered (State.setPoint { state with
      descriptors := Function.update state.descriptors (state.connections connection).fd none }
      connection .done) := by
  have own : state.descriptors (state.connections connection).fd = some connection :=
    registered.alive connection (Or.inr (by rw [here]; rfl))
  have apart : ∀ fd other, state.descriptors fd = some other → other ≠ connection →
      fd ≠ (state.connections connection).fd := by
    rintro fd other opened different rfl
    exact different (Option.some.inj (opened.symm.trans own))
  have leaving : ∀ other, (state.connections other).point.phase ≠ .leaving →
      other ≠ connection := by
    rintro other phase rfl
    rw [here] at phase
    exact phase rfl
  constructor
  · intro fd other opened
    by_cases gone : fd = (state.connections connection).fd
    · simp [State.setPoint, State.modify, gone] at opened
    · simp only [State.setPoint, State.modify, Function.update_of_ne gone] at opened
      have before := registered.opened fd other opened
      refine ⟨before.1, ?_⟩
      have different : other ≠ connection := by
        rintro rfl
        exact gone before.2.symm
      simp only [State.setPoint, State.modify, Function.update_of_ne different]
      exact before.2
  · intro other phase
    by_cases mine : other = connection
    · simp [State.setPoint, State.modify, mine, ConnPoint.phase] at phase
    · simp only [State.setPoint, State.modify, Function.update_of_ne mine] at phase ⊢
      have opened := registered.alive other phase
      rw [Function.update_of_ne (apart _ other opened mine)]
      exact opened
  · intro pair member
    obtain ⟨opened, phase⟩ := registered.client pair member
    have different := leaving pair.2 (by rcases phase with new | serving <;> simp [*])
    simp only [State.setPoint, State.modify, Function.update_of_ne different,
      Function.update_of_ne (apart _ _ opened different)]
    exact ⟨opened, phase⟩
  · intro other fd inserting
    obtain ⟨opened, phase⟩ := registered.inserting other fd inserting
    have different := leaving other (by simp [phase])
    simp only [State.setPoint, State.modify, Function.update_of_ne different,
      Function.update_of_ne (apart _ _ opened different)]
    exact ⟨opened, phase⟩
  · intro other spawning
    obtain ⟨opened, phase⟩ := registered.spawning other spawning
    have different := leaving other (by simp [phase])
    simp only [State.setPoint, State.modify, Function.update_of_ne different,
      Function.update_of_ne (apart _ _ opened different)]
    exact ⟨opened, phase⟩

end Registered

/-- The actions that begin or end an ownership that `Registered` speaks about. -/
def Action.registers : Action Pusher → Bool
  | .accept _ | .insertClient _ _ | .spawnConnection _ | .erase _ | .close _ => true
  | _ => false

section Aside

variable {state : State Pusher} {action : Action Pusher}

theorem DescriptorMove.kept {descriptors : Fd → Option ConnId} {recent : ConnId}
    (move : DescriptorMove state action descriptors recent) (aside : action.registers = false) :
    descriptors = state.descriptors ∧ recent = state.nextConnection := by
  cases move with
  | still => exact ⟨rfl, rfl⟩
  | accepts | closes => cases aside

theorem TableMove.kept {clients : List (Fd × ConnId)} {point : AcceptPoint}
    (move : TableMove state action clients point) (aside : action.registers = false) :
    clients = state.clients ∧ (point = state.accepting ∨ point.resting = true) := by
  cases move with
  | still => exact ⟨rfl, Or.inl rfl⟩
  | tests => exact ⟨rfl, Or.inr (by split <;> rfl)⟩
  | spawnsAccept | joins | breaks | fails => exact ⟨rfl, Or.inr rfl⟩
  | accepts | inserts | spawns | erases => cases aside

theorem Edge.phase_kept {connection : ConnId} {before point : ConnPoint}
    (edge : Edge state connection action before point) (aside : action.registers = false) :
    point.phase = before.phase := by
  cases edge with
  | testLoop | testRunning => split <;> rfl
  | erase | close => cases aside
  | _ => rfl

theorem Move.phase_kept {connection : ConnId} {own : Connection Pusher}
    (move : Move state action connection own) (aside : action.registers = false) :
    own.fd = (state.connections connection).fd ∧
      own.point.phase = (state.connections connection).point.phase := by
  cases move with
  | goes _ _ _ point edge => exact ⟨rfl, edge.phase_kept aside⟩
  | reads _ _ here | returns _ _ _ _ here | skips _ _ here =>
      rw [here]
      exact ⟨rfl, rfl⟩
  | responds _ _ _ _ _ _ here =>
      rw [here]
      refine ⟨rfl, ?_⟩
      dsimp only
      split <;> rfl
  | born | spawned => cases aside
  | _ => exact ⟨rfl, rfl⟩

end Aside

variable [DecidableEq Pusher] {maxFrameBytes : UInt32} {state next : State Pusher}
  {action : Action Pusher}

theorem registered_step (registered : Registered state)
    (taken : step maxFrameBytes state action = some next) : Registered next := by
  cases action with
  | accept fd =>
      obtain ⟨⟨-, free⟩, rfl⟩ := (guarded_eq_some ..).mp taken
      exact registered.accept free
  | insertClient connection fd =>
      obtain ⟨here, rfl⟩ := (guarded_eq_some ..).mp taken
      exact registered.insert_client here
  | spawnConnection connection =>
      obtain ⟨here, rfl⟩ := (guarded_eq_some ..).mp taken
      exact registered.spawn here
  | erase connection =>
      obtain ⟨here, rfl⟩ := (guarded_eq_some ..).mp taken
      exact registered.erase here
  | close connection =>
      obtain ⟨here, rfl⟩ := (guarded_eq_some ..).mp taken
      exact registered.close here
  | _ =>
      obtain ⟨descriptors, recent⟩ := (step_descriptors taken).kept rfl
      obtain ⟨clients, accepting⟩ := (step_tables taken).kept rfl
      exact registered.keep descriptors clients recent accepting
        (fun connection => (step_moves taken connection).phase_kept rfl)

end TboxFramework.Ipc.Server

import TboxFramework.Ipc.ServerRegistry

/-!
# Whose events a connection gets

A push collects descriptors with their `ClientState` under one lock and writes
to the descriptors later. In between the connection may be closed and its number
given to the next one: `write_mutex` belongs to the `ClientState`, and `close`
does not take it.
-/

namespace TboxFramework.Ipc.Server

open Interleaving

set_option autoImplicit false

variable {Pusher : Type}

/-- An event that may be on the wire of a connection. -/
def Chunk.BelongsTo (connection : ConnId) (own : Connection Pusher) (chunk : Chunk) : Prop :=
  ∀ eventType payloadJson target, chunk.source = .event eventType payloadJson target →
    target = connection ∧ eventType ∈ own.everSubscribed

/-- Every event byte that was sent is on the wire of the connection it was
collected for, which has subscribed to its type. -/
def Isolated (state : State Pusher) : Prop :=
  ∀ connection, ∀ chunk ∈ (state.connections connection).wire,
    chunk.BelongsTo connection (state.connections connection)

structure Aimed (state : State Pusher) : Prop where
  registered : Registered state
  subscribed : ∀ connection, (state.connections connection).subscriptions ⊆
    (state.connections connection).everSubscribed
  target : ∀ pusher, ∀ entry ∈ (state.pushes pusher).awaited,
    entry.2.2 < state.nextConnection ∧
      (∀ connection, state.descriptors entry.2.1 = some connection → connection = entry.2.2) ∧
      entry.1 ∈ (state.connections entry.2.2).everSubscribed
  isolated : Isolated state

theorem Aimed.initially : Aimed (initial : State Pusher) := by
  refine ⟨.initially, ?_, ?_, ?_⟩
  · intro connection
    exact List.Subset.refl _
  · intro pusher
    exact nofun
  · intro connection
    exact nofun

variable {state next : State Pusher} {action : Action Pusher} {connection : ConnId}
  {own : Connection Pusher}

theorem Chunk.BelongsTo.response (connection : ConnId) (own : Connection Pusher)
    (answer : Result) (bytes : Bytes) : Chunk.BelongsTo connection own ⟨.response answer, bytes⟩ :=
  nofun

namespace Move

theorem ever_grows (move : Move state action connection own)
    (old : connection ≠ state.nextConnection) :
    (state.connections connection).everSubscribed ⊆ own.everSubscribed := by
  cases move with
  | born => exact absurd rfl old
  | subscribes => exact List.subset_cons_self _ _
  | _ => exact List.Subset.refl _

theorem subscribed (aimed : Aimed state) (move : Move state action connection own) :
    own.subscriptions ⊆ own.everSubscribed := by
  cases move with
  | born => exact List.Subset.refl _
  | subscribes => exact List.cons_subset_cons _ (aimed.subscribed connection)
  | unsubscribes =>
      exact List.Subset.trans (List.filter_subset_self _) (aimed.subscribed connection)
  | _ => exact aimed.subscribed connection

theorem isolated (aimed : Aimed state) (move : Move state action connection own) :
    ∀ chunk ∈ own.wire, chunk.BelongsTo connection own := by
  have before := aimed.isolated connection
  cases move with
  | born => exact nofun
  | responds _ owner answer rest count writer here =>
      intro chunk member
      rcases List.mem_append.mp member with old | new
      · exact before chunk old
      · rw [List.mem_singleton.mp new]
        exact .response connection _ answer _
  | receives _ target pusher eventType payloadJson fd rest targets anySent count writer here
      reached =>
      intro chunk member
      rcases List.mem_append.mp member with old | new
      · exact before chunk old
      · rw [List.mem_singleton.mp new]
        rintro _ _ _ ⟨⟩
        obtain ⟨-, only, subscribed⟩ := aimed.target pusher (eventType, fd, target)
          (by rw [here]; exact List.mem_cons_self ..)
        have same : connection = target := only connection reached.1
        exact ⟨same.symm, same ▸ subscribed⟩
  | subscribes fd eventType _ =>
      intro chunk member type payloadJson target event
      obtain ⟨mine, subscribed⟩ := before chunk member type payloadJson target event
      exact ⟨mine, List.mem_cons_of_mem _ subscribed⟩
  | _ => exact before

end Move

variable [DecidableEq Pusher] {maxFrameBytes : UInt32}

theorem aimed_step (aimed : Aimed state) (unawaited : DescriptorUnawaited state action)
    (taken : step maxFrameBytes state action = some next) : Aimed next := by
  have opens := step_opens taken
  refine ⟨registered_step aimed.registered taken,
    fun connection => (step_moves taken connection).subscribed aimed, ?_,
    fun connection => (step_moves taken connection).isolated aimed⟩
  intro pusher entry member
  have held : entry.2.2 < state.nextConnection ∧
      (∀ connection, state.descriptors entry.2.1 = some connection → connection = entry.2.2) ∧
      entry.1 ∈ (state.connections entry.2.2).everSubscribed := by
    rcases (step_pushes taken pusher).awaited entry member with old | collected
    · exact aimed.target pusher entry old
    · obtain ⟨client, subscribed⟩ := List.mem_filter.mp collected
      have reached := (aimed.registered.client _ client).1
      refine ⟨(aimed.registered.opened _ _ reached).1, ?_, ?_⟩
      · intro connection other
        exact Option.some.inj (other.symm.trans reached)
      · exact aimed.subscribed _ (by simpa using subscribed)
  obtain ⟨recent, only, subscribed⟩ := held
  refine ⟨Nat.lt_of_lt_of_le recent opens.recent, ?_,
    (step_moves taken _).ever_grows (Nat.ne_of_lt recent) subscribed⟩
  intro connection reached
  rcases opens.descriptors _ connection reached with old | ⟨rfl, -⟩
  · exact only connection old
  · rcases (step_pushes taken pusher).awaited entry member with old | collected
    · exact absurd rfl (unawaited pusher entry old)
    · obtain ⟨client, -⟩ := List.mem_filter.mp collected
      have opened := (aimed.registered.client _ client).1
      obtain ⟨⟨-, free⟩, -⟩ := (guarded_eq_some ..).mp taken
      rw [opened] at free
      cases free

/-- As long as no descriptor number is given out again under a push, every event
byte goes to the connection it was collected for. -/
theorem events_stay_isolated (maxFrameBytes : UInt32) (actions : List (Action Pusher))
    (unawaited : Along (step maxFrameBytes) DescriptorUnawaited initial actions) :
    Always (step maxFrameBytes) Isolated initial actions :=
  always_of_invariant (fun _ _ _ => aimed_step) (fun _ => Aimed.isolated) Aimed.initially unawaited

def subscribe : Request := ⟨1, []⟩

/-- The handler subscribes connection 0, and its response is written. -/
def subscribed : List (Action Unit) :=
  firstRequest 5 subscribe ++ [.callHandler 0 subscribe 0, .addSubscription 5 7,
    .handlerReturns 0 subscribe 0 (some []), .findState 0 (0, []), .lockWrite 0 0 (0, []),
    .sendResponse 0 0 (0, []) (encodeResponse 0 []) 8, .testLoop 0]

/-- A push to connection 0 is written before anything else happens. -/
def pushed : List (Action Unit) :=
  subscribed ++ [.pushEvent () 7 [] [(5, 0)], .lockPush () 7 [] 5 0 [] false,
    .sendEvent () 7 [] 5 0 (encodeEvent 7 []) [] false 8]

theorem prompt_push_isolated :
    ∃ last, run (step 1024) initial pushed = some last ∧
      Always (step 1024) Isolated initial pushed :=
  ⟨_, rfl, events_stay_isolated 1024 pushed (by decide)⟩

/-- The push has collected connection 0, which then ends; connection 1 gets its
descriptor number and the event. -/
def pushedLate : List (Action Unit) :=
  subscribed ++ [.pushEvent () 7 [] [(5, 0)], .readFails 0, .erase 0, .testRunning 0,
    .copyDisconnect 0, .skipDisconnect 0, .close 0, .testAccept, .accept 5, .insertClient 1 5,
    .spawnConnection 1, .lockPush () 7 [] 5 0 [] false,
    .sendEvent () 7 [] 5 0 (encodeEvent 7 []) [] false 8]

theorem reused_descriptor_gets_event :
    ∃ last, run (step 1024) initial pushedLate = some last ∧
      (last.connections 1).everSubscribed = [] ∧
      (last.connections 1).wire = [⟨.event 7 [] 0, encodeEvent 7 []⟩] ∧ ¬Isolated last := by
  refine ⟨_, rfl, rfl, rfl, ?_⟩
  intro isolated
  have mine := (isolated 1 ⟨.event 7 [] 0, encodeEvent 7 []⟩ (List.mem_cons_self ..) 7 [] 0 rfl).1
  exact absurd mine (by decide)

end TboxFramework.Ipc.Server

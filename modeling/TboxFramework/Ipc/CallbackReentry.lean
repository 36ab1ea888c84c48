import Mathlib.Logic.Relation
import TboxFramework.Ipc.SubscriptionCalls

/-!
# Calls of the API from inside a callback

`disconnect` joins reader threads under `m_subMutex`, and a reader thread runs the
code of a callback. Threads that wait for each other in a circle wait forever, and one
that is to join itself gets an exception instead.
-/

namespace TboxFramework.Ipc.Subscription

open Interleaving

set_option autoImplicit false

/-- No thread waits for itself where a rank decreases from who waits to whom it waits for. -/
theorem no_cycle_of_rank {Waiter : Type} {waits : Waiter → Waiter → Prop} (rank : Waiter → Nat)
    (decreases : ∀ first second, waits first second → rank second < rank first)
    (waiter : Waiter) : ¬Relation.TransGen waits waiter waiter := by
  intro cycle
  have below : ∀ last, Relation.TransGen waits waiter last → rank last < rank waiter := by
    intro last chain
    induction chain with
    | single wait => exact decreases _ _ wait
    | tail _ wait ih => exact Nat.lt_trans (decreases _ _ wait) ih
  exact Nat.lt_irrefl _ (below waiter cycle)

variable {User : Type}

/-- The part of a `disconnect` under `m_subMutex`, in which this `cancel` runs. -/
def After.listing : After → Bool
  | .walking _ | .destroying (some _) => true
  | _ => false

/-- A call holds `m_subMutex`. -/
def CallPoint.listing : CallPoint → Bool
  | .pushing _ | .walking _ | .dropping _ (some _) | .escaping _ => true
  | .lockingCancel _ after | .exchangingActive _ after | .exchangingFd _ after
  | .shuttingDown _ _ after | .testingJoinable _ after | .joining _ after
  | .unlocking _ after | .unwinding _ after => after.listing
  | _ => false

/-- The subscriptions that a `disconnect` has to cancel before it unlocks `m_subMutex`. -/
def CallPoint.ahead : CallPoint → List SubId
  | .walking rest => rest
  | .dropping subscription (some rest) => subscription :: rest
  | .lockingCancel subscription after | .exchangingActive subscription after
  | .exchangingFd subscription after | .shuttingDown subscription _ after
  | .testingJoinable subscription after | .joining subscription after
  | .unlocking subscription after | .unwinding subscription after =>
      if after.listing then subscription :: after.rest else []
  | _ => []

/-- A call of `subscribe` waits for `m_subMutex`, or has yet to ask for it. -/
def CallPoint.registers : CallPoint → Bool
  | .registering _ => true
  | _ => false

/-- A thread cannot go on before another one does. -/
inductive WaitsFor (state : State User) : Thread User → Thread User → Prop
  | register (thread holder : Thread User) (subscription : SubId)
      (here : state.calls thread = .registering subscription)
      (held : state.subMutex = some holder) : WaitsFor state thread holder
  | enter (thread holder : Thread User) (here : state.calls thread = .entering)
      (held : state.subMutex = some holder) : WaitsFor state thread holder
  | cancel (thread holder : Thread User) (subscription : SubId) (after : After)
      (here : state.calls thread = .lockingCancel subscription after)
      (held : (state.impls subscription).cancelMutex = some holder) :
      WaitsFor state thread holder
  | join (thread : Thread User) (subscription : SubId) (after : After)
      (here : state.calls thread = .joining subscription after)
      (other : thread ≠ .reader subscription)
      (running : (state.impls subscription).point ≠ .done) :
      WaitsFor state thread (.reader subscription)

/-- No threads wait for each other in a circle, and no thread joins itself. -/
structure Unblocked (state : State User) : Prop where
  acyclic : ∀ thread, ¬Relation.TransGen (WaitsFor state) thread thread
  apart : ∀ subscription after,
    state.calls (.reader subscription) ≠ .joining subscription after

/-- Of the API, callbacks use `subscribe`, `disconnect`, and `cancel` on their own
subscription. They keep the `Subscription` that `subscribe` returns. -/
def callbackUse (state : State User) : Action User → Bool
  | .cancel (.reader own) handle => (state.handles handle).all fun held => held == own
  | .release (.reader _) _ | .replace (.reader _) _ _ => false
  | _ => true

/-- A callback calls neither `cancel` nor `disconnect`, and `subscribe` only while no
`disconnect` under `m_subMutex` has its subscription still ahead. A `disconnect` locks
`m_subMutex` only while no callback of a subscription in the list waits for it. -/
def considerate (state : State User) : Action User → Bool
  | .cancel (.reader own) handle => state.handles handle != some own
  | .disconnect (.reader _) => false
  | .subscribe (.reader own) _ =>
      state.subMutex.all fun holder => !(state.calls holder).ahead.contains own
  | .enter _ =>
      state.subscriptions.all fun listed => !(state.calls (.reader listed)).registers
  | _ => true

structure Orderly (state : State User) : Prop where
  sectioned : Sectioned state
  listing : ∀ thread, (state.calls thread).listing = true ↔ state.subMutex = some thread
  simple : ∀ subscription, state.calls (.reader subscription) = .idle ∨
    (state.calls (.reader subscription)).creating ≠ none
  apart : ∀ thread, ∀ subscription ∈ (state.calls thread).ahead,
    (state.calls (.reader subscription)).registers = false

theorem Orderly.initially : Orderly (initial : State User) where
  sectioned := .initially
  listing := fun _ => ⟨nofun, nofun⟩
  simple := fun _ => Or.inl rfl
  apart := nofun

/-! ## The order of the waits -/

namespace State

/-- A `disconnect` has the subscription still ahead. -/
def Awaited (state : State User) (subscription : SubId) : Prop :=
  ∃ holder ∈ state.subMutex, subscription ∈ (state.calls holder).ahead

instance (state : State User) (subscription : SubId) : Decidable (state.Awaited subscription) :=
  inferInstanceAs (Decidable (∃ holder ∈ state.subMutex, _))

/-- Who waits for `m_subMutex` waits for a `disconnect`, which waits for the readers that
it has still ahead; all others that wait for a reader come first. -/
def rank (state : State User) (thread : Thread User) : Nat :=
  match state.calls thread with
  | .registering _ | .entering => 3
  | .lockingCancel subscription _ => if state.Awaited subscription then 2 else 5
  | .joining subscription _ => if state.Awaited subscription then 1 else 4
  | _ => 0

variable {state : State User} {thread : Thread User} {subscription : SubId} {after : After}

theorem rank_locking (here : state.calls thread = .lockingCancel subscription after) :
    state.rank thread = if state.Awaited subscription then 2 else 5 := by
  simp only [rank, here]

theorem rank_joining (here : state.calls thread = .joining subscription after) :
    state.rank thread = if state.Awaited subscription then 1 else 4 := by
  simp only [rank, here]

/-- Inside a section under an `m_cancelMutex` a thread at most waits for the reader. -/
theorem rank_inside (inside : (state.calls thread).inside = some subscription) :
    state.rank thread ≤ if state.Awaited subscription then 1 else 4 := by
  cases here : state.calls thread with
  | joining own after =>
      rw [here] at inside
      obtain rfl : own = subscription := Option.some.inj inside
      exact Nat.le_of_eq (rank_joining here)
  | exchangingActive | exchangingFd | shuttingDown | testingJoinable | unlocking | unwinding =>
      simp only [rank, here]
      exact Nat.zero_le _
  | _ =>
      rw [here] at inside
      cases inside

end State

namespace Orderly

variable {state : State User} {holder : Thread User} {subscription : SubId}

/-- A thread that holds `m_subMutex` comes before those that wait for it. -/
theorem rank_holder (orderly : Orderly state) (held : state.subMutex = some holder) :
    state.rank holder < 3 := by
  have listing := (orderly.listing holder).mpr held
  have ahead : ∀ own ∈ (state.calls holder).ahead, state.Awaited own :=
    fun own member => ⟨holder, held, member⟩
  cases here : state.calls holder with
  | lockingCancel own after =>
      rw [here] at listing ahead
      have awaited := ahead own (by simp [CallPoint.ahead, show after.listing = true from listing])
      rw [State.rank_locking here, if_pos awaited]
      decide
  | joining own after =>
      rw [here] at listing ahead
      have awaited := ahead own (by simp [CallPoint.ahead, show after.listing = true from listing])
      rw [State.rank_joining here, if_pos awaited]
      decide
  | registering | entering =>
      rw [here] at listing
      cases listing
  | _ =>
      simp only [State.rank, here]
      decide

/-- A reader thread waits for nothing but `m_subMutex`, and not while a `disconnect` has
it ahead. -/
theorem rank_reader (orderly : Orderly state) (subscription : SubId) :
    state.rank (.reader subscription) < if state.Awaited subscription then 1 else 4 := by
  have reader := orderly.simple subscription
  cases here : state.calls (.reader subscription) with
  | registering own =>
      have free : ¬state.Awaited subscription := by
        rintro ⟨holder, -, member⟩
        have still := orderly.apart holder subscription member
        rw [here] at still
        cases still
      simp only [State.rank, here, if_neg free]
      decide
  | idle | pushing | starting | assigning | handing =>
      simp only [State.rank, here]
      split <;> decide
  | _ =>
      rw [here] at reader
      rcases reader with idle | creates
      · cases idle
      · exact absurd rfl creates

theorem rank_decreases (orderly : Orderly state) {first second : Thread User}
    (waits : WaitsFor state first second) : state.rank second < state.rank first := by
  cases waits with
  | register _ _ here held | enter _ here held =>
      have behind : state.rank first = 3 := by simp only [State.rank, here]
      exact behind ▸ orderly.rank_holder held
  | cancel _ own after here held =>
      have inside := (orderly.sectioned.held own second).mpr held
      have before := State.rank_inside inside
      rw [State.rank_locking here]
      by_cases awaited : state.Awaited own
      · rw [if_pos awaited] at before ⊢
        omega
      · rw [if_neg awaited] at before ⊢
        omega
  | join own after here _ running =>
      rw [State.rank_joining here]
      exact orderly.rank_reader own

theorem unblocked (orderly : Orderly state) : Unblocked state where
  acyclic := no_cycle_of_rank state.rank fun _ _ => orderly.rank_decreases
  apart := by
    intro subscription after here
    rcases orderly.simple subscription with idle | creates
    · rw [here] at idle
      cases idle
    · rw [here] at creates
      exact creates rfl

end Orderly

/-! ## Steps -/

@[simp] theorem After.listing_point (subscription : SubId) (after : After) :
    (after.point subscription).listing = after.listing := by
  cases after with
  | destroying rest => cases rest <;> rfl
  | _ => rfl

theorem CallPoint.listing_of_mem_ahead {point : CallPoint} {subscription : SubId}
    (member : subscription ∈ point.ahead) : point.listing = true := by
  cases point with
  | walking rest => rfl
  | escaping own => rfl
  | dropping own rest =>
      cases rest with
      | none => cases member
      | some rest => rfl
  | lockingCancel own after | exchangingActive own after | exchangingFd own after
  | shuttingDown own _ after | testingJoinable own after | joining own after
  | unlocking own after | unwinding own after =>
      by_contra unlisted
      simp [CallPoint.ahead, show ¬after.listing = true from unlisted] at member
  | _ => cases member

theorem After.listing_thrown (subscription : SubId) {after : After}
    (throws : after.throws = true) : (after.thrown subscription).listing = after.listing := by
  cases after with
  | returning | walking => rfl
  | _ => cases throws

theorem After.ahead_thrown (subscription : SubId) (after : After) :
    (after.thrown subscription).ahead = [] := by
  cases after <;> rfl

theorem After.ahead_point (subscription : SubId) (after : After) :
    (after.point subscription).ahead ⊆
      (CallPoint.unlocking subscription after).ahead := by
  cases after with
  | destroying rest => cases rest <;> simp [After.point, CallPoint.resumed, CallPoint.ahead,
      After.listing, After.rest]
  | _ => simp [After.point, CallPoint.ahead, After.listing, After.rest]

variable [DecidableEq User] {state next : State User} {action : Action User}

namespace CallMove

variable {thread : Thread User} {point : CallPoint}

/-- Only a lock and an unlock of `m_subMutex` take a call into its section or out of it. -/
theorem listing_kept (move : CallMove state action thread point)
    (aside : action.lists = false) : point.listing = (state.calls thread).listing := by
  cases move with
  | still => rfl
  | registers | pushes | enters | leaves | escapes => cases aside
  | rests _ _ here => rw [here]
  | subscribes _ _ free | cancels _ _ _ free | releases _ _ _ free | replaces _ _ _ _ free
  | disconnects _ free =>
      rw [free.1]
      rfl
  | unlocks _ own after here =>
      rw [here]
      exact after.listing_point own
  | unwinds _ own after here throws =>
      rw [here]
      exact after.listing_thrown own throws
  | drops _ own rest here | dropsLast _ own rest here =>
      rw [here]
      cases rest <;> rfl
  | _ =>
      rw [‹state.calls thread = _›]
      rfl

/-- What a `disconnect` has ahead was in the list when it locked `m_subMutex`. -/
theorem ahead_from (move : CallMove state action thread point) :
    ∀ subscription ∈ point.ahead, subscription ∈ (state.calls thread).ahead ∨
      action = .enter thread ∧ subscription ∈ state.subscriptions := by
  intro subscription member
  cases move with
  | still => exact Or.inl member
  | enters => exact Or.inr ⟨rfl, member⟩
  | unlocks _ own after here =>
      rw [here]
      exact Or.inl (after.ahead_point own member)
  | unwinds _ own after here =>
      rw [after.ahead_thrown own] at member
      cases member
  | drops _ own rest here =>
      rw [here]
      cases rest with
      | none => cases member
      | some rest => exact Or.inl (List.mem_cons_of_mem own member)
  | dropsLast _ own rest here =>
      rw [here]
      cases rest <;> exact Or.inl member
  | skips _ own rest here =>
      rw [here]
      exact Or.inl (List.mem_cons_of_mem own member)
  | locks _ _ _ here | deactivates _ _ _ here | finds _ _ _ here | takesFd _ _ _ _ here
  | takesNone _ _ _ here | shuts _ _ _ _ here | readies _ _ _ here | spares _ _ _ here
  | joins _ _ _ here | throws _ _ _ here | walks _ _ _ here =>
      rw [here]
      exact Or.inl member
  | _ => cases member

theorem registers_from (move : CallMove state action thread point)
    (registers : point.registers = true) : (state.calls thread).registers = true ∨
      ∃ hasCallback, action = .subscribe thread hasCallback := by
  cases move with
  | still => exact Or.inl registers
  | subscribes _ hasCallback => exact Or.inr ⟨hasCallback, rfl⟩
  | unlocks _ own after =>
      cases after with
      | destroying rest => cases rest <;> cases registers
      | _ => cases registers
  | unwinds _ own after => cases after <;> cases registers
  | drops _ _ rest => cases rest <;> cases registers
  | _ => cases registers

/-- A callback that uses nothing but `subscribe` is in a call of it, or in none. -/
theorem simple_stays {subscription : SubId}
    (move : CallMove state action (.reader subscription) point)
    (simple : state.calls (.reader subscription) = .idle ∨
      (state.calls (.reader subscription)).creating ≠ none)
    (used : callbackUse state action = true) (gentle : considerate state action = true) :
    point = .idle ∨ point.creating ≠ none := by
  cases move with
  | still => exact simple
  | rests | hands | leaves | escapes => exact Or.inl rfl
  | subscribes | registers | pushes | starts | assigns => exact Or.inr nofun
  | cancels _ own handle _ found =>
      obtain rfl : own = subscription := by simpa [callbackUse, found] using used
      simp [considerate, found] at gentle
  | releases | replaces => cases used
  | disconnects => cases gentle
  | _ =>
      rw [‹state.calls (.reader subscription) = _›] at simple
      rcases simple with idle | creates
      · cases idle
      · exact absurd rfl creates

end CallMove

namespace Orderly

variable {mover : Thread User} {point : CallPoint}

theorem listing_locks (orderly : Orderly state) (free : state.subMutex = none)
    (listing : point.listing = true) (thread : Thread User) :
    (Function.update state.calls mover point thread).listing = true ↔
      some mover = some thread := by
  have before := orderly.listing thread
  rw [free] at before
  by_cases same : thread = mover
  · simp [same, listing]
  · simpa [same, Ne.symm same] using before

theorem listing_unlocks (orderly : Orderly state)
    (listing : (state.calls mover).listing = true) (left : point.listing = false)
    (thread : Thread User) :
    (Function.update state.calls mover point thread).listing = true ↔
      (none : Option (Thread User)) = some thread := by
  have before := orderly.listing thread
  rw [(orderly.listing mover).mp listing] at before
  by_cases same : thread = mover
  · simp [same, left]
  · simpa [same, Ne.symm same] using before

end Orderly

theorem orderly_step (orderly : Orderly state)
    (permitted : callbackUse state action = true ∧ considerate state action = true)
    (taken : step state action = some next) : Orderly next := by
  constructor
  · exact sectioned_step orderly.sectioned taken
  · intro thread
    by_cases aside : action.lists = false
    · rw [(step_calls taken thread).listing_kept aside, (step_bystander taken).subMutex aside]
      exact orderly.listing thread
    · cases action with
      | register mover own =>
          obtain ⟨⟨-, free⟩, rfl⟩ := (guarded_eq_some ..).mp taken
          exact orderly.listing_locks free rfl thread
      | push mover own =>
          obtain ⟨here, rfl⟩ := (guarded_eq_some ..).mp taken
          exact orderly.listing_unlocks (by rw [here]; rfl) rfl thread
      | enter mover =>
          obtain ⟨⟨-, free⟩, rfl⟩ := (guarded_eq_some ..).mp taken
          exact orderly.listing_locks free rfl thread
      | leave mover =>
          obtain ⟨here, rfl⟩ := (guarded_eq_some ..).mp taken
          exact orderly.listing_unlocks (by rw [here]; rfl) rfl thread
      | escape mover own =>
          obtain ⟨⟨here, -⟩, rfl⟩ := (guarded_eq_some ..).mp taken
          exact orderly.listing_unlocks (by rw [here]; rfl) rfl thread
      | _ => exact absurd rfl aside
  · intro subscription
    exact (step_calls taken (.reader subscription)).simple_stays (orderly.simple subscription)
      permitted.1 permitted.2
  · intro thread subscription member
    by_contra waits
    have registers := (step_calls taken (.reader subscription)).registers_from
      (by simpa using waits)
    rcases (step_calls taken thread).ahead_from subscription member with ahead | ⟨rfl, listed⟩
    · rcases registers with registers | ⟨hasCallback, rfl⟩
      · exact Bool.false_ne_true
          ((orderly.apart thread subscription ahead).symm.trans registers)
      · have held := (orderly.listing thread).mp (CallPoint.listing_of_mem_ahead ahead)
        simpa [considerate, held, ahead] using permitted.2
    · rcases registers with registers | ⟨hasCallback, started⟩
      · have quiet := List.all_eq_true.mp permitted.2 subscription listed
        rw [registers] at quiet
        cases quiet
      · cases started

/-- No threads wait for each other in a circle, and none joins itself, in every run in which
callbacks call `subscribe` only, and only while no `disconnect` waits for them. -/
theorem considerate_callbacks_unblocked (actions : List (Action User))
    (used : Along step (fun state action => callbackUse state action = true) initial actions)
    (gentle : Along step (fun state action => considerate state action = true) initial actions) :
    Always step Unblocked initial actions :=
  always_of_invariant (fun _ _ _ => orderly_step) (fun _ => Orderly.unblocked) .initially
    (along_and used gentle)

/-- The callback of subscription 0 makes subscription 1, and a `disconnect` joins its reader
when the callback has returned. -/
def resubscribing : List (Action Unit) :=
  listening ++ [.eventArrives 0 5, .subscribe (.reader 0) true, .register (.reader 0) 1,
    .push (.reader 0) 1, .start (.reader 0) 1, .assign (.reader 0) 1, .handOver (.reader 0) 1 1,
    .callbackReturns 0 5, .disconnect (.user ()), .enter (.user ()), .walk (.user ()) 0 [1],
    .lockCancel (.user ()) 0 (.walking [1]), .exchangeActive (.user ()) 0 (.walking [1]),
    .exchangeFd (.user ()) 0 (.walking [1]), .shutdown (.user ()) 0 5 (.walking [1]),
    .testJoinable (.user ()) 0 (.walking [1])]

theorem resubscribing_unblocked :
    ∃ last, run step initial resubscribing = some last ∧
      last.calls (.user ()) = .joining 0 (.walking [1]) ∧
      Always step Unblocked initial resubscribing :=
  ⟨_, rfl, rfl, considerate_callbacks_unblocked resubscribing (by decide) (by decide)⟩

/-- A callback cancels its own subscription. -/
def selfCancel : List (Action Unit) :=
  listening ++ [.eventArrives 0 5, .cancel (.reader 0) 0, .lockCancel (.reader 0) 0 .returning,
    .exchangeActive (.reader 0) 0 .returning, .exchangeFd (.reader 0) 0 .returning,
    .shutdown (.reader 0) 0 5 .returning, .testJoinable (.reader 0) 0 .returning]

/-- The exception unlocks `m_cancelMutex` and ends in `eventLoop`; nobody has joined. -/
example : ∃ last, run step initial (selfCancel ++ [.joinThrows (.reader 0) 0 .returning,
      .unwindCancel (.reader 0) 0 .returning, .callbackReturns 0 5, .pollActive 0 5]) =
        some last ∧
    (last.impls 0).point = .clearing 5 ∧ (last.impls 0).cancelMutex = none ∧
      (last.impls 0).thread = .joinable :=
  ⟨_, rfl, rfl, rfl, rfl⟩

/-- A callback subscribes while a `disconnect` joins its reader thread. -/
def lateSubscribe : List (Action Unit) :=
  listening ++ [.eventArrives 0 5, .disconnect (.user ()), .enter (.user ()),
    .walk (.user ()) 0 [], .lockCancel (.user ()) 0 (.walking []),
    .exchangeActive (.user ()) 0 (.walking []), .exchangeFd (.user ()) 0 (.walking []),
    .shutdown (.user ()) 0 5 (.walking []), .testJoinable (.user ()) 0 (.walking []),
    .subscribe (.reader 0) true]

/-- In the first run a reader thread is to join itself; in the second one a `disconnect`
joins the reader thread of a callback that waits for `m_subMutex`. -/
theorem callbacks_block_themselves :
    (∃ last, run step initial selfCancel = some last ∧
      Along step (fun state action => callbackUse state action = true) initial selfCancel ∧
      last.calls (.reader 0) = .joining 0 .returning ∧ ¬Unblocked last) ∧
    ∃ last, run step initial lateSubscribe = some last ∧
      Along step (fun state action => callbackUse state action = true) initial lateSubscribe ∧
      Relation.TransGen (WaitsFor last) (.user ()) (.user ()) ∧ ¬Unblocked last := by
  have circle : ∀ state : State Unit, Relation.TransGen (WaitsFor state) (.user ()) (.user ()) →
      Relation.TransGen (WaitsFor state) (.user ()) (.user ()) ∧ ¬Unblocked state :=
    fun state cycle => ⟨cycle, fun unblocked => unblocked.acyclic (.user ()) cycle⟩
  refine ⟨⟨_, rfl, by decide, rfl, ?_⟩, _, rfl, by decide, circle _ ?_⟩
  · intro unblocked
    exact unblocked.apart 0 .returning rfl
  · apply Relation.TransGen.tail (.single (.join (.user ()) 0 (.walking []) rfl nofun (by decide)))
    exact .register (.reader 0) (.user ()) 1 rfl rfl

end TboxFramework.Ipc.Subscription

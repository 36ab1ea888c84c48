import TboxFramework.Ipc.SubscriptionThreads

/-!
# What calls of the API have in hand

A call never has to do with a subscription that is still to be made. Only one call
makes a subscription, and there is no reader before it has started one. A call of
`cancel`, by whatever way it is reached, runs under the `m_cancelMutex` of its
subscription from the exchange of `m_active` to the return.
-/

namespace TboxFramework.Ipc.Subscription

open Interleaving

set_option autoImplicit false

variable {User : Type}

/-- The subscription that a call works on. -/
def CallPoint.current : CallPoint → Option SubId
  | .registering subscription | .pushing subscription | .starting subscription
  | .assigning subscription | .handing subscription | .lockingCancel subscription _
  | .exchangingActive subscription _ | .exchangingFd subscription _
  | .shuttingDown subscription _ _ | .testingJoinable subscription _
  | .joining subscription _ | .unlocking subscription _ | .unwinding subscription _
  | .escaping subscription | .transferring subscription _ _ | .dropping subscription _ =>
      some subscription
  | .idle | .entering | .walking _ => none

/-- The subscription that a call of `subscribe` makes. -/
def CallPoint.creating : CallPoint → Option SubId
  | .registering subscription | .pushing subscription | .starting subscription
  | .assigning subscription | .handing subscription => some subscription
  | _ => none

/-- The subscription that a call of `subscribe` has still to start. -/
def CallPoint.preparing : CallPoint → Option SubId
  | .registering subscription | .pushing subscription | .starting subscription =>
      some subscription
  | _ => none

/-- The subscription under whose `m_cancelMutex` a call runs. -/
def CallPoint.inside : CallPoint → Option SubId
  | .exchangingActive subscription _ | .exchangingFd subscription _
  | .shuttingDown subscription _ _ | .testingJoinable subscription _
  | .joining subscription _ | .unlocking subscription _ | .unwinding subscription _ =>
      some subscription
  | _ => none

/-- What a `disconnect` still has before it when this `cancel` is over. -/
def After.rest : After → List SubId
  | .walking rest | .destroying (some rest) => rest
  | _ => []

def CallPoint.rest : CallPoint → List SubId
  | .lockingCancel _ after | .exchangingActive _ after | .exchangingFd _ after
  | .shuttingDown _ _ after | .testingJoinable _ after | .joining _ after
  | .unlocking _ after | .unwinding _ after => after.rest
  | .dropping _ (some rest) | .walking rest => rest
  | _ => []

/-- The actions that lock or unlock an `m_cancelMutex`. -/
def Action.excludes : Action User → Bool
  | .lockCancel _ _ _ | .unlockCancel _ _ _ | .unwindCancel _ _ _ => true
  | _ => false

/-- The subscriptions that a call has to do with. -/
def CallPoint.subs (point : CallPoint) : List SubId :=
  point.current.toList ++ point.rest

/-- No part of the program knows a subscription that is still to be made. -/
structure Bounded (state : State User) : Prop where
  known : ∀ thread, ∀ subscription ∈ (state.calls thread).subs, subscription < state.nextSub
  listed : ∀ subscription ∈ state.subscriptions, subscription < state.nextSub
  handled : ∀ handle, ∀ subscription ∈ state.handles handle, subscription < state.nextSub

theorem Bounded.initially : Bounded (initial : State User) where
  known := nofun
  listed := nofun
  handled := nofun

theorem After.subs_point (subscription : SubId) (after : After) :
    (after.point subscription).subs ⊆ subscription :: after.rest := by
  cases after with
  | destroying rest => cases rest <;> simp [After.point, CallPoint.resumed, CallPoint.subs,
      CallPoint.current, CallPoint.rest, After.rest]
  | _ => simp [After.point, CallPoint.subs, CallPoint.current, CallPoint.rest, After.rest]

theorem After.subs_thrown (subscription : SubId) (after : After) :
    (after.thrown subscription).subs ⊆ [subscription] := by
  cases after with
  | walking rest => exact List.Subset.refl _
  | _ => exact List.nil_subset _

theorem ListMove.listed_bounded {state : State User} {action : Action User}
    {subMutex : Option (Thread User)} {listed : List SubId}
    (move : ListMove state action subMutex listed) (bounded : Bounded state) :
    ∀ subscription ∈ listed, subscription < state.nextSub := by
  intro subscription member
  cases move with
  | pushes thread own here =>
      rcases List.mem_append.mp member with old | new
      · exact bounded.listed subscription old
      · apply bounded.known thread
        rw [here]
        exact new
  | leaves => cases member
  | _ => exact bounded.listed subscription member

theorem HandleMove.handled_bounded {state : State User} {action : Action User} {handle : Handle}
    {content : Option SubId} (move : HandleMove state action handle content)
    (bounded : Bounded state) :
    ∀ subscription ∈ content, subscription < state.nextSub := by
  intro subscription found
  cases move with
  | still => exact bounded.handled handle subscription found
  | empties => cases found
  | hands thread own _ here =>
      cases found
      apply bounded.known thread
      rw [here]
      exact List.mem_singleton.mpr rfl
  | moves _ _ source own mine =>
      cases found
      exact bounded.handled source subscription mine

/-- One call makes a subscription, which has no reader until it is started. -/
structure Raised (state : State User) : Prop where
  bounded : Bounded state
  alone : ∀ first second subscription, (state.calls first).creating = some subscription →
    (state.calls second).creating = some subscription → first = second
  unborn : ∀ thread subscription, (state.calls thread).preparing = some subscription →
    (state.impls subscription).point = .unborn

theorem Raised.initially : Raised (initial : State User) where
  bounded := .initially
  alone := nofun
  unborn := nofun

/-- A call is inside a section under an `m_cancelMutex` exactly as long as it holds it. -/
structure Sectioned (state : State User) : Prop where
  bounded : Bounded state
  held : ∀ subscription thread, (state.calls thread).inside = some subscription ↔
    (state.impls subscription).cancelMutex = some thread

theorem Sectioned.initially : Sectioned (initial : State User) where
  bounded := .initially
  held := by
    intro subscription thread
    exact ⟨nofun, nofun⟩

/-- The points at which a thread is neither making a subscription nor in a `cancel`. -/
def CallPoint.released : CallPoint → Bool
  | .idle | .escaping _ | .transferring _ _ _ | .dropping _ _ | .walking _ => true
  | _ => false

theorem CallPoint.resumed_ne {point : CallPoint} (rest : Option (List SubId))
    (inside : point.released = false) : CallPoint.resumed rest ≠ point := by
  rintro rfl
  cases rest <;> cases inside

theorem After.point_ne {point : CallPoint} (subscription : SubId) (after : After)
    (inside : point.released = false) : after.point subscription ≠ point := by
  rintro rfl
  cases after with
  | destroying rest => exact CallPoint.resumed_ne rest inside rfl
  | _ => cases inside

theorem After.thrown_ne {point : CallPoint} (subscription : SubId) (after : After)
    (inside : point.released = false) : after.thrown subscription ≠ point := by
  rintro rfl
  cases after <;> cases inside

@[simp] theorem After.inside_thrown (subscription : SubId) (after : After) :
    (after.thrown subscription).inside = none := by
  cases after <;> rfl

@[simp] theorem After.creating_thrown (subscription : SubId) (after : After) :
    (after.thrown subscription).creating = none := by
  cases after <;> rfl

@[simp] theorem After.inside_point (subscription : SubId) (after : After) :
    (after.point subscription).inside = none := by
  cases after with
  | destroying rest => cases rest <;> rfl
  | _ => rfl

@[simp] theorem After.creating_point (subscription : SubId) (after : After) :
    (after.point subscription).creating = none := by
  cases after with
  | destroying rest => cases rest <;> rfl
  | _ => rfl

theorem CallPoint.mem_subs_of_creating {point : CallPoint} {subscription : SubId}
    (creating : point.creating = some subscription) : subscription ∈ point.subs := by
  cases point <;> cases creating <;> exact List.mem_cons_self ..

theorem CallPoint.creating_of_preparing {point : CallPoint} {subscription : SubId}
    (preparing : point.preparing = some subscription) : point.creating = some subscription := by
  cases point <;> cases preparing <;> rfl

theorem CallPoint.mem_subs_of_inside {point : CallPoint} {subscription : SubId}
    (inside : point.inside = some subscription) : subscription ∈ point.subs := by
  cases point <;> cases inside <;> exact List.mem_cons_self ..

theorem Bounded.creates_old {state : State User} (bounded : Bounded state) (thread : Thread User) :
    (state.calls thread).creating ≠ some state.nextSub := by
  intro creating
  exact Nat.lt_irrefl _ (bounded.known thread _ (CallPoint.mem_subs_of_creating creating))

variable [DecidableEq User] {state next : State User} {action : Action User}

theorem step_recent (taken : step state action = some next) : state.nextSub ≤ next.nextSub := by
  rcases (step_bystander taken).recent with same | ⟨thread, hasCallback, rfl⟩
  · exact Nat.le_of_eq same.symm
  · obtain ⟨-, rfl⟩ := (guarded_eq_some ..).mp taken
    exact Nat.le_succ state.nextSub

namespace CallMove

variable {thread : Thread User} {point : CallPoint}

/-- A call knows the subscription that it has just made, and otherwise what it knew
or could look up. -/
theorem subs_known (move : CallMove state action thread point) (bounded : Bounded state) :
    ∀ subscription ∈ point.subs, subscription < state.nextSub ∨
      subscription = state.nextSub ∧ ∃ hasCallback, action = .subscribe thread hasCallback := by
  have before := bounded.known thread
  have listed := bounded.listed
  have handled := bounded.handled
  intro subscription member
  cases move with
  | still => exact Or.inl (before subscription member)
  | subscribes _ hasCallback =>
      exact Or.inr ⟨List.mem_singleton.mp member, hasCallback, rfl⟩
  | rests | hands | leaves | disconnects | escapes => cases member
  | cancels _ own handle _ found | releases _ own handle _ found
  | replaces _ own handle _ _ found =>
      obtain rfl := List.mem_singleton.mp member
      exact Or.inl (handled handle subscription found)
  | enters => exact Or.inl (listed subscription member)
  | unlocks _ own after here =>
      rw [here] at before
      exact Or.inl (before subscription (after.subs_point own member))
  | unwinds _ own after here =>
      rw [here] at before
      have same := List.mem_singleton.mp (after.subs_thrown own member)
      exact Or.inl (before subscription (same ▸ List.mem_cons_self))
  | drops _ own rest here =>
      rw [here] at before
      refine Or.inl (before subscription ?_)
      cases rest with
      | none => cases member
      | some rest => exact List.mem_cons_of_mem own member
  | dropsLast _ own rest here =>
      rw [here] at before
      refine Or.inl (before subscription ?_)
      cases rest <;> exact member
  | skips _ own rest here =>
      rw [here] at before
      exact Or.inl (before subscription (List.mem_cons_of_mem own member))
  | _ =>
      rw [‹state.calls thread = _›] at before
      exact Or.inl (before subscription member)

theorem creating_from (move : CallMove state action thread point) {subscription : SubId}
    (creating : point.creating = some subscription) :
    (state.calls thread).creating = some subscription ∨
      subscription = state.nextSub ∧ ∃ hasCallback, action = .subscribe thread hasCallback := by
  cases move with
  | still => exact Or.inl creating
  | subscribes _ hasCallback =>
      cases creating
      exact Or.inr ⟨rfl, hasCallback, rfl⟩
  | registers _ _ here | pushes _ _ here | starts _ _ here | assigns _ _ here =>
      rw [here]
      exact Or.inl creating
  | unlocks _ own after => simp at creating
  | unwinds _ own after => simp at creating
  | drops _ own rest => cases rest <;> cases creating
  | _ => cases creating

theorem preparing_from (move : CallMove state action thread point) {subscription : SubId}
    (preparing : point.preparing = some subscription) :
    (state.calls thread).preparing = some subscription ∧
        (∀ own, action ≠ .start thread own) ∨
      subscription = state.nextSub ∧ ∃ hasCallback, action = .subscribe thread hasCallback := by
  cases move with
  | still _ _ aside =>
      refine Or.inl ⟨preparing, ?_⟩
      rintro own rfl
      exact aside rfl
  | subscribes _ hasCallback =>
      cases preparing
      exact Or.inr ⟨rfl, hasCallback, rfl⟩
  | registers _ _ here | pushes _ _ here =>
      rw [here]
      exact Or.inl ⟨preparing, nofun⟩
  | unlocks _ own after => simpa using CallPoint.creating_of_preparing preparing
  | unwinds _ own after => simpa using CallPoint.creating_of_preparing preparing
  | drops _ own rest => cases rest <;> cases preparing
  | _ => cases preparing

/-- Only a lock and an unlock of an `m_cancelMutex` take a call into its section or out
of it. -/
theorem inside_kept (move : CallMove state action thread point)
    (aside : action.excludes = false) : point.inside = (state.calls thread).inside := by
  cases move with
  | still => rfl
  | locks | unlocks | unwinds => cases aside
  | rests _ _ here => rw [here]
  | subscribes _ _ free | cancels _ _ _ free | releases _ _ _ free | replaces _ _ _ _ free
  | disconnects _ free =>
      rw [free.1]
      rfl
  | drops _ own rest here =>
      rw [here]
      cases rest <;> rfl
  | _ =>
      rw [‹state.calls thread = _›]
      rfl

end CallMove

theorem bounded_step (bounded : Bounded state) (taken : step state action = some next) :
    Bounded next := by
  have recent := step_recent taken
  constructor
  · intro thread subscription member
    rcases (step_calls taken thread).subs_known bounded subscription member with
      old | ⟨rfl, hasCallback, rfl⟩
    · exact Nat.lt_of_lt_of_le old recent
    · obtain ⟨-, rfl⟩ := (guarded_eq_some ..).mp taken
      exact Nat.lt_succ_self state.nextSub
  · intro subscription member
    exact Nat.lt_of_lt_of_le ((step_lists taken).listed_bounded bounded subscription member) recent
  · intro handle subscription found
    exact Nat.lt_of_lt_of_le
      ((step_handles taken handle).handled_bounded bounded subscription found) recent

/-- A reader thread begins with the start by the call that makes the subscription. -/
theorem ImplMove.unborn_stays {subscription : SubId} {own : Impl User}
    (move : ImplMove state action subscription own)
    (unborn : (state.impls subscription).point = .unborn)
    (unstarted : ∀ thread, state.calls thread = .starting subscription →
      action ≠ .start thread subscription) : own.point = .unborn := by
  cases move with
  | goes _ _ point edge =>
      rw [unborn] at edge
      cases edge
  | rejects _ here | finishes _ here =>
      rw [unborn] at here
      cases here
  | stores _ fd here | clears _ fd here =>
      rw [unborn] at here
      cases here
  | created => rfl
  | starts thread _ here => exact absurd rfl (unstarted thread here)
  | _ => exact unborn

theorem raised_step (raised : Raised state) (taken : step state action = some next) :
    Raised next := by
  constructor
  · exact bounded_step raised.bounded taken
  · intro first second subscription mine its
    rcases (step_calls taken first).creating_from mine with mine | ⟨rfl, hasCallback, rfl⟩
    · rcases (step_calls taken second).creating_from its with its | ⟨rfl, -⟩
      · exact raised.alone first second subscription mine its
      · exact absurd mine (raised.bounded.creates_old first)
    · rcases (step_calls taken second).creating_from its with its | ⟨-, other, same⟩
      · exact absurd its (raised.bounded.creates_old second)
      · exact (Action.subscribe.inj same).1
  · intro thread subscription preparing
    rcases (step_calls taken thread).preparing_from preparing with
      ⟨preparing, before⟩ | ⟨rfl, hasCallback, rfl⟩
    · have unborn := raised.unborn thread subscription preparing
      apply (step_impls taken subscription).unborn_stays unborn
      intro starter starts started
      have same := raised.alone thread starter subscription
        (CallPoint.creating_of_preparing preparing) (by rw [starts]; rfl)
      exact before subscription (same ▸ started)
    · obtain ⟨-, rfl⟩ := (guarded_eq_some ..).mp taken
      simp [State.setCall, Impl.created]

theorem ImplMove.cancel_mutex_kept {subscription : SubId} {own : Impl User}
    (move : ImplMove state action subscription own) (aside : action.excludes = false) :
    own.cancelMutex = (state.impls subscription).cancelMutex ∨
      subscription = state.nextSub ∧ own.cancelMutex = none := by
  cases move with
  | locks | unlocks | unwinds => cases aside
  | created => exact Or.inr ⟨rfl, rfl⟩
  | _ => exact Or.inl rfl

/-- An unlock of an `m_cancelMutex`. -/
theorem Sectioned.unlocks (sectioned : Sectioned state) {mover : Thread User}
    {subscription : SubId} {point : CallPoint} (change : Impl User → Impl User)
    (inside : (state.calls mover).inside = some subscription) (left : point.inside = none)
    (unlocked : (change (state.impls subscription)).cancelMutex = none) (own : SubId)
    (thread : Thread User) :
    (((state.modify subscription change).setCall mover point).calls thread).inside = some own ↔
      (((state.modify subscription change).setCall mover point).impls own).cancelMutex =
        some thread := by
  have before := sectioned.held own thread
  by_cases moves : thread = mover <;> by_cases mine : own = subscription
  · simp [State.setCall, State.modify, moves, mine, left, unlocked]
  · rw [moves, inside] at before
    simpa [State.setCall, State.modify, moves, mine, left, Ne.symm mine] using before
  · have owned : (state.impls own).cancelMutex = some mover := by
      apply (sectioned.held own mover).mp
      rw [inside, mine]
    rw [owned, mine] at before
    simpa [State.setCall, State.modify, moves, mine, unlocked, Ne.symm moves] using before
  · simpa [State.setCall, State.modify, moves, mine] using before

theorem sectioned_step (sectioned : Sectioned state) (taken : step state action = some next) :
    Sectioned next := by
  refine ⟨bounded_step sectioned.bounded taken, ?_⟩
  intro own thread
  have before := sectioned.held own thread
  by_cases aside : action.excludes = false
  · rw [(step_calls taken thread).inside_kept aside]
    rcases (step_impls taken own).cancel_mutex_kept aside with same | ⟨rfl, free⟩
    · rw [same]
      exact before
    · rw [free]
      refine ⟨?_, nofun⟩
      intro inside
      have old := sectioned.bounded.known thread _ (CallPoint.mem_subs_of_inside inside)
      exact absurd old (Nat.lt_irrefl _)
  · cases action with
    | lockCancel mover subscription after =>
        obtain ⟨⟨here, free⟩, rfl⟩ := (guarded_eq_some ..).mp taken
        by_cases moves : thread = mover <;> by_cases mine : own = subscription
        · simp [State.setCall, State.modify, moves, mine, CallPoint.inside]
        · rw [moves, here] at before
          simpa [State.setCall, State.modify, moves, mine, CallPoint.inside, Ne.symm mine]
            using before
        · rw [mine, free] at before
          simpa [State.setCall, State.modify, moves, mine, Ne.symm moves] using before
        · simpa [State.setCall, State.modify, moves, mine] using before
    | unlockCancel mover subscription after =>
        obtain ⟨here, rfl⟩ := (guarded_eq_some ..).mp taken
        exact sectioned.unlocks _ (by rw [here]; rfl) (after.inside_point subscription) rfl own
          thread
    | unwindCancel mover subscription after =>
        obtain ⟨⟨here, -⟩, rfl⟩ := (guarded_eq_some ..).mp taken
        exact sectioned.unlocks _ (by rw [here]; rfl) (after.inside_thrown subscription) rfl own
          thread
    | _ => exact absurd rfl aside

end TboxFramework.Ipc.Subscription

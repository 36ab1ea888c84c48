import TboxFramework.Ipc.SubscriptionCalls

/-!
# Who keeps a `Subscription::Impl` alive

A handle that is not empty owns its subscription, and so does every call that has a
`shared_ptr` of its own. An `Impl` ends when nobody owns it, and nobody can get hold
of it afterwards.
-/

namespace TboxFramework.Ipc.Subscription

open Interleaving

set_option autoImplicit false

variable {User : Type}

/-- The call that runs this `cancel` has a `shared_ptr` of its own. -/
def After.owning : After → Bool
  | .releasing | .replacing _ _ | .walking _ => true
  | .returning | .destroying _ => false

/-- The subscription that a call has a `shared_ptr` to. -/
def CallPoint.owning : CallPoint → Option SubId
  | .registering subscription | .pushing subscription | .starting subscription
  | .assigning subscription | .handing subscription | .escaping subscription
  | .transferring subscription _ _ | .dropping subscription _ => some subscription
  | .lockingCancel subscription after | .exchangingActive subscription after
  | .exchangingFd subscription after | .shuttingDown subscription _ after
  | .testingJoinable subscription after | .joining subscription after
  | .unlocking subscription after | .unwinding subscription after =>
      if after.owning then some subscription else none
  | .idle | .entering | .walking _ => none

/-- The subscription whose destructor a call is in. -/
def CallPoint.ending : CallPoint → Option SubId
  | .lockingCancel subscription after | .exchangingActive subscription after
  | .exchangingFd subscription after | .shuttingDown subscription _ after
  | .testingJoinable subscription after | .joining subscription after
  | .unlocking subscription after | .unwinding subscription after =>
      if after.destroys then some subscription else none
  | _ => none

theorem After.owning_point {subscription own : SubId} {after : After}
    (owns : (after.point subscription).owning = some own) :
    own = subscription ∧ after.owning = true := by
  cases after with
  | returning => cases owns
  | destroying rest => cases rest <;> cases owns
  | _ => exact ⟨(Option.some.inj owns).symm, rfl⟩

theorem After.owning_thrown {subscription own : SubId} {after : After}
    (owns : (after.thrown subscription).owning = some own) :
    own = subscription ∧ after.owning = true := by
  cases after with
  | walking rest => exact ⟨(Option.some.inj owns).symm, rfl⟩
  | _ => cases owns

@[simp] theorem After.ending_thrown (subscription : SubId) (after : After) :
    (after.thrown subscription).ending = none := by
  cases after <;> rfl

@[simp] theorem After.ending_point (subscription : SubId) (after : After) :
    (after.point subscription).ending = none := by
  cases after with
  | destroying rest => cases rest <;> rfl
  | _ => rfl

theorem CallPoint.owning_of_creating {point : CallPoint} {subscription : SubId}
    (creating : point.creating = some subscription) : point.owning = some subscription := by
  cases point <;> cases creating <;> rfl

theorem CallPoint.mem_subs_of_ending {point : CallPoint} {subscription : SubId}
    (ending : point.ending = some subscription) : subscription ∈ point.subs := by
  cases point with
  | lockingCancel own after | exchangingActive own after | exchangingFd own after
  | shuttingDown own _ after | testingJoinable own after | joining own after
  | unlocking own after | unwinding own after =>
      simp only [CallPoint.ending] at ending
      split at ending
      · cases ending
        exact List.mem_cons_self ..
      · cases ending
  | _ => cases ending

theorem CallPoint.mem_subs_of_owning {point : CallPoint} {subscription : SubId}
    (owns : point.owning = some subscription) : subscription ∈ point.subs := by
  cases point with
  | lockingCancel own after | exchangingActive own after | exchangingFd own after
  | shuttingDown own _ after | testingJoinable own after | joining own after
  | unlocking own after | unwinding own after =>
      simp only [CallPoint.owning] at owns
      split at owns
      · cases owns
        exact List.mem_cons_self ..
      · cases owns
  | idle | entering | walking => cases owns
  | _ =>
      cases owns
      exact List.mem_cons_self ..

/-- The owners of a subscription are what they should be, as long as there is one. -/
structure Owned (state : State User) : Prop where
  raised : Raised state
  handled : ∀ handle subscription, state.handles handle = some subscription →
    .handle handle ∈ (state.impls subscription).owners
  called : ∀ thread subscription, (state.calls thread).owning = some subscription →
    .call thread ∈ (state.impls subscription).owners
  ended : ∀ thread subscription, (state.calls thread).ending = some subscription →
    (state.impls subscription).owners = []
  destroyed : ∀ subscription, (state.impls subscription).destroyed = true →
    subscription < state.nextSub ∧ (state.impls subscription).owners = []

theorem Owned.initially : Owned (initial : State User) where
  raised := .initially
  handled := nofun
  called := nofun
  ended := nofun
  destroyed := nofun

theorem Owned.ended_old {state : State User} (owned : Owned state) {thread : Thread User}
    {subscription : SubId} (ending : (state.calls thread).ending = some subscription) :
    subscription < state.nextSub :=
  owned.raised.bounded.known thread subscription (CallPoint.mem_subs_of_ending ending)

variable [DecidableEq User] {state next : State User} {action : Action User}

/-! ## Handles -/

namespace State

/-- A `shared_ptr` that does not change its owner stays where it is. -/
theorem mem_reown {owner old new : Owner User} {subscription changed : SubId}
    (member : owner ∈ (state.impls subscription).owners) (other : owner ≠ old) :
    owner ∈ ((state.reown changed old new).impls subscription).owners := by
  by_cases same : subscription = changed
  · subst same
    simpa [reown, modify] using Or.inr ((List.mem_erase_of_ne other).mpr member)
  · simpa [reown, modify, same] using member

theorem mem_reown_self (old new : Owner User) (subscription : SubId) :
    new ∈ ((state.reown subscription old new).impls subscription).owners := by
  simp [reown, modify]

end State

/-- Every handle that is not empty is an owner. -/
def Handled (state : State User) : Prop :=
  ∀ handle subscription, state.handles handle = some subscription →
    .handle handle ∈ (state.impls subscription).owners

namespace Handled

theorem transfer (handled : Handled state) (target source : Handle) :
    Handled (state.transfer target source) := by
  unfold State.transfer
  split
  · rename_i moved found
    intro handle subscription holds
    dsimp only at holds ⊢
    by_cases given : handle = target
    · subst given
      rw [Function.update_self] at holds
      cases holds
      exact State.mem_reown_self ..
    · rw [Function.update_of_ne given] at holds
      by_cases emptied : handle = source
      · rw [emptied, Function.update_self] at holds
        cases holds
      · rw [Function.update_of_ne emptied] at holds
        exact State.mem_reown (handled handle subscription holds) (by simpa using emptied)
  · exact handled

theorem take_out (handled : Handled state) (thread : Thread User) (taken : Handle)
    (own : SubId) : Handled (state.takeOut thread taken own) := by
  intro handle subscription holds
  simp only [State.takeOut] at holds ⊢
  by_cases emptied : handle = taken
  · rw [emptied, Function.update_self] at holds
    cases holds
  · rw [Function.update_of_ne emptied] at holds
    exact State.mem_reown (handled handle subscription holds) (by simpa using emptied)

end Handled

/-- A step that does not concern handles leaves the owners among them alone. -/
theorem ImplMove.handle_kept {subscription : SubId} {own : Impl User} {handle : Handle}
    (move : ImplMove state action subscription own) (aside : action.handling = false)
    (old : subscription < state.nextSub)
    (member : .handle handle ∈ (state.impls subscription).owners) :
    .handle handle ∈ own.owners := by
  cases move with
  | created => exact absurd old (Nat.lt_irrefl _)
  | hands => cases aside
  | transfers _ _ _ _ handling | takesOut _ _ _ _ handling =>
      rw [handling] at aside
      cases aside
  | drops | escapes => exact (List.mem_erase_of_ne (by simp)).mpr member
  | walks => exact List.mem_cons_of_mem _ member
  | _ => exact member

theorem handled_step (owned : Owned state) (taken : step state action = some next) :
    Handled next := by
  have handled : Handled state := owned.handled
  by_cases aside : action.handling = false
  · intro handle subscription holds
    rw [(step_bystander taken).handles aside] at holds
    exact (step_impls taken subscription).handle_kept aside
      (owned.raised.bounded.handled handle subscription holds) (handled handle subscription holds)
  · cases action with
    | handOver mover own given =>
        obtain ⟨⟨here, free⟩, rfl⟩ := (guarded_eq_some ..).mp taken
        intro handle subscription holds
        simp only [State.setCall] at holds ⊢
        by_cases mine : handle = given
        · subst mine
          rw [Function.update_self] at holds
          cases holds
          exact State.mem_reown_self ..
        · rw [Function.update_of_ne mine] at holds
          exact State.mem_reown (handled handle subscription holds) (by simp)
    | move mover target source =>
        obtain ⟨-, rfl⟩ := (guarded_eq_some ..).mp taken
        exact handled.transfer target source
    | transfer mover own target source =>
        obtain ⟨-, rfl⟩ := (guarded_eq_some ..).mp taken
        exact handled.transfer target source
    | release mover released =>
        obtain ⟨-, rfl⟩ := (guarded_eq_some ..).mp taken
        split
        · exact handled.take_out mover released _
        · exact handled
    | replace mover target source =>
        obtain ⟨-, rfl⟩ := (guarded_eq_some ..).mp taken
        split
        · exact handled
        · split
          · exact handled.take_out mover target _
          · exact handled.transfer target source
    | _ => exact absurd rfl aside

/-! ## Calls -/

/-- The thread whose call an action makes give its `shared_ptr` away. -/
def Action.gives : Action User → Option (Thread User)
  | .handOver thread _ _ | .drop thread _ _ | .escape thread _ => some thread
  | _ => none

theorem ImplMove.call_kept {subscription : SubId} {own : Impl User} {thread : Thread User}
    (move : ImplMove state action subscription own) (keeps : action.gives ≠ some thread)
    (old : subscription < state.nextSub)
    (member : .call thread ∈ (state.impls subscription).owners) : .call thread ∈ own.owners := by
  cases move with
  | created => exact absurd old (Nat.lt_irrefl _)
  | hands mover | drops mover | escapes mover =>
      have other : Owner.call thread ≠ .call mover := by
        rintro same
        exact keeps (congrArg some (Owner.call.inj same).symm)
      simpa [List.mem_erase_of_ne other] using member
  | transfers => exact List.mem_cons_of_mem _ ((List.mem_erase_of_ne (by simp)).mpr member)
  | takesOut => exact List.mem_cons_of_mem _ ((List.mem_erase_of_ne (by simp)).mpr member)
  | walks => exact List.mem_cons_of_mem _ member
  | _ => exact member

/-- An action gives a call a `shared_ptr` of its own. -/
inductive Gains (state : State User) : Action User → Thread User → SubId → Prop
  | subscribes (thread : Thread User) (hasCallback : Bool) :
      Gains state (.subscribe thread hasCallback) thread state.nextSub
  | releases (thread : Thread User) (handle : Handle) (subscription : SubId)
      (found : state.handles handle = some subscription) :
      Gains state (.release thread handle) thread subscription
  | replaces (thread : Thread User) (target source : Handle) (subscription : SubId)
      (found : state.handles target = some subscription) :
      Gains state (.replace thread target source) thread subscription
  | walks (thread : Thread User) (subscription : SubId) (rest : List SubId)
      (alive : (state.impls subscription).owners ≠ []) :
      Gains state (.walk thread subscription rest) thread subscription

namespace CallMove

variable {thread : Thread User} {point : CallPoint} {subscription : SubId}

theorem owning_from (move : CallMove state action thread point)
    (owns : point.owning = some subscription) :
    (state.calls thread).owning = some subscription ∧ action.gives ≠ some thread ∨
      Gains state action thread subscription := by
  cases move with
  | still _ _ aside =>
      refine Or.inl ⟨owns, ?_⟩
      intro gives
      cases action with
      | handOver | drop | escape => exact aside gives
      | _ => cases gives
  | subscribes _ hasCallback =>
      cases owns
      exact Or.inr (.subscribes thread hasCallback)
  | releases _ own handle _ found =>
      cases owns
      exact Or.inr (.releases thread handle subscription found)
  | replaces _ own target source _ found =>
      cases owns
      exact Or.inr (.replaces thread target source subscription found)
  | walks _ own rest _ alive =>
      cases owns
      exact Or.inr (.walks thread subscription rest alive)
  | unlocks _ own after here =>
      obtain ⟨rfl, owning⟩ := After.owning_point owns
      rw [here]
      exact Or.inl ⟨if_pos owning, nofun⟩
  | unwinds _ own after here =>
      obtain ⟨rfl, owning⟩ := After.owning_thrown owns
      rw [here]
      exact Or.inl ⟨if_pos owning, nofun⟩
  | drops _ own rest => cases rest <;> cases owns
  | rests | hands | cancels | dropsLast | disconnects | enters | skips | leaves | escapes =>
      cases owns
  | _ =>
      rw [‹state.calls thread = _›]
      exact Or.inl ⟨owns, nofun⟩

/-- A call comes into a destructor when it drops the last `shared_ptr`. -/
theorem ending_from (move : CallMove state action thread point)
    (ending : point.ending = some subscription) :
    (state.calls thread).ending = some subscription ∨
      ∃ rest, action = .drop thread subscription rest ∧
        (state.impls subscription).owners.erase (.call thread) = [] := by
  cases move with
  | still => exact Or.inl ending
  | dropsLast _ own rest here last =>
      cases ending
      exact Or.inr ⟨rest, rfl, last⟩
  | unlocks _ own after | unwinds _ own after => simp at ending
  | drops _ own rest => cases rest <;> cases ending
  | locks | deactivates | finds | takesFd | takesNone | shuts | readies | spares | joins
  | throws =>
      rw [‹state.calls thread = _›]
      exact Or.inl ending
  | _ => cases ending

end CallMove

theorem Gains.owner {thread : Thread User} {subscription : SubId}
    (gains : Gains state action thread subscription) (taken : step state action = some next)
    (owns : (next.calls thread).owning = some subscription) :
    .call thread ∈ (next.impls subscription).owners := by
  cases gains with
  | subscribes _ hasCallback =>
      obtain ⟨-, rfl⟩ := (guarded_eq_some ..).mp taken
      simp [State.setCall, Impl.created]
  | releases _ handle _ found =>
      obtain ⟨-, rfl⟩ := (guarded_eq_some ..).mp taken
      simp only [found] at owns ⊢
      exact State.mem_reown_self ..
  | replaces _ target source _ found =>
      obtain ⟨free, rfl⟩ := (guarded_eq_some ..).mp taken
      split at owns
      · rw [free.1] at owns
        cases owns
      · rename_i apart
        simp only [if_neg apart, found]
        exact State.mem_reown_self ..
  | walks _ _ rest alive =>
      obtain ⟨-, rfl⟩ := (guarded_eq_some ..).mp taken
      simp [alive, State.setCall, State.modify]

/-- An `Impl` is gone when its destructor has returned from `cancel`. -/
theorem ImplMove.destroyed_from {subscription : SubId} {own : Impl User}
    (move : ImplMove state action subscription own) (destroyed : own.destroyed = true) :
    (state.impls subscription).destroyed = true ∨
      ∃ thread after, state.calls thread = .unlocking subscription after ∧
        after.destroys = true := by
  cases move with
  | created => cases destroyed
  | unlocks thread _ after here =>
      rcases (Bool.or_eq_true ..).mp destroyed with before | destroys
      · exact Or.inl before
      · exact Or.inr ⟨thread, after, here, destroys⟩
  | _ => exact Or.inl destroyed

namespace Owned

/-- Nobody gets hold of a subscription that nobody owns. -/
theorem ownerless_stays (owned : Owned state) {subscription : SubId}
    (old : subscription < state.nextSub) (ownerless : (state.impls subscription).owners = [])
    (taken : step state action = some next) : (next.impls subscription).owners = [] := by
  have move := step_impls taken subscription
  generalize next.impls subscription = own at move
  cases move with
  | created => exact absurd old (Nat.lt_irrefl _)
  | hands thread _ handle here =>
      have member := owned.called thread subscription (by rw [here]; rfl)
      rw [ownerless] at member
      cases member
  | transfers _ _ _ source _ mine | takesOut _ _ _ source _ mine =>
      have member := owned.handled source subscription mine
      rw [ownerless] at member
      cases member
  | drops | escapes =>
      simp only [ownerless]
      rfl
  | walks _ _ _ _ alive => exact absurd ownerless alive
  | _ => exact ownerless

end Owned

theorem owned_step (owned : Owned state) (taken : step state action = some next) :
    Owned next := by
  constructor
  · exact raised_step owned.raised taken
  · exact handled_step owned taken
  · intro thread subscription owns
    rcases (step_calls taken thread).owning_from owns with ⟨before, keeps⟩ | gains
    · exact (step_impls taken subscription).call_kept keeps
        (owned.raised.bounded.known thread subscription (CallPoint.mem_subs_of_owning before))
        (owned.called thread subscription before)
    · exact gains.owner taken owns
  · intro thread subscription ending
    rcases (step_calls taken thread).ending_from ending with before | ⟨rest, rfl, last⟩
    · exact owned.ownerless_stays (owned.ended_old before)
        (owned.ended thread subscription before) taken
    · obtain ⟨-, rfl⟩ := (guarded_eq_some ..).mp taken
      simpa [State.setCall, State.modify] using last
  · intro subscription destroyed
    rcases (step_impls taken subscription).destroyed_from destroyed with
      before | ⟨thread, after, here, destroys⟩
    · obtain ⟨old, ownerless⟩ := owned.destroyed subscription before
      exact ⟨Nat.lt_of_lt_of_le old (step_recent taken), owned.ownerless_stays old ownerless taken⟩
    · have ending : (state.calls thread).ending = some subscription := by
        rw [here]
        exact if_pos destroys
      have old := owned.ended_old ending
      exact ⟨Nat.lt_of_lt_of_le old (step_recent taken),
        owned.ownerless_stays old (owned.ended thread subscription ending) taken⟩

end TboxFramework.Ipc.Subscription

import TboxFramework.Ipc.SubscriptionOwners

/-!
# The life cycle of a subscription

`m_thread` is assigned by the call that makes the subscription, and joined by the
first `cancel` that finds it joinable, under `m_cancelMutex`. The reader thread has
then returned.
-/

namespace TboxFramework.Ipc.Subscription

open Interleaving

set_option autoImplicit false

variable {User : Type}

/-- The thread that `m_thread` held has been started, and is known to `m_thread`. -/
def ThreadStatus.settled : ThreadStatus → Bool
  | .joinable | .joined => true
  | .absent | .spawned => false

/-- The subscription whose `cancel` a call is in. -/
def CallPoint.cancelling : CallPoint → Option SubId
  | .lockingCancel subscription _ | .exchangingActive subscription _
  | .exchangingFd subscription _ | .shuttingDown subscription _ _
  | .testingJoinable subscription _ | .joining subscription _ | .unlocking subscription _
  | .unwinding subscription _ => some subscription
  | _ => none

def Action.joins (subscription : SubId) : Action User → Bool
  | .join _ own _ => own == subscription
  | _ => false

/-- `subscribe` has returned. -/
structure HandedOut (subscription : SubId) (state : State User) : Prop where
  old : subscription < state.nextSub
  made : ∀ thread, (state.calls thread).creating ≠ some subscription

structure Lived (state : State User) : Prop where
  owned : Owned state
  sectioned : Sectioned state
  absent : ∀ thread subscription, (state.calls thread).preparing = some subscription →
    (state.impls subscription).thread = .absent
  spawned : ∀ thread subscription, state.calls thread = .assigning subscription →
    (state.impls subscription).thread = .spawned
  handing : ∀ thread subscription, state.calls thread = .handing subscription →
    (state.impls subscription).thread.settled = true
  settled : ∀ subscription, HandedOut subscription state →
    (state.impls subscription).thread.settled = true
  joining : ∀ thread subscription after, state.calls thread = .joining subscription after →
    (state.impls subscription).thread = .joinable
  joined : ∀ subscription, (state.impls subscription).thread = .joined →
    (state.impls subscription).point = .done
  ended : ∀ thread subscription after, state.calls thread = .unlocking subscription after →
    after.destroys = true → (state.impls subscription).thread = .joined
  destroyed : ∀ subscription, (state.impls subscription).destroyed = true →
    (state.impls subscription).thread = .joined

theorem Lived.initially : Lived (initial : State User) where
  owned := .initially
  sectioned := .initially
  absent := nofun
  spawned := nofun
  handing := nofun
  settled := fun _ handed => absurd handed.old (Nat.not_lt_zero _)
  joining := nofun
  joined := nofun
  ended := nofun
  destroyed := nofun

/-- Nobody makes a subscription that nobody owns. -/
theorem Lived.handed_of_ownerless {state : State User} {subscription : SubId}
    (lived : Lived state) (old : subscription < state.nextSub)
    (ownerless : (state.impls subscription).owners = []) : HandedOut subscription state := by
  refine ⟨old, ?_⟩
  intro maker creating
  have member := lived.owned.called maker subscription (CallPoint.owning_of_creating creating)
  rw [ownerless] at member
  cases member

/-- What the actions so far say about a subscription. -/
structure Recorded (subscription : SubId) (past : List (Action User)) (state : State User) :
    Prop where
  lived : Lived state
  joins : past.countP (Action.joins subscription) = 0 ∨
    past.countP (Action.joins subscription) = 1 ∧ subscription < state.nextSub ∧
      (state.impls subscription).thread = .joined
  handed : ∀ thread handle, .handOver thread subscription handle ∈ past →
    HandedOut subscription state

theorem Recorded.initially {subscription : SubId} :
    Recorded subscription [] (initial : State User) where
  lived := .initially
  joins := Or.inl rfl
  handed := nofun

/-- What an action can make of `m_thread`. -/
inductive StatusMove (state : State User) : Action User → SubId → ThreadStatus → Prop
  | still (action : Action User) (subscription : SubId) :
      StatusMove state action subscription (state.impls subscription).thread
  | created (thread : Thread User) (hasCallback : Bool) :
      StatusMove state (.subscribe thread hasCallback) state.nextSub .absent
  | starts (thread : Thread User) (subscription : SubId)
      (here : state.calls thread = .starting subscription) :
      StatusMove state (.start thread subscription) subscription .spawned
  | assigns (thread : Thread User) (subscription : SubId)
      (here : state.calls thread = .assigning subscription) :
      StatusMove state (.assign thread subscription) subscription .joinable
  | joins (thread : Thread User) (subscription : SubId) (after : After)
      (here : state.calls thread = .joining subscription after) :
      StatusMove state (.join thread subscription after) subscription .joined

variable [DecidableEq User] {state next : State User} {action : Action User}

theorem ImplMove.status {subscription : SubId} {own : Impl User}
    (move : ImplMove state action subscription own) :
    StatusMove state action subscription own.thread := by
  cases move with
  | created thread hasCallback => exact .created thread hasCallback
  | starts thread _ here => exact .starts thread subscription here
  | assigns thread _ here => exact .assigns thread subscription here
  | joins thread _ after here => exact .joins thread subscription after here
  | _ => exact .still _ subscription

/-- A reader thread that has been joined has returned for good. -/
theorem ImplMove.joined_done {subscription : SubId} {own : Impl User}
    (move : ImplMove state action subscription own)
    (joined : (state.impls subscription).thread = .joined →
      (state.impls subscription).point = .done) :
    own.thread = .joined → own.point = .done := by
  intro status
  cases move with
  | goes _ _ point edge =>
      rw [joined status] at edge
      cases edge
  | rejects _ here | stores _ _ here | clears _ _ here =>
      rw [joined status] at here
      cases here
  | finishes => rfl
  | created | starts | assigns => cases status
  | joins _ _ _ _ ended => exact ended
  | _ => exact joined status

theorem ImplMove.inactive_stays {subscription : SubId} {own : Impl User}
    (move : ImplMove state action subscription own) (old : subscription < state.nextSub)
    (inactive : (state.impls subscription).active = false) : own.active = false := by
  cases move with
  | created => exact absurd old (Nat.lt_irrefl _)
  | rejects | finishes | deactivates => rfl
  | _ => exact inactive

namespace CallMove

variable {thread : Thread User} {point : CallPoint} {subscription : SubId} {after : After}

theorem assigning_from (move : CallMove state action thread point)
    (here : point = .assigning subscription) :
    state.calls thread = .assigning subscription ∧ action.caller ≠ some thread ∨
      action = .start thread subscription := by
  cases move with
  | still _ _ aside => exact Or.inl ⟨here, aside⟩
  | starts =>
      cases here
      exact Or.inr rfl
  | unlocks _ own after => exact absurd here (after.point_ne own rfl)
  | unwinds _ own after => exact absurd here (after.thrown_ne own rfl)
  | drops _ _ rest => exact absurd here (CallPoint.resumed_ne rest rfl)
  | _ => cases here

theorem handing_from (move : CallMove state action thread point)
    (here : point = .handing subscription) :
    state.calls thread = .handing subscription ∧ action.caller ≠ some thread ∨
      action = .assign thread subscription := by
  cases move with
  | still _ _ aside => exact Or.inl ⟨here, aside⟩
  | assigns =>
      cases here
      exact Or.inr rfl
  | unlocks _ own after => exact absurd here (after.point_ne own rfl)
  | unwinds _ own after => exact absurd here (after.thrown_ne own rfl)
  | drops _ _ rest => exact absurd here (CallPoint.resumed_ne rest rfl)
  | _ => cases here

theorem joining_from (move : CallMove state action thread point)
    (here : point = .joining subscription after) :
    state.calls thread = .joining subscription after ∧ action.caller ≠ some thread ∨
      action = .testJoinable thread subscription after ∧
        (state.impls subscription).thread = .joinable := by
  cases move with
  | still _ _ aside => exact Or.inl ⟨here, aside⟩
  | readies _ _ _ _ joinable =>
      cases here
      exact Or.inr ⟨rfl, joinable⟩
  | unlocks _ own after => exact absurd here (after.point_ne own rfl)
  | unwinds _ own after => exact absurd here (after.thrown_ne own rfl)
  | drops _ _ rest => exact absurd here (CallPoint.resumed_ne rest rfl)
  | _ => cases here

theorem unlocking_from (move : CallMove state action thread point)
    (here : point = .unlocking subscription after) :
    state.calls thread = .unlocking subscription after ∨
      state.calls thread = .joining subscription after ∧
        action = .join thread subscription after ∨
      state.calls thread = .testingJoinable subscription after ∧
        (state.impls subscription).thread ≠ .joinable := by
  cases move with
  | still => exact Or.inl here
  | joins _ _ _ before =>
      cases here
      exact Or.inr (Or.inl ⟨before, rfl⟩)
  | spares _ _ _ before unjoinable =>
      cases here
      exact Or.inr (Or.inr ⟨before, unjoinable⟩)
  | unlocks _ own after => exact absurd here (after.point_ne own rfl)
  | unwinds _ own after => exact absurd here (after.thrown_ne own rfl)
  | drops _ _ rest => exact absurd here (CallPoint.resumed_ne rest rfl)
  | _ => cases here

/-- A call of `subscribe` goes on making its subscription until it returns it. -/
theorem creating_stays (move : CallMove state action thread point)
    (creating : (state.calls thread).creating = some subscription) :
    point.creating = some subscription ∨ state.calls thread = .handing subscription ∧
      ∃ handle, action = .handOver thread subscription handle := by
  cases move with
  | still => exact Or.inl creating
  | hands _ own handle here =>
      rw [here] at creating
      cases creating
      exact Or.inr ⟨here, handle, rfl⟩
  | registers _ _ here | pushes _ _ here | starts _ _ here | assigns _ _ here =>
      rw [here] at creating
      exact Or.inl creating
  | subscribes _ _ free | cancels _ _ _ free | releases _ _ _ free | replaces _ _ _ _ free
  | disconnects _ free =>
      rw [free.1] at creating
      cases creating
  | _ =>
      rw [‹state.calls thread = _›] at creating
      cases creating

end CallMove

theorem HandedOut.stays {subscription : SubId} (handed : HandedOut subscription state)
    (taken : step state action = some next) : HandedOut subscription next := by
  refine ⟨Nat.lt_of_lt_of_le handed.old (step_recent taken), ?_⟩
  intro maker creating
  rcases (step_calls taken maker).creating_from creating with before | ⟨rfl, -⟩
  · exact handed.made maker before
  · exact Nat.lt_irrefl _ handed.old

namespace Lived

variable {subscription : SubId} {thread : Thread User}

theorem joined_stays (lived : Lived state) (old : subscription < state.nextSub)
    (joined : (state.impls subscription).thread = .joined)
    (taken : step state action = some next) : (next.impls subscription).thread = .joined := by
  have move := (step_impls taken subscription).status
  generalize (next.impls subscription).thread = status at move
  cases move with
  | still => exact joined
  | created => exact absurd old (Nat.lt_irrefl _)
  | starts maker _ here =>
      have absent := lived.absent maker subscription (by rw [here]; rfl)
      rw [joined] at absent
      cases absent
  | assigns maker _ here =>
      have spawned := lived.spawned maker subscription here
      rw [joined] at spawned
      cases spawned
  | joins => rfl

/-- A `cancel` that began when `subscribe` had returned does not return before the reader
thread has been joined. -/
theorem unlocking_joined (lived : Lived state) (handed : HandedOut subscription state)
    {after : After}
    (before : state.calls thread = .unlocking subscription after →
      (state.impls subscription).thread = .joined)
    (taken : step state action = some next)
    (here : next.calls thread = .unlocking subscription after) :
    (next.impls subscription).thread = .joined := by
  rcases (step_calls taken thread).unlocking_from here with
    there | ⟨-, rfl⟩ | ⟨there, unjoinable⟩
  · exact lived.joined_stays handed.old (before there) taken
  · obtain ⟨-, rfl⟩ := (guarded_eq_some ..).mp taken
    simp [State.setCall, State.modify]
  · have settled := lived.settled subscription handed
    have joined : (state.impls subscription).thread = .joined := by
      cases status : (state.impls subscription).thread with
      | joined => rfl
      | joinable => exact absurd status unjoinable
      | absent | spawned =>
          rw [status] at settled
          cases settled
    exact lived.joined_stays handed.old joined taken

/-- Nobody but the call that makes a subscription touches its `m_thread` before. -/
theorem absent_step (lived : Lived state) (taken : step state action = some next) :
    ∀ thread subscription, (next.calls thread).preparing = some subscription →
      (next.impls subscription).thread = .absent := by
  have raised := lived.owned.raised
  intro thread subscription preparing
  rcases (step_calls taken thread).preparing_from preparing with
    ⟨old, unstarted⟩ | ⟨rfl, hasCallback, rfl⟩
  · have creating := CallPoint.creating_of_preparing old
    have absent := lived.absent thread subscription old
    have move := (step_impls taken subscription).status
    generalize (next.impls subscription).thread = status at move
    cases move with
    | still => exact absent
    | created => exact absurd creating (raised.bounded.creates_old thread)
    | starts maker _ here =>
        obtain rfl := raised.alone thread maker subscription creating (by rw [here]; rfl)
        exact absurd rfl (unstarted subscription)
    | assigns maker _ here =>
        obtain rfl := raised.alone thread maker subscription creating (by rw [here]; rfl)
        rw [here] at old
        cases old
    | joins maker _ after here =>
        rw [lived.joining maker subscription after here] at absent
        cases absent
  · obtain ⟨-, rfl⟩ := (guarded_eq_some ..).mp taken
    simp [State.setCall, Impl.created]

theorem spawned_step (lived : Lived state) (taken : step state action = some next) :
    ∀ thread subscription, next.calls thread = .assigning subscription →
      (next.impls subscription).thread = .spawned := by
  have raised := lived.owned.raised
  intro thread subscription here
  rcases (step_calls taken thread).assigning_from here with ⟨there, aside⟩ | rfl
  · have creating : (state.calls thread).creating = some subscription := by rw [there]; rfl
    have spawned := lived.spawned thread subscription there
    have move := (step_impls taken subscription).status
    generalize (next.impls subscription).thread = status at move
    cases move with
    | still => exact spawned
    | created => exact absurd creating (raised.bounded.creates_old thread)
    | starts => rfl
    | assigns maker _ here =>
        obtain rfl := raised.alone thread maker subscription creating (by rw [here]; rfl)
        exact absurd rfl aside
    | joins maker _ after here =>
        rw [lived.joining maker subscription after here] at spawned
        cases spawned
  · obtain ⟨-, rfl⟩ := (guarded_eq_some ..).mp taken
    simp [State.setCall, State.modify]

theorem handing_step (lived : Lived state) (taken : step state action = some next) :
    ∀ thread subscription, next.calls thread = .handing subscription →
      (next.impls subscription).thread.settled = true := by
  have raised := lived.owned.raised
  intro thread subscription here
  rcases (step_calls taken thread).handing_from here with ⟨there, aside⟩ | rfl
  · have creating : (state.calls thread).creating = some subscription := by rw [there]; rfl
    have settled := lived.handing thread subscription there
    have move := (step_impls taken subscription).status
    generalize (next.impls subscription).thread = status at move
    cases move with
    | still => exact settled
    | created => exact absurd creating (raised.bounded.creates_old thread)
    | starts maker _ begins =>
        obtain rfl := raised.alone thread maker subscription creating (by rw [begins]; rfl)
        exact absurd rfl aside
    | assigns | joins => rfl
  · obtain ⟨-, rfl⟩ := (guarded_eq_some ..).mp taken
    simp [State.setCall, State.modify, ThreadStatus.settled]

/-- `subscribe` does not return before `m_thread` is assigned. -/
theorem settled_step (lived : Lived state) (taken : step state action = some next) :
    ∀ subscription, HandedOut subscription next →
      (next.impls subscription).thread.settled = true := by
  intro subscription handed
  have move := (step_impls taken subscription).status
  generalize (next.impls subscription).thread = status at move
  by_cases made : ∀ thread, (state.calls thread).creating ≠ some subscription
  · have old : subscription < state.nextSub := by
      rcases (step_bystander taken).recent with same | ⟨maker, hasCallback, rfl⟩
      · exact same ▸ handed.old
      · obtain ⟨-, rfl⟩ := (guarded_eq_some ..).mp taken
        apply Nat.lt_of_le_of_ne (Nat.le_of_lt_succ handed.old)
        rintro rfl
        exact handed.made maker (by simp [State.setCall, CallPoint.creating])
    cases move with
    | still => exact lived.settled subscription ⟨old, made⟩
    | created => exact absurd old (Nat.lt_irrefl _)
    | starts maker _ here | assigns maker _ here =>
        exact absurd (by rw [here]; rfl) (made maker)
    | joins => rfl
  · obtain ⟨maker, creating⟩ := not_forall_not.mp made
    rcases (step_calls taken maker).creating_stays creating with still | ⟨here, handle, rfl⟩
    · exact absurd still (handed.made maker)
    · cases move
      exact lived.handing maker subscription here

/-- Only the thread in the section under `m_cancelMutex` joins. -/
theorem joining_step (lived : Lived state) (taken : step state action = some next) :
    ∀ thread subscription after, next.calls thread = .joining subscription after →
      (next.impls subscription).thread = .joinable := by
  have raised := lived.owned.raised
  intro thread subscription after here
  have move := (step_impls taken subscription).status
  generalize (next.impls subscription).thread = status at move
  rcases (step_calls taken thread).joining_from here with ⟨there, aside⟩ | ⟨rfl, joinable⟩
  · have joinable := lived.joining thread subscription after there
    have inside : (state.calls thread).inside = some subscription := by rw [there]; rfl
    cases move with
    | still => exact joinable
    | created =>
        have old := raised.bounded.known thread _ (CallPoint.mem_subs_of_inside inside)
        exact absurd old (Nat.lt_irrefl _)
    | starts maker _ begins =>
        rw [lived.absent maker subscription (by rw [begins]; rfl)] at joinable
        cases joinable
    | assigns => rfl
    | joins joiner _ other its =>
        have holds := (lived.sectioned.held subscription thread).mp inside
        have also := (lived.sectioned.held subscription joiner).mp (by rw [its]; rfl)
        rw [holds] at also
        cases also
        exact absurd rfl aside
  · cases move
    exact joinable

/-- A destructor does not get past its `cancel` before the reader thread has been joined. -/
theorem ended_step (lived : Lived state) (taken : step state action = some next) :
    ∀ thread subscription after, next.calls thread = .unlocking subscription after →
      after.destroys = true → (next.impls subscription).thread = .joined := by
  intro thread subscription after here destroys
  have ending : (state.calls thread).ending = some subscription := by
    rcases (step_calls taken thread).unlocking_from here with there | ⟨there, -⟩ | ⟨there, -⟩ <;>
    · rw [there]
      exact if_pos destroys
  have handed := lived.handed_of_ownerless (lived.owned.ended_old ending)
    (lived.owned.ended thread subscription ending)
  exact lived.unlocking_joined handed
    (fun there => lived.ended thread subscription after there destroys) taken here

theorem destroyed_step (lived : Lived state) (taken : step state action = some next) :
    ∀ subscription, (next.impls subscription).destroyed = true →
      (next.impls subscription).thread = .joined := by
  intro subscription destroyed
  rcases (step_impls taken subscription).destroyed_from destroyed with
    before | ⟨thread, after, here, destroys⟩
  · exact lived.joined_stays (lived.owned.destroyed subscription before).1
      (lived.destroyed subscription before) taken
  · have ending : (state.calls thread).ending = some subscription := by
      rw [here]
      exact if_pos destroys
    exact lived.joined_stays (lived.owned.ended_old ending)
      (lived.ended thread subscription after here destroys) taken

end Lived

theorem lived_step (lived : Lived state) (taken : step state action = some next) :
    Lived next where
  owned := owned_step lived.owned taken
  sectioned := sectioned_step lived.sectioned taken
  absent := lived.absent_step taken
  spawned := lived.spawned_step taken
  handing := lived.handing_step taken
  settled := lived.settled_step taken
  joining := lived.joining_step taken
  joined := fun subscription =>
    (step_impls taken subscription).joined_done (lived.joined subscription)
  ended := lived.ended_step taken
  destroyed := lived.destroyed_step taken

/-! ## Runs -/

variable {subscription : SubId} {past : List (Action User)}

theorem HandedOut.begins {thread : Thread User} {handle : Handle} (lived : Lived state)
    (taken : step state (.handOver thread subscription handle) = some next) :
    HandedOut subscription next := by
  have raised := lived.owned.raised
  obtain ⟨⟨here, -⟩, rfl⟩ := (guarded_eq_some ..).mp taken
  have mine : (state.calls thread).creating = some subscription := by rw [here]; rfl
  constructor
  · exact raised.bounded.known thread subscription (CallPoint.mem_subs_of_creating mine)
  · intro maker creating
    by_cases same : maker = thread
    · simp [State.setCall, same, CallPoint.creating] at creating
    · apply same
      apply raised.alone maker thread subscription _ mine
      simp only [State.setCall, Function.update_of_ne same] at creating
      exact creating

theorem recorded_step (recorded : Recorded subscription past state)
    (taken : step state action = some next) :
    Recorded subscription (past ++ [action]) next := by
  have lived := recorded.lived
  constructor
  · exact lived_step lived taken
  · rw [List.countP_append, List.countP_singleton]
    by_cases joining : action.joins subscription = true
    · rw [if_pos joining]
      cases action with
      | join thread own after =>
          obtain rfl : own = subscription := by simpa [Action.joins] using joining
          obtain ⟨⟨here, ended⟩, rfl⟩ := (guarded_eq_some ..).mp taken
          have joinable := lived.joining thread own after here
          have old := lived.owned.raised.bounded.known thread own (by
            rw [here]
            exact List.mem_cons_self ..)
          rcases recorded.joins with never | ⟨-, -, joined⟩
          · exact Or.inr ⟨by rw [never], old, by simp [State.setCall, State.modify]⟩
          · rw [joinable] at joined
            cases joined
      | _ => cases joining
    · rw [if_neg joining]
      rcases recorded.joins with never | ⟨once, old, joined⟩
      · exact Or.inl never
      · exact Or.inr ⟨once, Nat.lt_of_lt_of_le old (step_recent taken),
          lived.joined_stays old joined taken⟩
  · intro thread handle member
    rcases List.mem_append.mp member with before | now
    · exact (recorded.handed thread handle before).stays taken
    · obtain rfl := List.mem_singleton.mp now
      exact .begins lived taken

theorem recorded_run {actions : List (Action User)} {last : State User}
    (completed : run step initial actions = some last) : Recorded subscription actions last :=
  traced_invariant (Recorded subscription)
    (fun _ _ _ _ recorded (_ : True) => recorded_step recorded) .initially
    (along_of_forall (fun _ _ => trivial) initial) completed

theorem inactive_forever {actions : List (Action User)} {last : State User}
    (old : subscription < state.nextSub) (inactive : (state.impls subscription).active = false)
    (completed : run step state actions = some last) :
    (last.impls subscription).active = false := by
  have preserved : ∀ (state : State User) (action : Action User) (next : State User),
      subscription < state.nextSub ∧ (state.impls subscription).active = false →
      step state action = some next →
      subscription < next.nextSub ∧ (next.impls subscription).active = false := by
    intro state action next before taken
    exact ⟨Nat.lt_of_lt_of_le before.1 (step_recent taken),
      (step_impls taken subscription).inactive_stays before.1 before.2⟩
  exact (reachable_invariant _ preserved ⟨old, inactive⟩ completed).2

/-- A reader thread that has been joined has returned, then and later. -/
theorem joined_forever {actions : List (Action User)} {last : State User} (lived : Lived state)
    (old : subscription < state.nextSub) (joined : (state.impls subscription).thread = .joined)
    (completed : run step state actions = some last) :
    (last.impls subscription).point = .done := by
  have preserved : ∀ (state : State User) (action : Action User) (next : State User),
      Lived state ∧ subscription < state.nextSub ∧
        (state.impls subscription).thread = .joined →
      step state action = some next →
      Lived next ∧ subscription < next.nextSub ∧
        (next.impls subscription).thread = .joined := by
    rintro state action next ⟨lived, old, joined⟩ taken
    exact ⟨lived_step lived taken, Nat.lt_of_lt_of_le old (step_recent taken),
      lived.joined_stays old joined taken⟩
  obtain ⟨after, -, still⟩ := reachable_invariant _ preserved ⟨lived, old, joined⟩ completed
  exact after.joined subscription still

/-- A `cancel` that is called when `subscribe` has returned returns when the reader thread
has. -/
theorem returned_joined {thread : Thread User} {after : After} {actions : List (Action User)}
    {middle last : State User} (lived : Lived state) (handed : HandedOut subscription state)
    (outside : (state.calls thread).cancelling ≠ some subscription)
    (completed : run step state actions = some middle)
    (returns : step middle (.unlockCancel thread subscription after) = some last) :
    Lived last ∧ subscription < last.nextSub ∧ (last.impls subscription).thread = .joined := by
  have preserved : ∀ (state : State User) (action : Action User) (next : State User),
      Lived state ∧ HandedOut subscription state ∧
        (∀ after, state.calls thread = .unlocking subscription after →
          (state.impls subscription).thread = .joined) →
      step state action = some next →
      Lived next ∧ HandedOut subscription next ∧
        ∀ after, next.calls thread = .unlocking subscription after →
          (next.impls subscription).thread = .joined := by
    rintro state action next ⟨lived, handed, joined⟩ taken
    exact ⟨lived_step lived taken, handed.stays taken, fun after =>
      lived.unlocking_joined handed (joined after) taken⟩
  have start : ∀ after, state.calls thread = .unlocking subscription after →
      (state.impls subscription).thread = .joined := by
    intro after here
    rw [here] at outside
    exact absurd rfl outside
  obtain ⟨before, known, joined⟩ :=
    reachable_invariant _ preserved ⟨lived, handed, start⟩ completed
  obtain ⟨here, -⟩ := (guarded_eq_some ..).mp returns
  exact ⟨lived_step before returns, (known.stays returns).old,
    before.joined_stays known.old (joined after here) returns⟩

/-- In every run the reader thread of a subscription is joined at most once, and has been
when the `Impl` is gone; `m_active` stays `false`; and the reader thread has returned, with
its callbacks, when a `cancel` returns that was called after `subscribe` had. -/
theorem subscription_life_cycle (subscription : SubId) (actions : List (Action User))
    (last : State User) (completed : run step initial actions = some last) :
    actions.countP (Action.joins subscription) ≤ 1 ∧
    ((last.impls subscription).destroyed = true →
      (last.impls subscription).thread = .joined) ∧
    (∀ later final, subscription < last.nextSub → (last.impls subscription).active = false →
      run step last later = some final → (final.impls subscription).active = false) ∧
    ∀ creator handle thread after during later final,
      .handOver creator subscription handle ∈ actions →
      (last.calls thread).cancelling ≠ some subscription →
      run step last (during ++ .unlockCancel thread subscription after :: later) = some final →
      (final.impls subscription).point = .done := by
  have recorded : Recorded subscription actions last := recorded_run completed
  refine ⟨?_, recorded.lived.destroyed subscription, ?_, ?_⟩
  · rcases recorded.joins with never | ⟨once, -⟩ <;> omega
  · intro later final old inactive continued
    exact inactive_forever old inactive continued
  · intro creator handle thread after during later final member outside continued
    obtain ⟨middle, before, rest⟩ := run_append_eq_some.mp continued
    obtain ⟨returned, taken, remaining⟩ := run_cons_eq_some.mp rest
    obtain ⟨lived, old, joined⟩ :=
      returned_joined recorded.lived (recorded.handed creator handle member) outside before taken
    exact joined_forever lived old joined remaining

/-- The subscription is rejected: the reader thread returns by itself, and `cancel` joins
it all the same. -/
def rejected : List (Action Unit) :=
  [.subscribe (.user ()) true, .register (.user ()) 0, .push (.user ()) 0, .start (.user ()) 0,
    .testActive 0, .socketOpens 0 5, .handshakeRejected 0 5, .abandon 0 5 true,
    .testFailed 0 true, .storeRejected 0, .finish 0, .assign (.user ()) 0,
    .handOver (.user ()) 0 0]

theorem rejected_life_cycle :
    ∃ last final, run step initial rejected = some last ∧ (last.impls 0).active = false ∧
      run step last ([.cancel (.user ()) 0, .lockCancel (.user ()) 0 .returning,
        .exchangeActive (.user ()) 0 .returning, .testJoinable (.user ()) 0 .returning,
        .join (.user ()) 0 .returning] ++ [.unlockCancel (.user ()) 0 .returning]) =
          some final ∧
      rejected.countP (Action.joins 0) ≤ 1 ∧ (final.impls 0).point = .done := by
  have cycle := subscription_life_cycle 0 rejected _ rfl
  refine ⟨_, _, rfl, rfl, rfl, cycle.1, ?_⟩
  exact cycle.2.2.2 (.user ()) 0 (.user ()) .returning
    [.cancel (.user ()) 0, .lockCancel (.user ()) 0 .returning,
      .exchangeActive (.user ()) 0 .returning, .testJoinable (.user ()) 0 .returning,
      .join (.user ()) 0 .returning] [] _ (by decide) (by decide) rfl

end TboxFramework.Ipc.Subscription

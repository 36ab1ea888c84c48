import TboxFramework.Ipc.SubscriptionCalls

/-!
# `cancel` and the sockets of its subscription

`runLoop` owns the descriptor of its connection. `cancel` takes the number out of
`m_fd` and shuts it down later, which no lock keeps `runLoop` from preceding with
a `close`.
-/

namespace TboxFramework.Ipc.Subscription

open Interleaving

set_option autoImplicit false

variable {User : Type}

/-- The descriptor that a reader thread has open. -/
def ReaderPoint.held : ReaderPoint → Option Fd
  | .handshaking fd | .abandoning fd _ | .storing fd | .polling fd | .reading fd
  | .inCallback fd | .clearing fd | .closing fd => some fd
  | _ => none

/-- The descriptor that a reader thread has stored in `m_fd` and has not closed. -/
def ReaderPoint.shared : ReaderPoint → Option Fd
  | .polling fd | .reading fd | .inCallback fd | .clearing fd | .closing fd => some fd
  | _ => none

/-- The descriptor that a reader thread has left in `m_fd`, for `cancel` to take. -/
def ReaderPoint.published : ReaderPoint → Option Fd
  | .polling fd | .reading fd | .inCallback fd | .clearing fd => some fd
  | _ => none

/-- The descriptor that a `cancel` is about to shut down. -/
def CallPoint.aim : CallPoint → Option Fd
  | .shuttingDown _ fd _ => some fd
  | _ => none

/-- The subscription whose connection an action closes, as broken or cancelled. -/
def Action.closing : Action User → Option SubId
  | .closeFd subscription _ => some subscription
  | _ => none

theorem ReaderPoint.held_of_shared {point : ReaderPoint} {fd : Fd}
    (shared : point.shared = some fd) : point.held = some fd := by
  cases point <;> cases shared <;> rfl

theorem ReaderPoint.shared_of_published {point : ReaderPoint} {fd : Fd}
    (published : point.published = some fd) : point.shared = some fd := by
  cases point <;> cases published <;> rfl

theorem CallPoint.shutting_of_aim {point : CallPoint} (aims : ¬point.aim = none) :
    ∃ subscription fd after, point = .shuttingDown subscription fd after := by
  cases point with
  | shuttingDown subscription fd after => exact ⟨subscription, fd, after, rfl⟩
  | _ => exact absurd rfl aims

/-- Who is about to shut a descriptor down, or to close one, finds an open socket of its
own subscription behind the number. -/
structure TouchesOwn (state : State User) : Prop where
  shutdown : ∀ thread subscription fd after,
    state.calls thread = .shuttingDown subscription fd after →
      state.descriptors fd = some (.socket subscription)
  close : ∀ subscription fd, (state.impls subscription).point = .closing fd →
    state.descriptors fd = some (.socket subscription)
  abandon : ∀ subscription fd rejected,
    (state.impls subscription).point = .abandoning fd rejected →
      state.descriptors fd = some (.socket subscription)

/-- `runLoop` does not close its descriptor between the exchange and the shutdown of a
`cancel`. -/
def ClosesAside (state : State User) (action : Action User) : Prop :=
  ∀ subscription ∈ action.closing,
    ∀ thread ∈ (state.impls subscription).cancelMutex, (state.calls thread).aim = none

instance (state : State User) (action : Action User) : Decidable (ClosesAside state action) :=
  inferInstanceAs (Decidable (∀ subscription ∈ action.closing,
    ∀ thread ∈ (state.impls subscription).cancelMutex, (state.calls thread).aim = none))

/-- A reader thread has a socket of its own open, which is the one in `m_fd` and the one
that a `cancel` is about to shut down. -/
structure Grasped (state : State User) : Prop where
  raised : Raised state
  sectioned : Sectioned state
  own : ∀ subscription fd, (state.impls subscription).point.held = some fd →
    state.descriptors fd = some (.socket subscription)
  stored : ∀ subscription fd, (state.impls subscription).fd = some fd →
    (state.impls subscription).point.published = some fd
  aimed : ∀ thread subscription fd after,
    state.calls thread = .shuttingDown subscription fd after →
      (state.impls subscription).point.shared = some fd

theorem Grasped.initially : Grasped (initial : State User) where
  raised := .initially
  sectioned := .initially
  own := nofun
  stored := nofun
  aimed := nofun

theorem Grasped.touches_own {state : State User} (grasped : Grasped state) : TouchesOwn state := by
  constructor
  · intro thread subscription fd after aimed
    exact grasped.own subscription fd
      (ReaderPoint.held_of_shared (grasped.aimed thread subscription fd after aimed))
  · intro subscription fd here
    apply grasped.own subscription fd
    rw [here]
    rfl
  · intro subscription fd rejected here
    apply grasped.own subscription fd
    rw [here]
    rfl

namespace Edge

variable {state : State User} {action : Action User} {subscription : SubId}
  {before after : ReaderPoint} {fd : Fd}

/-- A reader thread has opened the descriptor that it holds. -/
theorem held_from (edge : Edge state subscription action before after)
    (held : after.held = some fd) :
    before.held = some fd ∨ action = .socketOpens subscription fd := by
  cases edge with
  | socketOpens opened =>
      cases held
      exact Or.inr rfl
  | testActive | retest => split at held <;> cases held
  | testFailed =>
      split at held
      · split at held <;> cases held
      · cases held
  | pollActive | eventArrives => split at held <;> exact Or.inl held
  | socketFails | abandon | closeFd | sleepEnds => cases held
  | _ => exact Or.inl held

theorem published_stays (edge : Edge state subscription action before after)
    (published : before.published = some fd) : after.published = some fd := by
  cases edge with
  | pollActive | eventArrives => split <;> exact published
  | readFails | callbackReturns => exact published
  | _ => cases published

theorem shared_stays (edge : Edge state subscription action before after)
    (shared : before.shared = some fd) (unclosed : action ≠ .closeFd subscription fd) :
    after.shared = some fd := by
  cases edge with
  | pollActive | eventArrives => split <;> exact shared
  | readFails | callbackReturns => exact shared
  | closeFd =>
      cases shared
      exact absurd rfl unclosed
  | _ => cases shared

end Edge

variable [DecidableEq User] {state next : State User} {action : Action User}

namespace ImplMove

variable {subscription : SubId} {own : Impl User} {fd : Fd}

theorem held_from (move : ImplMove state action subscription own)
    (held : own.point.held = some fd) :
    (state.impls subscription).point.held = some fd ∨ action = .socketOpens subscription fd := by
  cases move with
  | goes _ _ point edge => exact edge.held_from held
  | rejects | finishes | created | starts => cases held
  | stores _ _ here | clears _ _ here =>
      rw [here]
      exact Or.inl held
  | _ => exact Or.inl held

theorem shared_stays (move : ImplMove state action subscription own)
    (shared : (state.impls subscription).point.shared = some fd)
    (unclosed : action ≠ .closeFd subscription fd) (old : subscription < state.nextSub)
    (born : ∀ thread, state.calls thread = .starting subscription →
      (state.impls subscription).point = .unborn) : own.point.shared = some fd := by
  cases move with
  | goes _ _ point edge => exact edge.shared_stays shared unclosed
  | rejects _ here | finishes _ here =>
      rw [here] at shared
      cases shared
  | stores _ _ here =>
      rw [here] at shared
      cases shared
  | clears _ _ here =>
      rw [here] at shared
      exact shared
  | created => exact absurd old (Nat.lt_irrefl _)
  | starts thread _ here =>
      rw [born thread here] at shared
      cases shared
  | _ => exact shared

/-- What is in `m_fd` is a descriptor that the reader thread has left there. -/
theorem stored_stays (move : ImplMove state action subscription own)
    (stored : ∀ fd, (state.impls subscription).fd = some fd →
      (state.impls subscription).point.published = some fd)
    (born : ∀ thread, state.calls thread = .starting subscription →
      (state.impls subscription).point = .unborn) :
    own.fd = some fd → own.point.published = some fd := by
  intro found
  cases move with
  | goes _ _ point edge => exact edge.published_stays (stored fd found)
  | rejects _ here | finishes _ here =>
      have published := stored fd found
      rw [here] at published
      cases published
  | stores _ _ here => exact found
  | clears | created | takesFd => cases found
  | starts thread _ here =>
      have published := stored fd found
      rw [born thread here] at published
      cases published
  | _ => exact stored fd found

end ImplMove

theorem CallMove.aimed_from {thread : Thread User} {point : CallPoint} {subscription : SubId}
    {fd : Fd} {after : After} (move : CallMove state action thread point)
    (aimed : point = .shuttingDown subscription fd after) :
    state.calls thread = .shuttingDown subscription fd after ∨
      (state.impls subscription).fd = some fd ∧
        state.calls thread = .exchangingFd subscription after ∧
        action = .exchangeFd thread subscription after := by
  cases move with
  | still => exact Or.inl aimed
  | takesFd _ _ _ _ here stored =>
      cases aimed
      exact Or.inr ⟨stored, here, rfl⟩
  | unlocks _ own after => exact absurd aimed (after.point_ne own rfl)
  | unwinds _ own after => exact absurd aimed (after.thrown_ne own rfl)
  | drops _ _ rest => exact absurd aimed (CallPoint.resumed_ne rest rfl)
  | _ => cases aimed

theorem grasped_step (grasped : Grasped state) (aside : ClosesAside state action)
    (taken : step state action = some next) : Grasped next := by
  have born : ∀ subscription thread, state.calls thread = .starting subscription →
      (state.impls subscription).point = .unborn := by
    intro subscription thread here
    apply grasped.raised.unborn thread subscription
    rw [here]
    rfl
  constructor
  · exact raised_step grasped.raised taken
  · exact sectioned_step grasped.sectioned taken
  · intro subscription fd held
    rcases (step_impls taken subscription).held_from held with before | rfl
    · have mine := grasped.own subscription fd before
      have files := step_files taken fd
      generalize next.descriptors fd = file at files
      cases files with
      | still => exact mine
      | opens other _ free | otherOpens _ free =>
          rw [free] at mine
          cases mine
      | abandons other _ rejected here =>
          have same := grasped.own other fd (by rw [here]; rfl)
          obtain rfl : other = subscription := by simpa [same] using mine
          obtain ⟨-, rfl⟩ := (guarded_eq_some ..).mp taken
          simp [State.setPoint, State.modify, ReaderPoint.held] at held
      | closes other _ here =>
          have same := grasped.own other fd (by rw [here]; rfl)
          obtain rfl : other = subscription := by simpa [same] using mine
          obtain ⟨-, rfl⟩ := (guarded_eq_some ..).mp taken
          simp [State.setPoint, State.modify, ReaderPoint.held] at held
      | otherCloses _ here =>
          rw [here] at mine
          cases mine
    · obtain ⟨-, rfl⟩ := (guarded_eq_some ..).mp taken
      exact Function.update_self ..
  · intro subscription fd
    exact (step_impls taken subscription).stored_stays (grasped.stored subscription)
      (born subscription)
  · intro thread subscription fd after aimed
    have bounded := grasped.raised.bounded
    rcases (step_calls taken thread).aimed_from aimed with before | ⟨stored, here, rfl⟩
    · have old : subscription < state.nextSub := by
        apply bounded.known thread
        rw [before]
        exact List.mem_cons_self ..
      apply (step_impls taken subscription).shared_stays
        (grasped.aimed thread subscription fd after before) _ old (born subscription)
      rintro rfl
      have holds := (grasped.sectioned.held subscription thread).mp (by rw [before]; rfl)
      have nowhere := aside subscription rfl thread holds
      rw [before] at nowhere
      cases nowhere
    · have old : subscription < state.nextSub := by
        apply bounded.known thread
        rw [here]
        exact List.mem_cons_self ..
      exact (step_impls taken subscription).shared_stays
        (ReaderPoint.shared_of_published (grasped.stored subscription fd stored)) (by simp) old
        (born subscription)

omit [DecidableEq User] in
theorem closes_aside (aside : action.closing = none) : ClosesAside state action := by
  intro subscription closing
  rw [aside] at closing
  cases closing

/-- A `close` between the exchange and the shutdown leaves the number to anybody. -/
theorem close_loses_own (grasped : Grasped state) (hasty : ¬ClosesAside state action)
    (taken : step state action = some next) : ¬TouchesOwn next := by
  cases action with
  | closeFd subscription fd =>
      simp only [ClosesAside, not_forall] at hasty
      obtain ⟨_, same, thread, holds, aims⟩ := hasty
      cases same
      obtain ⟨own, aimed, after, there⟩ := CallPoint.shutting_of_aim aims
      have inside := (grasped.sectioned.held subscription thread).mpr holds
      rw [there] at inside
      obtain rfl : own = subscription := Option.some.inj inside
      have shared := grasped.aimed thread own aimed after there
      obtain ⟨here, rfl⟩ := (guarded_eq_some ..).mp taken
      rw [here] at shared
      obtain rfl : fd = aimed := Option.some.inj shared
      intro touches
      have found := touches.shutdown thread own fd after there
      simp [State.setPoint, State.modify, State.closed] at found
  | _ => exact absurd (closes_aside rfl) hasty

/-- `cancel` and `runLoop` shut down and close sockets of their own subscription, in every
state of a run, exactly if `runLoop` never closes its descriptor between the exchange and
the shutdown of a `cancel`. -/
theorem touches_own_iff (actions : List (Action User)) (last : State User)
    (completed : run step initial actions = some last) :
    Always step TouchesOwn initial actions ↔ Along step ClosesAside initial actions :=
  always_iff_along (fun _ _ _ => grasped_step) (fun _ => Grasped.touches_own)
    (fun _ _ _ => close_loses_own) .initially completed

/-- `cancel` shuts the socket down, which wakes the reader up, and joins it. -/
def cancelled : List (Action Unit) :=
  listening ++ [.cancel (.user ()) 0, .lockCancel (.user ()) 0 .returning,
    .exchangeActive (.user ()) 0 .returning, .exchangeFd (.user ()) 0 .returning,
    .shutdown (.user ()) 0 5 .returning, .testJoinable (.user ()) 0 .returning,
    .readFails 0 5, .clearFd 0 5, .closeFd 0 5, .retest 0, .finish 0,
    .join (.user ()) 0 .returning, .unlockCancel (.user ()) 0 .returning]

theorem waking_touches_own :
    ∃ last, run step initial cancelled = some last ∧ (last.impls 0).thread = .joined ∧
      Always step TouchesOwn initial cancelled := by
  refine ⟨_, rfl, rfl, (touches_own_iff cancelled _ rfl).mpr ?_⟩
  decide

/-- The connection breaks while a `cancel` is on its way from the exchange to the shutdown:
the number goes to a file of somebody else, and `cancel` shuts that down. -/
theorem cancel_shuts_foreign_file :
    ∃ before last : State Unit,
      run step initial (listening ++ [.cancel (.user ()) 0, .lockCancel (.user ()) 0 .returning,
        .exchangeActive (.user ()) 0 .returning, .readFails 0 5,
        .exchangeFd (.user ()) 0 .returning, .clearFd 0 5, .closeFd 0 5, .openOther 5]) =
          some before ∧
      before.descriptors 5 = some .other ∧
      step before (.shutdown (.user ()) 0 5 .returning) = some last ∧ ¬TouchesOwn before := by
  refine ⟨_, _, rfl, rfl, rfl, ?_⟩
  intro touches
  have found := touches.shutdown (.user ()) 0 5 .returning rfl
  exact absurd found (by decide)

end TboxFramework.Ipc.Subscription

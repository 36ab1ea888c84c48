import TboxFramework.Ipc.Subscription

/-!
# What a step can do to a subscription

A step moves one reader thread, or one thread in a call of the API, or concerns
neither. It changes the data of one subscription in one of a few ways.
-/

namespace TboxFramework.Ipc.Subscription

open Interleaving

set_option autoImplicit false

variable {User : Type}

/-- The thread whose call of the API an action is a step of. -/
def Action.caller : Action User → Option (Thread User)
  | .subscribe thread _ | .register thread _ | .push thread _ | .start thread _
  | .assign thread _ | .handOver thread _ _ | .move thread _ _ | .cancel thread _
  | .release thread _ | .replace thread _ _ | .lockCancel thread _ _
  | .exchangeActive thread _ _ | .exchangeFd thread _ _ | .shutdown thread _ _ _
  | .testJoinable thread _ _ | .join thread _ _ | .joinThrows thread _ _
  | .unlockCancel thread _ _ | .unwindCancel thread _ _ | .escape thread _
  | .transfer thread _ _ _ | .drop thread _ _ | .disconnect thread | .enter thread
  | .walk thread _ _ | .leave thread => some thread
  | _ => none

/-- The actions that change what a handle holds. -/
def Action.handling : Action User → Bool
  | .handOver _ _ _ | .move _ _ _ | .release _ _ | .replace _ _ _ | .transfer _ _ _ _ => true
  | _ => false

/-- The actions that lock or unlock `m_subMutex`. -/
def Action.lists : Action User → Bool
  | .register _ _ | .push _ _ | .enter _ | .leave _ | .escape _ _ => true
  | _ => false

/-- The edges of `runLoop` that change nothing but the program point and the
descriptors. -/
inductive Edge (state : State User) (subscription : SubId) :
    Action User → ReaderPoint → ReaderPoint → Prop
  | testActive :
      Edge state subscription (.testActive subscription) .testing
        (if (state.impls subscription).active then .opening else .finishing)
  | socketFails : Edge state subscription (.socketFails subscription) .opening (.failed false)
  | socketOpens (fd : Fd) (free : state.descriptors fd = none) :
      Edge state subscription (.socketOpens subscription fd) .opening (.handshaking fd)
  | handshakeFails (fd : Fd) :
      Edge state subscription (.handshakeFails subscription fd) (.handshaking fd)
        (.abandoning fd false)
  | handshakeRejected (fd : Fd) :
      Edge state subscription (.handshakeRejected subscription fd) (.handshaking fd)
        (.abandoning fd true)
  | handshakeDone (fd : Fd) :
      Edge state subscription (.handshakeDone subscription fd) (.handshaking fd) (.storing fd)
  | abandon (fd : Fd) (rejected : Bool) :
      Edge state subscription (.abandon subscription fd rejected) (.abandoning fd rejected)
        (.failed rejected)
  | testFailed (rejected : Bool) :
      Edge state subscription (.testFailed subscription rejected) (.failed rejected)
        (if (state.impls subscription).active then
          if rejected then .rejecting else .sleeping
        else .finishing)
  | pollActive (fd : Fd) :
      Edge state subscription (.pollActive subscription fd) (.polling fd)
        (if (state.impls subscription).active then .reading fd else .clearing fd)
  | readFails (fd : Fd) :
      Edge state subscription (.readFails subscription fd) (.reading fd) (.clearing fd)
  | eventArrives (fd : Fd) :
      Edge state subscription (.eventArrives subscription fd) (.reading fd)
        (if (state.impls subscription).hasCallback then .inCallback fd else .polling fd)
  | callbackReturns (fd : Fd) (idle : state.calls (.reader subscription) = .idle) :
      Edge state subscription (.callbackReturns subscription fd) (.inCallback fd) (.polling fd)
  | closeFd (fd : Fd) :
      Edge state subscription (.closeFd subscription fd) (.closing fd) .retesting
  | retest :
      Edge state subscription (.retest subscription) .retesting
        (if (state.impls subscription).active then .sleeping else .finishing)
  | sleepEnds : Edge state subscription (.sleepEnds subscription) .sleeping .testing

/-- What an action can make of one descriptor number. -/
inductive FileMove (state : State User) : Action User → Fd → Option File → Prop
  | still (action : Action User) (fd : Fd) : FileMove state action fd (state.descriptors fd)
  | opens (subscription : SubId) (fd : Fd) (free : state.descriptors fd = none) :
      FileMove state (.socketOpens subscription fd) fd (some (.socket subscription))
  | abandons (subscription : SubId) (fd : Fd) (rejected : Bool)
      (here : (state.impls subscription).point = .abandoning fd rejected) :
      FileMove state (.abandon subscription fd rejected) fd none
  | closes (subscription : SubId) (fd : Fd)
      (here : (state.impls subscription).point = .closing fd) :
      FileMove state (.closeFd subscription fd) fd none
  | otherOpens (fd : Fd) (free : state.descriptors fd = none) :
      FileMove state (.openOther fd) fd (some .other)
  | otherCloses (fd : Fd) (here : state.descriptors fd = some .other) :
      FileMove state (.closeOther fd) fd none

theorem FileMove.of_update {state : State User} {action : Action User} {changed : Fd}
    {file : Option File} (mine : FileMove state action changed file) (fd : Fd) :
    FileMove state action fd (Function.update state.descriptors changed file fd) := by
  by_cases same : fd = changed
  · subst same
    rw [Function.update_self]
    exact mine
  · rw [Function.update_of_ne same]
    exact .still action fd

/-- What an action can make of one handle. -/
inductive HandleMove (state : State User) : Action User → Handle → Option SubId → Prop
  | still (action : Action User) (handle : Handle) :
      HandleMove state action handle (state.handles handle)
  | empties (action : Action User) (handle : Handle) : HandleMove state action handle none
  | hands (thread : Thread User) (subscription : SubId) (handle : Handle)
      (here : state.calls thread = .handing subscription)
      (free : state.handles handle = none) :
      HandleMove state (.handOver thread subscription handle) handle (some subscription)
  | moves (action : Action User) (target source : Handle) (subscription : SubId)
      (mine : state.handles source = some subscription) :
      HandleMove state action target (some subscription)

theorem HandleMove.of_update {state : State User} {action : Action User} {changed : Handle}
    {content : Option SubId} (mine : HandleMove state action changed content)
    (handle : Handle) :
    HandleMove state action handle (Function.update state.handles changed content handle) := by
  by_cases same : handle = changed
  · subst same
    rw [Function.update_self]
    exact mine
  · rw [Function.update_of_ne same]
    exact .still action handle

variable [DecidableEq User]

/-- What an action can make of the data of one subscription. -/
inductive ImplMove (state : State User) : Action User → SubId → Impl User → Prop
  | still (action : Action User) (subscription : SubId) :
      ImplMove state action subscription (state.impls subscription)
  | goes (action : Action User) (subscription : SubId) (point : ReaderPoint)
      (edge : Edge state subscription action (state.impls subscription).point point) :
      ImplMove state action subscription { state.impls subscription with point := point }
  | rejects (subscription : SubId) (here : (state.impls subscription).point = .rejecting) :
      ImplMove state (.storeRejected subscription) subscription
        { state.impls subscription with active := false, point := .finishing }
  | stores (subscription : SubId) (fd : Fd)
      (here : (state.impls subscription).point = .storing fd) :
      ImplMove state (.storeFd subscription fd) subscription
        { state.impls subscription with fd := some fd, point := .polling fd }
  | clears (subscription : SubId) (fd : Fd)
      (here : (state.impls subscription).point = .clearing fd) :
      ImplMove state (.clearFd subscription fd) subscription
        { state.impls subscription with fd := none, point := .closing fd }
  | finishes (subscription : SubId) (here : (state.impls subscription).point = .finishing) :
      ImplMove state (.finish subscription) subscription
        { state.impls subscription with active := false, point := .done }
  | created (thread : Thread User) (hasCallback : Bool) :
      ImplMove state (.subscribe thread hasCallback) state.nextSub
        (.created hasCallback [.call thread])
  | starts (thread : Thread User) (subscription : SubId)
      (here : state.calls thread = .starting subscription) :
      ImplMove state (.start thread subscription) subscription
        { state.impls subscription with thread := .spawned, point := .testing }
  | assigns (thread : Thread User) (subscription : SubId)
      (here : state.calls thread = .assigning subscription) :
      ImplMove state (.assign thread subscription) subscription
        { state.impls subscription with thread := .joinable }
  | hands (thread : Thread User) (subscription : SubId) (handle : Handle)
      (here : state.calls thread = .handing subscription)
      (free : state.handles handle = none) :
      ImplMove state (.handOver thread subscription handle) subscription
        { state.impls subscription with
          owners := .handle handle :: (state.impls subscription).owners.erase (.call thread) }
  | transfers (action : Action User) (subscription : SubId) (target source : Handle)
      (handling : action.handling = true) (mine : state.handles source = some subscription) :
      ImplMove state action subscription
        { state.impls subscription with
          owners := .handle target :: (state.impls subscription).owners.erase (.handle source) }
  | takesOut (action : Action User) (thread : Thread User) (subscription : SubId)
      (handle : Handle) (handling : action.handling = true)
      (mine : state.handles handle = some subscription) :
      ImplMove state action subscription
        { state.impls subscription with
          owners := .call thread :: (state.impls subscription).owners.erase (.handle handle) }
  | locks (thread : Thread User) (subscription : SubId) (after : After)
      (here : state.calls thread = .lockingCancel subscription after)
      (free : (state.impls subscription).cancelMutex = none) :
      ImplMove state (.lockCancel thread subscription after) subscription
        { state.impls subscription with cancelMutex := some thread }
  | deactivates (thread : Thread User) (subscription : SubId) (after : After)
      (here : state.calls thread = .exchangingActive subscription after) :
      ImplMove state (.exchangeActive thread subscription after) subscription
        { state.impls subscription with active := false }
  | takesFd (thread : Thread User) (subscription : SubId) (after : After)
      (here : state.calls thread = .exchangingFd subscription after) :
      ImplMove state (.exchangeFd thread subscription after) subscription
        { state.impls subscription with fd := none }
  | joins (thread : Thread User) (subscription : SubId) (after : After)
      (here : state.calls thread = .joining subscription after)
      (ended : (state.impls subscription).point = .done) :
      ImplMove state (.join thread subscription after) subscription
        { state.impls subscription with thread := .joined }
  | unlocks (thread : Thread User) (subscription : SubId) (after : After)
      (here : state.calls thread = .unlocking subscription after) :
      ImplMove state (.unlockCancel thread subscription after) subscription
        { state.impls subscription with
          cancelMutex := none
          destroyed := (state.impls subscription).destroyed || after.destroys }
  | unwinds (thread : Thread User) (subscription : SubId) (after : After)
      (here : state.calls thread = .unwinding subscription after) :
      ImplMove state (.unwindCancel thread subscription after) subscription
        { state.impls subscription with cancelMutex := none }
  | escapes (thread : Thread User) (subscription : SubId)
      (here : state.calls thread = .escaping subscription) :
      ImplMove state (.escape thread subscription) subscription
        { state.impls subscription with
          owners := (state.impls subscription).owners.erase (.call thread) }
  | drops (thread : Thread User) (subscription : SubId) (rest : Option (List SubId))
      (here : state.calls thread = .dropping subscription rest) :
      ImplMove state (.drop thread subscription rest) subscription
        { state.impls subscription with
          owners := (state.impls subscription).owners.erase (.call thread) }
  | walks (thread : Thread User) (subscription : SubId) (rest : List SubId)
      (here : state.calls thread = .walking (subscription :: rest))
      (alive : (state.impls subscription).owners ≠ []) :
      ImplMove state (.walk thread subscription rest) subscription
        { state.impls subscription with
          owners := .call thread :: (state.impls subscription).owners }

/-- What an action can make of one thread's call. -/
inductive CallMove (state : State User) : Action User → Thread User → CallPoint → Prop
  | still (action : Action User) (thread : Thread User) (aside : action.caller ≠ some thread) :
      CallMove state action thread (state.calls thread)
  | rests (action : Action User) (thread : Thread User) (here : state.calls thread = .idle) :
      CallMove state action thread .idle
  | subscribes (thread : Thread User) (hasCallback : Bool) (free : state.Free thread) :
      CallMove state (.subscribe thread hasCallback) thread (.registering state.nextSub)
  | registers (thread : Thread User) (subscription : SubId)
      (here : state.calls thread = .registering subscription) (free : state.subMutex = none) :
      CallMove state (.register thread subscription) thread (.pushing subscription)
  | pushes (thread : Thread User) (subscription : SubId)
      (here : state.calls thread = .pushing subscription) :
      CallMove state (.push thread subscription) thread (.starting subscription)
  | starts (thread : Thread User) (subscription : SubId)
      (here : state.calls thread = .starting subscription) :
      CallMove state (.start thread subscription) thread (.assigning subscription)
  | assigns (thread : Thread User) (subscription : SubId)
      (here : state.calls thread = .assigning subscription) :
      CallMove state (.assign thread subscription) thread (.handing subscription)
  | hands (thread : Thread User) (subscription : SubId) (handle : Handle)
      (here : state.calls thread = .handing subscription) :
      CallMove state (.handOver thread subscription handle) thread .idle
  | cancels (thread : Thread User) (subscription : SubId) (handle : Handle)
      (free : state.Free thread) (found : state.handles handle = some subscription) :
      CallMove state (.cancel thread handle) thread (.lockingCancel subscription .returning)
  | releases (thread : Thread User) (subscription : SubId) (handle : Handle)
      (free : state.Free thread) (found : state.handles handle = some subscription) :
      CallMove state (.release thread handle) thread (.lockingCancel subscription .releasing)
  | replaces (thread : Thread User) (subscription : SubId) (target source : Handle)
      (free : state.Free thread) (found : state.handles target = some subscription) :
      CallMove state (.replace thread target source) thread
        (.lockingCancel subscription (.replacing target source))
  | locks (thread : Thread User) (subscription : SubId) (after : After)
      (here : state.calls thread = .lockingCancel subscription after)
      (free : (state.impls subscription).cancelMutex = none) :
      CallMove state (.lockCancel thread subscription after) thread
        (.exchangingActive subscription after)
  | deactivates (thread : Thread User) (subscription : SubId) (after : After)
      (here : state.calls thread = .exchangingActive subscription after)
      (on : (state.impls subscription).active = true) :
      CallMove state (.exchangeActive thread subscription after) thread
        (.exchangingFd subscription after)
  | finds (thread : Thread User) (subscription : SubId) (after : After)
      (here : state.calls thread = .exchangingActive subscription after)
      (off : (state.impls subscription).active = false) :
      CallMove state (.exchangeActive thread subscription after) thread
        (.testingJoinable subscription after)
  | takesFd (thread : Thread User) (subscription : SubId) (fd : Fd) (after : After)
      (here : state.calls thread = .exchangingFd subscription after)
      (stored : (state.impls subscription).fd = some fd) :
      CallMove state (.exchangeFd thread subscription after) thread
        (.shuttingDown subscription fd after)
  | takesNone (thread : Thread User) (subscription : SubId) (after : After)
      (here : state.calls thread = .exchangingFd subscription after)
      (none_ : (state.impls subscription).fd = none) :
      CallMove state (.exchangeFd thread subscription after) thread
        (.testingJoinable subscription after)
  | shuts (thread : Thread User) (subscription : SubId) (fd : Fd) (after : After)
      (here : state.calls thread = .shuttingDown subscription fd after) :
      CallMove state (.shutdown thread subscription fd after) thread
        (.testingJoinable subscription after)
  | readies (thread : Thread User) (subscription : SubId) (after : After)
      (here : state.calls thread = .testingJoinable subscription after)
      (joinable : (state.impls subscription).thread = .joinable) :
      CallMove state (.testJoinable thread subscription after) thread (.joining subscription after)
  | spares (thread : Thread User) (subscription : SubId) (after : After)
      (here : state.calls thread = .testingJoinable subscription after)
      (unjoinable : (state.impls subscription).thread ≠ .joinable) :
      CallMove state (.testJoinable thread subscription after) thread
        (.unlocking subscription after)
  | joins (thread : Thread User) (subscription : SubId) (after : After)
      (here : state.calls thread = .joining subscription after)
      (ended : (state.impls subscription).point = .done) :
      CallMove state (.join thread subscription after) thread (.unlocking subscription after)
  | unlocks (thread : Thread User) (subscription : SubId) (after : After)
      (here : state.calls thread = .unlocking subscription after) :
      CallMove state (.unlockCancel thread subscription after) thread
        (after.point subscription)
  | throws (thread : Thread User) (subscription : SubId) (after : After)
      (here : state.calls thread = .joining subscription after)
      (own : thread = .reader subscription) :
      CallMove state (.joinThrows thread subscription after) thread
        (.unwinding subscription after)
  | unwinds (thread : Thread User) (subscription : SubId) (after : After)
      (here : state.calls thread = .unwinding subscription after)
      (throws : after.throws = true) :
      CallMove state (.unwindCancel thread subscription after) thread
        (after.thrown subscription)
  | escapes (thread : Thread User) (subscription : SubId)
      (here : state.calls thread = .escaping subscription) :
      CallMove state (.escape thread subscription) thread .idle
  | transfers (thread : Thread User) (subscription : SubId) (target source : Handle)
      (here : state.calls thread = .transferring subscription target source) :
      CallMove state (.transfer thread subscription target source) thread
        (.dropping subscription none)
  | dropsLast (thread : Thread User) (subscription : SubId) (rest : Option (List SubId))
      (here : state.calls thread = .dropping subscription rest)
      (last : (state.impls subscription).owners.erase (.call thread) = []) :
      CallMove state (.drop thread subscription rest) thread
        (.lockingCancel subscription (.destroying rest))
  | drops (thread : Thread User) (subscription : SubId) (rest : Option (List SubId))
      (here : state.calls thread = .dropping subscription rest) :
      CallMove state (.drop thread subscription rest) thread (.resumed rest)
  | disconnects (thread : Thread User) (free : state.Free thread) :
      CallMove state (.disconnect thread) thread .entering
  | enters (thread : Thread User) (here : state.calls thread = .entering)
      (free : state.subMutex = none) :
      CallMove state (.enter thread) thread (.walking state.subscriptions)
  | skips (thread : Thread User) (subscription : SubId) (rest : List SubId)
      (here : state.calls thread = .walking (subscription :: rest)) :
      CallMove state (.walk thread subscription rest) thread (.walking rest)
  | walks (thread : Thread User) (subscription : SubId) (rest : List SubId)
      (here : state.calls thread = .walking (subscription :: rest))
      (alive : (state.impls subscription).owners ≠ []) :
      CallMove state (.walk thread subscription rest) thread
        (.lockingCancel subscription (.walking rest))
  | leaves (thread : Thread User) (here : state.calls thread = .walking []) :
      CallMove state (.leave thread) thread .idle

variable {state next : State User} {action : Action User}

namespace ImplMove

theorem of_update {changed : SubId} {own : Impl User} (mine : ImplMove state action changed own)
    (subscription : SubId) :
    ImplMove state action subscription (Function.update state.impls changed own subscription) := by
  by_cases same : subscription = changed
  · subst same
    rw [Function.update_self]
    exact mine
  · rw [Function.update_of_ne same]
    exact .still action subscription

theorem along_edge {changed : SubId} {point : ReaderPoint}
    (edge : Edge state changed action (state.impls changed).point point) (subscription : SubId) :
    ImplMove state action subscription ((state.setPoint changed point).impls subscription) :=
  of_update (.goes action changed point edge) subscription

theorem of_transfer (handling : action.handling = true) (target source : Handle)
    (subscription : SubId) :
    ImplMove state action subscription ((state.transfer target source).impls subscription) := by
  unfold State.transfer
  split
  · rename_i moved found
    exact of_update (.transfers action moved target source handling found) subscription
  · exact .still action subscription

theorem of_take_out (handling : action.handling = true) {thread : Thread User} {handle : Handle}
    {taken : SubId} (mine : state.handles handle = some taken) (subscription : SubId) :
    ImplMove state action subscription
      ((state.takeOut thread handle taken).impls subscription) :=
  of_update (.takesOut action thread taken handle handling mine) subscription

end ImplMove

theorem step_impls (taken : step state action = some next) (subscription : SubId) :
    ImplMove state action subscription (next.impls subscription) := by
  cases action with
  | testActive own =>
      obtain ⟨here, rfl⟩ := (guarded_eq_some ..).mp taken
      exact ImplMove.along_edge (by rw [here]; exact .testActive) subscription
  | socketFails own =>
      obtain ⟨here, rfl⟩ := (guarded_eq_some ..).mp taken
      exact ImplMove.along_edge (by rw [here]; exact .socketFails) subscription
  | socketOpens own fd =>
      obtain ⟨⟨here, free⟩, rfl⟩ := (guarded_eq_some ..).mp taken
      have edge : Edge state own (.socketOpens own fd) (state.impls own).point
          (.handshaking fd) := by
        rw [here]
        exact .socketOpens fd free
      exact ImplMove.along_edge edge subscription
  | handshakeFails own fd =>
      obtain ⟨here, rfl⟩ := (guarded_eq_some ..).mp taken
      exact ImplMove.along_edge (by rw [here]; exact .handshakeFails fd) subscription
  | handshakeRejected own fd =>
      obtain ⟨here, rfl⟩ := (guarded_eq_some ..).mp taken
      exact ImplMove.along_edge (by rw [here]; exact .handshakeRejected fd) subscription
  | handshakeDone own fd =>
      obtain ⟨here, rfl⟩ := (guarded_eq_some ..).mp taken
      exact ImplMove.along_edge (by rw [here]; exact .handshakeDone fd) subscription
  | abandon own fd rejected =>
      obtain ⟨here, rfl⟩ := (guarded_eq_some ..).mp taken
      have edge : Edge state own (.abandon own fd rejected) (state.impls own).point
          (.failed rejected) := by
        rw [here]
        exact .abandon fd rejected
      exact ImplMove.along_edge edge subscription
  | testFailed own rejected =>
      obtain ⟨here, rfl⟩ := (guarded_eq_some ..).mp taken
      exact ImplMove.along_edge (by rw [here]; exact .testFailed rejected) subscription
  | storeRejected own =>
      obtain ⟨here, rfl⟩ := (guarded_eq_some ..).mp taken
      exact .of_update (.rejects own here) subscription
  | storeFd own fd =>
      obtain ⟨here, rfl⟩ := (guarded_eq_some ..).mp taken
      exact .of_update (.stores own fd here) subscription
  | pollActive own fd =>
      obtain ⟨here, rfl⟩ := (guarded_eq_some ..).mp taken
      exact ImplMove.along_edge (by rw [here]; exact .pollActive fd) subscription
  | readFails own fd =>
      obtain ⟨here, rfl⟩ := (guarded_eq_some ..).mp taken
      exact ImplMove.along_edge (by rw [here]; exact .readFails fd) subscription
  | eventArrives own fd =>
      obtain ⟨here, rfl⟩ := (guarded_eq_some ..).mp taken
      exact ImplMove.along_edge (by rw [here]; exact .eventArrives fd) subscription
  | callbackReturns own fd =>
      obtain ⟨⟨here, idle⟩, rfl⟩ := (guarded_eq_some ..).mp taken
      exact ImplMove.along_edge (by rw [here]; exact .callbackReturns fd idle) subscription
  | clearFd own fd =>
      obtain ⟨here, rfl⟩ := (guarded_eq_some ..).mp taken
      exact .of_update (.clears own fd here) subscription
  | closeFd own fd =>
      obtain ⟨here, rfl⟩ := (guarded_eq_some ..).mp taken
      have edge : Edge state own (.closeFd own fd) (state.impls own).point .retesting := by
        rw [here]
        exact .closeFd fd
      exact ImplMove.along_edge edge subscription
  | retest own =>
      obtain ⟨here, rfl⟩ := (guarded_eq_some ..).mp taken
      exact ImplMove.along_edge (by rw [here]; exact .retest) subscription
  | sleepEnds own =>
      obtain ⟨here, rfl⟩ := (guarded_eq_some ..).mp taken
      exact ImplMove.along_edge (by rw [here]; exact .sleepEnds) subscription
  | finish own =>
      obtain ⟨here, rfl⟩ := (guarded_eq_some ..).mp taken
      exact .of_update (.finishes own here) subscription
  | subscribe thread hasCallback =>
      obtain ⟨-, rfl⟩ := (guarded_eq_some ..).mp taken
      exact ImplMove.of_update (.created thread hasCallback) subscription
  | start thread own =>
      obtain ⟨here, rfl⟩ := (guarded_eq_some ..).mp taken
      exact ImplMove.of_update (.starts thread own here) subscription
  | assign thread own =>
      obtain ⟨here, rfl⟩ := (guarded_eq_some ..).mp taken
      exact ImplMove.of_update (.assigns thread own here) subscription
  | handOver thread own handle =>
      obtain ⟨⟨here, free⟩, rfl⟩ := (guarded_eq_some ..).mp taken
      exact ImplMove.of_update (.hands thread own handle here free) subscription
  | move thread target source =>
      obtain ⟨-, rfl⟩ := (guarded_eq_some ..).mp taken
      exact .of_transfer rfl target source subscription
  | cancel thread handle =>
      obtain ⟨-, rfl⟩ := (guarded_eq_some ..).mp taken
      split <;> exact .still _ subscription
  | release thread handle =>
      obtain ⟨-, rfl⟩ := (guarded_eq_some ..).mp taken
      split
      · rename_i found
        exact ImplMove.of_take_out rfl found subscription
      · exact .still _ subscription
  | replace thread target source =>
      obtain ⟨-, rfl⟩ := (guarded_eq_some ..).mp taken
      split
      · exact .still _ subscription
      · split
        · rename_i found
          exact ImplMove.of_take_out rfl found subscription
        · exact .of_transfer rfl target source subscription
  | lockCancel thread own after =>
      obtain ⟨⟨here, free⟩, rfl⟩ := (guarded_eq_some ..).mp taken
      exact ImplMove.of_update (.locks thread own after here free) subscription
  | exchangeActive thread own after =>
      obtain ⟨here, rfl⟩ := (guarded_eq_some ..).mp taken
      split
      · exact ImplMove.of_update (.deactivates thread own after here) subscription
      · exact .still _ subscription
  | exchangeFd thread own after =>
      obtain ⟨here, rfl⟩ := (guarded_eq_some ..).mp taken
      exact ImplMove.of_update (.takesFd thread own after here) subscription
  | join thread own after =>
      obtain ⟨⟨here, ended⟩, rfl⟩ := (guarded_eq_some ..).mp taken
      exact ImplMove.of_update (.joins thread own after here ended) subscription
  | unlockCancel thread own after =>
      obtain ⟨here, rfl⟩ := (guarded_eq_some ..).mp taken
      exact ImplMove.of_update (.unlocks thread own after here) subscription
  | unwindCancel thread own after =>
      obtain ⟨⟨here, -⟩, rfl⟩ := (guarded_eq_some ..).mp taken
      exact ImplMove.of_update (.unwinds thread own after here) subscription
  | escape thread own =>
      obtain ⟨⟨here, -⟩, rfl⟩ := (guarded_eq_some ..).mp taken
      exact ImplMove.of_update (.escapes thread own here) subscription
  | transfer thread own target source =>
      obtain ⟨-, rfl⟩ := (guarded_eq_some ..).mp taken
      exact ImplMove.of_transfer rfl target source subscription
  | drop thread own rest =>
      obtain ⟨here, rfl⟩ := (guarded_eq_some ..).mp taken
      exact ImplMove.of_update (.drops thread own rest here) subscription
  | walk thread own rest =>
      obtain ⟨here, rfl⟩ := (guarded_eq_some ..).mp taken
      split
      · exact .still _ subscription
      · rename_i alive
        exact ImplMove.of_update (.walks thread own rest here alive) subscription
  | _ =>
      obtain ⟨-, rfl⟩ := (guarded_eq_some ..).mp taken
      exact .still _ subscription

theorem CallMove.of_update {mover : Thread User} {point : CallPoint}
    (mine : CallMove state action mover point) (acts : action.caller = some mover)
    (thread : Thread User) :
    CallMove state action thread (Function.update state.calls mover point thread) := by
  by_cases same : thread = mover
  · subst same
    rw [Function.update_self]
    exact mine
  · rw [Function.update_of_ne same]
    exact .still action thread (by simpa [acts] using Ne.symm same)

theorem State.calls_transfer (state : State User) (target source : Handle) :
    (state.transfer target source).calls = state.calls := by
  unfold State.transfer
  split <;> rfl

/-- A call that ends where it began. -/
theorem CallMove.idle {mover : Thread User} (free : state.calls mover = .idle)
    (acts : action.caller = some mover) (thread : Thread User) :
    CallMove state action thread (state.calls thread) := by
  by_cases same : thread = mover
  · subst same
    rw [free]
    exact .rests action thread free
  · exact .still action thread (by simpa [acts] using Ne.symm same)

theorem step_calls (taken : step state action = some next) (thread : Thread User) :
    CallMove state action thread (next.calls thread) := by
  cases action with
  | subscribe mover hasCallback =>
      obtain ⟨free, rfl⟩ := (guarded_eq_some ..).mp taken
      exact CallMove.of_update (.subscribes mover hasCallback free) rfl thread
  | register mover own =>
      obtain ⟨⟨here, free⟩, rfl⟩ := (guarded_eq_some ..).mp taken
      exact CallMove.of_update (.registers mover own here free) rfl thread
  | push mover own =>
      obtain ⟨here, rfl⟩ := (guarded_eq_some ..).mp taken
      exact CallMove.of_update (.pushes mover own here) rfl thread
  | start mover own =>
      obtain ⟨here, rfl⟩ := (guarded_eq_some ..).mp taken
      exact CallMove.of_update (.starts mover own here) rfl thread
  | assign mover own =>
      obtain ⟨here, rfl⟩ := (guarded_eq_some ..).mp taken
      exact CallMove.of_update (.assigns mover own here) rfl thread
  | handOver mover own handle =>
      obtain ⟨⟨here, -⟩, rfl⟩ := (guarded_eq_some ..).mp taken
      exact CallMove.of_update (.hands mover own handle here) rfl thread
  | move mover target source =>
      obtain ⟨⟨free, -⟩, rfl⟩ := (guarded_eq_some ..).mp taken
      rw [State.calls_transfer]
      exact .idle free.1 rfl thread
  | cancel mover handle =>
      obtain ⟨free, rfl⟩ := (guarded_eq_some ..).mp taken
      split
      · rename_i own found
        exact CallMove.of_update (.cancels mover own handle free found) rfl thread
      · exact .idle free.1 rfl thread
  | release mover handle =>
      obtain ⟨free, rfl⟩ := (guarded_eq_some ..).mp taken
      split
      · rename_i own found
        exact CallMove.of_update (.releases mover own handle free found) rfl thread
      · exact .idle free.1 rfl thread
  | replace mover target source =>
      obtain ⟨free, rfl⟩ := (guarded_eq_some ..).mp taken
      split
      · exact .idle free.1 rfl thread
      · split
        · rename_i own found
          exact CallMove.of_update (.replaces mover own target source free found) rfl thread
        · rw [State.calls_transfer]
          exact .idle free.1 rfl thread
  | lockCancel mover own after =>
      obtain ⟨⟨here, free⟩, rfl⟩ := (guarded_eq_some ..).mp taken
      exact CallMove.of_update (.locks mover own after here free) rfl thread
  | exchangeActive mover own after =>
      obtain ⟨here, rfl⟩ := (guarded_eq_some ..).mp taken
      split
      · rename_i on
        exact CallMove.of_update (.deactivates mover own after here on) rfl thread
      · rename_i off
        exact CallMove.of_update (.finds mover own after here (by simpa using off)) rfl thread
  | exchangeFd mover own after =>
      obtain ⟨here, rfl⟩ := (guarded_eq_some ..).mp taken
      apply CallMove.of_update _ rfl thread
      split
      · rename_i fd stored
        exact .takesFd mover own fd after here stored
      · rename_i none
        exact .takesNone mover own after here none
  | shutdown mover own fd after =>
      obtain ⟨here, rfl⟩ := (guarded_eq_some ..).mp taken
      exact CallMove.of_update (.shuts mover own fd after here) rfl thread
  | testJoinable mover own after =>
      obtain ⟨here, rfl⟩ := (guarded_eq_some ..).mp taken
      apply CallMove.of_update _ rfl thread
      split
      · rename_i joinable
        exact .readies mover own after here joinable
      · rename_i unjoinable
        exact .spares mover own after here unjoinable
  | join mover own after =>
      obtain ⟨⟨here, ended⟩, rfl⟩ := (guarded_eq_some ..).mp taken
      exact CallMove.of_update (.joins mover own after here ended) rfl thread
  | unlockCancel mover own after =>
      obtain ⟨here, rfl⟩ := (guarded_eq_some ..).mp taken
      exact CallMove.of_update (.unlocks mover own after here) rfl thread
  | joinThrows mover own after =>
      obtain ⟨⟨here, reader⟩, rfl⟩ := (guarded_eq_some ..).mp taken
      exact CallMove.of_update (.throws mover own after here reader) rfl thread
  | unwindCancel mover own after =>
      obtain ⟨⟨here, throws⟩, rfl⟩ := (guarded_eq_some ..).mp taken
      exact CallMove.of_update (.unwinds mover own after here throws) rfl thread
  | escape mover own =>
      obtain ⟨⟨here, -⟩, rfl⟩ := (guarded_eq_some ..).mp taken
      exact CallMove.of_update (.escapes mover own here) rfl thread
  | transfer mover own target source =>
      obtain ⟨⟨here, -⟩, rfl⟩ := (guarded_eq_some ..).mp taken
      simp only [State.setCall, State.calls_transfer]
      exact CallMove.of_update (.transfers mover own target source here) rfl thread
  | drop mover own rest =>
      obtain ⟨here, rfl⟩ := (guarded_eq_some ..).mp taken
      apply CallMove.of_update _ rfl thread
      split
      · rename_i last
        exact .dropsLast mover own rest here last
      · exact .drops mover own rest here
  | disconnect mover =>
      obtain ⟨free, rfl⟩ := (guarded_eq_some ..).mp taken
      exact CallMove.of_update (.disconnects mover free) rfl thread
  | enter mover =>
      obtain ⟨⟨here, free⟩, rfl⟩ := (guarded_eq_some ..).mp taken
      exact CallMove.of_update (.enters mover here free) rfl thread
  | walk mover own rest =>
      obtain ⟨here, rfl⟩ := (guarded_eq_some ..).mp taken
      split
      · exact CallMove.of_update (.skips mover own rest here) rfl thread
      · rename_i alive
        exact CallMove.of_update (.walks mover own rest here alive) rfl thread
  | leave mover =>
      obtain ⟨here, rfl⟩ := (guarded_eq_some ..).mp taken
      exact CallMove.of_update (.leaves mover here) rfl thread
  | _ =>
      obtain ⟨-, rfl⟩ := (guarded_eq_some ..).mp taken
      exact .still _ thread nofun

theorem State.descriptors_transfer (state : State User) (target source : Handle) :
    (state.transfer target source).descriptors = state.descriptors := by
  unfold State.transfer
  split <;> rfl

theorem step_files (taken : step state action = some next) (fd : Fd) :
    FileMove state action fd (next.descriptors fd) := by
  cases action with
  | socketOpens own opened =>
      obtain ⟨⟨-, free⟩, rfl⟩ := (guarded_eq_some ..).mp taken
      exact FileMove.of_update (.opens own opened free) fd
  | abandon own closed rejected =>
      obtain ⟨here, rfl⟩ := (guarded_eq_some ..).mp taken
      exact FileMove.of_update (.abandons own closed rejected here) fd
  | closeFd own closed =>
      obtain ⟨here, rfl⟩ := (guarded_eq_some ..).mp taken
      exact FileMove.of_update (.closes own closed here) fd
  | openOther opened =>
      obtain ⟨free, rfl⟩ := (guarded_eq_some ..).mp taken
      exact FileMove.of_update (.otherOpens opened free) fd
  | closeOther closed =>
      obtain ⟨here, rfl⟩ := (guarded_eq_some ..).mp taken
      exact FileMove.of_update (.otherCloses closed here) fd
  | move mover target source =>
      obtain ⟨-, rfl⟩ := (guarded_eq_some ..).mp taken
      rw [State.descriptors_transfer]
      exact .still _ fd
  | transfer mover own target source =>
      obtain ⟨-, rfl⟩ := (guarded_eq_some ..).mp taken
      simp only [State.setCall, State.descriptors_transfer]
      exact .still _ fd
  | cancel | release | exchangeActive | walk =>
      obtain ⟨-, rfl⟩ := (guarded_eq_some ..).mp taken
      split <;> exact .still _ fd
  | replace mover target source =>
      obtain ⟨-, rfl⟩ := (guarded_eq_some ..).mp taken
      split
      · exact .still _ fd
      · split
        · exact .still _ fd
        · rw [State.descriptors_transfer]
          exact .still _ fd
  | _ =>
      obtain ⟨-, rfl⟩ := (guarded_eq_some ..).mp taken
      exact .still _ fd

/-- What an action can make of `m_subMutex` and of `m_subscriptions`. -/
inductive ListMove (state : State User) :
    Action User → Option (Thread User) → List SubId → Prop
  | still (action : Action User) (aside : action.lists = false) :
      ListMove state action state.subMutex state.subscriptions
  | registers (thread : Thread User) (subscription : SubId)
      (here : state.calls thread = .registering subscription) (free : state.subMutex = none) :
      ListMove state (.register thread subscription) (some thread) state.subscriptions
  | pushes (thread : Thread User) (subscription : SubId)
      (here : state.calls thread = .pushing subscription) :
      ListMove state (.push thread subscription) none (state.subscriptions ++ [subscription])
  | enters (thread : Thread User) (here : state.calls thread = .entering)
      (free : state.subMutex = none) :
      ListMove state (.enter thread) (some thread) state.subscriptions
  | leaves (thread : Thread User) (here : state.calls thread = .walking []) :
      ListMove state (.leave thread) none []
  | escapes (thread : Thread User) (subscription : SubId)
      (here : state.calls thread = .escaping subscription) :
      ListMove state (.escape thread subscription) none state.subscriptions

/-- A step keeps the list of subscriptions, or the handles, if it does not concern them. -/
structure Bystander (state next : State User) (action : Action User) : Prop where
  subMutex : action.lists = false → next.subMutex = state.subMutex
  subscriptions : action.lists = false → next.subscriptions = state.subscriptions
  handles : action.handling = false → next.handles = state.handles
  recent : next.nextSub = state.nextSub ∨
    ∃ thread hasCallback, action = .subscribe thread hasCallback

theorem Bystander.of_transfer {state next : State User} {action : Action User}
    {target source : Handle} (handling : action.handling = true)
    (lists : next.subMutex = (state.transfer target source).subMutex ∧
      next.subscriptions = (state.transfer target source).subscriptions ∧
      next.nextSub = (state.transfer target source).nextSub) : Bystander state next action := by
  obtain ⟨subMutex, subscriptions, recent⟩ := lists
  have same : (state.transfer target source).subMutex = state.subMutex ∧
      (state.transfer target source).subscriptions = state.subscriptions ∧
      (state.transfer target source).nextSub = state.nextSub := by
    unfold State.transfer
    split <;> exact ⟨rfl, rfl, rfl⟩
  refine ⟨fun _ => subMutex.trans same.1, fun _ => subscriptions.trans same.2.1, ?_,
    Or.inl (recent.trans same.2.2)⟩
  intro other
  rw [handling] at other
  cases other

theorem step_bystander (taken : step state action = some next) : Bystander state next action := by
  cases action with
  | subscribe mover hasCallback =>
      obtain ⟨-, rfl⟩ := (guarded_eq_some ..).mp taken
      exact ⟨fun _ => rfl, fun _ => rfl, fun _ => rfl, Or.inr ⟨mover, hasCallback, rfl⟩⟩
  | register | push | enter | leave | escape =>
      obtain ⟨-, rfl⟩ := (guarded_eq_some ..).mp taken
      exact ⟨nofun, nofun, fun _ => rfl, Or.inl rfl⟩
  | handOver =>
      obtain ⟨-, rfl⟩ := (guarded_eq_some ..).mp taken
      exact ⟨fun _ => rfl, fun _ => rfl, nofun, Or.inl rfl⟩
  | release mover handle =>
      obtain ⟨-, rfl⟩ := (guarded_eq_some ..).mp taken
      split <;> exact ⟨fun _ => rfl, fun _ => rfl, nofun, Or.inl rfl⟩
  | move mover target source =>
      obtain ⟨-, rfl⟩ := (guarded_eq_some ..).mp taken
      exact .of_transfer rfl ⟨rfl, rfl, rfl⟩
  | transfer mover own target source =>
      obtain ⟨-, rfl⟩ := (guarded_eq_some ..).mp taken
      exact .of_transfer rfl ⟨rfl, rfl, rfl⟩
  | replace mover target source =>
      obtain ⟨-, rfl⟩ := (guarded_eq_some ..).mp taken
      split
      · exact ⟨fun _ => rfl, fun _ => rfl, nofun, Or.inl rfl⟩
      · split
        · exact ⟨fun _ => rfl, fun _ => rfl, nofun, Or.inl rfl⟩
        · exact .of_transfer rfl ⟨rfl, rfl, rfl⟩
  | cancel | exchangeActive | walk =>
      obtain ⟨-, rfl⟩ := (guarded_eq_some ..).mp taken
      split <;> exact ⟨fun _ => rfl, fun _ => rfl, fun _ => rfl, Or.inl rfl⟩
  | _ =>
      obtain ⟨-, rfl⟩ := (guarded_eq_some ..).mp taken
      exact ⟨fun _ => rfl, fun _ => rfl, fun _ => rfl, Or.inl rfl⟩

theorem HandleMove.of_transfer (target source handle : Handle) :
    HandleMove state action handle ((state.transfer target source).handles handle) := by
  unfold State.transfer
  split
  · rename_i moved found
    dsimp only
    by_cases given : handle = target
    · rw [given, Function.update_self]
      exact .moves action target source moved found
    · rw [Function.update_of_ne given]
      exact HandleMove.of_update (.empties action source) handle
  · exact .still action handle

theorem step_handles (taken : step state action = some next) (handle : Handle) :
    HandleMove state action handle (next.handles handle) := by
  have bystander := step_bystander taken
  cases action with
  | handOver mover own given =>
      obtain ⟨⟨here, free⟩, rfl⟩ := (guarded_eq_some ..).mp taken
      exact HandleMove.of_update (.hands mover own given here free) handle
  | move mover target source =>
      obtain ⟨-, rfl⟩ := (guarded_eq_some ..).mp taken
      exact .of_transfer target source handle
  | transfer mover own target source =>
      obtain ⟨-, rfl⟩ := (guarded_eq_some ..).mp taken
      exact .of_transfer target source handle
  | release mover released =>
      obtain ⟨-, rfl⟩ := (guarded_eq_some ..).mp taken
      split
      · exact HandleMove.of_update (.empties _ released) handle
      · exact .still _ handle
  | replace mover target source =>
      obtain ⟨-, rfl⟩ := (guarded_eq_some ..).mp taken
      split
      · exact .still _ handle
      · split
        · exact HandleMove.of_update (.empties _ target) handle
        · exact .of_transfer target source handle
  | _ =>
      rw [bystander.handles rfl]
      exact .still _ handle

theorem step_lists (taken : step state action = some next) :
    ListMove state action next.subMutex next.subscriptions := by
  have bystander := step_bystander taken
  cases action with
  | register mover own =>
      obtain ⟨⟨here, free⟩, rfl⟩ := (guarded_eq_some ..).mp taken
      exact .registers mover own here free
  | push mover own =>
      obtain ⟨here, rfl⟩ := (guarded_eq_some ..).mp taken
      exact .pushes mover own here
  | enter mover =>
      obtain ⟨⟨here, free⟩, rfl⟩ := (guarded_eq_some ..).mp taken
      exact .enters mover here free
  | leave mover =>
      obtain ⟨here, rfl⟩ := (guarded_eq_some ..).mp taken
      exact .leaves mover here
  | escape mover own =>
      obtain ⟨⟨here, -⟩, rfl⟩ := (guarded_eq_some ..).mp taken
      exact .escapes mover own here
  | _ =>
      rw [bystander.subMutex rfl, bystander.subscriptions rfl]
      exact .still _ rfl

end TboxFramework.Ipc.Subscription

import TboxFramework.Library.Interleaving

/-!
# Subscriptions of a client

Every `Subscription::Impl` has a reader thread in `runLoop`. Any number of threads
of the program, and the reader threads themselves from inside an event callback,
call `subscribe`, `disconnect` and `cancel`, and move and destroy handles. An
operation on an atomic, a system call, and a lock or an unlock of a mutex are one
step each. The kernel may give a closed descriptor number to whoever opens one next.
-/

namespace TboxFramework.Ipc.Subscription

open Interleaving

set_option autoImplicit false

abbrev Fd := Nat

/-- One `Subscription::Impl`. -/
abbrev SubId := Nat

/-- One variable of type `Subscription`. -/
abbrev Handle := Nat

inductive Thread (User : Type)
  | user (user : User)
  | reader (subscription : SubId)
  deriving DecidableEq, Repr

/-- What is behind a descriptor number: the socket of a subscription, or something
that another part of the process has opened. -/
inductive File
  | socket (subscription : SubId)
  | other
  deriving DecidableEq, Repr

/-- The program points of `runLoop`, `doConnectAndSubscribe` and `eventLoop`. -/
inductive ReaderPoint
  | unborn
  | testing
  | opening
  | handshaking (fd : Fd)
  | abandoning (fd : Fd) (rejected : Bool)
  | failed (rejected : Bool)
  | rejecting
  | storing (fd : Fd)
  | polling (fd : Fd)
  | reading (fd : Fd)
  | inCallback (fd : Fd)
  | clearing (fd : Fd)
  | closing (fd : Fd)
  | retesting
  | sleeping
  | finishing
  | done
  deriving DecidableEq, Repr

/-- What `m_thread` holds. -/
inductive ThreadStatus
  | absent
  | spawned
  | joinable
  | joined
  deriving DecidableEq, Repr

/-- Who holds a `shared_ptr` to an `Impl`: a handle, or a call that has one of its
own. -/
inductive Owner (User : Type)
  | handle (handle : Handle)
  | call (thread : Thread User)
  deriving DecidableEq, Repr

structure Impl (User : Type) where
  active : Bool
  fd : Option Fd
  cancelMutex : Option (Thread User)
  thread : ThreadStatus
  point : ReaderPoint
  hasCallback : Bool
  owners : List (Owner User)
  destroyed : Bool
  deriving DecidableEq, Repr

/-- What follows a `cancel`: the return to the caller, the release of a handle's
`shared_ptr`, the rest of an assignment to a handle, the rest of a `disconnect`, or
the end of the `Impl`, which may itself be a part of a `disconnect`. -/
inductive After
  | returning
  | releasing
  | replacing (target source : Handle)
  | walking (rest : List SubId)
  | destroying (rest : Option (List SubId))
  deriving DecidableEq, Repr

/-- Where a thread is in a call of the API. -/
inductive CallPoint
  | idle
  | registering (subscription : SubId)
  | pushing (subscription : SubId)
  | starting (subscription : SubId)
  | assigning (subscription : SubId)
  | handing (subscription : SubId)
  | lockingCancel (subscription : SubId) (after : After)
  | exchangingActive (subscription : SubId) (after : After)
  | exchangingFd (subscription : SubId) (after : After)
  | shuttingDown (subscription : SubId) (fd : Fd) (after : After)
  | testingJoinable (subscription : SubId) (after : After)
  | joining (subscription : SubId) (after : After)
  | unlocking (subscription : SubId) (after : After)
  /-- The `join` has thrown. -/
  | unwinding (subscription : SubId) (after : After)
  /-- The exception is on its way out of a `disconnect`. -/
  | escaping (subscription : SubId)
  | transferring (subscription : SubId) (target source : Handle)
  | dropping (subscription : SubId) (rest : Option (List SubId))
  | entering
  | walking (rest : List SubId)
  deriving DecidableEq, Repr

structure State (User : Type) where
  impls : SubId → Impl User
  nextSub : SubId
  handles : Handle → Option SubId
  subMutex : Option (Thread User)
  subscriptions : List SubId
  calls : Thread User → CallPoint
  descriptors : Fd → Option File

inductive Action (User : Type)
  | testActive (subscription : SubId)
  | socketFails (subscription : SubId)
  | socketOpens (subscription : SubId) (fd : Fd)
  | handshakeFails (subscription : SubId) (fd : Fd)
  | handshakeRejected (subscription : SubId) (fd : Fd)
  | handshakeDone (subscription : SubId) (fd : Fd)
  | abandon (subscription : SubId) (fd : Fd) (rejected : Bool)
  | testFailed (subscription : SubId) (rejected : Bool)
  | storeRejected (subscription : SubId)
  | storeFd (subscription : SubId) (fd : Fd)
  | pollActive (subscription : SubId) (fd : Fd)
  | readFails (subscription : SubId) (fd : Fd)
  | eventArrives (subscription : SubId) (fd : Fd)
  | callbackReturns (subscription : SubId) (fd : Fd)
  | clearFd (subscription : SubId) (fd : Fd)
  | closeFd (subscription : SubId) (fd : Fd)
  | retest (subscription : SubId)
  | sleepEnds (subscription : SubId)
  | finish (subscription : SubId)
  | subscribe (thread : Thread User) (hasCallback : Bool)
  | register (thread : Thread User) (subscription : SubId)
  | push (thread : Thread User) (subscription : SubId)
  | start (thread : Thread User) (subscription : SubId)
  | assign (thread : Thread User) (subscription : SubId)
  | handOver (thread : Thread User) (subscription : SubId) (handle : Handle)
  | move (thread : Thread User) (target source : Handle)
  | cancel (thread : Thread User) (handle : Handle)
  | release (thread : Thread User) (handle : Handle)
  | replace (thread : Thread User) (target source : Handle)
  | lockCancel (thread : Thread User) (subscription : SubId) (after : After)
  | exchangeActive (thread : Thread User) (subscription : SubId) (after : After)
  | exchangeFd (thread : Thread User) (subscription : SubId) (after : After)
  | shutdown (thread : Thread User) (subscription : SubId) (fd : Fd) (after : After)
  | testJoinable (thread : Thread User) (subscription : SubId) (after : After)
  | join (thread : Thread User) (subscription : SubId) (after : After)
  | joinThrows (thread : Thread User) (subscription : SubId) (after : After)
  | unlockCancel (thread : Thread User) (subscription : SubId) (after : After)
  | unwindCancel (thread : Thread User) (subscription : SubId) (after : After)
  | escape (thread : Thread User) (subscription : SubId)
  | transfer (thread : Thread User) (subscription : SubId) (target source : Handle)
  | drop (thread : Thread User) (subscription : SubId) (rest : Option (List SubId))
  | disconnect (thread : Thread User)
  | enter (thread : Thread User)
  | walk (thread : Thread User) (subscription : SubId) (rest : List SubId)
  | leave (thread : Thread User)
  | openOther (fd : Fd)
  | closeOther (fd : Fd)
  deriving DecidableEq, Repr

variable {User : Type}

/-- An `Impl` as its constructor leaves it. -/
def Impl.created (hasCallback : Bool) (owners : List (Owner User)) : Impl User where
  active := true
  fd := none
  cancelMutex := none
  thread := .absent
  point := .unborn
  hasCallback := hasCallback
  owners := owners
  destroyed := false

def initial : State User where
  impls := fun _ => .created false []
  nextSub := 0
  handles := fun _ => none
  subMutex := none
  subscriptions := []
  calls := fun _ => .idle
  descriptors := fun _ => none

/-- The point after a call has released its `shared_ptr`. -/
def CallPoint.resumed : Option (List SubId) → CallPoint
  | none => .idle
  | some rest => .walking rest

/-- The point after a `cancel` of this subscription. -/
def After.point (subscription : SubId) : After → CallPoint
  | .returning => .idle
  | .releasing => .dropping subscription none
  | .replacing target source => .transferring subscription target source
  | .walking rest => .dropping subscription (some rest)
  | .destroying rest => .resumed rest

/-- An exception can leave the caller of this `cancel`: a destructor and the assignment to a
handle end the process. -/
def After.throws : After → Bool
  | .returning | .walking _ => true
  | .releasing | .replacing _ _ | .destroying _ => false

/-- The point to which an exception of a `cancel` of this subscription leads. -/
def After.thrown (subscription : SubId) : After → CallPoint
  | .walking _ => .escaping subscription
  | _ => .idle

def After.destroys : After → Bool
  | .destroying _ => true
  | _ => false

def ReaderPoint.calling : ReaderPoint → Bool
  | .inCallback _ => true
  | _ => false

namespace State

def modify (state : State User) (subscription : SubId) (change : Impl User → Impl User) :
    State User :=
  { state with
    impls := Function.update state.impls subscription (change (state.impls subscription)) }

def setPoint (state : State User) (subscription : SubId) (point : ReaderPoint) : State User :=
  state.modify subscription fun own => { own with point := point }

/-- A thread may call the API when it is not in a call, a reader thread only inside
its callback. -/
def mayCall (state : State User) : Thread User → Bool
  | .user _ => true
  | .reader subscription => (state.impls subscription).point.calling

def closed (state : State User) (fd : Fd) : State User :=
  { state with descriptors := Function.update state.descriptors fd none }

variable [DecidableEq User]

def setCall (state : State User) (thread : Thread User) (point : CallPoint) : State User :=
  { state with calls := Function.update state.calls thread point }

def Free (state : State User) (thread : Thread User) : Prop :=
  state.calls thread = .idle ∧ state.mayCall thread = true

instance (state : State User) (thread : Thread User) : Decidable (state.Free thread) :=
  inferInstanceAs (Decidable (_ ∧ _))

/-- A `shared_ptr` changes its owner. -/
def reown (state : State User) (subscription : SubId) (old new : Owner User) : State User :=
  state.modify subscription fun own => { own with owners := new :: own.owners.erase old }

/-- The move of a `shared_ptr` from one variable to another, which is empty. -/
def transfer (state : State User) (target source : Handle) : State User :=
  match state.handles source with
  | some subscription =>
      { state.reown subscription (.handle source) (.handle target) with
        handles := Function.update (Function.update state.handles source none) target
          (some subscription) }
  | none => state

/-- A call takes the `shared_ptr` out of a variable whose life ends, or which is
about to get another one; nobody else may use the variable meanwhile. -/
def takeOut (state : State User) (thread : Thread User) (handle : Handle)
    (subscription : SubId) : State User :=
  { state.reown subscription (.handle handle) (.call thread) with
    handles := Function.update state.handles handle none }

end State

variable [DecidableEq User]

def step (state : State User) : Action User → Option (State User)
  | .testActive subscription =>
      guarded ((state.impls subscription).point = .testing)
        (state.setPoint subscription
          (if (state.impls subscription).active then .opening else .finishing))
  | .socketFails subscription =>
      guarded ((state.impls subscription).point = .opening)
        (state.setPoint subscription (.failed false))
  | .socketOpens subscription fd =>
      guarded ((state.impls subscription).point = .opening ∧ state.descriptors fd = none)
        (State.setPoint { state with
          descriptors := Function.update state.descriptors fd (some (.socket subscription)) }
          subscription (.handshaking fd))
  | .handshakeFails subscription fd =>
      guarded ((state.impls subscription).point = .handshaking fd)
        (state.setPoint subscription (.abandoning fd false))
  | .handshakeRejected subscription fd =>
      guarded ((state.impls subscription).point = .handshaking fd)
        (state.setPoint subscription (.abandoning fd true))
  | .handshakeDone subscription fd =>
      guarded ((state.impls subscription).point = .handshaking fd)
        (state.setPoint subscription (.storing fd))
  | .abandon subscription fd rejected =>
      guarded ((state.impls subscription).point = .abandoning fd rejected)
        ((state.closed fd).setPoint subscription (.failed rejected))
  | .testFailed subscription rejected =>
      guarded ((state.impls subscription).point = .failed rejected)
        (state.setPoint subscription
          (if (state.impls subscription).active then
            if rejected then .rejecting else .sleeping
          else .finishing))
  | .storeRejected subscription =>
      guarded ((state.impls subscription).point = .rejecting)
        (state.modify subscription fun own => { own with active := false, point := .finishing })
  | .storeFd subscription fd =>
      guarded ((state.impls subscription).point = .storing fd)
        (state.modify subscription fun own => { own with fd := some fd, point := .polling fd })
  | .pollActive subscription fd =>
      guarded ((state.impls subscription).point = .polling fd)
        (state.setPoint subscription
          (if (state.impls subscription).active then .reading fd else .clearing fd))
  | .readFails subscription fd =>
      guarded ((state.impls subscription).point = .reading fd)
        (state.setPoint subscription (.clearing fd))
  | .eventArrives subscription fd =>
      guarded ((state.impls subscription).point = .reading fd)
        (state.setPoint subscription
          (if (state.impls subscription).hasCallback then .inCallback fd else .polling fd))
  | .callbackReturns subscription fd =>
      -- an exception of the callback ends here, too
      guarded ((state.impls subscription).point = .inCallback fd ∧
          state.calls (.reader subscription) = .idle)
        (state.setPoint subscription (.polling fd))
  | .clearFd subscription fd =>
      guarded ((state.impls subscription).point = .clearing fd)
        (state.modify subscription fun own => { own with fd := none, point := .closing fd })
  | .closeFd subscription fd =>
      guarded ((state.impls subscription).point = .closing fd)
        ((state.closed fd).setPoint subscription .retesting)
  | .retest subscription =>
      guarded ((state.impls subscription).point = .retesting)
        (state.setPoint subscription
          (if (state.impls subscription).active then .sleeping else .finishing))
  | .sleepEnds subscription =>
      guarded ((state.impls subscription).point = .sleeping)
        (state.setPoint subscription .testing)
  | .finish subscription =>
      guarded ((state.impls subscription).point = .finishing)
        (state.modify subscription fun own => { own with active := false, point := .done })
  | .subscribe thread hasCallback =>
      guarded (state.Free thread)
        (State.setCall { state with
          impls := Function.update state.impls state.nextSub (.created hasCallback [.call thread])
          nextSub := state.nextSub + 1 } thread (.registering state.nextSub))
  | .register thread subscription =>
      guarded (state.calls thread = .registering subscription ∧ state.subMutex = none)
        (State.setCall { state with subMutex := some thread } thread (.pushing subscription))
  | .push thread subscription =>
      guarded (state.calls thread = .pushing subscription)
        (State.setCall { state with
          subscriptions := state.subscriptions ++ [subscription]
          subMutex := none } thread (.starting subscription))
  | .start thread subscription =>
      -- the reader may run before `m_thread` is assigned
      guarded (state.calls thread = .starting subscription)
        ((state.modify subscription fun own =>
          { own with thread := .spawned, point := .testing }).setCall thread
            (.assigning subscription))
  | .assign thread subscription =>
      guarded (state.calls thread = .assigning subscription)
        ((state.modify subscription fun own => { own with thread := .joinable }).setCall thread
          (.handing subscription))
  | .handOver thread subscription handle =>
      guarded (state.calls thread = .handing subscription ∧ state.handles handle = none)
        (State.setCall { state.reown subscription (.call thread) (.handle handle) with
          handles := Function.update state.handles handle (some subscription) } thread .idle)
  | .move thread target source =>
      guarded (state.Free thread ∧ state.handles target = none) (state.transfer target source)
  | .cancel thread handle =>
      guarded (state.Free thread)
        (match state.handles handle with
        | some subscription => state.setCall thread (.lockingCancel subscription .returning)
        | none => state)
  | .release thread handle =>
      guarded (state.Free thread)
        (match state.handles handle with
        | some subscription =>
            (state.takeOut thread handle subscription).setCall thread
              (.lockingCancel subscription .releasing)
        | none => state)
  | .replace thread target source =>
      guarded (state.Free thread)
        (if target = source then state
        else match state.handles target with
          | some subscription =>
              (state.takeOut thread target subscription).setCall thread
                (.lockingCancel subscription (.replacing target source))
          | none => state.transfer target source)
  | .lockCancel thread subscription after =>
      guarded (state.calls thread = .lockingCancel subscription after ∧
          (state.impls subscription).cancelMutex = none)
        ((state.modify subscription fun own => { own with cancelMutex := some thread }).setCall
          thread (.exchangingActive subscription after))
  | .exchangeActive thread subscription after =>
      guarded (state.calls thread = .exchangingActive subscription after)
        (if (state.impls subscription).active then
          (state.modify subscription fun own => { own with active := false }).setCall thread
            (.exchangingFd subscription after)
        else state.setCall thread (.testingJoinable subscription after))
  | .exchangeFd thread subscription after =>
      guarded (state.calls thread = .exchangingFd subscription after)
        ((state.modify subscription fun own => { own with fd := none }).setCall thread
          (match (state.impls subscription).fd with
          | some fd => .shuttingDown subscription fd after
          | none => .testingJoinable subscription after))
  | .shutdown thread subscription fd after =>
      guarded (state.calls thread = .shuttingDown subscription fd after)
        (state.setCall thread (.testingJoinable subscription after))
  | .testJoinable thread subscription after =>
      guarded (state.calls thread = .testingJoinable subscription after)
        (state.setCall thread
          (if (state.impls subscription).thread = .joinable then .joining subscription after
          else .unlocking subscription after))
  | .join thread subscription after =>
      guarded (state.calls thread = .joining subscription after ∧
          (state.impls subscription).point = .done)
        ((state.modify subscription fun own => { own with thread := .joined }).setCall thread
          (.unlocking subscription after))
  | .joinThrows thread subscription after =>
      -- `std::thread::join` of the calling thread itself
      guarded (state.calls thread = .joining subscription after ∧ thread = .reader subscription)
        (state.setCall thread (.unwinding subscription after))
  | .unlockCancel thread subscription after =>
      guarded (state.calls thread = .unlocking subscription after)
        ((state.modify subscription fun own =>
          { own with cancelMutex := none, destroyed := own.destroyed || after.destroys }).setCall
            thread (after.point subscription))
  | .unwindCancel thread subscription after =>
      -- where the process ends there is no step
      guarded (state.calls thread = .unwinding subscription after ∧ after.throws = true)
        ((state.modify subscription fun own => { own with cancelMutex := none }).setCall thread
          (after.thrown subscription))
  | .escape thread subscription =>
      -- the last `shared_ptr` would run the destructor, which would throw again
      guarded (state.calls thread = .escaping subscription ∧
          (state.impls subscription).owners.erase (.call thread) ≠ [])
        (State.setCall { state.modify subscription fun own =>
            { own with owners := own.owners.erase (.call thread) } with
          subMutex := none } thread .idle)
  | .transfer thread subscription target source =>
      guarded (state.calls thread = .transferring subscription target source ∧
          state.handles target = none)
        ((state.transfer target source).setCall thread (.dropping subscription none))
  | .drop thread subscription rest =>
      guarded (state.calls thread = .dropping subscription rest)
        ((state.modify subscription fun own =>
          { own with owners := own.owners.erase (.call thread) }).setCall thread
            (if (state.impls subscription).owners.erase (.call thread) = [] then
              .lockingCancel subscription (.destroying rest)
            else .resumed rest))
  | .disconnect thread => guarded (state.Free thread) (state.setCall thread .entering)
  | .enter thread =>
      guarded (state.calls thread = .entering ∧ state.subMutex = none)
        (State.setCall { state with subMutex := some thread } thread
          (.walking state.subscriptions))
  | .walk thread subscription rest =>
      guarded (state.calls thread = .walking (subscription :: rest))
        (if (state.impls subscription).owners = [] then state.setCall thread (.walking rest)
        else (state.modify subscription fun own =>
          { own with owners := .call thread :: own.owners }).setCall thread
            (.lockingCancel subscription (.walking rest)))
  | .leave thread =>
      guarded (state.calls thread = .walking [])
        (State.setCall { state with subscriptions := [], subMutex := none } thread .idle)
  | .openOther fd =>
      guarded (state.descriptors fd = none)
        { state with descriptors := Function.update state.descriptors fd (some .other) }
  | .closeOther fd => guarded (state.descriptors fd = some .other) (state.closed fd)

/-- Subscription 0 is in handle 0 and reads events from descriptor 5. -/
def listening : List (Action Unit) :=
  [.subscribe (.user ()) true, .register (.user ()) 0, .push (.user ()) 0, .start (.user ()) 0,
    .assign (.user ()) 0, .handOver (.user ()) 0 0, .testActive 0, .socketOpens 0 5,
    .handshakeDone 0 5, .storeFd 0 5, .pollActive 0 5]

end TboxFramework.Ipc.Subscription

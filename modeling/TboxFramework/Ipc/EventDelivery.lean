import TboxFramework.Ipc.ServerThreads

/-!
# Whom a push reaches

Every call of `push_event` and `push_event_to`, with the connections that had asked for
the event when it looked and what it sent to each of them.
-/

namespace TboxFramework.Ipc.Server

open Interleaving

set_option autoImplicit false

variable {Pusher : Type}

/-- One entry of `m_clients` that a push has done with, and what it sent there. -/
structure Attempt where
  entry : Fd × ConnId
  sent : Bytes
  deriving DecidableEq

/-- One call of `pushEvent` or `pushEventTo`. -/
structure Delivery where
  eventType : UInt32
  payloadJson : Bytes
  /-- The clients whose last call on the event type had asked for it. -/
  askers : List (Fd × ConnId)
  attempts : List Attempt
  /-- What has gone out of the frame that is being written. -/
  current : Bytes
  result : Bool
  deriving DecidableEq

def Delivery.begun (eventType : UInt32) (payloadJson : Bytes) (askers : List (Fd × ConnId)) :
    Delivery := ⟨eventType, payloadJson, askers, [], [], false⟩

def Delivery.sends (delivery : Delivery) (bytes : Bytes) : Delivery :=
  { delivery with current := delivery.current ++ bytes }

def Delivery.leaves (delivery : Delivery) (entry : Fd × ConnId) : Delivery :=
  { delivery with attempts := delivery.attempts ++ [⟨entry, delivery.current⟩], current := [] }

structure Deliveries (Pusher : Type) where
  asks : ConnId → UInt32 → Bool
  underWay : Pusher → Option Delivery
  finished : Pusher → List Delivery

namespace Deliveries

def nothing : Deliveries Pusher := ⟨fun _ _ => false, fun _ => none, fun _ => []⟩

/-- A client asks for an event type, or no longer. -/
def ask (told : Deliveries Pusher) (client : Option ConnId) (eventType : UInt32) (wanted : Bool) :
    Deliveries Pusher :=
  { told with
    asks := fun connection other =>
      if client = some connection ∧ other = eventType then wanted
      else told.asks connection other }

/-- A new connection has asked for nothing. -/
def forget (told : Deliveries Pusher) (connection : ConnId) : Deliveries Pusher :=
  { told with asks := Function.update told.asks connection fun _ => false }

variable [DecidableEq Pusher]

def set (told : Deliveries Pusher) (pusher : Pusher) (delivery : Option Delivery) :
    Deliveries Pusher :=
  { told with underWay := Function.update told.underWay pusher delivery }

def modify (told : Deliveries Pusher) (pusher : Pusher) (change : Delivery → Delivery) :
    Deliveries Pusher := told.set pusher ((told.underWay pusher).map change)

/-- The call returns. -/
def finish (told : Deliveries Pusher) (pusher : Pusher) (delivery : Option Delivery) :
    Deliveries Pusher :=
  { told.set pusher none with
    finished := Function.update told.finished pusher
      (told.finished pusher ++ delivery.toList) }

end Deliveries

/-! ## Clients and what they ask for -/

theorem mem_subscriptions_of_add {state : State Pusher} {fd : Fd} {eventType : UInt32} (connection : ConnId)
    (asked : UInt32) :
    asked ∈ (((state.addSubscription fd eventType).1).connections connection).subscriptions ↔
      (state.find fd = some connection ∧ asked = eventType) ∨
        asked ∈ (state.connections connection).subscriptions := by
  unfold State.addSubscription
  cases found : state.find fd with
  | none => simp
  | some client =>
      by_cases own : connection = client
      · simp [State.modify, own]
      · simp [State.modify, Function.update_of_ne own, Ne.symm own]

theorem mem_subscriptions_of_remove {state : State Pusher} {fd : Fd} {eventType : UInt32} (connection : ConnId)
    (asked : UInt32) :
    asked ∈ (((state.removeSubscription fd eventType).1).connections connection).subscriptions ↔
      ¬ (state.find fd = some connection ∧ asked = eventType) ∧
        asked ∈ (state.connections connection).subscriptions := by
  unfold State.removeSubscription
  cases found : state.find fd with
  | none => simp
  | some client =>
      by_cases own : connection = client
      · simp [State.modify, own, and_comm]
      · simp [State.modify, Function.update_of_ne own, Ne.symm own]

def Action.subscribes : Action Pusher → Bool
  | .accept _ | .addSubscription _ _ | .removeSubscription _ _ => true
  | _ => false

/-- The call is through with these clients and has these ones left. -/
structure Delivery.Reaching (delivery : Delivery) (left : List (Fd × ConnId)) (anySent : Bool) :
    Prop where
  everyone : (delivery.attempts.map Attempt.entry ++ left).Perm delivery.askers
  distinct : (delivery.askers.map Prod.fst).Nodup
  framed : ∀ attempt ∈ delivery.attempts,
    attempt.sent <+: encodeEvent delivery.eventType delivery.payloadJson
  reported : anySent = delivery.attempts.any fun attempt =>
    attempt.sent = encodeEvent delivery.eventType delivery.payloadJson

/-- Every client that had asked was tried once, got a beginning of the frame, and the call
returned true exactly when one of them got the whole. -/
def Delivery.Complete (delivery : Delivery) : Prop := delivery.Reaching [] delivery.result

/-- What is noted of a call that is under way. -/
def Underway : Option Delivery → PushPoint → Prop
  | none, .idle => True
  | some delivery, .locking eventType payloadJson targets anySent =>
      (delivery.eventType = eventType ∧ delivery.payloadJson = payloadJson) ∧
        delivery.current = [] ∧ delivery.Reaching targets anySent
  | some delivery, .writing eventType payloadJson fd target rest targets anySent =>
      (delivery.eventType = eventType ∧ delivery.payloadJson = payloadJson) ∧ rest ≠ [] ∧
        delivery.current ++ rest = encodeEvent eventType payloadJson ∧
        delivery.Reaching ((fd, target) :: targets) anySent
  | _, _ => False

structure EventsTold (told : Deliveries Pusher) (state : State Pusher) : Prop where
  keys : (state.clients.map Prod.fst).Nodup
  asks : ∀ connection eventType, told.asks connection eventType = true ↔
    eventType ∈ (state.connections connection).subscriptions
  underWay : ∀ pusher, Underway (told.underWay pusher) (state.pushes pusher)
  finished : ∀ pusher, ∀ delivery ∈ told.finished pusher, delivery.Complete

theorem EventsTold.initially : EventsTold (.nothing : Deliveries Pusher) initial where
  keys := List.nodup_nil
  asks := by
    intro connection eventType
    simp [Deliveries.nothing, initial, Connection.unborn]
  underWay := fun _ => trivial
  finished := by
    intro pusher delivery member
    cases member

/-- The clients that the mutex section of a push collects are those that had asked. -/
theorem subscribers_asked {told : Deliveries Pusher} {state : State Pusher}
    (noted : EventsTold told state) (eventType : UInt32) :
    state.subscribers eventType =
      state.clients.filter fun entry => told.asks entry.2 eventType := by
  apply List.filter_congr
  intro entry _
  rw [Bool.eq_iff_iff, decide_eq_true_eq, noted.asks]

theorem asked_distinct {told : Deliveries Pusher} {state : State Pusher}
    (noted : EventsTold told state) (wanted : Fd × ConnId → Bool) :
    ((state.clients.filter wanted).map Prod.fst).Nodup :=
  (List.filter_sublist.map Prod.fst).nodup noted.keys

/-- `m_clients` has one entry for a descriptor. -/
theorem filter_of_find {clients : List (Fd × ConnId)} (keys : (clients.map Prod.fst).Nodup)
    (fd : Fd) (wanted : ConnId → Bool) :
    (clients.filter fun entry => entry.1 = fd && wanted entry.2) =
      ((clients.lookup fd).filter wanted).toList.map (fd, ·) := by
  induction clients with
  | nil => rfl
  | cons entry rest ih =>
      rw [List.map_cons, List.nodup_cons] at keys
      by_cases own : entry.1 = fd
      · have others : (rest.filter fun entry => entry.1 = fd && wanted entry.2) = [] := by
          rw [List.filter_eq_nil_iff]
          intro other member taken
          simp only [Bool.and_eq_true, decide_eq_true_eq] at taken
          apply keys.1
          rw [own, ← taken.1]
          exact List.mem_map_of_mem member
        rw [List.filter_cons, others, List.lookup_cons]
        obtain ⟨entryFd, connection⟩ := entry
        cases own
        cases chosen : wanted connection <;> simp [chosen, Option.filter]
      · rw [List.filter_cons, if_neg (by simp [own]), ih keys.2, List.lookup_cons]
        rw [beq_false_of_ne (Ne.symm own)]

variable [DecidableEq Pusher]

def noteEvents (state : State Pusher) (action : Action Pusher) (told : Deliveries Pusher) :
    Deliveries Pusher :=
  match action with
  | .accept _ => told.forget state.nextConnection
  | .addSubscription fd eventType => told.ask (state.find fd) eventType true
  | .removeSubscription fd eventType => told.ask (state.find fd) eventType false
  | .pushEvent pusher eventType payloadJson _ =>
      told.set pusher (some (.begun eventType payloadJson
        (state.clients.filter fun entry => told.asks entry.2 eventType)))
  | .pushEventTo pusher fd eventType payloadJson =>
      let askers := state.clients.filter fun entry => entry.1 = fd && told.asks entry.2 eventType
      if askers = [] then told.finish pusher (some (.begun eventType payloadJson []))
      else told.set pusher (some (.begun eventType payloadJson askers))
  | .sendEvent pusher _ _ fd target rest _ _ count =>
      if rest.length ≤ count then
        told.modify pusher fun delivery => (delivery.sends (rest.take count)).leaves (fd, target)
      else told.modify pusher fun delivery => delivery.sends (rest.take count)
  | .sendEventFails pusher _ _ fd target _ _ _ =>
      told.modify pusher fun delivery => delivery.leaves (fd, target)
  | .finishPush pusher _ _ anySent =>
      told.finish pusher ((told.underWay pusher).map fun delivery =>
        { delivery with result := anySent })
  | _ => told

variable {maxFrameBytes : UInt32} {state next : State Pusher} {action : Action Pusher}
  {told : Deliveries Pusher} {pusher : Pusher}

theorem keys_step (taken : step maxFrameBytes state action = some next)
    (keys : (state.clients.map Prod.fst).Nodup) : (next.clients.map Prod.fst).Nodup := by
  have move := step_tables taken
  have kept : ∀ fd, ((state.clients.filter (·.1 ≠ fd)).map Prod.fst).Nodup := by
    intro fd
    exact (List.filter_sublist.map Prod.fst).nodup keys
  generalize next.clients = clients, next.accepting = accepting at move
  cases move with
  | inserts connection fd here =>
      rw [List.map_cons, List.nodup_cons]
      apply And.intro _ (kept fd)
      intro member
      obtain ⟨entry, listed, same⟩ := List.mem_map.mp member
      have differ := (List.mem_filter.mp listed).2
      rw [same] at differ
      simp at differ
  | erases connection here => exact kept _
  | _ => exact keys

theorem subscriptions_kept (taken : step maxFrameBytes state action = some next)
    (plain : action.subscribes = false) (connection : ConnId) :
    (next.connections connection).subscriptions =
      (state.connections connection).subscriptions := by
  have move := step_moves taken connection
  generalize next.connections connection = own at move
  cases move with
  | born | subscribes | unsubscribes => cases plain
  | _ => rfl

theorem asks_kept (plain : action.subscribes = false) :
    (noteEvents state action told).asks = told.asks := by
  cases action with
  | accept | addSubscription | removeSubscription => cases plain
  | pushEventTo | sendEvent =>
      simp only [noteEvents]
      split <;> rfl
  | _ => rfl

theorem asks_step (taken : step maxFrameBytes state action = some next)
    (asks : ∀ connection eventType, told.asks connection eventType = true ↔
      eventType ∈ (state.connections connection).subscriptions) (connection : ConnId)
    (eventType : UInt32) :
    (noteEvents state action told).asks connection eventType = true ↔
      eventType ∈ (next.connections connection).subscriptions := by
  cases plain : action.subscribes with
  | false => rw [asks_kept plain, subscriptions_kept taken plain, asks]
  | true =>
      cases action with
      | accept fd =>
          obtain ⟨_, rfl⟩ := (guarded_eq_some ..).mp taken
          by_cases own : connection = state.nextConnection
          · simp [noteEvents, Deliveries.forget, own, Connection.unborn]
          · simp [noteEvents, Deliveries.forget, Function.update_of_ne own, asks]
      | addSubscription fd asked =>
          cases taken
          rw [mem_subscriptions_of_add, ← asks]
          simp only [noteEvents, Deliveries.ask]
          split
          · next same => simp [same]
          · next differ => simp [differ]
      | removeSubscription fd asked =>
          cases taken
          rw [mem_subscriptions_of_remove, ← asks]
          simp only [noteEvents, Deliveries.ask]
          split
          · next same => simp [same]
          · next differ => simp [differ]
      | _ => cases plain

/-! ## Steps of the pushes -/

theorem set_push_of_ne {mover : Pusher} (point : PushPoint) (differ : mover ≠ pusher) :
    (state.setPush mover point).pushes pusher = state.pushes pusher :=
  Function.update_of_ne (Ne.symm differ) _ _

theorem pushes_kept (taken : step maxFrameBytes state action = some next)
    (aside : action.pusher ≠ some pusher) : next.pushes pusher = state.pushes pusher := by
  cases action with
  | start | stop | listen | shutdown =>
      obtain ⟨_, rfl⟩ := (guarded_eq_some ..).mp taken
      split <;> rfl
  | sendResponse mover owner answer rest count =>
      obtain ⟨_, rfl⟩ := (guarded_eq_some ..).mp taken
      simp only
      split <;> rfl
  | addSubscription fd eventType =>
      cases taken
      unfold State.addSubscription
      split <;> rfl
  | removeSubscription fd eventType =>
      cases taken
      unfold State.removeSubscription
      split <;> rfl
  | pushEvent mover eventType payloadJson targets =>
      obtain ⟨_, rfl⟩ := (guarded_eq_some ..).mp taken
      exact set_push_of_ne _ fun same => aside (congrArg some same)
  | pushEventTo mover fd eventType payloadJson =>
      obtain ⟨_, rfl⟩ := (guarded_eq_some ..).mp taken
      split
      · split
        · exact set_push_of_ne _ fun same => aside (congrArg some same)
        · rfl
      · rfl
  | lockPush mover eventType payloadJson fd target targets anySent =>
      obtain ⟨_, rfl⟩ := (guarded_eq_some ..).mp taken
      exact set_push_of_ne _ fun same => aside (congrArg some same)
  | sendEvent mover eventType payloadJson fd target rest targets anySent count =>
      have differ : mover ≠ pusher := fun same => aside (congrArg some same)
      simp only [step] at taken
      split at taken
      · obtain ⟨_, rfl⟩ := (guarded_eq_some ..).mp taken
        split <;> exact set_push_of_ne _ differ
      · cases taken
  | sendEventFails mover eventType payloadJson fd target rest targets anySent =>
      obtain ⟨_, rfl⟩ := (guarded_eq_some ..).mp taken
      exact set_push_of_ne _ fun same => aside (congrArg some same)
  | finishPush mover eventType payloadJson anySent =>
      obtain ⟨_, rfl⟩ := (guarded_eq_some ..).mp taken
      exact set_push_of_ne _ fun same => aside (congrArg some same)
  | subscriberRead mover =>
      simp only [step] at taken
      split at taken <;> cases taken
      rfl
  | _ =>
      obtain ⟨_, rfl⟩ := (guarded_eq_some ..).mp taken
      rfl

/-- The call of another thread is noted as it was. -/
theorem noted_aside (aside : action.pusher ≠ some pusher) :
    (noteEvents state action told).underWay pusher = told.underWay pusher ∧
      (noteEvents state action told).finished pusher = told.finished pusher := by
  have others : ∀ {mover : Pusher}, action.pusher = some mover → pusher ≠ mover := by
    rintro mover moved rfl
    exact aside moved
  have set (mover : Pusher) (moved : action.pusher = some mover) (delivery : Option Delivery) :
      (told.set mover delivery).underWay pusher = told.underWay pusher :=
    Function.update_of_ne (others moved) _ _
  have finish (mover : Pusher) (moved : action.pusher = some mover) (delivery : Option Delivery) :
      (told.finish mover delivery).underWay pusher = told.underWay pusher ∧
        (told.finish mover delivery).finished pusher = told.finished pusher :=
    ⟨Function.update_of_ne (others moved) _ _, Function.update_of_ne (others moved) _ _⟩
  cases action with
  | pushEvent mover eventType payloadJson targets => exact ⟨set mover rfl _, rfl⟩
  | pushEventTo mover fd eventType payloadJson =>
      simp only [noteEvents]
      split
      · exact finish mover rfl _
      · exact ⟨set mover rfl _, rfl⟩
  | sendEvent mover eventType payloadJson fd target rest targets anySent count =>
      simp only [noteEvents]
      split <;> exact ⟨set mover rfl _, rfl⟩
  | sendEventFails mover eventType payloadJson fd target rest targets anySent =>
      exact ⟨set mover rfl _, rfl⟩
  | finishPush mover eventType payloadJson anySent => exact finish mover rfl _
  | _ => exact ⟨rfl, rfl⟩

theorem Delivery.Reaching.begun {eventType : UInt32} {payloadJson : Bytes}
    {targets askers : List (Fd × ConnId)} (collected : targets.Perm askers)
    (distinct : (askers.map Prod.fst).Nodup) :
    (Delivery.begun eventType payloadJson askers).Reaching targets false where
  everyone := collected
  distinct := distinct
  framed := by
    intro attempt member
    cases member
  reported := rfl

/-- The call is done with the next client. -/
theorem Delivery.Reaching.leaves {delivery : Delivery} {entry : Fd × ConnId}
    {left : List (Fd × ConnId)} {anySent : Bool}
    (reaching : delivery.Reaching (entry :: left) anySent)
    (sent : delivery.current <+: encodeEvent delivery.eventType delivery.payloadJson) :
    (delivery.leaves entry).Reaching left (anySent ||
      delivery.current = encodeEvent delivery.eventType delivery.payloadJson) where
  everyone := by
    have everyone := reaching.everyone
    simp only [Delivery.leaves, List.map_append, List.map_cons, List.map_nil, List.append_assoc,
      List.singleton_append]
    exact everyone
  distinct := reaching.distinct
  framed := by
    intro attempt member
    cases List.mem_append.mp member with
    | inl earlier => exact reaching.framed attempt earlier
    | inr last =>
        rw [List.mem_singleton.mp last]
        exact sent
  reported := by
    rw [reaching.reported]
    simp only [Delivery.leaves, List.any_append, List.any_cons, List.any_nil, Bool.or_false]
    rfl

theorem Delivery.Reaching.sends {delivery : Delivery} {left : List (Fd × ConnId)} {anySent : Bool}
    (reaching : delivery.Reaching left anySent) (bytes : Bytes) :
    (delivery.sends bytes).Reaching left anySent :=
  ⟨reaching.everyone, reaching.distinct, reaching.framed, reaching.reported⟩

theorem encode_event_ne_nil (eventType : UInt32) (payloadJson : Bytes) :
    encodeEvent eventType payloadJson ≠ [] := by
  simp [encodeEvent, FrameStream.frame, FrameStream.word]

theorem under_way_locking {current : Option Delivery} {eventType : UInt32} {payloadJson : Bytes}
    {targets : List (Fd × ConnId)} {anySent : Bool}
    (here : Underway current (.locking eventType payloadJson targets anySent)) :
    ∃ delivery, current = some delivery ∧
      (delivery.eventType = eventType ∧ delivery.payloadJson = payloadJson) ∧
        delivery.current = [] ∧ delivery.Reaching targets anySent := by
  cases current with
  | none => cases here
  | some delivery => exact ⟨delivery, rfl, here⟩

theorem under_way_writing {current : Option Delivery} {eventType : UInt32} {payloadJson : Bytes}
    {fd : Fd} {target : ConnId} {rest : Bytes} {targets : List (Fd × ConnId)} {anySent : Bool}
    (here : Underway current (.writing eventType payloadJson fd target rest targets anySent)) :
    ∃ delivery, current = some delivery ∧
      (delivery.eventType = eventType ∧ delivery.payloadJson = payloadJson) ∧ rest ≠ [] ∧
        delivery.current ++ rest = encodeEvent eventType payloadJson ∧
        delivery.Reaching ((fd, target) :: targets) anySent := by
  cases current with
  | none => cases here
  | some delivery => exact ⟨delivery, rfl, here⟩

@[simp] theorem set_push_self (point : PushPoint) :
    (state.setPush pusher point).pushes pusher = point :=
  Function.update_self _ _ _

/-- What is noted of the calls of one thread. -/
structure PusherTold (told : Deliveries Pusher) (pusher : Pusher) (point : PushPoint) : Prop where
  underWay : Underway (told.underWay pusher) point
  finished : ∀ delivery ∈ told.finished pusher, delivery.Complete

theorem PusherTold.set {point : PushPoint} {delivery : Delivery}
    (before : ∀ delivery ∈ told.finished pusher, delivery.Complete)
    (here : Underway (some delivery) point) :
    PusherTold (told.set pusher (some delivery)) pusher point where
  underWay := by
    rw [show (told.set pusher (some delivery)).underWay pusher = some delivery from
      Function.update_self ..]
    exact here
  finished := before

theorem PusherTold.modify {point : PushPoint} {delivery : Delivery} {change : Delivery → Delivery}
    (before : ∀ delivery ∈ told.finished pusher, delivery.Complete)
    (current : told.underWay pusher = some delivery)
    (here : Underway (some (change delivery)) point) :
    PusherTold (told.modify pusher change) pusher point := by
  unfold Deliveries.modify
  rw [current]
  exact .set before here

theorem PusherTold.finish {delivery : Delivery}
    (before : ∀ delivery ∈ told.finished pusher, delivery.Complete) (complete : delivery.Complete) :
    PusherTold (told.finish pusher (some delivery)) pusher .idle where
  underWay := by
    have gone : (told.finish pusher (some delivery)).underWay pusher = none :=
      Function.update_self ..
    rw [gone]
    trivial
  finished := by
    have grown : (told.finish pusher (some delivery)).finished pusher =
        told.finished pusher ++ [delivery] := Function.update_self ..
    rw [grown]
    intro found member
    cases List.mem_append.mp member with
    | inl earlier => exact before found earlier
    | inr last =>
        rw [List.mem_singleton.mp last]
        exact complete

/-- What a thread that pushes makes of its own call. -/
theorem own_step (noted : EventsTold told state)
    (taken : step maxFrameBytes state action = some next) (own : action.pusher = some pusher) :
    PusherTold (noteEvents state action told) pusher (next.pushes pusher) := by
  have before := noted.finished pusher
  have underWay := noted.underWay pusher
  cases action with
  | pushEvent mover eventType payloadJson targets =>
      cases own
      obtain ⟨⟨_, collected⟩, rfl⟩ := (guarded_eq_some ..).mp taken
      rw [set_push_self]
      rw [subscribers_asked noted] at collected
      exact .set before ⟨⟨rfl, rfl⟩, rfl, .begun collected (asked_distinct noted _)⟩
  | pushEventTo mover fd eventType payloadJson =>
      cases own
      obtain ⟨idle, rfl⟩ := (guarded_eq_some ..).mp taken
      have askers := filter_of_find noted.keys fd fun connection =>
        told.asks connection eventType
      have distinct := asked_distinct noted fun entry =>
        entry.1 = fd && told.asks entry.2 eventType
      simp only [noteEvents]
      rw [askers] at distinct ⊢
      have looked : state.find fd = state.clients.lookup fd := rfl
      rw [looked]
      cases found : state.clients.lookup fd with
      | none =>
          rw [found] at distinct
          simp only [idle]
          exact .finish before (.begun (.refl _) distinct)
      | some connection =>
          rw [found] at distinct
          cases asked : told.asks connection eventType with
          | false =>
              have refused : ¬ eventType ∈ (state.connections connection).subscriptions := by
                rw [← noted.asks, asked]
                decide
              simp only [Option.filter, asked, if_neg refused, idle]
              exact .finish before (.begun (.refl _) List.nodup_nil)
          | true =>
              have wanted := (noted.asks connection eventType).mp asked
              simp only [Option.filter, asked, if_pos wanted, set_push_self] at distinct ⊢
              exact .set before ⟨⟨rfl, rfl⟩, rfl, .begun (.refl _) distinct⟩
  | lockPush mover eventType payloadJson fd target targets anySent =>
      cases own
      obtain ⟨⟨here, _⟩, rfl⟩ := (guarded_eq_some ..).mp taken
      rw [here] at underWay
      obtain ⟨delivery, current, named, nothing, reaching⟩ := under_way_locking underWay
      rw [set_push_self]
      apply PusherTold.mk _ before
      simp only [current]
      apply And.intro named
      apply And.intro (encode_event_ne_nil eventType payloadJson)
      rw [nothing]
      exact ⟨rfl, reaching⟩
  | sendEvent mover eventType payloadJson fd target rest targets anySent count =>
      cases own
      simp only [step] at taken
      split at taken
      · obtain ⟨⟨here, _⟩, rfl⟩ := (guarded_eq_some ..).mp taken
        rw [here] at underWay
        obtain ⟨delivery, current, named, more, framed, reaching⟩ := under_way_writing underWay
        rw [← named.1, ← named.2] at framed
        simp only [noteEvents]
        split
        · next all =>
            rw [set_push_self, List.take_of_length_le all]
            apply PusherTold.modify before current
            have whole : (delivery.sends rest).current =
                encodeEvent delivery.eventType delivery.payloadJson := framed
            have left := (reaching.sends rest).leaves (whole ▸ List.prefix_refl _)
            have sent : decide ((delivery.sends rest).current =
                encodeEvent delivery.eventType delivery.payloadJson) = true :=
              decide_eq_true whole
            apply And.intro named
            apply And.intro rfl
            rw [← Bool.or_true anySent, ← sent]
            exact left
        · next short =>
            rw [set_push_self]
            apply PusherTold.modify before current
            apply And.intro named
            apply And.intro
            · intro through
              exact short (List.drop_eq_nil_iff.mp through)
            · apply And.intro _ (reaching.sends _)
              rw [← named.1, ← named.2, ← framed]
              simp [Delivery.sends]
      · cases taken
  | sendEventFails mover eventType payloadJson fd target rest targets anySent =>
      cases own
      obtain ⟨here, rfl⟩ := (guarded_eq_some ..).mp taken
      rw [here] at underWay
      obtain ⟨delivery, current, named, more, framed, reaching⟩ := under_way_writing underWay
      rw [← named.1, ← named.2] at framed
      rw [set_push_self]
      apply PusherTold.modify before current
      have part : delivery.current ≠ encodeEvent delivery.eventType delivery.payloadJson := by
        rw [← framed]
        intro same
        exact more (List.self_eq_append_right.mp same)
      have left := reaching.leaves ⟨rest, framed⟩
      rw [decide_eq_false part, Bool.or_false] at left
      exact ⟨named, rfl, left⟩
  | finishPush mover eventType payloadJson anySent =>
      cases own
      obtain ⟨here, rfl⟩ := (guarded_eq_some ..).mp taken
      rw [here] at underWay
      obtain ⟨delivery, current, named, nothing, reaching⟩ := under_way_locking underWay
      rw [set_push_self]
      simp only [noteEvents, current]
      exact .finish before
        ⟨reaching.everyone, reaching.distinct, reaching.framed, reaching.reported⟩
  | _ => cases own

theorem events_told_step (noted : EventsTold told state)
    (taken : step maxFrameBytes state action = some next) :
    EventsTold (noteEvents state action told) next := by
  have pushes (pusher : Pusher) :
      PusherTold (noteEvents state action told) pusher (next.pushes pusher) := by
    by_cases own : action.pusher = some pusher
    · exact own_step noted taken own
    · obtain ⟨underWay, finished⟩ := @noted_aside _ _ state action told pusher own
      rw [pushes_kept taken own]
      constructor
      · rw [underWay]
        exact noted.underWay pusher
      · rw [finished]
        exact noted.finished pusher
  constructor
  · exact keys_step taken noted.keys
  · exact asks_step taken noted.asks
  · exact fun pusher => (pushes pusher).underWay
  · exact fun pusher => (pushes pusher).finished

/-- Every finished push has tried each client that had last asked for the event once, sent
it nothing but a beginning of the frame, and told whether one of them got the whole. -/
theorem pushes_reach_the_askers (maxFrameBytes : UInt32) (actions : List (Action Pusher))
    (last : State Pusher) (completed : run (step maxFrameBytes) initial actions = some last)
    (pusher : Pusher) (delivery : Delivery)
    (finished : delivery ∈ (observe (step maxFrameBytes) noteEvents initial .nothing
      actions).finished pusher) : delivery.Complete := by
  have preserved (told : Deliveries Pusher) (state : State Pusher) (action : Action Pusher)
      (next : State Pusher) (noted : EventsTold told state) (_ : True)
      (taken : step maxFrameBytes state action = some next) :
      EventsTold (noteEvents state action told) next := events_told_step noted taken
  have told := observed_invariant EventsTold preserved .initially
    (along_of_forall (fun _ _ => trivial) _) completed
  exact told.finished pusher delivery finished

/-- Connection 0 asks for events of type 7; a push breaks off after three bytes. -/
def brokenPush : List (Action Unit) :=
  firstRequest 5 ⟨1, []⟩ ++ [.addSubscription 5 7, .pushEvent () 7 [] [(5, 0)],
    .lockPush () 7 [] 5 0 [] false, .sendEvent () 7 [] 5 0 (encodeEvent 7 []) [] false 3,
    .sendEventFails () 7 [] 5 0 ((encodeEvent 7 []).drop 3) [] false, .finishPush () 7 [] false]

theorem broken_push_reaches_the_asker : ∃ last, run (step 1024) initial brokenPush = some last ∧
    (⟨7, [], [(5, 0)], [⟨(5, 0), (encodeEvent 7 []).take 3⟩], [], false⟩ : Delivery).Complete :=
  ⟨_, rfl, pushes_reach_the_askers 1024 brokenPush _ rfl () _ (List.mem_singleton.mpr rfl)⟩

end TboxFramework.Ipc.Server

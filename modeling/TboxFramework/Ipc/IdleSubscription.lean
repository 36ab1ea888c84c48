import TboxFramework.Ipc.EventIsolation
import TboxFramework.Ipc.ServerClients

/-!
# Subscriptions that nothing is pushed to

Both ends of a subscription set `SO_RCVTIMEO`, and `readExact` makes no
difference between a timeout, the end of the stream and an error. Here a timeout
is a step of its own, which a blocked `recv` may take whenever its queue is
empty. After its handshake a subscription sends nothing, so that of the server
always is.
-/

namespace TboxFramework.Ipc.Server

open Interleaving FrameStream

set_option autoImplicit false

variable {Pusher : Type}

/-- In `TimedAction.acts` a failure is anything but a timeout. -/
inductive TimedAction (Pusher : Type)
  | acts (action : Action Pusher)
  | serverTimesOut (connection : ConnId)
  | subscriberTimesOut (connection : ConnId)

/-- The server has read the one request that a subscription sends. -/
def Connection.requestRead (own : Connection Pusher) : Bool := 1 ≤ own.requests

/-- What the subscriber makes of the bytes that it has not read an event of yet. -/
def Connection.nextEvent (maxFrameBytes : UInt32) (own : Connection Pusher) : Reading :=
  readEvent maxFrameBytes ((own.wire.flatMap Chunk.bytes).drop own.reader.position)

/-- The subscriber has taken everything that was sent, and needs more for an event. -/
def Connection.eventsRead (maxFrameBytes : UInt32) (own : Connection Pusher) : Bool :=
  match own.nextEvent maxFrameBytes with
  | .more _ => true
  | _ => false

/-- A thread in the loop of `connectionLoop`. -/
def ConnPoint.looping (point : ConnPoint) : Bool := point.phase = .serving ∧ point ≠ .erasing

/-- Both ends keep the connection open, and a push of these event types reaches it. -/
structure Up (connection : ConnId) (eventTypes : List UInt32) (state : State Pusher) : Prop where
  looping : (state.connections connection).point.looping = true
  subscribed : (state.connections connection).reader.point = .subscribed
  registered : ∀ eventType ∈ eventTypes,
    ((state.connections connection).fd, connection) ∈ state.subscribers eventType

/-- Nothing happens that would excuse the end of a connection: nobody stops the
server, nobody removes these subscriptions, and no end sees the end of the stream
or an error. -/
def Healthy (connection : ConnId) (eventTypes : List UInt32) (state : State Pusher) :
    TimedAction Pusher → Prop
  | .acts .stop => False
  | .acts (.readFails other) | .acts (.sendResponseFails other _ _ _)
  | .acts (.subscriberFails other) => other ≠ connection
  | .acts (.removeSubscription fd eventType) =>
      state.find fd = some connection → eventType ∉ eventTypes
  | _ => True

/-- No `recv` of either end times out, and no event is too long for the subscriber. -/
def Timely (maxFrameBytes : UInt32) (connection : ConnId) (state : State Pusher) :
    TimedAction Pusher → Prop
  | .serverTimesOut other | .subscriberTimesOut other => other ≠ connection
  | .acts (.subscriberRead other) =>
      other = connection → (state.connections connection).nextEvent maxFrameBytes ≠ .overLimit
  | _ => True

structure StaysUp (connection : ConnId) (eventTypes : List UInt32) (state : State Pusher) :
    Prop where
  listed : Listed state
  running : state.running = true
  looping : (state.connections connection).point.looping = true
  subscribed : (state.connections connection).reader.point = .subscribed
  kept : eventTypes ⊆ (state.connections connection).subscriptions

variable {state next : State Pusher} {action : Action Pusher} {connection : ConnId}
  {own : Connection Pusher} {eventTypes : List UInt32}

theorem ConnPoint.looping_iff {point : ConnPoint} :
    point.looping = true ↔ point.phase = .serving ∧ point ≠ .erasing := by
  simp [looping]

theorem StaysUp.up (stays : StaysUp connection eventTypes state) :
    Up connection eventTypes state := by
  refine ⟨stays.looping, stays.subscribed, ?_⟩
  intro eventType member
  have serving := (ConnPoint.looping_iff.mp stays.looping).1
  have found := stays.listed.listed connection (Or.inl serving)
  exact List.mem_filter.mpr ⟨State.mem_of_find found, by simpa using stays.kept member⟩

/-- Only `stop` clears `m_running`. -/
theorem ControlMove.running_stays {settings : Settings} (move : ControlMove state action settings)
    (on : state.running = true) (other : action ≠ .stop) : settings.running = true := by
  cases move with
  | listens => rfl
  | stops => exact absurd rfl other
  | _ => exact on

namespace Move

theorem looping_stays (move : Move state action connection own)
    (stays : StaysUp connection eventTypes state)
    (healthy : Healthy connection eventTypes state (.acts action)) : own.point.looping = true := by
  have looping := stays.looping
  have serving := (ConnPoint.looping_iff.mp looping).1
  have old := Nat.ne_of_lt (stays.listed.older (Or.inl serving))
  cases move with
  | goes _ _ writer point edge =>
      have found := stays.listed.listed connection (Or.inl serving)
      generalize (state.connections connection).point = before at edge looping
      cases edge with
      | testLoop =>
          rw [stays.running]
          rfl
      | readFails | writeFails => exact absurd rfl healthy
      | removed answer gone =>
          rw [found] at gone
          cases gone
      | copyHandler | callHandler | found | lockWrite => rfl
      | testRunning => cases looping
      | _ => cases looping
  | born => exact absurd rfl old
  | responds =>
      simp only
      split <;> rfl
  | spawned | reads | returns | skips => rfl
  | _ => exact looping

theorem subscribed_stays (move : Move state action connection own)
    (stays : StaysUp connection eventTypes state)
    (healthy : Healthy connection eventTypes state (.acts action))
    (unread : action ≠ .subscriberRead connection) : own.reader.point = .subscribed := by
  have serving := (ConnPoint.looping_iff.mp stays.looping).1
  have old := Nat.ne_of_lt (stays.listed.older (Or.inl serving))
  cases move with
  | born => exact absurd rfl old
  | subscriberReads => exact absurd rfl unread
  | subscriberFails => exact absurd rfl healthy
  | _ => exact stays.subscribed

theorem kept_stays (move : Move state action connection own)
    (stays : StaysUp connection eventTypes state)
    (healthy : Healthy connection eventTypes state (.acts action)) :
    eventTypes ⊆ own.subscriptions := by
  have kept := stays.kept
  have serving := (ConnPoint.looping_iff.mp stays.looping).1
  have old := Nat.ne_of_lt (stays.listed.older (Or.inl serving))
  cases move with
  | born => exact absurd rfl old
  | subscribes => exact fun eventType member => List.mem_cons_of_mem _ (kept member)
  | unsubscribes fd removed _ registered =>
      intro eventType member
      refine List.mem_filter.mpr ⟨kept member, ?_⟩
      have other : eventType ≠ removed := by
        rintro rfl
        exact healthy registered member
      simpa using other
  | _ => exact kept

end Move

/-- Within its limit a subscriber goes on reading. -/
theorem Reader.read_subscribed {maxFrameBytes : UInt32} {own : Connection Pusher} {reader : Reader}
    (subscribed : own.reader.point = .subscribed)
    (read : own.reader.read maxFrameBytes own.wire = some reader) :
    reader.point = .subscribed ↔ own.nextEvent maxFrameBytes ≠ .overLimit := by
  unfold Connection.nextEvent
  simp only [Reader.read, subscribed] at read
  split at read
  · rename_i complete
    cases read
    simp [complete]
  · rename_i tooLong
    cases read
    simp [tooLong]
  · cases read

variable [DecidableEq Pusher] {maxFrameBytes : UInt32}

def timedStep (maxFrameBytes : UInt32) (state : State Pusher) :
    TimedAction Pusher → Option (State Pusher)
  | .acts action => step maxFrameBytes state action
  | .serverTimesOut connection =>
      if (state.connections connection).requestRead then
        step maxFrameBytes state (.readFails connection)
      else none
  | .subscriberTimesOut connection =>
      if (state.connections connection).eventsRead maxFrameBytes then
        step maxFrameBytes state (.subscriberFails connection)
      else none

/-- A timeout is one of the failures of the server's steps. -/
theorem step_of_timed {timed : TimedAction Pusher}
    (taken : timedStep maxFrameBytes state timed = some next) :
    ∃ action, step maxFrameBytes state action = some next := by
  cases timed with
  | acts action => exact ⟨action, taken⟩
  | serverTimesOut connection =>
      simp only [timedStep] at taken
      split at taken
      · exact ⟨_, taken⟩
      · cases taken
  | subscriberTimesOut connection =>
      simp only [timedStep] at taken
      split at taken
      · exact ⟨_, taken⟩
      · cases taken

theorem stays_up_step (stays : StaysUp connection eventTypes state)
    (healthy : Healthy connection eventTypes state (.acts action))
    (fits : action = .subscriberRead connection →
      (state.connections connection).nextEvent maxFrameBytes ≠ .overLimit)
    (taken : step maxFrameBytes state action = some next) : StaysUp connection eventTypes next := by
  have move := step_moves taken connection
  refine ⟨listed_step stays.listed taken, ?_, move.looping_stays stays healthy, ?_,
    move.kept_stays stays healthy⟩
  · apply (step_controls taken).running_stays stays.running
    rintro rfl
    exact healthy
  · by_cases reads : action = .subscriberRead connection
    · subst reads
      simp only [step] at taken
      split at taken
      · rename_i reader read
        cases taken
        simp only [State.modify, Function.update_self]
        exact (Reader.read_subscribed stays.subscribed read).mpr (fits rfl)
      · cases taken
    · exact move.subscribed_stays stays healthy reads

theorem timely_stays_up {timed : TimedAction Pusher} (stays : StaysUp connection eventTypes state)
    (healthy : Healthy connection eventTypes state timed)
    (timely : Timely maxFrameBytes connection state timed)
    (taken : timedStep maxFrameBytes state timed = some next) :
    StaysUp connection eventTypes next := by
  cases timed with
  | acts action =>
      apply stays_up_step stays healthy _ taken
      rintro rfl
      exact timely rfl
  | serverTimesOut other =>
      have elsewhere : Healthy connection eventTypes state (.acts (.readFails other)) := timely
      simp only [timedStep] at taken
      split at taken
      · exact stays_up_step stays elsewhere (by nofun) taken
      · cases taken
  | subscriberTimesOut other =>
      have elsewhere : Healthy connection eventTypes state (.acts (.subscriberFails other)) :=
        timely
      simp only [timedStep] at taken
      split at taken
      · exact stays_up_step stays elsewhere (by nofun) taken
      · cases taken

/-- A timeout of either end ends the connection, and so does an event that is too long. -/
theorem untimely_goes_down {timed : TimedAction Pusher}
    (stays : StaysUp connection eventTypes state)
    (untimely : ¬Timely maxFrameBytes connection state timed)
    (taken : timedStep maxFrameBytes state timed = some next) : ¬Up connection eventTypes next := by
  intro up
  cases timed with
  | serverTimesOut other =>
      obtain rfl : other = connection := not_not.mp untimely
      simp only [timedStep] at taken
      split at taken
      · obtain ⟨-, rfl⟩ := (guarded_eq_some ..).mp taken
        have looping := up.looping
        rw [State.point_set_point] at looping
        cases looping
      · cases taken
  | subscriberTimesOut other =>
      obtain rfl : other = connection := not_not.mp untimely
      simp only [timedStep] at taken
      split at taken
      · obtain ⟨-, rfl⟩ := (guarded_eq_some ..).mp taken
        have subscribed := up.subscribed
        simp only [State.modify, Function.update_self] at subscribed
        cases subscribed
      · cases taken
  | acts action =>
      cases action with
      | subscriberRead other =>
          obtain ⟨rfl, tooLong⟩ : other = connection ∧
              (state.connections connection).nextEvent maxFrameBytes = .overLimit := by
            simpa [Timely] using untimely
          simp only [timedStep, step] at taken
          split at taken
          · rename_i reader read
            cases taken
            have subscribed := up.subscribed
            simp only [State.modify, Function.update_self] at subscribed
            exact (Reader.read_subscribed stays.subscribed read).mp subscribed tooLong
          · cases taken
      | _ => exact untimely trivial

/-- A healthy subscription that has completed its handshake stays up exactly as long
as no `recv` of either end times out and no event is too long. -/
theorem up_iff_timely (maxFrameBytes : UInt32) (connection : ConnId) (eventTypes : List UInt32)
    (before actions : List (TimedAction Pusher)) (state last : State Pusher)
    (reached : run (timedStep maxFrameBytes) initial before = some state)
    (running : state.running = true) (up : Up connection eventTypes state)
    (healthy : Along (timedStep maxFrameBytes) (Healthy connection eventTypes) state actions)
    (completed : run (timedStep maxFrameBytes) state actions = some last) :
    Always (timedStep maxFrameBytes) (Up connection eventTypes) state actions ↔
      Along (timedStep maxFrameBytes) (Timely maxFrameBytes connection) state actions := by
  have listed : Listed state := by
    apply reachable_invariant Listed _ .initially reached
    intro state timed next listed taken
    obtain ⟨action, taken⟩ := step_of_timed taken
    exact listed_step listed taken
  have kept : eventTypes ⊆ (state.connections connection).subscriptions := by
    intro eventType member
    simpa using (List.mem_filter.mp (up.registered eventType member)).2
  exact always_iff_along_of (fun _ _ _ => timely_stays_up) (fun _ => StaysUp.up)
    (fun _ _ _ => untimely_goes_down) ⟨listed, running, up.looping, up.subscribed, kept⟩
    healthy completed

/-- Connection 0 is a subscription that has read its response. -/
def handshaken : List (TimedAction Unit) := (subscribed ++ [Action.subscriberRead 0]).map .acts

/-- An event comes in time. -/
def timelyPush : List (TimedAction Unit) :=
  [.acts (.pushEvent () 7 [] [(5, 0)]), .acts (.lockPush () 7 [] 5 0 [] false),
    .acts (.sendEvent () 7 [] 5 0 (encodeEvent 7 []) [] false 8)]

theorem timely_push_stays_up :
    ∃ state last, run (timedStep 1024) initial handshaken = some state ∧
      run (timedStep 1024) state timelyPush = some last ∧
      (last.connections 0).wire.map Chunk.source = [.response (0, []), .event 7 [] 0] ∧
      Always (timedStep 1024) (Up 0 [7]) state timelyPush := by
  refine ⟨_, _, rfl, rfl, rfl, (up_iff_timely 1024 0 [7] handshaken timelyPush _ _ rfl rfl
    ⟨rfl, rfl, ?_⟩ ?_ rfl).mpr ?_⟩
  · intro eventType member
    rw [List.mem_singleton.mp member]
    exact (List.mem_singleton.mpr rfl : ((5 : Fd), (0 : ConnId)) ∈ [(5, 0)])
  · exact ⟨trivial, fun _ _ => ⟨trivial, fun _ _ => ⟨trivial, fun _ _ => trivial⟩⟩⟩
  · exact ⟨trivial, fun _ _ => ⟨trivial, fun _ _ => ⟨trivial, fun _ _ => trivial⟩⟩⟩

/-- Nothing is pushed until the server's `recv` times out, or the subscriber's does.
In the first run an event that is pushed then finds nobody. -/
theorem idle_subscription_goes_down :
    ∃ state, run (timedStep 1024) initial handshaken = some state ∧ state.running = true ∧
      Up 0 [7] state ∧
      (∃ last, run (timedStep 1024) state [.serverTimesOut 0, .acts (.erase 0),
          .acts (.pushEvent () 7 [] [])] = some last ∧
        Along (timedStep 1024) (Healthy 0 [7]) state [.serverTimesOut 0, .acts (.erase 0),
          .acts (.pushEvent () 7 [] [])] ∧
        last.find 5 = none ∧ ¬Up 0 [7] last) ∧
      ∃ last, run (timedStep 1024) state [.subscriberTimesOut 0] = some last ∧
        Along (timedStep 1024) (Healthy 0 [7]) state [.subscriberTimesOut 0] ∧
        (last.connections 0).reader.point = .failed ∧ ¬Up 0 [7] last := by
  refine ⟨_, rfl, rfl, ⟨rfl, rfl, ?_⟩, ⟨_, rfl, ?_, rfl, ?_⟩, _, rfl, ?_, rfl, ?_⟩
  · intro eventType member
    rw [List.mem_singleton.mp member]
    exact (List.mem_singleton.mpr rfl : ((5 : Fd), (0 : ConnId)) ∈ [(5, 0)])
  · exact ⟨trivial, fun _ _ => ⟨trivial, fun _ _ => ⟨trivial, fun _ _ => trivial⟩⟩⟩
  · intro up
    exact absurd up.looping (by decide)
  · exact ⟨trivial, fun _ _ => trivial⟩
  · intro up
    exact absurd up.subscribed (by decide)

end TboxFramework.Ipc.Server

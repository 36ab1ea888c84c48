import TboxFramework.Ipc.ServerClients

/-!
# The handshake of a subscription

A subscription takes the first frame of its connection for the response to its
request and every later one for an event. The server may write an event from
the moment a handler adds the subscription, which is before `connectionLoop`
writes the response.
-/

namespace TboxFramework.Ipc.Server

open Interleaving FrameStream

set_option autoImplicit false

variable {Pusher : Type}

/-- What a subscription makes of its one request: the first frame is the
response to it, the subscription takes this frame for it, gives up only when the
handler has failed, and hands nothing but events to its callback. -/
structure Handshaken (own : Connection Pusher) : Prop where
  first : ∀ chunk ∈ own.wire.head?, ∃ outcome ∈ own.outcomes.head?,
    chunk.source = .response (handlerResult outcome)
  taken : ∀ source ∈ own.reader.taken, ∃ outcome ∈ own.outcomes.head?,
    source = .response (handlerResult outcome)
  rejected : own.reader.point = .rejected → own.outcomes.head? = some none
  delivered : own.requests ≤ 1 → ∀ source ∈ own.reader.delivered, source.isEvent = true

/-! ## The subscriber -/

/-- How far a subscription has come in the stream. -/
structure Reader.Follows (wire : List Chunk) (reader : Reader) : Prop where
  awaiting : reader.point = .awaitingResponse → reader.position = 0
  taken : ∀ source ∈ reader.taken, ∃ chunk ∈ wire.head?, chunk.source = source
  past : reader.point = .subscribed →
    ∃ chunk ∈ wire.head?, chunk.bytes.length ≤ reader.position
  delivered : ∀ source ∈ reader.delivered, ∃ chunk ∈ wire.tail, chunk.source = source
  rejected : reader.point = .rejected →
    ∃ answer : Result, ∃ chunk ∈ wire.head?, chunk.source = .response answer ∧ answer.1 ≠ 0

/-- A response that was written whole and that its length word describes. -/
def Chunk.WholeResponse (chunk : Chunk) (answer : Result) : Prop :=
  chunk = ⟨.response answer, encodeResponse answer.1 answer.2⟩ ∧ answer.2.length < UInt32.size

theorem source_at_mem {wire : List Chunk} {position : Nat} {source : Source}
    (found : sourceAt wire position = some source) : ∃ chunk ∈ wire, chunk.source = source := by
  induction wire generalizing position with
  | nil => cases found
  | cons chunk rest ih =>
      rw [sourceAt] at found
      split at found
      · exact ⟨chunk, List.mem_cons_self .., Option.some.inj found⟩
      · obtain ⟨later, member, same⟩ := ih found
        exact ⟨later, List.mem_cons_of_mem _ member, same⟩

theorem source_at_past {chunk : Chunk} {rest : List Chunk} {position : Nat}
    (past : chunk.bytes.length ≤ position) :
    sourceAt (chunk :: rest) position = sourceAt rest (position - chunk.bytes.length) := by
  rw [sourceAt, if_neg (Nat.not_lt_of_le past)]

namespace Reader.Follows

variable {wire : List Chunk} {reader next : Reader}

theorem initially (wire : List Chunk) : Follows wire ⟨.awaitingResponse, 0, none, []⟩ :=
  ⟨fun _ => rfl, nofun, nofun, nofun, nofun⟩

theorem append (follows : reader.Follows wire) (chunk : Chunk) :
    reader.Follows (wire ++ [chunk]) := by
  cases wire with
  | nil =>
      refine ⟨follows.awaiting, ?_, ?_, ?_, ?_⟩
      · intro source member
        obtain ⟨_, none, -⟩ := follows.taken source member
        cases none
      · intro subscribed
        obtain ⟨_, none, -⟩ := follows.past subscribed
        cases none
      · intro source member
        obtain ⟨_, none, -⟩ := follows.delivered source member
        cases none
      · intro rejected
        obtain ⟨_, _, none, -⟩ := follows.rejected rejected
        cases none
  | cons head rest =>
      refine ⟨follows.awaiting, follows.taken, follows.past, ?_, follows.rejected⟩
      intro source member
      obtain ⟨event, inside, same⟩ := follows.delivered source member
      exact ⟨event, List.mem_append_left _ inside, same⟩

theorem fail (follows : reader.Follows wire) (position : Nat) :
    Follows wire { reader with point := .failed, position := position } :=
  ⟨nofun, follows.taken, nofun, follows.delivered, nofun⟩

/-- The frame at the start of the stream is taken for the response, and it is one. -/
theorem read_response {maxFrameBytes : UInt32} {head : Chunk} {rest : List Chunk}
    {answer : Result} (follows : reader.Follows (head :: rest)) (whole : head.WholeResponse answer)
    (awaiting : reader.point = .awaitingResponse)
    (read : reader.read maxFrameBytes (head :: rest) = some next) :
    next.Follows (head :: rest) := by
  obtain ⟨rfl, short⟩ := whole
  have start := follows.awaiting awaiting
  simp only [Reader.read, awaiting, start, List.flatMap_cons, List.drop_zero, readResponse,
    encodeResponse, read_frame_append _ _ short] at read
  split at read
  · rename_i statusCode responseJson complete
    split at complete
    · cases complete
    · obtain ⟨rfl, rfl⟩ := Reading.complete.inj complete
      cases read
      have nonempty : 0 < (encodeResponse answer.1 answer.2).length := by
        rw [encodeResponse, frame_length]
        omega
      have source : sourceAt (⟨.response answer, encodeResponse answer.1 answer.2⟩ :: rest) 0 =
          some (.response answer) := if_pos nonempty
      refine ⟨?_, ?_, ?_, follows.delivered, ?_⟩
      · simp only
        split <;> nofun
      · intro found member
        exact ⟨_, rfl, Option.some.inj (source.symm.trans member)⟩
      · intro _
        refine ⟨_, rfl, ?_⟩
        simp only [encodeResponse, frame_length]
        omega
      · simp only
        intro rejected
        refine ⟨answer, _, rfl, rfl, ?_⟩
        intro accepted
        rw [accepted] at rejected
        exact absurd rejected (by decide)
  · cases read
    exact follows.fail _
  · rename_i complete
    split at complete <;> cases complete

/-- A frame behind the response goes to the callback. -/
theorem read_event {maxFrameBytes : UInt32} (follows : reader.Follows wire)
    (subscribed : reader.point = .subscribed)
    (read : reader.read maxFrameBytes wire = some next) : next.Follows wire := by
  simp only [Reader.read, subscribed] at read
  split at read
  · cases read
    obtain ⟨head, first, past⟩ := follows.past subscribed
    obtain ⟨rest, rfl⟩ : ∃ rest, wire = head :: rest := by
      cases wire with
      | nil => cases first
      | cons other rest => exact ⟨rest, by cases first; rfl⟩
    refine ⟨nofun, follows.taken, ?_, ?_, nofun⟩
    · intro _
      exact ⟨head, rfl, Nat.le_add_right_of_le past⟩
    · intro source member
      rcases List.mem_append.mp member with old | new
      · exact follows.delivered source old
      · rw [source_at_past past, Option.mem_toList] at new
        exact source_at_mem new
  · cases read
    exact follows.fail _
  · cases read

theorem read {maxFrameBytes : UInt32} (follows : reader.Follows wire)
    (whole : ∀ chunk ∈ wire.head?, ∃ answer, chunk.WholeResponse answer)
    (read : reader.read maxFrameBytes wire = some next) : next.Follows wire := by
  cases point : reader.point with
  | awaitingResponse =>
      cases wire with
      | nil => simp [Reader.read, point, readResponse, readFrame] at read
      | cons head rest =>
          obtain ⟨answer, whole⟩ := whole head rfl
          exact follows.read_response whole point read
  | subscribed => exact follows.read_event point read
  | rejected | failed => simp [Reader.read, point] at read

end Reader.Follows

/-! ## The connection -/

/-- A request has been read and its response is not written yet. -/
def ConnPoint.serving : ConnPoint → Bool
  | .copyingHandler _ | .handlerCopied _ _ | .inHandler _ _ | .findingState _ | .lockingWrite _ _
  | .writing _ _ _ => true
  | _ => false

/-- The response to a connection's only request, once the handler is through. -/
def Connection.Answers (own : Connection Pusher) (answer : Result) : Prop :=
  own.requests = 1 ∧ answer.2.length < UInt32.size ∧
    ∃ outcome, own.outcomes = [outcome] ∧ answer = handlerResult outcome

/-- How far a connection has come that has no response on its wire. -/
def Connection.Progress (own : Connection Pusher) : Prop :=
  match own.point with
  | .unborn | .testingLoop | .reading => own.requests = 0 ∧ own.outcomes = []
  | .copyingHandler _ | .handlerCopied _ _ | .inHandler _ _ =>
      own.requests = 1 ∧ own.outcomes = []
  | .findingState answer | .lockingWrite _ answer => own.Answers answer
  | .writing _ answer rest => own.Answers answer ∧ rest = encodeResponse answer.1 answer.2
  | _ => own.requests ≤ 1

structure Ungreeted (own : Connection Pusher) : Prop where
  silent : own.wire = []
  progress : own.Progress

/-- The first response of a connection is on its wire; while there is only one,
nothing but events follows it. -/
structure Greeted (own : Connection Pusher) : Prop where
  first : ∃ outcome ∈ own.outcomes.head?, ∃ chunk ∈ own.wire.head?,
    chunk.WholeResponse (handlerResult outcome)
  requests : 1 ≤ own.requests
  single : own.requests = 1 → own.point.serving = false ∧
    ∀ chunk ∈ own.wire.tail, chunk.source.isEvent = true

structure Orderly (own : Connection Pusher) : Prop where
  greeting : Ungreeted own ∨ Greeted own
  follows : own.reader.Follows own.wire

theorem Orderly.unborn (fd : Fd) :
    Orderly ({ Connection.unborn with fd := fd } : Connection Pusher) :=
  ⟨Or.inl ⟨rfl, rfl, rfl⟩, .initially []⟩

theorem Orderly.whole {own : Connection Pusher} (orderly : Orderly own) :
    ∀ chunk ∈ own.wire.head?, ∃ answer, chunk.WholeResponse answer := by
  intro chunk member
  rcases orderly.greeting with ungreeted | greeted
  · rw [ungreeted.silent] at member
    cases member
  · obtain ⟨outcome, -, first, found, whole⟩ := greeted.first
    cases Option.some.inj (found.symm.trans member)
    exact ⟨handlerResult outcome, whole⟩

theorem Orderly.handshaken {own : Connection Pusher} (orderly : Orderly own) :
    Handshaken own := by
  have first : ∀ chunk ∈ own.wire.head?, ∃ outcome ∈ own.outcomes.head?,
      chunk.source = .response (handlerResult outcome) := by
    intro chunk member
    rcases orderly.greeting with ungreeted | greeted
    · rw [ungreeted.silent] at member
      cases member
    · obtain ⟨outcome, head, other, found, whole⟩ := greeted.first
      cases Option.some.inj (found.symm.trans member)
      exact ⟨outcome, head, by rw [whole.1]⟩
  refine ⟨first, ?_, ?_, ?_⟩
  · intro source member
    obtain ⟨chunk, head, rfl⟩ := orderly.follows.taken source member
    exact first chunk head
  · intro rejected
    obtain ⟨answer, chunk, head, same, refused⟩ := orderly.follows.rejected rejected
    obtain ⟨outcome, found, response⟩ := first chunk head
    cases outcome with
    | none => exact found
    | some responseJson =>
        rw [response] at same
        cases same
        exact absurd rfl refused
  · intro single source member
    obtain ⟨chunk, later, rfl⟩ := orderly.follows.delivered source member
    rcases orderly.greeting with ungreeted | greeted
    · rw [ungreeted.silent] at later
      cases later
    · exact (greeted.single (Nat.le_antisymm single greeted.requests)).2 chunk later

theorem Greeted.wire_ne_nil {own : Connection Pusher} (greeted : Greeted own) : own.wire ≠ [] := by
  obtain ⟨-, -, first, found, -⟩ := greeted.first
  intro silent
  rw [silent] at found
  cases found

theorem Greeted.append_event {own : Connection Pusher} (greeted : Greeted own) {chunk : Chunk}
    (event : chunk.source.isEvent = true) (writer : Option (Writer Pusher)) :
    Greeted { own with writeMutex := writer, wire := own.wire ++ [chunk] } := by
  obtain ⟨outcome, head, first, found, whole⟩ := greeted.first
  refine ⟨⟨outcome, head, first, List.mem_head?_append_of_mem_head? found, whole⟩,
    greeted.requests, fun single => ⟨(greeted.single single).1, ?_⟩⟩
  intro later member
  simp only [List.tail_append_of_ne_nil greeted.wire_ne_nil] at member
  rcases List.mem_append.mp member with old | new
  · exact (greeted.single single).2 later old
  · rw [List.mem_singleton.mp new]
    exact event

theorem Greeted.append_response {own : Connection Pusher} (greeted : Greeted own)
    (serving : own.point.serving = true) (chunk : Chunk) (writer : Option (Writer Pusher))
    (point : ConnPoint) :
    Greeted { own with
      writeMutex := writer
      point := point
      wire := own.wire ++ [chunk] } := by
  obtain ⟨outcome, head, first, found, whole⟩ := greeted.first
  refine ⟨⟨outcome, head, first, List.mem_head?_append_of_mem_head? found, whole⟩,
    greeted.requests, fun single => ?_⟩
  rw [(greeted.single single).1] at serving
  cases serving

variable {state next : State Pusher} {action : Action Pusher} {connection : ConnId}
  {own : Connection Pusher}

/-- An edge leads into serving a request only from serving it. -/
theorem Edge.serving {before after : ConnPoint}
    (edge : Edge state connection action before after)
    (outside : before.serving = false) : after.serving = false := by
  cases edge with
  | testLoop => split <;> rfl
  | testRunning => split <;> rfl
  | copyHandler | callHandler | found | lockWrite => cases outside
  | _ => rfl

theorem Greeted.goes (greeted : Greeted own) {point : ConnPoint}
    (edge : Edge state connection action own.point point) (writer : Option (Writer Pusher)) :
    Greeted { own with writeMutex := writer, point := point } :=
  ⟨greeted.first, greeted.requests, fun single =>
    ⟨edge.serving (greeted.single single).1, (greeted.single single).2⟩⟩

theorem Ungreeted.goes (ungreeted : Ungreeted own) {point : ConnPoint}
    (edge : Edge state connection action own.point point) (writer : Option (Writer Pusher)) :
    Ungreeted { own with writeMutex := writer, point := point } := by
  refine ⟨ungreeted.silent, ?_⟩
  have progress := ungreeted.progress
  unfold Connection.Progress at progress ⊢
  generalize own.point = before at edge progress
  cases edge with
  | testLoop =>
      cases state.running with
      | true => exact progress
      | false => exact Nat.le_succ_of_le (Nat.le_of_eq progress.1)
  | readFails => exact Nat.le_succ_of_le (Nat.le_of_eq progress.1)
  | copyHandler | callHandler | found => exact progress
  | removed answer => exact Nat.le_of_eq progress.1
  | lockWrite owner answer => exact ⟨progress, rfl⟩
  | writeFails owner answer rest => exact Nat.le_of_eq progress.1.1
  | testRunning => cases state.running <;> exact progress
  | _ => exact progress

/-- The whole first response of a connection is written. -/
theorem Ungreeted.responds (ungreeted : Ungreeted own) {owner : ConnId} {answer : Result}
    {rest : Bytes} (here : own.point = .writing owner answer rest)
    (writer : Option (Writer Pusher)) :
    Greeted { own with
      writeMutex := writer
      point := .testingLoop
      wire := [⟨.response answer, rest⟩] } := by
  have progress := ungreeted.progress
  unfold Connection.Progress at progress
  rw [here] at progress
  obtain ⟨⟨single, short, outcome, outcomes, rfl⟩, rfl⟩ := progress
  refine ⟨⟨outcome, ?_, _, rfl, rfl, short⟩, Nat.le_of_eq single.symm, fun _ => ⟨rfl, nofun⟩⟩
  simp [outcomes]

/-- The connection whose descriptor a push writes to has its response. -/
def Answered (state : State Pusher) : Prop :=
  ∀ pusher fd, (state.pushes pusher).writingTo = some fd →
    ∀ connection, state.descriptors fd = some connection →
      (state.connections connection).wire ≠ []

namespace Move

theorem of_ungreeted (move : Move state action connection own)
    (ungreeted : Ungreeted (state.connections connection)) (answered : Answered state)
    (unborn : state.accepting = .spawning connection →
      (state.connections connection).point = .unborn)
    (whole : WholeResponses state action) (ordered : ResponseFirst state action) :
    Ungreeted own ∨ Greeted own := by
  have progress := ungreeted.progress
  unfold Connection.Progress at progress
  cases move with
  | born => exact Or.inl ⟨rfl, rfl, rfl⟩
  | goes _ _ writer point edge => exact Or.inl (ungreeted.goes edge writer)
  | spawned _ here =>
      rw [unborn here] at progress
      exact Or.inl ⟨ungreeted.silent, progress⟩
  | reads _ request here =>
      rw [here] at progress
      refine Or.inl ⟨ungreeted.silent, ?_, progress.2⟩
      simp only [progress.1]
  | returns _ request handler outcome here =>
      rw [here] at progress
      refine Or.inl ⟨ungreeted.silent, progress.1, ?_, outcome, ?_, rfl⟩
      · cases outcome with
        | none => exact Nat.two_pow_pos 32
        | some responseJson => exact ordered responseJson rfl
      · simp only [progress.2, List.nil_append]
  | skips _ request here =>
      rw [here] at progress
      refine Or.inl ⟨ungreeted.silent, progress.1, Nat.two_pow_pos 32, none, ?_, rfl⟩
      simp only [progress.2, List.nil_append]
  | responds _ owner answer rest count writer here =>
      cases whole
      have greeted := ungreeted.responds here writer
      simpa only [ungreeted.silent, List.nil_append, List.take_length, Nat.le_refl, if_true]
        using Or.inr greeted
  | receives _ target pusher eventType payloadJson fd rest targets anySent count writer here
      reached =>
      exact absurd ungreeted.silent (answered pusher fd (by rw [here]; rfl) connection reached.1)
  | still | subscribes | unsubscribes | subscriberReads | subscriberFails =>
      exact Or.inl ⟨ungreeted.silent, ungreeted.progress⟩

theorem of_greeted (move : Move state action connection own)
    (greeted : Greeted (state.connections connection)) : Ungreeted own ∨ Greeted own := by
  cases move with
  | born => exact Or.inl ⟨rfl, rfl, rfl⟩
  | goes _ _ writer point edge => exact Or.inr (greeted.goes edge writer)
  | spawned _ here =>
      exact Or.inr ⟨greeted.first, greeted.requests, fun single =>
        ⟨rfl, (greeted.single single).2⟩⟩
  | reads _ request here =>
      refine Or.inr ⟨greeted.first, Nat.le_add_left 1 _, fun single => ?_⟩
      have one := greeted.requests
      simp only at single
      omega
  | returns _ request handler outcome here =>
      obtain ⟨before, head, response⟩ := greeted.first
      refine Or.inr ⟨⟨before, List.mem_head?_append_of_mem_head? head, response⟩,
        greeted.requests, fun single => ?_⟩
      have outside := (greeted.single single).1
      rw [here] at outside
      cases outside
  | skips _ request here =>
      obtain ⟨before, head, response⟩ := greeted.first
      refine Or.inr ⟨⟨before, List.mem_head?_append_of_mem_head? head, response⟩,
        greeted.requests, fun single => ?_⟩
      have outside := (greeted.single single).1
      rw [here] at outside
      cases outside
  | responds _ owner answer rest count writer here =>
      exact Or.inr (greeted.append_response (by rw [here]; rfl) _ writer _)
  | receives _ target pusher eventType payloadJson fd rest targets anySent count writer here
      reached =>
      exact Or.inr (greeted.append_event rfl writer)
  | still | subscribes | unsubscribes | subscriberReads | subscriberFails =>
      exact Or.inr ⟨greeted.first, greeted.requests, greeted.single⟩

theorem follows (move : Move state action connection own)
    (orderly : Orderly (state.connections connection)) : own.reader.Follows own.wire := by
  have before := orderly.follows
  cases move with
  | born => exact .initially []
  | responds => exact before.append _
  | receives => exact before.append _
  | subscriberReads _ maxFrameBytes reader taken => exact before.read orderly.whole taken
  | subscriberFails => exact before.fail _
  | _ => exact before

theorem wire_ne_nil (move : Move state action connection own)
    (old : connection ≠ state.nextConnection)
    (written : (state.connections connection).wire ≠ []) : own.wire ≠ [] := by
  cases move with
  | born => exact absurd rfl old
  | responds => exact List.append_ne_nil_of_left_ne_nil written _
  | receives => exact List.append_ne_nil_of_left_ne_nil written _
  | _ => exact written

end Move

/-- A push enters its writing section only by taking the lock. -/
theorem PushMove.writing_to {pusher : Pusher} {point : PushPoint} {fd : Fd}
    (move : PushMove state action pusher point) (writing : point.writingTo = some fd) :
    (state.pushes pusher).writingTo = some fd ∨
      (ResponseFirst state action → state.Responded fd) ∧ ∀ other, action ≠ .accept other := by
  cases move with
  | still => exact Or.inl writing
  | locks _ eventType payloadJson other target targets anySent here =>
      cases writing
      exact Or.inr ⟨id, nofun⟩
  | sends _ eventType payloadJson other target rest targets anySent count here =>
      rw [here]
      exact Or.inl writing
  | declines | collects | sendsAll | fails | finishes => cases writing

/-! ## Runs -/

structure Greets (state : State Pusher) : Prop where
  registered : Registered state
  orderly : ∀ connection, Orderly (state.connections connection)
  answered : Answered state

theorem Greets.initially : Greets (initial : State Pusher) :=
  ⟨.initially, fun _ => .unborn 0, nofun⟩

theorem Greets.handshaken (greets : Greets state) (connection : ConnId) :
    Handshaken (state.connections connection) := (greets.orderly connection).handshaken

theorem wire_of_responded {fd : Fd} (responded : state.Responded fd)
    (reached : state.descriptors fd = some connection) :
    (state.connections connection).wire ≠ [] := by
  intro silent
  have written := responded connection reached
  rw [silent] at written
  cases written

variable [DecidableEq Pusher] {maxFrameBytes : UInt32}

theorem greets_step (greets : Greets state)
    (permitted : WholeResponses state action ∧ ResponseFirst state action)
    (taken : step maxFrameBytes state action = some next) : Greets next := by
  have opens := step_opens taken
  refine ⟨registered_step greets.registered taken, ?_, ?_⟩
  · intro connection
    have move := step_moves taken connection
    have orderly := greets.orderly connection
    have unborn : state.accepting = .spawning connection →
        (state.connections connection).point = .unborn := by
      intro spawning
      exact unborn_of_phase (greets.registered.spawning connection spawning).2
    refine ⟨?_, move.follows orderly⟩
    rcases orderly.greeting with ungreeted | greeted
    · exact move.of_ungreeted ungreeted greets.answered unborn permitted.1 permitted.2
    · exact move.of_greeted greeted
  · intro pusher fd writing connection reached
    rcases opens.descriptors fd connection reached with old | ⟨rfl, -⟩
    · have recent := (greets.registered.opened fd connection old).1
      apply (step_moves taken connection).wire_ne_nil (Nat.ne_of_lt recent)
      rcases (step_pushes taken pusher).writing_to writing with before | ⟨locked, -⟩
      · exact greets.answered pusher fd before connection old
      · exact wire_of_responded (locked permitted.2) old
    · rcases (step_pushes taken pusher).writing_to writing with before | ⟨-, other⟩
      · exact absurd before (permitted.2 pusher)
      · exact absurd rfl (other fd)

/-- With responses written whole, no subscription takes an event for its response
as long as every push waits for the response. -/
theorem response_precedes_events (maxFrameBytes : UInt32) (actions : List (Action Pusher))
    (whole : Along (step maxFrameBytes) WholeResponses initial actions)
    (ordered : Along (step maxFrameBytes) ResponseFirst initial actions) :
    Always (step maxFrameBytes)
      (fun state => ∀ connection, Handshaken (state.connections connection)) initial actions :=
  always_of_invariant (fun _ _ _ => greets_step) (fun _ => Greets.handshaken) Greets.initially
    (along_and whole ordered)

/-- The handler subscribes connection 0 to an event type while it serves its request. -/
def subscribing (eventType : UInt32) : List (Action Unit) :=
  firstRequest 5 ⟨1, []⟩ ++ [.callHandler 0 ⟨1, []⟩ 0, .addSubscription 5 eventType]

/-- The handler returns, and its response is written. -/
def responding : List (Action Unit) :=
  [.handlerReturns 0 ⟨1, []⟩ 0 (some []), .findState 0 (0, []), .lockWrite 0 0 (0, []),
    .sendResponse 0 0 (0, []) (encodeResponse 0 []) 8]

def pushing (eventType : UInt32) : List (Action Unit) :=
  [.pushEvent () eventType [] [(5, 0)], .lockPush () eventType [] 5 0 [] false,
    .sendEvent () eventType [] 5 0 (encodeEvent eventType []) [] false 8]

theorem later_push_handshaken :
    ∃ last, run (step 1024) initial
        (subscribing 7 ++ responding ++ pushing 7 ++ [.subscriberRead 0, .subscriberRead 0]) =
          some last ∧
      Always (step 1024) (fun state => ∀ connection, Handshaken (state.connections connection))
        initial
        (subscribing 7 ++ responding ++ pushing 7 ++ [.subscriberRead 0, .subscriberRead 0]) :=
  ⟨_, rfl, response_precedes_events 1024
    (subscribing 7 ++ responding ++ pushing 7 ++ [.subscriberRead 0, .subscriberRead 0])
    (by decide) (by decide)⟩

/-- A push between `add_subscription` and the response: the subscription takes
its event type for a status, and gives up; or it takes type 0 for a success and
hands the response to its callback. -/
theorem early_push_taken_for_response :
    (∃ last, run (step 1024) initial
        (subscribing 7 ++ pushing 7 ++ responding ++ [.subscriberRead 0]) = some last ∧
      (last.connections 0).outcomes = [some []] ∧
      (last.connections 0).reader.point = .rejected ∧ ¬Handshaken (last.connections 0)) ∧
    ∃ last, run (step 1024) initial
        (subscribing 0 ++ pushing 0 ++ responding ++ [.subscriberRead 0, .subscriberRead 0]) =
          some last ∧
      (last.connections 0).reader.delivered = [.response (0, [])] ∧
      ¬Handshaken (last.connections 0) := by
  refine ⟨⟨_, rfl, rfl, rfl, ?_⟩, _, rfl, rfl, ?_⟩
  · intro handshaken
    exact absurd (handshaken.rejected rfl) (by decide)
  · intro handshaken
    exact absurd (handshaken.delivered (by decide) (.response (0, [])) (List.mem_cons_self ..))
      (by decide)

end TboxFramework.Ipc.Server

import TboxFramework.Ipc.EventIsolation
import TboxFramework.Ipc.FrameReader
import TboxFramework.Ipc.WriteLocks
import TboxFramework.Library.SerialOutput

/-!
# What a connection puts out

Responses and events share one stream. Under the `write_mutex` of its
`ClientState` a connection is a stream whose writers take turns, as long as no
push writes to it under the `ClientState` of an earlier connection.
-/

namespace TboxFramework.Ipc.Server

open Interleaving FrameStream SerialOutput

set_option autoImplicit false

variable {Pusher : Type}

def Source.frame : Source → Bytes
  | .response answer => encodeResponse answer.1 answer.2
  | .event eventType payloadJson _ => encodeEvent eventType payloadJson

/-- The head word and the payload of a frame. -/
def Source.words : Source → UInt32 × Bytes
  | .response answer => (answer.1.toUInt32, answer.2)
  | .event eventType payloadJson _ => (eventType, payloadJson)

def Connection.sentBytes (own : Connection Pusher) : Bytes := own.wire.flatMap Chunk.bytes

/-! ## The frame that is going out -/

def ConnPoint.sending : ConnPoint → Option (Source × Bytes)
  | .writing _ answer rest => some (.response answer, rest)
  | _ => none

/-- The frame that a push writes under the lock of this connection. -/
def PushPoint.sending (connection : ConnId) : PushPoint → Option (Source × Bytes)
  | .writing eventType payloadJson _ target rest _ _ =>
      if target = connection then some (.event eventType payloadJson target, rest) else none
  | _ => none

def State.sending (state : State Pusher) (connection : ConnId) : Option (Source × Bytes) :=
  match (state.connections connection).point.sending, (state.connections connection).writeMutex with
  | some frame, _ => some frame
  | none, some (.pusher pusher) => (state.pushes pusher).sending connection
  | none, _ => none

def State.stream (state : State Pusher) (connection : ConnId) (output : Output Source) :
    Stream Source :=
  ⟨output, state.sending connection, (state.connections connection).sentBytes⟩

/-- Notes on one connection: which writes have returned true, and when the first
`send` failed. -/
def noteOutput (connection : ConnId) (state : State Pusher) (action : Action Pusher)
    (output : Output Source) : Output Source :=
  match action with
  | .sendResponse mover _ answer rest count =>
      if mover = connection ∧ rest.length ≤ count then output.write (.response answer) else output
  | .sendResponseFails mover _ _ _ =>
      if mover = connection then output.fail (state.connections connection).sentBytes.length
      else output
  | .sendEvent _ eventType payloadJson fd target rest _ _ count =>
      if state.descriptors fd = some connection ∧ rest.length ≤ count then
        output.write (.event eventType payloadJson target)
      else output
  | .sendEventFails _ _ _ fd _ _ _ _ =>
      if state.descriptors fd = some connection then
        output.fail (state.connections connection).sentBytes.length
      else output
  | _ => output

/-- The connection that a `send` reaches. -/
def Action.sentOn (state : State Pusher) : Action Pusher → Option ConnId
  | .sendResponse connection _ _ _ _ => some connection
  | .sendEvent _ _ _ fd _ _ _ _ _ => state.descriptors fd
  | _ => none

/-- The descriptor that a push sends to, and whose `ClientState` it holds. -/
def Action.pushesTo : Action Pusher → Option (Fd × ConnId)
  | .sendEvent _ _ _ fd target _ _ _ _ | .sendEventFails _ _ _ fd target _ _ _ =>
      some (fd, target)
  | _ => none

/-- The frame that is begun when a `write_mutex` is taken. -/
def Action.begins : Action Pusher → Option (ConnId × Source)
  | .lockWrite _ owner answer => some (owner, .response answer)
  | .lockPush _ eventType payloadJson _ target _ _ =>
      some (target, .event eventType payloadJson target)
  | _ => none

/-- A thread that has not left its read loop and cleaned up. -/
def ConnPoint.attending (point : ConnPoint) : Bool :=
  point.phase = .unborn ∨ point.phase = .serving

/-- Once a `send` on the connection has failed, every later one fails. -/
def FailsForGood (connection : ConnId) (noted : Output Source × State Pusher)
    (action : Action Pusher) : Prop :=
  noted.1.failedAt.isSome = true → action.sentOn noted.2 ≠ some connection

/-- No push sends on the connection under an earlier connection's `ClientState`. -/
def OwnSends (connection : ConnId) (state : State Pusher) (action : Action Pusher) : Prop :=
  ∀ entry ∈ action.pushesTo, (state.connections connection).point.attending = true →
    state.descriptors entry.1 = some connection → entry.2 = connection

instance (connection : ConnId) (noted : Output Source × State Pusher) (action : Action Pusher) :
    Decidable (FailsForGood connection noted action) :=
  inferInstanceAs (Decidable (_ → _))

instance (connection : ConnId) (state : State Pusher) (action : Action Pusher) :
    Decidable (OwnSends connection state action) :=
  inferInstanceAs (Decidable (∀ entry ∈ action.pushesTo, _))

/-- A frame whose payload a reader with this limit accepts. -/
def Source.Fits (maxFrameBytes : UInt32) (source : Source) : Prop :=
  source.words.2.length ≤ maxFrameBytes.toNat

/-- Only such frames are begun on the connection. -/
def FittingFrames (maxFrameBytes : UInt32) (connection : ConnId) (_ : State Pusher)
    (action : Action Pusher) : Prop :=
  ∀ begun ∈ action.begins, begun.1 = connection → begun.2.Fits maxFrameBytes

instance (maxFrameBytes : UInt32) (connection : ConnId) (state : State Pusher)
    (action : Action Pusher) : Decidable (FittingFrames maxFrameBytes connection state action) :=
  inferInstanceAs (Decidable (∀ begun ∈ action.begins, begun.1 = connection →
    begun.2.words.2.length ≤ maxFrameBytes.toNat))

/-- The bytes sent on the connection are the frames whose write has returned true,
and the beginning of at most one more. -/
structure Intact (connection : ConnId) (output : Output Source) (state : State Pusher) :
    Prop where
  frames : ∃ tail, (state.connections connection).sentBytes =
      output.written.flatMap Source.frame ++ tail ∧
    (tail = [] ∨ ∃ source rest, rest ≠ [] ∧ tail ++ rest = Source.frame source)
  atRest : (state.connections connection).writeMutex = none → output.failedAt = none →
    (state.connections connection).sentBytes = output.written.flatMap Source.frame
  ended : ∀ size ∈ output.failedAt, (state.connections connection).sentBytes.length = size

/-- What the other end makes of these bytes, however they are cut. -/
structure Decoded (maxFrameBytes : UInt32) (connection : ConnId) (output : Output Source)
    (state : State Pusher) : Prop where
  frames : ∀ feed, ByteFeed.bytes feed = (state.connections connection).sentBytes →
    ByteFeed.Unfailing feed → .closed ∈ feed →
    Protocol.ReadsAll (fun feed => Protocol.readFrom feed maxFrameBytes)
      (output.written.map Source.words) feed
  subscriber : ∀ feed answer events,
    ByteFeed.bytes feed = (state.connections connection).sentBytes →
    ByteFeed.Unfailing feed → .closed ∈ feed → output.written = .response answer :: events →
    ∃ rest, Protocol.readResponse feed maxFrameBytes = .done answer rest ∧
      Protocol.ReadsAll (fun feed => Protocol.readEvent feed maxFrameBytes)
        (events.map Source.words) rest

/-- A property of the connection while it is accepted and attended. -/
def WhileAttended (connection : ConnId) (property : Output Source → State Pusher → Prop)
    (noted : Output Source × State Pusher) : Prop :=
  connection < noted.2.nextConnection →
    (noted.2.connections connection).point.attending = true → property noted.1 noted.2

variable {state next : State Pusher} {action : Action Pusher} {connection : ConnId}
  {own : Connection Pusher} {output : Output Source}

/-! ## Steps that put nothing out -/

def Action.outputs : Action Pusher → Bool
  | .lockWrite _ _ _ | .sendResponse _ _ _ _ _ | .sendResponseFails _ _ _ _
  | .lockPush _ _ _ _ _ _ _ | .sendEvent _ _ _ _ _ _ _ _ _
  | .sendEventFails _ _ _ _ _ _ _ _ => true
  | _ => false

theorem Move.quiet (move : Move state action connection own) (aside : action.outputs = false)
    (old : connection ≠ state.nextConnection)
    (unborn : state.accepting = .spawning connection →
      (state.connections connection).point = .unborn) :
    own.point.sending = (state.connections connection).point.sending ∧
      own.wire = (state.connections connection).wire := by
  cases move with
  | goes _ _ writer point edge =>
      refine ⟨?_, rfl⟩
      generalize (state.connections connection).point = before at edge
      cases edge with
      | testLoop | testRunning => split <;> rfl
      | lockWrite | writeFails => cases aside
      | _ => rfl
  | born => exact absurd rfl old
  | spawned _ here =>
      rw [unborn here]
      exact ⟨rfl, rfl⟩
  | reads _ request here | returns _ request handler outcome here | skips _ request here =>
      rw [here]
      exact ⟨rfl, rfl⟩
  | responds | receives => cases aside
  | _ => exact ⟨rfl, rfl⟩

theorem PushMove.quiet {pusher : Pusher} {point : PushPoint}
    (move : PushMove state action pusher point) (aside : action.outputs = false) :
    point.sending connection = (state.pushes pusher).sending connection := by
  cases move with
  | still => rfl
  | declines _ fd eventType payloadJson here | collects _ _ eventType payloadJson targets here
  | finishes _ eventType payloadJson anySent here => simp only [here, PushPoint.sending]
  | locks | sends | sendsAll | fails => cases aside

theorem LockMove.quiet {writer : Option (Writer Pusher)}
    (move : LockMove state action connection writer) (aside : action.outputs = false)
    (old : connection ≠ state.nextConnection) :
    writer = (state.connections connection).writeMutex := by
  cases move with
  | still => rfl
  | born => exact absurd rfl old
  | taken _ _ writer locks =>
      cases action with
      | lockWrite | lockPush => cases aside
      | _ => cases locks
  | left _ _ writer unlocks =>
      cases action with
      | sendResponse | sendResponseFails | sendEvent | sendEventFails => cases aside
      | _ => cases unlocks

/-- A connection is attended from its beginning on. -/
theorem Move.attending_before (move : Move state action connection own)
    (old : connection ≠ state.nextConnection)
    (unborn : state.accepting = .spawning connection →
      (state.connections connection).point = .unborn)
    (attending : own.point.attending = true) :
    (state.connections connection).point.attending = true := by
  simp only [ConnPoint.attending, decide_eq_true_eq] at attending ⊢
  rcases attending with fresh | serving
  · rw [move.unborn_before old (unborn_of_phase fresh)]
    exact Or.inl rfl
  · rcases move.serving_before serving with before | spawning
    · exact Or.inr before
    · rw [unborn spawning]
      exact Or.inl rfl

/-! ## Writers take turns -/

theorem Locked.unborn (locked : Locked state)
    (spawning : state.accepting = .spawning connection) :
    (state.connections connection).point = .unborn :=
  unborn_of_phase (locked.listed.registered.spawning connection spawning).2

theorem ConnPoint.undone {point : ConnPoint} (attending : point.attending = true) :
    point ≠ .done := by
  rintro rfl
  cases attending

/-- Nobody is writing where nobody holds the lock. -/
theorem Locked.sending_free (locked : Locked state)
    (free : (state.connections connection).writeMutex = none) :
    state.sending connection = none := by
  unfold State.sending
  rw [free]
  cases here : (state.connections connection).point with
  | writing owner answer rest =>
      have same := locked.owner connection owner (by rw [here]; rfl)
      have held := locked.held (.connection connection) connection
        (by rw [State.holding, here, same]; rfl)
      rw [free] at held
      cases held
  | _ => rfl

theorem sending_of_thread {owner : ConnId} {answer : Result} {rest : Bytes}
    (here : (state.connections connection).point = .writing owner answer rest) :
    state.sending connection = some (.response answer, rest) := by
  unfold State.sending
  rw [here]
  rfl

theorem Locked.sending_of_pusher (locked : Locked state) {pusher : Pusher} {eventType : UInt32}
    {payloadJson : Bytes} {fd : Fd} {rest : Bytes} {targets : List (Fd × ConnId)} {anySent : Bool}
    (here : state.pushes pusher =
      .writing eventType payloadJson fd connection rest targets anySent) :
    (state.connections connection).writeMutex = some (.pusher pusher) ∧
      (state.connections connection).point.sending = none ∧
      state.sending connection = some (.event eventType payloadJson connection, rest) := by
  have held := locked.held (.pusher pusher) connection (by rw [State.holding, here]; rfl)
  have silent : (state.connections connection).point.sending = none := by
    cases point : (state.connections connection).point with
    | writing owner answer more =>
        have same := locked.owner connection owner (by rw [point]; rfl)
        have own := locked.held (.connection connection) connection
          (by rw [State.holding, point, same]; rfl)
        rw [held] at own
        cases own
    | _ => rfl
  refine ⟨held, silent, ?_⟩
  unfold State.sending
  rw [held, silent]
  change (state.pushes pusher).sending connection = _
  rw [here]
  exact if_pos rfl

/-- An attended connection has the descriptor under which pushes have collected it. -/
theorem Locked.target_opened (locked : Locked state)
    (attending : (state.connections connection).point.attending = true) {pusher : Pusher}
    {eventType : UInt32} {payloadJson : Bytes} {fd : Fd} {rest : Bytes}
    {targets : List (Fd × ConnId)} {anySent : Bool}
    (here : state.pushes pusher =
      .writing eventType payloadJson fd connection rest targets anySent) :
    state.descriptors fd = some connection :=
  (locked.target pusher (eventType, fd, connection)
    (by rw [here]; exact List.mem_cons_self ..)).2 (ConnPoint.undone attending)

@[simp] theorem sent_bytes_set_point (state : State Pusher) (changed : ConnId)
    (point : ConnPoint) (connection : ConnId) :
    ((state.setPoint changed point).connections connection).sentBytes =
      (state.connections connection).sentBytes :=
  State.modify_field (fun own => own.sentBytes) state changed _ rfl connection

@[simp] theorem sent_bytes_set_write_mutex (state : State Pusher) (owner : ConnId)
    (writer : Option (Writer Pusher)) (connection : ConnId) :
    ((state.setWriteMutex owner writer).connections connection).sentBytes =
      (state.connections connection).sentBytes :=
  State.modify_field (fun own => own.sentBytes) state owner _ rfl connection

@[simp] theorem sent_bytes_sent (state : State Pusher) (connection : ConnId) (chunk : Chunk) :
    ((state.sent connection chunk).connections connection).sentBytes =
      (state.connections connection).sentBytes ++ chunk.bytes := by
  simp [State.sent, State.modify, Connection.sentBytes]

theorem stream_same
    (point : (next.connections connection).point.sending =
      (state.connections connection).point.sending)
    (wire : (next.connections connection).wire = (state.connections connection).wire)
    (mutex : (next.connections connection).writeMutex = (state.connections connection).writeMutex)
    (pushes : ∀ pusher, (next.pushes pusher).sending connection =
      (state.pushes pusher).sending connection) :
    next.stream connection output = state.stream connection output := by
  unfold State.stream State.sending Connection.sentBytes
  rw [point, wire, mutex]
  split <;> simp only [pushes]

theorem stream_other (own : next.connections connection = state.connections connection)
    (pushes : ∀ pusher, (next.pushes pusher).sending connection =
      (state.pushes pusher).sending connection) :
    next.stream connection output = state.stream connection output :=
  stream_same (by rw [own]) (by rw [own]) (by rw [own]) pushes

section Turns

variable {allowed : Source → Prop} {source : Source} {rest : Bytes}

theorem turn_begins (permitted : allowed source) (idle : state.sending connection = none)
    (after : next.sending connection = some (source, source.frame))
    (bytes : (next.connections connection).sentBytes = (state.connections connection).sentBytes) :
    SerialOutput.Move Source.frame allowed (state.stream connection output)
      (next.stream connection output) := by
  rw [State.stream, State.stream, after, bytes]
  exact .begins source permitted idle

theorem turn_sends {count : Nat} (here : state.sending connection = some (source, rest))
    (short : count < rest.length) (working : output.failedAt = none)
    (after : next.sending connection = some (source, rest.drop count))
    (bytes : (next.connections connection).sentBytes =
      (state.connections connection).sentBytes ++ rest.take count) :
    SerialOutput.Move Source.frame allowed (state.stream connection output)
      (next.stream connection output) := by
  rw [State.stream, State.stream, after, bytes]
  exact .sends source rest count here short working

theorem turn_sends_all (here : state.sending connection = some (source, rest))
    (working : output.failedAt = none) (after : next.sending connection = none)
    (bytes : (next.connections connection).sentBytes =
      (state.connections connection).sentBytes ++ rest) :
    SerialOutput.Move Source.frame allowed (state.stream connection output)
      (next.stream connection (output.write source)) := by
  rw [State.stream, State.stream, after, bytes]
  exact .sendsAll source rest here working

theorem turn_fails (here : state.sending connection = some (source, rest))
    (after : next.sending connection = none)
    (bytes : (next.connections connection).sentBytes = (state.connections connection).sentBytes) :
    SerialOutput.Move Source.frame allowed (state.stream connection output)
      (next.stream connection
        (output.fail (state.connections connection).sentBytes.length)) := by
  rw [State.stream, State.stream, after, bytes]
  exact .fails source rest here

theorem turn_stays (same : next.stream connection output = state.stream connection output) :
    SerialOutput.Move Source.frame allowed (state.stream connection output)
      (next.stream connection output) := by
  rw [same]
  exact .stays

end Turns

/-! ## What the other end gets -/

structure Streaming (allowed : Source → Prop) (connection : ConnId)
    (noted : Output Source × State Pusher) : Prop where
  locked : Locked noted.2
  unborn : noted.2.nextConnection ≤ connection → noted.1 = .empty
  whole : WhileAttended connection
    (fun output state => (state.stream connection output).Whole Source.frame allowed) noted

theorem Streaming.initially (allowed : Source → Prop) (connection : ConnId) :
    Streaming allowed connection (.empty, (initial : State Pusher)) :=
  ⟨.initially, fun _ => rfl, nofun⟩

theorem Streaming.intact {allowed : Source → Prop} {noted : Output Source × State Pusher}
    (streaming : Streaming allowed connection noted) :
    WhileAttended connection (Intact connection) noted := by
  intro recent attending
  have whole := streaming.whole recent attending
  refine ⟨?_, ?_, ?_⟩
  · obtain ⟨-, tail, bytes, trails⟩ := whole
    refine ⟨tail, bytes, trails.partly.imp_right ?_⟩
    rintro ⟨source, rest, partly⟩
    exact ⟨source, rest, partly.missing, partly.split⟩
  · intro free working
    exact whole.at_rest (streaming.locked.sending_free free) working
  · intro size failed
    exact whole.ended failed

theorem frame_of_words (source : Source) : source.frame = frame source.words.1 source.words.2 := by
  cases source <;> rfl

theorem flat_map_words (sources : List Source) : sources.flatMap Source.frame =
    (sources.map Source.words).flatMap fun words => frame words.1 words.2 := by
  rw [List.flatMap_map]
  exact List.flatMap_congr fun source _ => frame_of_words source

/-- What a reader gets that is at a border between two frames. -/
theorem reads_written {limit : UInt32} {sources : List Source} {feed : ByteFeed.Feed}
    {tail : Bytes} (fits : ∀ source ∈ sources, source.Fits limit)
    (carries : ByteFeed.bytes feed = sources.flatMap Source.frame ++ tail)
    (partly : tail = [] ∨ ∃ source rest, Partly Source.frame (Source.Fits limit) source tail rest)
    (unfailing : ByteFeed.Unfailing feed) (closed : .closed ∈ feed) :
    Protocol.ReadsAll (fun feed => Protocol.readFrom feed limit) (sources.map Source.words)
      feed := by
  rw [flat_map_words] at carries
  apply Protocol.reads_all_of_frames id id (fun _ => rfl) (fun _ _ => rfl) _ _ carries _
    unfailing closed
  · intro feed maxFrameBytes
    cases Protocol.readFrom feed maxFrameBytes <;> rfl
  · intro words member
    obtain ⟨source, inside, rfl⟩ := List.mem_map.mp member
    exact fits source inside
  · intro rest same _ ends
    rcases partly with rfl | ⟨source, missing, partly⟩
    · exact Protocol.read_from_ended same ends
    · have split : ByteFeed.bytes rest ++ missing = frame source.words.1 source.words.2 := by
        rw [same, partly.split, frame_of_words]
      exact Protocol.read_from_unfinished partly.permitted partly.missing split ends

theorem Streaming.decoded {limit : UInt32} {noted : Output Source × State Pusher}
    (streaming : Streaming (Source.Fits limit) connection noted) :
    WhileAttended connection (Decoded limit connection) noted := by
  intro recent attending
  obtain ⟨fits, tail, bytes, trails⟩ := streaming.whole recent attending
  have partly := trails.partly
  refine ⟨?_, ?_⟩
  · intro feed carries unfailing closed
    exact reads_written fits (carries.trans bytes) partly unfailing closed
  · intro feed answer events carries unfailing closed written
    change ∀ source ∈ noted.1.written, source.Fits limit at fits
    change _ = noted.1.written.flatMap Source.frame ++ tail at bytes
    rw [written] at bytes fits
    have start : ByteFeed.bytes feed = frame answer.1.toUInt32 answer.2 ++
        (events.flatMap Source.frame ++ tail) := by
      rw [carries, ← List.append_assoc]
      exact bytes
    obtain ⟨rest, read, left, unfailing, closed⟩ := Protocol.read_from_frame
      (fits _ (List.mem_cons_self ..)) start unfailing closed
    refine ⟨rest, ?_, ?_⟩
    · rw [Protocol.readResponse, read]
      simp [ByteFeed.Read.map, ByteFeed.Read.andThen, Source.words]
    · exact reads_written (fun source member => fits source (List.mem_cons_of_mem _ member)) left
        partly unfailing closed

/-! ## Steps -/

variable [DecidableEq Pusher] {maxFrameBytes : UInt32}

/-- A push that is not at work on a connection before and after its step. -/
theorem sending_update (pushes : Pusher → PushPoint) {pusher : Pusher} {point : PushPoint}
    (before : (pushes pusher).sending connection = none)
    (after : point.sending connection = none) (other : Pusher) :
    (Function.update pushes pusher point other).sending connection =
      (pushes other).sending connection := by
  by_cases same : other = pusher
  · rw [same, Function.update_self, before, after]
  · rw [Function.update_of_ne same]

section Steps

variable {allowed : Source → Prop}

theorem lock_write_turn {mover owner : ConnId} {answer : Result} (locked : Locked state)
    (taken : step maxFrameBytes state (.lockWrite mover owner answer) = some next)
    (permitted : owner = connection → allowed (.response answer)) :
    SerialOutput.Move Source.frame allowed (state.stream connection output)
      (next.stream connection output) := by
  obtain ⟨⟨here, free⟩, rfl⟩ := (guarded_eq_some ..).mp taken
  have own := locked.owner mover owner (by rw [here]; rfl)
  subst own
  by_cases mine : owner = connection
  · subst mine
    apply turn_begins (permitted rfl) (locked.sending_free free)
    · exact sending_of_thread (State.point_set_point ..)
    · simp
  · apply turn_stays
    refine stream_other ?_ fun _ => rfl
    simp [State.setPoint, State.setWriteMutex, State.modify, Function.update_of_ne (Ne.symm mine)]

theorem send_response_turn {mover owner : ConnId} {answer : Result} {rest : Bytes} {count : Nat}
    (locked : Locked state)
    (taken : step maxFrameBytes state (.sendResponse mover owner answer rest count) = some next)
    (working : mover = connection → output.failedAt = none) :
    SerialOutput.Move Source.frame allowed (state.stream connection output)
      (next.stream connection
        (noteOutput connection state (.sendResponse mover owner answer rest count) output)) := by
  have after := locked_step locked taken
  obtain ⟨⟨here, -⟩, same⟩ := (guarded_eq_some ..).mp taken
  have own := locked.owner mover owner (by rw [here]; rfl)
  subst own
  simp only [noteOutput]
  by_cases mine : owner = connection
  · subst mine
    by_cases all : rest.length ≤ count
    · simp only [if_pos all] at same
      subst same
      rw [if_pos ⟨rfl, all⟩]
      apply turn_sends_all (sending_of_thread here) (working rfl) (after.sending_free (by simp))
      simp [List.take_of_length_le all]
    · simp only [if_neg all] at same
      subst same
      rw [if_neg fun both => all both.2]
      apply turn_sends (sending_of_thread here) (Nat.lt_of_not_le all) (working rfl)
      · exact sending_of_thread (State.point_set_point ..)
      · simp
  · rw [if_neg fun both => mine both.1]
    apply turn_stays
    subst same
    simp only
    split
    · refine stream_other ?_ fun _ => rfl
      simp [State.setPoint, State.setWriteMutex, State.sent, State.modify,
        Function.update_of_ne (Ne.symm mine)]
    · refine stream_other ?_ fun _ => rfl
      simp [State.setPoint, State.sent, State.modify, Function.update_of_ne (Ne.symm mine)]

theorem send_response_fails_turn {mover owner : ConnId} {answer : Result} {rest : Bytes}
    (locked : Locked state)
    (taken : step maxFrameBytes state (.sendResponseFails mover owner answer rest) = some next) :
    SerialOutput.Move Source.frame allowed (state.stream connection output)
      (next.stream connection
        (noteOutput connection state (.sendResponseFails mover owner answer rest) output)) := by
  have after := locked_step locked taken
  obtain ⟨here, rfl⟩ := (guarded_eq_some ..).mp taken
  have own := locked.owner mover owner (by rw [here]; rfl)
  subst own
  simp only [noteOutput]
  by_cases mine : owner = connection
  · subst mine
    rw [if_pos rfl]
    apply turn_fails (sending_of_thread here) (after.sending_free (by simp))
    simp
  · rw [if_neg mine]
    apply turn_stays
    refine stream_other ?_ fun _ => rfl
    simp [State.setPoint, State.setWriteMutex, State.modify, Function.update_of_ne (Ne.symm mine)]

theorem lock_push_turn {pusher : Pusher} {eventType : UInt32} {payloadJson : Bytes} {fd : Fd}
    {target : ConnId} {targets : List (Fd × ConnId)} {anySent : Bool} (locked : Locked state)
    (taken : step maxFrameBytes state
      (.lockPush pusher eventType payloadJson fd target targets anySent) = some next)
    (permitted : target = connection → allowed (.event eventType payloadJson target)) :
    SerialOutput.Move Source.frame allowed (state.stream connection output)
      (next.stream connection output) := by
  have after := locked_step locked taken
  have pushes := step_pushes taken
  obtain ⟨⟨here, free⟩, rfl⟩ := (guarded_eq_some ..).mp taken
  by_cases mine : target = connection
  · subst mine
    apply turn_begins (permitted rfl) (locked.sending_free free)
    · exact (after.sending_of_pusher (Function.update_self ..)).2.2
    · simp [State.setPush]
  · apply turn_stays
    apply stream_other
    · simp [State.setPush, State.setWriteMutex, State.modify, Function.update_of_ne (Ne.symm mine)]
    · apply sending_update state.pushes
      · rw [here]
        rfl
      · exact if_neg mine

/-- A push that begins and ends with another connection's `ClientState` does not
matter here, whatever happens to it. -/
theorem send_event_turn {pusher : Pusher} {eventType : UInt32} {payloadJson : Bytes} {fd : Fd}
    {target : ConnId} {rest : Bytes} {targets : List (Fd × ConnId)} {anySent : Bool} {count : Nat}
    (locked : Locked state)
    (taken : step maxFrameBytes state
      (.sendEvent pusher eventType payloadJson fd target rest targets anySent count) = some next)
    (mine : state.descriptors fd = some connection ↔ target = connection)
    (working : state.descriptors fd = some connection → output.failedAt = none) :
    SerialOutput.Move Source.frame allowed (state.stream connection output)
      (next.stream connection (noteOutput connection state
        (.sendEvent pusher eventType payloadJson fd target rest targets anySent count)
        output)) := by
  have after := locked_step locked taken
  simp only [noteOutput]
  simp only [step] at taken
  split at taken
  · rename_i receiver reached
    obtain ⟨⟨here, -⟩, same⟩ := (guarded_eq_some ..).mp taken
    by_cases own : target = connection
    · have opened := mine.mpr own
      subst own
      obtain rfl : receiver = target := Option.some.inj (reached.symm.trans opened)
      obtain ⟨-, -, sending⟩ := locked.sending_of_pusher here
      by_cases all : rest.length ≤ count
      · simp only [if_pos all] at same
        subst same
        rw [if_pos ⟨reached, all⟩]
        apply turn_sends_all sending (working reached)
        · exact after.sending_free (by simp [State.setPush])
        · simp [State.setPush, List.take_of_length_le all]
      · simp only [if_neg all] at same
        subst same
        rw [if_neg fun both => all both.2]
        apply turn_sends sending (Nat.lt_of_not_le all) (working reached)
        · exact (after.sending_of_pusher (Function.update_self ..)).2.2
        · simp [State.setPush]
    · have other : receiver ≠ connection := by
        rintro rfl
        exact own (mine.mp reached)
      rw [if_neg fun both => own (mine.mp both.1)]
      apply turn_stays
      subst same
      split
      · apply stream_other
        · simp [State.setPush, State.setWriteMutex, State.sent, State.modify,
            Function.update_of_ne (Ne.symm own), Function.update_of_ne (Ne.symm other)]
        · apply sending_update state.pushes
          · rw [here]
            exact if_neg own
          · rfl
      · apply stream_other
        · simp [State.setPush, State.sent, State.modify, Function.update_of_ne (Ne.symm other)]
        · apply sending_update state.pushes
          · rw [here]
            exact if_neg own
          · exact if_neg own
  · cases taken

theorem send_event_fails_turn {pusher : Pusher} {eventType : UInt32} {payloadJson : Bytes}
    {fd : Fd} {target : ConnId} {rest : Bytes} {targets : List (Fd × ConnId)} {anySent : Bool}
    (locked : Locked state)
    (taken : step maxFrameBytes state
      (.sendEventFails pusher eventType payloadJson fd target rest targets anySent) = some next)
    (mine : state.descriptors fd = some connection ↔ target = connection) :
    SerialOutput.Move Source.frame allowed (state.stream connection output)
      (next.stream connection (noteOutput connection state
        (.sendEventFails pusher eventType payloadJson fd target rest targets anySent)
        output)) := by
  have after := locked_step locked taken
  obtain ⟨here, rfl⟩ := (guarded_eq_some ..).mp taken
  simp only [noteOutput]
  by_cases own : target = connection
  · rw [if_pos (mine.mpr own)]
    subst own
    obtain ⟨-, -, sending⟩ := locked.sending_of_pusher here
    apply turn_fails sending
    · exact after.sending_free (by simp [State.setPush])
    · simp [State.setPush]
  · rw [if_neg fun reached => own (mine.mp reached)]
    apply turn_stays
    apply stream_other
    · simp [State.setPush, State.setWriteMutex, State.modify, Function.update_of_ne (Ne.symm own)]
    · apply sending_update state.pushes
      · rw [here]
        exact if_neg own
      · rfl

/-- As long as no push writes under an earlier connection's `ClientState`, whoever
writes on the connection is at his turn. -/
theorem stream_step (locked : Locked state) (taken : step maxFrameBytes state action = some next)
    (old : connection < state.nextConnection)
    (attending : (next.connections connection).point.attending = true)
    (mine : OwnSends connection state action)
    (fails : FailsForGood connection (output, state) action)
    (permitted : ∀ begun ∈ action.begins, begun.1 = connection → allowed begun.2) :
    SerialOutput.Move Source.frame allowed (state.stream connection output)
      (next.stream connection (noteOutput connection state action output)) := by
  have move := step_moves taken connection
  have before := move.attending_before (Nat.ne_of_lt old) locked.unborn attending
  have working : action.sentOn state = some connection → output.failedAt = none := by
    intro sent
    by_contra failed
    exact fails (Option.isSome_iff_ne_none.mpr failed) sent
  cases action with
  | lockWrite mover owner answer => exact lock_write_turn locked taken (permitted _ rfl)
  | sendResponse mover owner answer rest count =>
      exact send_response_turn locked taken fun own => working (congrArg some own)
  | sendResponseFails mover owner answer rest => exact send_response_fails_turn locked taken
  | lockPush pusher eventType payloadJson fd target targets anySent =>
      exact lock_push_turn locked taken (permitted _ rfl)
  | sendEvent pusher eventType payloadJson fd target rest targets anySent count =>
      refine send_event_turn locked taken ⟨mine _ rfl before, ?_⟩ working
      rintro rfl
      have guards := taken
      simp only [step] at guards
      split at guards
      · obtain ⟨⟨here, -⟩, -⟩ := (guarded_eq_some ..).mp guards
        exact locked.target_opened before here
      · cases guards
  | sendEventFails pusher eventType payloadJson fd target rest targets anySent =>
      refine send_event_fails_turn locked taken ⟨mine _ rfl before, ?_⟩
      rintro rfl
      obtain ⟨here, -⟩ := (guarded_eq_some ..).mp taken
      exact locked.target_opened before here
  | _ =>
      obtain ⟨point, wire⟩ := move.quiet rfl (Nat.ne_of_lt old) locked.unborn
      have mutex := (step_locks taken connection).quiet rfl (Nat.ne_of_lt old)
      exact turn_stays
        (stream_same point wire mutex fun pusher => (step_pushes taken pusher).quiet rfl)

end Steps

/-! ## Runs -/

/-- Nothing is noted for a connection before it is accepted. -/
theorem note_unborn (locked : Locked state) (taken : step maxFrameBytes state action = some next)
    (unborn : state.nextConnection ≤ connection) :
    noteOutput connection state action output = output := by
  have closed (fd : Fd) : state.descriptors fd ≠ some connection := by
    intro opened
    exact Nat.not_lt_of_le unborn (locked.listed.registered.opened fd connection opened).1
  have silent (owner : ConnId) (answer : Result) (rest : Bytes) :
      (state.connections connection).point ≠ .writing owner answer rest := by
    rw [locked.listed.fresh connection unborn]
    nofun
  cases action with
  | sendResponse mover owner answer rest count =>
      obtain ⟨⟨here, -⟩, -⟩ := (guarded_eq_some ..).mp taken
      apply if_neg
      rintro ⟨rfl, -⟩
      exact silent owner answer rest here
  | sendResponseFails mover owner answer rest =>
      obtain ⟨here, -⟩ := (guarded_eq_some ..).mp taken
      apply if_neg
      rintro rfl
      exact silent owner answer rest here
  | sendEvent pusher eventType payloadJson fd target rest targets anySent count =>
      exact if_neg fun both => closed fd both.1
  | sendEventFails pusher eventType payloadJson fd target rest targets anySent =>
      exact if_neg (closed fd)
  | _ => rfl

theorem frame_ne_nil (source : Source) : source.frame ≠ [] := by
  cases source <;> simp [Source.frame, encodeResponse, encodeEvent, frame, word]

/-- A new connection has an empty stream. -/
theorem stream_accepted {fd : Fd} (taken : step maxFrameBytes state (.accept fd) = some next) :
    next.stream state.nextConnection .empty = ⟨.empty, none, []⟩ := by
  obtain ⟨-, rfl⟩ := (guarded_eq_some ..).mp taken
  simp [State.stream, State.sending, Connection.unborn, ConnPoint.sending, Connection.sentBytes]

theorem streaming_step {allowed : Source → Prop} {noted after : Output Source × State Pusher}
    (streaming : Streaming allowed connection noted)
    (condition : FailsForGood connection noted action ∧ OwnSends connection noted.2 action ∧
      ∀ begun ∈ action.begins, begun.1 = connection → allowed begun.2)
    (taken : observing (step maxFrameBytes) (noteOutput connection) noted action = some after) :
    Streaming allowed connection after := by
  obtain ⟨output, state⟩ := noted
  obtain ⟨next, stepped, rfl⟩ := observing_eq_some.mp taken
  obtain ⟨locked, unborn, whole⟩ := streaming
  obtain ⟨fails, mine, permitted⟩ := condition
  have opens := step_opens stepped
  refine ⟨locked_step locked stepped, ?_, ?_⟩
  · intro later
    have early := Nat.le_trans opens.recent later
    rw [note_unborn locked stepped early]
    exact unborn early
  · intro recent attending
    by_cases old : connection < state.nextConnection
    · have before := (step_moves stepped connection).attending_before (Nat.ne_of_lt old)
        locked.unborn attending
      exact (stream_step locked stepped old attending mine fails permitted).whole frame_ne_nil
        (whole old before)
    · obtain ⟨rfl, fd, rfl⟩ := opens.born connection (Nat.le_of_not_lt old) recent
      have empty : noteOutput state.nextConnection state (.accept fd) output = .empty :=
        unborn (Nat.le_refl _)
      simp only [empty, stream_accepted stepped]
      exact .initially

/-- In every run in which no push sends under an earlier connection's `ClientState`,
a connection puts out whole frames in the order of their writes; a peer that takes
such frames gets these and no others. -/
theorem output_stays_whole (maxFrameBytes : UInt32) (connection : ConnId)
    (actions : List (Action Pusher))
    (fails : Along (observing (step maxFrameBytes) (noteOutput connection))
      (FailsForGood connection) (.empty, initial) actions)
    (mine : Along (step maxFrameBytes) (OwnSends connection) initial actions) :
    Always (observing (step maxFrameBytes) (noteOutput connection))
        (WhileAttended connection (Intact connection)) (.empty, initial) actions ∧
      ∀ limit, Along (step maxFrameBytes) (FittingFrames limit connection) initial actions →
        Always (observing (step maxFrameBytes) (noteOutput connection))
          (WhileAttended connection (Decoded limit connection)) (.empty, initial) actions := by
  refine ⟨?_, ?_⟩
  · have preserved (noted : Output Source × State Pusher) (action : Action Pusher)
        (after : Output Source × State Pusher)
        (streaming : Streaming (fun _ => True) connection noted)
        (condition : FailsForGood connection noted action ∧ OwnSends connection noted.2 action)
        (taken : observing (step maxFrameBytes) (noteOutput connection) noted action =
          some after) : Streaming (fun _ => True) connection after :=
      streaming_step streaming ⟨condition.1, condition.2, fun _ _ _ => trivial⟩ taken
    exact always_of_invariant preserved (fun _ streaming => streaming.intact)
      (.initially _ connection) (along_and fails (along_observing mine))
  · intro limit fitting
    have preserved (noted : Output Source × State Pusher) (action : Action Pusher)
        (after : Output Source × State Pusher)
        (streaming : Streaming (Source.Fits limit) connection noted)
        (condition : FailsForGood connection noted action ∧
          OwnSends connection noted.2 action ∧ FittingFrames limit connection noted.2 action)
        (taken : observing (step maxFrameBytes) (noteOutput connection) noted action =
          some after) : Streaming (Source.Fits limit) connection after :=
      streaming_step streaming ⟨condition.1, condition.2.1, condition.2.2⟩ taken
    exact always_of_invariant preserved (fun _ streaming => streaming.decoded)
      (.initially _ connection)
      (along_and fails (along_and (along_observing mine) (along_observing fitting)))

/-- Short and interrupted writes, a push while the response is under way, and a
push whose second `send` fails. -/
def cutShort : List (Action Unit) :=
  firstRequest 5 subscribe ++ [.callHandler 0 subscribe 0, .addSubscription 5 7,
    .handlerReturns 0 subscribe 0 (some []), .findState 0 (0, []), .pushEvent () 7 [1] [(5, 0)],
    .lockWrite 0 0 (0, []), .sendResponse 0 0 (0, []) (encodeResponse 0 []) 3,
    .sendResponseInterrupted 0 0 (0, []) ((encodeResponse 0 []).drop 3),
    .sendResponse 0 0 (0, []) ((encodeResponse 0 []).drop 3) 5,
    .lockPush () 7 [1] 5 0 [] false, .sendEvent () 7 [1] 5 0 (encodeEvent 7 [1]) [] false 9,
    .finishPush () 7 [1] true, .pushEvent () 7 [2] [(5, 0)], .lockPush () 7 [2] 5 0 [] false,
    .sendEvent () 7 [2] 5 0 (encodeEvent 7 [2]) [] false 8,
    .sendEventFails () 7 [2] 5 0 [2] [] false]

theorem cut_short_stays_whole :
    ∃ last, run (observing (step 1024) (noteOutput 0)) (.empty, initial) cutShort = some last ∧
      last.1 = ⟨[.response (0, []), .event 7 [1] 0], some 25⟩ ∧
      (Always (observing (step 1024) (noteOutput 0)) (WhileAttended 0 (Intact 0))
          (.empty, initial) cutShort ∧
        ∀ limit, Along (step 1024) (FittingFrames limit 0) initial cutShort →
          Always (observing (step 1024) (noteOutput 0)) (WhileAttended 0 (Decoded limit 0))
            (.empty, initial) cutShort) ∧
      Along (step 1024) (FittingFrames 1024 0) initial cutShort :=
  ⟨_, rfl, rfl, output_stays_whole 1024 0 cutShort (by decide) (by decide), by decide⟩

/-- The push holds connection 0's `ClientState` and descriptor number, which is
connection 1's when it writes, in the middle of a response. -/
def pushedInside : List (Action Unit) :=
  subscribed ++ [.pushEvent () 7 [] [(5, 0)], .readFails 0, .erase 0, .testRunning 0,
    .copyDisconnect 0, .skipDisconnect 0, .close 0, .testAccept, .accept 5, .insertClient 1 5,
    .spawnConnection 1, .testLoop 1, .readRequest 1 subscribe, .copyHandler 1 subscribe,
    .callHandler 1 subscribe 0, .handlerReturns 1 subscribe 0 (some []), .findState 1 (0, []),
    .lockWrite 1 1 (0, []), .sendResponse 1 1 (0, []) (encodeResponse 0 []) 3,
    .lockPush () 7 [] 5 0 [] false, .sendEvent () 7 [] 5 0 (encodeEvent 7 []) [] false 8,
    .sendResponse 1 1 (0, []) ((encodeResponse 0 []).drop 3) 5]

theorem stale_push_splits_response :
    Along (observing (step 1024) (noteOutput 1)) (FailsForGood 1) (.empty, initial)
        pushedInside ∧
      ∃ last, run (observing (step 1024) (noteOutput 1)) (.empty, initial) pushedInside =
          some last ∧
        last.1 = ⟨[.event 7 [] 0, .response (0, [])], none⟩ ∧
        (last.2.connections 1).sentBytes = [0, 0, 0, 7, 0, 0, 0, 0, 0, 0, 0, 0, 0, 0, 0, 0] ∧
        ¬WhileAttended 1 (Intact 1) last := by
  refine ⟨by decide, _, rfl, rfl, rfl, ?_⟩
  intro attended
  obtain ⟨tail, split, -⟩ := (attended (by decide) rfl).frames
  have first : some (0 : UInt8) = some 7 := congrArg List.head? split
  exact absurd first (by decide)

end TboxFramework.Ipc.Server

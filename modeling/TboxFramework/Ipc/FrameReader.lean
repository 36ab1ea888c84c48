import TboxFramework.Ipc.Protocol
import TboxFramework.Library.ByteFeed

/-!
# Reading frames from a socket

The loops behind `readRequest`, `readResponse` and `readEvent`. A feed is one way
in which `recv` may cut and interrupt what the peer sends; the reader asks for
the header and then for the payload, and goes on after a short read and after
`EINTR`. How much `readFrame` makes of a stream is what these loops make of every
feed that carries it.
-/

namespace TboxFramework.Ipc.Protocol

open ByteFeed FrameStream

set_option autoImplicit false

def readExact (feed : Feed) (size : Nat) : Read Bytes :=
  match size with
  | 0 => .done [] feed
  | remaining + 1 =>
      match taken : recv remaining feed with
      | .received got rest => (readExact rest (remaining + 1 - got.length)).map (got ++ ·)
      | .closed => .failed feed
      | .interrupted rest => readExact rest (remaining + 1)
      | .failed rest => .failed rest
      | .blocked => .blocked
termination_by feed.length + size
decreasing_by
  · have received := recv_received taken
    have positive := received.positive
    have asked := received.asked
    rcases received.shorter with shorter | ⟨same, -⟩ <;> omega
  · have used := congrArg List.length (recv_interrupted taken)
    rw [List.length_cons] at used
    omega

def validateLength (length max : UInt32) : Bool := length ≤ max

/-- The common body of the three readers. -/
def readFrom (feed : Feed) (maxFrameBytes : UInt32) : Read (UInt32 × Bytes) :=
  (readExact feed 8).andThen fun header rest =>
    let length := wordValue (header.drop 4)
    if validateLength length maxFrameBytes then
      (readExact rest length.toNat).map fun payload => (wordValue (header.take 4), payload)
    else .failed rest

def readRequest (feed : Feed) (maxFrameBytes : UInt32) : Read (UInt32 × Bytes) :=
  readFrom feed maxFrameBytes

def readResponse (feed : Feed) (maxFrameBytes : UInt32) : Read (Int32 × Bytes) :=
  (readFrom feed maxFrameBytes).map fun (statusCode, responseJson) =>
    (statusCode.toInt32, responseJson)

def readEvent (feed : Feed) (maxFrameBytes : UInt32) : Read (UInt32 × Bytes) :=
  readFrom feed maxFrameBytes

/-! ## The read loop -/

/-- The feed after a read that returned `value`. -/
structure Exactly (feed : Feed) (value : Bytes) (rest : Feed) : Prop where
  bytes : bytes feed = value ++ bytes rest
  failures : Arrival.failed ∈ rest ↔ Arrival.failed ∈ feed
  ending : Arrival.closed ∈ rest ↔ Arrival.closed ∈ feed

/-- What `readExact` tells about the feed. -/
def ExactlyRead (size : Nat) (feed : Feed) : Read Bytes → Prop
  | .done value rest => value.length = size ∧ Exactly feed value rest
  | .failed _ => Unfailing feed → (bytes feed).length < size ∧ Arrival.closed ∈ feed
  | .blocked => (bytes feed).length < size ∧ ¬Ends feed

theorem read_exact_succ (feed : Feed) (remaining : Nat) :
    readExact feed (remaining + 1) =
      match recv remaining feed with
      | .received got rest => (readExact rest (remaining + 1 - got.length)).map (got ++ ·)
      | .closed => .failed feed
      | .interrupted rest => readExact rest (remaining + 1)
      | .failed rest => .failed rest
      | .blocked => .blocked := by
  rw [readExact]
  split <;> rename_i taken <;> rw [taken]

/-- Some bytes before what the rest of the read tells. -/
theorem ExactlyRead.after {size count : Nat} {feed rest : Feed} {got : Bytes} {read : Read Bytes}
    (told : ExactlyRead count rest read) (received : Exactly feed got rest)
    (whole : got.length + count = size) : ExactlyRead size feed (read.map (got ++ ·)) := by
  have total : (bytes feed).length = got.length + (bytes rest).length := by
    rw [received.bytes, List.length_append]
  cases read with
  | blocked =>
      obtain ⟨short, open_⟩ := told
      refine ⟨by omega, ?_⟩
      intro ends
      exact open_ (ends.imp received.failures.mpr received.ending.mpr)
  | failed left =>
      intro unfailing
      obtain ⟨short, closed⟩ := told fun failed => unfailing (received.failures.mp failed)
      exact ⟨by omega, received.ending.mp closed⟩
  | done value left =>
      obtain ⟨count, read⟩ := told
      refine ⟨by simp only [List.length_append]; omega, ?_, ?_, ?_⟩
      · rw [received.bytes, read.bytes, List.append_assoc]
      · exact read.failures.trans received.failures
      · exact read.ending.trans received.ending

theorem read_exact_spec (feed : Feed) (size : Nat) :
    ExactlyRead size feed (readExact feed size) := by
  induction feed, size using readExact.induct with
  | case1 feed =>
      rw [readExact]
      exact ⟨rfl, rfl, Iff.rfl, Iff.rfl⟩
  | case2 feed remaining got rest taken ih =>
      have received := recv_received taken
      have asked := received.asked
      rw [read_exact_succ, taken]
      apply ih.after ⟨received.bytes, received.failures, received.ending⟩
      omega
  | case3 feed remaining taken =>
      obtain ⟨nothing, closed⟩ := recv_closed taken
      rw [read_exact_succ, taken]
      intro _
      rw [nothing]
      exact ⟨Nat.succ_pos _, closed⟩
  | case4 feed remaining rest taken ih =>
      have same : (readExact rest (remaining + 1)).map ([] ++ ·) =
          readExact rest (remaining + 1) := by
        cases readExact rest (remaining + 1) <;> rfl
      rw [read_exact_succ, taken]
      change ExactlyRead (remaining + 1) feed (readExact rest (remaining + 1))
      rw [← same]
      apply ih.after
      · rw [recv_interrupted taken]
        exact ⟨rfl, by simp, by simp⟩
      · exact Nat.zero_add _
  | case5 feed remaining rest taken =>
      rw [read_exact_succ, taken]
      intro unfailing
      rw [recv_failed taken] at unfailing
      exact absurd (List.mem_cons_self ..) unfailing
  | case6 feed remaining taken =>
      rw [read_exact_succ, taken, recv_blocked taken]
      exact ⟨Nat.succ_pos _, by simp [Ends]⟩

/-! ## The frame reader -/

/-- What reading a frame tells about the feed. -/
def FrameRead (maxFrameBytes : UInt32) (feed : Feed) : Read (UInt32 × Bytes) → Prop
  | .done (head, payload) rest =>
      readFrame maxFrameBytes (bytes feed) = .complete head payload ∧
        payload.length ≤ maxFrameBytes.toNat ∧
        ∃ header, header.length = 8 ∧ Exactly feed (header ++ payload) rest
  | .failed _ => Unfailing feed → readFrame maxFrameBytes (bytes feed) = .overLimit ∨
      ∃ wanted, readFrame maxFrameBytes (bytes feed) = .more wanted
  | .blocked => ¬Ends feed

theorem read_from_spec (feed : Feed) (maxFrameBytes : UInt32) :
    FrameRead maxFrameBytes feed (readFrom feed maxFrameBytes) := by
  have start := read_exact_spec feed 8
  unfold readFrom
  cases first : readExact feed 8 with
  | blocked =>
      rw [first] at start
      exact start.2
  | failed rest =>
      rw [first] at start
      intro unfailing
      exact Or.inr ⟨_, read_frame_short maxFrameBytes (start unfailing).1⟩
  | done header rest =>
      rw [first] at start
      obtain ⟨eight, before⟩ := start
      simp only [Read.andThen]
      split
      · rename_i allowed
        have within : ¬maxFrameBytes < wordValue (header.drop 4) := by
          simpa [validateLength] using allowed
        have later := read_exact_spec rest (wordValue (header.drop 4)).toNat
        cases second : readExact rest (wordValue (header.drop 4)).toNat with
        | blocked =>
            rw [second] at later
            intro ends
            exact later.2 (ends.imp before.failures.mpr before.ending.mpr)
        | failed left =>
            rw [second] at later
            intro unfailing
            obtain ⟨short, -⟩ := later fun failed => unfailing (before.failures.mp failed)
            rw [before.bytes, read_frame_of_header eight, if_neg within, if_pos short]
            exact Or.inr ⟨_, rfl⟩
        | done payload left =>
            rw [second] at later
            obtain ⟨count, after⟩ := later
            refine ⟨?_, ?_, header, eight, ?_, ?_, ?_⟩
            · have whole : ¬(payload ++ bytes left).length < (wordValue (header.drop 4)).toNat := by
                rw [List.length_append]
                omega
              rw [before.bytes, read_frame_of_header eight, if_neg within, after.bytes,
                if_neg whole, ← count, List.take_left]
            · rw [count]
              exact UInt32.not_lt.mp within
            · rw [before.bytes, after.bytes, List.append_assoc]
            · exact after.failures.trans before.failures
            · exact after.ending.trans before.ending
      · rename_i refused
        have beyond : maxFrameBytes < wordValue (header.drop 4) := by
          simpa [validateLength] using refused
        intro _
        rw [before.bytes, read_frame_of_header eight, if_pos beyond]
        exact Or.inl rfl

/-- A reader that waits has not got a whole frame. -/
theorem read_from_blocked {maxFrameBytes : UInt32} {feed : Feed}
    (waits : readFrom feed maxFrameBytes = .blocked) :
    ∃ wanted, readFrame maxFrameBytes (bytes feed) = .more wanted := by
  have start := read_exact_spec feed 8
  unfold readFrom at waits
  cases first : readExact feed 8 with
  | blocked =>
      rw [first] at start
      exact ⟨_, read_frame_short maxFrameBytes start.1⟩
  | failed rest =>
      rw [first] at waits
      cases waits
  | done header rest =>
      rw [first] at start waits
      obtain ⟨eight, before⟩ := start
      simp only [Read.andThen] at waits
      split at waits
      · next allowed =>
          have within : ¬ maxFrameBytes < wordValue (header.drop 4) := by
            simpa [validateLength] using allowed
          have later := read_exact_spec rest (wordValue (header.drop 4)).toNat
          cases second : readExact rest (wordValue (header.drop 4)).toNat with
          | blocked =>
              rw [second] at later
              rw [before.bytes, read_frame_of_header eight, if_neg within, if_pos later.1]
              exact ⟨_, rfl⟩
          | failed left =>
              rw [second] at waits
              cases waits
          | done payload left =>
              rw [second] at waits
              cases waits
      · cases waits

/-! ## Round trips -/

/-- Repeated reads return these frames in order, each of them taking its own bytes
only, and then fail at the end of the stream. -/
inductive ReadsAll {Id : Type} (read : Feed → Read (Id × Bytes)) :
    List (Id × Bytes) → Feed → Prop
  | ended (feed rest : Feed) (failed : read feed = .failed rest) : ReadsAll read [] feed
  | frame (id : Id) (payload : Bytes) (frames : List (Id × Bytes)) (feed rest : Feed)
      (read_frame : read feed = .done (id, payload) rest)
      (consumed : (bytes feed).length = 8 + payload.length + (bytes rest).length)
      (later : ReadsAll read frames rest) : ReadsAll read ((id, payload) :: frames) feed

/-- What a pair of an encoder and a reader promises of every stream and of every
way to receive it. -/
structure Faithful {Id : Type} (encode : Id → Bytes → Bytes)
    (read : Feed → UInt32 → Read (Id × Bytes)) : Prop where
  round_trip : ∀ (maxFrameBytes : UInt32) (frames : List (Id × Bytes)) (feed : Feed),
    (∀ frame ∈ frames, frame.2.length ≤ maxFrameBytes.toNat) →
    bytes feed = frames.flatMap (fun frame => encode frame.1 frame.2) →
    Arrival.failed ∉ feed → Arrival.closed ∈ feed →
    ReadsAll (fun feed => read feed maxFrameBytes) frames feed
  bounded : ∀ maxFrameBytes feed id payload rest,
    read feed maxFrameBytes = .done (id, payload) rest → payload.length ≤ maxFrameBytes.toNat
  terminates : ∀ maxFrameBytes feed, Arrival.failed ∈ feed ∨ Arrival.closed ∈ feed →
    read feed maxFrameBytes ≠ .blocked

/-- One read of a stream that starts with a frame, whether the stream ends or not. -/
theorem read_from_open_frame {maxFrameBytes head : UInt32} {payload later : Bytes} {feed : Feed}
    (fits : payload.length ≤ maxFrameBytes.toNat)
    (carries : bytes feed = frame head payload ++ later) (unfailing : Unfailing feed) :
    ∃ rest, readFrom feed maxFrameBytes = .done (head, payload) rest ∧ bytes rest = later ∧
      Unfailing rest ∧ (Arrival.closed ∈ rest ↔ Arrival.closed ∈ feed) := by
  have bound : payload.length < UInt32.size := Nat.lt_of_le_of_lt fits maxFrameBytes.toNat_lt
  have allowed : ¬maxFrameBytes < UInt32.ofNat payload.length := by
    rw [UInt32.not_lt, UInt32.le_iff_toNat_le, length_word_to_nat bound]
    exact fits
  have whole : readFrame maxFrameBytes (bytes feed) = .complete head payload := by
    rw [carries, read_frame_append _ _ bound, if_neg allowed]
  have told := read_from_spec feed maxFrameBytes
  cases read : readFrom feed maxFrameBytes with
  | blocked =>
      obtain ⟨wanted, more⟩ := read_from_blocked read
      rw [whole] at more
      cases more
  | failed rest =>
      rw [read] at told
      rcases told unfailing with tooLong | ⟨wanted, more⟩
      · rw [whole] at tooLong
        cases tooLong
      · rw [whole] at more
        cases more
  | done value rest =>
      rw [read] at told
      obtain ⟨complete, -, header, eight, left⟩ := told
      obtain ⟨rfl, rfl⟩ := Reading.complete.inj (whole.symm.trans complete)
      have split := left.bytes
      rw [carries] at split
      have size : (frame value.1 value.2).length = (header ++ value.2).length := by
        rw [frame_length, List.length_append, eight]
      refine ⟨rest, rfl, ?_, fun failed => unfailing (left.failures.mp failed), left.ending⟩
      exact (List.append_inj split size).2.symm

theorem read_from_frame {maxFrameBytes head : UInt32} {payload later : Bytes} {feed : Feed}
    (fits : payload.length ≤ maxFrameBytes.toNat)
    (carries : bytes feed = frame head payload ++ later)
    (unfailing : Unfailing feed) (closed : Arrival.closed ∈ feed) :
    ∃ rest, readFrom feed maxFrameBytes = .done (head, payload) rest ∧ bytes rest = later ∧
      Unfailing rest ∧ Arrival.closed ∈ rest := by
  obtain ⟨rest, read, left, working, ending⟩ := read_from_open_frame fits carries unfailing
  exact ⟨rest, read, left, working, ending.mpr closed⟩

/-- A stream that is at its end holds no frame. -/
theorem read_from_ended {maxFrameBytes : UInt32} {feed : Feed} (empty : bytes feed = [])
    (closed : Arrival.closed ∈ feed) : ∃ rest, readFrom feed maxFrameBytes = .failed rest := by
  have told := read_from_spec feed maxFrameBytes
  cases read : readFrom feed maxFrameBytes with
  | blocked =>
      rw [read] at told
      exact absurd (Or.inr closed) told
  | failed rest => exact ⟨rest, rfl⟩
  | done value rest =>
      rw [read] at told
      obtain ⟨complete, -⟩ := told
      rw [empty, read_frame_short maxFrameBytes (by simp)] at complete
      cases complete

/-- The stream ends inside a frame. -/
theorem read_from_unfinished {maxFrameBytes head : UInt32} {payload missing : Bytes} {feed : Feed}
    (fits : payload.length ≤ maxFrameBytes.toNat) (more : missing ≠ [])
    (carries : bytes feed ++ missing = frame head payload) (closed : Arrival.closed ∈ feed) :
    ∃ rest, readFrom feed maxFrameBytes = .failed rest := by
  have told := read_from_spec feed maxFrameBytes
  cases read : readFrom feed maxFrameBytes with
  | blocked =>
      rw [read] at told
      exact absurd (Or.inr closed) told
  | failed rest => exact ⟨rest, rfl⟩
  | done value rest =>
      rw [read] at told
      have start : bytes feed <+: frame head payload := ⟨missing, carries⟩
      obtain ⟨whole, -, -⟩ := complete_is_frame
        (Nat.lt_of_le_of_lt fits maxFrameBytes.toNat_lt) start told.1
      rw [whole, List.append_right_eq_self] at carries
      exact absurd carries more

/-- A stream of frames, with something behind them that no read can make a frame of. -/
theorem reads_all_of_frames {Id : Type} {encode : Id → Bytes → Bytes}
    {read : Feed → UInt32 → Read (Id × Bytes)} (word : Id → UInt32) (id : UInt32 → Id)
    (same : ∀ own, id (word own) = own)
    (encodes : ∀ own payload, encode own payload = frame (word own) payload)
    (reads : ∀ feed maxFrameBytes, read feed maxFrameBytes =
      (readFrom feed maxFrameBytes).map fun pair => (id pair.1, pair.2))
    {maxFrameBytes : UInt32} {frames : List (Id × Bytes)} {feed : Feed} {tail : Bytes}
    (fits : ∀ frame ∈ frames, frame.2.length ≤ maxFrameBytes.toNat)
    (carries : bytes feed = frames.flatMap (fun frame => encode frame.1 frame.2) ++ tail)
    (fails : ∀ rest, bytes rest = tail → Unfailing rest → Arrival.closed ∈ rest →
      ∃ left, readFrom rest maxFrameBytes = .failed left)
    (unfailing : Unfailing feed) (closed : Arrival.closed ∈ feed) :
    ReadsAll (fun feed => read feed maxFrameBytes) frames feed := by
  induction frames generalizing feed with
  | nil =>
      obtain ⟨rest, ended⟩ := fails feed carries unfailing closed
      exact .ended feed rest (by rw [reads, ended]; rfl)
  | cons own frames ih =>
      obtain ⟨own, payload⟩ := own
      rw [List.flatMap_cons, encodes, List.append_assoc] at carries
      obtain ⟨rest, read, left, unfailing, closed⟩ := read_from_frame
        (fits _ (List.mem_cons_self ..)) carries unfailing closed
      apply ReadsAll.frame own payload frames feed rest
      · rw [reads, read, ← same own]
        simp [Read.map, Read.andThen, same]
      · rw [carries, left, List.length_append, frame_length]
      · exact ih (fun other member => fits other (List.mem_cons_of_mem _ member)) left
          unfailing closed

/-- No payload is longer than the limit. -/
theorem read_from_bounded {Id : Type} {id : UInt32 → Id} {maxFrameBytes : UInt32} {feed rest : Feed}
    {own : Id} {payload : Bytes}
    (done : ((readFrom feed maxFrameBytes).map fun pair => (id pair.1, pair.2)) =
      .done (own, payload) rest) : payload.length ≤ maxFrameBytes.toNat := by
  have told := read_from_spec feed maxFrameBytes
  cases read : readFrom feed maxFrameBytes with
  | done value left =>
      rw [read] at told done
      cases done
      exact told.2.1
  | blocked =>
      rw [read] at done
      cases done
  | failed left =>
      rw [read] at done
      cases done

/-- A reader that only gives the header word another type. -/
theorem Faithful.of_read_from {Id : Type} {encode : Id → Bytes → Bytes}
    {read : Feed → UInt32 → Read (Id × Bytes)} (word : Id → UInt32) (id : UInt32 → Id)
    (same : ∀ own, id (word own) = own) (encodes : ∀ own payload, encode own payload =
      frame (word own) payload)
    (reads : ∀ feed maxFrameBytes, read feed maxFrameBytes =
      (readFrom feed maxFrameBytes).map fun pair => (id pair.1, pair.2)) :
    Faithful encode read := by
  refine ⟨?_, ?_, ?_⟩
  · intro maxFrameBytes frames feed fits carries unfailing closed
    apply reads_all_of_frames word id same encodes reads fits _ _ unfailing closed
    · exact []
    · rw [carries, List.append_nil]
    · intro rest empty _ closed
      exact read_from_ended empty closed
  · intro maxFrameBytes feed own payload rest done
    rw [reads] at done
    exact read_from_bounded done
  · intro maxFrameBytes feed ends blocked
    have told := read_from_spec feed maxFrameBytes
    rw [reads] at blocked
    cases read : readFrom feed maxFrameBytes with
    | blocked =>
        rw [read] at told
        exact told ends
    | _ =>
        rw [read] at blocked
        cases blocked

theorem request_reads (feed : Feed) (maxFrameBytes : UInt32) :
    readRequest feed maxFrameBytes =
      (readFrom feed maxFrameBytes).map fun pair => (id pair.1, pair.2) := by
  unfold readRequest
  cases readFrom feed maxFrameBytes <;> rfl

theorem event_reads (feed : Feed) (maxFrameBytes : UInt32) :
    readEvent feed maxFrameBytes =
      (readFrom feed maxFrameBytes).map fun pair => (id pair.1, pair.2) := by
  unfold readEvent
  cases readFrom feed maxFrameBytes <;> rfl

/-- Frames of one kind survive every segmentation and every interruption of their
stream, and no stream makes a reader run on or return too much. -/
theorem wire_round_trip : Faithful encodeRequest readRequest ∧
    Faithful encodeResponse readResponse ∧ Faithful encodeEvent readEvent := by
  refine ⟨?_, ?_, ?_⟩
  · exact Faithful.of_read_from id id (fun _ => rfl) (fun _ _ => rfl) request_reads
  · apply Faithful.of_read_from Int32.toUInt32 UInt32.toInt32 Int32.toInt32_toUInt32
      (fun _ _ => rfl)
    intro feed maxFrameBytes
    rfl
  · exact Faithful.of_read_from id id (fun _ => rfl) (fun _ _ => rfl) event_reads

end TboxFramework.Ipc.Protocol

import TboxFramework.Ipc.FrameReader

/-!
# Writing frames to a socket

The loop behind `writeRequest`, `writeResponse` and `writeEvent`, and what the peer
makes of a frame that it put out. The reader compares the length word with its limit;
the writer compares nothing, and a length of 2^32 or more does not fit its word.
-/

namespace TboxFramework.Ipc.Protocol

open ByteFeed FrameStream

set_option autoImplicit false

/-- What one call of `send` does. -/
inductive SendOutcome
  /-- Of the bytes that it is given it takes one more than `more`, or all. -/
  | accepted (more : Nat)
  | interrupted
  | failed
  | nothing
  deriving DecidableEq

structure Writing where
  /-- What the call returns; none while it has not returned. -/
  answer : Option Bool
  /-- The bytes that went out. -/
  sent : Bytes
  deriving DecidableEq

def writeAll : List SendOutcome → Bytes → Writing
  | _, [] => ⟨some true, []⟩
  | [], _ :: _ => ⟨none, []⟩
  | .accepted more :: rest, data =>
      let later := writeAll rest (data.drop (more + 1))
      ⟨later.answer, data.take (more + 1) ++ later.sent⟩
  | .interrupted :: rest, data => writeAll rest data
  | .failed :: _, _ => ⟨some false, []⟩
  | .nothing :: _, _ => ⟨some false, []⟩

def writeRequest (outcomes : List SendOutcome) (methodId : UInt32) (paramsJson : Bytes) :
    Writing :=
  writeAll outcomes (encodeRequest methodId paramsJson)

def writeResponse (outcomes : List SendOutcome) (statusCode : Int32) (responseJson : Bytes) :
    Writing :=
  writeAll outcomes (encodeResponse statusCode responseJson)

def writeEvent (outcomes : List SendOutcome) (eventType : UInt32) (payloadJson : Bytes) :
    Writing :=
  writeAll outcomes (encodeEvent eventType payloadJson)

/-- A call that returns true has put everything out. -/
theorem write_all_done {outcomes : List SendOutcome} {data : Bytes}
    (done : (writeAll outcomes data).answer = some true) :
    (writeAll outcomes data).sent = data := by
  induction outcomes generalizing data with
  | nil =>
      cases data with
      | nil => rfl
      | cons byte rest => cases done
  | cons outcome rest induction =>
      cases data with
      | nil => rfl
      | cons byte data =>
          cases outcome with
          | accepted more =>
              have taken : (writeAll (.accepted more :: rest) (byte :: data)).sent =
                  (byte :: data).take (more + 1) ++
                    (writeAll rest ((byte :: data).drop (more + 1))).sent := rfl
              rw [taken, induction done, List.take_append_drop]
          | interrupted =>
              exact @induction (byte :: data) done
          | failed => cases done
          | nothing => cases done

/-- One `send` may take the whole frame. -/
theorem write_all_at_once (data : Bytes) :
    writeAll [.accepted data.length] data = ⟨some true, data⟩ := by
  cases data with
  | nil => rfl
  | cons byte rest =>
      have none_left : (byte :: rest).drop ((byte :: rest).length + 1) = [] :=
        List.drop_eq_nil_of_le (Nat.le_succ _)
      have whole : (byte :: rest).take ((byte :: rest).length + 1) = byte :: rest :=
        List.take_of_length_le (Nat.le_succ _)
      change Writing.mk (writeAll [] ((byte :: rest).drop ((byte :: rest).length + 1))).answer
        ((byte :: rest).take ((byte :: rest).length + 1) ++
          (writeAll [] ((byte :: rest).drop ((byte :: rest).length + 1))).sent) = _
      rw [none_left, whole, writeAll]
      simp

/-! ## The peer -/

/-- The peer reads these bytes, however they arrive and whatever follows them, as this
frame, and stops at their end. -/
def ReadsAs {Id : Type} (read : Feed → Read (Id × Bytes)) (sent : Bytes) (id : Id)
    (payload : Bytes) : Prop :=
  ∀ feed later, Unfailing feed → bytes feed = sent ++ later →
    ∃ rest, read feed = .done (id, payload) rest ∧ bytes rest = later

/-- A writer and a reader agree on a payload: what the writer reports as written is read,
and what would not be read is not begun. -/
structure Agrees {Id : Type} (encode : Id → Bytes → Bytes)
    (write : List SendOutcome → Id → Bytes → Writing) (read : Feed → Read (Id × Bytes))
    (id : Id) (payload : Bytes) : Prop where
  delivered : ∀ outcomes, (write outcomes id payload).answer = some true →
    ReadsAs read (write outcomes id payload).sent id payload
  refused : ¬ ReadsAs read (encode id payload) id payload →
    ∀ outcomes, write outcomes id payload = ⟨some false, []⟩

/-- A reader that only gives the header word another type agrees with its writer exactly
on the payloads within the limit. -/
theorem agrees_of_read_from {Id : Type} {encode : Id → Bytes → Bytes}
    {read : Feed → UInt32 → Read (Id × Bytes)} (word : Id → UInt32) (id : UInt32 → Id)
    (same : ∀ own, id (word own) = own)
    (encodes : ∀ own payload, encode own payload = frame (word own) payload)
    (reads : ∀ feed maxFrameBytes, read feed maxFrameBytes =
      (readFrom feed maxFrameBytes).map fun pair => (id pair.1, pair.2))
    (maxFrameBytes : UInt32) (own : Id) (payload : Bytes) :
    Agrees encode (fun outcomes own payload => writeAll outcomes (encode own payload))
        (fun feed => read feed maxFrameBytes) own payload ↔
      payload.length ≤ maxFrameBytes.toNat := by
  constructor
  · intro agrees
    have sent := agrees.delivered [.accepted (encode own payload).length]
      (by rw [write_all_at_once])
    rw [write_all_at_once] at sent
    cases carried : encode own payload with
    | nil =>
        have long := congrArg List.length carried
        rw [encodes, frame_length, List.length_nil] at long
        omega
    | cons first more =>
        obtain ⟨rest, done, _⟩ := sent [.chunk first more] []
          (by simp [Unfailing]) (by rw [carried]; simp [bytes])
        change read _ maxFrameBytes = _ at done
        rw [reads] at done
        exact read_from_bounded done
  · intro fits
    have received : ReadsAs (fun feed => read feed maxFrameBytes) (encode own payload) own
        payload := by
      intro feed later unfailing carries
      rw [encodes] at carries
      obtain ⟨rest, done, left, _⟩ := read_from_open_frame fits carries unfailing
      refine ⟨rest, ?_, left⟩
      change read feed maxFrameBytes = _
      rw [reads, done]
      simp [Read.map, Read.andThen, same]
    refine ⟨?_, fun misread => absurd received misread⟩
    intro outcomes done
    rw [write_all_done done]
    exact received

/-- Writers and readers with one limit agree on a payload exactly when it is within it. -/
theorem sender_receiver_agree_iff (maxFrameBytes methodId eventType : UInt32)
    (statusCode : Int32) (payload : Bytes) :
    (Agrees encodeRequest writeRequest (fun feed => readRequest feed maxFrameBytes) methodId
        payload ↔ payload.length ≤ maxFrameBytes.toNat) ∧
      (Agrees encodeResponse writeResponse (fun feed => readResponse feed maxFrameBytes)
        statusCode payload ↔ payload.length ≤ maxFrameBytes.toNat) ∧
      (Agrees encodeEvent writeEvent (fun feed => readEvent feed maxFrameBytes) eventType
        payload ↔ payload.length ≤ maxFrameBytes.toNat) := by
  refine ⟨?_, ?_, ?_⟩
  · exact agrees_of_read_from id id (fun _ => rfl) (fun _ _ => rfl) request_reads _ _ _
  · exact agrees_of_read_from Int32.toUInt32 UInt32.toInt32 Int32.toInt32_toUInt32
      (fun _ _ => rfl) (fun _ _ => rfl) _ _ _
  · exact agrees_of_read_from id id (fun _ => rfl) (fun _ _ => rfl) event_reads _ _ _

/-- A payload of five bytes is written and refused by a peer whose limit is four. -/
theorem oversize_request_written :
    (writeRequest [.accepted 12] 7 [1, 2, 3, 4, 5]).answer = some true ∧
      ¬ Agrees encodeRequest writeRequest (fun feed => readRequest feed 4) 7
        [1, 2, 3, 4, 5] := by
  constructor
  · decide
  · intro agrees
    obtain ⟨rest, done, _⟩ := agrees.delivered [.accepted 12] (by decide)
      [.chunk 7 [0, 0, 0, 5, 0, 0, 0, 1, 2, 3, 4, 5]] [] (by simp [Unfailing]) (by decide)
    change readRequest _ 4 = _ at done
    rw [request_reads] at done
    exact absurd (read_from_bounded done) (by decide)

end TboxFramework.Ipc.Protocol

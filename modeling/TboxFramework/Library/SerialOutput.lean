import Mathlib.Data.List.TakeDrop

/-!
# One output for many writers

Writers take turns: whoever has begun a frame puts it out to its end, in as many
pieces as it takes, before the next one begins. A piece that cannot be put out
makes its writer give up, and after it nothing goes out any more.
-/

namespace SerialOutput

set_option autoImplicit false

variable {Frame : Type}

structure Output (Frame : Type) where
  /-- The frames that went out whole, in their order. -/
  written : List Frame
  /-- How much was out already when a piece failed for the first time. -/
  failedAt : Option Nat
  deriving DecidableEq, Repr

def Output.empty : Output Frame := ⟨[], none⟩

def Output.write (output : Output Frame) (frame : Frame) : Output Frame :=
  { output with written := output.written ++ [frame] }

def Output.fail (output : Output Frame) (size : Nat) : Output Frame :=
  { output with failedAt := some (output.failedAt.getD size) }

structure Stream (Frame : Type) where
  output : Output Frame
  /-- The frame that is going out, with what is left of it. -/
  current : Option (Frame × List UInt8)
  bytes : List UInt8

variable (encode : Frame → List UInt8) (allowed : Frame → Prop)

/-- What a writer can do to the stream. -/
inductive Move (stream : Stream Frame) : Stream Frame → Prop
  | stays : Move stream stream
  | begins (frame : Frame) (permitted : allowed frame) (free : stream.current = none) :
      Move stream { stream with current := some (frame, encode frame) }
  | sends (frame : Frame) (rest : List UInt8) (count : Nat)
      (here : stream.current = some (frame, rest)) (short : count < rest.length)
      (working : stream.output.failedAt = none) :
      Move stream { stream with
        current := some (frame, rest.drop count)
        bytes := stream.bytes ++ rest.take count }
  | sendsAll (frame : Frame) (rest : List UInt8)
      (here : stream.current = some (frame, rest)) (working : stream.output.failedAt = none) :
      Move stream ⟨stream.output.write frame, none, stream.bytes ++ rest⟩
  | fails (frame : Frame) (rest : List UInt8) (here : stream.current = some (frame, rest)) :
      Move stream ⟨stream.output.fail stream.bytes.length, none, stream.bytes⟩

/-- A frame with something of it missing. -/
structure Partly (frame : Frame) (tail rest : List UInt8) : Prop where
  permitted : allowed frame
  missing : rest ≠ []
  split : tail ++ rest = encode frame

/-- What stands behind the whole frames of a stream. -/
def Stream.Trails (stream : Stream Frame) (tail : List UInt8) : Prop :=
  match stream.output.failedAt, stream.current with
  | none, none => tail = []
  | none, some (frame, rest) => Partly encode allowed frame tail rest
  | some size, _ => stream.bytes.length = size ∧ ∃ frame rest, Partly encode allowed frame tail rest

/-- The stream is made of the whole frames, in their order, and of nothing but
the beginning of one more. -/
structure Stream.Whole (stream : Stream Frame) : Prop where
  permitted : ∀ frame ∈ stream.output.written, allowed frame
  bytes : ∃ tail, stream.bytes = stream.output.written.flatMap encode ++ tail ∧
    stream.Trails encode allowed tail

variable {encode allowed}

theorem Stream.Whole.initially : Stream.Whole encode allowed ⟨.empty, none, []⟩ :=
  ⟨nofun, [], rfl, rfl⟩

/-- A writer at its turn keeps the stream whole. -/
theorem Move.whole {stream next : Stream Frame} (nonempty : ∀ frame, encode frame ≠ [])
    (move : Move encode allowed stream next) (whole : stream.Whole encode allowed) :
    next.Whole encode allowed := by
  obtain ⟨permitted, tail, bytes, trails⟩ := whole
  unfold Stream.Trails at trails
  cases move with
  | stays => exact ⟨permitted, tail, bytes, trails⟩
  | begins frame own free =>
      refine ⟨permitted, tail, bytes, ?_⟩
      unfold Stream.Trails
      rw [free] at trails
      cases failed : stream.output.failedAt with
      | none =>
          rw [failed] at trails
          exact ⟨own, nonempty frame, by rw [trails, List.nil_append]⟩
      | some size =>
          rw [failed] at trails
          exact trails
  | sends frame rest count here short working =>
      rw [here, working] at trails
      refine ⟨permitted, tail ++ rest.take count, ?_, ?_⟩
      · simp only [bytes, List.append_assoc]
      · unfold Stream.Trails
        rw [working]
        refine ⟨trails.permitted, ?_, ?_⟩
        · intro nothing
          have size := List.drop_eq_nil_iff.mp nothing
          omega
        · rw [List.append_assoc, List.take_append_drop]
          exact trails.split
  | sendsAll frame rest here working =>
      rw [here, working] at trails
      refine ⟨?_, [], ?_, ?_⟩
      · intro other member
        rcases List.mem_append.mp member with old | new
        · exact permitted other old
        · rw [List.mem_singleton.mp new]
          exact trails.permitted
      · simp only [Output.write, bytes, List.flatMap_append, List.flatMap_singleton, ← trails.split,
          List.append_assoc, List.append_nil]
      · unfold Stream.Trails Output.write
        rw [working]
  | fails frame rest here =>
      refine ⟨permitted, tail, bytes, ?_⟩
      rw [here] at trails
      unfold Stream.Trails Output.fail
      cases failed : stream.output.failedAt with
      | none =>
          rw [failed] at trails
          exact ⟨rfl, frame, rest, trails⟩
      | some size =>
          rw [failed] at trails
          exact trails

/-- Whoever looks at a whole stream sees at most the beginning of one frame behind
the whole ones. -/
theorem Stream.Trails.partly {stream : Stream Frame} {tail : List UInt8}
    (trails : stream.Trails encode allowed tail) :
    tail = [] ∨ ∃ frame rest, Partly encode allowed frame tail rest := by
  unfold Stream.Trails at trails
  split at trails
  · exact Or.inl trails
  · exact Or.inr ⟨_, _, trails⟩
  · exact Or.inr trails.2

/-- While no frame is going out and none has failed, there are whole frames only. -/
theorem Stream.Whole.at_rest {stream : Stream Frame} (whole : stream.Whole encode allowed)
    (idle : stream.current = none) (working : stream.output.failedAt = none) :
    stream.bytes = stream.output.written.flatMap encode := by
  obtain ⟨-, tail, bytes, trails⟩ := whole
  unfold Stream.Trails at trails
  rw [idle, working] at trails
  rw [bytes, trails, List.append_nil]

/-- After a failure the stream does not grow. -/
theorem Stream.Whole.ended {stream : Stream Frame} (whole : stream.Whole encode allowed)
    {size : Nat} (failed : stream.output.failedAt = some size) : stream.bytes.length = size := by
  obtain ⟨-, tail, -, trails⟩ := whole
  unfold Stream.Trails at trails
  rw [failed] at trails
  exact trails.1

end SerialOutput

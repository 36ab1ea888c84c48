import Mathlib.Data.List.Basic
import Mathlib.Data.List.TakeDrop

/-!
# Frames in a byte stream

A frame is two 32-bit words, a head of the user's choice and the length of the
payload, and then the payload. `readFrame` says after any number of received
bytes how many more the reader asks for, so it never takes a byte that follows
the frame it reads.
-/

namespace FrameStream

set_option autoImplicit false

/-- A word in the byte order of a little-endian machine. -/
def word (value : UInt32) : List UInt8 :=
  [UInt8.ofNat value.toNat, UInt8.ofNat (value.toNat / 256), UInt8.ofNat (value.toNat / 65536),
    UInt8.ofNat (value.toNat / 16777216)]

def wordValue (bytes : List UInt8) : UInt32 :=
  UInt32.ofNat (bytes.foldr (fun byte rest => byte.toNat + 256 * rest) 0)

@[simp] theorem word_length (value : UInt32) : (word value).length = 4 := rfl

@[simp] theorem word_value_word (value : UInt32) : wordValue (word value) = value := by
  have bound : value.toNat < 4294967296 := value.toNat_lt
  have digits : (word value).foldr (fun byte rest => byte.toNat + 256 * rest) 0 = value.toNat := by
    simp only [word, List.foldr_cons, List.foldr_nil, UInt8.toNat_ofNat']
    omega
  rw [wordValue, digits, UInt32.ofNat_toNat]

/-- The length word keeps the length modulo 2^32. -/
def frame (head : UInt32) (payload : List UInt8) : List UInt8 :=
  word head ++ word (UInt32.ofNat payload.length) ++ payload

@[simp] theorem frame_length (head : UInt32) (payload : List UInt8) :
    (frame head payload).length = 8 + payload.length := by
  simp only [frame, List.length_append, word_length]

inductive Reading
  | more (count : Nat)
  | overLimit
  | complete (head : UInt32) (payload : List UInt8)
  deriving DecidableEq, Repr

def readFrame (limit : UInt32) (got : List UInt8) : Reading :=
  if got.length < 8 then .more (8 - got.length)
  else
    let length := wordValue ((got.drop 4).take 4)
    if limit < length then .overLimit
    else if got.length < 8 + length.toNat then .more (8 + length.toNat - got.length)
    else .complete (wordValue (got.take 4)) ((got.drop 8).take length.toNat)

theorem read_frame_short (limit : UInt32) {got : List UInt8} (short : got.length < 8) :
    readFrame limit got = .more (8 - got.length) := if_pos short

/-- What the reader sees once it has the header and part of what follows. -/
theorem read_frame_of_header {limit : UInt32} {header rest : List UInt8}
    (eight : header.length = 8) :
    readFrame limit (header ++ rest) =
      if limit < wordValue (header.drop 4) then .overLimit
      else if rest.length < (wordValue (header.drop 4)).toNat then
        .more ((wordValue (header.drop 4)).toNat - rest.length)
      else .complete (wordValue (header.take 4)) (rest.take (wordValue (header.drop 4)).toNat) := by
  have long : ¬(header ++ rest).length < 8 := by
    rw [List.length_append]
    omega
  have size : (header ++ rest).length = 8 + rest.length := by rw [List.length_append, eight]
  have heads : (header ++ rest).take 4 = header.take 4 := List.take_append_of_le_length (by omega)
  have lengths : ((header ++ rest).drop 4).take 4 = header.drop 4 := by
    rw [List.drop_append_of_le_length (by omega), List.take_append_of_le_length (by simp; omega)]
    exact List.take_of_length_le (by simp; omega)
  have rests : (header ++ rest).drop 8 = rest := by rw [← eight, List.drop_left]
  unfold readFrame
  simp only [size, heads, lengths, rests, Nat.add_lt_add_iff_left, Nat.add_sub_add_left]
  rw [if_neg (by omega)]

theorem read_frame_header (limit head length : UInt32) (rest : List UInt8) :
    readFrame limit (word head ++ word length ++ rest) =
      if limit < length then .overLimit
      else if rest.length < length.toNat then .more (length.toNat - rest.length)
      else .complete head (rest.take length.toNat) := by
  have heads : (word head ++ word length).take 4 = word head := rfl
  have lengths : (word head ++ word length).drop 4 = word length := rfl
  rw [read_frame_of_header rfl, heads, lengths, word_value_word, word_value_word]

/-- A proper prefix of a frame is less than a header, or a header and less than
the payload. -/
theorem prefix_frame_cases {head : UInt32} {payload got : List UInt8}
    (start : got <+: frame head payload) :
    got.length < 8 ∨ ∃ part, got = word head ++ word (UInt32.ofNat payload.length) ++ part ∧
      part <+: payload := by
  by_cases short : got.length < 8
  · exact Or.inl short
  · right
    have size : (word head ++ word (UInt32.ofNat payload.length)).length ≤ got.length := by
      simpa using Nat.le_of_not_lt short
    obtain ⟨part, rfl⟩ := List.prefix_of_prefix_length_le (List.prefix_append _ payload) start size
    exact ⟨part, rfl, (List.prefix_append_right_inj _).mp start⟩

theorem length_word_to_nat {payload : List UInt8} (bound : payload.length < UInt32.size) :
    (UInt32.ofNat payload.length).toNat = payload.length := by
  rw [UInt32.toNat_ofNat']
  exact Nat.mod_eq_of_lt bound

/-- A frame at the start of a stream is read as it was written, or refused. -/
theorem read_frame_append (limit head : UInt32) {payload : List UInt8}
    (bound : payload.length < UInt32.size) (rest : List UInt8) :
    readFrame limit (frame head payload ++ rest) =
      if limit < UInt32.ofNat payload.length then .overLimit else .complete head payload := by
  have whole : ¬(payload ++ rest).length < payload.length := by
    simp only [List.length_append]
    omega
  rw [frame, List.append_assoc, read_frame_header, length_word_to_nat bound, if_neg whole,
    List.take_left]

/-- Inside a frame the reader completes nothing but this frame. -/
theorem complete_is_frame {limit head found : UInt32} {payload body got : List UInt8}
    (bound : payload.length < UInt32.size) (start : got <+: frame head payload)
    (complete : readFrame limit got = .complete found body) :
    got = frame head payload ∧ found = head ∧ body = payload := by
  rcases prefix_frame_cases start with short | ⟨part, rfl, inside⟩
  · rw [read_frame_short limit short] at complete
    cases complete
  · rw [read_frame_header, length_word_to_nat bound] at complete
    split at complete
    · cases complete
    · split at complete
      · cases complete
      · rename_i whole
        have same : part = payload := inside.eq_of_length_le (Nat.le_of_not_lt whole)
        rw [Reading.complete.injEq] at complete
        subst same
        exact ⟨rfl, complete.1.symm, by rw [← complete.2, List.take_length]⟩

end FrameStream

import Mathlib.Data.List.Basic

/-!
# UTF-8 text as bytes

Validity of a byte list is that of the byte array of its bytes. A byte below 128 is a
character of its own, so that it separates two texts: the whole is valid exactly
when both sides are.
-/

namespace TboxFramework.Utf8

set_option autoImplicit false

def Valid (bytes : List UInt8) : Prop := bytes.toByteArray.IsValidUTF8

instance (bytes : List UInt8) : Decidable (Valid bytes) :=
  inferInstanceAs (Decidable bytes.toByteArray.IsValidUTF8)

def IsAscii (byte : UInt8) : Prop := byte < 128

instance (byte : UInt8) : Decidable (IsAscii byte) := inferInstanceAs (Decidable (_ < _))

def AllAscii (bytes : List UInt8) : Prop := ∀ byte ∈ bytes, IsAscii byte

instance (bytes : List UInt8) : Decidable (AllAscii bytes) := List.decidableBAll IsAscii bytes

theorem valid_iff_encoded {bytes : List UInt8} :
    Valid bytes ↔ ∃ chars : List Char, bytes = chars.flatMap String.utf8EncodeChar := by
  constructor
  · intro valid
    obtain ⟨chars, encoded⟩ := valid
    refine ⟨chars, ?_⟩
    have same := congrArg (fun array => array.data.toList) encoded
    simpa [List.utf8Encode] using same
  · intro encoded
    obtain ⟨chars, encoded⟩ := encoded
    exact ⟨chars, by rw [encoded, List.utf8Encode]⟩

/-- A character is one byte below 128 or several bytes that are not. -/
theorem encode_char_cases (char : Char) :
    (∃ byte, IsAscii byte ∧ String.utf8EncodeChar char = [byte]) ∨
      (∀ byte ∈ String.utf8EncodeChar char, ¬ IsAscii byte) := by
  unfold String.utf8EncodeChar IsAscii
  simp only [UInt8.lt_iff_toNat_lt]
  generalize char.val.toNat = code
  by_cases one : code ≤ 127
  · rw [if_pos one]
    refine .inl ⟨_, ?_, rfl⟩
    simp
    omega
  · rw [if_neg one]
    refine .inr ?_
    split
    · simp
      omega
    · split
      · simp
        omega
      · simp
        omega

theorem valid_string (string : String) : Valid string.toUTF8.data.toList := by
  have same : string.toUTF8.data.toList.toByteArray = string.toByteArray :=
    ByteArray.ext List.data_toByteArray
  unfold Valid
  rw [same]
  exact string.isValidUTF8

theorem valid_nil : Valid [] := valid_iff_encoded.mpr ⟨[], rfl⟩

theorem Valid.append {front back : List UInt8} (frontValid : Valid front)
    (backValid : Valid back) : Valid (front ++ back) := by
  rw [valid_iff_encoded] at frontValid backValid ⊢
  obtain ⟨frontChars, rfl⟩ := frontValid
  obtain ⟨backChars, rfl⟩ := backValid
  exact ⟨frontChars ++ backChars, List.flatMap_append.symm⟩

theorem valid_encoded (char : Char) : Valid (String.utf8EncodeChar char) :=
  valid_iff_encoded.mpr ⟨[char], (List.flatMap_singleton _ _).symm⟩

theorem valid_ascii {byte : UInt8} (ascii : IsAscii byte) : Valid [byte] := by
  have bound : byte.toNat < 128 := UInt8.lt_iff_toNat_lt.mp ascii
  have code : (UInt32.ofNat byte.toNat).toNat = byte.toNat :=
    UInt32.toNat_ofNat_of_lt' (Nat.lt_trans bound (by decide))
  have scalar : (UInt32.ofNat byte.toNat).isValidChar := by
    refine .inl ?_
    rw [code]
    omega
  have encoded : String.utf8EncodeChar ⟨UInt32.ofNat byte.toNat, scalar⟩ = [byte] := by
    unfold String.utf8EncodeChar
    simp only [code]
    rw [if_pos (by omega), UInt8.ofNat_toNat]
  rw [← encoded]
  exact valid_encoded _

theorem valid_of_ascii {bytes : List UInt8} (ascii : AllAscii bytes) : Valid bytes := by
  induction bytes with
  | nil => exact valid_nil
  | cons byte rest induction =>
      exact (valid_ascii (ascii byte List.mem_cons_self)).append
        (induction fun other member => ascii other (List.mem_cons_of_mem byte member))

/-- A byte below 128 ends what stands before it. -/
theorem encoded_split {char : Char} {front back tail : List UInt8} {byte : UInt8}
    (ascii : IsAscii byte) (same : front ++ byte :: back = String.utf8EncodeChar char ++ tail) :
    (front = [] ∧ back = tail) ∨
      ∃ rest, front = String.utf8EncodeChar char ++ rest ∧ tail = rest ++ byte :: back := by
  cases List.append_eq_append_iff.mp same with
  | inr inside =>
      obtain ⟨rest, frontEq, tailEq⟩ := inside
      exact .inr ⟨rest, frontEq, tailEq⟩
  | inl across =>
      obtain ⟨rest, encodedEq, backEq⟩ := across
      cases rest with
      | nil =>
          rw [List.append_nil] at encodedEq
          exact .inr ⟨[], by rw [encodedEq, List.append_nil], backEq.symm⟩
      | cons first rest =>
          rw [List.cons_append, List.cons.injEq] at backEq
          have member : byte ∈ String.utf8EncodeChar char := by
            rw [encodedEq, backEq.1]
            exact List.mem_append_right front List.mem_cons_self
          cases encode_char_cases char with
          | inr large => exact absurd ascii (large byte member)
          | inl single =>
              obtain ⟨only, _, onlyEq⟩ := single
              rw [onlyEq, List.singleton_eq_append_iff] at encodedEq
              simp only [List.cons.injEq, reduceCtorEq, and_false, or_false] at encodedEq
              rw [encodedEq.2.2, List.nil_append] at backEq
              exact .inl ⟨encodedEq.1, backEq.2⟩

/-- Where a valid text has a byte below 128, both sides are valid. -/
theorem valid_split {front back : List UInt8} {byte : UInt8} (ascii : IsAscii byte)
    (valid : Valid (front ++ byte :: back)) : Valid front ∧ Valid back := by
  rw [valid_iff_encoded] at valid
  obtain ⟨chars, encoded⟩ := valid
  induction chars generalizing front with
  | nil => simp at encoded
  | cons char rest induction =>
      rw [List.flatMap_cons] at encoded
      cases encoded_split ascii encoded with
      | inl here =>
          obtain ⟨rfl, rfl⟩ := here
          exact ⟨valid_nil, valid_iff_encoded.mpr ⟨rest, rfl⟩⟩
      | inr later =>
          obtain ⟨remaining, rfl, split⟩ := later
          have both := induction split.symm
          exact ⟨(valid_encoded char).append both.1, both.2⟩

theorem valid_separated_iff {front back : List UInt8} {byte : UInt8} (ascii : IsAscii byte) :
    Valid (front ++ byte :: back) ↔ Valid front ∧ Valid back := by
  constructor
  · exact valid_split ascii
  · intro both
    exact both.1.append ((valid_ascii ascii).append both.2)

theorem valid_ascii_append_iff {front back : List UInt8}
    (ascii : AllAscii front) : Valid (front ++ back) ↔ Valid back := by
  induction front with
  | nil => exact Iff.rfl
  | cons byte rest induction =>
      have split : Valid ([] ++ byte :: (rest ++ back)) ↔ Valid [] ∧ Valid (rest ++ back) :=
        valid_separated_iff (ascii byte List.mem_cons_self)
      rw [List.nil_append] at split
      rw [List.cons_append, split,
        induction fun other member => ascii other (List.mem_cons_of_mem byte member)]
      exact and_iff_right valid_nil

/-- A nonempty run of bytes below 128 separates like one of them. -/
theorem valid_joined_iff {front joint back : List UInt8} (nonempty : joint ≠ [])
    (ascii : AllAscii joint) :
    Valid (front ++ (joint ++ back)) ↔ Valid front ∧ Valid back := by
  cases joint with
  | nil => exact absurd rfl nonempty
  | cons first rest =>
      rw [List.cons_append, valid_separated_iff (ascii first List.mem_cons_self),
        valid_ascii_append_iff fun byte member => ascii byte (List.mem_cons_of_mem first member)]

theorem valid_ended_iff {front joint : List UInt8} (nonempty : joint ≠ [])
    (ascii : AllAscii joint) : Valid (front ++ joint) ↔ Valid front := by
  have joined := @valid_joined_iff front joint [] nonempty ascii
  rw [List.append_nil] at joined
  rw [joined]
  exact and_iff_left valid_nil

/-- Replacing bytes below 128 by texts of such bytes keeps the validity of a text. -/
theorem valid_flat_map_iff {replaced : UInt8 → List UInt8}
    (large : ∀ byte, ¬ IsAscii byte → replaced byte = [byte])
    (small : ∀ byte, IsAscii byte → replaced byte ≠ [] ∧ AllAscii (replaced byte))
    (bytes : List UInt8) : Valid (bytes.flatMap replaced) ↔ Valid bytes := by
  -- Bytes of a character that has begun are carried along in front.
  suffices general : ∀ front, Valid (front ++ bytes.flatMap replaced) ↔ Valid (front ++ bytes) from
    general []
  induction bytes with
  | nil => exact fun front => Iff.rfl
  | cons byte rest induction =>
      intro front
      rw [List.flatMap_cons]
      by_cases ascii : IsAscii byte
      · have text := small byte ascii
        have tail := induction []
        rw [List.nil_append, List.nil_append] at tail
        rw [valid_joined_iff text.1 text.2, valid_separated_iff ascii, tail]
      · rw [large byte ascii, ← List.append_assoc, induction (front ++ [byte]), List.append_assoc,
          List.singleton_append]

end TboxFramework.Utf8

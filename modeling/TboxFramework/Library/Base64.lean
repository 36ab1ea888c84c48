import TboxFramework.Library.BitString
import Mathlib.Tactic.Ring

/-!
# The base 64 encoding

The standard encoding: the bits of a byte string in groups of six, each a character of the
alphabet, and pad characters up to a multiple of four. Read back, characters denote the
whole bytes of their bits.
-/

namespace Base64

open BitString

set_option autoImplicit false

/-- The letters, the digits, plus and slash. -/
def alphabet : List UInt8 :=
  (List.range 26).map (fun index => UInt8.ofNat (65 + index)) ++
    (List.range 26).map (fun index => UInt8.ofNat (97 + index)) ++
    (List.range 10).map (fun index => UInt8.ofNat (48 + index)) ++ [43, 47]

/-- The equals sign. -/
def pad : UInt8 := 61

def symbol (index : Nat) : UInt8 := alphabet.getD index 0

/-- The numbers of six bits that a byte string is cut into; zero bits fill the last one. -/
def sextets (data : List UInt8) : List Nat :=
  let string := join 8 (data.map UInt8.toNat)
  (groups 6 (string ++ List.replicate ((6 - string.length % 6) % 6) false)).map number

def encode (data : List UInt8) : List UInt8 :=
  let symbols := (sextets data).map symbol
  symbols ++ List.replicate ((4 - symbols.length % 4) % 4) pad

/-- The whole bytes of the bit string that characters denote. -/
def octets (indices : List Nat) : List UInt8 :=
  (groups 8 (join 6 indices)).map fun group => UInt8.ofNat (number group)

def index (byte : UInt8) : Nat := alphabet.idxOf byte

/-- Everything from the first other character on is ignored. -/
def decode (text : List UInt8) : List UInt8 :=
  octets ((text.takeWhile fun byte => decide (byte ∈ alphabet)).map index)

/-! ## Three bytes and four characters -/

theorem three_bytes {first second third : Nat} (secondSmall : second < 256)
    (thirdSmall : third < 256) :
    bits 8 first ++ (bits 8 second ++ bits 8 third) =
      bits 6 (first / 4) ++ (bits 6 (first % 4 * 16 + second / 16) ++
        (bits 6 (second % 16 * 4 + third / 64) ++ bits 6 (third % 64))) := by
  have same : first * 65536 + (second * 256 + third) =
      first / 4 * 262144 + ((first % 4 * 16 + second / 16) * 4096 +
        ((second % 16 * 4 + third / 64) * 64 + third % 64)) := by omega
  rw [bits_append (by omega), bits_append (by omega), bits_append (by omega),
    bits_append (by omega), bits_append (by omega)]
  simp only [Nat.reduceAdd, Nat.reducePow]
  rw [same]

theorem two_bytes {first second : Nat} (secondSmall : second < 256) :
    bits 8 first ++ (bits 8 second ++ List.replicate 2 false) =
      bits 6 (first / 4) ++ (bits 6 (first % 4 * 16 + second / 16) ++
        bits 6 (second % 16 * 4)) := by
  have same : first * 1024 + (second * 4 + 0) =
      first / 4 * 4096 + ((first % 4 * 16 + second / 16) * 64 + second % 16 * 4) := by omega
  rw [← bits_zero, bits_append (by omega), bits_append (by omega), bits_append (by omega),
    bits_append (by omega)]
  simp only [Nat.reduceAdd, Nat.reducePow]
  rw [same]

theorem one_byte (first : Nat) :
    bits 8 first ++ List.replicate 4 false = bits 6 (first / 4) ++ bits 6 (first % 4 * 16) := by
  have same : first * 16 + 0 = first / 4 * 64 + first % 4 * 16 := by omega
  rw [← bits_zero, bits_append (by omega), bits_append (by omega)]
  simp only [Nat.reduceAdd, Nat.reducePow]
  rw [same]

theorem sextets_block (first second third : UInt8) (rest : List UInt8) :
    sextets (first :: second :: third :: rest) =
      first.toNat / 4 :: (first.toNat % 4 * 16 + second.toNat / 16) ::
        (second.toNat % 16 * 4 + third.toNat / 64) :: third.toNat % 64 :: sextets rest := by
  have firstSmall := first.toNat_lt
  have secondSmall := second.toNat_lt
  have thirdSmall := third.toNat_lt
  have split := @three_bytes first.toNat _ _ secondSmall thirdSmall
  have length : (join 8 ((first :: second :: third :: rest).map UInt8.toNat)).length % 6 =
      (join 8 (rest.map UInt8.toNat)).length % 6 := by
    simp only [join_length, List.length_map, List.length_cons]
    omega
  unfold sextets
  simp only
  rw [length]
  simp only [List.map_cons, join_cons]
  rw [← List.append_assoc (bits 8 second.toNat), ← List.append_assoc (bits 8 first.toNat), split]
  simp only [List.append_assoc]
  rw [groups_append _ (by omega) (bits_length 6 _), groups_append _ (by omega) (bits_length 6 _),
    groups_append _ (by omega) (bits_length 6 _), groups_append _ (by omega) (bits_length 6 _)]
  simp only [List.map_cons]
  rw [number_bits (by omega), number_bits (by omega), number_bits (by omega),
    number_bits (by omega)]

theorem sextets_two (first second : UInt8) :
    sextets [first, second] = [first.toNat / 4, first.toNat % 4 * 16 + second.toNat / 16,
      second.toNat % 16 * 4] := by
  have firstSmall := first.toNat_lt
  have secondSmall := second.toNat_lt
  have split := @two_bytes first.toNat _ secondSmall
  have shape : join 8 ([first, second].map UInt8.toNat) =
      bits 8 first.toNat ++ bits 8 second.toNat := by
    simp [join]
  unfold sextets
  simp only [shape, List.length_append, bits_length]
  rw [List.append_assoc]
  change (groups 6 (_ ++ (_ ++ List.replicate 2 false))).map number = _
  rw [split, groups_append _ (by omega) (bits_length 6 _),
    groups_append _ (by omega) (bits_length 6 _), ← List.append_nil (bits 6 (_ % 16 * 4)),
    groups_append _ (by omega) (bits_length 6 _), groups_short (by simp)]
  simp only [List.map_cons, List.map_nil]
  rw [number_bits (by omega), number_bits (by omega), number_bits (by omega)]

theorem sextets_one (first : UInt8) :
    sextets [first] = [first.toNat / 4, first.toNat % 4 * 16] := by
  have firstSmall := first.toNat_lt
  have shape : join 8 ([first].map UInt8.toNat) = bits 8 first.toNat := by simp [join]
  unfold sextets
  simp only [shape, bits_length]
  change (groups 6 (_ ++ List.replicate 4 false)).map number = _
  rw [one_byte, groups_append _ (by omega) (bits_length 6 _),
    ← List.append_nil (bits 6 (_ % 4 * 16)), groups_append _ (by omega) (bits_length 6 _),
    groups_short (by simp)]
  simp only [List.map_cons, List.map_nil]
  rw [number_bits (by omega), number_bits (by omega)]

/-- Four characters denote three bytes. -/
theorem four_sextets {first second third fourth : Nat} (secondSmall : second < 64)
    (thirdSmall : third < 64) (fourthSmall : fourth < 64) :
    bits 6 first ++ (bits 6 second ++ (bits 6 third ++ bits 6 fourth)) =
      bits 8 (first * 4 + second / 16) ++ (bits 8 (second % 16 * 16 + third / 4) ++
        bits 8 (third % 4 * 64 + fourth)) := by
  have same : first * 262144 + (second * 4096 + (third * 64 + fourth)) =
      (first * 4 + second / 16) * 65536 + ((second % 16 * 16 + third / 4) * 256 +
        (third % 4 * 64 + fourth)) := by omega
  rw [bits_append (by omega), bits_append (by omega), bits_append (by omega),
    bits_append (by omega), bits_append (by omega)]
  simp only [Nat.reduceAdd, Nat.reducePow]
  rw [same]

theorem octets_block {first second third fourth : Nat} (firstSmall : first < 64)
    (secondSmall : second < 64) (thirdSmall : third < 64) (fourthSmall : fourth < 64)
    (rest : List Nat) :
    octets (first :: second :: third :: fourth :: rest) =
      UInt8.ofNat (first * 4 + second / 16) :: UInt8.ofNat (second % 16 * 16 + third / 4) ::
        UInt8.ofNat (third % 4 * 64 + fourth) :: octets rest := by
  have split := @four_sextets first _ _ _ secondSmall thirdSmall fourthSmall
  unfold octets
  simp only [join_cons]
  rw [← List.append_assoc (bits 6 third), ← List.append_assoc (bits 6 second),
    ← List.append_assoc (bits 6 first), split]
  simp only [List.append_assoc]
  rw [groups_append _ (by omega) (bits_length 8 _), groups_append _ (by omega) (bits_length 8 _),
    groups_append _ (by omega) (bits_length 8 _)]
  simp only [List.map_cons]
  rw [number_bits (by omega), number_bits (by omega), number_bits (by omega)]

theorem octets_three {first second third : Nat} (firstSmall : first < 64)
    (secondSmall : second < 64) (thirdSmall : third < 64) :
    octets [first, second, third] =
      [UInt8.ofNat (first * 4 + second / 16), UInt8.ofNat (second % 16 * 16 + third / 4)] := by
  have split : bits 6 first ++ (bits 6 second ++ bits 6 third) =
      bits 8 (first * 4 + second / 16) ++ (bits 8 (second % 16 * 16 + third / 4) ++
        bits 2 (third % 4)) := by
    have same : first * 4096 + (second * 64 + third) = (first * 4 + second / 16) * 1024 +
        ((second % 16 * 16 + third / 4) * 4 + third % 4) := by omega
    rw [bits_append (by omega), bits_append (by omega), bits_append (by omega),
      bits_append (by omega)]
    simp only [Nat.reduceAdd, Nat.reducePow]
    rw [same]
  have shape : join 6 [first, second, third] = bits 6 first ++ (bits 6 second ++ bits 6 third) := by
    simp [join]
  unfold octets
  rw [shape, split, groups_append _ (by omega) (bits_length 8 _),
    groups_append _ (by omega) (bits_length 8 _), groups_short (by simp)]
  simp only [List.map_cons, List.map_nil]
  rw [number_bits (by omega), number_bits (by omega)]

theorem octets_two {first second : Nat} (firstSmall : first < 64) (secondSmall : second < 64) :
    octets [first, second] = [UInt8.ofNat (first * 4 + second / 16)] := by
  have split : bits 6 first ++ bits 6 second =
      bits 8 (first * 4 + second / 16) ++ bits 4 (second % 16) := by
    have same : first * 64 + second = (first * 4 + second / 16) * 16 + second % 16 := by omega
    rw [bits_append (by omega), bits_append (by omega)]
    simp only [Nat.reduceAdd, Nat.reducePow]
    rw [same]
  have shape : join 6 [first, second] = bits 6 first ++ bits 6 second := by simp [join]
  unfold octets
  rw [shape, split, groups_append _ (by omega) (bits_length 8 _), groups_short (by simp)]
  simp only [List.map_cons, List.map_nil]
  rw [number_bits (by omega)]

theorem octets_short {indices : List Nat} (few : indices.length ≤ 1) : octets indices = [] := by
  unfold octets
  rw [groups_short]
  · rfl
  · rw [join_length]
    omega

/-- The whole bytes of m characters are 6m/8. -/
theorem octets_length (indices : List Nat) :
    (octets indices).length = 6 * indices.length / 8 := by
  unfold octets
  rw [List.length_map, groups_length _ (by omega), join_length]

/-! ## Round trip -/

/-- Induction on a list by its blocks of three. -/
theorem block_induction {α : Type} {motive : List α → Prop} (none_left : motive [])
    (one_left : ∀ first, motive [first]) (two_left : ∀ first second, motive [first, second])
    (block : ∀ first second third rest, motive rest → motive (first :: second :: third :: rest)) :
    ∀ list, motive list
  | [] => none_left
  | [first] => one_left first
  | [first, second] => two_left first second
  | first :: second :: third :: rest =>
      block first second third rest (block_induction none_left one_left two_left block rest)

theorem sextets_none : sextets [] = [] := by
  have short : groups 6 (join 8 [] ++ List.replicate 0 false) = [] := groups_short (by simp [join])
  change (groups 6 (join 8 [] ++ List.replicate 0 false)).map number = []
  rw [short]
  rfl

theorem sextets_small (data : List UInt8) : ∀ index ∈ sextets data, index < 64 := by
  intro index member
  unfold sextets at member
  obtain ⟨group, among, rfl⟩ := List.mem_map.mp member
  have small := number_lt group
  rw [length_of_group among] at small
  exact small

theorem byte_of_parts {byte : UInt8} {value : Nat} (same : value = byte.toNat) :
    UInt8.ofNat value = byte := by
  rw [same, UInt8.ofNat_toNat]

/-- Reading back gives the bytes. -/
theorem octets_sextets (data : List UInt8) : octets (sextets data) = data := by
  induction data using block_induction with
  | none_left => rw [sextets_none, octets_short (Nat.zero_le _)]
  | one_left first =>
      have small := first.toNat_lt
      rw [sextets_one, octets_two (by omega) (by omega), @byte_of_parts first _ (by omega)]
  | two_left first second =>
      have firstSmall := first.toNat_lt
      have secondSmall := second.toNat_lt
      rw [sextets_two, octets_three (by omega) (by omega) (by omega),
        @byte_of_parts first _ (by omega), @byte_of_parts second _ (by omega)]
  | block first second third rest induction =>
      have firstSmall := first.toNat_lt
      have secondSmall := second.toNat_lt
      have thirdSmall := third.toNat_lt
      rw [sextets_block, octets_block (by omega) (by omega) (by omega) (by omega), induction,
        @byte_of_parts first _ (by omega), @byte_of_parts second _ (by omega),
        @byte_of_parts third _ (by omega)]

/-- A run of consecutive bytes. -/
theorem mem_run {start count : Nat} (fits : start + count ≤ 256) (byte : UInt8) :
    byte ∈ (List.range count).map (fun index => UInt8.ofNat (start + index)) ↔
      start ≤ byte.toNat ∧ byte.toNat < start + count := by
  rw [List.mem_map]
  constructor
  · intro found
    obtain ⟨index, among, rfl⟩ := found
    rw [List.mem_range] at among
    rw [UInt8.toNat_ofNat', Nat.mod_eq_of_lt (by omega)]
    omega
  · intro within
    refine ⟨byte.toNat - start, List.mem_range.mpr (by omega), ?_⟩
    rw [Nat.add_sub_cancel' within.1, UInt8.ofNat_toNat]

theorem mem_alphabet (byte : UInt8) : byte ∈ alphabet ↔
    65 ≤ byte.toNat ∧ byte.toNat < 91 ∨ 97 ≤ byte.toNat ∧ byte.toNat < 123 ∨
      48 ≤ byte.toNat ∧ byte.toNat < 58 ∨ byte.toNat = 43 ∨ byte.toNat = 47 := by
  unfold alphabet
  rw [List.mem_append, List.mem_append, List.mem_append, mem_run (by omega), mem_run (by omega),
    mem_run (by omega), List.mem_cons, List.mem_singleton, ← UInt8.toNat_inj, ← UInt8.toNat_inj,
    or_assoc, or_assoc]
  exact Iff.rfl

theorem index_symbol {value : Nat} (small : value < 64) :
    symbol value ∈ alphabet ∧ index (symbol value) = value := by
  revert value
  decide +kernel

theorem index_small {byte : UInt8} (member : byte ∈ alphabet) : index byte < 64 :=
  List.idxOf_lt_length_of_mem member

theorem map_index_symbol {values : List Nat} (small : ∀ value ∈ values, value < 64) :
    (values.map symbol).map index = values := by
  induction values with
  | nil => rfl
  | cons value rest induction =>
      rw [List.forall_mem_cons] at small
      rw [List.map_cons, List.map_cons, (index_symbol small.1).2, induction small.2]

theorem decode_encode (data : List UInt8) : decode (encode data) = data := by
  have symbols : ∀ byte ∈ (sextets data).map symbol, decide (byte ∈ alphabet) = true := by
    intro byte member
    obtain ⟨value, among, rfl⟩ := List.mem_map.mp member
    exact decide_eq_true (index_symbol (sextets_small data value among)).1
  have padding : ∀ count,
      (List.replicate count pad).takeWhile (fun byte => decide (byte ∈ alphabet)) = [] := by
    intro count
    cases count with
    | zero => rfl
    | succ count => rfl
  unfold decode encode
  simp only
  rw [List.takeWhile_append_of_pos symbols, padding, List.append_nil,
    map_index_symbol (sextets_small data), octets_sextets]

/-- Four more characters for three more bytes in front. -/
theorem encode_block (first second third : UInt8) (rest : List UInt8) :
    encode (first :: second :: third :: rest) =
      symbol (first.toNat / 4) :: symbol (first.toNat % 4 * 16 + second.toNat / 16) ::
        symbol (second.toNat % 16 * 4 + third.toNat / 64) :: symbol (third.toNat % 64) ::
          encode rest := by
  unfold encode
  rw [sextets_block]
  simp only [List.map_cons, List.cons_append, List.length_cons, List.length_map]
  rw [show ((sextets rest).length + 1 + 1 + 1 + 1) % 4 = (sextets rest).length % 4 by omega]

/-! ## Lengths -/

theorem sextets_length (data : List UInt8) :
    (sextets data).length = (8 * data.length + 5) / 6 := by
  unfold sextets
  rw [List.length_map, groups_length _ (by omega), List.length_append, List.length_replicate,
    join_length, List.length_map]
  omega

/-- Four characters for every three bytes begun. -/
theorem encode_length (data : List UInt8) :
    (encode data).length = 4 * ((data.length + 2) / 3) := by
  unfold encode
  rw [List.length_append, List.length_replicate, List.length_map, sextets_length]
  omega

end Base64

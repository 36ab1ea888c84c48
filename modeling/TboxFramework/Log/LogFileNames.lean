import TboxFramework.Library.Decimal
import TboxFramework.Log.LogConfig

/-!
# Names of log files

A log file carries its index in its name, and the sink reads the index back from
the name. The scan looks for the first ".log", which may lie in the service's own
name; the text that it cuts out then ends with the suffix, which `std::stoul` ignores.
-/

namespace TboxFramework.Log

open TboxFramework.Decimal
open TboxFramework.Store (Bytes text)

set_option autoImplicit false

/-- `std::string::find` from the first byte. -/
def find (pattern : Bytes) : Bytes → Option Nat
  | [] => if pattern = [] then some 0 else none
  | byte :: rest =>
      if pattern.isPrefixOf (byte :: rest) then some 0 else (find pattern rest).map (· + 1)

inductive StoulError
  | invalidArgument
  | outOfRange
  deriving DecidableEq

/-- `std::isspace` in the "C" locale. -/
def isSpace (byte : UInt8) : Bool := byte = 32 || (9 ≤ byte && byte ≤ 13)

/-- The sign that `strtoul` accepts, and what follows it. -/
def readSign : Bytes → Bool × Bytes
  | [] => (false, [])
  | byte :: rest =>
      if byte = 43 then (false, rest)
      else if byte = 45 then (true, rest)
      else (false, byte :: rest)

/-- `std::stoul` in base ten, where `unsigned long` has 64 bits. -/
def stoul (bytes : Bytes) : Except StoulError Nat :=
  let signed := readSign (bytes.dropWhile isSpace)
  let digits := signed.2.takeWhile fun byte => decide (IsDigit byte)
  if digits = [] then .error .invalidArgument
  else if UInt64.size ≤ value digits then .error .outOfRange
  else if signed.1 then .ok ((UInt64.size - value digits) % UInt64.size)
  else .ok (value digits)

def logSuffix : Bytes := text ".log"

/-- The last component of `getFilePath`. -/
def fileName (serviceName : Bytes) (index : UInt32) : Bytes :=
  serviceName ++ text "_" ++ decimal index.toNat ++ logSuffix

/-- The names that `countFiles`, `removeOldestFile` and `cleanup` look at. -/
def isLogName (serviceName name : Bytes) : Bool :=
  (serviceName ++ text "_").isPrefixOf name && (find logSuffix name).isSome

/-- The text between the service's name and the first suffix; a suffix that comes
earlier makes the length wrap, and the rest of the name is taken. -/
def indexText (serviceName name : Bytes) : Bytes :=
  let start := serviceName.length + 1
  let rest := name.drop start
  match find logSuffix name with
  | some finish => if start ≤ finish then rest.take (finish - start) else rest
  | none => rest

/-- The index that the scan reads from a name. -/
def nameIndex (serviceName name : Bytes) : Except StoulError UInt32 :=
  (stoul (indexText serviceName name)).map UInt32.ofNat

theorem find_prefixed {pattern : Bytes} (front rest : Bytes) :
    ∃ position ≤ front.length, find pattern (front ++ (pattern ++ rest)) = some position := by
  induction front with
  | nil =>
      refine ⟨0, Nat.le_refl 0, ?_⟩
      rw [List.nil_append]
      cases found : pattern ++ rest with
      | nil => simp [find, (List.append_eq_nil_iff.mp found).1]
      | cons byte tail =>
          unfold find
          rw [← found, if_pos (by simp)]
  | cons byte front induction =>
      obtain ⟨position, bound, found⟩ := induction
      rw [List.cons_append]
      unfold find
      split
      · exact ⟨0, Nat.zero_le _, rfl⟩
      · exact ⟨position + 1, by simpa using bound, by rw [found]; rfl⟩

/-- Where a pattern is found, it stands. -/
theorem prefix_of_find {pattern : Bytes} : ∀ {bytes : Bytes} {position : Nat},
    find pattern bytes = some position → pattern.isPrefixOf (bytes.drop position) = true := by
  intro bytes
  induction bytes with
  | nil =>
      intro position found
      unfold find at found
      split at found
      · next empty => simp [empty]
      · cases found
  | cons byte rest induction =>
      intro position found
      unfold find at found
      split at found
      · next here =>
          cases found
          exact here
      · obtain ⟨before, later, rfl⟩ := Option.map_eq_some_iff.mp found
        rw [List.drop_succ_cons]
        exact induction later

theorem decimal_eq_numeral (number : Nat) : decimal number = numeral number := rfl

theorem decimal_digits (number : Nat) : ∀ byte ∈ decimal number, IsDigit byte :=
  numeral_digits number

theorem digit_not_space {byte : UInt8} (isDigit : IsDigit byte) : isSpace byte = false := by
  obtain ⟨low, high⟩ := isDigit
  unfold isSpace
  simp only [UInt8.le_iff_toNat_le, ← UInt8.toNat_inj, Bool.or_eq_false_iff,
    Bool.and_eq_false_iff, decide_eq_false_iff_not, UInt8.reduceToNat] at low high ⊢
  omega

theorem read_sign_digit {byte : UInt8} {rest : Bytes} (isDigit : IsDigit byte) :
    readSign (byte :: rest) = (false, byte :: rest) := by
  obtain ⟨low, high⟩ := isDigit
  simp only [UInt8.le_iff_toNat_le, UInt8.reduceToNat] at low high
  rw [readSign, if_neg, if_neg]
  · intro minus
    simp [minus] at low
  · intro plus
    simp [plus] at low

/-- `std::stoul` reads a numeral and ignores what follows its digits. -/
theorem stoul_decimal {number : Nat} {rest : Bytes} (fits : number < UInt64.size)
    (ends : ∀ byte ∈ rest.head?, ¬ IsDigit byte) : stoul (decimal number ++ rest) = .ok number := by
  have digits := numeral_digits number
  have cut : (decimal number ++ rest).takeWhile (fun byte => decide (IsDigit byte)) =
      decimal number := by
    rw [decimal_eq_numeral, List.takeWhile_append_of_pos (by simpa using digits)]
    cases rest with
    | nil => simp
    | cons byte tail => simp [ends byte rfl]
  have unsigned : readSign ((decimal number ++ rest).dropWhile isSpace) =
      (false, decimal number ++ rest) := by
    rw [decimal_eq_numeral]
    cases shape : numeral number with
    | nil => exact absurd shape (numeral_ne_nil number)
    | cons first tail =>
        have isDigit := digits first (by rw [shape]; exact List.mem_cons_self)
        rw [List.cons_append, List.dropWhile_cons, digit_not_space isDigit]
        exact read_sign_digit isDigit
  unfold stoul
  simp only [unsigned, cut]
  rw [decimal_eq_numeral, value_numeral, if_neg (numeral_ne_nil number), if_neg (by omega)]
  rfl

theorem suffix_starts : ∀ byte ∈ logSuffix.head?, ¬ IsDigit byte := by
  intro byte head
  cases Option.some.inj head
  decide

/-- A digit is not the point of the suffix. -/
theorem digits_hold_no_suffix {digits rest : Bytes} (all : ∀ byte ∈ digits, IsDigit byte)
    {offset : Nat} (inside : offset < digits.length) :
    logSuffix.isPrefixOf ((digits ++ rest).drop offset) = false := by
  rw [List.drop_append_of_le_length (Nat.le_of_lt inside), List.drop_eq_getElem_cons inside,
    List.cons_append]
  have isDigit := all digits[offset] (List.getElem_mem inside)
  have other : (46 : UInt8) ≠ digits[offset] := by
    intro point
    rw [← point] at isDigit
    exact absurd isDigit (by decide)
  change (46 == digits[offset] && _) = false
  rw [beq_false_of_ne other, Bool.false_and]

theorem file_name_eq (serviceName : Bytes) (index : UInt32) :
    fileName serviceName index =
      (serviceName ++ text "_") ++ (decimal index.toNat ++ logSuffix) := by
  unfold fileName
  rw [List.append_assoc]

theorem service_prefix_length (serviceName : Bytes) :
    (serviceName ++ text "_").length = serviceName.length + 1 := by
  rw [List.length_append]
  rfl

/-- The search ends in the service's name or at the suffix that the sink wrote. -/
theorem find_suffix_file_name (serviceName : Bytes) (index : UInt32) :
    ∃ position, find logSuffix (fileName serviceName index) = some position ∧
      (position < serviceName.length + 1 ∨
        position = serviceName.length + 1 + (decimal index.toNat).length) := by
  obtain ⟨position, bound, found⟩ :=
    @find_prefixed logSuffix (serviceName ++ text "_" ++ decimal index.toNat) []
  rw [List.append_nil] at found
  rw [List.length_append, service_prefix_length] at bound
  refine ⟨position, found, ?_⟩
  by_cases early : position < serviceName.length + 1
  · exact .inl early
  · by_cases inside : position - (serviceName.length + 1) < (decimal index.toNat).length
    · have stands := prefix_of_find found
      rw [← fileName, file_name_eq, List.drop_append, service_prefix_length,
        List.drop_eq_nil_of_le (by rw [service_prefix_length]; omega), List.nil_append,
        digits_hold_no_suffix (decimal_digits _) inside] at stands
      cases stands
    · exact .inr (by omega)

/-- What the scan cuts out of a name is the numeral, perhaps with the suffix. -/
theorem index_text_file_name (serviceName : Bytes) (index : UInt32) :
    ∃ rest, (∀ byte ∈ rest.head?, ¬ IsDigit byte) ∧
      indexText serviceName (fileName serviceName index) = decimal index.toNat ++ rest := by
  obtain ⟨position, found, places⟩ := find_suffix_file_name serviceName index
  have tail : (fileName serviceName index).drop (serviceName.length + 1) =
      decimal index.toNat ++ logSuffix := by
    rw [file_name_eq, ← service_prefix_length, List.drop_left]
  unfold indexText
  simp only [found, tail]
  cases places with
  | inl early => exact ⟨logSuffix, suffix_starts, if_neg (by omega)⟩
  | inr suffix =>
      refine ⟨[], (fun byte member => absurd member (by simp)), ?_⟩
      rw [if_pos (by omega), suffix, Nat.add_sub_cancel_left, List.take_left, List.append_nil]

/-- The scan reads back the index that the sink put into the name. -/
theorem name_index_file_name (serviceName : Bytes) (index : UInt32) :
    nameIndex serviceName (fileName serviceName index) = .ok index := by
  obtain ⟨rest, ends, cut⟩ := index_text_file_name serviceName index
  have fits : index.toNat < UInt64.size := by
    have bound := index.toNat_lt
    have sizes : UInt64.size = 2 ^ 64 := rfl
    omega
  unfold nameIndex
  rw [cut, stoul_decimal fits ends]
  exact congrArg Except.ok UInt32.ofNat_toNat

theorem is_log_name_file_name (serviceName : Bytes) (index : UInt32) :
    isLogName serviceName (fileName serviceName index) = true := by
  obtain ⟨position, found, _⟩ := find_suffix_file_name serviceName index
  unfold isLogName
  rw [found, Option.isSome_some, Bool.and_true, file_name_eq, List.isPrefixOf_iff_prefix]
  exact List.prefix_append _ _

theorem file_name_injective (serviceName : Bytes) :
    Function.Injective (fileName serviceName) := by
  intro left right same
  have read := name_index_file_name serviceName left
  rw [same, name_index_file_name serviceName right] at read
  exact (Except.ok.inj read).symm

end TboxFramework.Log

import TboxFramework.Library.GeneralReading
import TboxFramework.Store.TypedMap

/-!
# Doubles in the store

The serializer at `double`: written by `operator<<` with its default precision of six
digits, read by `operator>>` as the nearest double. A double is given by its bits.
-/

namespace TboxFramework.Store

open Decimal DurableDirectory
open GeneralFormat hiding roundHalfEven
open Binary64 (nearestCode magnitude Nearest)
open Rounding (HasDigits)

set_option autoImplicit false

/-! ## Reading -/

/-- The digits after a point, and what follows them. -/
def extractFraction : Bytes → Bytes × Bytes
  | 46 :: rest =>
      (rest.takeWhile fun byte => IsDigit byte, rest.dropWhile fun byte => IsDigit byte)
  | rest => ([], rest)

/-- The exponent after the letter, which needs at least one digit. -/
def extractExponent : Bytes → Option ℤ
  | 101 :: rest | 69 :: rest =>
      let signed := splitSign rest
      let digits := signed.2.takeWhile fun byte => IsDigit byte
      if digits = [] then none
      else some (if signed.1 then -(value digits : ℤ) else value digits)
  | _ => some 0

/-- `num_get` on a floating-point number: its sign, its digits as one number, and the
power of ten to take them by. -/
def extractDouble (bytes : Bytes) : Option (Bool × ℕ × ℤ) :=
  let signed := splitSign (bytes.dropWhile isSpace)
  let whole := signed.2.takeWhile fun byte => IsDigit byte
  let fraction := extractFraction (signed.2.dropWhile fun byte => IsDigit byte)
  if whole = [] ∧ fraction.1 = [] then none
  else (extractExponent fraction.2).map fun power =>
    (signed.1, value (whole ++ fraction.1), power - fraction.1.length)

/-- The bits of a sign and a magnitude; a magnitude beyond the largest double sets
`failbit`. -/
def doubleBits (sign : Bool) (code : ℕ) : Option UInt64 :=
  if code < 2047 * 2 ^ 52 then some (UInt64.ofNat ((if sign then 2 ^ 63 else 0) + code)) else none

def deserializeDouble (bytes : Bytes) : Option UInt64 :=
  match extractDouble bytes with
  | some (sign, coefficient, power) =>
      doubleBits sign (nearestCode (coefficient * 10 ^ power.toNat) (10 ^ (-power).toNat))
  | none => none

def Codec.double : Codec UInt64 where
  serialize := general
  isString := fun _ => false
  deserialize := unlessEmpty deserializeDouble

/-! ## The text of a double, read back -/

theorem take_digits_append {digits rest : Bytes} (all : ∀ byte ∈ digits, IsDigit byte)
    (stop : ∀ byte ∈ rest.head?, ¬IsDigit byte) :
    (digits ++ rest).takeWhile (fun byte => IsDigit byte) = digits ∧
      (digits ++ rest).dropWhile (fun byte => IsDigit byte) = rest := by
  have pass : ∀ byte ∈ digits, decide (IsDigit byte) = true :=
    fun byte member => decide_eq_true (all byte member)
  rw [List.takeWhile_append_of_pos pass, List.dropWhile_append_of_pos pass]
  cases rest with
  | nil => simp
  | cons first rest =>
      have other : decide (IsDigit first) = false := decide_eq_false (stop first rfl)
      simp only [List.takeWhile_cons, List.dropWhile_cons, other, Bool.false_eq_true, if_false,
        List.append_nil, and_self]

/-- The sign in front of a number. -/
theorem split_sign_text (sign : Bool) {first : UInt8} (rest : Bytes) (isDigit : IsDigit first) :
    splitSign ((minusText sign ++ first :: rest).dropWhile isSpace) = (sign, first :: rest) := by
  cases sign with
  | true =>
      have blank : ¬isSpace 45 = true := by decide
      simp only [minusText, if_true, List.singleton_append, List.dropWhile_cons_of_neg blank,
        splitSign]
  | false =>
      simp only [minusText, Bool.false_eq_true, if_false, List.nil_append]
      rw [List.dropWhile_cons_of_neg (by simp [(digit_not_sign isDigit).1]),
        split_sign_digits isDigit]

/-- No exponent starts with a digit or a point. -/
theorem exponent_head {exponent : Bytes} (shape : IsExponent exponent) :
    ∀ byte ∈ exponent.head?, ¬IsDigit byte ∧ byte ≠ 46 := by
  intro byte head
  rcases shape with rfl | ⟨sign, digits, -, -, -, rfl⟩
  · cases head
  · cases head
    exact ⟨by decide, by decide⟩

theorem extract_fraction_text {fraction exponent : Bytes} (all : ∀ byte ∈ fraction, IsDigit byte)
    (shape : IsExponent exponent) :
    extractFraction (fractionText fraction ++ exponent) = (fraction, exponent) := by
  have head := exponent_head shape
  unfold fractionText
  by_cases none : fraction = []
  · rw [if_pos none, List.nil_append, none]
    cases exponent with
    | nil => rfl
    | cons first rest =>
        have point : first ≠ 46 := (head first rfl).2
        unfold extractFraction
        split
        · rename_i same
          exact absurd (List.cons.inj same).1 point
        · rfl
  · rw [if_neg none, List.cons_append]
    have parts := take_digits_append all fun byte member => (head byte member).1
    unfold extractFraction
    simp only [parts.1, parts.2]

theorem extract_exponent_text (power : ℤ) : extractExponent (exponentText power) = some power := by
  have digits : (padded 2 power.natAbs).takeWhile (fun byte => IsDigit byte) =
      padded 2 power.natAbs := by
    rw [List.takeWhile_eq_self_iff]
    intro byte member
    exact decide_eq_true (padded_digits 2 power.natAbs byte member)
  have some : padded 2 power.natAbs ≠ [] := by
    unfold padded
    rw [ne_eq, List.append_eq_nil_iff, not_and]
    exact fun _ => numeral_ne_nil _
  unfold exponentText
  by_cases negative : power < 0
  · simp only [if_pos negative, extractExponent, splitSign, digits, if_neg some, value_padded,
      if_true, Option.some.injEq]
    omega
  · simp only [if_neg negative, extractExponent, splitSign, digits, if_neg some, value_padded,
      Bool.false_eq_true, if_false, Option.some.injEq]
    omega

/-- The sign, the digits and the power of a pointed coefficient. -/
theorem extract_pointed (sign : Bool) (coefficient places : ℕ) {exponent : Bytes} {power : ℤ}
    (shape : IsExponent exponent) (parsed : extractExponent exponent = some power) :
    extractDouble (pointed sign coefficient places ++ exponent) =
      some (sign, value (numeral (coefficient / 10 ^ places) ++
        fractionDigits places (coefficient % 10 ^ places)),
        power - (fractionDigits places (coefficient % 10 ^ places)).length) := by
  have digits := numeral_digits (coefficient / 10 ^ places)
  have fraction := fraction_digits places (coefficient % 10 ^ places)
  have nonempty := numeral_ne_nil (coefficient / 10 ^ places)
  unfold pointed
  generalize numeral (coefficient / 10 ^ places) = whole at digits nonempty
  generalize fractionDigits places (coefficient % 10 ^ places) = tail at fraction
  have stop : ∀ byte ∈ (fractionText tail ++ exponent).head?, ¬IsDigit byte := by
    intro byte head
    unfold fractionText at head
    split at head
    · exact (exponent_head shape byte head).1
    · cases head
      decide
  obtain ⟨taken, dropped⟩ := take_digits_append digits stop
  obtain ⟨first, rest, rfl⟩ := List.exists_cons_of_ne_nil nonempty
  have signed := split_sign_text sign (rest ++ (fractionText tail ++ exponent))
    (digits first List.mem_cons_self)
  unfold extractDouble
  rw [List.append_assoc, List.append_assoc, List.cons_append, signed]
  simp only
  rw [← List.cons_append, taken, dropped, extract_fraction_text fraction shape, parsed]
  simp

/-! ## The bits of a double -/

/-- The bits below the sign. -/
def magnitudeCode (bits : UInt64) : ℕ := bits.toNat % 2 ^ 63

theorem finite_iff_code {bits : UInt64} : IsFinite bits ↔ magnitudeCode bits < 2047 * 2 ^ 52 := by
  have size := bits.toNat_lt
  unfold IsFinite exponentBits magnitudeCode
  omega

/-- A finite double has the bits of its sign and its magnitude. -/
theorem double_bits_iff {bits : UInt64} (finite : IsFinite bits) (code : ℕ) :
    doubleBits (negative bits) code = some bits ↔ code = magnitudeCode bits := by
  have size := bits.toNat_lt
  have bound := finite_iff_code.mp finite
  have whole : bits.toNat = (if negative bits then 2 ^ 63 else 0) + magnitudeCode bits := by
    unfold negative magnitudeCode
    split
    · rename_i sign
      have large := of_decide_eq_true sign
      omega
    · rename_i sign
      have small := of_decide_eq_false (Bool.eq_false_iff.mpr sign)
      omega
  unfold doubleBits
  split
  · rename_i fits
    rw [Option.some.injEq, ← UInt64.toNat_inj, UInt64.toNat_ofNat']
    rw [Nat.mod_eq_of_lt (by split <;> omega), whole]
    omega
  · rename_i overflow
    constructor
    · intro absurd
      cases absurd
    · intro same
      omega

/-- The fraction of a finite double is its magnitude. -/
theorem fraction_eq_magnitude (bits : UInt64) :
    (numerator bits : ℚ) / denominator bits = magnitude (magnitudeCode bits) := by
  have digits : Binary64.digits (magnitudeCode bits) = significand bits := by
    have size := bits.toNat_lt
    unfold Binary64.digits Binary64.shift magnitudeCode significand fractionBits exponentBits
    split <;> omega
  have exponent : (Binary64.shift (magnitudeCode bits) : ℤ) - 1074 = (biased bits : ℤ) - 1075 := by
    have size := bits.toNat_lt
    unfold Binary64.shift magnitudeCode biased exponentBits
    omega
  unfold magnitude Binary64.unit numerator denominator
  rw [digits, exponent]
  by_cases large : 1075 ≤ biased bits
  · have power : (biased bits : ℤ) - 1075 = ((biased bits - 1075 : ℕ) : ℤ) := by omega
    have none : 1075 - biased bits = 0 := by omega
    rw [power, none, zpow_natCast]
    push_cast
    ring
  · have power : (biased bits : ℤ) - 1075 = -((1075 - biased bits : ℕ) : ℤ) := by omega
    have none : biased bits - 1075 = 0 := by omega
    rw [power, none, zpow_neg, zpow_natCast]
    push_cast
    rw [mul_one, div_eq_mul_inv]

/-! ## Which doubles come back -/

/-- The double is the nearest one to some decimal with at most six significant digits,
its sign apart. -/
def KeptBySixDigits (bits : UInt64) : Prop :=
  ∃ decimal, HasDigits 10 6 decimal ∧ Nearest decimal (magnitudeCode bits)

theorem nearest_zero : nearestCode 0 1 = 0 := by
  decide +kernel

theorem zero_code {bits : UInt64} (zero : numerator bits = 0) : magnitudeCode bits = 0 := by
  have size := bits.toNat_lt
  have power : (2 : ℕ) ^ (biased bits - 1075) ≠ 0 := pow_ne_zero _ (by norm_num)
  have none : significand bits = 0 := (Nat.mul_eq_zero.mp zero).resolve_right power
  unfold significand fractionBits exponentBits at none
  unfold magnitudeCode
  split at none
  · omega
  · omega

theorem kept_zero {bits : UInt64} (zero : numerator bits = 0) : KeptBySixDigits bits := by
  refine ⟨0, ⟨0, 0, by norm_num, by norm_num⟩, ?_⟩
  rw [zero_code zero]
  have nearest : Nearest (((0 : ℕ) : ℚ) / (1 : ℕ)) 0 :=
    (Binary64.nearest_iff_code (by norm_num)).mpr nearest_zero
  simpa using nearest

/-- What is read of a printed magnitude has the value of its six digits. -/
theorem extract_magnitude (sign : Bool) (number unit : ℕ) :
    ∃ coefficient power, extractDouble (magnitudeText sign number unit) =
        some (sign, coefficient, power) ∧
      (coefficient : ℚ) * tens power = sixValue number unit := by
  have moved : ∀ (places : ℕ) (power : ℤ), power - places = (sixDigits number unit).2 - 5 →
      ((value (numeral ((sixDigits number unit).1 / 10 ^ places) ++
          fractionDigits places ((sixDigits number unit).1 % 10 ^ places)) : ℕ) : ℚ) *
        tens (power - (fractionDigits places
          ((sixDigits number unit).1 % 10 ^ places)).length) = sixValue number unit := by
    intro places power same
    have digits := pointed_value (sixDigits number unit).1 places
    unfold sixValue
    generalize (sixDigits number unit).1 = coefficient at digits
    rw [← same]
    generalize value (numeral (coefficient / 10 ^ places) ++
      fractionDigits places (coefficient % 10 ^ places)) = read at digits
    generalize (fractionDigits places (coefficient % 10 ^ places)).length = length at digits
    have exact : (read : ℚ) * tens places = coefficient * tens length := by
      rw [tens_nat, tens_nat]
      exact_mod_cast digits
    have left : tens power = tens (power - length) * tens length := by
      rw [← tens_add]
      congr 1
      ring
    have right : tens power = tens (power - places) * tens places := by
      rw [← tens_add]
      congr 1
      ring
    have nonzero := (mul_pos (tens_pos length) (tens_pos places)).ne'
    apply mul_right_cancel₀ nonzero
    calc (read : ℚ) * tens (power - length) * (tens length * tens places)
        = (read * tens places) * (tens (power - length) * tens length) := by ring
      _ = (coefficient * tens length) * (tens (power - places) * tens places) := by
          rw [exact, ← left, right]
      _ = coefficient * tens (power - places) * (tens length * tens places) := by ring
  unfold magnitudeText
  simp only
  split
  · refine ⟨_, _, extract_pointed sign _ 5 (exponent_shape _) (extract_exponent_text _), ?_⟩
    exact moved 5 _ rfl
  · rename_i fixed
    have shape : IsExponent [] := Or.inl rfl
    have read := extract_pointed sign (sixDigits number unit).1
      (5 - (sixDigits number unit).2).toNat shape rfl
    rw [List.append_nil] at read
    refine ⟨_, _, read, moved _ 0 ?_⟩
    omega

/-- A text that holds a number is not empty. -/
theorem deserialize_of_extract {bytes : Bytes} {sign : Bool} {coefficient : ℕ} {power : ℤ}
    (read : extractDouble bytes = some (sign, coefficient, power)) :
    Codec.double.deserialize bytes =
      doubleBits sign (nearestCode (coefficient * 10 ^ power.toNat) (10 ^ (-power).toNat)) := by
  have some : bytes ≠ [] := by
    intro empty
    rw [empty] at read
    cases read
  change unlessEmpty deserializeDouble bytes = _
  rw [unlessEmpty, if_neg some, deserializeDouble, read]

/-- A finite double comes back from its text just when six digits keep it. -/
theorem double_read_iff {bits : UInt64} (finite : IsFinite bits) :
    Codec.double.deserialize (Codec.double.serialize bits) = some bits ↔ KeptBySixDigits bits := by
  by_cases zero : numerator bits = 0
  · have text : Codec.double.serialize bits = minusText (negative bits) ++ [48] := by
      change general bits = _
      unfold general
      rw [if_pos finite, if_pos zero]
    have read : extractDouble (Codec.double.serialize bits) = some (negative bits, 0, 0) := by
      rw [text]
      cases negative bits <;> rfl
    have least : nearestCode (0 * 10 ^ (0 : ℤ).toNat) (10 ^ (-(0 : ℤ)).toNat) = 0 := nearest_zero
    rw [deserialize_of_extract read, least, double_bits_iff finite, zero_code zero]
    exact iff_of_true rfl (kept_zero zero)
  · have text : Codec.double.serialize bits =
        magnitudeText (negative bits) (numerator bits) (denominator bits) := by
      change general bits = _
      unfold general
      rw [if_pos finite, if_neg zero]
    obtain ⟨coefficient, power, read, exact⟩ :=
      extract_magnitude (negative bits) (numerator bits) (denominator bits)
    have ratio : ((coefficient * 10 ^ power.toNat : ℕ) : ℚ) / (10 ^ (-power).toNat : ℕ) =
        sixValue (numerator bits) (denominator bits) := by
      rw [← exact, ← tens_quotient, Nat.cast_mul, mul_div_assoc]
    have positive : 0 < denominator bits := Nat.pow_pos (by norm_num)
    rw [text, deserialize_of_extract read, double_bits_iff finite,
      ← Binary64.nearest_iff_code (Nat.pow_pos (by norm_num)), ratio]
    exact printed_nearest_iff (Nat.pos_of_ne_zero zero) positive (fraction_eq_magnitude bits)

/-! ## Through the store -/

/-- A ready store at the type `double`. -/
def doubleStore (resolver : PathResolver) : TypedStore UInt64 := ⟨resolver, .double, true⟩

variable (resolver : PathResolver)

/-- `save<double>` with every system call granted. -/
def saveDouble (state : DirectoryState) (key : Bytes) (bits : UInt64) :
    Option StoreError × DirectoryState :=
  (doubleStore resolver).saveEntry (.granted (general bits).length) state key bits

def loadDouble (state : DirectoryState) (key : Bytes) : Except StoreError UInt64 × DirectoryState :=
  (doubleStore resolver).load resolver.entry .granted state key

/-- What is loaded after a save is what its text reads back as. -/
theorem load_after_save (state : DirectoryState) {key : Bytes} (plain : Plain key)
    {bits loaded : UInt64} (finite : IsFinite bits) :
    (loadDouble resolver (saveDouble resolver state key bits).2 key).1 = .ok loaded ↔
      Codec.double.deserialize (Codec.double.serialize bits) = some loaded := by
  have reached : (doubleStore resolver).ReachesWrite (.granted (general bits).length) state key
      bits := by
    refine ⟨rfl, Or.inr rfl, ?_⟩
    rintro ⟨empty, -⟩
    obtain ⟨sign, integer, fraction, exponent, -, -, shape⟩ := general_number finite
    have nothing := shape.symm.trans empty
    rw [List.append_eq_nil_iff, List.append_eq_nil_iff] at nothing
    exact numeral_ne_nil integer nothing.2.1
  have saved := (granted_save_spec plain reached).2.1
  exact @load_of_read UInt64 (doubleStore resolver) _ _ _ _ rfl saved

/-- A saved double is loaded as it was exactly when it is the nearest double to some
decimal of six significant digits. -/
theorem saved_double_loaded_iff (state : DirectoryState) (key : Bytes) (plain : Plain key)
    (bits : UInt64) (finite : IsFinite bits) :
    (loadDouble resolver (saveDouble resolver state key bits).2 key).1 = .ok bits ↔
      KeptBySixDigits bits := by
  rw [load_after_save resolver state plain finite]
  exact double_read_iff finite

/-- One half is five tenths. -/
theorem half_loaded :
    (loadDouble .ofRoot (saveDouble .ofRoot emptyDirectory [107] 0x3FE0000000000000).2 [107]).1 =
      .ok 0x3FE0000000000000 := by
  apply (saved_double_loaded_iff .ofRoot emptyDirectory [107] (by decide) 0x3FE0000000000000
    (by decide)).mpr
  refine ⟨((1 : ℕ) : ℚ) / (2 : ℕ), ⟨5, -1, by norm_num, by norm_num⟩, ?_⟩
  exact (Binary64.nearest_iff_code (by norm_num)).mpr (by decide +kernel)

/-- 1234567 is printed as 1.23457e+06. -/
theorem seven_digits_lost :
    IsFinite 0x4132D68700000000 ∧
      (loadDouble .ofRoot (saveDouble .ofRoot emptyDirectory [107] 0x4132D68700000000).2 [107]).1 ≠
        .ok 0x4132D68700000000 := by
  have finite : IsFinite 0x4132D68700000000 := by decide
  refine ⟨finite, ?_⟩
  rw [ne_eq, load_after_save .ofRoot emptyDirectory (by decide) finite]
  decide +kernel

end TboxFramework.Store

import TboxFramework.Library.Decimal
import TboxFramework.Library.Interleaving

/-!
# A strict reader of JSON texts

The grammar of RFC 8259 as an automaton that takes one byte at a time: where it stands
in a value, and the objects and arrays that are still open. A byte that the grammar
does not allow stops it. Bytes above 127 are characters of strings; whether they are
UTF-8 is a question of its own.
-/

namespace TboxFramework.Json

open Decimal (IsDigit IsExponent IsNumberText fractionText minusText numeral)
open Interleaving (run)

set_option autoImplicit false

inductive Container
  | object
  | array
  deriving DecidableEq

inductive Place
  /-- A value must follow. -/
  | value
  /-- A value or the end of the array. -/
  | firstElement
  /-- A name or the end of the object. -/
  | firstKey
  | key
  | colon
  /-- A value has ended. -/
  | after
  | string (isKey : Bool)
  | escape (isKey : Bool)
  /-- So many hexadecimal digits must follow. -/
  | hex (isKey : Bool) (digits : Nat)
  /-- The rest of a literal name. -/
  | literal (rest : List UInt8)
  | minus
  | zero
  | digits
  | point
  | fraction
  | exponent
  | exponentSign
  | exponentDigits
  deriving DecidableEq

structure State where
  place : Place
  stack : List Container
  deriving DecidableEq

def isBlank (byte : UInt8) : Bool := byte = 32 || byte = 9 || byte = 10 || byte = 13

def isHex (byte : UInt8) : Bool :=
  (48 ≤ byte && byte ≤ 57) || (65 ≤ byte && byte ≤ 70) || (97 ≤ byte && byte ≤ 102)

/-- What may follow the backslash, `u` apart. -/
def isEscaped (byte : UInt8) : Bool :=
  byte = 34 || byte = 92 || byte = 47 || byte = 98 || byte = 102 || byte = 110 || byte = 114 ||
    byte = 116

/-- The first byte of a value. -/
def startValue (stack : List Container) (byte : UInt8) : Option State :=
  if byte = 34 then some ⟨.string false, stack⟩
  else if byte = 123 then some ⟨.firstKey, .object :: stack⟩
  else if byte = 91 then some ⟨.firstElement, .array :: stack⟩
  else if byte = 45 then some ⟨.minus, stack⟩
  else if byte = 48 then some ⟨.zero, stack⟩
  else if IsDigit byte then some ⟨.digits, stack⟩
  else if byte = 116 then some ⟨.literal [114, 117, 101], stack⟩
  else if byte = 102 then some ⟨.literal [97, 108, 115, 101], stack⟩
  else if byte = 110 then some ⟨.literal [117, 108, 108], stack⟩
  else none

/-- A byte after a value. -/
def afterValue (stack : List Container) (byte : UInt8) : Option State :=
  if isBlank byte then some ⟨.after, stack⟩
  else
    match stack with
    | [] => none
    | .object :: outer =>
        if byte = 44 then some ⟨.key, stack⟩
        else if byte = 125 then some ⟨.after, outer⟩
        else none
    | .array :: outer =>
        if byte = 44 then some ⟨.value, stack⟩
        else if byte = 93 then some ⟨.after, outer⟩
        else none

def startsExponent (byte : UInt8) : Bool := byte = 101 || byte = 69

def step (state : State) (byte : UInt8) : Option State :=
  let stack := state.stack
  match state.place with
  | .value => if isBlank byte then some state else startValue stack byte
  | .firstElement =>
      if isBlank byte then some state
      else if byte = 93 then some ⟨.after, stack.tail⟩
      else startValue stack byte
  | .firstKey =>
      if isBlank byte then some state
      else if byte = 125 then some ⟨.after, stack.tail⟩
      else if byte = 34 then some ⟨.string true, stack⟩
      else none
  | .key =>
      if isBlank byte then some state
      else if byte = 34 then some ⟨.string true, stack⟩
      else none
  | .colon =>
      if isBlank byte then some state
      else if byte = 58 then some ⟨.value, stack⟩
      else none
  | .after => afterValue stack byte
  | .string isKey =>
      if byte = 34 then some ⟨if isKey then .colon else .after, stack⟩
      else if byte = 92 then some ⟨.escape isKey, stack⟩
      else if byte < 32 then none
      else some state
  | .escape isKey =>
      if byte = 117 then some ⟨.hex isKey 4, stack⟩
      else if isEscaped byte then some ⟨.string isKey, stack⟩
      else none
  | .hex isKey digits =>
      if isHex byte then some ⟨if digits ≤ 1 then .string isKey else .hex isKey (digits - 1), stack⟩
      else none
  | .literal [] => none
  | .literal (next :: rest) =>
      if byte = next then some ⟨if rest = [] then .after else .literal rest, stack⟩ else none
  | .minus =>
      if byte = 48 then some ⟨.zero, stack⟩
      else if IsDigit byte then some ⟨.digits, stack⟩
      else none
  | .zero =>
      if byte = 46 then some ⟨.point, stack⟩
      else if startsExponent byte then some ⟨.exponent, stack⟩
      else afterValue stack byte
  | .digits =>
      if IsDigit byte then some state
      else if byte = 46 then some ⟨.point, stack⟩
      else if startsExponent byte then some ⟨.exponent, stack⟩
      else afterValue stack byte
  | .point => if IsDigit byte then some ⟨.fraction, stack⟩ else none
  | .fraction =>
      if IsDigit byte then some state
      else if startsExponent byte then some ⟨.exponent, stack⟩
      else afterValue stack byte
  | .exponent =>
      if byte = 43 ∨ byte = 45 then some ⟨.exponentSign, stack⟩
      else if IsDigit byte then some ⟨.exponentDigits, stack⟩
      else none
  | .exponentSign => if IsDigit byte then some ⟨.exponentDigits, stack⟩ else none
  | .exponentDigits => if IsDigit byte then some state else afterValue stack byte

/-- The places where a value may be complete. -/
def Ended (place : Place) : Prop :=
  place = .after ∨ place = .zero ∨ place = .digits ∨ place = .fraction ∨ place = .exponentDigits

instance (place : Place) : Decidable (Ended place) := inferInstanceAs (Decidable (_ ∨ _))

/-- The text is one JSON value, with blanks around it. -/
def Accepts (text : List UInt8) : Prop :=
  ∃ final, run step ⟨.value, []⟩ text = some final ∧ Ended final.place ∧ final.stack = []

/-- The text is one JSON value, and that is an object. -/
def AcceptsObject (text : List UInt8) : Prop :=
  Accepts text ∧ (text.dropWhile isBlank).head? = some 123

section Reading

variable {stack : List Container}

theorem run_stays {state : State} {bytes : List UInt8}
    (stays : ∀ byte ∈ bytes, step state byte = some state) : run step state bytes = some state := by
  induction bytes with
  | nil => rfl
  | cons byte rest induction =>
      rw [Interleaving.run_cons, stays byte List.mem_cons_self]
      exact induction fun other member => stays other (List.mem_cons_of_mem byte member)

/-- After a value that is complete, everything but more of a number ends it. -/
theorem ended_step {place : Place} {byte : UInt8} (ended : Ended place)
    (noDigit : ¬ IsDigit byte) (noPoint : byte ≠ 46) (noExponent : startsExponent byte = false) :
    step ⟨place, stack⟩ byte = afterValue stack byte := by
  rcases ended with rfl | rfl | rfl | rfl | rfl
  · rfl
  · simp [step, noPoint, noExponent]
  · simp [step, noDigit, noPoint, noExponent]
  · simp [step, noDigit, noExponent]
  · simp [step, noDigit]

/-! ## Numbers -/

theorem digit_not_blank {byte : UInt8} (digit : IsDigit byte) : isBlank byte = false := by
  obtain ⟨low, high⟩ := digit
  unfold isBlank
  simp only [UInt8.le_iff_toNat_le, ← UInt8.toNat_inj, Bool.or_eq_false_iff,
    decide_eq_false_iff_not, UInt8.reduceToNat] at low high ⊢
  omega

theorem digit_not_punctuation {byte : UInt8} (digit : IsDigit byte) :
    byte ≠ 34 ∧ byte ≠ 123 ∧ byte ≠ 91 ∧ byte ≠ 45 ∧ byte ≠ 43 ∧ byte ≠ 46 := by
  obtain ⟨low, high⟩ := digit
  simp only [UInt8.le_iff_toNat_le, ← UInt8.toNat_inj, ne_eq, UInt8.reduceToNat] at low high ⊢
  omega

theorem step_first_digit {byte : UInt8} (digit : IsDigit byte) (negative : Bool) :
    step ⟨if negative then .minus else .value, stack⟩ byte =
      some ⟨if byte = 48 then .zero else .digits, stack⟩ := by
  have others := digit_not_punctuation digit
  have blank := digit_not_blank digit
  cases negative
  · simp only [Bool.false_eq_true, if_false, step, blank, startValue, others, digit, if_true]
    split <;> rfl
  · simp only [if_true, step, digit]
    split <;> rfl

theorem run_minus (negative : Bool) : run step ⟨.value, stack⟩ (minusText negative) =
    some ⟨if negative then .minus else .value, stack⟩ := by
  cases negative <;> rfl

theorem run_numeral (negative : Bool) (number : Nat) :
    run step ⟨if negative then .minus else .value, stack⟩ (numeral number) =
      some ⟨if number = 0 then .zero else .digits, stack⟩ := by
  by_cases zero : number = 0
  · rw [zero, Decimal.numeral_of_lt (by omega), Interleaving.run_cons,
      step_first_digit (Decimal.digit_is_digit (by omega))]
    rfl
  · obtain ⟨first, rest, shape, digit, nonzero⟩ := Decimal.numeral_head (Nat.pos_of_ne_zero zero)
    rw [shape, Interleaving.run_cons, step_first_digit digit, if_neg nonzero, if_neg zero,
      Option.bind_some]
    apply run_stays
    intro byte member
    have later : IsDigit byte :=
      Decimal.numeral_digits number byte (by rw [shape]; exact List.mem_cons_of_mem first member)
    simp [step, later]

/-- The fraction is read after the whole part. -/
theorem run_fraction {place : Place} (whole : place = .zero ∨ place = .digits)
    {fraction : List UInt8} (digits : ∀ byte ∈ fraction, IsDigit byte) :
    run step ⟨place, stack⟩ (fractionText fraction) =
      some ⟨if fraction = [] then place else .fraction, stack⟩ := by
  unfold fractionText
  cases fraction with
  | nil => rfl
  | cons first rest =>
      have pointed : step ⟨place, stack⟩ 46 = some ⟨.point, stack⟩ := by
        cases whole with
        | inl zero => rw [zero]; rfl
        | inr digits => rw [digits]; rfl
      have begun : step ⟨.point, stack⟩ first = some ⟨.fraction, stack⟩ :=
        if_pos (digits first List.mem_cons_self)
      rw [if_neg (List.cons_ne_nil _ _), if_neg (List.cons_ne_nil _ _), Interleaving.run_cons,
        pointed, Option.bind_some, Interleaving.run_cons, begun, Option.bind_some]
      apply run_stays
      intro byte member
      exact if_pos (digits byte (List.mem_cons_of_mem first member))

theorem run_exponent {place : Place}
    (number : place = .zero ∨ place = .digits ∨ place = .fraction) {text : List UInt8}
    (exponent : IsExponent text) :
    run step ⟨place, stack⟩ text = some ⟨if text = [] then place else .exponentDigits, stack⟩ := by
  cases exponent with
  | inl none => rw [none]; rfl
  | inr some =>
      obtain ⟨sign, digits, signs, nonempty, all, rfl⟩ := some
      have entered : step ⟨place, stack⟩ 101 = some ⟨.exponent, stack⟩ := by
        rcases number with rfl | rfl | rfl <;> rfl
      have signed : step ⟨.exponent, stack⟩ sign = some ⟨.exponentSign, stack⟩ := if_pos signs
      rw [if_neg (List.cons_ne_nil _ _), Interleaving.run_cons, entered, Option.bind_some,
        Interleaving.run_cons, signed, Option.bind_some]
      cases digits with
      | nil => exact absurd rfl nonempty
      | cons first rest =>
          have begun : step ⟨.exponentSign, stack⟩ first = some ⟨.exponentDigits, stack⟩ :=
            if_pos (all first List.mem_cons_self)
          rw [Interleaving.run_cons, begun, Option.bind_some]
          apply run_stays
          intro byte member
          exact if_pos (all byte (List.mem_cons_of_mem first member))

/-- A number is a value. -/
theorem run_number {text : List UInt8} (number : IsNumberText text) :
    ∃ place, Ended place ∧ run step ⟨.value, stack⟩ text = some ⟨place, stack⟩ := by
  obtain ⟨negative, integer, fraction, exponent, digits, shape, rfl⟩ := number
  have whole : (if integer = 0 then Place.zero else .digits) = .zero ∨
      (if integer = 0 then Place.zero else .digits) = .digits := by
    split
    · exact .inl rfl
    · exact .inr rfl
  rw [Interleaving.run_append, run_minus, Option.bind_some, Interleaving.run_append, run_numeral,
    Option.bind_some, Interleaving.run_append, run_fraction whole digits, Option.bind_some]
  generalize (if integer = 0 then Place.zero else .digits) = place at whole
  have number : (if fraction = [] then place else .fraction) = .zero ∨
      (if fraction = [] then place else .fraction) = .digits ∨
      (if fraction = [] then place else .fraction) = .fraction := by
    split
    · rcases whole with zero | digits
      · exact .inl zero
      · exact .inr (.inl digits)
    · exact .inr (.inr rfl)
  rw [run_exponent number shape]
  refine ⟨_, ?_, rfl⟩
  unfold Ended
  split
  · rcases number with zero | digits | fraction
    · exact .inr (.inl zero)
    · exact .inr (.inr (.inl digits))
    · exact .inr (.inr (.inr (.inl fraction)))
  · exact .inr (.inr (.inr (.inr rfl)))

end Reading

end TboxFramework.Json

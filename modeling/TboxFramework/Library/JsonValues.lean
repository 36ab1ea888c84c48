import TboxFramework.Library.Json

/-!
# The values that a JSON text denotes

The strict reader moves by its automaton; an observer of it notes the values that have
been read. An object keeps its members in their order, repeated names included, and an
integer literal is told from other numbers.
-/

namespace TboxFramework.Json

open Decimal (IsDigit IsNumberText minusText fractionText numeral signedNumeral)
open Interleaving (observe observing run)

set_option autoImplicit false

inductive Value
  | null
  | bool (value : Bool)
  | integer (value : Int)
  /-- A number with a fraction or an exponent, as it is written. -/
  | decimal (literal : List UInt8)
  | string (value : List UInt8)
  | array (elements : List Value)
  | object (members : List (List UInt8 × Value))

/-- A part of a string: a byte that stands for itself, or a code unit. -/
inductive Piece
  | byte (value : UInt8)
  | unit (code : Nat)
  deriving DecidableEq

/-- UTF-8; a surrogate without its partner is written as if it were a character. -/
def encode (code : Nat) : List UInt8 :=
  if code < 128 then [UInt8.ofNat code]
  else if code < 2048 then [UInt8.ofNat (192 + code / 64), UInt8.ofNat (128 + code % 64)]
  else if code < 65536 then
    [UInt8.ofNat (224 + code / 4096), UInt8.ofNat (128 + code / 64 % 64),
      UInt8.ofNat (128 + code % 64)]
  else
    [UInt8.ofNat (240 + code / 262144), UInt8.ofNat (128 + code / 4096 % 64),
      UInt8.ofNat (128 + code / 64 % 64), UInt8.ofNat (128 + code % 64)]

def isHighSurrogate (code : Nat) : Bool := 55296 ≤ code && code < 56320

def isLowSurrogate (code : Nat) : Bool := 56320 ≤ code && code < 57344

/-- The bytes of a string, where the high surrogate that came last still waits. -/
def decodeAfter : Option Nat → List Piece → List UInt8
  | none, [] => []
  | some high, [] => encode high
  | none, .byte value :: rest => value :: decodeAfter none rest
  | some high, .byte value :: rest => encode high ++ value :: decodeAfter none rest
  | none, .unit code :: rest =>
      if isHighSurrogate code then decodeAfter (some code) rest
      else encode code ++ decodeAfter none rest
  | some high, .unit code :: rest =>
      if isLowSurrogate code then
        encode (65536 + 1024 * (high - 55296) + (code - 56320)) ++ decodeAfter none rest
      else if isHighSurrogate code then encode high ++ decodeAfter (some code) rest
      else encode high ++ (encode code ++ decodeAfter none rest)

def decode (pieces : List Piece) : List UInt8 := decodeAfter none pieces

def hexValue (byte : UInt8) : Nat :=
  if byte ≤ 57 then byte.toNat - 48
  else if byte ≤ 70 then byte.toNat - 55
  else byte.toNat - 87

/-- The byte that a short escape stands for. -/
def escapedByte (byte : UInt8) : UInt8 :=
  if byte = 98 then 8
  else if byte = 102 then 12
  else if byte = 110 then 10
  else if byte = 114 then 13
  else if byte = 116 then 9
  else byte

/-- What the text of a number denotes. -/
def numberValue (literal : List UInt8) : Value :=
  let negative := literal.head? = some 45
  let digits := if negative then literal.tail else literal
  if digits.all fun byte => decide (IsDigit byte) then
    .integer (if negative then -(Decimal.value digits : Int) else Decimal.value digits)
  else .decimal literal

/-- A container that is still open; an object has the name of its next member. -/
inductive Frame
  | array (elements : List Value)
  | object (members : List (List UInt8 × Value)) (name : List UInt8)

/-- What has been read so far. -/
structure Reading where
  pieces : List Piece := []
  /-- The number that the hexadecimal digits of an escape make so far. -/
  code : Nat := 0
  literal : List UInt8 := []
  frames : List Frame := []
  /-- The value that ended last, or the number as far as it goes. -/
  value : Value := .null

namespace Reading

/-- One byte more of a number. -/
def extend (reading : Reading) (byte : UInt8) : Reading :=
  let literal := reading.literal ++ [byte]
  { reading with literal := literal, value := numberValue literal }

def start (reading : Reading) (byte : UInt8) : Reading :=
  if byte = 34 then { reading with pieces := [] }
  else if byte = 123 then { reading with frames := .object [] [] :: reading.frames }
  else if byte = 91 then { reading with frames := .array [] :: reading.frames }
  else if byte = 116 then { reading with value := .bool true }
  else if byte = 102 then { reading with value := .bool false }
  else if byte = 110 then { reading with value := .null }
  else { reading with literal := [byte], value := numberValue [byte] }

/-- The byte after a value: a comma or the end of the container takes the value in. -/
def follow (reading : Reading) (byte : UInt8) : Reading :=
  match reading.frames with
  | [] => reading
  | .object members name :: outer =>
      let members := members ++ [(name, reading.value)]
      if byte = 44 then { reading with frames := .object members [] :: outer }
      else if byte = 125 then { reading with frames := outer, value := .object members }
      else reading
  | .array elements :: outer =>
      let elements := elements ++ [reading.value]
      if byte = 44 then { reading with frames := .array elements :: outer }
      else if byte = 93 then { reading with frames := outer, value := .array elements }
      else reading

/-- The end of a container that has no value. -/
def closeEmpty (reading : Reading) : Reading :=
  match reading.frames with
  | [] => reading
  | .object members _ :: outer => { reading with frames := outer, value := .object members }
  | .array elements :: outer => { reading with frames := outer, value := .array elements }

def endString (reading : Reading) (isKey : Bool) : Reading :=
  if isKey then
    match reading.frames with
    | .object members _ :: outer =>
        { reading with frames := .object members (decode reading.pieces) :: outer }
    | _ => reading
  else { reading with value := .string (decode reading.pieces) }

end Reading

/-- A byte that goes on with a number. -/
def continuesNumber (byte : UInt8) : Bool := IsDigit byte || byte = 46 || startsExponent byte

/-- What a byte that the automaton takes adds to the reading. -/
def note (state : State) (byte : UInt8) (reading : Reading) : Reading :=
  match state.place with
  | .value => if isBlank byte then reading else reading.start byte
  | .firstElement =>
      if isBlank byte then reading
      else if byte = 93 then reading.closeEmpty
      else reading.start byte
  | .firstKey =>
      if isBlank byte then reading
      else if byte = 125 then reading.closeEmpty
      else { reading with pieces := [] }
  | .key => if isBlank byte then reading else { reading with pieces := [] }
  | .colon => reading
  | .after => reading.follow byte
  | .string isKey =>
      if byte = 34 then reading.endString isKey
      else if byte = 92 then reading
      else { reading with pieces := reading.pieces ++ [.byte byte] }
  | .escape _ =>
      if byte = 117 then { reading with code := 0 }
      else { reading with pieces := reading.pieces ++ [.byte (escapedByte byte)] }
  | .hex _ digits =>
      let code := 16 * reading.code + hexValue byte
      if digits ≤ 1 then { reading with pieces := reading.pieces ++ [.unit code], code := 0 }
      else { reading with code := code }
  | .literal _ => reading
  | .minus | .point | .exponent | .exponentSign => reading.extend byte
  | .zero | .digits | .fraction | .exponentDigits =>
      if continuesNumber byte then reading.extend byte else reading.follow byte

/-- The value of a text, where the grammar accepts it. -/
def read (text : List UInt8) : Option Value :=
  (run (observing step note) ({}, ⟨.value, []⟩) text).bind fun last =>
    if Ended last.2.place ∧ last.2.stack = [] then some last.1.value else none

/-- Exactly the texts of the grammar have a value. -/
theorem read_iff_accepts (text : List UInt8) :
    (∃ value, read text = some value) ↔ Accepts text := by
  unfold read Accepts
  rw [Interleaving.run_observing]
  cases run step ⟨.value, []⟩ text with
  | none => simp
  | some last => simp

theorem observe_single {state next : State} {byte : UInt8} {reading : Reading}
    (completed : run step state [byte] = some next) :
    observe step note state reading [byte] = note state byte reading := by
  obtain ⟨middle, taken, _⟩ := Interleaving.run_cons_eq_some.mp completed
  rw [observe, taken]
  rfl

/-- After a value that is complete, everything but more of a number goes to its container. -/
theorem note_ended {place : Place} {stack : List Container} {byte : UInt8} {reading : Reading}
    (ended : Ended place) (noNumber : continuesNumber byte = false) :
    note ⟨place, stack⟩ byte reading = reading.follow byte := by
  rcases ended with rfl | rfl | rfl | rfl | rfl
  · rfl
  all_goals simp [note, noNumber]

/-! ## Strings -/

theorem decode_byte (value : UInt8) (rest : List Piece) :
    decode (.byte value :: rest) = value :: decode rest := by
  unfold decode
  rw [decodeAfter]

/-- A code unit below 128 is that byte. -/
theorem decode_ascii {code : Nat} (ascii : code < 128) (rest : List Piece) :
    decode (.unit code :: rest) = UInt8.ofNat code :: decode rest := by
  have character : isHighSurrogate code = false := by
    unfold isHighSurrogate
    simp
    omega
  unfold decode
  rw [decodeAfter, character, if_neg Bool.false_ne_true, encode, if_pos ascii]
  rfl

/-! ## Numbers -/

/-- The bytes that numbers are written with. -/
def NumberByte (byte : UInt8) : Prop :=
  IsDigit byte ∨ byte = 43 ∨ byte = 45 ∨ byte = 46 ∨ byte = 101

theorem number_bytes {text : List UInt8} (number : IsNumberText text) :
    ∀ byte ∈ text, NumberByte byte := by
  obtain ⟨negative, integer, fraction, exponent, digits, shape, rfl⟩ := number
  intro byte member
  rw [List.mem_append, List.mem_append, List.mem_append] at member
  rcases member with sign | whole | part | power
  · cases negative with
    | false => cases sign
    | true => exact .inr (.inr (.inl (List.mem_singleton.mp sign)))
  · exact .inl (Decimal.numeral_digits integer byte whole)
  · unfold fractionText at part
    split at part
    · cases part
    · cases List.mem_cons.mp part with
      | inl point => exact .inr (.inr (.inr (.inl point)))
      | inr digit => exact .inl (digits byte digit)
  · cases shape with
    | inl none =>
        rw [none] at power
        cases power
    | inr some =>
        obtain ⟨sign, powers, signs, _, all, rfl⟩ := some
        rw [List.mem_cons, List.mem_cons] at power
        rcases power with letter | signed | digit
        · exact .inr (.inr (.inr (.inr letter)))
        · rw [signed]
          cases signs with
          | inl plus => exact .inr (.inl plus)
          | inr minus => exact .inr (.inr (.inl minus))
        · exact .inl (all byte digit)

/-- The places inside a number. -/
def InNumber (place : Place) : Prop :=
  place = .minus ∨ place = .zero ∨ place = .digits ∨ place = .point ∨ place = .fraction ∨
    place = .exponent ∨ place = .exponentSign ∨ place = .exponentDigits

instance (place : Place) : Decidable (InNumber place) := inferInstanceAs (Decidable (_ ∨ _))

section Numbers

variable {stack : List Container} {reading : Reading}

/-- A byte of a number does not follow a complete value. -/
theorem number_byte_unfit {byte : UInt8} (numeric : NumberByte byte) :
    afterValue stack byte = none := by
  have others : isBlank byte = false ∧ byte ≠ 44 ∧ byte ≠ 125 ∧ byte ≠ 93 := by
    rcases numeric with digit | rfl | rfl | rfl | rfl
    · refine ⟨digit_not_blank digit, ?_, ?_, ?_⟩ <;>
        · intro same
          rw [same] at digit
          exact absurd digit (by decide)
    · decide
    · decide
    · decide
    · decide
  obtain ⟨blank, comma, brace, bracket⟩ := others
  unfold afterValue
  rw [blank, if_neg Bool.false_ne_true]
  cases stack with
  | nil => rfl
  | cons container outer => cases container <;> simp [comma, brace, bracket]

/-- The cases are the places; behind a complete number the byte must go on with it. -/
theorem step_in_number {place : Place} {byte : UInt8} {next : State} (inside : InNumber place)
    (numeric : NumberByte byte) (taken : step ⟨place, stack⟩ byte = some next) :
    InNumber next.place ∧ note ⟨place, stack⟩ byte reading = reading.extend byte := by
  have unfit := @number_byte_unfit stack byte numeric
  rcases inside with rfl | rfl | rfl | rfl | rfl | rfl | rfl | rfl
  all_goals
    simp only [step, unfit] at taken
    split_ifs at taken
  all_goals
    cases taken
    constructor
    · simp [InNumber]
    · simp_all [note, continuesNumber]

/-- The induction is on the bytes that are left of the number. -/
theorem observe_in_number {place : Place} {bytes : List UInt8} {last : State}
    (inside : InNumber place) (numeric : ∀ byte ∈ bytes, NumberByte byte)
    (current : reading.value = numberValue reading.literal)
    (completed : run step ⟨place, stack⟩ bytes = some last) :
    observe step note ⟨place, stack⟩ reading bytes =
      { reading with
        literal := reading.literal ++ bytes
        value := numberValue (reading.literal ++ bytes) } := by
  induction bytes generalizing place stack reading with
  | nil =>
      rw [observe, List.append_nil, ← current]
  | cons byte rest induction =>
      obtain ⟨next, taken, remaining⟩ := Interleaving.run_cons_eq_some.mp completed
      have moved := @step_in_number stack reading place byte next inside
        (numeric byte List.mem_cons_self) taken
      rw [observe, taken, moved.2]
      simp only
      rw [@induction next.stack (reading.extend byte) next.place moved.1
        (fun other member => numeric other (List.mem_cons_of_mem byte member)) rfl remaining]
      simp [Reading.extend]

theorem start_number {byte : UInt8} {next : State} (first : IsDigit byte ∨ byte = 45)
    (taken : step ⟨.value, stack⟩ byte = some next) :
    InNumber next.place ∧ note ⟨.value, stack⟩ byte reading =
      { reading with literal := [byte], value := numberValue [byte] } := by
  cases first with
  | inr minus =>
      rw [minus] at taken ⊢
      cases taken
      exact ⟨.inl rfl, rfl⟩
  | inl digit =>
      have letters : byte ≠ 116 ∧ byte ≠ 102 ∧ byte ≠ 110 := by
        refine ⟨?_, ?_, ?_⟩ <;>
          · intro same
            rw [same] at digit
            exact absurd digit (by decide)
      have others := digit_not_punctuation digit
      have begun := @step_first_digit stack byte digit false
      simp only [Bool.false_eq_true, if_false] at begun
      rw [taken, Option.some.injEq] at begun
      constructor
      · rw [begun]
        unfold InNumber
        split <;> simp
      · simp [note, digit_not_blank digit, Reading.start, others, letters]

theorem number_first {text : List UInt8} (number : IsNumberText text) :
    ∃ first rest, text = first :: rest ∧ (IsDigit first ∨ first = 45) := by
  obtain ⟨negative, integer, fraction, exponent, _, _, rfl⟩ := number
  cases negative with
  | true => exact ⟨45, _, rfl, .inr rfl⟩
  | false =>
      cases shape : numeral integer with
      | nil => exact absurd shape (Decimal.numeral_ne_nil integer)
      | cons first rest =>
          refine ⟨first, rest ++ (fractionText fraction ++ exponent), rfl, .inl ?_⟩
          exact Decimal.numeral_digits integer first (by rw [shape]; exact List.mem_cons_self)

/-- Of a number, its text and its value are noted. -/
theorem read_number {text : List UInt8} (number : IsNumberText text) :
    ∃ place, Ended place ∧ run (observing step note) (reading, ⟨.value, stack⟩) text =
      some ({ reading with literal := text, value := numberValue text }, ⟨place, stack⟩) := by
  obtain ⟨place, ended, completed⟩ := @run_number stack text number
  obtain ⟨first, rest, shape, start⟩ := number_first number
  have numeric := number_bytes number
  refine ⟨place, ended, ?_⟩
  rw [Interleaving.run_observing, completed, Option.map_some]
  rw [shape] at completed numeric ⊢
  obtain ⟨next, taken, remaining⟩ := Interleaving.run_cons_eq_some.mp completed
  have begun := @start_number stack reading first next start taken
  rw [observe, taken]
  simp only
  rw [begun.2, observe_in_number begun.1
    (fun other member => numeric other (List.mem_cons_of_mem first member)) rfl remaining]
  rfl

/-- The numeral of an integer denotes that integer. -/
theorem number_value_signed (number : Int) :
    numberValue (signedNumeral number) = .integer number := by
  have digits := Decimal.numeral_digits number.natAbs
  unfold numberValue signedNumeral
  by_cases negative : number < 0
  · have sign : minusText (decide (number < 0)) = [45] := by
      rw [decide_eq_true negative]
      rfl
    simp only [sign, List.cons_append, List.nil_append, List.head?_cons, if_true, List.tail_cons,
      Decimal.value_numeral]
    rw [if_pos (by simpa using digits)]
    congr 1
    omega
  · have sign : minusText (decide (number < 0)) = [] := by
      rw [decide_eq_false negative]
      rfl
    have unsigned : (numeral number.natAbs).head? ≠ some 45 := by
      intro minus
      exact absurd (digits 45 (List.mem_of_mem_head? minus)) (by decide)
    simp only [sign, List.nil_append, unsigned, if_false, Decimal.value_numeral]
    rw [if_pos (by simpa using digits)]
    congr 1
    omega

end Numbers

end TboxFramework.Json

import TboxFramework.Library.BitString

/-!
# Hexadecimal text

Two digits for each byte, in one of the two cases of letters, and the reading of texts
in either case.
-/

namespace Hexadecimal

set_option autoImplicit false

def digit (upper : Bool) (value : Nat) : UInt8 :=
  UInt8.ofNat (if value < 10 then 48 + value else if upper then 55 + value else 87 + value)

def encode (upper : Bool) (data : List UInt8) : List UInt8 :=
  data.flatMap fun byte => [digit upper (byte.toNat / 16), digit upper (byte.toNat % 16)]

/-- The value of a digit in either case. -/
def value (byte : UInt8) : Option Nat :=
  if 48 ≤ byte ∧ byte ≤ 57 then some (byte.toNat - 48)
  else if 97 ≤ byte ∧ byte ≤ 102 then some (byte.toNat - 87)
  else if 65 ≤ byte ∧ byte ≤ 70 then some (byte.toNat - 55)
  else none

def decode : List UInt8 → Option (List UInt8)
  | [] => some []
  | [_] => none
  | high :: low :: rest =>
      match value high, value low, decode rest with
      | some high, some low, some bytes => some (UInt8.ofNat (16 * high + low) :: bytes)
      | _, _, _ => none

/-- A letter in one case; all other characters stay. -/
def letterCase (upper : Bool) (byte : UInt8) : UInt8 :=
  if upper then (if 97 ≤ byte ∧ byte ≤ 122 then byte - 32 else byte)
  else if 65 ≤ byte ∧ byte ≤ 90 then byte + 32 else byte

theorem encode_length (upper : Bool) (data : List UInt8) :
    (encode upper data).length = 2 * data.length := by
  unfold encode
  induction data with
  | nil => rfl
  | cons byte rest induction =>
      have two : 2 * (rest.length + 1) = 2 * rest.length + 2 := Nat.mul_succ 2 rest.length
      rw [List.flatMap_cons, List.length_append, induction, @List.length_cons _ byte, two,
        Nat.add_comm]
      rfl

/-! ## Digits -/

theorem value_digit (upper : Bool) {number : Nat} (small : number < 16) :
    value (digit upper number) = some number := by
  revert number
  cases upper with
  | false => decide
  | true => decide

theorem digit_value (upper : Bool) {byte : UInt8} {number : Nat} (read : value byte = some number) :
    number < 16 ∧ digit upper number = letterCase upper byte := by
  have all : ∀ byte : UInt8, ∀ number ∈ value byte,
      number < 16 ∧ digit upper number = letterCase upper byte := by
    cases upper with
    | false => exact BitString.byte_cases (by decide +kernel)
    | true => exact BitString.byte_cases (by decide +kernel)
  exact all byte number read

/-! ## Both directions -/

theorem decode_pair {high low : UInt8} {rest bytes : List UInt8} {first second : Nat}
    (highRead : value high = some first) (lowRead : value low = some second)
    (restRead : decode rest = some bytes) :
    decode (high :: low :: rest) = some (UInt8.ofNat (16 * first + second) :: bytes) := by
  rw [decode, highRead, lowRead, restRead]

theorem decode_encode (upper : Bool) (data : List UInt8) :
    decode (encode upper data) = some data := by
  induction data with
  | nil => rfl
  | cons byte rest induction =>
      have small := byte.toNat_lt
      have whole : 16 * (byte.toNat / 16) + byte.toNat % 16 = byte.toNat := by omega
      have pair := decode_pair (@value_digit upper (byte.toNat / 16) (by omega))
        (@value_digit upper (byte.toNat % 16) (by omega)) induction
      rw [whole, UInt8.ofNat_toNat] at pair
      exact pair

/-- Induction on a text by its pairs. -/
theorem pair_induction {α : Type} {motive : List α → Prop} (none_left : motive [])
    (one_left : ∀ single, motive [single])
    (pair : ∀ high low rest, motive rest → motive (high :: low :: rest)) : ∀ text, motive text
  | [] => none_left
  | [single] => one_left single
  | high :: low :: rest => pair high low rest (pair_induction none_left one_left pair rest)

/-- What is read has digits in its first pair, and its rest is read. -/
theorem decode_cons {high low : UInt8} {rest bytes : List UInt8}
    (read : decode (high :: low :: rest) = some bytes) :
    ∃ first second more, value high = some first ∧ value low = some second ∧
      decode rest = some more ∧ bytes = UInt8.ofNat (16 * first + second) :: more := by
  rw [decode] at read
  split at read
  · next first second more highRead lowRead restRead =>
      exact ⟨first, second, more, highRead, lowRead, restRead, (Option.some.inj read).symm⟩
  · cases read

/-- Read is a text of pairs of digits. -/
theorem decode_some_iff (text : List UInt8) :
    (∃ bytes, decode text = some bytes) ↔
      text.length % 2 = 0 ∧ ∀ byte ∈ text, ∃ number, value byte = some number := by
  induction text using pair_induction with
  | none_left => simp [decode]
  | one_left single => simp [decode]
  | pair high low rest induction =>
      rw [List.length_cons, List.length_cons, List.forall_mem_cons, List.forall_mem_cons,
        Nat.add_assoc, Nat.add_mod_right]
      constructor
      · intro accepted
        obtain ⟨bytes, read⟩ := accepted
        obtain ⟨first, second, more, highRead, lowRead, restRead, _⟩ := decode_cons read
        have later := induction.mp ⟨more, restRead⟩
        exact ⟨later.1, ⟨first, highRead⟩, ⟨second, lowRead⟩, later.2⟩
      · intro shape
        obtain ⟨even, ⟨first, highRead⟩, ⟨second, lowRead⟩, digits⟩ := shape
        obtain ⟨more, restRead⟩ := induction.mpr ⟨even, digits⟩
        exact ⟨_, decode_pair highRead lowRead restRead⟩

/-- Refused is an odd length, or a character that is no digit. -/
theorem decode_none_iff (text : List UInt8) :
    decode text = none ↔ text.length % 2 = 1 ∨ ∃ byte ∈ text, value byte = none := by
  have accepted := decode_some_iff text
  constructor
  · intro refused
    by_contra shape
    rw [not_or] at shape
    have even : text.length % 2 = 0 := Nat.mod_two_ne_one.mp shape.1
    have digits : ∀ byte ∈ text, ∃ number, value byte = some number := by
      intro byte member
      apply Option.ne_none_iff_exists'.mp
      intro none_read
      exact shape.2 ⟨byte, member, none_read⟩
    obtain ⟨bytes, read⟩ := accepted.mpr ⟨even, digits⟩
    rw [refused] at read
    cases read
  · intro shape
    apply Option.eq_none_iff_forall_ne_some.mpr
    intro bytes read
    obtain ⟨even, digits⟩ := accepted.mp ⟨bytes, read⟩
    cases shape with
    | inl odd => omega
    | inr other =>
        obtain ⟨byte, member, none_read⟩ := other
        obtain ⟨number, some_read⟩ := digits byte member
        rw [none_read] at some_read
        cases some_read

/-- The texts that are read differ from the written ones in the case of letters only. -/
theorem encode_decode (upper : Bool) {text : List UInt8} :
    ∀ {bytes}, decode text = some bytes → encode upper bytes = text.map (letterCase upper) := by
  induction text using pair_induction with
  | none_left =>
      intro bytes read
      cases read
      rfl
  | one_left single =>
      intro bytes read
      cases read
  | pair high low rest induction =>
      intro bytes read
      obtain ⟨first, second, more, highRead, lowRead, restRead, rfl⟩ := decode_cons read
      obtain ⟨highSmall, highDigit⟩ := digit_value upper highRead
      obtain ⟨lowSmall, lowDigit⟩ := digit_value upper lowRead
      have byte : (UInt8.ofNat (16 * first + second)).toNat = 16 * first + second := by
        rw [UInt8.toNat_ofNat']
        omega
      have halves : (16 * first + second) / 16 = first ∧ (16 * first + second) % 16 = second := by
        omega
      have cons : encode upper (UInt8.ofNat (16 * first + second) :: more) =
          digit upper ((UInt8.ofNat (16 * first + second)).toNat / 16) ::
            digit upper ((UInt8.ofNat (16 * first + second)).toNat % 16) :: encode upper more := rfl
      rw [cons, byte, halves.1, halves.2, highDigit, lowDigit, induction restRead]
      rfl

end Hexadecimal

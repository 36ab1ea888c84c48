import TboxFramework.Library.Hexadecimal
import TboxFramework.Utils.Stoi

/-!
# The hex codec

`std::isxdigit` is that of the "C" locale; its table has an entry for each `char`, and
that of a negative one, a byte from 0x80 on, is no digit. What `std::stoi` throws is thrown
again as another exception; its text is that of the library.
-/

namespace TboxFramework.Utils

set_option autoImplicit false

inductive HexException
  | invalidArgument (what : String)
  | runtimeError (what : String)
  deriving DecidableEq

def isXDigit (byte : UInt8) : Bool :=
  (48 ≤ byte && byte ≤ 57) || (65 ≤ byte && byte ≤ 70) || (97 ≤ byte && byte ≤ 102)

/-- The loop over the pairs; `bytes` is what it has pushed. -/
def convertPairs (bytes : Bytes) : Bytes → Except HexException Bytes
  | high :: low :: rest =>
      if !isXDigit high || !isXDigit low then
        .error (.invalidArgument "Invalid hex character")
      else
        match stoi 16 [high, low] with
        | some byte => convertPairs (bytes ++ [UInt8.ofInt byte.toInt]) rest
        | none => .error (.runtimeError ("Failed to convert hex to bytes: " ++ "stoi"))
  | _ => .ok bytes

def hexToBytes (hexStr : Bytes) : Except HexException Bytes :=
  if hexStr.length % 2 ≠ 0 then .error (.invalidArgument "Hex string length must be even")
  else convertPairs [] hexStr

def bytesToHex (bytes : Bytes) (uppercase : Bool) : Bytes :=
  let hexChars :=
    if uppercase then "0123456789ABCDEF".toUTF8.data.toList
    else "0123456789abcdef".toUTF8.data.toList
  bytes.flatMap fun (byte : UInt8) =>
    [hexChars.getD (byte >>> 4).toNat 0, hexChars.getD (byte &&& 0xf).toNat 0]

/-! ## One pair -/

open Hexadecimal (decode encode value)

theorem x_digit_value (byte : UInt8) : isXDigit byte = (value byte).isSome := by
  revert byte
  exact BitString.byte_cases (by decide +kernel)

/-- A digit is neither a blank nor a sign, and the number parser takes it as its value. -/
theorem digit_parsed {byte : UInt8} {number : Nat} (read : value byte = some number) :
    digitValue byte = number ∧ Store.isSpace byte = false ∧ byte ≠ 45 ∧ byte ≠ 43 := by
  have all : ∀ byte : UInt8, ∀ number ∈ value byte,
      digitValue byte = number ∧ Store.isSpace byte = false ∧ byte ≠ 45 ∧ byte ≠ 43 :=
    BitString.byte_cases (by decide +kernel)
  exact all byte number read

theorem split_sign_other {first : UInt8} {rest : Bytes} (minus : first ≠ 45) (plus : first ≠ 43) :
    Store.splitSign (first :: rest) = (false, first :: rest) := by
  unfold Store.splitSign
  split
  · next same => exact absurd (List.cons.inj same).1 minus
  · next same => exact absurd (List.cons.inj same).1 plus
  · rfl

/-- Two characters are too few for `0x` and a digit. -/
theorem skip_base_pair (high low : UInt8) : skipBase 16 [high, low] = [high, low] := by
  unfold skipBase
  split
  · next same => cases (List.cons.inj (List.cons.inj same).2).2
  · rfl

theorem stoi_pair {high low : UInt8} {first second : Nat} (highRead : value high = some first)
    (lowRead : value low = some second) :
    stoi 16 [high, low] = some (Int32.ofInt (16 * first + second : Nat)) := by
  obtain ⟨highValue, blank, minus, plus⟩ := digit_parsed highRead
  obtain ⟨lowValue, _⟩ := digit_parsed lowRead
  have highSmall := (Hexadecimal.digit_value false highRead).1
  have lowSmall := (Hexadecimal.digit_value false lowRead).1
  have parsed : strtol 16 [high, low] = some ↑(16 * first + second) := by
    unfold strtol
    rw [List.dropWhile_cons_of_neg (by simp [blank]), split_sign_other minus plus]
    simp only [skip_base_pair, List.takeWhile_cons, List.takeWhile_nil, highValue, lowValue,
      highSmall, lowSmall, decide_true, if_true, List.foldl_cons, List.foldl_nil]
    simp
  have bounded : Int32.minValue.toInt ≤ (↑(16 * first + second) : Int) ∧
      (↑(16 * first + second) : Int) ≤ Int32.maxValue.toInt := by
    have least : Int32.minValue.toInt = -2147483648 := rfl
    have greatest : Int32.maxValue.toInt = 2147483647 := rfl
    omega
  unfold stoi
  rw [parsed]
  exact if_pos bounded

/-- The conversion to `unsigned char` keeps the value of a pair. -/
theorem pair_byte {number : Nat} (small : number < 256) :
    UInt8.ofInt (Int32.ofInt number).toInt = UInt8.ofNat number := by
  have same : (Int32.ofInt (number : Int)).toInt = number :=
    Int32.toInt_ofInt_of_le (by omega) (by omega)
  have low : ((number : Int) % 2 ^ 8).toNat = number := by omega
  unfold UInt8.ofInt
  rw [same, low]

/-! ## The codec -/

theorem bytes_to_hex_eq (bytes : Bytes) (uppercase : Bool) :
    bytesToHex bytes uppercase = encode uppercase bytes := by
  have digits : ∀ byte : UInt8,
      (if uppercase then "0123456789ABCDEF".toUTF8.data.toList
        else "0123456789abcdef".toUTF8.data.toList).getD (byte >>> 4).toNat 0 =
          Hexadecimal.digit uppercase (byte.toNat / 16) ∧
      (if uppercase then "0123456789ABCDEF".toUTF8.data.toList
        else "0123456789abcdef".toUTF8.data.toList).getD (byte &&& 0xf).toNat 0 =
          Hexadecimal.digit uppercase (byte.toNat % 16) := by
    cases uppercase with
    | false => exact BitString.byte_cases (by decide +kernel)
    | true => exact BitString.byte_cases (by decide +kernel)
  unfold bytesToHex encode
  simp only [digits]

/-- The loop converts what is read as pairs of digits. -/
theorem convert_pairs_eq {text : Bytes} : text.length % 2 = 0 → ∀ bytes,
    convertPairs bytes text =
      match decode text with
      | some more => .ok (bytes ++ more)
      | none => .error (.invalidArgument "Invalid hex character") := by
  induction text using Hexadecimal.pair_induction with
  | none_left =>
      intro _ bytes
      change Except.ok bytes = Except.ok (bytes ++ [])
      rw [List.append_nil]
  | one_left single =>
      intro odd
      cases odd
  | pair high low rest induction =>
      intro even bytes
      rw [List.length_cons, List.length_cons, Nat.add_assoc, Nat.add_mod_right] at even
      rw [convertPairs, x_digit_value, x_digit_value, decode]
      cases highRead : value high with
      | none => rfl
      | some first =>
          cases lowRead : value low with
          | none => rfl
          | some second =>
              have firstSmall := (Hexadecimal.digit_value false highRead).1
              have secondSmall := (Hexadecimal.digit_value false lowRead).1
              simp only [Option.isSome_some, Bool.not_true, Bool.or_self, Bool.false_eq_true,
                if_false, stoi_pair highRead lowRead]
              rw [pair_byte (by omega), induction even]
              cases decode rest with
              | none => rfl
              | some more => simp only [List.append_assoc, List.singleton_append]

/-- The function reads what the format reads, and throws otherwise. -/
theorem hex_to_bytes_ok (text bytes : Bytes) :
    hexToBytes text = .ok bytes ↔ decode text = some bytes := by
  unfold hexToBytes
  by_cases even : text.length % 2 = 0
  · rw [if_neg (not_not.mpr even), convert_pairs_eq even]
    cases decode text with
    | none => simp
    | some more => simp
  · rw [if_pos even]
    constructor
    · intro done
      cases done
    · intro read
      exact absurd ((Hexadecimal.decode_some_iff text).mp ⟨bytes, read⟩).1 even

theorem hex_to_bytes_throws (text : Bytes) :
    (∃ thrown, hexToBytes text = .error thrown) ↔ decode text = none := by
  rw [Option.eq_none_iff_forall_ne_some]
  simp only [ne_eq, ← hex_to_bytes_ok]
  cases hexToBytes text with
  | error thrown => simp
  | ok bytes => simp

/-- Text is read back from what is written, and what is read is written again in the case
that is asked for. -/
theorem hex_codec :
    (∀ bytes upper, hexToBytes (bytesToHex bytes upper) = .ok bytes) ∧
    ∀ text : Bytes,
      ((∃ thrown, hexToBytes text = .error thrown) ↔
        text.length % 2 = 1 ∨ ∃ byte ∈ text, value byte = none) ∧
      ∀ bytes, hexToBytes text = .ok bytes → ∀ upper,
        bytesToHex bytes upper = text.map (Hexadecimal.letterCase upper) := by
  constructor
  · intro bytes upper
    rw [bytes_to_hex_eq, hex_to_bytes_ok]
    exact Hexadecimal.decode_encode upper bytes
  · intro text
    constructor
    · rw [← Hexadecimal.decode_none_iff]
      exact hex_to_bytes_throws text
    · intro bytes done upper
      rw [bytes_to_hex_eq]
      exact Hexadecimal.encode_decode upper ((hex_to_bytes_ok text bytes).mp done)

end TboxFramework.Utils

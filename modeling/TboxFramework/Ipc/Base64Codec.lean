import TboxFramework.Ipc.Protocol
import TboxFramework.Library.Base64
import Mathlib.Data.List.GetD
import Mathlib.Data.List.TakeWhile

/-!
# The protocol's base 64 codec

The loops of `base64Encode` and `base64Decode`. `char_array_3` and `char_array_4` are
the bytes that their index has reached; arithmetic on them is that of `unsigned char`.
The decoder's index is an `int`, so that the number of a byte stands for it in strings
below 2^31 only.
-/

namespace TboxFramework.Ipc.Protocol

set_option autoImplicit false

def base64Chars : Bytes :=
  ("ABCDEFGHIJKLMNOPQRSTUVWXYZ" ++ "abcdefghijklmnopqrstuvwxyz" ++
    "0123456789+/").toUTF8.data.toList

/-- `strchr`: the terminating zero is found too. -/
def strchr (chars : Bytes) (byte : UInt8) : Option UInt8 :=
  ((chars ++ [0]).findIdx? (· = byte)).map UInt8.ofNat

/-- `std::isalnum` in the "C" locale. -/
def isAlnum (byte : UInt8) : Bool :=
  (48 ≤ byte && byte ≤ 57) || (65 ≤ byte && byte ≤ 90) || (97 ≤ byte && byte ≤ 122)

/-! ## Encoding -/

/-- `char_array_4` from `char_array_3`. -/
def spread (first second third : UInt8) : Bytes :=
  [(first &&& 0xfc) >>> 2, ((first &&& 0x03) <<< 4) + ((second &&& 0xf0) >>> 4),
    ((second &&& 0x0f) <<< 2) + ((third &&& 0xc0) >>> 6), third &&& 0x3f]

/-- The characters for the first `count` of the four numbers; the array ends in a zero. -/
def characters (count : Nat) (numbers : Bytes) : Bytes :=
  (numbers.take count).map fun number => base64Chars.getD number.toNat 0

/-- The bytes in `char_array_3` and the result so far. -/
structure Encoding where
  charArray3 : Bytes
  result : Bytes

/-- The body of the loop over the bytes. -/
def encodeByte (encoding : Encoding) (byte : UInt8) : Encoding :=
  match encoding.charArray3 with
  | [first, second] =>
      { charArray3 := [], result := encoding.result ++ characters 4 (spread first second byte) }
  | pending => { encoding with charArray3 := pending ++ [byte] }

/-- What follows the loop: zeros fill the array, and pad characters the result. -/
def encodeTail (encoding : Encoding) : Bytes :=
  match encoding.charArray3 with
  | [] => encoding.result
  | [first] => encoding.result ++ characters 2 (spread first 0 0) ++ List.replicate 2 61
  | first :: second :: _ =>
      encoding.result ++ characters 3 (spread first second 0) ++ List.replicate 1 61

def base64Encode (data : Bytes) : Bytes := encodeTail (data.foldl encodeByte ⟨[], []⟩)

/-! ## Decoding -/

/-- The condition of the loop. -/
def isCharacter (byte : UInt8) : Bool := byte ≠ 61 && (isAlnum byte || byte = 43 || byte = 47)

/-- `char_array_3` from `char_array_4`. -/
def gather (first second third fourth : UInt8) : Bytes :=
  [(first <<< 2) + ((second &&& 0x30) >>> 4),
    ((second &&& 0x0f) <<< 4) + ((third &&& 0x3c) >>> 2),
    ((third &&& 0x03) <<< 6) + fourth]

/-- The lookup of the loop: a character that is not found ends the whole decoding. -/
def lookUp (byte : UInt8) : Option UInt8 := strchr base64Chars byte

/-- The lookup of the tail. -/
def lookUpTail (byte : UInt8) : UInt8 := (strchr base64Chars byte).getD 0

/-- The bytes in `char_array_4` and the result so far; none where the function returns the
empty string at once. -/
def decodeLoop (charArray4 result : Bytes) : Bytes → Option (Bytes × Bytes)
  | [] => some (charArray4, result)
  | byte :: rest =>
      if isCharacter byte then
        match charArray4 with
        | [first, second, third] =>
            match lookUp first, lookUp second, lookUp third, lookUp byte with
            | some first, some second, some third, some fourth =>
                decodeLoop [] (result ++ gather first second third fourth) rest
            | _, _, _, _ => none
        | pending => decodeLoop (pending ++ [byte]) result rest
      else some (charArray4, result)

/-- What follows the loop: zeros fill the array and are looked up as well. -/
def decodeTail : Bytes × Bytes → Bytes
  | ([], result) => result
  | ([first], result) =>
      result ++ (gather (lookUpTail first) (lookUpTail 0) (lookUpTail 0) (lookUpTail 0)).take 0
  | ([first, second], result) =>
      result ++ (gather (lookUpTail first) (lookUpTail second) (lookUpTail 0)
        (lookUpTail 0)).take 1
  | (first :: second :: third :: _, result) =>
      result ++ (gather (lookUpTail first) (lookUpTail second) (lookUpTail third)
        (lookUpTail 0)).take 2

def base64Decode (encoded : Bytes) : Bytes :=
  match decodeLoop [] [] encoded with
  | some decoded => decodeTail decoded
  | none => []

/-! ## Bytes and numbers -/

open BitString (byte_cases)
open Base64 (alphabet index octets symbol)

theorem chars_eq_alphabet : base64Chars = alphabet := by decide +kernel

theorem character_iff (byte : UInt8) : isCharacter byte = decide (byte ∈ alphabet) := by
  rw [Bool.eq_iff_iff, decide_eq_true_iff, Base64.mem_alphabet]
  unfold isCharacter isAlnum
  simp only [UInt8.le_iff_toNat_le, ← UInt8.toNat_inj, Bool.and_eq_true, Bool.or_eq_true,
    decide_eq_true_iff, ne_eq, UInt8.reduceToNat]
  omega

theorem look_up_symbol {value : Nat} (small : value < 64) :
    strchr base64Chars (symbol value) = some (UInt8.ofNat value) := by
  revert value
  decide +kernel

theorem symbol_index {byte : UInt8} (member : byte ∈ alphabet) : symbol (index byte) = byte := by
  unfold symbol index
  rw [List.getD_eq_getElem _ _ (List.idxOf_lt_length_of_mem member), List.getElem_idxOf]

theorem look_up_character {byte : UInt8} (member : byte ∈ alphabet) :
    strchr base64Chars byte = some (UInt8.ofNat (index byte)) := by
  have found := look_up_symbol (Base64.index_small member)
  rw [symbol_index member] at found
  exact found

theorem spread_numbers (first second third : UInt8) :
    spread first second third =
      [UInt8.ofNat (first.toNat / 4),
        UInt8.ofNat (first.toNat % 4 * 16 + second.toNat / 16),
        UInt8.ofNat (second.toNat % 16 * 4 + third.toNat / 64),
        UInt8.ofNat (third.toNat % 64)] := by
  have high : ∀ byte : UInt8, (byte &&& 0xfc) >>> 2 = UInt8.ofNat (byte.toNat / 4) :=
    byte_cases (by decide +kernel)
  have two : ∀ byte : UInt8, (byte &&& 0x03) <<< 4 = UInt8.ofNat (byte.toNat % 4 * 16) :=
    byte_cases (by decide +kernel)
  have nibble : ∀ byte : UInt8, (byte &&& 0xf0) >>> 4 = UInt8.ofNat (byte.toNat / 16) :=
    byte_cases (by decide +kernel)
  have four : ∀ byte : UInt8, (byte &&& 0x0f) <<< 2 = UInt8.ofNat (byte.toNat % 16 * 4) :=
    byte_cases (by decide +kernel)
  have top : ∀ byte : UInt8, (byte &&& 0xc0) >>> 6 = UInt8.ofNat (byte.toNat / 64) :=
    byte_cases (by decide +kernel)
  have low : ∀ byte : UInt8, byte &&& 0x3f = UInt8.ofNat (byte.toNat % 64) :=
    byte_cases (by decide +kernel)
  unfold spread
  rw [high, two, nibble, four, top, low, ← UInt8.ofNat_add, ← UInt8.ofNat_add]

/-- The first byte needs the first two numbers, the second byte the two after it. -/
theorem gather_numbers {first second third : Nat} (firstSmall : first < 64)
    (secondSmall : second < 64) (thirdSmall : third < 65) (fourth : UInt8) :
    gather (UInt8.ofNat first) (UInt8.ofNat second) (UInt8.ofNat third) fourth =
      [UInt8.ofNat (first * 4 + second / 16), UInt8.ofNat (second % 16 * 16 + third % 64 / 4),
        UInt8.ofNat (third % 4 * 64) + fourth] := by
  have four : ∀ value < 64, UInt8.ofNat value <<< 2 = UInt8.ofNat (value * 4) := by decide +kernel
  have high : ∀ value < 64, (UInt8.ofNat value &&& 0x30) >>> 4 = UInt8.ofNat (value / 16) := by
    decide +kernel
  have nibble : ∀ value < 64,
      (UInt8.ofNat value &&& 0x0f) <<< 4 = UInt8.ofNat (value % 16 * 16) := by
    decide +kernel
  have middle : ∀ value < 65,
      (UInt8.ofNat value &&& 0x3c) >>> 2 = UInt8.ofNat (value % 64 / 4) := by
    decide +kernel
  have two : ∀ value < 65, (UInt8.ofNat value &&& 0x03) <<< 6 = UInt8.ofNat (value % 4 * 64) := by
    decide +kernel
  unfold gather
  rw [four first firstSmall, high second secondSmall, nibble second secondSmall,
    middle third thirdSmall, two third thirdSmall, ← UInt8.ofNat_add, ← UInt8.ofNat_add]

/-! ## The encoder -/

theorem characters_eq (count : Nat) (values : List Nat) (small : ∀ value ∈ values, value < 64) :
    characters count (values.map UInt8.ofNat) = (values.take count).map symbol := by
  unfold characters
  rw [← List.map_take, List.map_map]
  apply List.map_congr_left
  intro value member
  have below := small value (List.mem_of_mem_take member)
  rw [Function.comp_apply, UInt8.toNat_ofNat', Nat.mod_eq_of_lt (by omega), chars_eq_alphabet]
  rfl

/-- The characters of three bytes, of which the last may be the zeros of the tail. -/
theorem spread_characters (count : Nat) (first second third : UInt8) :
    characters count (spread first second third) =
      (([first.toNat / 4, first.toNat % 4 * 16 + second.toNat / 16,
        second.toNat % 16 * 4 + third.toNat / 64, third.toNat % 64]).take count).map symbol := by
  have firstSmall := first.toNat_lt
  have secondSmall := second.toNat_lt
  have thirdSmall := third.toNat_lt
  rw [spread_numbers]
  apply characters_eq count [_, _, _, _]
  simp only [List.forall_mem_cons, List.not_mem_nil, false_implies, implies_true, and_true]
  omega

/-- The induction is on the blocks of three bytes that the loop takes together. -/
theorem encode_loop (data : Bytes) : ∀ result,
    encodeTail (data.foldl encodeByte ⟨[], result⟩) = result ++ Base64.encode data := by
  induction data using Base64.block_induction with
  | none_left =>
      intro result
      unfold Base64.encode
      rw [Base64.sextets_none]
      exact (List.append_nil result).symm
  | one_left first =>
      intro result
      change result ++ characters 2 (spread first 0 0) ++ List.replicate 2 61 = _
      unfold Base64.encode
      rw [spread_characters, Base64.sextets_one, List.append_assoc]
      rfl
  | two_left first second =>
      intro result
      change result ++ characters 3 (spread first second 0) ++ List.replicate 1 61 = _
      unfold Base64.encode
      rw [spread_characters, Base64.sextets_two, List.append_assoc]
      rfl
  | block first second third rest induction =>
      intro result
      change encodeTail (rest.foldl encodeByte
        ⟨[], result ++ characters 4 (spread first second third)⟩) = _
      rw [induction, spread_characters, Base64.encode_block, List.append_assoc]
      rfl

theorem base64_encode_eq (data : Bytes) : base64Encode data = Base64.encode data :=
  (encode_loop data []).trans (List.nil_append _)

/-! ## The decoder -/

/-- What the loop finds behind the characters. -/
def Stops (rest : Bytes) : Prop := ∀ byte ∈ rest.head?, isCharacter byte = false

theorem loop_stops {rest : Bytes} (stops : Stops rest) (pending result : Bytes) :
    decodeLoop pending result rest = some (pending, result) := by
  cases rest with
  | nil => rfl
  | cons byte rest =>
      unfold decodeLoop
      rw [stops byte rfl, if_neg Bool.false_ne_true]

theorem loop_pending {byte : UInt8} (character : byte ∈ alphabet) {pending : Bytes}
    (few : pending.length < 3) (result rest : Bytes) :
    decodeLoop pending result (byte :: rest) = decodeLoop (pending ++ [byte]) result rest := by
  have enters := (character_iff byte).trans (decide_eq_true character)
  match pending, few with
  | [], _ => exact if_pos enters
  | [_], _ => exact if_pos enters
  | [_, _], _ => exact if_pos enters

theorem loop_block {first second third fourth : UInt8} (firstIn : first ∈ alphabet)
    (secondIn : second ∈ alphabet) (thirdIn : third ∈ alphabet) (fourthIn : fourth ∈ alphabet)
    (result rest : Bytes) :
    decodeLoop [first, second, third] result (fourth :: rest) =
      decodeLoop [] (result ++ gather (UInt8.ofNat (index first)) (UInt8.ofNat (index second))
        (UInt8.ofNat (index third)) (UInt8.ofNat (index fourth))) rest := by
  have enters := (character_iff fourth).trans (decide_eq_true fourthIn)
  rw [decodeLoop.eq_def]
  simp only [enters, if_true, lookUp, look_up_character firstIn, look_up_character secondIn,
    look_up_character thirdIn, look_up_character fourthIn]

/-- Induction on a list by its blocks of four. -/
theorem four_induction {α : Type} {motive : List α → Prop} (none_left : motive [])
    (one_left : ∀ first, motive [first]) (two_left : ∀ first second, motive [first, second])
    (three_left : ∀ first second third, motive [first, second, third])
    (block : ∀ first second third fourth rest, motive rest →
      motive (first :: second :: third :: fourth :: rest)) : ∀ list, motive list
  | [] => none_left
  | [first] => one_left first
  | [first, second] => two_left first second
  | [first, second, third] => three_left first second third
  | first :: second :: third :: fourth :: rest =>
      block first second third fourth rest
        (four_induction none_left one_left two_left three_left block rest)

theorem look_up_tail {byte : UInt8} (character : byte ∈ alphabet) :
    lookUpTail byte = UInt8.ofNat (index byte) := by
  unfold lookUpTail
  rw [look_up_character character]
  rfl

/-- The zeros of the tail are found behind the characters, at index 64. -/
theorem look_up_zero : lookUpTail 0 = UInt8.ofNat 64 := by decide +kernel

/-- The induction is on the blocks of four characters that the loop takes together. -/
theorem decode_loop (characters : Bytes) {rest : Bytes} (stops : Stops rest) :
    (∀ byte ∈ characters, byte ∈ alphabet) → ∀ result,
      (decodeLoop [] result (characters ++ rest)).map decodeTail =
        some (result ++ octets (characters.map index)) := by
  induction characters using four_induction with
  | none_left =>
      intro _ result
      rw [List.nil_append, loop_stops stops, Option.map_some, List.map_nil,
        Base64.octets_short (Nat.zero_le _), List.append_nil]
      rfl
  | one_left first =>
      intro inside result
      rw [List.cons_append, List.nil_append, loop_pending (inside first List.mem_cons_self)
        (by simp), loop_stops stops, Option.map_some, List.map_cons, List.map_nil,
        Base64.octets_short (Nat.le_refl _)]
      rfl
  | two_left first second =>
      intro inside result
      simp only [List.forall_mem_cons, List.not_mem_nil, false_implies, implies_true,
        and_true] at inside
      obtain ⟨firstIn, secondIn⟩ := inside
      rw [List.cons_append, List.cons_append, List.nil_append, loop_pending firstIn (by simp),
        loop_pending secondIn (by simp), loop_stops stops, Option.map_some]
      simp only [List.nil_append, List.cons_append, decodeTail, List.map_cons, List.map_nil]
      rw [look_up_tail firstIn, look_up_tail secondIn, look_up_zero,
        gather_numbers (Base64.index_small firstIn) (Base64.index_small secondIn) (by omega),
        Base64.octets_two (Base64.index_small firstIn) (Base64.index_small secondIn)]
      rfl
  | three_left first second third =>
      intro inside result
      simp only [List.forall_mem_cons, List.not_mem_nil, false_implies, implies_true,
        and_true] at inside
      obtain ⟨firstIn, secondIn, thirdIn⟩ := inside
      have thirdSmall := Base64.index_small thirdIn
      rw [List.cons_append, List.cons_append, List.cons_append, List.nil_append,
        loop_pending firstIn (by simp), loop_pending secondIn (by simp),
        loop_pending thirdIn (by simp), loop_stops stops, Option.map_some]
      simp only [List.nil_append, List.cons_append, decodeTail, List.map_cons, List.map_nil]
      rw [look_up_tail firstIn, look_up_tail secondIn, look_up_tail thirdIn,
        gather_numbers (Base64.index_small firstIn) (Base64.index_small secondIn) (by omega),
        Base64.octets_three (Base64.index_small firstIn) (Base64.index_small secondIn) thirdSmall,
        Nat.mod_eq_of_lt thirdSmall]
      rfl
  | block first second third fourth others induction =>
      intro inside result
      simp only [List.forall_mem_cons] at inside
      obtain ⟨firstIn, secondIn, thirdIn, fourthIn, othersIn⟩ := inside
      have thirdSmall := Base64.index_small thirdIn
      rw [List.cons_append, List.cons_append, List.cons_append, List.cons_append,
        loop_pending firstIn (by simp), loop_pending secondIn (by simp),
        loop_pending thirdIn (by simp)]
      simp only [List.nil_append, List.cons_append]
      rw [loop_block firstIn secondIn thirdIn fourthIn, induction othersIn,
        gather_numbers (Base64.index_small firstIn) (Base64.index_small secondIn) (by omega)]
      simp only [List.map_cons]
      rw [Base64.octets_block (Base64.index_small firstIn) (Base64.index_small secondIn)
        thirdSmall (Base64.index_small fourthIn), Nat.mod_eq_of_lt thirdSmall, List.append_assoc,
        ← UInt8.ofNat_add]
      rfl

/-- The longest front of a text that is made of characters. -/
def characterPrefix (encoded : Bytes) : Bytes :=
  encoded.takeWhile fun byte => decide (byte ∈ alphabet)

theorem base64_decode_eq (encoded : Bytes) :
    base64Decode encoded = octets ((characterPrefix encoded).map index) := by
  have inside : ∀ byte ∈ characterPrefix encoded, byte ∈ alphabet := by
    intro byte member
    unfold characterPrefix at member
    have kept := List.mem_takeWhile_imp member
    exact of_decide_eq_true kept
  have stops : Stops (encoded.dropWhile fun byte => decide (byte ∈ alphabet)) := by
    intro byte head
    rw [character_iff]
    have first := List.head?_dropWhile_not (fun byte => decide (byte ∈ alphabet)) encoded
    rw [Option.mem_def.mp head] at first
    simpa using first
  have decoded := decode_loop (characterPrefix encoded) stops inside []
  unfold characterPrefix at decoded
  rw [List.takeWhile_append_dropWhile, List.nil_append] at decoded
  unfold base64Decode characterPrefix
  cases looped : decodeLoop [] [] encoded with
  | none =>
      rw [looped] at decoded
      cases decoded
  | some found =>
      rw [looped] at decoded
      exact Option.some.inj decoded

/-- The encoder gives the standard encoding, which the decoder takes back; of any text the
decoder takes the whole bytes that the longest front of characters denotes. -/
theorem base64_codec :
    (∀ data, base64Encode data = Base64.encode data ∧
      (base64Encode data).length = 4 * ((data.length + 2) / 3) ∧
      base64Decode (base64Encode data) = data) ∧
    ∀ encoded,
      (base64Decode encoded).length = 6 * (characterPrefix encoded).length / 8 ∧
      base64Decode encoded = octets ((characterPrefix encoded).map index) ∧
      ∀ other, characterPrefix other = characterPrefix encoded →
        base64Decode other = base64Decode encoded := by
  constructor
  · intro data
    rw [base64_encode_eq, base64_decode_eq]
    exact ⟨rfl, Base64.encode_length data, Base64.decode_encode data⟩
  · intro encoded
    constructor
    · rw [base64_decode_eq, Base64.octets_length, List.length_map]
    constructor
    · exact base64_decode_eq encoded
    · intro other same
      rw [base64_decode_eq, base64_decode_eq, same]

end TboxFramework.Ipc.Protocol

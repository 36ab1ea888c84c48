import TboxFramework.Library.BitString
import Mathlib.Data.List.GetD
import Mathlib.Data.Nat.Find
import Mathlib.Data.Nat.Prime.Basic

/-!
# SHA-256

FIPS 180-4 over bit strings: the message is padded as a whole, cut into blocks of 512
bits, and the compression function is folded over them. The constants are the fractions
of the roots of the first prime numbers. For a message of bytes, the padded message and
its blocks are given in bytes as well.
-/

namespace SecureHash

open BitString

set_option autoImplicit false

/-! ## Functions and constants -/

/-- Eight words: the hash value, and the working variables a to h. -/
structure Words where
  a : UInt32
  b : UInt32
  c : UInt32
  d : UInt32
  e : UInt32
  f : UInt32
  g : UInt32
  h : UInt32
  deriving DecidableEq

def Words.list (words : Words) : List UInt32 :=
  [words.a, words.b, words.c, words.d, words.e, words.f, words.g, words.h]

def Words.add (left right : Words) : Words :=
  { a := left.a + right.a, b := left.b + right.b, c := left.c + right.c, d := left.d + right.d,
    e := left.e + right.e, f := left.f + right.f, g := left.g + right.g, h := left.h + right.h }

def rotateRight (word : UInt32) (count : Nat) : UInt32 :=
  UInt32.ofBitVec (word.toBitVec.rotateRight count)

def choose (x y z : UInt32) : UInt32 := (x &&& y) ^^^ (~~~x &&& z)

def majority (x y z : UInt32) : UInt32 := (x &&& y) ^^^ (x &&& z) ^^^ (y &&& z)

def upperSigma0 (word : UInt32) : UInt32 :=
  rotateRight word 2 ^^^ rotateRight word 13 ^^^ rotateRight word 22

def upperSigma1 (word : UInt32) : UInt32 :=
  rotateRight word 6 ^^^ rotateRight word 11 ^^^ rotateRight word 25

def lowerSigma0 (word : UInt32) : UInt32 :=
  rotateRight word 7 ^^^ rotateRight word 18 ^^^ (word >>> 3)

def lowerSigma1 (word : UInt32) : UInt32 :=
  rotateRight word 17 ^^^ rotateRight word 19 ^^^ (word >>> 10)

/-- The first 64 prime numbers. -/
def primes : List Nat := (List.range 312).filter fun number => Nat.Prime number

/-- The greatest number whose power is not above a value. -/
def root (degree value : Nat) : Nat :=
  Nat.findGreatest (fun number => number ^ degree ≤ value) value

/-- The first 32 bits of the fraction of a root. -/
def fraction (degree prime : Nat) : UInt32 :=
  UInt32.ofNat (root degree (prime * 2 ^ (32 * degree)))

def constant (round : Nat) : UInt32 := (primes.map (fraction 3)).getD round 0

def initial : Words :=
  let words := (primes.take 8).map (fraction 2)
  { a := words.getD 0 0, b := words.getD 1 0, c := words.getD 2 0, d := words.getD 3 0,
    e := words.getD 4 0, f := words.getD 5 0, g := words.getD 6 0, h := words.getD 7 0 }

/-! ## Compression -/

/-- The message schedule of a block of sixteen words. -/
def schedule (block : List UInt32) (round : Nat) : UInt32 :=
  if round < 16 then block.getD round 0
  else lowerSigma1 (schedule block (round - 2)) + schedule block (round - 7) +
    lowerSigma0 (schedule block (round - 15)) + schedule block (round - 16)
termination_by round
decreasing_by all_goals omega

theorem schedule_first (block : List UInt32) {round : Nat} (first : round < 16) :
    schedule block round = block.getD round 0 := by
  rw [schedule, if_pos first]

theorem schedule_later (block : List UInt32) {round : Nat} (later : 16 ≤ round) :
    schedule block round = lowerSigma1 (schedule block (round - 2)) + schedule block (round - 7) +
      lowerSigma0 (schedule block (round - 15)) + schedule block (round - 16) := by
  rw [schedule, if_neg (Nat.not_lt.mpr later)]

def step (words : Words) (constant word : UInt32) : Words :=
  let first := words.h + upperSigma1 words.e + choose words.e words.f words.g + constant + word
  let second := upperSigma0 words.a + majority words.a words.b words.c
  { a := first + second, b := words.a, c := words.b, d := words.c,
    e := words.d + first, f := words.e, g := words.f, h := words.g }

def compress (value : Words) (block : List UInt32) : Words :=
  value.add ((List.range 64).foldl
    (fun words round => step words (constant round) (schedule block round)) value)

/-! ## Padding -/

/-- One bit, zeros up to 448 modulo 512, and the length in 64 bits. -/
def padded (message : List Bool) : List Bool :=
  message ++ [true] ++ List.replicate ((448 + 512 - (message.length + 1) % 512) % 512) false ++
    bits 64 message.length

/-- The words of a string of bits. -/
def wordsOf (string : List Bool) : List UInt32 :=
  (groups 32 string).map fun word => UInt32.ofNat (number word)

def hash (message : List Bool) : Words :=
  ((groups 512 (padded message)).map wordsOf).foldl compress initial

/-- The bytes of a string of bits. -/
def octets (string : List Bool) : List UInt8 :=
  (groups 8 string).map fun byte => UInt8.ofNat (number byte)

def digest (message : List Bool) : List UInt8 :=
  octets (join 32 ((hash message).list.map UInt32.toNat))

/-! ## Messages of bytes -/

/-- The bits of bytes. -/
def bitsOf (data : List UInt8) : List Bool := join 8 (data.map UInt8.toNat)

@[simp] theorem bits_of_length (data : List UInt8) : (bitsOf data).length = 8 * data.length := by
  unfold bitsOf
  rw [join_length, List.length_map]

theorem bits_of_append (front back : List UInt8) :
    bitsOf (front ++ back) = bitsOf front ++ bitsOf back := by
  unfold bitsOf
  rw [List.map_append, join_append]

/-- The low bytes of a number, the most significant first. -/
def bigEndian : Nat → Nat → List UInt8
  | 0, _ => []
  | count + 1, value => UInt8.ofNat (value / 2 ^ (8 * count)) :: bigEndian count value

/-- The bytes behind a message of `length` bytes: the bit with seven zeros, zero bytes and
the length. -/
def padding (length : Nat) : List UInt8 :=
  0x80 :: List.replicate ((119 - length % 64) % 64) 0 ++ bigEndian 8 (8 * length)

theorem octets_bits_of (data : List UInt8) : octets (bitsOf data) = data := by
  have small : ∀ value ∈ data.map UInt8.toNat, value < 2 ^ 8 := by
    intro value member
    obtain ⟨byte, _, rfl⟩ := List.mem_map.mp member
    exact byte.toNat_lt
  have cut := numbers_of_join (Nat.succ_pos 7) small
  unfold octets bitsOf
  change (groups 8 _).map (UInt8.ofNat ∘ number) = data
  rw [← List.map_map, cut, List.map_map]
  exact List.map_id'' (fun _ => UInt8.ofNat_toNat) data

@[simp] theorem big_endian_length (count value : Nat) :
    (bigEndian count value).length = count := by
  induction count with
  | zero => rfl
  | succ count induction => rw [bigEndian, List.length_cons, induction]

theorem bits_of_big_endian (count value : Nat) :
    bitsOf (bigEndian count value) = bits (8 * count) value := by
  induction count with
  | zero => rfl
  | succ count induction =>
      have first : bits 8 (UInt8.ofNat (value / 2 ^ (8 * count))).toNat =
          bits 8 (value / 2 ^ (8 * count)) := by
        rw [UInt8.toNat_ofNat']
        exact bits_mod 8 _
      have cons : bitsOf (bigEndian (count + 1) value) =
          bits 8 (UInt8.ofNat (value / 2 ^ (8 * count))).toNat ++ bitsOf (bigEndian count value) :=
        rfl
      rw [cons, first, induction, ← bits_split, Nat.mul_succ, Nat.add_comm]

/-- The padding of bytes is that of their bits. -/
theorem padded_bits_of (data : List UInt8) :
    padded (bitsOf data) = bitsOf (data ++ padding data.length) := by
  have mark : bits 8 (0x80 : UInt8).toNat = [true] ++ List.replicate 7 false := by decide
  have zeros : ∀ count, bitsOf (List.replicate count 0) = List.replicate (8 * count) false := by
    intro count
    unfold bitsOf
    rw [List.map_replicate]
    exact join_zeros 8 count
  have count : (448 + 512 - (8 * data.length + 1) % 512) % 512 =
      7 + 8 * ((119 - data.length % 64) % 64) := by omega
  have cons : ∀ rest, bitsOf (0x80 :: rest) = bits 8 (0x80 : UInt8).toNat ++ bitsOf rest :=
    fun _ => rfl
  unfold padded padding
  rw [bits_of_length, bits_of_append, List.cons_append, cons, bits_of_append, zeros,
    bits_of_big_endian, mark, count, ← List.replicate_append_replicate]
  simp only [List.append_assoc]

/-- The words of a block of bytes. -/
def blockWords (block : List UInt8) : List UInt32 := wordsOf (bitsOf block)

theorem block_words_eq {block : List UInt8} (sized : block.length = 64) :
    blockWords block = (List.range 16).map fun index =>
      UInt32.ofNat (number (bitsOf ((block.drop (4 * index)).take 4))) := by
  have cut := @groups_of_join 8 4 (block.map UInt8.toNat) (Nat.succ_pos 7) (Nat.succ_pos 3)
  rw [groups_map, List.map_map, groups_eq_range _ (Nat.succ_pos 3), sized, List.map_map] at cut
  unfold blockWords wordsOf
  change groups 32 (bitsOf block) = _ at cut
  rw [cut, List.map_map]
  rfl

def compressBytes (value : Words) (block : List UInt8) : Words := compress value (blockWords block)

/-- The hash value in terms of bytes. -/
theorem hash_bits_of (data : List UInt8) :
    hash (bitsOf data) =
      (groups 64 (data ++ padding data.length)).foldl compressBytes initial := by
  have cut := @groups_of_join 8 64 ((data ++ padding data.length).map UInt8.toNat)
    (Nat.succ_pos 7) (Nat.succ_pos 63)
  rw [groups_map, List.map_map] at cut
  change groups 512 (bitsOf (data ++ padding data.length)) = _ at cut
  unfold hash
  rw [padded_bits_of, cut, List.map_map, List.foldl_map]
  rfl

theorem join_words (words : List UInt32) :
    join 32 (words.map UInt32.toNat) =
      bitsOf (words.flatMap fun word => bigEndian 4 word.toNat) := by
  induction words with
  | nil => simp only [List.map_nil, List.flatMap_nil, join, bitsOf]
  | cons word rest induction =>
      have four : bits 32 word.toNat = bitsOf (bigEndian 4 word.toNat) :=
        (bits_of_big_endian 4 word.toNat).symm
      rw [List.map_cons, join_cons, induction, four, List.flatMap_cons, bits_of_append]

theorem digest_eq (message : List Bool) :
    digest message = (hash message).list.flatMap fun word => bigEndian 4 word.toNat := by
  unfold digest
  rw [join_words, octets_bits_of]

theorem digest_length (message : List Bool) : (digest message).length = 32 := by
  rw [digest_eq, List.length_flatMap]
  simp only [big_endian_length, Words.list]
  rfl

/-! ## Primes and roots -/

/-- Trial division: 18 times 18 is above the last of the primes. -/
theorem primes_by_division :
    primes = (List.range 312).filter fun number =>
      decide (2 ≤ number ∧ ∀ divisor < 18, 2 ≤ divisor → divisor * divisor ≤ number →
        number % divisor ≠ 0) := by
  apply List.filter_congr
  intro number below
  rw [List.mem_range] at below
  rw [decide_eq_decide, Nat.prime_def_le_sqrt]
  constructor
  · intro prime
    constructor
    · exact prime.1
    · intro divisor _ two square divides
      exact prime.2 divisor two (Nat.le_sqrt.mpr square) (Nat.dvd_of_mod_eq_zero divides)
  · intro tried
    constructor
    · exact tried.1
    · intro divisor two square divides
      have squared := Nat.le_sqrt.mp square
      have small : divisor < 18 := by
        by_contra large
        have square := Nat.mul_le_mul (Nat.le_of_not_lt large) (Nat.le_of_not_lt large)
        omega
      exact tried.2 divisor small two squared (Nat.mod_eq_zero_of_dvd divides)

theorem root_eq {degree value number : Nat} (positive : 0 < degree)
    (below : number ^ degree ≤ value) (above : value < (number + 1) ^ degree) :
    root degree value = number := by
  unfold root
  rw [Nat.findGreatest_eq_iff]
  constructor
  · exact le_trans (Nat.le_self_pow (Nat.ne_of_gt positive) number) below
  constructor
  · intro _
    exact below
  · intro larger greater _ within
    have power := Nat.pow_le_pow_left (Nat.succ_le_of_lt greater) degree
    exact absurd (lt_of_lt_of_le above power) (Nat.not_lt.mpr within)

/-- A word is the fraction of the root that it falls short of by less than its last bit. -/
theorem fraction_eq {degree prime whole : Nat} {word : UInt32} (positive : 0 < degree)
    (below : (whole * 2 ^ 32 + word.toNat) ^ degree ≤ prime * 2 ^ (32 * degree))
    (above : prime * 2 ^ (32 * degree) < (whole * 2 ^ 32 + word.toNat + 1) ^ degree) :
    fraction degree prime = word := by
  have small := word.toNat_lt
  unfold fraction
  rw [root_eq positive below above, ← UInt32.toNat_inj, UInt32.toNat_ofNat',
    Nat.mul_add_mod_of_lt small]

end SecureHash

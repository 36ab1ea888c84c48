import TboxFramework.Hash.Sha256
import Mathlib.Data.List.Range

/-!
# One block of the hash

`processBlock` is the compression of the standard: its constants are the fractions of
the roots, the loop over `w` computes the message schedule, and the bytes are loaded and
stored with the most significant first.
-/

namespace TboxFramework.Hash

open BitString
open SecureHash (Words bitsOf bigEndian blockWords compressBytes constant fraction lowerSigma0
  lowerSigma1 primes rotateRight schedule upperSigma0 upperSigma1)

set_option autoImplicit false

/-! ## Functions of words -/

theorem rotr_eq (x : UInt32) {n : Nat} (positive : 0 < n) (small : n < 32) :
    rotr x (UInt32.ofNat n) = rotateRight x n := by
  have right : (UInt32.ofNat n).toNat % 32 = n := by
    rw [UInt32.toNat_ofNat', Nat.mod_eq_of_lt (a := n) (by omega), Nat.mod_eq_of_lt small]
  have left : (32 - UInt32.ofNat n).toNat % 32 = 32 - n := by
    rw [UInt32.toNat_sub, UInt32.toNat_ofNat']
    change (2 ^ 32 - n % 2 ^ 32 + 32) % 2 ^ 32 % 32 = 32 - n
    omega
  have rotated := @BitVec.toNat_rotateRight 32 x.toBitVec n
  rw [Nat.mod_eq_of_lt small] at rotated
  rw [← UInt32.toNat_inj]
  unfold rotr rotateRight
  rw [UInt32.toNat_or, UInt32.toNat_shiftRight, UInt32.toNat_shiftLeft, right, left]
  exact rotated.symm

theorem big_sigma0_eq (x : UInt32) : bigSigma0 x = upperSigma0 x := by
  have two : rotr x 2 = rotateRight x 2 := rotr_eq x (by decide) (by decide)
  have thirteen : rotr x 13 = rotateRight x 13 := rotr_eq x (by decide) (by decide)
  have last : rotr x 22 = rotateRight x 22 := rotr_eq x (by decide) (by decide)
  unfold bigSigma0 upperSigma0
  rw [two, thirteen, last]

theorem big_sigma1_eq (x : UInt32) : bigSigma1 x = upperSigma1 x := by
  have six : rotr x 6 = rotateRight x 6 := rotr_eq x (by decide) (by decide)
  have eleven : rotr x 11 = rotateRight x 11 := rotr_eq x (by decide) (by decide)
  have last : rotr x 25 = rotateRight x 25 := rotr_eq x (by decide) (by decide)
  unfold bigSigma1 upperSigma1
  rw [six, eleven, last]

theorem small_sigma0_eq (x : UInt32) : smallSigma0 x = lowerSigma0 x := by
  have seven : rotr x 7 = rotateRight x 7 := rotr_eq x (by decide) (by decide)
  have last : rotr x 18 = rotateRight x 18 := rotr_eq x (by decide) (by decide)
  unfold smallSigma0 lowerSigma0
  rw [seven, last]

theorem small_sigma1_eq (x : UInt32) : smallSigma1 x = lowerSigma1 x := by
  have seventeen : rotr x 17 = rotateRight x 17 := rotr_eq x (by decide) (by decide)
  have last : rotr x 19 = rotateRight x 19 := rotr_eq x (by decide) (by decide)
  unfold smallSigma1 lowerSigma1
  rw [seventeen, last]

/-! ## Constants -/

/-- The table of a function is known from its pairs. -/
theorem map_eq_of_pairs {α β : Type} {function : α → β} {keys : List α} {values : List β}
    (lengths : keys.length = values.length)
    (pairs : ∀ pair ∈ keys.zip values, function pair.1 = pair.2) :
    keys.map function = values := by
  induction keys generalizing values with
  | nil => exact (List.length_eq_zero_iff.mp lengths.symm).symm
  | cons key keys induction =>
      cases values with
      | nil => cases lengths
      | cons value values =>
          have first := pairs (key, value) List.mem_cons_self
          have later := induction (Nat.succ.inj lengths) fun pair member =>
            pairs pair (List.mem_cons_of_mem _ member)
          rw [List.map_cons, first, later]

/-- The words are those that the bits of the roots begin with. -/
theorem fractions_of_bounds {degree : Nat} {keys : List Nat} {words : List UInt32}
    (positive : 0 < degree) (lengths : keys.length = words.length)
    (bounds : ∀ pair ∈ keys.zip words, ∃ whole < 7,
      (whole * 2 ^ 32 + pair.2.toNat) ^ degree ≤ pair.1 * 2 ^ (32 * degree) ∧
        pair.1 * 2 ^ (32 * degree) < (whole * 2 ^ 32 + pair.2.toNat + 1) ^ degree) :
    keys.map (fraction degree) = words := by
  apply map_eq_of_pairs lengths
  intro pair member
  obtain ⟨whole, _, below, above⟩ := bounds pair member
  exact SecureHash.fraction_eq positive below above

theorem sha256_k_eq : primes.map (fraction 3) = sha256K := by
  rw [SecureHash.primes_by_division]
  exact fractions_of_bounds (by decide) (by decide +kernel) (by decide +kernel)

theorem constant_eq (t : Nat) : constant t = sha256K.getD t 0 := by
  unfold constant
  rw [sha256_k_eq]

theorem initial_eq (buffer : Buffer) : (Sha256Context.new buffer).state = SecureHash.initial := by
  have words : (primes.take 8).map (fraction 2) =
      [0x6a09e667, 0xbb67ae85, 0x3c6ef372, 0xa54ff53a, 0x510e527f, 0x9b05688c, 0x1f83d9ab,
        0x5be0cd19] := by
    rw [SecureHash.primes_by_division]
    exact fractions_of_bounds (by decide) (by decide +kernel) (by decide +kernel)
  unfold SecureHash.initial
  rw [words]
  rfl

/-! ## Byte order -/

theorem load_be32_eq (first second third fourth : UInt8) (rest : Bytes) :
    loadBe32 (first :: second :: third :: fourth :: rest) =
      some (UInt32.ofNat (number (bitsOf [first, second, third, fourth]))) := by
  have firstSmall := first.toNat_lt
  have secondSmall := second.toNat_lt
  have thirdSmall := third.toNat_lt
  have fourthSmall := fourth.toNat_lt
  have value : number (bitsOf [first, second, third, fourth]) =
      2 ^ 24 * first.toNat + (2 ^ 16 * second.toNat + (2 ^ 8 * third.toNat + fourth.toNat)) := by
    unfold bitsOf
    simp only [List.map_cons, List.map_nil]
    rw [number_join_cons firstSmall, number_join_cons secondSmall, number_join_cons thirdSmall,
      number_join_cons fourthSmall]
    change first.toNat * 2 ^ 24 + (second.toNat * 2 ^ 16 + (third.toNat * 2 ^ 8 +
      (fourth.toNat * 1 + 0))) = _
    omega
  unfold loadBe32
  rw [value, Option.some_inj, ← UInt32.toNat_inj, UInt32.toNat_ofNat',
    Nat.mod_eq_of_lt (by omega), Nat.two_pow_add_eq_or_of_lt (by omega),
    Nat.two_pow_add_eq_or_of_lt (by omega), Nat.two_pow_add_eq_or_of_lt fourthSmall]
  simp only [UInt32.toNat_or, UInt32.toNat_shiftLeft, UInt8.toNat_toUInt32, Nat.shiftLeft_eq,
    UInt32.reduceToNat, Nat.reduceMod, Nat.or_assoc]
  rw [Nat.mod_eq_of_lt (a := first.toNat * 2 ^ 24) (by omega),
    Nat.mod_eq_of_lt (a := second.toNat * 2 ^ 16) (by omega),
    Nat.mod_eq_of_lt (a := third.toNat * 2 ^ 8) (by omega), Nat.mul_comm first.toNat,
    Nat.mul_comm second.toNat, Nat.mul_comm third.toNat]

/-- A shift and the cut to a byte: the count is one of the shifts of a store. -/
theorem shifted32 (v : UInt32) {n : Nat} (small : n < 32) :
    (v >>> UInt32.ofNat n).toUInt8 = UInt8.ofNat (v.toNat / 2 ^ n) := by
  rw [← UInt8.toNat_inj, UInt32.toNat_toUInt8, UInt32.toNat_shiftRight, UInt32.toNat_ofNat',
    Nat.mod_eq_of_lt (a := n) (by omega), Nat.mod_eq_of_lt small, Nat.shiftRight_eq_div_pow,
    UInt8.toNat_ofNat']

theorem shifted64 (v : UInt64) {n : Nat} (small : n < 64) :
    (v >>> UInt64.ofNat n).toUInt8 = UInt8.ofNat (v.toNat / 2 ^ n) := by
  rw [← UInt8.toNat_inj, UInt64.toNat_toUInt8, UInt64.toNat_shiftRight, UInt64.toNat_ofNat',
    Nat.mod_eq_of_lt (a := n) (by omega), Nat.mod_eq_of_lt small, Nat.shiftRight_eq_div_pow,
    UInt8.toNat_ofNat']

theorem store_be32_eq (v : UInt32) : storeBe32 v = bigEndian 4 v.toNat := by
  have first : (v >>> 24).toUInt8 = _ := shifted32 v (n := 24) (by decide)
  have second : (v >>> 16).toUInt8 = _ := shifted32 v (n := 16) (by decide)
  have third : (v >>> 8).toUInt8 = _ := shifted32 v (n := 8) (by decide)
  have fourth : v.toUInt8 = UInt8.ofNat (v.toNat / 2 ^ 0) := by
    rw [Nat.pow_zero, Nat.div_one]
    rfl
  unfold storeBe32
  rw [first, second, third, fourth]
  rfl

theorem store_be64_eq (v : UInt64) : storeBe64 v = bigEndian 8 v.toNat := by
  have byte : ∀ n < 64, (v >>> UInt64.ofNat n).toUInt8 = UInt8.ofNat (v.toNat / 2 ^ n) :=
    fun n small => shifted64 v small
  have last : v.toUInt8 = UInt8.ofNat (v.toNat / 2 ^ 0) := by
    rw [Nat.pow_zero, Nat.div_one]
    rfl
  change [(v >>> UInt64.ofNat 56).toUInt8, (v >>> UInt64.ofNat 48).toUInt8,
    (v >>> UInt64.ofNat 40).toUInt8, (v >>> UInt64.ofNat 32).toUInt8,
    (v >>> UInt64.ofNat 24).toUInt8, (v >>> UInt64.ofNat 16).toUInt8,
    (v >>> UInt64.ofNat 8).toUInt8, v.toUInt8] = _
  rw [byte 56 (by decide), byte 48 (by decide), byte 40 (by decide), byte 32 (by decide),
    byte 24 (by decide), byte 16 (by decide), byte 8 (by decide), last]
  rfl

/-! ## Compression -/

theorem mapM_some {α β : Type} {function : α → Option β} {value : α → β} {list : List α}
    (all : ∀ element ∈ list, function element = some (value element)) :
    list.mapM function = some (list.map value) := by
  induction list with
  | nil => rfl
  | cons element rest induction =>
      rw [List.forall_mem_cons] at all
      rw [List.mapM_cons, all.1, induction all.2]
      rfl

theorem getD_range {α : Type} (function : Nat → α) (default : α) {count index : Nat}
    (inside : index < count) : ((List.range count).map function).getD index default =
      function index := by
  have bound : index < ((List.range count).map function).length := by
    rw [List.length_map, List.length_range]
    exact inside
  rw [List.getD_eq_getElem _ _ bound, List.getElem_map, List.getElem_range]

/-- The loop over `w` computes one more word of the schedule in each pass. -/
theorem extend_schedule {words : List UInt32} (sixteen : words.length = 16) (count : Nat) :
    (List.range' 16 count).foldl extend words =
      (List.range (16 + count)).map (schedule words) := by
  induction count with
  | zero =>
      apply List.ext_getElem
      · rw [List.length_map, List.length_range]
        exact sixteen
      · intro index inside within
        have first : index < 16 := by
          change index < words.length at inside
          omega
        have defined := List.getD_eq_getElem words 0 inside
        rw [List.getElem_map, List.getElem_range, SecureHash.schedule_first words first]
        exact defined.symm
  | succ count induction =>
      have next := SecureHash.schedule_later words (Nat.le_add_right 16 count)
      rw [List.range'_concat, List.foldl_append, induction, Nat.one_mul]
      change extend _ (16 + count) = _
      unfold extend
      rw [getD_range _ _ (by omega), getD_range _ _ (by omega), getD_range _ _ (by omega),
        getD_range _ _ (by omega), small_sigma0_eq, small_sigma1_eq, ← next, ← Nat.add_assoc,
        List.range_succ, List.map_append]
      rfl

/-- A pass of the loop is a step of the standard. -/
theorem compression_eq (words : List UInt32) (state : Words) {t : Nat} (inside : t < 64) :
    compression ((List.range 64).map (schedule words)) state t =
      SecureHash.step state (constant t) (schedule words t) := by
  unfold compression
  rw [getD_range _ _ inside, big_sigma0_eq, big_sigma1_eq, ← constant_eq]
  rfl

theorem four_bytes {bytes : Bytes} (enough : 4 ≤ bytes.length) :
    loadBe32 bytes = some (UInt32.ofNat (number (bitsOf (bytes.take 4)))) := by
  match bytes, enough with
  | first :: second :: third :: fourth :: rest, _ =>
      exact load_be32_eq first second third fourth rest

theorem process_block_eq (state : Words) {block : Bytes} (enough : 64 ≤ block.length) :
    processBlock state block = some (compressBytes state (block.take 64)) := by
  have sized : (block.take 64).length = 64 := List.length_take_of_le enough
  have loaded : (List.range 16).mapM (fun t => loadBe32 (block.drop (t * 4))) =
      some (blockWords (block.take 64)) := by
    rw [SecureHash.block_words_eq sized]
    apply mapM_some
    intro t inside
    rw [List.mem_range] at inside
    have four : 4 ≤ (block.drop (t * 4)).length := by
      rw [List.length_drop]
      omega
    rw [four_bytes four, List.drop_take, List.take_take, Nat.min_eq_left (by omega),
      Nat.mul_comm t]
  have sixteen : (blockWords (block.take 64)).length = 16 := by
    rw [SecureHash.block_words_eq sized, List.length_map, List.length_range]
  have rounds : (List.range 64).foldl
        (compression ((List.range 64).map (schedule (blockWords (block.take 64))))) state =
      (List.range 64).foldl (fun words round => SecureHash.step words (constant round)
        (schedule (blockWords (block.take 64)) round)) state := by
    apply List.foldl_ext
    intro words t inside
    exact compression_eq _ words (List.mem_range.mp inside)
  unfold processBlock
  rw [loaded]
  simp only [Option.bind_eq_bind, Option.bind_some]
  rw [extend_schedule sixteen 48, rounds]
  rfl

end TboxFramework.Hash

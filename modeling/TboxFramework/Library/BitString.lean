import Mathlib.Data.List.Basic
import Mathlib.Data.List.Induction
import Mathlib.Data.List.TakeDrop
import Mathlib.Algebra.Order.Ring.Nat
import Mathlib.Tactic.Ring

/-!
# Bit strings

Numbers as bits of a fixed width, the most significant first, lists of numbers joined
to one string, and a string cut into groups of one width.
-/

namespace BitString

set_option autoImplicit false

/-- The low bits of a number, the most significant first. -/
def bits : Nat → Nat → List Bool
  | 0, _ => []
  | width + 1, value => bits width (value / 2) ++ [decide (value % 2 = 1)]

/-- The number that bits denote. -/
def number (string : List Bool) : Nat :=
  string.foldl (fun number bit => 2 * number + bit.toNat) 0

/-- The bits of several numbers one behind the other. -/
def join (width : Nat) (values : List Nat) : List Bool := values.flatMap (bits width)

/-- The whole groups of a list; what is left over is dropped. -/
def groups {α : Type} (width : Nat) (list : List α) : List (List α) :=
  if 0 < width ∧ width ≤ list.length then list.take width :: groups width (list.drop width)
  else []
termination_by list.length
decreasing_by
  rw [List.length_drop]
  omega

@[simp] theorem bits_length (width value : Nat) : (bits width value).length = width := by
  induction width generalizing value with
  | zero => rfl
  | succ width induction => rw [bits, List.length_append, induction, List.length_singleton]

theorem number_append_bit (front : List Bool) (bit : Bool) :
    number (front ++ [bit]) = 2 * number front + bit.toNat := by
  unfold number
  rw [List.foldl_append, List.foldl_cons, List.foldl_nil]

theorem number_bits {width value : Nat} (small : value < 2 ^ width) :
    number (bits width value) = value := by
  induction width generalizing value with
  | zero =>
      rw [Nat.pow_zero] at small
      rw [Nat.lt_one_iff.mp small]
      rfl
  | succ width induction =>
      have half : value / 2 < 2 ^ width := by
        rw [Nat.pow_succ] at small
        omega
      have last : (decide (value % 2 = 1)).toNat = value % 2 := by
        cases Nat.mod_two_eq_zero_or_one value with
        | inl even => rw [even]; rfl
        | inr odd => rw [odd]; rfl
      rw [bits, number_append_bit, induction half, last]
      omega

theorem number_lt (string : List Bool) : number string < 2 ^ string.length := by
  induction string using List.reverseRecOn with
  | nil => exact Nat.zero_lt_one
  | append_singleton front bit induction =>
      rw [number_append_bit, List.length_append, List.length_singleton, Nat.pow_succ]
      have small := Bool.toNat_lt bit
      omega

/-- Two numbers side by side are one number of the joint width. -/
theorem bits_append {front back high low : Nat} (small : low < 2 ^ back) :
    bits front high ++ bits back low = bits (front + back) (high * 2 ^ back + low) := by
  induction back generalizing low with
  | zero =>
      rw [Nat.pow_zero] at small
      rw [Nat.lt_one_iff.mp small, Nat.pow_zero, Nat.mul_one]
      exact List.append_nil _
  | succ back induction =>
      have power : high * 2 ^ (back + 1) = 2 * (high * 2 ^ back) := by
        rw [Nat.pow_succ]
        ring
      have half : low / 2 < 2 ^ back := by
        rw [Nat.pow_succ] at small
        omega
      have front_half : (high * 2 ^ (back + 1) + low) / 2 = high * 2 ^ back + low / 2 := by omega
      have parity : (high * 2 ^ (back + 1) + low) % 2 = low % 2 := by omega
      rw [bits, ← List.append_assoc, induction half, ← Nat.add_assoc, bits, front_half, parity]

/-- The high bits of a number and its low bits. -/
theorem bits_split (front back value : Nat) :
    bits (front + back) value = bits front (value / 2 ^ back) ++ bits back value := by
  induction back generalizing value with
  | zero =>
      rw [Nat.pow_zero, Nat.div_one]
      exact (List.append_nil _).symm
  | succ back induction =>
      rw [← Nat.add_assoc, bits, induction, List.append_assoc, Nat.div_div_eq_div_mul, bits,
        Nat.mul_comm 2, ← Nat.pow_succ]

theorem bits_mod (width value : Nat) : bits width (value % 2 ^ width) = bits width value := by
  induction width generalizing value with
  | zero => rfl
  | succ width induction =>
      have half : value % 2 ^ (width + 1) / 2 = value / 2 % 2 ^ width := by
        rw [Nat.pow_succ, Nat.mul_comm, Nat.mod_mul_right_div_self]
      have parity : value % 2 ^ (width + 1) % 2 = value % 2 :=
        Nat.mod_mod_of_dvd _ (dvd_pow_self 2 (Nat.succ_ne_zero width))
      rw [bits, half, parity, induction, bits]

theorem number_append (front back : List Bool) :
    number (front ++ back) = number front * 2 ^ back.length + number back := by
  induction back using List.reverseRecOn with
  | nil => rw [List.append_nil, List.length_nil, Nat.pow_zero, Nat.mul_one]; rfl
  | append_singleton back bit induction =>
      rw [← List.append_assoc, number_append_bit, induction, number_append_bit,
        List.length_append, List.length_singleton, Nat.pow_succ]
      ring

theorem bits_zero (width : Nat) : bits width 0 = List.replicate width false := by
  induction width with
  | zero => rfl
  | succ width induction =>
      rw [bits, Nat.zero_div, induction, List.replicate_succ']
      rfl

/-! ## Joined numbers -/

@[simp] theorem join_cons (width value : Nat) (rest : List Nat) :
    join width (value :: rest) = bits width value ++ join width rest := rfl

theorem join_append (width : Nat) (front back : List Nat) :
    join width (front ++ back) = join width front ++ join width back := List.flatMap_append

theorem join_length (width : Nat) (values : List Nat) :
    (join width values).length = width * values.length := by
  induction values with
  | nil => rfl
  | cons value rest induction =>
      rw [join_cons, List.length_append, bits_length, induction, List.length_cons]
      ring

theorem number_join_cons {width value : Nat} (small : value < 2 ^ width) (rest : List Nat) :
    number (join width (value :: rest)) =
      value * 2 ^ (width * rest.length) + number (join width rest) := by
  rw [join_cons, number_append, number_bits small, join_length]

theorem join_zeros (width count : Nat) :
    join width (List.replicate count 0) = List.replicate (width * count) false := by
  induction count with
  | zero => rfl
  | succ count induction =>
      rw [List.replicate_succ, join_cons, induction, bits_zero, List.replicate_append_replicate,
        Nat.mul_succ, Nat.add_comm]

/-! ## Groups -/

section Groups

variable {α : Type} {width : Nat}

theorem groups_short {list : List α} (short : list.length < width) : groups width list = [] := by
  rw [groups, if_neg (by omega)]

theorem groups_append {front : List α} (rest : List α) (positive : 0 < width)
    (whole : front.length = width) : groups width (front ++ rest) = front :: groups width rest := by
  rw [groups, if_pos]
  · rw [← whole, List.take_left, List.drop_left]
  · rw [List.length_append]
    omega

theorem groups_single {list : List α} (positive : 0 < width) (whole : list.length = width) :
    groups width list = [list] := by
  have cut := groups_append [] positive whole
  have nothing : groups width ([] : List α) = [] := groups_short positive
  rw [List.append_nil, nothing] at cut
  exact cut

theorem groups_length (list : List α) (positive : 0 < width) :
    (groups width list).length = list.length / width := by
  induction list using groups.induct width with
  | case1 list enough induction =>
      have fewer : list.length - width + width = list.length := Nat.sub_add_cancel enough.2
      rw [groups, if_pos enough, List.length_cons, induction, List.length_drop, ← fewer,
        Nat.add_sub_cancel, Nat.add_div_right _ positive]
  | case2 list few =>
      have short : list.length < width := by omega
      rw [groups_short short, Nat.div_eq_of_lt short]
      rfl

/-- Every group has the width. -/
theorem length_of_group {list group : List α} (member : group ∈ groups width list) :
    group.length = width := by
  induction list using groups.induct width with
  | case1 list enough induction =>
      rw [groups, if_pos enough, List.mem_cons] at member
      cases member with
      | inl first => rw [first, List.length_take, Nat.min_eq_left enough.2]
      | inr later => exact induction later
  | case2 list few =>
      rw [groups, if_neg few] at member
      cases member

theorem groups_join (values : List Nat) (rest : List Bool) (positive : 0 < width) :
    groups width (join width values ++ rest) = values.map (bits width) ++ groups width rest := by
  induction values with
  | nil => rfl
  | cons value values induction =>
      rw [join_cons, List.append_assoc, groups_append _ positive (bits_length width value),
        induction]
      rfl

/-- Joined numbers are read back from their groups. -/
theorem numbers_of_join {values : List Nat} (positive : 0 < width)
    (small : ∀ value ∈ values, value < 2 ^ width) :
    (groups width (join width values)).map number = values := by
  have cut := groups_join values [] positive
  have nothing : groups width ([] : List Bool) = [] := groups_short positive
  rw [List.append_nil, nothing, List.append_nil] at cut
  rw [cut, List.map_map]
  have same : ∀ value ∈ values, (number ∘ bits width) value = value :=
    fun value member => number_bits (small value member)
  rw [List.map_congr_left same, List.map_id']

theorem groups_map {β : Type} (function : α → β) (list : List α) :
    groups width (list.map function) = (groups width list).map (List.map function) := by
  induction list using groups.induct width with
  | case1 list enough induction =>
      have long : 0 < width ∧ width ≤ (list.map function).length := by
        rw [List.length_map]
        exact enough
      rw [groups, if_pos long, groups.eq_def width list, if_pos enough, ← List.map_drop, induction,
        List.map_cons, List.map_take]
  | case2 list few =>
      have short : ¬(0 < width ∧ width ≤ (list.map function).length) := by
        rw [List.length_map]
        exact few
      rw [groups, if_neg short, groups, if_neg few]
      rfl

/-- Cutting the bits of numbers is cutting the list of the numbers. -/
theorem groups_of_join {count : Nat} (values : List Nat) (width_positive : 0 < width)
    (positive : 0 < count) :
    groups (width * count) (join width values) = (groups count values).map (join width) := by
  induction values using groups.induct count with
  | case1 values enough induction =>
      have split := List.take_append_drop count values
      have front_length : (join width (values.take count)).length = width * count := by
        rw [join_length, List.length_take, Nat.min_eq_left enough.2]
      rw [← split, join_append, groups_append _ (Nat.mul_pos width_positive positive) front_length,
        groups_append _ positive (List.length_take_of_le enough.2), induction]
      rfl
  | case2 values few =>
      have short : values.length < count := by omega
      rw [groups_short short, groups_short]
      · rfl
      · rw [join_length]
        exact Nat.mul_lt_mul_of_pos_left short width_positive

theorem groups_eq_range (list : List α) (positive : 0 < width) :
    groups width list =
      (List.range (list.length / width)).map fun index =>
        (list.drop (width * index)).take width := by
  induction list using groups.induct width with
  | case1 list enough induction =>
      have count : list.length / width = (list.length - width) / width + 1 := by
        rw [← Nat.add_div_right _ positive, Nat.sub_add_cancel enough.2]
      rw [groups, if_pos enough, induction, List.length_drop, count, List.range_succ_eq_map,
        List.map_cons, Nat.mul_zero, List.drop_zero, List.map_map]
      congr 1
      apply List.map_congr_left
      intro index _
      rw [List.drop_drop, Function.comp_apply, Nat.mul_succ, Nat.add_comm]
  | case2 list few =>
      have short : list.length < width := by omega
      rw [groups_short short, Nat.div_eq_of_lt short]
      rfl

/-! ## What the groups leave over -/

/-- The end of a list that is short of a group. -/
def remainder (width : Nat) (list : List α) : List α :=
  list.drop (width * (list.length / width))

theorem remainder_length (list : List α) :
    (remainder width list).length = list.length % width := by
  unfold remainder
  rw [List.length_drop]
  have whole := Nat.div_add_mod list.length width
  omega

theorem remainder_short {list : List α} (short : list.length < width) :
    remainder width list = list := by
  unfold remainder
  rw [Nat.div_eq_of_lt short]
  rfl

theorem remainder_append_group {front : List α} (rest : List α) (positive : 0 < width)
    (whole : front.length = width) : remainder width (front ++ rest) = remainder width rest := by
  unfold remainder
  rw [List.length_append, whole, Nat.add_comm width, Nat.add_div_right _ positive, Nat.mul_succ,
    Nat.add_comm, ← List.drop_drop, ← whole, List.drop_left]

/-- A list is its groups and what they leave over, so that more can be cut later on. -/
theorem groups_continue (front back : List α) (positive : 0 < width) :
    groups width (front ++ back) =
      groups width front ++ groups width (remainder width front ++ back) ∧
    remainder width (front ++ back) = remainder width (remainder width front ++ back) := by
  induction front using groups.induct width with
  | case1 front enough induction =>
      have split := List.take_append_drop width front
      have whole : (front.take width).length = width := List.length_take_of_le enough.2
      have later : remainder width front = remainder width (front.drop width) := by
        rw [← remainder_append_group (front.drop width) positive whole, split]
      have first : groups width front = front.take width :: groups width (front.drop width) := by
        rw [← groups_append (front.drop width) positive whole, split]
      have joined : front.take width ++ (front.drop width ++ back) = front ++ back := by
        rw [← List.append_assoc, split]
      rw [later, first, ← joined]
      constructor
      · rw [groups_append _ positive whole, induction.1, List.cons_append]
      · rw [remainder_append_group _ positive whole, induction.2]
  | case2 front few =>
      have short : front.length < width := by omega
      rw [groups_short short, remainder_short short]
      exact ⟨rfl, rfl⟩

end Groups

/-- What holds of the numbers below 256 holds of the bytes. -/
theorem byte_cases {property : UInt8 → Prop} (all : ∀ value < 256, property (UInt8.ofNat value))
    (byte : UInt8) : property byte := by
  have found := all byte.toNat byte.toNat_lt
  rw [UInt8.ofNat_toNat] at found
  exact found

end BitString

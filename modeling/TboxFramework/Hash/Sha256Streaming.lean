import TboxFramework.Hash.Sha256Block

/-!
# The bytes a context has absorbed

A context stands for all the bytes that it was updated with: its state is the compression
of their whole blocks, and the buffer begins with what the blocks leave over. An update
keeps that, and no access leaves the buffer.
-/

namespace TboxFramework.Hash

open BitString
open SecureHash (Words bigEndian bitsOf compressBytes padding)

set_option autoImplicit false

structure Absorbs (context : Sha256Context) (data : Bytes) : Prop where
  state : context.state = (groups 64 data).foldl compressBytes SecureHash.initial
  bufferLen : context.bufferLen = (remainder 64 data).length
  buffer : remainder 64 data <+: context.buffer.val
  bitlen : context.bitlen = UInt64.ofNat (8 * data.length)

theorem new_absorbs (buffer : Buffer) : Absorbs (Sha256Context.new buffer) [] where
  state := by
    rw [groups_short (by decide)]
    exact initial_eq buffer
  bufferLen := rfl
  buffer := List.nil_prefix
  bitlen := rfl

/-! ## The buffer -/

/-- Behind what the buffer begins with, there is room for a copy. -/
theorem memcpy_behind {buffer : Buffer} {content data : Bytes} (begins : content <+: buffer.val)
    (fits : content.length + data.length ≤ 64) :
    ∃ written, memcpy buffer content.length data = some written ∧
      content ++ data <+: written.val := by
  have front : buffer.val.take content.length = content := (List.prefix_iff_eq_take.mp begins).symm
  unfold memcpy
  rw [dif_pos fits]
  refine ⟨_, rfl, ?_⟩
  change content ++ data <+: buffer.val.take content.length ++ data ++ _
  rw [front]
  exact List.prefix_append _ _

/-- What fills the buffer is its content. -/
theorem buffer_full {buffer : Buffer} {content : Bytes} (begins : content <+: buffer.val)
    (full : content.length = 64) : buffer.val = content :=
  (begins.eq_of_length (full.trans buffer.property.symm)).symm

theorem process_buffer (state : Words) {buffer : Buffer} {content : Bytes}
    (begins : content <+: buffer.val) (full : content.length = 64) :
    processBlock state buffer = some (compressBytes state content) := by
  have same := buffer_full begins full
  rw [process_block_eq state (Nat.le_of_eq buffer.property.symm), same,
    List.take_of_length_le (Nat.le_of_eq full)]

/-- The induction is on the zeros that are missing. -/
theorem fill_zeros {limit : Nat} (within : limit ≤ 64) (missing : Nat) :
    ∀ {buffer : Buffer} {content : Bytes}, content <+: buffer.val →
      content.length + missing = limit →
      ∃ filled, fillZeros limit buffer content.length = some (filled, limit) ∧
        content ++ List.replicate missing 0 <+: filled.val := by
  induction missing with
  | zero =>
      intro buffer content begins reached
      rw [Nat.add_zero] at reached
      rw [fillZeros, if_neg (by omega), reached]
      refine ⟨buffer, rfl, ?_⟩
      rw [List.replicate_zero, List.append_nil]
      exact begins
  | succ missing induction =>
      intro buffer content begins reached
      obtain ⟨written, copied, longer⟩ := @memcpy_behind buffer content [0] begins (by
        rw [List.length_singleton]
        omega)
      have length : (content ++ [0]).length = content.length + 1 := List.length_append
      obtain ⟨filled, zeros, ends⟩ := induction longer (by omega)
      rw [fillZeros, if_pos (by omega), copied]
      refine ⟨filled, ?_, ?_⟩
      · rw [length] at zeros
        exact zeros
      · rw [List.append_assoc] at ends
        exact ends

/-! ## The update -/

theorem whole_blocks_eq (data : Bytes) : ∀ state, wholeBlocks state data =
    some ((groups 64 data).foldl compressBytes state, remainder 64 data) := by
  induction data using groups.induct 64 with
  | case1 data enough induction =>
      intro state
      have whole : (data.take 64).length = 64 := List.length_take_of_le enough.2
      have split := List.take_append_drop 64 data
      have left : remainder 64 data = remainder 64 (data.drop 64) := by
        rw [← remainder_append_group (data.drop 64) (by decide) whole, split]
      rw [wholeBlocks, if_pos enough.2, process_block_eq state enough.2, groups, if_pos enough,
        left]
      exact induction _
  | case2 data few =>
      intro state
      have short : data.length < 64 := by omega
      rw [wholeBlocks, if_neg (by omega), groups_short short, remainder_short short]
      rfl

/-- A block in the buffer stays open, or nothing is left in the buffer. -/
theorem complete_block {context : Sha256Context} {pending : Bytes}
    (length : context.bufferLen = pending.length) (short : pending.length < 64)
    (begins : pending <+: context.buffer.val) (data : Bytes) :
    ∃ completed rest, completeBlock context data = some (completed, rest) ∧
      completed.bitlen = context.bitlen ∧
      (rest = [] ∧ (pending ++ data).length < 64 ∧ completed.state = context.state ∧
          completed.bufferLen = (pending ++ data).length ∧
          pending ++ data <+: completed.buffer.val ∨
        completed.bufferLen = 0 ∧
          (groups 64 (pending ++ data)).foldl compressBytes context.state =
            (groups 64 rest).foldl compressBytes completed.state ∧
          remainder 64 (pending ++ data) = remainder 64 rest) := by
  unfold completeBlock
  by_cases waiting : 0 < context.bufferLen
  · rw [if_pos waiting, length]
    by_cases few : data.length < 64 - pending.length
    · have fits : (pending ++ data).length < 64 := by
        rw [List.length_append]
        omega
      obtain ⟨written, copied, longer⟩ := @memcpy_behind _ _ data begins (by omega)
      have open_block : ¬pending.length + data.length = 64 := by omega
      refine ⟨{ context with buffer := written, bufferLen := pending.length + data.length }, [],
        ?_, rfl, Or.inl ⟨rfl, fits, rfl, List.length_append.symm, longer⟩⟩
      simp only [if_pos few, List.take_length, copied, Option.bind_eq_bind, Option.bind_some,
        if_neg open_block, List.drop_length]
      rfl
    · have taken : (data.take (64 - pending.length)).length = 64 - pending.length :=
        List.length_take_of_le (Nat.le_of_not_lt few)
      obtain ⟨written, copied, longer⟩ :=
        @memcpy_behind _ _ (data.take (64 - pending.length)) begins (by omega)
      have full : (pending ++ data.take (64 - pending.length)).length = 64 := by
        rw [List.length_append, taken]
        omega
      have closes : pending.length + (64 - pending.length) = 64 := by omega
      have split : pending ++ data = (pending ++ data.take (64 - pending.length)) ++
          data.drop (64 - pending.length) := by
        rw [List.append_assoc, List.take_append_drop]
      have processed := process_buffer context.state longer full
      refine ⟨{ context with
          state := compressBytes context.state (pending ++ data.take (64 - pending.length))
          buffer := written
          bufferLen := 0 }, data.drop (64 - pending.length), ?_, rfl, Or.inr ⟨rfl, ?_, ?_⟩⟩
      · simp only [if_neg few, copied, Option.bind_eq_bind, Option.bind_some, if_pos closes,
          processed]
        rfl
      · rw [split, groups_append _ (by decide) full]
        rfl
      · rw [split, remainder_append_group _ (by decide) full]
  · have empty : pending = [] := List.length_eq_zero_iff.mp (by omega)
    rw [if_neg waiting, empty]
    refine ⟨context, data, rfl, rfl, Or.inr ⟨by omega, rfl, rfl⟩⟩

theorem bits_counted (front more : Nat) :
    UInt64.ofNat (8 * front) + UInt64.ofNat more * 8 = UInt64.ofNat (8 * (front + more)) := by
  have bits : UInt64.ofNat (8 * more) = UInt64.ofNat more * 8 := by
    rw [Nat.mul_comm, UInt64.ofNat_mul]
    rfl
  rw [Nat.mul_add, UInt64.ofNat_add, bits]

/-- An update appends to what the context has absorbed. -/
theorem update_absorbs {context : Sha256Context} {front : Bytes} (absorbs : Absorbs context front)
    (data : Bytes) : ∃ next, update context data = some next ∧ Absorbs next (front ++ data) := by
  by_cases nothing : data.length = 0
  · refine ⟨context, ?_, ?_⟩
    · unfold update
      rw [if_pos nothing]
    · rw [List.length_eq_zero_iff.mp nothing, List.append_nil]
      exact absorbs
  have short : (remainder 64 front).length < 64 := by
    rw [remainder_length]
    exact Nat.mod_lt _ (by decide)
  have counted : context.bitlen + UInt64.ofNat data.length * 8 =
      UInt64.ofNat (8 * (front ++ data).length) := by
    rw [absorbs.bitlen, List.length_append, bits_counted]
  obtain ⟨continued, left⟩ := groups_continue front data (Nat.succ_pos 63)
  obtain ⟨completed, rest, completion, bits, closes⟩ :=
    @complete_block { context with bitlen := context.bitlen + UInt64.ofNat data.length * 8 } _
      absorbs.bufferLen short absorbs.buffer data
  unfold update
  simp only [if_neg nothing, completion, Option.bind_eq_bind, Option.bind_some, whole_blocks_eq]
  cases closes with
  | inl stays =>
      obtain ⟨rfl, open_block, same, length, begins⟩ := stays
      have no_groups : groups 64 ([] : Bytes) = [] := groups_short (by decide)
      have no_rest : remainder 64 ([] : Bytes) = [] := rfl
      have pending := remainder_short open_block
      refine ⟨completed, ?_, ?_⟩
      · rw [no_groups, no_rest]
        rfl
      · constructor
        · rw [continued, groups_short open_block, List.append_nil, same]
          exact absorbs.state
        · rw [left, pending]
          exact length
        · rw [left, pending]
          exact begins
        · exact bits.trans counted
  | inr empty =>
      obtain ⟨length, folded, same⟩ := empty
      have state : (groups 64 rest).foldl compressBytes completed.state =
          (groups 64 (front ++ data)).foldl compressBytes SecureHash.initial := by
        rw [continued, List.foldl_append, ← absorbs.state]
        exact folded.symm
      by_cases kept : 0 < (remainder 64 rest).length
      · obtain ⟨written, copied, begins⟩ :=
          @memcpy_behind completed.buffer [] (remainder 64 rest) List.nil_prefix (by
            rw [remainder_length, List.length_nil]
            omega)
        refine ⟨{ completed with
            state := (groups 64 rest).foldl compressBytes completed.state
            buffer := written
            bufferLen := (remainder 64 rest).length }, ?_, ?_⟩
        · have from_start : memcpy completed.buffer 0 (remainder 64 rest) = some written := copied
          rw [if_pos kept, from_start]
          rfl
        · constructor
          · exact state
          · rw [left, same]
          · rw [left, same]
            exact begins
          · exact bits.trans counted
      · refine ⟨{ completed with
            state := (groups 64 rest).foldl compressBytes completed.state }, ?_, ?_⟩
        · rw [if_neg kept]
          rfl
        · have none_left : remainder 64 rest = [] := List.length_eq_zero_iff.mp (by omega)
          constructor
          · exact state
          · rw [left, same, none_left]
            exact length
          · rw [left, same, none_left]
            exact List.nil_prefix
          · exact bits.trans counted

end TboxFramework.Hash

import TboxFramework.Hash.Sha256Streaming

/-!
# The digest of the standard

`finalize` pads inside the buffer, with one block or two, what the standard pads behind
the whole message. So the digest of every message is that of the standard, and no access
leaves the buffer on the way.
-/

namespace TboxFramework.Hash

open BitString
open SecureHash (Words bigEndian bitsOf compressBytes padding)

set_option autoImplicit false

/-- The block that is open behind `flushTail` has room for the length; with it, the blocks
are those of the padded message. -/
theorem flush_tail {context : Sha256Context} {pending : Bytes} (short : pending.length < 64)
    (length : context.bufferLen = (pending ++ [0x80]).length)
    (begins : pending ++ [0x80] <+: context.buffer.val) :
    ∃ flushed content, flushTail context = some flushed ∧ flushed.bitlen = context.bitlen ∧
      flushed.bufferLen = content.length ∧ content.length ≤ 56 ∧
      content <+: flushed.buffer.val ∧ ∀ tail,
        (groups 64 (pending ++ (0x80 :: List.replicate ((119 - pending.length) % 64) 0 ++
            tail))).foldl compressBytes context.state =
          (groups 64 (content ++ List.replicate (56 - content.length) 0 ++ tail)).foldl
            compressBytes flushed.state := by
  have marked : (pending ++ [0x80]).length = pending.length + 1 := List.length_append
  unfold flushTail
  by_cases full : context.bufferLen > 56
  · obtain ⟨filled, zeros, whole⟩ := @fill_zeros 64 (Nat.le_refl 64) (63 - pending.length) _ _
      begins (by omega)
    have sized : (pending ++ [0x80] ++ List.replicate (63 - pending.length) (0 : UInt8)).length =
        64 := by
      rw [List.length_append, List.length_replicate, marked]
      omega
    refine ⟨{ context with
      state := compressBytes context.state
        (pending ++ [0x80] ++ List.replicate (63 - pending.length) 0)
      buffer := filled
      bufferLen := 0 }, [], ?_, rfl, rfl, by decide, List.nil_prefix, ?_⟩
    · rw [if_pos full, length, zeros]
      simp only [Option.bind_eq_bind, Option.bind_some]
      rw [process_buffer context.state whole sized]
      rfl
    · intro tail
      have count : (119 - pending.length) % 64 = (63 - pending.length) + 56 := by omega
      have split : pending ++ (0x80 :: List.replicate ((119 - pending.length) % 64) 0 ++ tail) =
          (pending ++ [0x80] ++ List.replicate (63 - pending.length) 0) ++
            (List.replicate 56 0 ++ tail) := by
        rw [count, ← List.replicate_append_replicate]
        simp only [List.append_assoc, List.cons_append, List.nil_append]
      rw [split, groups_append _ (by decide) sized]
      rfl
  · refine ⟨context, pending ++ [0x80], ?_, rfl, length, by omega, begins, ?_⟩
    · rw [if_neg full]
    · intro tail
      have count : (119 - pending.length) % 64 = 56 - (pending ++ [0x80]).length := by omega
      rw [count]
      simp only [List.append_assoc, List.cons_append, List.nil_append]

/-- The induction over the message is that of the updates; here its end is padded. -/
theorem finalize_absorbs {context : Sha256Context} {data : Bytes} (absorbs : Absorbs context data)
    (bounded : data.length < 2 ^ 61) :
    finalize context = some (SecureHash.digest (bitsOf data)) := by
  have pendingLength := @remainder_length _ 64 data
  have short : (remainder 64 data).length < 64 := by
    rw [pendingLength]
    exact Nat.mod_lt _ (by decide)
  obtain ⟨marked, marking, begins⟩ := @memcpy_behind _ _ [0x80] absorbs.buffer (by
    rw [List.length_singleton]
    omega)
  obtain ⟨flushed, content, flushing, bits, length, room, held, blocks⟩ :=
    @flush_tail { context with buffer := marked, bufferLen := context.bufferLen + 1 } _ short
      (by rw [absorbs.bufferLen, List.length_append]; rfl) begins
  obtain ⟨zeroed, zeros, kept⟩ := @fill_zeros 56 (by decide) (56 - content.length) _ _ held
    (by omega)
  have sized : (content ++ List.replicate (56 - content.length) (0 : UInt8)).length = 56 := by
    rw [List.length_append, List.length_replicate]
    omega
  have count : storeBe64 flushed.bitlen = bigEndian 8 (8 * data.length) := by
    rw [store_be64_eq, bits]
    change bigEndian 8 context.bitlen.toNat = _
    rw [absorbs.bitlen, UInt64.toNat_ofNat', Nat.mod_eq_of_lt (by omega)]
  obtain ⟨last, storing, whole⟩ := @memcpy_behind _ _ (bigEndian 8 (8 * data.length)) kept (by
    rw [sized, SecureHash.big_endian_length])
  have complete : (content ++ List.replicate (56 - content.length) 0 ++
      bigEndian 8 (8 * data.length)).length = 64 := by
    rw [List.length_append, sized, SecureHash.big_endian_length]
  have folded : (groups 64 (data ++ padding data.length)).foldl compressBytes
        SecureHash.initial =
      compressBytes flushed.state (content ++ List.replicate (56 - content.length) 0 ++
        bigEndian 8 (8 * data.length)) := by
    have same := blocks (bigEndian 8 (8 * data.length))
    rw [groups_single (by decide) complete] at same
    rw [(groups_continue data _ (Nat.succ_pos 63)).1, List.foldl_append, ← absorbs.state]
    unfold padding
    rw [pendingLength] at same
    exact same
  unfold finalize
  rw [absorbs.bufferLen, marking]
  simp only [Option.bind_eq_bind, Option.bind_some]
  rw [absorbs.bufferLen] at flushing
  rw [flushing]
  simp only [Option.bind_some]
  rw [length, zeros]
  simp only [Option.bind_some]
  rw [sized, ← count] at storing
  rw [storing]
  simp only [Option.bind_some]
  rw [process_buffer flushed.state whole complete, ← folded, SecureHash.digest_eq,
    SecureHash.hash_bits_of]
  have stores : storeBe32 = fun word => bigEndian 4 word.toNat := funext store_be32_eq
  rw [stores]
  rfl

/-! ## The public functions -/

theorem to_hex_eq (digest : Bytes) : toHex digest = Hexadecimal.encode false digest := by
  have high : ∀ byte : UInt8, hexTable.getD ((byte >>> 4) &&& 0x0f).toNat 0 =
      Hexadecimal.digit false (byte.toNat / 16) := byte_cases (by decide +kernel)
  have low : ∀ byte : UInt8, hexTable.getD (byte &&& 0x0f).toNat 0 =
      Hexadecimal.digit false (byte.toNat % 16) := byte_cases (by decide +kernel)
  unfold toHex Hexadecimal.encode
  simp only [high, low]

/-- A view of bytes; the pointer to no bytes may be null. -/
def ByteView.Shows (view : ByteView) (message : Bytes) : Prop :=
  view.data = some message ∨ view.data = none ∧ view.size = 0 ∧ message = []

theorem sha256_of_view (stack : Buffer) {view : ByteView} {message : Bytes}
    (visible : view.Shows message) (bounded : message.length < 2 ^ 61) :
    sha256 stack view = .ok (some (SecureHash.digest (bitsOf message))) := by
  obtain ⟨context, updated, absorbs⟩ := update_absorbs (new_absorbs stack) message
  have content : view.data.getD [] = message ∧ view.size = message.length := by
    cases visible with
    | inl pointer =>
        have covered := view.covers message pointer
        rw [pointer]
        exact ⟨rfl, covered.symm⟩
    | inr empty =>
        obtain ⟨pointer, size, rfl⟩ := empty
        rw [pointer]
        exact ⟨rfl, size⟩
  have given : ¬(view.size > 0 ∧ view.data = none) := by
    intro missing
    have nothing : message = [] := by
      rw [← content.1, missing.2]
      rfl
    rw [content.2, nothing] at missing
    exact absurd missing.1 (Nat.lt_irrefl 0)
  unfold sha256
  rw [if_neg given, if_neg (by omega), content.1, updated]
  exact congrArg Except.ok (finalize_absorbs absorbs bounded)

/-- Of every message below 2^61 bytes, the digest is that of the standard, whatever the
memory of the context holds, and no access leaves the buffer; the text is its 64 digits. -/
theorem sha256_conforms (stack : Buffer) {view : ByteView} {message : Bytes}
    (visible : view.Shows message) (bounded : message.length < 2 ^ 61) :
    sha256 stack view = .ok (some (SecureHash.digest (bitsOf message))) ∧
      sha256Hex stack view =
        .ok (some (Hexadecimal.encode false (SecureHash.digest (bitsOf message)))) ∧
      (Hexadecimal.encode false (SecureHash.digest (bitsOf message))).length = 64 := by
  have conforms := sha256_of_view stack visible bounded
  constructor
  · exact conforms
  constructor
  · unfold sha256Hex
    rw [conforms, ← to_hex_eq]
    rfl
  · rw [Hexadecimal.encode_length, SecureHash.digest_length]

/-- A buffer that was not written yet. -/
def freshStack : Buffer := ⟨List.replicate 64 0xcc, rfl⟩

def abc : Bytes := [97, 98, 99]

def abcView : ByteView := ⟨some abc, 3, by decide⟩

theorem sha256_conforms_abc :
    sha256 freshStack abcView = .ok (some (SecureHash.digest (bitsOf abc))) ∧
      sha256Hex freshStack abcView =
        .ok (some (Hexadecimal.encode false (SecureHash.digest (bitsOf abc)))) ∧
      (Hexadecimal.encode false (SecureHash.digest (bitsOf abc))).length = 64 :=
  sha256_conforms freshStack (Or.inl rfl) (by decide)

example : (sha256Hex freshStack abcView).toOption = some (some
    "ba7816bf8f01cfea414140de5dae2223b00361a396177a9cb410ff61f20015ad".toUTF8.data.toList) := by
  decide +kernel

end TboxFramework.Hash

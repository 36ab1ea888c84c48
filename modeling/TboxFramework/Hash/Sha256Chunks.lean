import TboxFramework.Hash.Sha256Conformance

/-!
# A message in chunks

The public functions update a context once; the context allows any number of updates.
What a caller can tell from a context is its state, its count of bits and the bytes that
the buffer begins with: behind them the buffer keeps what earlier blocks left there.
-/

namespace TboxFramework.Hash

open BitString
open SecureHash (bitsOf)

set_option autoImplicit false

def updates (context : Sha256Context) (chunks : List Bytes) : Option Sha256Context :=
  chunks.foldlM update context

/-- The bytes of the buffer that no block has taken yet. -/
def Sha256Context.buffered (context : Sha256Context) : Bytes :=
  context.buffer.val.take context.bufferLen

structure Sha256Context.Agrees (context other : Sha256Context) : Prop where
  state : context.state = other.state
  bitlen : context.bitlen = other.bitlen
  bufferLen : context.bufferLen = other.bufferLen
  buffered : context.buffered = other.buffered

/-- A context that updates can leave, whatever its buffer held before the first one. -/
inductive Updated : Sha256Context → Prop
  | fresh (stack : Buffer) : Updated (Sha256Context.new stack)
  | step {context next : Sha256Context} (data : Bytes) (reached : Updated context)
      (updated : update context data = some next) : Updated next

section Absorbing

variable {context other : Sha256Context} {data : Bytes}

theorem absorbs_buffered (absorbs : Absorbs context data) :
    context.buffered = remainder 64 data := by
  unfold Sha256Context.buffered
  rw [absorbs.bufferLen]
  exact (List.prefix_iff_eq_take.mp absorbs.buffer).symm

/-- The absorbed bytes decide all that a caller can tell. -/
theorem absorbs_agrees (absorbs : Absorbs context data) (same : Absorbs other data) :
    context.Agrees other where
  state := absorbs.state.trans same.state.symm
  bitlen := absorbs.bitlen.trans same.bitlen.symm
  bufferLen := absorbs.bufferLen.trans same.bufferLen.symm
  buffered := (absorbs_buffered absorbs).trans (absorbs_buffered same).symm

theorem absorbs_short (absorbs : Absorbs context data) : context.bufferLen < 64 := by
  rw [absorbs.bufferLen, remainder_length]
  exact Nat.mod_lt _ (by decide)

/-- The count wraps at a multiple of the 512 bits of a block. -/
theorem absorbs_counted (absorbs : Absorbs context data) :
    context.bufferLen = context.bitlen.toNat / 8 % 64 := by
  have bits : context.bitlen.toNat = 8 * data.length % 2 ^ 64 := by
    rw [absorbs.bitlen]
    exact UInt64.toNat_ofNat'
  rw [absorbs.bufferLen, remainder_length, bits]
  omega

/-- The induction is on the chunks: each one is appended to what went before it. -/
theorem updates_absorbs (chunks : List Bytes) :
    ∀ {context : Sha256Context} {front : Bytes}, Absorbs context front →
      ∃ next, updates context chunks = some next ∧ Absorbs next (front ++ chunks.flatten) := by
  induction chunks with
  | nil =>
      intro context front absorbs
      refine ⟨context, rfl, ?_⟩
      rw [List.flatten_nil, List.append_nil]
      exact absorbs
  | cons chunk rest induction =>
      intro context front absorbs
      obtain ⟨middle, updated, longer⟩ := update_absorbs absorbs chunk
      obtain ⟨next, followed, all⟩ := induction longer
      refine ⟨next, ?_, ?_⟩
      · unfold updates
        rw [List.foldlM_cons, updated]
        exact followed
      · rw [List.flatten_cons, ← List.append_assoc]
        exact all

theorem updated_absorbs (reached : Updated context) : ∃ data, Absorbs context data := by
  induction reached with
  | fresh stack => exact ⟨[], new_absorbs stack⟩
  | step data reached updated induction =>
      obtain ⟨front, absorbs⟩ := induction
      obtain ⟨next, same, longer⟩ := update_absorbs absorbs data
      have returned := Option.some.inj (same.symm.trans updated)
      rw [returned] at longer
      exact ⟨front ++ data, longer⟩

end Absorbing

/-- The digest of a message in chunks is that of the message. -/
theorem updates_digest (stack : Buffer) (chunks : List Bytes)
    (bounded : chunks.flatten.length < 2 ^ 61) :
    (updates (Sha256Context.new stack) chunks).bind finalize =
      some (SecureHash.digest (bitsOf chunks.flatten)) := by
  obtain ⟨streamed, updated, absorbs⟩ := updates_absorbs chunks (new_absorbs stack)
  rw [updated]
  exact finalize_absorbs absorbs bounded

/-- Updates with chunks, empty ones included, leave what one update with all of the bytes
leaves. In every context that updates reach, the buffer has room, its length follows from
the count of bits, and no access of a further update leaves the buffer. This holds for
messages of any length: at 2^61 bytes the count of bits begins again at zero. -/
theorem streaming_agrees :
    (∀ (stack other : Buffer) (chunks : List Bytes), ∃ streamed whole,
      updates (Sha256Context.new stack) chunks = some streamed ∧
        update (Sha256Context.new other) chunks.flatten = some whole ∧
        streamed.Agrees whole) ∧
      ∀ context, Updated context →
        context.bufferLen < 64 ∧ context.bufferLen = context.bitlen.toNat / 8 % 64 ∧
          ∀ data, ∃ next, update context data = some next := by
  constructor
  · intro stack other chunks
    obtain ⟨streamed, followed, absorbs⟩ := updates_absorbs chunks (new_absorbs stack)
    obtain ⟨whole, updated, same⟩ := update_absorbs (new_absorbs other) chunks.flatten
    exact ⟨streamed, whole, followed, updated, absorbs_agrees absorbs same⟩
  · intro context reached
    obtain ⟨front, absorbs⟩ := updated_absorbs reached
    refine ⟨absorbs_short absorbs, absorbs_counted absorbs, ?_⟩
    intro data
    obtain ⟨next, updated, _⟩ := update_absorbs absorbs data
    exact ⟨next, updated⟩

end TboxFramework.Hash

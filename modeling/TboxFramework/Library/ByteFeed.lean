import Mathlib.Data.List.Basic
import Mathlib.Data.List.TakeDrop

/-!
# Byte streams as a blocking receiver sees them

A feed lists what reaches a receiver in its order: chunks of bytes, interrupted
calls, errors and the end of the stream. A call takes at most as many bytes as it
asks for, so a feed stands for one way to cut and to interrupt a stream. What has
not arrived yet is not in the feed, and a call on an empty one does not return.
-/

namespace ByteFeed

set_option autoImplicit false

/-- A chunk is never empty: a call that returns no byte is the end of the stream. -/
inductive Arrival
  | chunk (first : UInt8) (more : List UInt8)
  | interrupted
  | failed
  | closed
  deriving DecidableEq, Repr

abbrev Feed := List Arrival

/-- What is still to be received; nothing comes after the end of the stream. -/
def bytes : Feed → List UInt8
  | [] => []
  | .chunk first more :: rest => first :: more ++ bytes rest
  | .closed :: _ => []
  | _ :: rest => bytes rest

inductive Recv
  | blocked
  | received (bytes : List UInt8) (rest : Feed)
  | interrupted (rest : Feed)
  | failed (rest : Feed)
  | closed
  deriving DecidableEq, Repr

/-- One call that asks for `size + 1` bytes. -/
def recv (size : Nat) : Feed → Recv
  | [] => .blocked
  | .chunk first more :: rest =>
      match more.drop size with
      | [] => .received (first :: more) rest
      | byte :: left => .received (first :: more.take size) (.chunk byte left :: rest)
  | .interrupted :: rest => .interrupted rest
  | .failed :: rest => .failed rest
  | .closed :: _ => .closed

/-- The result of reading something from a feed. -/
inductive Read (Value : Type)
  | blocked
  | failed (rest : Feed)
  | done (value : Value) (rest : Feed)
  deriving DecidableEq, Repr

def Read.andThen {First Second : Type} (read : Read First) (next : First → Feed → Read Second) :
    Read Second :=
  match read with
  | .blocked => .blocked
  | .failed rest => .failed rest
  | .done value rest => next value rest

def Read.map {First Second : Type} (change : First → Second) (read : Read First) : Read Second :=
  read.andThen fun value rest => .done (change value) rest

/-- No call on the feed fails before its end. -/
def Unfailing (feed : Feed) : Prop := Arrival.failed ∉ feed

/-- The feed ends, in the end of the stream or in an error. -/
def Ends (feed : Feed) : Prop := Arrival.failed ∈ feed ∨ Arrival.closed ∈ feed

/-- What a call that returns some bytes has done to the feed. -/
structure Received (size : Nat) (feed : Feed) (got : List UInt8) (rest : Feed) : Prop where
  bytes : bytes feed = got ++ bytes rest
  positive : 0 < got.length
  asked : got.length ≤ size + 1
  /-- A call that takes less than it asked for has used an arrival up. -/
  shorter : rest.length < feed.length ∨ rest.length = feed.length ∧ got.length = size + 1
  failures : Arrival.failed ∈ rest ↔ Arrival.failed ∈ feed
  ending : Arrival.closed ∈ rest ↔ Arrival.closed ∈ feed

theorem received_chunk (size : Nat) (first : UInt8) (more : List UInt8) (later : Feed) :
    ∃ got rest, recv size (.chunk first more :: later) = .received got rest ∧
      Received size (.chunk first more :: later) got rest := by
  cases part : more.drop size with
  | nil =>
      have short : more.length ≤ size := List.drop_eq_nil_iff.mp part
      refine ⟨first :: more, later, by simp only [recv, part], ?_⟩
      exact ⟨rfl, Nat.succ_pos _, Nat.succ_le_succ short, Or.inl (Nat.lt_succ_self _), by simp,
        by simp⟩
  | cons byte left =>
      have long : size < more.length := by
        apply Nat.lt_of_not_le
        intro short
        rw [List.drop_of_length_le short] at part
        cases part
      have count : (first :: more.take size).length = size + 1 := by
        rw [List.length_cons, List.length_take_of_le (Nat.le_of_lt long)]
      have split : bytes (.chunk first more :: later) =
          (first :: more.take size) ++ bytes (.chunk byte left :: later) := by
        simp only [bytes, List.cons_append, ← part]
        rw [← List.append_assoc, List.take_append_drop]
      refine ⟨first :: more.take size, .chunk byte left :: later, by simp only [recv, part], ?_⟩
      exact ⟨split, Nat.succ_pos _, Nat.le_of_eq count, Or.inr ⟨rfl, count⟩, by simp, by simp⟩

/-- What a call tells about the feed. -/
def Told (size : Nat) (feed : Feed) : Recv → Prop
  | .blocked => feed = []
  | .received got rest => Received size feed got rest
  | .interrupted rest => feed = .interrupted :: rest
  | .failed rest => feed = .failed :: rest
  | .closed => bytes feed = [] ∧ Arrival.closed ∈ feed

theorem recv_told (size : Nat) (feed : Feed) : Told size feed (recv size feed) := by
  cases feed with
  | nil => rfl
  | cons arrival later =>
      cases arrival with
      | chunk first more =>
          obtain ⟨got, rest, returned, received⟩ := received_chunk size first more later
          rw [returned]
          exact received
      | interrupted => rfl
      | failed => rfl
      | closed => exact ⟨rfl, List.mem_cons_self ..⟩

variable {size : Nat} {feed rest : Feed} {got : List UInt8}

theorem recv_received (taken : recv size feed = .received got rest) :
    Received size feed got rest := by
  have told := recv_told size feed
  rw [taken] at told
  exact told

theorem recv_interrupted (taken : recv size feed = .interrupted rest) :
    feed = .interrupted :: rest := by
  have told := recv_told size feed
  rw [taken] at told
  exact told

theorem recv_failed (taken : recv size feed = .failed rest) : feed = .failed :: rest := by
  have told := recv_told size feed
  rw [taken] at told
  exact told

theorem recv_closed (taken : recv size feed = .closed) :
    bytes feed = [] ∧ Arrival.closed ∈ feed := by
  have told := recv_told size feed
  rw [taken] at told
  exact told

theorem recv_blocked (taken : recv size feed = .blocked) : feed = [] := by
  have told := recv_told size feed
  rw [taken] at told
  exact told

end ByteFeed

import TboxFramework.Log.RotationRefinement
import Mathlib.Tactic.Ring

/-!
# The disk budget

A file is closed after the write that fills it, so it may exceed its limit by nearly
the longest line. The budget that `validate` compares with the product of the limits
leaves no room for that.
-/

namespace TboxFramework.Log

open TboxFramework.Store (Bytes text)
open RollingFileSink (output maxSizeBytes lineFeed)

set_option autoImplicit false

/-- The budget of the files `<svc>_<n>.log` together. -/
def budgetBytes (config : FileConfig) : Nat := config.totalBudgetMb.toNat * 1024 * 1024

namespace LogService

/-- Every file but the current one may exceed its limit by all but one byte of the
longest line. -/
def RoomForLongest (config : FileConfig) (longest : Nat) : Prop :=
  config.maxFiles.toNat * maxSizeBytes config + (config.maxFiles.toNat - 1) * (longest - 1) ≤
    budgetBytes config + 1

theorem most_bytes_eq {limit capacity longest : Nat} (files : 0 < limit) (terminated : 0 < longest)
    (room : 0 < capacity) :
    (limit - 1) * (capacity + longest - 1) + capacity =
      limit * capacity + (limit - 1) * (longest - 1) := by
  obtain ⟨others, rfl⟩ := Nat.exists_eq_add_of_lt files
  obtain ⟨text, rfl⟩ := Nat.exists_eq_add_of_lt terminated
  simp only [Nat.zero_add, Nat.add_sub_cancel]
  rw [show capacity + (text + 1) - 1 = capacity + text by omega]
  ring

theorem arriving_light {longest : Nat} {lines : List Bytes} (number : Nat)
    (lengths : ∀ line ∈ lines, (output line).length ≤ longest) :
    ∀ chunk ∈ arriving number lines, Chunk.size chunk ≤ longest := by
  induction lines generalizing number with
  | nil =>
      intro chunk member
      cases member
  | cons line rest induction =>
      intro chunk member
      rw [arriving, List.mem_cons] at member
      cases member with
      | inl first =>
          rw [first]
          exact lengths line List.mem_cons_self
      | inr later =>
          exact induction (number + 1)
            (fun other among => lengths other (List.mem_cons_of_mem line among)) chunk later

theorem arriving_sizes (number : Nat) (lines : List Bytes) :
    (arriving number lines).map Chunk.size = lines.map fun line => (output line).length := by
  induction lines generalizing number with
  | nil => rfl
  | cons line rest induction =>
      rw [arriving, List.map_cons, List.map_cons, induction]
      rfl

variable {config : FileConfig} {serviceName : Bytes} {longest : Nat}

theorem total_writes {lines : List Bytes}
    (few : ((start config serviceName []).writes lines).rotations < UInt32.size ∨
      ((start config serviceName []).pushes ⟨0, [], []⟩ lines).index < UInt32.size) :
    ((start config serviceName []).writes lines).directory.total =
      ((start config serviceName []).pushes ⟨0, [], []⟩ lines).total Chunk.size :=
  total_eq (writes_track lines (start_tracks config serviceName) few).represents

theorem writes_bounded (serviceName : Bytes) {lines : List Bytes}
    (files : 0 < config.maxFiles.toNat) (room : 0 < maxSizeBytes config)
    (lengths : ∀ line ∈ lines, (output line).length ≤ longest) :
    RotatingLog.Bounded Chunk.size (maxSizeBytes config) config.maxFiles.toNat longest
      ((start config serviceName []).pushes ⟨0, [], []⟩ lines) := by
  unfold pushes
  rw [start_config]
  exact RotatingLog.pushes_bounded room (arriving_light 0 lengths)
    (RotatingLog.bounded_empty files room)

/-- Lines that load the directory as much as lines of this length can. -/
def worstLines (config : FileConfig) (longest : Nat) : List Bytes :=
  (RotatingLog.worst (maxSizeBytes config) config.maxFiles.toNat longest).map fun weight =>
    List.replicate (weight - 1) lineFeed

theorem worst_lengths (terminated : 0 < longest) :
    (worstLines config longest).map (fun line => (output line).length) =
      RotatingLog.worst (maxSizeBytes config) config.maxFiles.toNat longest := by
  unfold worstLines
  rw [List.map_map]
  conv => rhs; rw [← List.map_id (RotatingLog.worst _ _ _)]
  apply List.map_congr_left
  intro weight member
  have positive := (RotatingLog.worst_light terminated weight member).1
  simp [output]
  omega

theorem worst_lines_short (terminated : 0 < longest) :
    ∀ line ∈ worstLines config longest, (output line).length ≤ longest := by
  intro line member
  have weight : (output line).length ∈
      RotatingLog.worst (maxSizeBytes config) config.maxFiles.toNat longest := by
    rw [← worst_lengths terminated]
    exact List.mem_map_of_mem (f := fun line => (output line).length) member
  exact (RotatingLog.worst_light terminated _ weight).2

/-- The log after the worst lines, seen by its sizes. -/
theorem worst_log (serviceName : Bytes) (terminated : 0 < longest) :
    ((start config serviceName []).pushes ⟨0, [], []⟩ (worstLines config longest)).map Chunk.size =
      RotatingLog.pushes id (maxSizeBytes config) config.maxFiles.toNat ⟨0, [], []⟩
        (RotatingLog.worst (maxSizeBytes config) config.maxFiles.toNat longest) := by
  unfold pushes
  rw [start_config, RotatingLog.map_pushes, arriving_sizes, worst_lengths terminated]
  rfl

/-- Without a wrap of the index the files stay within the budget, whatever lines of the
given length arrive, exactly when there is room for the longest line in every file. -/
theorem budget_kept_iff (config : FileConfig) (serviceName : Bytes) (longest : Nat)
    (sized : 1 ≤ config.maxFileSizeMb.toNat) (files : 1 ≤ config.maxFiles.toNat)
    (terminated : 1 ≤ longest) :
    (∀ lines : List Bytes, (∀ line ∈ lines, (output line).length ≤ longest) →
      ((start config serviceName []).writes lines).rotations < UInt32.size →
      ((start config serviceName []).writes lines).directory.total ≤ budgetBytes config) ↔
    RoomForLongest config longest := by
  have room : 0 < maxSizeBytes config := by
    unfold maxSizeBytes
    omega
  have most := most_bytes_eq files terminated room
  unfold RoomForLongest
  constructor
  · intro kept
    have reached := RotatingLog.total_worst files room terminated
    have indexed := RotatingLog.index_worst files room terminated
    rw [← worst_log serviceName terminated, RotatingLog.total_map] at reached
    rw [← worst_log serviceName terminated, RotatingLog.index_map] at indexed
    have small : ((start config serviceName []).pushes ⟨0, [], []⟩
        (worstLines config longest)).index < UInt32.size := by
      have bound := config.maxFiles.toNat_lt
      have size : UInt32.size = 2 ^ 32 := rfl
      omega
    have tracks := writes_track _ (start_tracks config serviceName) (.inr small)
    have total := kept (worstLines config longest) (worst_lines_short terminated)
      (by rw [← tracks.rotations]; exact small)
    rw [total_writes (.inr small)] at total
    omega
  · intro enough lines lengths few
    have bounded := (writes_bounded serviceName files room lengths).total_lt
    rw [total_writes (.inl few)]
    omega

/-- One megabyte above the product of the limits is room for lines of a quarter of it. -/
def spareConfig : FileConfig := { enabled := true, totalBudgetMb := 101 }

theorem spare_budget_kept :
    RoomForLongest spareConfig 262144 ∧
      ∀ lines : List Bytes, (∀ line ∈ lines, (output line).length ≤ 262144) →
        ((start spareConfig (text "tbox") []).writes lines).rotations < UInt32.size →
        ((start spareConfig (text "tbox") []).writes lines).directory.total ≤
          budgetBytes spareConfig := by
  have room : RoomForLongest spareConfig 262144 := by
    unfold RoomForLongest
    decide
  refine ⟨room, ?_⟩
  exact (budget_kept_iff spareConfig (text "tbox") 262144 (by decide) (by decide)
    (by decide)).mpr room

def tightConfig : LogConfig :=
  { fileConfig := { enabled := true, maxFileSizeMb := 1, maxFiles := 2, totalBudgetMb := 2 } }

def longLine : Bytes := List.replicate 3145728 97

/-- A line that fills a file on its own stays while a second file is allowed. -/
theorem total_one_write {line : Bytes} (full : maxSizeBytes config ≤ (output line).length)
    (files : 2 ≤ config.maxFiles.toNat) :
    ((start config serviceName []).writes [line]).directory.total = (output line).length := by
  have filled : maxSizeBytes config ≤
      RotatingLog.load Chunk.size ([] ++ [(⟨0, output line⟩ : Chunk)]) := by
    simpa [RotatingLog.load, Chunk.size] using full
  have pushed : (start config serviceName []).pushes ⟨0, [], []⟩ [line] =
      ⟨0, [[⟨0, output line⟩]], []⟩ := by
    unfold pushes
    rw [start_config]
    change RotatingLog.push _ _ _ _ _ = _
    rw [RotatingLog.push_full filled, RotatingLog.retain, RotatingLog.retainedFirst,
      if_neg (by simp; omega), if_neg (by simp; omega)]
    rfl
  have few : ((start config serviceName []).pushes ⟨0, [], []⟩ [line]).index < UInt32.size := by
    rw [pushed]
    exact (by decide : 1 < UInt32.size)
  rw [total_writes (.inr few), pushed]
  simp [RotatingLog.total, RotatingLog.files, RotatingLog.load, Chunk.size]

theorem long_output : (output longLine).length = 3145729 := by
  unfold output longLine
  rw [List.length_append, List.length_replicate]
  rfl

/-- A valid configuration whose budget one line exceeds. -/
theorem tight_budget_exceeded :
    LogConfigAdapter.Valid tightConfig ∧ tightConfig.fileConfig.enabled = true ∧
      budgetBytes tightConfig.fileConfig <
        ((start tightConfig.fileConfig (text "tbox") []).writes [longLine]).directory.total := by
  have filled : maxSizeBytes tightConfig.fileConfig ≤ (output longLine).length := by
    rw [long_output]
    decide
  refine ⟨by decide, rfl, ?_⟩
  rw [total_one_write filled (by decide), long_output]
  decide

end LogService

end TboxFramework.Log

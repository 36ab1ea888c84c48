import Mathlib.Algebra.GroupWithZero.Nat
import Mathlib.Data.List.Basic

/-!
# Rotating logs

A log is a queue of files, numbered as they were started. An entry goes to the last
file; a file that has reached the capacity is closed, and the oldest file is dropped
when the limit is reached. What is kept is always the end of what was pushed.
-/

namespace TboxFramework

set_option autoImplicit false

structure RotatingLog (Entry : Type) where
  /-- The number of the oldest file. -/
  first : Nat
  /-- Oldest first. -/
  closed : List (List Entry)
  current : List Entry

namespace RotatingLog

variable {Entry : Type}

def files (log : RotatingLog Entry) : List (List Entry) := log.closed ++ [log.current]

/-- The number of the current file. -/
def index (log : RotatingLog Entry) : Nat := log.first + log.closed.length

def entries (log : RotatingLog Entry) : List Entry := log.files.flatten

def load (weight : Entry → Nat) (file : List Entry) : Nat := (file.map weight).sum

def total (weight : Entry → Nat) (log : RotatingLog Entry) : Nat :=
  (log.files.map (load weight)).sum

/-- What is left of the files once there are too many to add one. -/
def retain (limit : Nat) (files : List (List Entry)) : List (List Entry) :=
  if limit ≤ files.length then files.drop 1 else files

/-- The number of the oldest file that is left. -/
def retainedFirst (limit first : Nat) (files : List (List Entry)) : Nat :=
  if limit ≤ files.length then first + 1 else first

def push (weight : Entry → Nat) (capacity limit : Nat) (log : RotatingLog Entry) (entry : Entry) :
    RotatingLog Entry :=
  let filled := log.closed ++ [log.current ++ [entry]]
  if capacity ≤ load weight (log.current ++ [entry]) then
    ⟨retainedFirst limit log.first filled, retain limit filled, []⟩
  else ⟨log.first, log.closed, log.current ++ [entry]⟩

def pushes (weight : Entry → Nat) (capacity limit : Nat) (log : RotatingLog Entry)
    (arriving : List Entry) : RotatingLog Entry :=
  arriving.foldl (push weight capacity limit) log

variable {weight : Entry → Nat} {capacity limit longest : Nat} {log : RotatingLog Entry}

theorem load_append (front back : List Entry) :
    load weight (front ++ back) = load weight front + load weight back := by
  unfold load
  rw [List.map_append, List.sum_append]

theorem push_full {entry : Entry} (full : capacity ≤ load weight (log.current ++ [entry])) :
    push weight capacity limit log entry =
      ⟨retainedFirst limit log.first (log.closed ++ [log.current ++ [entry]]),
        retain limit (log.closed ++ [log.current ++ [entry]]), []⟩ := if_pos full

theorem push_fits {entry : Entry} (fits : load weight (log.current ++ [entry]) < capacity) :
    push weight capacity limit log entry = ⟨log.first, log.closed, log.current ++ [entry]⟩ :=
  if_neg (Nat.not_le.mpr fits)

theorem retained_index {first : Nat} {files : List (List Entry)} (nonempty : files ≠ []) :
    retainedFirst limit first files + (retain limit files).length = first + files.length := by
  unfold retainedFirst retain
  have positive := List.length_pos_iff.mpr nonempty
  split
  · rw [List.length_drop]
    omega
  · rfl

theorem index_push (entry : Entry) :
    (push weight capacity limit log entry).index =
      if capacity ≤ load weight (log.current ++ [entry]) then log.index + 1 else log.index := by
  split
  · next full =>
      rw [push_full full]
      unfold index
      rw [retained_index (by simp), List.length_append, List.length_singleton, Nat.add_assoc]
  · next fits =>
      rw [push_fits (Nat.not_le.mp fits)]
      rfl

theorem index_le_pushes (arriving : List Entry) :
    log.index ≤ (pushes weight capacity limit log arriving).index := by
  induction arriving generalizing log with
  | nil => exact Nat.le_refl _
  | cons entry rest induction =>
      have later := @induction (push weight capacity limit log entry)
      have step : log.index ≤ (push weight capacity limit log entry).index := by
        rw [index_push]
        split <;> omega
      exact Nat.le_trans step later

/-! ## Age -/

theorem entries_retain (files : List (List Entry)) :
    ∃ dropped, files.flatten = dropped ++ (retain limit files).flatten := by
  unfold retain
  split
  · cases files with
    | nil => exact ⟨[], rfl⟩
    | cons oldest rest => exact ⟨oldest, by rw [List.drop_one, List.tail_cons, List.flatten_cons]⟩
  · exact ⟨[], rfl⟩

/-- Nothing but the oldest entries is lost. -/
theorem entries_push (entry : Entry) :
    ∃ dropped, log.entries ++ [entry] =
      dropped ++ (push weight capacity limit log entry).entries := by
  have filled : log.entries ++ [entry] = (log.closed ++ [log.current ++ [entry]]).flatten := by
    simp [entries, files]
  by_cases full : capacity ≤ load weight (log.current ++ [entry])
  · obtain ⟨dropped, split⟩ : ∃ dropped, (log.closed ++ [log.current ++ [entry]]).flatten =
        dropped ++ (retain limit (log.closed ++ [log.current ++ [entry]])).flatten :=
      entries_retain _
    refine ⟨dropped, ?_⟩
    rw [push_full full, filled, split]
    simp [entries, files]
  · refine ⟨[], ?_⟩
    rw [push_fits (Nat.not_le.mp full), filled]
    rfl

/-- A property that holds along all that was kept and the new entry holds along what is kept. -/
theorem pairwise_push {before : Entry → Entry → Prop} {entry : Entry}
    (sorted : (log.entries ++ [entry]).Pairwise before) :
    (push weight capacity limit log entry).entries.Pairwise before := by
  obtain ⟨dropped, split⟩ : ∃ dropped, log.entries ++ [entry] =
      dropped ++ (push weight capacity limit log entry).entries := entries_push entry
  rw [split, List.pairwise_append] at sorted
  exact sorted.2.1

/-! ## Size -/

theorem retain_length {files : List (List Entry)} (positive : 0 < limit)
    (bound : files.length ≤ limit) : (retain limit files).length < limit := by
  unfold retain
  split
  · rw [List.length_drop]
    omega
  · omega

theorem count_push {entry : Entry} (count : log.closed.length < limit) :
    (push weight capacity limit log entry).closed.length < limit := by
  by_cases full : capacity ≤ load weight (log.current ++ [entry])
  · rw [push_full full]
    apply retain_length (Nat.lt_of_le_of_lt (Nat.zero_le _) count)
    rw [List.length_append, List.length_singleton]
    omega
  · rw [push_fits (Nat.not_le.mp full)]
    exact count

/-- The loads of the files while no entry is heavier than the longest. -/
structure Bounded (weight : Entry → Nat) (capacity limit longest : Nat)
    (log : RotatingLog Entry) : Prop where
  count : log.closed.length < limit
  closedLoads : ∀ file ∈ log.closed, load weight file < capacity + longest
  currentLoad : load weight log.current < capacity

theorem bounded_empty {first : Nat} (positive : 0 < limit) (room : 0 < capacity) :
    Bounded weight capacity limit longest ⟨first, [], []⟩ :=
  ⟨positive, fun file member => absurd member (by simp), room⟩

theorem mem_of_mem_retain {files : List (List Entry)} {file : List Entry}
    (member : file ∈ retain limit files) : file ∈ files := by
  unfold retain at member
  split at member
  · exact List.mem_of_mem_drop member
  · exact member

theorem push_bounded {entry : Entry} (room : 0 < capacity) (light : weight entry ≤ longest)
    (bounded : Bounded weight capacity limit longest log) :
    Bounded weight capacity limit longest (push weight capacity limit log entry) := by
  have filledLoad : load weight (log.current ++ [entry]) < capacity + longest := by
    have current := bounded.currentLoad
    have single : load weight [entry] = weight entry := by simp [load]
    rw [load_append, single]
    omega
  refine ⟨count_push bounded.count, ?_, ?_⟩
  · by_cases full : capacity ≤ load weight (log.current ++ [entry])
    · rw [push_full full]
      intro file member
      have filled := mem_of_mem_retain member
      rw [List.mem_append, List.mem_singleton] at filled
      cases filled with
      | inl closed => exact bounded.closedLoads file closed
      | inr last =>
          rw [last]
          exact filledLoad
    · rw [push_fits (Nat.not_le.mp full)]
      exact bounded.closedLoads
  · by_cases full : capacity ≤ load weight (log.current ++ [entry])
    · rw [push_full full]
      exact room
    · rw [push_fits (Nat.not_le.mp full)]
      exact Nat.not_le.mp full

theorem pushes_bounded {arriving : List Entry} (room : 0 < capacity)
    (light : ∀ entry ∈ arriving, weight entry ≤ longest)
    (bounded : Bounded weight capacity limit longest log) :
    Bounded weight capacity limit longest (pushes weight capacity limit log arriving) := by
  induction arriving generalizing log with
  | nil => exact bounded
  | cons entry rest induction =>
      apply induction fun other member => light other (List.mem_cons_of_mem entry member)
      exact push_bounded room (light entry List.mem_cons_self) bounded

theorem sum_loads_le {bound : Nat} {files : List (List Entry)}
    (loads : ∀ file ∈ files, load weight file ≤ bound) :
    (files.map (load weight)).sum ≤ files.length * bound := by
  induction files with
  | nil => simp
  | cons file rest induction =>
      have head := loads file List.mem_cons_self
      have tail := induction fun other member => loads other (List.mem_cons_of_mem file member)
      rw [List.map_cons, List.sum_cons, List.length_cons, Nat.add_one_mul]
      omega

theorem total_eq :
    total weight log = (log.closed.map (load weight)).sum + load weight log.current := by
  simp [total, files]

/-- All files but the current one may exceed the capacity by less than one entry. -/
theorem Bounded.total_lt (bounded : Bounded weight capacity limit longest log) :
    total weight log < (limit - 1) * (capacity + longest - 1) + capacity := by
  have loads : ∀ file ∈ log.closed, load weight file ≤ capacity + longest - 1 := by
    intro file member
    have := bounded.closedLoads file member
    omega
  have closed := sum_loads_le loads
  have count := Nat.mul_le_mul_right (capacity + longest - 1) (Nat.le_sub_one_of_lt bounded.count)
  have current := bounded.currentLoad
  rw [total_eq]
  omega

/-! ## The bound is reached -/

/-- Rotation looks at nothing but the weights. -/
def map {Other : Type} (shown : Entry → Other) (log : RotatingLog Entry) : RotatingLog Other :=
  ⟨log.first, log.closed.map (List.map shown), log.current.map shown⟩

theorem load_map (file : List Entry) : load id (file.map weight) = load weight file := by
  simp [load]

theorem retain_map {Other : Type} (shown : List Entry → List Other) (files : List (List Entry)) :
    (retain limit files).map shown = retain limit (files.map shown) := by
  unfold retain
  rw [List.length_map]
  split
  · rw [List.map_drop]
  · rfl

theorem map_push (entry : Entry) :
    (push weight capacity limit log entry).map weight =
      push id capacity limit (log.map weight) (weight entry) := by
  have filled :
      (log.map weight).current ++ [weight entry] = (log.current ++ [entry]).map weight := by
    simp [map]
  by_cases full : capacity ≤ load weight (log.current ++ [entry])
  · rw [push_full full, push_full (by rw [filled, load_map]; exact full), filled]
    unfold map retainedFirst
    rw [retain_map, List.map_append, List.map_singleton, List.map_nil]
    simp
  · rw [push_fits (Nat.not_le.mp full),
      push_fits (by rw [filled, load_map]; exact Nat.not_le.mp full), filled]
    rfl

theorem map_pushes (arriving : List Entry) :
    (pushes weight capacity limit log arriving).map weight =
      pushes id capacity limit (log.map weight) (arriving.map weight) := by
  induction arriving generalizing log with
  | nil => rfl
  | cons entry rest induction =>
      have step := @induction (push weight capacity limit log entry)
      rw [map_push] at step
      exact step

theorem index_map : (log.map weight).index = log.index := by
  unfold index map
  rw [List.length_map]

theorem total_map : total id (log.map weight) = total weight log := by
  simp only [total, files, map, List.map_append, List.map_map, List.sum_append]
  congr 1
  · congr 1
    apply List.map_congr_left
    intro file _
    exact load_map file
  · simp [load]

theorem pushes_append (front back : List Entry) :
    pushes weight capacity limit log (front ++ back) =
      pushes weight capacity limit (pushes weight capacity limit log front) back :=
  List.foldl_append

theorem pushes_fits {arriving : List Entry}
    (fits : load weight (log.current ++ arriving) < capacity) :
    pushes weight capacity limit log arriving =
      ⟨log.first, log.closed, log.current ++ arriving⟩ := by
  induction arriving generalizing log with
  | nil => rw [List.append_nil]; rfl
  | cons entry rest induction =>
      rw [List.append_cons] at fits
      have first : load weight (log.current ++ [entry]) < capacity := by
        rw [load_append] at fits
        omega
      have step : push weight capacity limit log entry =
          ⟨log.first, log.closed, log.current ++ [entry]⟩ := push_fits first
      change pushes weight capacity limit (push weight capacity limit log entry) rest = _
      rw [step, @induction ⟨log.first, log.closed, log.current ++ [entry]⟩ fits]
      exact congrArg (RotatingLog.mk log.first log.closed)
        (List.append_cons log.current entry rest).symm

/-- Light entries up to the brim, then the longest one. -/
def filling (capacity longest : Nat) : List Nat := List.replicate (capacity - 1) 1 ++ [longest]

theorem load_replicate (count : Nat) : load id (List.replicate count 1) = count := by
  simp [load]

theorem pushes_filling {first : Nat} {closed : List (List Nat)} (room : 0 < capacity)
    (heavy : 0 < longest) (free : closed.length + 1 < limit) :
    pushes id capacity limit ⟨first, closed, []⟩ (filling capacity longest) =
      ⟨first, closed ++ [filling capacity longest], []⟩ := by
  have brim : load id (List.replicate (capacity - 1) 1) = capacity - 1 := load_replicate _
  have single : load id [longest] = longest := by simp [load]
  have light : pushes id capacity limit ⟨first, closed, []⟩ (List.replicate (capacity - 1) 1) =
      ⟨first, closed, List.replicate (capacity - 1) 1⟩ :=
    pushes_fits (by rw [List.nil_append, brim]; omega)
  have full : capacity ≤ load id (List.replicate (capacity - 1) 1 ++ [longest]) := by
    rw [load_append, brim, single]
    omega
  unfold filling
  rw [pushes_append, light]
  change push id capacity limit ⟨first, closed, List.replicate (capacity - 1) 1⟩ longest = _
  rw [push_full full]
  have few : ¬ limit ≤ (closed ++ [List.replicate (capacity - 1) 1 ++ [longest]]).length := by
    rw [List.length_append, List.length_singleton]
    omega
  unfold retain retainedFirst
  rw [if_neg few, if_neg few]

theorem pushes_fillings {count : Nat} (room : 0 < capacity) (heavy : 0 < longest)
    (free : count < limit) :
    pushes id capacity limit ⟨0, [], []⟩ (List.replicate count (filling capacity longest)).flatten =
      ⟨0, List.replicate count (filling capacity longest), []⟩ := by
  induction count with
  | zero => rfl
  | succ count induction =>
      rw [List.replicate_succ', List.flatten_append, pushes_append, induction (by omega),
        List.flatten_singleton, pushes_filling room heavy]
      rw [List.length_replicate]
      exact free

/-- The weights of a run that loads a log as much as any can. -/
def worst (capacity limit longest : Nat) : List Nat :=
  (List.replicate (limit - 1) (filling capacity longest)).flatten ++ List.replicate (capacity - 1) 1

theorem load_filling (room : 0 < capacity) :
    load id (filling capacity longest) = capacity + longest - 1 := by
  have single : load id [longest] = longest := by simp [load]
  unfold filling
  rw [load_append, load_replicate, single]
  omega

theorem pushes_worst (positive : 0 < limit) (room : 0 < capacity) (heavy : 0 < longest) :
    pushes id capacity limit ⟨0, [], []⟩ (worst capacity limit longest) =
      ⟨0, List.replicate (limit - 1) (filling capacity longest),
        List.replicate (capacity - 1) 1⟩ := by
  unfold worst
  rw [pushes_append, pushes_fillings room heavy (by omega),
    pushes_fits (by rw [List.nil_append, load_replicate]; omega)]
  rfl

theorem total_worst (positive : 0 < limit) (room : 0 < capacity) (heavy : 0 < longest) :
    total id (pushes id capacity limit ⟨0, [], []⟩ (worst capacity limit longest)) + 1 =
      (limit - 1) * (capacity + longest - 1) + capacity := by
  rw [pushes_worst positive room heavy, total_eq]
  simp only [load_replicate, List.map_replicate, load_filling room, List.sum_replicate_nat]
  omega

/-- No file is dropped on the way. -/
theorem index_worst (positive : 0 < limit) (room : 0 < capacity) (heavy : 0 < longest) :
    (pushes id capacity limit ⟨0, [], []⟩ (worst capacity limit longest)).index = limit - 1 := by
  rw [pushes_worst positive room heavy]
  simp [index]

theorem worst_light (heavy : 0 < longest) : ∀ weight ∈ worst capacity limit longest,
    0 < weight ∧ weight ≤ longest := by
  intro weight member
  have cases : weight = 1 ∨ weight = longest := by
    simp only [worst, filling, List.mem_append, List.mem_flatten, List.mem_replicate] at member
    grind
  cases cases with
  | inl light => omega
  | inr long => omega

end RotatingLog

end TboxFramework

import TboxFramework.Library.SortedMap
import TboxFramework.Store.Paths
import Mathlib.Data.List.Induction

/-!
# The flush policy

Which keys are dirty and whether it is time to write them. Every call holds the mutex of
the policy, so calls happen one after the other; time points are nanoseconds of
`std::chrono::steady_clock`, which `shouldFlush` reads anew for every entry it checks.
-/

namespace TboxFramework.Store

open SortedMap (assign lookup remove Sorted)

set_option autoImplicit false

structure FlushPolicyConfig where
  enableDebounce : Bool := true
  debounceMs : UInt32 := 1000
  maxDirtyCount : UInt32 := 10

structure DirtyEntry where
  dirty : Bool
  lastDirtyTime : Int

structure FlushPolicy where
  config : FlushPolicyConfig
  dirtyEntries : List (Bytes × DirtyEntry)

namespace FlushPolicy

def make (config : FlushPolicyConfig) : FlushPolicy := { config, dirtyEntries := [] }

/-- `operator[]` makes the entry if there is none, and both of its fields are set. -/
def markDirty (policy : FlushPolicy) (now : Int) (key : Bytes) : FlushPolicy :=
  let entry := { dirty := true, lastDirtyTime := now }
  { policy with dirtyEntries := assign key entry policy.dirtyEntries }

def clearDirty (policy : FlushPolicy) (key : Bytes) : FlushPolicy :=
  { policy with dirtyEntries := remove key policy.dirtyEntries }

def isDirty (policy : FlushPolicy) (key : Bytes) : Bool :=
  match lookup key policy.dirtyEntries with
  | some entry => entry.dirty
  | none => false

/-- `duration_cast` to milliseconds cuts towards zero. -/
def checkDebounce (config : FlushPolicyConfig) (now : Int) (entry : DirtyEntry) : Bool :=
  (config.debounceMs.toNat : Int) ≤ (now - entry.lastDirtyTime).tdiv 1000000

/-- The loop of the debounce check; the clock is read at each dirty entry. -/
def anyDebounced (config : FlushPolicyConfig) (readings : Nat → Int) (reading : Nat) :
    List (Bytes × DirtyEntry) → Bool
  | [] => false
  | (_, entry) :: rest =>
      if entry.dirty then
        if checkDebounce config (readings reading) entry then true
        else anyDebounced config readings (reading + 1) rest
      else anyDebounced config readings reading rest

def shouldFlush (policy : FlushPolicy) (readings : Nat → Int) : Bool :=
  if policy.dirtyEntries.isEmpty then false
  else if policy.config.maxDirtyCount.toNat ≤
      policy.dirtyEntries.countP (fun pair => pair.2.dirty) then true
  else if policy.config.enableDebounce then
    anyDebounced policy.config readings 0 policy.dirtyEntries
  else false

def getDirtyKeys (policy : FlushPolicy) : List Bytes :=
  (policy.dirtyEntries.filter fun pair => pair.2.dirty).map Prod.fst

def reset (policy : FlushPolicy) : FlushPolicy := { policy with dirtyEntries := [] }

end FlushPolicy

inductive PolicyCall
  | markDirty (now : Int) (key : Bytes)
  | clearDirty (key : Bytes)
  | reset

namespace FlushPolicy

def after (policy : FlushPolicy) : PolicyCall → FlushPolicy
  | .markDirty now key => policy.markDirty now key
  | .clearDirty key => policy.clearDirty key
  | .reset => policy.reset

/-- The policy after calls, in their order. -/
def afterAll (config : FlushPolicyConfig) (calls : List PolicyCall) : FlushPolicy :=
  calls.foldl after (make config)

end FlushPolicy

/-- When a key was marked last, unless it was cleared since. -/
def PolicyCall.note (key : Bytes) (mark : Option Int) : PolicyCall → Option Int
  | .markDirty now other => if other = key then some now else mark
  | .clearDirty other => if other = key then none else mark
  | .reset => none

def lastMark (calls : List PolicyCall) (key : Bytes) : Option Int :=
  calls.foldl (PolicyCall.note key) none

/-- The debounce time of a key is over: it was marked and not touched since. -/
structure Rested (config : FlushPolicyConfig) (calls : List PolicyCall) (now : Int)
    (key : Bytes) : Prop where
  enabled : config.enableDebounce = true
  marked : ∃ mark, lastMark calls key = some mark ∧ mark + config.debounceMs.toNat * 1000000 ≤ now

/-- The clock does not run backwards: it shows no time before a call. -/
def NotBefore (calls : List PolicyCall) (readings : Nat → Int) : Prop :=
  ∀ now key, PolicyCall.markDirty now key ∈ calls → ∀ reading, now ≤ readings reading

/-- What a policy answers, told from the calls made. -/
structure PolicyTold (config : FlushPolicyConfig) (calls : List PolicyCall)
    (policy : FlushPolicy) : Prop where
  dirty : ∀ key, policy.isDirty key = (lastMark calls key).isSome
  ordered : policy.getDirtyKeys.Pairwise (· < ·)
  listed : ∀ key, key ∈ policy.getDirtyKeys ↔ (lastMark calls key).isSome = true
  due : ∀ readings, NotBefore calls readings →
    (policy.shouldFlush readings = true ↔ policy.getDirtyKeys ≠ [] ∧
      (config.maxDirtyCount.toNat ≤ policy.getDirtyKeys.length ∨
        ∃ place key, policy.getDirtyKeys[place]? = some key ∧
          Rested config calls (readings place) key))
  lasting : ∀ readings later, NotBefore calls readings → (∀ place, readings place ≤ later place) →
    policy.shouldFlush readings = true → policy.shouldFlush later = true
  flushed : ∀ readings,
    (policy.getDirtyKeys.foldl FlushPolicy.clearDirty policy).shouldFlush readings = false

/-- The entries are the marks of the calls. -/
structure Records (config : FlushPolicyConfig) (calls : List PolicyCall)
    (policy : FlushPolicy) : Prop where
  config : policy.config = config
  sorted : Sorted policy.dirtyEntries
  marks : ∀ key, lookup key policy.dirtyEntries =
    (lastMark calls key).map fun mark => { dirty := true, lastDirtyTime := mark }

variable {config : FlushPolicyConfig} {calls : List PolicyCall} {policy : FlushPolicy}

theorem last_mark_append (calls : List PolicyCall) (call : PolicyCall) (key : Bytes) :
    lastMark (calls ++ [call]) key = PolicyCall.note key (lastMark calls key) call := by
  unfold lastMark
  rw [List.foldl_append]
  rfl

/-- The last mark is one of the calls. -/
theorem marked_of_last_mark {key : Bytes} {mark : Int} (marked : lastMark calls key = some mark) :
    PolicyCall.markDirty mark key ∈ calls := by
  induction calls using List.reverseRecOn with
  | nil => cases marked
  | append_singleton calls call induction =>
      rw [last_mark_append] at marked
      rw [List.mem_append, List.mem_singleton]
      cases call with
      | markDirty now other =>
          change (if other = key then some now else lastMark calls key) = _ at marked
          by_cases same : other = key
          · rw [if_pos same, Option.some_inj] at marked
            rw [same, marked]
            exact Or.inr rfl
          · rw [if_neg same] at marked
            exact Or.inl (induction marked)
      | clearDirty other =>
          change (if other = key then none else lastMark calls key) = _ at marked
          by_cases same : other = key
          · rw [if_pos same] at marked
            cases marked
          · rw [if_neg same] at marked
            exact Or.inl (induction marked)
      | reset => cases marked

theorem NotBefore.at_mark {readings : Nat → Int} (forward : NotBefore calls readings)
    {key : Bytes} {mark : Int} (marked : lastMark calls key = some mark) (reading : Nat) :
    mark ≤ readings reading :=
  forward mark key (marked_of_last_mark marked) reading

theorem records_step (records : Records config calls policy) (call : PolicyCall) :
    Records config (calls ++ [call]) (policy.after call) := by
  cases call with
  | markDirty now key =>
      refine ⟨records.config, SortedMap.assign_sorted _ _ records.sorted, ?_⟩
      intro other
      change lookup other (assign key _ policy.dirtyEntries) = _
      rw [SortedMap.lookup_assign, last_mark_append, records.marks]
      change _ = Option.map _ (if key = other then some now else lastMark calls other)
      by_cases same : key = other
      · rw [if_pos same, if_pos same]
        rfl
      · rw [if_neg same, if_neg same]
  | clearDirty key =>
      refine ⟨records.config, SortedMap.remove_sorted _ records.sorted, ?_⟩
      intro other
      change lookup other (remove key policy.dirtyEntries) = _
      rw [SortedMap.lookup_remove, last_mark_append, records.marks]
      change _ = Option.map _ (if key = other then none else lastMark calls other)
      by_cases same : key = other
      · rw [if_pos same, if_pos same]
        rfl
      · rw [if_neg same, if_neg same]
  | reset =>
      refine ⟨records.config, List.Pairwise.nil, ?_⟩
      intro other
      rw [last_mark_append]
      rfl

theorem records_after (config : FlushPolicyConfig) (calls : List PolicyCall) :
    Records config calls (FlushPolicy.afterAll config calls) := by
  induction calls using List.reverseRecOn with
  | nil => exact ⟨rfl, List.Pairwise.nil, fun _ => rfl⟩
  | append_singleton calls call induction =>
      unfold FlushPolicy.afterAll at induction ⊢
      rw [List.foldl_append]
      exact records_step induction call

/-! ## The dirty keys -/

namespace Records

/-- No entry is kept that is not dirty. -/
theorem mem_iff (records : Records config calls policy) (key : Bytes) (entry : DirtyEntry) :
    (key, entry) ∈ policy.dirtyEntries ↔
      entry.dirty = true ∧ lastMark calls key = some entry.lastDirtyTime := by
  rw [SortedMap.mem_iff_lookup records.sorted, records.marks, Option.map_eq_some_iff]
  constructor
  · rintro ⟨mark, marked, rfl⟩
    exact ⟨rfl, marked⟩
  · rintro ⟨dirty, marked⟩
    refine ⟨entry.lastDirtyTime, marked, ?_⟩
    rw [← dirty]

theorem keys_eq (records : Records config calls policy) :
    policy.getDirtyKeys = policy.dirtyEntries.map Prod.fst := by
  unfold FlushPolicy.getDirtyKeys
  rw [List.filter_eq_self.mpr]
  rintro ⟨key, entry⟩ member
  exact ((records.mem_iff key entry).mp member).1

theorem dirty_iff (records : Records config calls policy) (key : Bytes) :
    policy.isDirty key = (lastMark calls key).isSome := by
  unfold FlushPolicy.isDirty
  rw [records.marks]
  cases lastMark calls key <;> rfl

theorem keys_ordered (records : Records config calls policy) :
    policy.getDirtyKeys.Pairwise (· < ·) := by
  rw [records.keys_eq]
  exact List.pairwise_map.mpr records.sorted

theorem mem_keys_iff (records : Records config calls policy) (key : Bytes) :
    key ∈ policy.getDirtyKeys ↔ (lastMark calls key).isSome = true := by
  rw [records.keys_eq, List.mem_map, Option.isSome_iff_exists]
  constructor
  · rintro ⟨⟨_, entry⟩, member, rfl⟩
    exact ⟨_, ((records.mem_iff _ entry).mp member).2⟩
  · rintro ⟨mark, marked⟩
    exact ⟨(key, { dirty := true, lastDirtyTime := mark }),
      (records.mem_iff key _).mpr ⟨rfl, marked⟩, rfl⟩

end Records

/-! ## The time to write -/

theorem check_debounce_iff {now : Int} {entry : DirtyEntry} (forward : entry.lastDirtyTime ≤ now) :
    FlushPolicy.checkDebounce config now entry = true ↔
      entry.lastDirtyTime + config.debounceMs.toNat * 1000000 ≤ now := by
  unfold FlushPolicy.checkDebounce
  rw [decide_eq_true_iff, Int.tdiv_eq_ediv_of_nonneg (by omega)]
  omega

theorem any_debounced_iff {readings : Nat → Int} {reading : Nat}
    {entries : List (Bytes × DirtyEntry)} (dirty : ∀ pair ∈ entries, pair.2.dirty = true) :
    FlushPolicy.anyDebounced config readings reading entries = true ↔
      ∃ (place : Nat) (pair : Bytes × DirtyEntry), entries[place]? = some pair ∧
        FlushPolicy.checkDebounce config (readings (reading + place)) pair.2 = true := by
  induction entries generalizing reading with
  | nil => simp [FlushPolicy.anyDebounced]
  | cons pair rest induction =>
      rw [List.forall_mem_cons] at dirty
      have later := @induction (reading + 1) dirty.2
      unfold FlushPolicy.anyDebounced
      rw [if_pos dirty.1]
      by_cases checked : FlushPolicy.checkDebounce config (readings reading) pair.2 = true
      · rw [if_pos checked]
        exact iff_of_true rfl ⟨0, pair, rfl, checked⟩
      · rw [if_neg checked, later]
        constructor
        · rintro ⟨place, found, known, done⟩
          refine ⟨place + 1, found, known, ?_⟩
          rw [← Nat.add_assoc, Nat.add_right_comm]
          exact done
        · rintro ⟨place, found, known, done⟩
          cases place with
          | zero =>
              rw [List.getElem?_cons_zero, Option.some_inj] at known
              rw [← known] at done
              exact absurd done checked
          | succ place =>
              refine ⟨place, found, known, ?_⟩
              rw [Nat.add_right_comm, Nat.add_assoc]
              exact done

namespace Records

/-- At a place of the entries the check tells whether the key there has rested. -/
theorem checked_iff (records : Records config calls policy) {readings : Nat → Int}
    (forward : NotBefore calls readings) (enabled : config.enableDebounce = true) (place : Nat) :
    (∃ pair, policy.dirtyEntries[place]? = some pair ∧
        FlushPolicy.checkDebounce config (readings place) pair.2 = true) ↔
      ∃ key, policy.getDirtyKeys[place]? = some key ∧
        Rested config calls (readings place) key := by
  rw [records.keys_eq, List.getElem?_map]
  cases known : policy.dirtyEntries[place]? with
  | none => simp
  | some pair =>
      have marked := ((records.mem_iff pair.1 pair.2).mp (List.mem_of_getElem? known)).2
      have bound := forward.at_mark marked place
      constructor
      · rintro ⟨_, ⟨⟩, checked⟩
        refine ⟨pair.1, rfl, enabled, pair.2.lastDirtyTime, marked, ?_⟩
        exact (check_debounce_iff bound).mp checked
      · rintro ⟨_, ⟨⟩, rested⟩
        obtain ⟨mark, found, past⟩ := rested.marked
        rw [marked, Option.some_inj] at found
        rw [← found] at past
        exact ⟨pair, rfl, (check_debounce_iff bound).mpr past⟩

theorem due_iff (records : Records config calls policy) {readings : Nat → Int}
    (forward : NotBefore calls readings) :
    policy.shouldFlush readings = true ↔ policy.getDirtyKeys ≠ [] ∧
      (config.maxDirtyCount.toNat ≤ policy.getDirtyKeys.length ∨
        ∃ place key, policy.getDirtyKeys[place]? = some key ∧
          Rested config calls (readings place) key) := by
  have count : policy.dirtyEntries.countP (fun pair => pair.2.dirty) =
      policy.getDirtyKeys.length := by
    rw [FlushPolicy.getDirtyKeys, List.length_map, List.countP_eq_length_filter]
  have dirty : ∀ pair ∈ policy.dirtyEntries, pair.2.dirty = true :=
    fun pair member => ((records.mem_iff pair.1 pair.2).mp member).1
  have present : policy.dirtyEntries.isEmpty = true ↔ policy.getDirtyKeys = [] := by
    rw [records.keys_eq, List.map_eq_nil_iff, List.isEmpty_iff]
  unfold FlushPolicy.shouldFlush
  rw [records.config, count]
  by_cases empty : policy.dirtyEntries.isEmpty = true
  · rw [if_pos empty]
    simp [present.mp empty]
  · rw [if_neg empty]
    by_cases many : config.maxDirtyCount.toNat ≤ policy.getDirtyKeys.length
    · rw [if_pos many]
      exact iff_of_true rfl ⟨fun none => empty (present.mpr none), Or.inl many⟩
    · rw [if_neg many]
      by_cases enabled : config.enableDebounce = true
      · rw [if_pos enabled, any_debounced_iff dirty]
        simp only [Nat.zero_add, records.checked_iff forward enabled]
        constructor
        · intro rested
          exact ⟨fun none => empty (present.mpr none), Or.inr rested⟩
        · rintro ⟨_, full | rested⟩
          · exact absurd full many
          · exact rested
      · rw [if_neg enabled]
        constructor
        · intro impossible
          cases impossible
        · rintro ⟨_, full | ⟨_, _, _, rested⟩⟩
          · exact absurd full many
          · exact absurd rested.enabled enabled

/-- A policy that is due stays due until the next call. -/
theorem stays_due (records : Records config calls policy) {readings later : Nat → Int}
    (forward : NotBefore calls readings) (passed : ∀ place, readings place ≤ later place)
    (due : policy.shouldFlush readings = true) : policy.shouldFlush later = true := by
  have onward : NotBefore calls later := fun now key called reading =>
    Int.le_trans (forward now key called reading) (passed reading)
  rw [records.due_iff forward] at due
  rw [records.due_iff onward]
  refine ⟨due.1, due.2.imp_right ?_⟩
  rintro ⟨place, key, known, enabled, mark, marked, past⟩
  exact ⟨place, key, known, enabled, mark, marked, Int.le_trans past (passed place)⟩

end Records

/-- Clearing keys leaves the entries of the others. -/
theorem clear_keys (keys : List Bytes) (policy : FlushPolicy) (pair : Bytes × DirtyEntry) :
    pair ∈ (keys.foldl FlushPolicy.clearDirty policy).dirtyEntries ↔
      pair ∈ policy.dirtyEntries ∧ pair.1 ∉ keys := by
  induction keys generalizing policy with
  | nil => simp
  | cons key rest induction =>
      rw [List.foldl_cons, induction]
      unfold FlushPolicy.clearDirty remove
      simp only [List.mem_filter, List.mem_cons, not_or, decide_eq_true_eq, ne_eq, and_assoc]

theorem Records.flushed (records : Records config calls policy) (readings : Nat → Int) :
    (policy.getDirtyKeys.foldl FlushPolicy.clearDirty policy).shouldFlush readings = false := by
  have nothing : (policy.getDirtyKeys.foldl FlushPolicy.clearDirty policy).dirtyEntries = [] := by
    rw [List.eq_nil_iff_forall_not_mem]
    intro pair member
    rw [clear_keys, records.keys_eq] at member
    exact member.2 (List.mem_map_of_mem member.1)
  unfold FlushPolicy.shouldFlush
  rw [nothing]
  rfl

/-- After any calls a policy tells the keys marked since they were last cleared, and it is
due when there are enough of them or one was left alone for the debounce time. -/
theorem flush_policy_tells_the_marks (config : FlushPolicyConfig) (calls : List PolicyCall) :
    PolicyTold config calls (FlushPolicy.afterAll config calls) := by
  have records := records_after config calls
  exact
    { dirty := records.dirty_iff
      ordered := records.keys_ordered
      listed := records.mem_keys_iff
      due := fun _ forward => records.due_iff forward
      lasting := fun _ _ forward passed => records.stays_due forward passed
      flushed := records.flushed }

end TboxFramework.Store

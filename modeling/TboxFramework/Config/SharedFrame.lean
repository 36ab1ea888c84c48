import TboxFramework.Config.SharedMerge

/-!
# Paths that an override leaves alone

A path that the override does not touch shows in the merged document what it
showed in the base, as long as it sees none of the nodes that the override changes
through another path.
-/

namespace TboxFramework.Config

open TboxFramework.Store (Bytes text)

set_option autoImplicit false

namespace SharedGraph

/-- The override neither defines the path nor cuts it off with a value that is no map. -/
structure LeavesAlone (override : Yaml) (path : List Bytes) : Prop where
  undefined : override.at? path = none
  uncut : ∀ front value, front <+: path → front ≠ path → override.at? front = some value →
    value.isMap = true

/-- No change of the override is seen at the path: neither on its way, where another path has
led to the same node, nor below it. -/
structure SeesNoChange (start : SharedGraph) (root : Nat) (override : Yaml) (path : List Bytes) :
    Prop where
  way : ∀ other node, Replaces start root override other node → ∀ front, front <+: path →
    start.at? front root = some node → front = other
  branch : ∀ other node key, Adds start root override other node key → ∀ front,
    front ++ [key] <+: path → start.at? front root = some node → front = other
  below : ∀ node, start.at? path root = some node → ∀ other changed,
    (Replaces start root override other changed ∨
      ∃ key, Adds start root override other changed key) → ¬start.Reaches node changed

variable {start graph : SharedGraph} {root : Nat} {override : Yaml} {home : Home}
  {path : List Bytes}

theorem merging_start (closed : start.Closed) :
    Merging start root override (fun _ => none) start where
  next := Nat.le_refl _
  closed := closed
  old := fun _ _ => rfl
  known := by
    intro node anchor way absurd
    cases absurd
  sourced := by
    intro node anchor way absurd
    cases absurd
  contents := fun _ _ => Or.inl (Or.inl rfl)
  homed := by
    intro node anchor way absurd
    cases absurd

theorem at_lt (closed : start.Closed) {node target : Nat} (known : node < start.next)
    (reached : start.at? path node = some target) : target < start.next := by
  induction path generalizing node with
  | nil =>
      cases reached
      exact known
  | cons key rest ih =>
      cases kind : (start.content node).isMap with
      | false => cases (at_cons_of_not_map kind key rest).symm.trans reached
      | true =>
          obtain ⟨slots, data⟩ := is_map_iff.mp kind
          rw [at_cons data] at reached
          obtain ⟨child, found, later⟩ := Option.bind_eq_some_iff.mp reached
          refine ih (closed node known child ?_) later
          rw [data]
          exact List.mem_map_of_mem (mem_of_find_slot found)

theorem reaches_lt (closed : start.Closed) {node target : Nat} (known : node < start.next)
    (reached : start.Reaches node target) : target < start.next := by
  induction reached with
  | refl => exact known
  | step edge _ ih => exact ih (closed _ known _ edge)

/-- Below a node of the merge every key path is its home continued. -/
theorem homed_walk (merging : Merging start root override home graph) {node target anchor : Nat}
    {above below : List Bytes} (held : home node = some (anchor, above))
    (reached : graph.at? below node = some target) :
    home target = some (anchor, above ++ below) := by
  induction below generalizing node above with
  | nil =>
      cases reached
      rw [List.append_nil]
      exact held
  | cons key rest ih =>
      cases kind : (graph.content node).isMap with
      | false => cases (at_cons_of_not_map kind key rest).symm.trans reached
      | true =>
          obtain ⟨slots, data⟩ := is_map_iff.mp kind
          rw [at_cons data] at reached
          obtain ⟨child, found, later⟩ := Option.bind_eq_some_iff.mp reached
          have next := homed_child (merging.homed node anchor above held slots data) found
          have final := ih next later
          rw [List.append_assoc] at final
          exact final

theorem at_above {front back : List Bytes} (defined : (override.at? (front ++ back)).isSome) :
    (override.at? front).isSome := by
  obtain ⟨value, found⟩ := Option.isSome_iff_exists.mp defined
  rw [Yaml.at_append] at found
  obtain ⟨middle, there, -⟩ := Option.bind_eq_some_iff.mp found
  rw [there]
  rfl

/-- What hangs at the end of an undefined path has been led there by another path. -/
theorem led_by_other (alone : LeavesAlone override path)
    (merging : Merging start root override home graph) {front rest : List Bytes} {key : Bytes}
    (split : front ++ key :: rest = path) {node target : Nat}
    (placed : home target = some (node, key :: rest)) :
    ∃ other, start.at? other root = some node ∧ (override.at? (other ++ [key])).isSome ∧
      front ≠ other := by
  obtain ⟨other, rooted, defined⟩ := merging.sourced target node (key :: rest) placed
  refine ⟨other, rooted, ?_, ?_⟩
  · have longer : other ++ key :: rest = (other ++ [key]) ++ rest := by simp
    rw [longer] at defined
    exact at_above defined
  · intro same
    rw [← same, split, alone.undefined] at defined
    cases defined

section Untouched

variable (closed : start.Closed) (known : root < start.next) (alone : LeavesAlone override path)
  (unseen : SeesNoChange start root override path)
include alone unseen

/-- A map on the way of the path and the node at its end are not replaced. -/
theorem way_not_replaced {front : List Bytes} {node : Nat} (onWay : front <+: path)
    (reached : start.at? front root = some node)
    (enters : front ≠ path → (start.content node).isMap = true) :
    ¬∃ other, Replaces start root override other node := by
  intro ⟨other, replaced⟩
  obtain ⟨value, placed, differs⟩ := replaced.2
  obtain rfl := unseen.way other node replaced front onWay reached
  by_cases whole : front = path
  · rw [whole, alone.undefined] at placed
    cases placed
  · rw [enters whole, alone.uncut front value onWay whole placed] at differs
    cases differs

include closed known

/-- A map on the way still leads where it led. -/
theorem way_keeps_slots (merging : Merging start root override home graph) {front rest : List Bytes}
    {key : Bytes} (split : front ++ key :: rest = path) {node child : Nat}
    (reached : start.at? front root = some node) {slots : List (Yaml × Nat)}
    (data : start.content node = .map slots) (found : Memory.findSlot key slots = some child) :
    ∃ more, graph.content node = .map more ∧ Memory.findSlot key more = some child := by
  have kept := way_not_replaced alone unseen ⟨key :: rest, split⟩ reached (by
    intro _
    rw [data]
    rfl)
  rcases merging.contents node (at_lt closed known reached) with
    (same | ⟨first, extra, was, grown, -, -⟩) | ⟨replaced, -⟩
  · exact ⟨slots, same.trans data, found⟩
  · cases data.symm.trans was
    exact ⟨slots ++ extra, grown, by rw [find_slot_append, found]; rfl⟩
  · exact absurd replaced kept

theorem walk_kept (merging : Merging start root override home graph) {front back : List Bytes}
    (split : front ++ back = path) {node target : Nat} (reached : start.at? front root = some node)
    (further : start.at? back node = some target) : graph.at? back node = some target := by
  induction back generalizing front node with
  | nil => exact further
  | cons key rest ih =>
      cases kind : (start.content node).isMap with
      | false => cases (at_cons_of_not_map kind key rest).symm.trans further
      | true =>
          obtain ⟨slots, data⟩ := is_map_iff.mp kind
          rw [at_cons data] at further
          obtain ⟨child, found, later⟩ := Option.bind_eq_some_iff.mp further
          obtain ⟨more, grown, still⟩ :=
            way_keeps_slots closed known alone unseen merging split reached data found
          rw [at_cons grown, still]
          exact ih (by rw [List.append_assoc]; exact split) (at_extend reached data found) later

/-- A path that ends short in the base is not completed. -/
theorem walk_undefined (merging : Merging start root override home graph) {front back : List Bytes}
    (split : front ++ back = path) {node : Nat} (reached : start.at? front root = some node)
    (short : start.at? back node = none) : graph.at? back node = none := by
  induction back generalizing front node with
  | nil => cases short
  | cons key rest ih =>
      have old := at_lt closed known reached
      cases kind : (start.content node).isMap with
      | true =>
          obtain ⟨slots, data⟩ := is_map_iff.mp kind
          rw [at_cons data] at short
          cases found : Memory.findSlot key slots with
          | some child =>
              rw [found] at short
              obtain ⟨more, grown, still⟩ :=
                way_keeps_slots closed known alone unseen merging split reached data found
              rw [at_cons grown, still]
              exact ih (by rw [List.append_assoc]; exact split) (at_extend reached data found) short
          | none =>
              have kept := way_not_replaced alone unseen ⟨key :: rest, split⟩ reached fun _ => kind
              rcases merging.contents node old with
                (same | ⟨first, extra, was, grown, homed, -⟩) | ⟨replaced, -⟩
              · rw [at_cons (same.trans data), found]
                rfl
              · cases data.symm.trans was
                apply Option.eq_none_iff_forall_ne_some.mpr
                intro target there
                rw [at_cons grown, find_slot_append, found, Option.none_or] at there
                obtain ⟨child, new, later⟩ := Option.bind_eq_some_iff.mp there
                obtain ⟨other, rooted, defined, apart⟩ := led_by_other alone merging split
                  (homed_walk merging (homed_child homed new) later)
                have added : Adds start root override other node key :=
                  ⟨rooted, ⟨slots, data, found⟩, defined⟩
                apply apart
                apply unseen.branch other node key added front _ reached
                exact ⟨rest, by rw [List.append_assoc]; exact split⟩
              · exact absurd replaced kept
      | false =>
          rcases merging.contents node old with
            (same | ⟨first, extra, was, -, -, -⟩) | ⟨-, homed⟩
          · rw [← same] at kind
            exact at_cons_of_not_map kind key rest
          · rw [was] at kind
            cases kind
          · apply Option.eq_none_iff_forall_ne_some.mpr
            intro target there
            cases now : (graph.content node).isMap with
            | false => cases (at_cons_of_not_map now key rest).symm.trans there
            | true =>
                obtain ⟨slots, data⟩ := is_map_iff.mp now
                rw [at_cons data] at there
                obtain ⟨child, new, later⟩ := Option.bind_eq_some_iff.mp there
                obtain ⟨other, rooted, defined, apart⟩ := led_by_other alone merging split
                  (homed_walk merging (homed_child (homed slots data) new) later)
                obtain ⟨value, placed⟩ := Option.isSome_iff_exists.mp (at_above defined)
                have replaced : Replaces start root override other node :=
                  ⟨rooted, value, placed, by rw [kind, Bool.false_and]⟩
                exact apart (unseen.way other node replaced front ⟨key :: rest, split⟩ reached)

end Untouched

/-- The value at the path is the one of the base. -/
theorem value_kept (closed : start.Closed) (known : root < start.next)
    (unseen : SeesNoChange start root override path)
    (merging : Merging start root override home graph) {node : Nat}
    (reached : start.at? path root = some node) (value : Yaml) :
    Shows graph value node ↔ Shows start value node := by
  apply shows_congr
  intro place below
  have unchanged := unseen.below node reached
  rcases merging.contents place (reaches_lt closed (at_lt closed known reached) below) with
    (same | ⟨slots, extra, was, grown, -, adds⟩) | ⟨⟨other, replaced⟩, -⟩
  · exact same
  · cases extra with
    | nil => rw [grown, was, List.append_nil]
    | cons slot rest =>
        obtain ⟨name, other, -, added⟩ := adds slot (List.mem_cons_self ..)
        exact absurd below (unchanged other place (Or.inr ⟨name, added⟩))
  · exact absurd below (unchanged other place (Or.inl replaced))

end SharedGraph

end TboxFramework.Config

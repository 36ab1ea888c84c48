import TboxFramework.Config.SharedNodes
import TboxFramework.Config.LayeredMerge

/-!
# Merging into a document with anchors

The merger writes to the nodes that the override's paths lead to. A path that the
override leaves alone keeps its value unless it sees one of these nodes as well.
-/

namespace TboxFramework.Config

open TboxFramework.Store (Bytes text)

set_option autoImplicit false

namespace SharedGraph

/-! ## What an override does to a document -/

section Changes

variable (start : SharedGraph) (root : Nat) (override : Yaml)

/-- The override gives the node at the path another content. -/
def Replaces (path : List Bytes) (node : Nat) : Prop :=
  start.at? path root = some node ∧
    ∃ value, override.at? path = some value ∧
      ((start.content node).isMap && value.isMap) = false

/-- The override gives the map at the path a key that it does not have. -/
def Adds (path : List Bytes) (node : Nat) (key : Bytes) : Prop :=
  start.at? path root = some node ∧
    (∃ slots, start.content node = .map slots ∧ Memory.findSlot key slots = none) ∧
    (override.at? (path ++ [key])).isSome

/-! ## The invariant of the merge -/

/-- Where a node made by the merge hangs: below which old node, and under which keys. -/
abbrev Home := Nat → Option (Nat × List Bytes)

/-- The slots lead to nodes that hang one key further down. -/
def HomedSlots (home : Home) (anchor : Nat) (path : List Bytes) (slots : List (Yaml × Nat)) :
    Prop :=
  ∀ slot ∈ slots, ∃ name, slot.1 = .scalar name ∧ home slot.2 = some (anchor, path ++ [name])

def Homed (home : Home) (anchor : Nat) (path : List Bytes) (content : SharedNode) : Prop :=
  ∀ slots, content = .map slots → HomedSlots home anchor path slots

/-- The content at the start, with the keys that the override adds. -/
def Extended (home : Home) (node : Nat) (content : SharedNode) : Prop :=
  content = start.content node ∨
    ∃ slots extra, start.content node = .map slots ∧ content = .map (slots ++ extra) ∧
      HomedSlots home node [] extra ∧
      ∀ slot ∈ extra, ∃ name path, slot.1 = .scalar name ∧ Adds start root override path node name

structure Merging (home : Home) (graph : SharedGraph) : Prop where
  next : start.next ≤ graph.next
  closed : graph.Closed
  old : ∀ node < start.next, home node = none
  known : ∀ node anchor path, home node = some (anchor, path) → node < graph.next
  sourced : ∀ node anchor path, home node = some (anchor, path) →
    ∃ front, start.at? front root = some anchor ∧ (override.at? (front ++ path)).isSome
  contents : ∀ node < start.next, Extended start root override home node (graph.content node) ∨
    (∃ path, Replaces start root override path node) ∧ Homed home node [] (graph.content node)
  homed : ∀ node anchor path, home node = some (anchor, path) →
    Homed home anchor path (graph.content node)

end Changes

variable {start : SharedGraph} {root : Nat} {override : Yaml}

/-- Two graphs of a merge: the later one has more nodes, at home where they were. -/
structure Grew (home : Home) (graph : SharedGraph) (later : Home) (after : SharedGraph) : Prop where
  next : graph.next ≤ after.next
  homes : ∀ node < graph.next, later node = home node
  contents : ∀ node < graph.next, after.content node = graph.content node

theorem Grew.refl (home : Home) (graph : SharedGraph) : Grew home graph home graph :=
  ⟨Nat.le_refl _, fun _ _ => rfl, fun _ _ => rfl⟩

theorem Grew.trans {home middle later : Home} {graph between after : SharedGraph}
    (first : Grew home graph middle between) (second : Grew middle between later after) :
    Grew home graph later after where
  next := first.next.trans second.next
  homes := fun node known => (second.homes node (known.trans_le first.next)).trans
    (first.homes node known)
  contents := fun node known => (second.contents node (known.trans_le first.next)).trans
    (first.contents node known)

theorem homed_slots_congr {home later : Home} {anchor : Nat} {path : List Bytes}
    {slots : List (Yaml × Nat)} (same : ∀ slot ∈ slots, later slot.2 = home slot.2)
    (homed : HomedSlots home anchor path slots) : HomedSlots later anchor path slots := by
  intro slot member
  obtain ⟨name, named, placed⟩ := homed slot member
  exact ⟨name, named, (same slot member).trans placed⟩

theorem homed_congr {home later : Home} {anchor : Nat} {path : List Bytes} {content : SharedNode}
    (same : ∀ child ∈ content.children, later child = home child)
    (homed : Homed home anchor path content) : Homed later anchor path content := by
  intro slots data
  apply homed_slots_congr _ (homed slots data)
  intro slot member
  apply same
  rw [data]
  exact List.mem_map_of_mem member

theorem extended_congr {home later : Home} {node : Nat} {content : SharedNode}
    (same : ∀ child ∈ content.children, later child = home child)
    (extended : Extended start root override home node content) :
    Extended start root override later node content := by
  rcases extended with kept | ⟨slots, extra, held, data, homed, added⟩
  · exact Or.inl kept
  · refine Or.inr ⟨slots, extra, held, data, homed_slots_congr ?_ homed, added⟩
    intro slot member
    apply same
    rw [data]
    exact List.mem_map_of_mem (List.mem_append_right _ member)

/-- A new node, with a home or without one. -/
theorem merging_alloc {home : Home} {graph : SharedGraph}
    (merging : Merging start root override home graph) (content : SharedNode)
    (inside : ∀ child ∈ content.children, child < graph.next) (place : Option (Nat × List Bytes))
    (sourced : ∀ anchor path, place = some (anchor, path) →
      (∃ front, start.at? front root = some anchor ∧ (override.at? (front ++ path)).isSome) ∧
        Homed home anchor path content) :
    Merging start root override (Function.update home graph.next place) (graph.alloc content).1 ∧
      Grew home graph (Function.update home graph.next place) (graph.alloc content).1 := by
  have homes : ∀ node < graph.next, Function.update home graph.next place node = home node :=
    fun node known => Function.update_of_ne (Nat.ne_of_lt known) ..
  have contents : ∀ node < graph.next,
      (graph.alloc content).1.content node = graph.content node :=
    fun node known => Function.update_of_ne (Nat.ne_of_lt known) ..
  have fresh : (graph.alloc content).1.content graph.next = content :=
    Function.update_self ..
  have grew : Grew home graph (Function.update home graph.next place) (graph.alloc content).1 :=
    ⟨Nat.le_succ _, homes, contents⟩
  have keptHomes : ∀ node < graph.next, ∀ child ∈ (graph.content node).children,
      Function.update home graph.next place child = home child :=
    fun node known child member => homes child (merging.closed node known child member)
  refine ⟨⟨merging.next.trans (Nat.le_succ _), ?_, ?_, ?_, ?_, ?_, ?_⟩, grew⟩
  · intro node known child member
    change child < graph.next + 1
    rcases Nat.lt_succ_iff_lt_or_eq.mp known with earlier | rfl
    · rw [contents node earlier] at member
      exact (merging.closed node earlier child member).trans (Nat.lt_succ_self _)
    · rw [fresh] at member
      exact (inside child member).trans (Nat.lt_succ_self _)
  · intro node known
    rw [homes node (known.trans_le merging.next)]
    exact merging.old node known
  · intro node anchor path placed
    change node < graph.next + 1
    by_cases here : node = graph.next
    · omega
    · rw [Function.update_of_ne here] at placed
      exact (merging.known node anchor path placed).trans (Nat.lt_succ_self _)
  · intro node anchor path placed
    by_cases here : node = graph.next
    · rw [here, Function.update_self] at placed
      exact (sourced anchor path placed).1
    · rw [Function.update_of_ne here] at placed
      exact merging.sourced node anchor path placed
  · intro node known
    have earlier := known.trans_le merging.next
    rw [contents node earlier]
    rcases merging.contents node known with extended | ⟨replaced, homed⟩
    · exact Or.inl (extended_congr (keptHomes node earlier) extended)
    · exact Or.inr ⟨replaced, homed_congr (keptHomes node earlier) homed⟩
  · intro node anchor path placed
    by_cases here : node = graph.next
    · rw [here, Function.update_self] at placed
      rw [here, fresh]
      exact homed_congr (fun child member => homes child (inside child member))
        (sourced anchor path placed).2
    · rw [Function.update_of_ne here] at placed
      have earlier := merging.known node anchor path placed
      rw [contents node earlier]
      exact homed_congr (keptHomes node earlier) (merging.homed node anchor path placed)

theorem merging_write {home : Home} {graph : SharedGraph}
    (merging : Merging start root override home graph) {node : Nat} {content : SharedNode}
    (inside : ∀ child ∈ content.children, child < graph.next)
    (old : node < start.next → Extended start root override home node content ∨
      (∃ path, Replaces start root override path node) ∧ Homed home node [] content)
    (homed : ∀ anchor path, home node = some (anchor, path) → Homed home anchor path content) :
    Merging start root override home (graph.write node content) where
  next := merging.next
  old := merging.old
  known := merging.known
  sourced := merging.sourced
  closed := by
    intro other otherKnown child member
    by_cases here : other = node
    · rw [here, write_self] at member
      exact inside child member
    · rw [write_of_ne graph here] at member
      exact merging.closed other otherKnown child member
  contents := by
    intro other otherOld
    by_cases here : other = node
    · rw [here] at otherOld ⊢
      rw [write_self]
      exact old otherOld
    · rw [write_of_ne graph here]
      exact merging.contents other otherOld
  homed := by
    intro other anchor path placed
    by_cases here : other = node
    · rw [here] at placed ⊢
      rw [write_self]
      exact homed anchor path placed
    · rw [write_of_ne graph here]
      exact merging.homed other anchor path placed

/-! ## The clone of an override value -/

/-- A new node without a home. -/
theorem merging_alloc_plain {home : Home} {graph : SharedGraph}
    (merging : Merging start root override home graph) (content : SharedNode)
    (inside : ∀ child ∈ content.children, child < graph.next) :
    Merging start root override home (graph.alloc content).1 ∧
      Grew home graph home (graph.alloc content).1 := by
  have homeless : home graph.next = none := by
    cases placed : home graph.next with
    | none => rfl
    | some place => exact absurd (merging.known _ _ _ placed) (Nat.lt_irrefl _)
  have made := merging_alloc merging content inside none (by intro anchor path absurd; cases absurd)
  rw [← homeless, Function.update_eq_self] at made
  exact made

mutual

theorem build_plain {home : Home} : (value : Yaml) → {graph : SharedGraph} →
    Merging start root override home graph →
    Merging start root override home (graph.build value).1 ∧
      Grew home graph home (graph.build value).1 ∧
      (graph.build value).2 < (graph.build value).1.next
  | .null, graph, merging => by
      obtain ⟨later, grew⟩ := merging_alloc_plain merging .null
        (by intro child absurd; cases absurd)
      exact ⟨later, grew, Nat.lt_succ_self _⟩
  | .scalar text, graph, merging => by
      obtain ⟨later, grew⟩ := merging_alloc_plain merging (.scalar text)
        (by intro child absurd; cases absurd)
      exact ⟨later, grew, Nat.lt_succ_self _⟩
  | .sequence items, graph, merging => by
      obtain ⟨later, grew, inside⟩ := build_items_plain items merging
      obtain ⟨final, last⟩ :=
        merging_alloc_plain later (.sequence (graph.buildItems items).2) inside
      exact ⟨final, grew.trans last, Nat.lt_succ_self _⟩
  | .map entries, graph, merging => by
      obtain ⟨later, grew, inside⟩ := build_slots_plain entries merging
      obtain ⟨final, last⟩ := merging_alloc_plain later (.map (graph.buildSlots entries).2) (by
        intro child member
        obtain ⟨slot, placed, rfl⟩ := List.mem_map.mp member
        exact inside slot placed)
      exact ⟨final, grew.trans last, Nat.lt_succ_self _⟩

theorem build_items_plain {home : Home} : (items : List Yaml) → {graph : SharedGraph} →
    Merging start root override home graph →
    Merging start root override home (graph.buildItems items).1 ∧
      Grew home graph home (graph.buildItems items).1 ∧
      ∀ node ∈ (graph.buildItems items).2, node < (graph.buildItems items).1.next
  | [], graph, merging => ⟨merging, Grew.refl home graph, by intro node absurd; cases absurd⟩
  | item :: rest, graph, merging => by
      obtain ⟨later, grew, first⟩ := build_plain item merging
      obtain ⟨final, last, inside⟩ := build_items_plain rest later
      refine ⟨final, grew.trans last, ?_⟩
      intro node member
      rcases List.mem_cons.mp member with rfl | further
      · exact first.trans_le last.next
      · exact inside node further

theorem build_slots_plain {home : Home} : (entries : Entries) → {graph : SharedGraph} →
    Merging start root override home graph →
    Merging start root override home (graph.buildSlots entries).1 ∧
      Grew home graph home (graph.buildSlots entries).1 ∧
      ∀ slot ∈ (graph.buildSlots entries).2, slot.2 < (graph.buildSlots entries).1.next
  | [], graph, merging => ⟨merging, Grew.refl home graph, by intro slot absurd; cases absurd⟩
  | (key, value) :: rest, graph, merging => by
      obtain ⟨later, grew, first⟩ := build_plain value merging
      obtain ⟨final, last, inside⟩ := build_slots_plain rest later
      refine ⟨final, grew.trans last, ?_⟩
      intro slot member
      rcases List.mem_cons.mp member with rfl | further
      · exact first.trans_le last.next
      · exact inside slot further

end

theorem find_of_mem {name : Bytes} {value : Yaml} {entries : Entries}
    (distinct : (entries.map Prod.fst).Nodup) (member : (Yaml.scalar name, value) ∈ entries) :
    Yaml.find name entries = some value := by
  induction entries with
  | nil => cases member
  | cons entry rest ih =>
      obtain ⟨key, other⟩ := entry
      rw [List.map_cons, List.nodup_cons] at distinct
      unfold Yaml.find
      rcases List.mem_cons.mp member with same | later
      · obtain ⟨rfl, rfl⟩ := Prod.mk.inj same
        rw [if_pos (Yaml.has_key_iff.mpr rfl)]
      · split
        · next named =>
            rw [Yaml.has_key_iff.mp named] at distinct
            exact absurd (List.mem_map_of_mem (f := Prod.fst) later) distinct.1
        · exact ih distinct.2 later

/-- The entries that an override has at a path, each at its own path. -/
def EntriesAt (override : Yaml) (path : List Bytes) (entries : Entries) : Prop :=
  ∀ entry ∈ entries, ∃ name, entry.1 = .scalar name ∧
    override.at? (path ++ [name]) = some entry.2 ∧ entry.2.WellFormed

theorem entries_at {path : List Bytes} {entries : Entries} (formed : (Yaml.map entries).WellFormed)
    (placed : override.at? path = some (.map entries)) : EntriesAt override path entries := by
  obtain ⟨named, distinct, below⟩ := (Yaml.well_formed_map entries).mp formed
  intro entry member
  obtain ⟨name, key⟩ := named entry member
  refine ⟨name, key, ?_, below entry member⟩
  rw [show entry = (.scalar name, entry.2) from Prod.ext key rfl] at member
  have found := find_of_mem distinct member
  rw [Yaml.at_append, placed, Option.bind_some, Yaml.at_map_cons, found]
  exact Yaml.at_nil _

theorem homed_of_not_map {home : Home} {anchor : Nat} {path : List Bytes} {content : SharedNode}
    (whole : content.isMap = false) : Homed home anchor path content := by
  intro slots data
  rw [data] at whole
  cases whole

/-- A new node with a home. -/
theorem merging_alloc_homed {home : Home} {graph : SharedGraph} {anchor : Nat}
    {front path : List Bytes} (merging : Merging start root override home graph)
    (content : SharedNode) (inside : ∀ child ∈ content.children, child < graph.next)
    (rooted : start.at? front root = some anchor)
    (placed : (override.at? (front ++ path)).isSome) (homed : Homed home anchor path content) :
    ∃ later, Merging start root override later (graph.alloc content).1 ∧
      Grew home graph later (graph.alloc content).1 ∧
      later graph.next = some (anchor, path) := by
  obtain ⟨final, grew⟩ := merging_alloc merging content inside (some (anchor, path)) (by
    intro other way same
    obtain ⟨rfl, rfl⟩ := Prod.mk.inj (Option.some.inj same)
    exact ⟨⟨front, rooted, placed⟩, homed⟩)
  exact ⟨_, final, grew, Function.update_self ..⟩

mutual

/-- A value of the override, built with a home for its root. -/
theorem build_homed {anchor : Nat} {front : List Bytes}
    (rooted : start.at? front root = some anchor) : (value : Yaml) → value.WellFormed →
    {home : Home} → {graph : SharedGraph} → Merging start root override home graph →
    {path : List Bytes} → override.at? (front ++ path) = some value →
    ∃ later, Merging start root override later (graph.build value).1 ∧
      Grew home graph later (graph.build value).1 ∧
      (graph.build value).2 < (graph.build value).1.next ∧
      later (graph.build value).2 = some (anchor, path)
  | .null, _, home, graph, merging, path, placed => by
      obtain ⟨later, made, grew, here⟩ := merging_alloc_homed merging .null
        (by intro child absurd; cases absurd) rooted (by rw [placed]; rfl) (homed_of_not_map rfl)
      exact ⟨later, made, grew, Nat.lt_succ_self _, here⟩
  | .scalar text, _, home, graph, merging, path, placed => by
      obtain ⟨later, made, grew, here⟩ := merging_alloc_homed merging (.scalar text)
        (by intro child absurd; cases absurd) rooted (by rw [placed]; rfl) (homed_of_not_map rfl)
      exact ⟨later, made, grew, Nat.lt_succ_self _, here⟩
  | .sequence items, _, home, graph, merging, path, placed => by
      obtain ⟨built, grew, inside⟩ := build_items_plain items merging
      obtain ⟨later, made, last, here⟩ := merging_alloc_homed built
        (.sequence (graph.buildItems items).2) inside rooted (by rw [placed]; rfl)
        (homed_of_not_map rfl)
      exact ⟨later, made, grew.trans last, Nat.lt_succ_self _, here⟩
  | .map entries, formed, home, graph, merging, path, placed => by
      obtain ⟨middle, built, grew, inside, homed⟩ :=
        build_slots_homed rooted entries merging (entries_at formed placed)
      obtain ⟨later, made, last, here⟩ := merging_alloc_homed built
        (.map (graph.buildSlots entries).2) (by
          intro child member
          obtain ⟨slot, held, rfl⟩ := List.mem_map.mp member
          exact inside slot held) rooted (by rw [placed]; rfl) (by
          intro slots same
          cases same
          exact homed)
      exact ⟨later, made, grew.trans last, Nat.lt_succ_self _, here⟩

theorem build_slots_homed {anchor : Nat} {front : List Bytes}
    (rooted : start.at? front root = some anchor) : (entries : Entries) →
    {home : Home} → {graph : SharedGraph} → Merging start root override home graph →
    {path : List Bytes} → EntriesAt override (front ++ path) entries →
    ∃ later, Merging start root override later (graph.buildSlots entries).1 ∧
      Grew home graph later (graph.buildSlots entries).1 ∧
      (∀ slot ∈ (graph.buildSlots entries).2, slot.2 < (graph.buildSlots entries).1.next) ∧
      HomedSlots later anchor path (graph.buildSlots entries).2
  | [], home, graph, merging, path, _ =>
      ⟨home, merging, Grew.refl home graph, (by intro slot absurd; cases absurd),
        (by intro slot absurd; cases absurd)⟩
  | (key, value) :: rest, home, graph, merging, path, entries => by
      obtain ⟨name, named, placed, formed⟩ := entries (key, value) (List.mem_cons_self ..)
      rw [List.append_assoc] at placed
      obtain ⟨middle, built, grew, first, here⟩ := build_homed rooted value formed merging placed
      obtain ⟨later, made, last, inside, homed⟩ := build_slots_homed rooted rest built
        (fun entry member => entries entry (List.mem_cons_of_mem _ member))
      refine ⟨later, made, grew.trans last, ?_, ?_⟩
      · intro slot member
        rcases List.mem_cons.mp member with rfl | further
        · exact first.trans_le last.next
        · exact inside slot further
      · intro slot member
        rcases List.mem_cons.mp member with rfl | further
        · exact ⟨name, named, (last.homes _ first).trans here⟩
        · exact homed slot further

end

/-! ## Where the merge is -/

/-- The path of the override that has led to a node: over the document, or into what hangs
below one of its nodes. -/
def Stands (start : SharedGraph) (root : Nat) (home : Home) (node : Nat) (path : List Bytes) :
    Prop :=
  (node < start.next ∧ start.at? path root = some node) ∨
    ∃ anchor front back, home node = some (anchor, back) ∧ path = front ++ back ∧
      start.at? front root = some anchor

/-- The depth of the anchor, then the depth below it. -/
def level (rank : Nat → Nat) (home : Home) (node : Nat) : Nat × Nat :=
  match home node with
  | some (anchor, path) => (rank anchor, path.length)
  | none => (rank node, 0)

def Lower (rank : Nat → Nat) (home : Home) (node other : Nat) : Prop :=
  (level rank home node).1 < (level rank home other).1 ∨
    (level rank home node).1 = (level rank home other).1 ∧
      (level rank home other).2 < (level rank home node).2

/-- The children of a node of the document rank below it. -/
def Ranked (start : SharedGraph) (root : Nat) (rank : Nat → Nat) : Prop :=
  ∀ path node key child, start.at? path root = some node →
    start.at? (path ++ [key]) root = some child → rank child < rank node

variable {rank : Nat → Nat}

theorem Lower.trans {home : Home} {first second third : Nat}
    (front : Lower rank home first second) (back : Lower rank home second third) :
    Lower rank home first third := by
  unfold Lower at front back ⊢
  omega

theorem Lower.asymm {home : Home} {node other : Nat} (lower : Lower rank home node other) :
    ¬Lower rank home other node := by
  unfold Lower at lower ⊢
  omega

theorem Lower.ne {home : Home} {node other : Nat} (lower : Lower rank home node other) :
    other ≠ node := by
  intro same
  rw [same] at lower
  exact lower.asymm lower

theorem lower_congr {home later : Home} {node other : Nat} (same : later node = home node)
    (alike : later other = home other) :
    Lower rank later node other ↔ Lower rank home node other := by
  unfold Lower level
  rw [same, alike]

/-- One stretch of the merge, below a node. -/
structure Progress (start : SharedGraph) (root : Nat) (override : Yaml) (rank : Nat → Nat)
    (home : Home) (graph : SharedGraph) (later : Home) (after : SharedGraph) (node : Nat) :
    Prop where
  merging : Merging start root override later after
  next : graph.next ≤ after.next
  homes : ∀ other < graph.next, later other = home other
  frame : ∀ other < graph.next, other ≠ node → ¬Lower rank home other node →
    after.content other = graph.content other

theorem Progress.refl {home : Home} {graph : SharedGraph} {node : Nat}
    (merging : Merging start root override home graph) :
    Progress start root override rank home graph home graph node :=
  ⟨merging, Nat.le_refl _, fun _ _ => rfl, fun _ _ _ _ => rfl⟩

theorem Progress.trans {home middle later : Home} {graph between after : SharedGraph} {node : Nat}
    (known : node < graph.next)
    (first : Progress start root override rank home graph middle between node)
    (second : Progress start root override rank middle between later after node) :
    Progress start root override rank home graph later after node where
  merging := second.merging
  next := first.next.trans second.next
  homes := fun other earlier => (second.homes other (earlier.trans_le first.next)).trans
    (first.homes other earlier)
  frame := by
    intro other earlier apart above
    have same := first.homes other earlier
    rw [second.frame other (earlier.trans_le first.next) apart
      (by rw [lower_congr same (first.homes node known)]; exact above)]
    exact first.frame other earlier apart above

/-- A stretch below a lower node is one below the node. -/
theorem Progress.lift {home later : Home} {graph after : SharedGraph} {node child : Nat}
    (lower : Lower rank home child node)
    (progress : Progress start root override rank home graph later after child) :
    Progress start root override rank home graph later after node where
  merging := progress.merging
  next := progress.next
  homes := progress.homes
  frame := by
    intro other earlier apart above
    apply progress.frame other earlier
    · intro same
      rw [same] at above
      exact above lower
    · intro below
      exact above (below.trans lower)

/-! ## One key -/

theorem homed_child {home : Home} {anchor : Nat} {path : List Bytes} {slots : List (Yaml × Nat)}
    (homed : HomedSlots home anchor path slots) {name : Bytes} {child : Nat}
    (found : Memory.findSlot name slots = some child) :
    home child = some (anchor, path ++ [name]) := by
  obtain ⟨key, same, placed⟩ := homed _ (mem_of_find_slot found)
  cases same
  exact placed

theorem homed_slots_snoc {home : Home} {anchor : Nat} {path : List Bytes}
    {slots : List (Yaml × Nat)} (homed : HomedSlots home anchor path slots) {name : Bytes}
    {child : Nat} (placed : home child = some (anchor, path ++ [name])) :
    HomedSlots home anchor path (slots ++ [(.scalar name, child)]) := by
  intro slot member
  rcases List.mem_append.mp member with earlier | new
  · exact homed slot earlier
  · cases List.mem_singleton.mp new
    exact ⟨name, rfl, placed⟩

/-- What hangs below an old node ranks below it. -/
theorem lower_of_anchor {home : Home} {node child : Nat} {name : Bytes}
    (old : home node = none) (placed : home child = some (node, [name])) :
    Lower rank home child node := by
  unfold Lower level
  rw [old, placed]
  exact Or.inr ⟨rfl, Nat.zero_lt_one⟩

theorem lower_of_homes {home : Home} {node child anchor : Nat} {path : List Bytes} {name : Bytes}
    (held : home node = some (anchor, path)) (placed : home child = some (anchor, path ++ [name])) :
    Lower rank home child node := by
  unfold Lower level
  rw [held, placed]
  refine Or.inr ⟨rfl, ?_⟩
  change path.length < (path ++ [name]).length
  rw [List.length_append]
  exact Nat.lt_succ_self _

/-- `base[key]` finds the node where the next key of the override stands. -/
theorem found_stands (closed : start.Closed) (ranked : Ranked start root rank) {home : Home}
    {graph : SharedGraph} (merging : Merging start root override home graph) {node : Nat}
    {path : List Bytes} (stands : Stands start root home node path) {slots : List (Yaml × Nat)}
    (data : graph.content node = .map slots) {name : Bytes} {child : Nat}
    (found : Memory.findSlot name slots = some child) :
    Stands start root home child (path ++ [name]) ∧ Lower rank home child node := by
  rcases stands with ⟨old, rooted⟩ | ⟨anchor, front, back, placed, rfl, rooted⟩
  · have homeless := merging.old node old
    have own : ∀ slots, start.content node = .map slots → Memory.findSlot name slots = some child →
        Stands start root home child (path ++ [name]) ∧ Lower rank home child node := by
      intro slots held first
      have reached := at_extend rooted held first
      have inside : child < start.next := by
        apply closed node old child
        rw [held]
        exact List.mem_map_of_mem (mem_of_find_slot first)
      refine ⟨Or.inl ⟨inside, reached⟩, ?_⟩
      unfold Lower level
      rw [homeless, merging.old child inside]
      exact Or.inl (ranked path node name child rooted reached)
    have hung : home child = some (node, [name]) →
        Stands start root home child (path ++ [name]) ∧ Lower rank home child node := by
      intro placed
      exact ⟨Or.inr ⟨node, path, [name], placed, rfl, rooted⟩, lower_of_anchor homeless placed⟩
    rcases merging.contents node old with
      (kept | ⟨first, extra, held, grown, homed, -⟩) | ⟨-, homed⟩
    · exact own slots (kept.symm.trans data) found
    · cases data.symm.trans grown
      rw [find_slot_append] at found
      cases here : Memory.findSlot name first with
      | some other =>
          rw [here] at found
          cases found
          exact own first held here
      | none =>
          rw [here, Option.none_or] at found
          exact hung (homed_child homed found)
    · exact hung (homed_child (homed slots data) found)
  · have below := homed_child (merging.homed node anchor back placed slots data) found
    refine ⟨Or.inr ⟨anchor, front, back ++ [name], below, ?_, rooted⟩, lower_of_homes placed below⟩
    exact List.append_assoc ..

/-- A key that the map does not have is inserted where the override stands. -/
theorem inserted_stands (rank : Nat → Nat) {home : Home} {graph : SharedGraph}
    (merging : Merging start root override home graph) {node : Nat} (known : node < graph.next)
    {path : List Bytes} (stands : Stands start root home node path) {slots : List (Yaml × Nat)}
    (data : graph.content node = .map slots) {name : Bytes}
    (missing : Memory.findSlot name slots = none)
    (placed : (override.at? (path ++ [name])).isSome) :
    ∃ later, Progress start root override rank home graph later
        ((graph.alloc .undefined).1.write node (.map (slots ++ [(.scalar name, graph.next)])))
        node ∧
      Stands start root later graph.next (path ++ [name]) ∧ Lower rank later graph.next node := by
  have allocated : ∀ {anchor : Nat} {front back : List Bytes},
      start.at? front root = some anchor → path ++ [name] = front ++ back →
      ∃ later, Merging start root override later (graph.alloc .undefined).1 ∧
        Grew home graph later (graph.alloc .undefined).1 ∧
        later graph.next = some (anchor, back) := by
    intro anchor front back rooted split
    rw [split] at placed
    exact merging_alloc_homed merging .undefined (by intro child absurd; cases absurd) rooted placed
      (homed_of_not_map rfl)
  have inside : ∀ child ∈ (SharedNode.map (slots ++ [(.scalar name, graph.next)])).children,
      child < (graph.alloc .undefined).1.next := by
    intro child member
    obtain ⟨slot, held, rfl⟩ := List.mem_map.mp member
    rcases List.mem_append.mp held with earlier | new
    · have before : slot.2 < graph.next := by
        apply merging.closed node known
        rw [data]
        exact List.mem_map_of_mem earlier
      exact before.trans (Nat.lt_succ_self _)
    · cases List.mem_singleton.mp new
      exact Nat.lt_succ_self _
  have progressed : ∀ {later : Home}, Grew home graph later (graph.alloc .undefined).1 →
      Merging start root override later
        ((graph.alloc .undefined).1.write node (.map (slots ++ [(.scalar name, graph.next)]))) →
      Progress start root override rank home graph later
        ((graph.alloc .undefined).1.write node (.map (slots ++ [(.scalar name, graph.next)])))
        node := by
    intro later grew made
    refine ⟨made, grew.next, grew.homes, ?_⟩
    intro other earlier apart _
    exact (write_of_ne _ apart _).trans (grew.contents other earlier)
  rcases stands with ⟨old, rooted⟩ | ⟨anchor, front, back, held, rfl, rooted⟩
  · obtain ⟨later, made, grew, here⟩ := allocated rooted rfl
    have homeless := made.old node old
    have before : (graph.alloc .undefined).1.content node = .map slots :=
      (grew.contents node known).trans data
    refine ⟨later, progressed grew (merging_write made inside ?_ ?_),
      Or.inr ⟨node, path, [name], here, rfl, rooted⟩, lower_of_anchor homeless here⟩
    · intro _
      have added : ∀ first, start.content node = .map first → Memory.findSlot name first = none →
          Adds start root override path node name :=
        fun first was none => ⟨rooted, ⟨first, was, none⟩, placed⟩
      rcases made.contents node old with (kept | ⟨first, extra, was, grown, homed, adds⟩) |
        ⟨replaced, homed⟩
      · have was := kept.symm.trans before
        refine Or.inl (Or.inr ⟨slots, [(.scalar name, graph.next)], was, rfl, ?_, ?_⟩)
        · exact @homed_slots_snoc later node [] [] (by intro slot absurd; cases absurd) _ _ here
        · intro slot member
          cases List.mem_singleton.mp member
          exact ⟨name, path, rfl, added slots was missing⟩
      · cases before.symm.trans grown
        rw [find_slot_append, Option.or_eq_none_iff] at missing
        refine Or.inl (Or.inr ⟨first, extra ++ [(.scalar name, graph.next)], was, ?_, ?_, ?_⟩)
        · rw [List.append_assoc]
        · exact homed_slots_snoc homed here
        · intro slot member
          rcases List.mem_append.mp member with earlier | new
          · exact adds slot earlier
          · cases List.mem_singleton.mp new
            exact ⟨name, path, rfl, added first was missing.1⟩
      · refine Or.inr ⟨replaced, ?_⟩
        intro all same
        cases same
        exact homed_slots_snoc (homed slots before) here
    · intro anchor way placed
      rw [homeless] at placed
      cases placed
  · obtain ⟨later, made, grew, here⟩ := @allocated anchor front (back ++ [name]) rooted
      (List.append_assoc ..)
    have housed := (grew.homes node known).trans held
    have before : (graph.alloc .undefined).1.content node = .map slots :=
      (grew.contents node known).trans data
    refine ⟨later, progressed grew (merging_write made inside ?_ ?_),
      Or.inr ⟨anchor, front, back ++ [name], here, List.append_assoc .., rooted⟩,
      lower_of_homes housed here⟩
    · intro old
      rw [made.old node old] at housed
      cases housed
    · intro other way placed
      cases placed.symm.trans housed
      intro all same
      cases same
      exact homed_slots_snoc (made.homed node anchor back housed slots before) here

/-- `base[key]`: found or inserted, the node is where the override stands. -/
theorem index_step (closed : start.Closed) (ranked : Ranked start root rank) {home : Home}
    {graph : SharedGraph} (merging : Merging start root override home graph) {node : Nat}
    (known : node < graph.next) {path : List Bytes} (stands : Stands start root home node path)
    (mapped : (graph.content node).isMap = true) {name : Bytes}
    (placed : (override.at? (path ++ [name])).isSome) :
    ∃ indexed child later, graph.index node name = .ok (indexed, child) ∧
      Progress start root override rank home graph later indexed node ∧
      (indexed.content node).isMap = true ∧ child < indexed.next ∧
      Stands start root later child (path ++ [name]) ∧ Lower rank later child node := by
  obtain ⟨slots, data⟩ := is_map_iff.mp mapped
  unfold index
  rw [data]
  cases found : Memory.findSlot name slots with
  | some child =>
      obtain ⟨below, lower⟩ := found_stands closed ranked merging stands data found
      have inside : child < graph.next := by
        apply merging.closed node known
        rw [data]
        exact List.mem_map_of_mem (mem_of_find_slot found)
      exact ⟨graph, child, home, by simp only [found], Progress.refl merging, mapped, inside,
        below, lower⟩
  | none =>
      obtain ⟨later, progress, below, lower⟩ :=
        inserted_stands rank merging known stands data found placed
      refine ⟨_, graph.next, later, by simp only [found, alloc], progress, ?_,
        Nat.lt_succ_self _, below, lower⟩
      rw [write_self]
      rfl

/-- `base[key] = Clone(value)`: an old node that is given another content is one that the
override replaces. -/
theorem assign_step (rank : Nat → Nat) {home : Home} {graph : SharedGraph}
    (merging : Merging start root override home graph) {node : Nat} (known : node < graph.next)
    {path : List Bytes} (stands : Stands start root home node path) {value : Yaml}
    (formed : value.WellFormed) (placed : override.at? path = some value)
    (differs : ((graph.content node).isMap && value.isMap) = false) :
    ∃ later, Progress start root override rank home graph later (graph.assign node value) node := by
  have progressed : ∀ {later : Home}, Grew home graph later (graph.build value).1 →
      Merging start root override later (graph.assign node value) →
      Progress start root override rank home graph later (graph.assign node value) node := by
    intro later grew made
    refine ⟨made, grew.next, grew.homes, ?_⟩
    intro other earlier apart _
    exact (write_of_ne _ apart _).trans (grew.contents other earlier)
  rcases stands with ⟨old, rooted⟩ | ⟨anchor, front, back, held, rfl, rooted⟩
  · obtain ⟨later, built, grew, fresh, here⟩ := build_homed rooted value formed merging
      (show override.at? (path ++ []) = some value by rw [List.append_nil]; exact placed)
    refine ⟨later, progressed grew (merging_write built (built.closed _ fresh) ?_ ?_)⟩
    · intro _
      refine Or.inr ⟨?_, built.homed _ node [] here⟩
      rcases merging.contents node old with (kept | ⟨first, extra, _, grown, -, -⟩) | ⟨replaced, -⟩
      · rw [kept] at differs
        exact ⟨path, rooted, value, placed, differs⟩
      · rw [grown] at differs
        have flat : value.isMap = false := differs
        exact ⟨path, rooted, value, placed, by rw [flat, Bool.and_false]⟩
      · exact replaced
    · intro anchor way placed
      rw [built.old node old] at placed
      cases placed
  · obtain ⟨later, built, grew, fresh, here⟩ := build_homed rooted value formed merging placed
    refine ⟨later, progressed grew (merging_write built (built.closed _ fresh) ?_ ?_)⟩
    · intro old
      rw [merging.old node old] at held
      cases held
    · intro other way placed
      cases placed.symm.trans ((grew.homes node known).trans held)
      exact built.homed _ anchor back here

end SharedGraph

namespace SharedMerger

open SharedGraph

variable {start : SharedGraph} {root : Nat} {override : Yaml} {rank : Nat → Nat}

/-! ## The whole merge -/

mutual

/-- Merging a value of the override into the node it has led to. -/
theorem merge_value_progress (closed : start.Closed) (ranked : Ranked start root rank) :
    (value : Yaml) → value.WellFormed → {home : Home} → {graph : SharedGraph} →
    Merging start root override home graph → {node : Nat} → node < graph.next →
    {path : List Bytes} → Stands start root home node path → override.at? path = some value →
    ∃ merged later, mergeValue value graph node = .ok merged ∧
      Progress start root override rank home graph later merged node
  | .map entries, formed, home, graph, merging, node, known, path, stands, placed => by
      unfold mergeValue
      split
      · next mapped =>
          obtain ⟨merged, later, ran, progress, -⟩ := merge_map_progress closed ranked entries
            merging known stands mapped (entries_at formed placed)
          exact ⟨merged, later, ran, progress⟩
      · next unmapped =>
          obtain ⟨later, progress⟩ := assign_step rank merging known stands formed placed
            (by rw [Bool.not_eq_true] at unmapped; rw [unmapped, Bool.false_and])
          exact ⟨_, later, rfl, progress⟩
  | .null, formed, home, graph, merging, node, known, path, stands, placed => by
      obtain ⟨later, progress⟩ := assign_step rank merging known stands formed placed
        (Bool.and_false _)
      exact ⟨_, later, rfl, progress⟩
  | .scalar text, formed, home, graph, merging, node, known, path, stands, placed => by
      obtain ⟨later, progress⟩ := assign_step rank merging known stands formed placed
        (Bool.and_false _)
      exact ⟨_, later, rfl, progress⟩
  | .sequence items, formed, home, graph, merging, node, known, path, stands, placed => by
      obtain ⟨later, progress⟩ := assign_step rank merging known stands formed placed
        (Bool.and_false _)
      exact ⟨_, later, rfl, progress⟩

/-- Merging entries of the override into a map, which stays a map. -/
theorem merge_map_progress (closed : start.Closed) (ranked : Ranked start root rank) :
    (entries : Entries) → {home : Home} → {graph : SharedGraph} →
    Merging start root override home graph → {node : Nat} → node < graph.next →
    {path : List Bytes} → Stands start root home node path →
    (graph.content node).isMap = true → EntriesAt override path entries →
    ∃ merged later, mergeMap entries graph node = .ok merged ∧
      Progress start root override rank home graph later merged node ∧
      (merged.content node).isMap = true
  | [], home, graph, merging, node, known, path, stands, mapped, _ =>
      ⟨graph, home, rfl, Progress.refl merging, mapped⟩
  | (key, value) :: rest, home, graph, merging, node, known, path, stands, mapped, entries => by
      obtain ⟨name, named, placed, formed⟩ := entries (key, value) (List.mem_cons_self ..)
      obtain ⟨indexed, child, first, index, inserted, stillMap, childKnown, below, lower⟩ :=
        index_step closed ranked merging known stands mapped (by rw [placed]; rfl)
      obtain ⟨valued, second, ran, progress⟩ := merge_value_progress closed ranked value formed
        inserted.merging childKnown below placed
      have nodeKnown : node < indexed.next := known.trans_le inserted.next
      -- The child is lower than the map, so the map itself is as indexing has left it.
      have kept : valued.content node = indexed.content node :=
        progress.frame node nodeKnown lower.ne lower.asymm
      have soFar := inserted.trans known (progress.lift lower)
      have standing : Stands start root second node path := by
        rcases stands with old | ⟨anchor, front, back, held, split, rooted⟩
        · exact Or.inl old
        · exact Or.inr ⟨anchor, front, back, (soFar.homes node known).trans held, split, rooted⟩
      obtain ⟨merged, later, remaining, final, finalMap⟩ := merge_map_progress closed ranked rest
        soFar.merging (known.trans_le soFar.next) standing (by rw [kept]; exact stillMap)
        (fun entry member => entries entry (List.mem_cons_of_mem _ member))
      refine ⟨merged, later, ?_, soFar.trans known final, finalMap⟩
      change key = .scalar name at named
      have keyed : key.keyText = some name := by
        rw [named]
        rfl
      unfold mergeMap
      simp only [keyed, index, ran]
      exact remaining

end

end SharedMerger

end TboxFramework.Config

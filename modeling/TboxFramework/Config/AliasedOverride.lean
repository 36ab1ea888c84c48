import TboxFramework.Config.SharedFrame
import Mathlib.Data.List.GetD
import Mathlib.Order.Lattice.Nat

/-!
# Overriding a document with anchors

The clone of the base is the base again, node by node, so what holds of a merge in
place holds of `merge`. Without aliases every path that the override leaves alone
keeps its value.
-/

namespace TboxFramework.Config

open TboxFramework.Store (Bytes text)

set_option autoImplicit false

namespace SharedGraph

variable {graph : SharedGraph}

/-! ## The clone -/

theorem clone_content (graph : SharedGraph) (root node : Nat) :
    (graph.clone root).1.content (node + graph.next) = (graph.content node).shift graph.next := by
  have beyond : ¬node + graph.next < graph.next := by omega
  change (if node + graph.next < graph.next then _ else _) = _
  rw [if_neg beyond, Nat.add_sub_cancel]

theorem shift_is_map (content : SharedNode) (offset : Nat) :
    (content.shift offset).isMap = content.isMap := by
  cases content <;> rfl

theorem shift_children (content : SharedNode) (offset : Nat) :
    (content.shift offset).children = content.children.map (· + offset) := by
  cases content with
  | undefined | null | scalar text => rfl
  | sequence items => rfl
  | map slots => simp [SharedNode.shift, SharedNode.children]

theorem find_slot_shift (key : Bytes) (slots : List (Yaml × Nat)) (offset : Nat) :
    Memory.findSlot key (slots.map fun slot => (slot.1, slot.2 + offset)) =
      (Memory.findSlot key slots).map (· + offset) := by
  induction slots with
  | nil => rfl
  | cons slot rest ih =>
      obtain ⟨name, child⟩ := slot
      simp only [List.map_cons, Memory.findSlot]
      split
      · rfl
      · exact ih

theorem clone_at (graph : SharedGraph) (root : Nat) (path : List Bytes) (node : Nat) :
    (graph.clone root).1.at? path (node + graph.next) =
      (graph.at? path node).map (· + graph.next) := by
  induction path generalizing node with
  | nil => rfl
  | cons key rest ih =>
      have content := clone_content graph root node
      cases kind : (graph.content node).isMap with
      | false =>
          have flat : ((graph.clone root).1.content (node + graph.next)).isMap = false := by
            rw [content, shift_is_map, kind]
          rw [at_cons_of_not_map kind, at_cons_of_not_map flat]
          rfl
      | true =>
          obtain ⟨slots, data⟩ := is_map_iff.mp kind
          rw [data] at content
          rw [at_cons data, at_cons content, find_slot_shift]
          cases Memory.findSlot key slots with
          | none => rfl
          | some child => exact ih child

theorem clone_closed (closed : graph.Closed) (root : Nat) : (graph.clone root).1.Closed := by
  intro node known child member
  change child < graph.next + graph.next
  by_cases original : node < graph.next
  · have same : (graph.clone root).1.content node = graph.content node := if_pos original
    rw [same] at member
    exact (closed node original child member).trans_le (Nat.le_add_right _ _)
  · obtain ⟨place, rfl⟩ := Nat.exists_eq_add_of_le' (Nat.le_of_not_lt original)
    rw [clone_content, shift_children] at member
    obtain ⟨inner, below, rfl⟩ := List.mem_map.mp member
    change place + graph.next < graph.next + graph.next at known
    have bound := closed place (by omega) inner below
    omega

theorem clone_reaches {root node target : Nat}
    (reached : (graph.clone root).1.Reaches (node + graph.next) target) :
    ∃ place, target = place + graph.next ∧ graph.Reaches node place := by
  generalize copied : node + graph.next = copy at reached
  induction reached generalizing node with
  | refl => exact ⟨node, copied.symm, .refl node⟩
  | step edge _ ih =>
      rw [← copied, clone_content, shift_children] at edge
      obtain ⟨inner, below, same⟩ := List.mem_map.mp edge
      obtain ⟨place, there, later⟩ := ih same
      exact ⟨place, there, .step below later⟩

mutual

theorem clone_shows (root : Nat) : (tree : Yaml) → {node : Nat} →
    (Shows (graph.clone root).1 tree (node + graph.next) ↔ Shows graph tree node)
  | .null, node => by
      unfold Shows
      rw [clone_content]
      cases graph.content node <;> simp [SharedNode.shift]
  | .scalar text, node => by
      unfold Shows
      rw [clone_content]
      cases graph.content node <;> simp [SharedNode.shift]
  | .sequence items, node => by
      unfold Shows
      rw [clone_content]
      cases data : graph.content node with
      | sequence nodes => simp [SharedNode.shift, clone_shows_items root items]
      | undefined | null | scalar text | map slots => simp [SharedNode.shift]
  | .map entries, node => by
      unfold Shows
      rw [clone_content]
      cases data : graph.content node with
      | map slots => simp [SharedNode.shift, clone_shows_slots root entries]
      | undefined | null | scalar text | sequence items => simp [SharedNode.shift]

theorem clone_shows_items (root : Nat) : (items : List Yaml) → {nodes : List Nat} →
    (ShowsItems (graph.clone root).1 items (nodes.map (· + graph.next)) ↔
      ShowsItems graph items nodes)
  | [], nodes => by simp [ShowsItems]
  | item :: rest, nodes => by
      cases nodes with
      | nil => simp [ShowsItems]
      | cons node later =>
          simp [ShowsItems, clone_shows root item, clone_shows_items root rest]

theorem clone_shows_slots (root : Nat) : (entries : Entries) → {slots : List (Yaml × Nat)} →
    (ShowsSlots (graph.clone root).1 entries
        (slots.map fun slot => (slot.1, slot.2 + graph.next)) ↔
      ShowsSlots graph entries slots)
  | [], slots => by simp [ShowsSlots]
  | (key, value) :: rest, slots => by
      cases slots with
      | nil => simp [ShowsSlots]
      | cons slot later =>
          obtain ⟨name, node⟩ := slot
          simp [ShowsSlots, clone_shows root value, clone_shows_slots root rest]

end

/-! ## Ranks -/

theorem shows_child {tree : Yaml} {node : Nat} (shown : Shows graph tree node)
    {slots : List (Yaml × Nat)} (data : graph.content node = .map slots) {key : Bytes} {child : Nat}
    (found : Memory.findSlot key slots = some child) :
    ∃ value, Shows graph value child ∧ sizeOf value < sizeOf tree := by
  cases tree with
  | null | scalar text => cases data.symm.trans shown
  | sequence items =>
      obtain ⟨nodes, other, -⟩ := shown
      cases data.symm.trans other
  | map entries =>
      obtain ⟨held, same, inside⟩ := shown
      cases data.symm.trans same
      rw [Yaml.map.sizeOf_spec]
      clear data same
      induction entries generalizing slots with
      | nil =>
          obtain rfl := inside
          cases found
      | cons entry rest ih =>
          obtain ⟨name, value⟩ := entry
          obtain ⟨first, later, rfl, shows, more⟩ := inside
          rw [List.cons.sizeOf_spec, Prod.mk.sizeOf_spec]
          unfold Memory.findSlot at found
          split at found
          · cases found
            exact ⟨value, shows, by omega⟩
          · obtain ⟨deeper, there, small⟩ := ih found more
            exact ⟨deeper, there, by omega⟩

theorem shows_at {tree : Yaml} {root node : Nat} {path : List Bytes}
    (shown : Shows graph tree root) (reached : graph.at? path root = some node) :
    ∃ value, Shows graph value node := by
  induction path generalizing tree root with
  | nil =>
      cases reached
      exact ⟨tree, shown⟩
  | cons key rest ih =>
      cases kind : (graph.content root).isMap with
      | false => cases (at_cons_of_not_map kind key rest).symm.trans reached
      | true =>
          obtain ⟨slots, data⟩ := is_map_iff.mp kind
          rw [at_cons data] at reached
          obtain ⟨child, found, later⟩ := Option.bind_eq_some_iff.mp reached
          obtain ⟨value, shows, -⟩ := shows_child shown data found
          exact ih shows later

/-- The size of the value of a node ranks it. -/
noncomputable def valueRank (graph : SharedGraph) (node : Nat) : Nat :=
  sInf {size | ∃ tree, Shows graph tree node ∧ sizeOf tree = size}

theorem value_ranked {tree : Yaml} {root : Nat} (shown : Shows graph tree root) :
    Ranked graph root graph.valueRank := by
  intro path node key child reached below
  obtain ⟨some, shows⟩ := shows_at shown reached
  obtain ⟨least, leastShows, size⟩ : graph.valueRank node ∈
      {size | ∃ tree, Shows graph tree node ∧ sizeOf tree = size} :=
    Nat.sInf_mem ⟨_, some, shows, rfl⟩
  rw [at_append, reached, Option.bind_some] at below
  cases kind : (graph.content node).isMap with
  | false => cases (at_cons_of_not_map kind key []).symm.trans below
  | true =>
      obtain ⟨slots, data⟩ := is_map_iff.mp kind
      rw [at_cons data] at below
      obtain ⟨inner, found, same⟩ := Option.bind_eq_some_iff.mp below
      cases same
      obtain ⟨value, there, small⟩ := shows_child leastShows data found
      rw [← size]
      have bound : graph.valueRank child ≤ sizeOf value := Nat.sInf_le ⟨value, there, rfl⟩
      exact bound.trans_lt small

/-! ## The changes of an override in the clone -/

theorem clone_at_iff {root node : Nat} {path : List Bytes} :
    (graph.clone root).1.at? path (root + graph.next) = some node ↔
      ∃ place, graph.at? path root = some place ∧ node = place + graph.next := by
  rw [clone_at, Option.map_eq_some_iff]
  simp only [eq_comm]

theorem clone_replaces {root node : Nat} {override : Yaml} {path : List Bytes}
    (replaced : Replaces (graph.clone root).1 (root + graph.next) override path node) :
    ∃ place, node = place + graph.next ∧ Replaces graph root override path place := by
  obtain ⟨reached, value, placed, differs⟩ := replaced
  obtain ⟨place, there, rfl⟩ := clone_at_iff.mp reached
  rw [clone_content, shift_is_map] at differs
  exact ⟨place, rfl, there, value, placed, differs⟩

theorem clone_adds {root node : Nat} {override : Yaml} {path : List Bytes} {key : Bytes}
    (added : Adds (graph.clone root).1 (root + graph.next) override path node key) :
    ∃ place, node = place + graph.next ∧ Adds graph root override path place key := by
  obtain ⟨reached, ⟨slots, data, missing⟩, placed⟩ := added
  obtain ⟨place, there, rfl⟩ := clone_at_iff.mp reached
  rw [clone_content] at data
  refine ⟨place, rfl, there, ?_, placed⟩
  cases content : graph.content place with
  | map own =>
      rw [content] at data
      cases data
      rw [find_slot_shift, Option.map_eq_none_iff] at missing
      exact ⟨own, rfl, missing⟩
  | undefined | null | scalar text | sequence items =>
      rw [content] at data
      cases data

theorem clone_sees_no_change {root : Nat} {override : Yaml} {path : List Bytes}
    (unseen : SeesNoChange graph root override path) :
    SeesNoChange (graph.clone root).1 (root + graph.next) override path where
  way := by
    intro other node replaced front onWay reached
    obtain ⟨place, rfl, original⟩ := clone_replaces replaced
    obtain ⟨same, there, shifted⟩ := clone_at_iff.mp reached
    obtain rfl := Nat.add_right_cancel shifted
    exact unseen.way other place original front onWay there
  branch := by
    intro other node key added front onWay reached
    obtain ⟨place, rfl, original⟩ := clone_adds added
    obtain ⟨same, there, shifted⟩ := clone_at_iff.mp reached
    obtain rfl := Nat.add_right_cancel shifted
    exact unseen.branch other place key original front onWay there
  below := by
    intro node reached other changed change below
    obtain ⟨place, there, rfl⟩ := clone_at_iff.mp reached
    obtain ⟨target, same, reaches⟩ := clone_reaches below
    rcases change with replaced | ⟨key, added⟩
    · obtain ⟨origin, shifted, original⟩ := clone_replaces replaced
      rw [Nat.add_right_cancel (same.symm.trans shifted)] at reaches
      exact unseen.below place there other origin (Or.inl original) reaches
    · obtain ⟨origin, shifted, original⟩ := clone_adds added
      rw [Nat.add_right_cancel (same.symm.trans shifted)] at reaches
      exact unseen.below place there other origin (Or.inr ⟨key, original⟩) reaches

/-! ## Documents without aliases -/

/-- Every node has one place in the document. -/
structure Unaliased (graph : SharedGraph) (root : Nat) : Prop where
  parent : ∀ node other child, child ∈ (graph.content node).children →
    child ∈ (graph.content other).children → node = other
  slot : ∀ node slots key other child, graph.content node = .map slots →
    Memory.findSlot key slots = some child → Memory.findSlot other slots = some child → key = other
  top : ∀ node, root ∉ (graph.content node).children

theorem at_concat {root child : Nat} {front : List Bytes} {key : Bytes}
    (reached : graph.at? (front ++ [key]) root = some child) :
    ∃ node slots, graph.at? front root = some node ∧ graph.content node = .map slots ∧
      Memory.findSlot key slots = some child := by
  rw [at_append] at reached
  obtain ⟨node, there, last⟩ := Option.bind_eq_some_iff.mp reached
  cases kind : (graph.content node).isMap with
  | false => cases (at_cons_of_not_map kind key []).symm.trans last
  | true =>
      obtain ⟨slots, data⟩ := is_map_iff.mp kind
      rw [at_cons data] at last
      obtain ⟨inner, found, same⟩ := Option.bind_eq_some_iff.mp last
      cases same
      exact ⟨node, slots, there, data, found⟩

theorem child_of_slot {node child : Nat} {slots : List (Yaml × Nat)} {key : Bytes}
    (data : graph.content node = .map slots) (found : Memory.findSlot key slots = some child) :
    child ∈ (graph.content node).children := by
  rw [data]
  exact List.mem_map_of_mem (mem_of_find_slot found)

theorem path_unique {root node : Nat} (unaliased : Unaliased graph root) {path other : List Bytes}
    (reached : graph.at? path root = some node) (again : graph.at? other root = some node) :
    path = other := by
  induction path using List.reverseRecOn generalizing other node with
  | nil =>
      cases reached
      cases other using List.reverseRecOn with
      | nil => rfl
      | append_singleton front key =>
          obtain ⟨above, slots, -, data, found⟩ := at_concat again
          exact absurd (child_of_slot data found) (unaliased.top above)
  | append_singleton front key ih =>
      obtain ⟨above, slots, there, data, found⟩ := at_concat reached
      cases other using List.reverseRecOn with
      | nil =>
          cases again
          exact absurd (child_of_slot data found) (unaliased.top above)
      | append_singleton before last =>
          obtain ⟨owner, held, placed, same, first⟩ := at_concat again
          obtain rfl := unaliased.parent above owner node (child_of_slot data found)
            (child_of_slot same first)
          cases data.symm.trans same
          rw [ih there placed, unaliased.slot above slots key last node data found first]

theorem Reaches.last {node target : Nat} (reached : graph.Reaches node target) :
    node = target ∨
      ∃ parent, graph.Reaches node parent ∧ target ∈ (graph.content parent).children := by
  induction reached with
  | refl => exact Or.inl rfl
  | @step node child target edge _ ih =>
      rcases ih with rfl | ⟨parent, further, member⟩
      · exact Or.inr ⟨node, .refl node, edge⟩
      · exact Or.inr ⟨parent, .step edge further, member⟩

/-- What is below the node at a path has a path that continues it. -/
theorem path_continues {root node target : Nat} (unaliased : Unaliased graph root)
    {path other : List Bytes} (reached : graph.at? path root = some node)
    (below : graph.Reaches node target) (placed : graph.at? other root = some target) :
    path <+: other := by
  induction other using List.reverseRecOn generalizing target with
  | nil =>
      cases placed
      rcases below.last with same | ⟨parent, -, member⟩
      · rw [same] at reached
        rw [@path_unique graph root root unaliased path [] reached rfl]
      · exact absurd member (unaliased.top parent)
  | append_singleton front key ih =>
      rcases below.last with rfl | ⟨parent, further, member⟩
      · rw [path_unique unaliased reached placed]
      · obtain ⟨above, slots, there, data, found⟩ := at_concat placed
        obtain rfl := unaliased.parent parent above target member (child_of_slot data found)
        exact (ih further there).trans (List.prefix_append _ _)

/-- Without aliases no path that the override leaves alone sees a change. -/
theorem unaliased_sees_no_change {root : Nat} (unaliased : Unaliased graph root) {override : Yaml}
    {path : List Bytes} (alone : LeavesAlone override path) :
    SeesNoChange graph root override path where
  way := fun _ _ replaced _ _ reached => path_unique unaliased reached replaced.1
  branch := fun _ _ _ added _ _ reached => path_unique unaliased reached added.1
  below := by
    intro node reached other changed change below
    have absent : ∀ longer, path <+: longer → (override.at? longer).isSome → False := by
      intro longer ⟨rest, split⟩ defined
      rw [← split] at defined
      have above := at_above defined
      rw [alone.undefined] at above
      cases above
    rcases change with ⟨placed, value, found, -⟩ | ⟨key, placed, -, defined⟩
    · exact absent other (path_continues unaliased reached below placed) (by rw [found]; rfl)
    · exact absent (other ++ [key]) ((path_continues unaliased reached below placed).trans
        (List.prefix_append _ _)) defined

end SharedGraph

/-! ## Documents -/

/-- A document that is a map, with any acyclic sharing: its root shows a tree. -/
structure SharedDocument where
  graph : SharedGraph
  root : Nat
  closed : graph.Closed
  known : root < graph.next
  entries : Entries
  shown : graph.Shows (.map entries) root

namespace SharedDocument

open SharedGraph

variable {document : SharedDocument} {overrides : Entries} {path : List Bytes}

/-- The value at a path. A path without one is undefined. -/
def ValueAt (graph : SharedGraph) (root : Nat) (path : List Bytes) (value : Yaml) : Prop :=
  ∃ node, graph.at? path root = some node ∧ graph.Shows value node

/-- The merge returns a document with the value of the base at the path, if there is one. -/
def KeepsPath (document : SharedDocument) (overrides : Entries) (path : List Bytes) : Prop :=
  ∃ merged result,
    SharedMerger.merge document.graph document.root (.map overrides) = .ok (merged, result) ∧
      (∀ value, ValueAt merged result path value ↔
        ValueAt document.graph document.root path value) ∧
      (merged.at? path result = none ↔ document.graph.at? path document.root = none)

theorem kept_of_unseen (document : SharedDocument) (overrides : Entries) (path : List Bytes)
    (formed : (Yaml.map overrides).WellFormed) (alone : LeavesAlone (.map overrides) path)
    (unseen : SeesNoChange document.graph document.root (.map overrides) path) :
    document.KeepsPath overrides path := by
  obtain ⟨graph, root, closed, known, entries, shown⟩ := document
  have cloneShown := (clone_shows root (.map entries)).mpr shown
  have cloneClosed := clone_closed closed root
  have cloneKnown : root + graph.next < (graph.clone root).1.next :=
    Nat.add_lt_add_right known _
  have cloneUnseen := clone_sees_no_change unseen
  have mapped : ((graph.clone root).1.content (root + graph.next)).isMap = true := by
    obtain ⟨slots, data, -⟩ := cloneShown
    rw [data]
    rfl
  obtain ⟨merged, home, ran, progress, -⟩ := SharedMerger.merge_map_progress cloneClosed
    (value_ranked cloneShown) overrides (merging_start cloneClosed) cloneKnown
    (show Stands _ _ _ _ [] from Or.inl ⟨cloneKnown, rfl⟩) mapped
    (entries_at formed (Yaml.at_nil _))
  have merging := progress.merging
  have returned : SharedMerger.merge graph root (.map overrides) =
      .ok (merged, root + graph.next) := by
    obtain ⟨slots, data, -⟩ := shown
    unfold SharedMerger.merge
    simp only [data]
    change Except.map (fun merged => (merged, root + graph.next)) (SharedMerger.mergeMap overrides
      (graph.clone root).1 (root + graph.next)) = _
    rw [ran]
    rfl
  have copied := clone_at graph root path root
  refine ⟨merged, root + graph.next, returned, ?_⟩
  cases reached : graph.at? path root with
  | some node =>
      rw [reached] at copied
      have kept := walk_kept cloneClosed cloneKnown alone cloneUnseen merging
        (List.nil_append path) rfl copied
      constructor
      · intro value
        have same := value_kept cloneClosed cloneKnown cloneUnseen merging copied value
        simp only [ValueAt, kept, reached, Option.some.injEq, exists_eq_left', same,
          clone_shows root value]
      · rw [kept]
        simp
  | none =>
      rw [reached] at copied
      have kept := walk_undefined cloneClosed cloneKnown alone cloneUnseen merging
        (List.nil_append path) rfl copied
      constructor
      · intro value
        simp only [ValueAt, kept, reached, reduceCtorEq, false_and, exists_false]
      · rw [kept]

/-- In a document without aliases the law needs no condition. -/
theorem unaliased_path_kept (document : SharedDocument) (overrides : Entries) (path : List Bytes)
    (unaliased : Unaliased document.graph document.root)
    (formed : (Yaml.map overrides).WellFormed) (alone : LeavesAlone (.map overrides) path) :
    document.KeepsPath overrides path :=
  kept_of_unseen document overrides path formed alone
    (unaliased_sees_no_change unaliased alone)

/-- A document given by its nodes. The root comes first. -/
def ofNodes (nodes : List SharedNode) (entries : Entries)
    (nonempty : 0 < nodes.length)
    (inside : ∀ node ∈ nodes, ∀ child ∈ node.children, child < nodes.length)
    (shown : SharedGraph.Shows ⟨fun node => nodes.getD node .undefined, nodes.length⟩
      (.map entries) 0) :
    SharedDocument where
  graph := ⟨fun node => nodes.getD node .undefined, nodes.length⟩
  root := 0
  closed := by
    intro node known child member
    change child ∈ (nodes.getD node .undefined).children at member
    rw [List.getD_eq_getElem nodes _ known] at member
    exact inside _ (List.getElem_mem known) child member
  known := nonempty
  entries := entries
  shown := shown

def level : Yaml → Entries := fun value => [(.scalar (text "level"), value)]

/-- `{prod: &log {level: info}, test: *log}`. -/
def sharedLog : SharedDocument :=
  ofNodes [.map [(.scalar (text "prod"), 1), (.scalar (text "test"), 1)],
      .map [(.scalar (text "level"), 2)], .scalar (text "info")]
    [(.scalar (text "prod"), .map (level (.scalar (text "info")))),
      (.scalar (text "test"), .map (level (.scalar (text "info"))))]
    (by decide) (by decide)
    ⟨_, rfl, 1, _, rfl, ⟨_, rfl, 2, _, rfl, rfl, rfl⟩, 1, _, rfl,
      ⟨_, rfl, 2, _, rfl, rfl, rfl⟩, rfl⟩

/-- `{test: {level: debug}}`. -/
def debugTest : Entries :=
  [(.scalar (text "test"), .map (level (.scalar (text "debug"))))]

/-- `{spare: null}`. -/
def spare : Entries := [(.scalar (text "spare"), .null)]

theorem spare_paths {path : List Bytes} {value : Yaml}
    (placed : (Yaml.map spare).at? path = some value) :
    (path = [] ∧ value = .map spare) ∨ path = [text "spare"] := by
  cases path with
  | nil => exact Or.inl ⟨rfl, (Option.some.inj ((Yaml.at_nil _).symm.trans placed)).symm⟩
  | cons key rest =>
      rw [Yaml.at_map_cons] at placed
      obtain ⟨child, found, later⟩ := Option.bind_eq_some_iff.mp placed
      have member := Yaml.mem_of_find found
      simp only [spare, List.mem_singleton, Prod.mk.injEq, Yaml.scalar.injEq] at member
      obtain ⟨rfl, rfl⟩ := member
      cases rest with
      | nil => exact Or.inr rfl
      | cons next more => cases (Yaml.at_cons_of_not_map rfl next more).symm.trans later

theorem spare_unseen :
    SeesNoChange sharedLog.graph sharedLog.root (.map spare) [text "prod", text "level"] := by
  have unreplaced : ∀ other node,
      ¬Replaces sharedLog.graph sharedLog.root (.map spare) other node := by
    intro other node ⟨reached, value, placed, differs⟩
    rcases spare_paths placed with ⟨rfl, rfl⟩ | rfl
    · cases reached
      cases differs
    · cases reached
  have added : ∀ other node key,
      Adds sharedLog.graph sharedLog.root (.map spare) other node key →
        other = [] ∧ node = 0 ∧ key = text "spare" := by
    intro other node key ⟨reached, _, defined⟩
    obtain ⟨value, placed⟩ := Option.isSome_iff_exists.mp defined
    rcases spare_paths placed with ⟨short, -⟩ | short
    · simp at short
    · obtain ⟨rfl, same⟩ :=
        List.append_inj' (show other ++ [key] = [] ++ [text "spare"] from short) rfl
      cases same
      cases reached
      exact ⟨rfl, rfl, rfl⟩
  refine ⟨?_, ?_, ?_⟩
  · intro other node replaced
    exact absurd replaced (unreplaced other node)
  · intro other node key adds front onWay reached
    obtain ⟨rfl, -, rfl⟩ := added other node key adds
    have member : text "spare" ∈ [text "prod", text "level"] :=
      onWay.subset (List.mem_append_right _ (List.mem_singleton_self _))
    exact absurd member (by decide)
  · intro node reached other changed change below
    cases reached
    rcases change with replaced | ⟨key, adds⟩
    · exact unreplaced other changed replaced
    · obtain ⟨-, rfl, -⟩ := added other changed key adds
      cases below with
      | step edge _ => cases edge

/-- A path that the override leaves alone is kept when it sees none of its changes. -/
theorem untouched_path_kept (document : SharedDocument) (overrides : Entries) (path : List Bytes)
    (formed : (Yaml.map overrides).WellFormed) (alone : LeavesAlone (.map overrides) path)
    (unseen : SeesNoChange document.graph document.root (.map overrides) path) :
    document.KeepsPath overrides path :=
  kept_of_unseen document overrides path formed alone unseen

/-- A new key at the top leaves the shared level as it is. -/
theorem spare_key_keeps_level : sharedLog.KeepsPath spare [text "prod", text "level"] := by
  apply untouched_path_kept sharedLog spare [text "prod", text "level"]
  · simp [spare, Yaml.WellFormed, Yaml.EntriesFormed]
  · refine ⟨rfl, ?_⟩
    intro front value onWay _ placed
    rcases spare_paths placed with ⟨-, rfl⟩ | rfl
    · rfl
    · have member : text "spare" ∈ [text "prod", text "level"] :=
        onWay.subset (List.mem_singleton_self _)
      exact absurd member (by decide)
  · exact spare_unseen

/-- The levels share a node, so overriding one of them changes the other. -/
theorem shared_level_changes :
    (Yaml.map debugTest).WellFormed ∧
      LeavesAlone (.map debugTest) [text "prod", text "level"] ∧
      ¬sharedLog.KeepsPath debugTest [text "prod", text "level"] := by
  refine ⟨?_, ?_, ?_⟩
  · simp [debugTest, level, Yaml.WellFormed, Yaml.EntriesFormed]
  · refine ⟨rfl, ?_⟩
    intro front value onWay _ placed
    obtain ⟨rest, split⟩ := onWay
    cases front with
    | nil =>
        cases (Yaml.at_nil _).symm.trans placed
        rfl
    | cons key front =>
        obtain ⟨rfl, -⟩ := List.cons.inj split
        have missing : Yaml.find (text "prod") debugTest = none := rfl
        rw [Yaml.at_map_cons, missing] at placed
        cases placed
  · intro kept
    obtain ⟨merged, result, ran, values, -⟩ := kept
    cases ran
    have before : ValueAt sharedLog.graph sharedLog.root [text "prod", text "level"]
        (.scalar (text "info")) := ⟨2, rfl, rfl⟩
    obtain ⟨node, reached, shown⟩ := (values _).mpr before
    cases reached
    cases shown

end SharedDocument

end TboxFramework.Config

import TboxFramework.Config.NodeHandles
import Mathlib.Data.List.GetD
import Mathlib.Order.Basic

/-!
# What validation does to its document

Every lookup through a map re-points the root to one of its children, so the
document loses a level. Validation is pure exactly when no rule looks anything up.
-/

namespace TboxFramework.Config

open TboxFramework.Store (Bytes text)

set_option autoImplicit false

namespace NodeGraph

variable {graph after : NodeGraph}

/-! ## Depth -/

/-- A map counts as one level even when it is empty. -/
def DepthAtMost (graph : NodeGraph) : Nat → Nat → Prop
  | 0, node => (graph.content node).shape ≠ .map ∧ graph.children node = []
  | depth + 1, node => ∀ child ∈ graph.children node, graph.DepthAtMost depth child

theorem depth_succ {depth node : Nat} (bounded : graph.DepthAtMost depth node) :
    graph.DepthAtMost (depth + 1) node := by
  induction depth generalizing node with
  | zero =>
      intro child member
      rw [bounded.2] at member
      cases member
  | succ depth ih =>
      intro child member
      exact ih (bounded child member)

theorem Grown.depth (grown : Grown graph after) (closed : graph.Closed) {depth node : Nat}
    (known : node < graph.nextNode) (bounded : graph.DepthAtMost depth node) :
    after.DepthAtMost depth node := by
  induction depth generalizing node with
  | zero =>
      constructor
      · rw [grown.shape node known]
        exact bounded.1
      · rw [grown.children node known]
        exact bounded.2
  | succ depth ih =>
      intro child member
      rw [grown.children node known] at member
      exact ih (closed.child_lt known member) (bounded child member)

/-- Nodes that look the same have children that look the same, position by position. -/
theorem LooksLike.child {node other position child : Nat} (same : LooksLike graph node after other)
    (placed : (graph.children node)[position]? = some child) :
    ∃ image, (after.children other)[position]? = some image ∧
      LooksLike graph child after image := by
  have shown := fun rest => same (position :: rest)
  simp only [observe, placed] at shown
  cases found : (after.children other)[position]? with
  | none =>
      have first := shown []
      rw [found] at first
      cases first
  | some image =>
      refine ⟨image, rfl, ?_⟩
      intro rest
      have later := shown rest
      rw [found] at later
      exact later

/-- The depth is seen from outside. -/
theorem LooksLike.depth {depth node other : Nat} (same : LooksLike graph node after other)
    (bounded : after.DepthAtMost depth other) : graph.DepthAtMost depth node := by
  induction depth generalizing node other with
  | zero =>
      constructor
      · intro mapped
        apply bounded.1
        rw [Option.some.inj (same []), mapped]
      · apply List.eq_nil_iff_forall_not_mem.mpr
        intro child member
        obtain ⟨position, placed⟩ := List.mem_iff_getElem?.mp member
        obtain ⟨image, found, -⟩ := same.child placed
        rw [bounded.2] at found
        cases found
  | succ depth ih =>
      intro child member
      obtain ⟨position, placed⟩ := List.mem_iff_getElem?.mp member
      obtain ⟨image, found, alike⟩ := same.child placed
      exact ih alike (bounded image (List.mem_of_getElem? found))

/-! ## One step of a lookup -/

theorem children_subset {node source child : Nat}
    (data : after.content node = graph.content source)
    (defined : ∀ other, after.isDefined other = true → graph.isDefined other = true)
    (member : child ∈ after.children node) : child ∈ graph.children source := by
  unfold children at member ⊢
  rw [data] at member
  split at member
  · obtain ⟨pair, kept, placed⟩ := List.mem_flatMap.mp member
    obtain ⟨inside, both⟩ := List.mem_filter.mp kept
    rw [Bool.and_eq_true] at both
    apply List.mem_flatMap.mpr
    refine ⟨pair, List.mem_filter.mpr ⟨inside, ?_⟩, placed⟩
    rw [Bool.and_eq_true]
    exact ⟨defined _ both.1, defined _ both.2⟩
  · exact member

theorem setRef_content (held other node : Nat) :
    (graph.setRef held other).content node =
      graph.content (if node = held then other else node) := by
  by_cases same : node = held
  · simp [setRef, content, same]
  · simp [setRef, content, same]

theorem setRef_defined {held other : Nat} (defined : graph.isDefined held = true) (node : Nat)
    (later : (graph.setRef held other).isDefined node = true) : graph.isDefined node = true := by
  by_cases same : node = held
  · rw [same]
    exact defined
  · unfold isDefined at later ⊢
    rw [setRef_content, if_neg same] at later
    exact later

theorem setRef_children {held other node child : Nat} (defined : graph.isDefined held = true)
    (member : child ∈ (graph.setRef held other).children node) :
    child ∈ graph.children (if node = held then other else node) :=
  children_subset (setRef_content held other node) (setRef_defined defined) member

theorem setRef_closed (closed : graph.Closed) {held other : Nat} (known : other < graph.nextNode) :
    (graph.setRef held other).Closed where
  refs := by
    intro node old
    change Function.update graph.ref held (graph.ref other) node < graph.nextRef
    by_cases same : node = held
    · rw [same, Function.update_self]
      exact closed.refs other known
    · rw [Function.update_of_ne same]
      exact closed.refs node old
  nodes := closed.nodes

/-- A child is one level less deep than its map, and so is an undefined node. -/
theorem reached_depth {held other depth : Nat}
    (reached : other ∈ graph.children held ∨ graph.content other = .undefined)
    (bounded : graph.DepthAtMost (depth + 1) held) : graph.DepthAtMost depth other := by
  rcases reached with child | undefined
  · exact bounded other child
  · have none : graph.children other = [] := by
      unfold children
      rw [undefined]
      rfl
    cases depth with
    | zero =>
        constructor
        · rw [undefined]
          intro shape
          cases shape
        · exact none
    | succ depth =>
        intro child member
        rw [none] at member
        cases member

/-- Re-pointing a map to what one of its keys leads to makes no node deeper. -/
theorem setRef_depth {held other : Nat} {pairs : List (Nat × Nat)}
    (data : graph.content held = .map pairs)
    (reached : other ∈ graph.children held ∨ graph.content other = .undefined) {depth node : Nat}
    (bounded : graph.DepthAtMost depth node) :
    (graph.setRef held other).DepthAtMost depth node := by
  have defined : graph.isDefined held = true := by simp [isDefined, data]
  induction depth generalizing node with
  | zero =>
      have apart : node ≠ held := by
        intro same
        apply bounded.1
        rw [same, data]
        rfl
      constructor
      · rw [setRef_content, if_neg apart]
        exact bounded.1
      · apply List.eq_nil_iff_forall_not_mem.mpr
        intro child member
        have before := setRef_children defined member
        rw [if_neg apart, bounded.2] at before
        cases before
  | succ depth ih =>
      intro child member
      have before := setRef_children defined member
      by_cases same : node = held
      · rw [if_pos same] at before
        rw [same] at bounded
        have lower := reached_depth reached bounded
        apply ih
        cases depth with
        | zero =>
            rw [lower.2] at before
            cases before
        | succ depth => exact depth_succ (lower child before)
      · rw [if_neg same] at before
        exact ih (bounded child before)

/-- The map itself loses a level. -/
theorem setRef_lowers {held other : Nat} {pairs : List (Nat × Nat)}
    (data : graph.content held = .map pairs)
    (reached : other ∈ graph.children held ∨ graph.content other = .undefined) {depth : Nat}
    (bounded : graph.DepthAtMost (depth + 1) held) :
    (graph.setRef held other).DepthAtMost depth held := by
  have defined : graph.isDefined held = true := by simp [isDefined, data]
  have lower := reached_depth reached bounded
  cases depth with
  | zero =>
      constructor
      · rw [setRef_content, if_pos rfl]
        exact lower.1
      · apply List.eq_nil_iff_forall_not_mem.mpr
        intro child member
        have before := setRef_children defined member
        rw [if_pos rfl, lower.2] at before
        cases before
  | succ depth =>
      intro child member
      have before := setRef_children defined member
      rw [if_pos rfl] at before
      exact setRef_depth data reached (lower child before)

/-- The nodes of the earlier graph are all there and none has become deeper. -/
structure Shallower (before after : NodeGraph) : Prop where
  nextNode : before.nextNode ≤ after.nextNode
  depth : ∀ depth, ∀ node < before.nextNode,
    before.DepthAtMost depth node → after.DepthAtMost depth node

theorem Shallower.refl (graph : NodeGraph) : Shallower graph graph :=
  ⟨Nat.le_refl _, fun _ _ _ bounded => bounded⟩

theorem Shallower.trans {before middle after : NodeGraph} (first : Shallower before middle)
    (second : Shallower middle after) : Shallower before after where
  nextNode := first.nextNode.trans second.nextNode
  depth := by
    intro depth node known bounded
    exact second.depth depth node (known.trans_le first.nextNode)
      (first.depth depth node known bounded)

theorem depth_of_same_ref {held other depth : Nat} (same : graph.ref held = graph.ref other)
    (bounded : graph.DepthAtMost depth other) : graph.DepthAtMost depth held := by
  have data : graph.content held = graph.content other := by rw [content, content, same]
  have children : graph.children held = graph.children other :=
    children_congr data fun _ _ => rfl
  cases depth with
  | zero =>
      unfold DepthAtMost at bounded ⊢
      rw [data, children]
      exact bounded
  | succ depth =>
      unfold DepthAtMost at bounded ⊢
      rw [children]
      exact bounded

/-- What assigning a handle on a map does, when the map leads to the other node. -/
structure Assigned (graph : NodeGraph) (held : Nat) (after : NodeGraph × Nat) : Prop where
  closed : after.1.Closed
  shallower : Shallower graph after.1
  known : after.2 < after.1.nextNode
  lowered : ∀ depth, graph.DepthAtMost (depth + 1) held → after.1.DepthAtMost depth held

theorem assign_spec (closed : graph.Closed) {held other : Nat} {pairs : List (Nat × Nat)}
    (data : graph.content held = .map pairs) (heldKnown : held < graph.nextNode)
    (otherKnown : other < graph.nextNode)
    (reached : other ∈ graph.children held ∨ graph.content other = .undefined) :
    Assigned graph held (graph.assign held other) := by
  unfold assign
  split
  · next same =>
      refine ⟨closed, Shallower.refl graph, heldKnown, ?_⟩
      intro depth bounded
      exact depth_of_same_ref same (reached_depth reached bounded)
  · refine ⟨setRef_closed closed otherKnown, ⟨Nat.le_refl _, ?_⟩, otherKnown, ?_⟩
    · intro depth node _ bounded
      exact setRef_depth data reached bounded
    · intro depth bounded
      exact setRef_lowers data reached bounded

theorem map_of_shape {node : Nat} (shape : (graph.content node).shape = .map) :
    ∃ pairs, graph.content node = .map pairs := by
  cases data : graph.content node with
  | map pairs => exact ⟨pairs, rfl⟩
  | undefined | null | scalar text | sequence items =>
      rw [data] at shape
      cases shape

/-- `current = current[part]` on a map. -/
theorem lookup_step_spec (closed : graph.Closed) {current : Nat} (known : current < graph.nextNode)
    {pairs : List (Nat × Nat)} (data : graph.content current = .map pairs) (part : Bytes) :
    Assigned graph current
      ((graph.index current pairs part).1.assign current (graph.index current pairs part).2) := by
  have indexed := index_spec closed known data part
  obtain ⟨later, mapped⟩ := map_of_shape (by rw [indexed.grown.shape current known, data]; rfl)
  have assigned := assign_spec indexed.closed mapped (known.trans_le indexed.grown.nextNode)
    indexed.known indexed.reached
  have grown : Shallower graph (graph.index current pairs part).1 :=
    ⟨indexed.grown.nextNode, fun _ _ old => indexed.grown.depth closed old⟩
  refine ⟨assigned.closed, grown.trans assigned.shallower, assigned.known, ?_⟩
  intro depth bounded
  exact assigned.lowered depth (indexed.grown.depth closed known bounded)

end NodeGraph

namespace ConfigValidator

open NodeGraph

variable {graph : NodeGraph}

/-! ## A whole lookup -/

theorem lookup_shallower (parts : List Bytes) (closed : graph.Closed) {current : Nat}
    (known : current < graph.nextNode) :
    (getNodeInPlace parts graph current).1.Closed ∧
      Shallower graph (getNodeInPlace parts graph current).1 := by
  induction parts generalizing graph current with
  | nil => exact ⟨closed, Shallower.refl graph⟩
  | cons part rest ih =>
      unfold getNodeInPlace
      split
      · next pairs data =>
          have stepped := lookup_step_spec closed known data part
          obtain ⟨later, shallower⟩ := ih stepped.closed stepped.known
          exact ⟨later, stepped.shallower.trans shallower⟩
      · exact ⟨closed, Shallower.refl graph⟩

/-- A lookup of any part takes a level off a root that is a map. -/
theorem lookup_lowers {part : Bytes} {rest : List Bytes} (closed : graph.Closed) {root : Nat}
    (known : root < graph.nextNode) {pairs : List (Nat × Nat)}
    (data : graph.content root = .map pairs) {depth : Nat}
    (bounded : graph.DepthAtMost (depth + 1) root) :
    (getNodeInPlace (part :: rest) graph root).1.DepthAtMost depth root := by
  unfold getNodeInPlace
  rw [data]
  have stepped := lookup_step_spec closed known data part
  obtain ⟨_, shallower⟩ := lookup_shallower rest stepped.closed stepped.known
  exact shallower.depth depth root (known.trans_le stepped.shallower.nextNode)
    (stepped.lowered depth bounded)

/-- What a rule has to complain about at the node it looks at. -/
def complaint (graph : NodeGraph) (node : Option Nat) (rule : ValidationRule) :
    Option ConfigErrorInfo :=
  match seen graph node with
  | none => if rule.required then some (missing rule) else none
  | some data => if dataHasType data rule.expectedType then none else some (mismatch rule)

/-- Validation goes on behind a rule without a complaint, in the graph the lookup has left. -/
theorem validate_cons (rule : ValidationRule) (rest : List ValidationRule) (graph : NodeGraph)
    (root : Nat) : validateInPlace (rule :: rest) graph root =
      match complaint (getNodeInPlace (splitPath rule.path) graph root).1
        (getNodeInPlace (splitPath rule.path) graph root).2 rule with
      | some error => ((getNodeInPlace (splitPath rule.path) graph root).1, error)
      | none => validateInPlace rest (getNodeInPlace (splitPath rule.path) graph root).1 root := by
  rw [validateInPlace, complaint]
  dsimp only
  cases seen (getNodeInPlace (splitPath rule.path) graph root).1
      (getNodeInPlace (splitPath rule.path) graph root).2 with
  | none => cases rule.required <;> rfl
  | some data =>
      dsimp only
      cases dataHasType data rule.expectedType <;> rfl

theorem validate_shallower {rules : List ValidationRule} (closed : graph.Closed) {root : Nat}
    (known : root < graph.nextNode) : Shallower graph (validateInPlace rules graph root).1 := by
  induction rules generalizing graph with
  | nil => exact Shallower.refl graph
  | cons rule rest ih =>
      obtain ⟨later, shallower⟩ := lookup_shallower (splitPath rule.path) closed known
      rw [validate_cons]
      split
      · exact shallower
      · exact shallower.trans (ih later (known.trans_le shallower.nextNode))

/-! ## The verdict on an untouched document -/

/-- The node at the end of a key path, looked up without handles. -/
def follow (graph : NodeGraph) : List Bytes → Nat → Option Nat
  | [], node => some node
  | part :: rest, node =>
      match graph.content node with
      | .map pairs => (graph.find part pairs).bind (follow graph rest)
      | _ => none

/-- The complaint of a rule about the document as it was passed in. -/
def fault (graph : NodeGraph) (root : Nat) (rule : ValidationRule) : Option ConfigErrorInfo :=
  complaint graph (follow graph (splitPath rule.path) root) rule

/-- A lookup that has nothing to enter leaves the graph alone. -/
theorem lookup_still {parts : List Bytes} {root : Nat}
    (still : (graph.content root).shape ≠ .map ∨ parts = []) :
    getNodeInPlace parts graph root = (graph, follow graph parts root) := by
  cases parts with
  | nil => rfl
  | cons part rest =>
      rcases still with unmapped | nothing
      · unfold getNodeInPlace follow
        cases data : graph.content root with
        | map pairs =>
            rw [data] at unmapped
            exact absurd rfl unmapped
        | undefined | null | scalar text | sequence items => rfl
      · cases nothing

/-- Up to the first rule that the root itself fails, no rule names a part. -/
def asksRootOnly : List ValidationRule → Bool
  | [] => true
  | rule :: rest =>
      splitPath rule.path = [] && (rule.expectedType ≠ .kMap || asksRootOnly rest)

/-- A rule on the root itself: a map is what it is. -/
theorem fault_of_root {rule : ValidationRule} {root : Nat} (asked : splitPath rule.path = [])
    (shape : (graph.content root).shape = .map) :
    fault graph root rule = if rule.expectedType = .kMap then none else some (mismatch rule) := by
  obtain ⟨pairs, data⟩ := map_of_shape shape
  unfold fault complaint
  rw [asked]
  cases type : rule.expectedType <;> simp [follow, seen, data, dataHasType]

theorem validate_still {rules : List ValidationRule} {root : Nat}
    (still : (graph.content root).shape ≠ .map ∨ asksRootOnly rules = true) :
    validateInPlace rules graph root =
      (graph, (rules.findSome? (fault graph root)).getD noError) := by
  induction rules with
  | nil => rfl
  | cons rule rest ih =>
      have lookup : getNodeInPlace (splitPath rule.path) graph root =
          (graph, follow graph (splitPath rule.path) root) := by
        apply lookup_still
        rcases still with unmapped | asked
        · exact Or.inl unmapped
        · unfold asksRootOnly at asked
          rw [Bool.and_eq_true] at asked
          exact Or.inr (of_decide_eq_true asked.1)
      rw [validate_cons, lookup, List.findSome?_cons]
      change (match fault graph root rule with
        | some error => (graph, error)
        | none => validateInPlace rest graph root) = _
      cases judged : fault graph root rule with
      | some error => rfl
      | none =>
          apply ih
          by_cases shape : (graph.content root).shape = .map
          · rcases still with unmapped | asked
            · exact absurd shape unmapped
            · simp only [asksRootOnly, Bool.and_eq_true, Bool.or_eq_true,
                decide_eq_true_eq] at asked
              rcases asked.2 with other | later
              · rw [fault_of_root asked.1 shape, if_neg other] at judged
                cases judged
              · exact Or.inr later
          · exact Or.inl shape

/-- Looking something up in a map costs it a level for good. -/
theorem validate_lowers {rules : List ValidationRule} (closed : graph.Closed) {root : Nat}
    (known : root < graph.nextNode) (shape : (graph.content root).shape = .map)
    (looked : asksRootOnly rules = false) {depth : Nat}
    (bounded : graph.DepthAtMost (depth + 1) root) :
    (validateInPlace rules graph root).1.DepthAtMost depth root := by
  induction rules with
  | nil => cases looked
  | cons rule rest ih =>
      obtain ⟨pairs, data⟩ := map_of_shape shape
      rw [validate_cons]
      cases named : splitPath rule.path with
      | nil =>
          simp only [asksRootOnly, named, decide_true, Bool.true_and, Bool.or_eq_false_iff,
            decide_eq_false_iff_not, not_not] at looked
          have passed := fault_of_root named shape
          rw [if_pos looked.1] at passed
          unfold fault at passed
          rw [named] at passed
          simp only [getNodeInPlace]
          simp only [follow] at passed
          rw [passed]
          exact ih looked.2
      | cons part parts =>
          have lowered := @lookup_lowers graph part parts closed root known pairs data depth bounded
          obtain ⟨later, shallower⟩ := lookup_shallower (part :: parts) closed known
          split
          · exact lowered
          · have final := @validate_shallower _ rest later root
              (known.trans_le shallower.nextNode)
            exact final.depth depth root (known.trans_le shallower.nextNode) lowered

end ConfigValidator

/-! ## Validation and its document -/

/-- A parsed document: a root in a graph that holds all its nodes. -/
structure ParsedDocument where
  graph : NodeGraph
  root : Nat
  closed : graph.Closed
  known : root < graph.nextNode

namespace ParsedDocument

open ConfigValidator

variable (document : ParsedDocument) (rules : List ValidationRule)

/-- The path of the rule is present, non-null and of the expected type, or it is absent or
null and not required. -/
def Meets (rule : ValidationRule) : Prop :=
  match seen document.graph (follow document.graph (splitPath rule.path) document.root) with
  | some data => dataHasType data rule.expectedType = true
  | none => rule.required = false

instance (rule : ValidationRule) : Decidable (document.Meets rule) := by
  unfold Meets
  split <;> infer_instance

/-- The graph after a validation, and its answer. -/
def validated : NodeGraph × ConfigErrorInfo :=
  validateInPlace rules document.graph document.root

structure ValidatesPurely : Prop where
  accepts : (document.validated rules).2.code = .kOk ↔ ∀ rule ∈ rules, document.Meets rule
  reports : ∀ rule, rules.find? (fun rule => ¬document.Meets rule) = some rule →
    (document.validated rules).2.path = rule.path
  unchanged : document.graph.LooksLike document.root (document.validated rules).1 document.root
  repeats : (validateInPlace rules (document.validated rules).1 document.root).2 =
    (document.validated rules).2

/-- The root is no map, or no rule that is reached names a part of it. -/
def LooksNothingUp : Prop :=
  (document.graph.content document.root).shape ≠ .map ∨ asksRootOnly rules = true

/-- No anchor stands inside its own node. -/
def Acyclic : Prop := ∃ depth, document.graph.DepthAtMost depth document.root

variable {document rules}

theorem meets_iff {rule : ValidationRule} :
    document.Meets rule ↔ fault document.graph document.root rule = none := by
  unfold Meets fault complaint
  cases seen document.graph (follow document.graph (splitPath rule.path) document.root) with
  | none => cases rule.required <;> simp
  | some data => simp

theorem fault_spec {graph : NodeGraph} {root : Nat} {rule : ValidationRule}
    {error : ConfigErrorInfo} (found : fault graph root rule = some error) :
    error.code = .kValidationFailed ∧ error.path = rule.path := by
  unfold fault complaint at found
  split at found
  · split at found
    · cases found
      exact ⟨rfl, rfl⟩
    · cases found
  · split at found
    · cases found
    · cases found
      exact ⟨rfl, rfl⟩

theorem accepts_iff (graph : NodeGraph) (root : Nat) (rules : List ValidationRule) :
    ((rules.findSome? (fault graph root)).getD noError).code = .kOk ↔
      ∀ rule ∈ rules, fault graph root rule = none := by
  rw [← List.findSome?_eq_none_iff]
  cases found : rules.findSome? (fault graph root) with
  | none => simp [noError]
  | some error =>
      obtain ⟨rule, -, complained⟩ := List.exists_of_findSome?_eq_some found
      simp [(fault_spec complained).1]

theorem reports_first {rule : ValidationRule}
    (first : rules.find? (fun rule => ¬document.Meets rule) = some rule) :
    ((rules.findSome? (fault document.graph document.root)).getD noError).path = rule.path := by
  induction rules with
  | nil => cases first
  | cons head rest ih =>
      rw [List.findSome?_cons]
      cases judged : fault document.graph document.root head with
      | none =>
          have met := meets_iff.mpr judged
          rw [List.find?_cons_of_neg (by simp [met])] at first
          exact ih first
      | some error =>
          have unmet : ¬document.Meets head := by
            rw [meets_iff, judged]
            intro absurd
            cases absurd
          rw [List.find?_cons_of_pos (by simp [unmet])] at first
          cases first
          exact (fault_spec judged).2

/-- Where nothing is looked up, validation is pure. -/
theorem pure_of_nothing (nothing : document.LooksNothingUp rules) :
    document.ValidatesPurely rules := by
  have still := validate_still nothing
  have graph : (document.validated rules).1 = document.graph := congrArg Prod.fst still
  have answer : (document.validated rules).2 =
      (rules.findSome? (fault document.graph document.root)).getD noError := congrArg Prod.snd still
  refine ⟨?_, ?_, ?_, ?_⟩
  · rw [answer, accepts_iff]
    exact forall₂_congr fun rule _ => meets_iff.symm
  · intro rule first
    rw [answer]
    exact reports_first first
  · intro path
    rw [graph]
  · rw [graph]
    rfl

/-- A document that looks the same afterwards has lost no level. -/
theorem nothing_of_unchanged (acyclic : document.Acyclic)
    (unchanged : document.graph.LooksLike document.root (document.validated rules).1
      document.root) : document.LooksNothingUp rules := by
  by_contra looked
  unfold LooksNothingUp at looked
  rw [not_or, not_not, Bool.not_eq_true] at looked
  obtain ⟨shape, looked⟩ := looked
  classical
  have least : ∀ depth, ¬document.graph.DepthAtMost depth document.root := by
    intro depth
    induction depth with
    | zero =>
        intro bounded
        exact bounded.1 shape
    | succ depth ih =>
        intro bounded
        exact ih (unchanged.depth
          (validate_lowers document.closed document.known shape looked bounded))
  obtain ⟨depth, bounded⟩ := acyclic
  exact least depth bounded

/-- Validation is pure where it looks nothing up, and on acyclic documents only there. -/
theorem validation_pure_iff (document : ParsedDocument) (rules : List ValidationRule) :
    (document.LooksNothingUp rules → document.ValidatesPurely rules) ∧
      (document.Acyclic →
        (document.ValidatesPurely rules ↔ document.LooksNothingUp rules)) := by
  constructor
  · exact pure_of_nothing
  · intro acyclic
    constructor
    · intro pure
      exact nothing_of_unchanged acyclic pure.unchanged
    · exact pure_of_nothing

/-- A document given by its nodes, each with data of its own. The root comes first. -/
def ofData (data : List NodeData) (nonempty : 0 < data.length)
    (inside : ∀ cell ∈ data, ∀ child ∈ cell.nodes, child < data.length) : ParsedDocument where
  graph :=
    { ref := id
      data := fun ref => data.getD ref .undefined
      nextNode := data.length
      nextRef := data.length }
  root := 0
  closed :=
    { refs := fun _ known => known
      nodes := by
        intro ref known child member
        change child ∈ (data.getD ref .undefined).nodes at member
        rw [List.getD_eq_getElem data _ known] at member
        exact inside _ (List.getElem_mem known) child member }
  known := nonempty

/-- `common: {log: {}, id: "1"}`. -/
def commonDocument : ParsedDocument :=
  ofData [.map [(1, 2)], .scalar (text "common"), .map [(3, 4), (5, 6)], .scalar (text "log"),
    .map [], .scalar (text "id"), .scalar (text "1")] (by decide) (by decide)

def logAndId : List ValidationRule :=
  [⟨text "common.log", .kMap, true, text "log"⟩, ⟨text "common.id", .kScalar, true, text "id"⟩]

/-- Both fields are there, but the first lookup has moved the root to `common`. -/
theorem second_rule_misses_its_field :
    ¬commonDocument.ValidatesPurely logAndId := by
  intro pure
  have met : ∀ rule ∈ logAndId, commonDocument.Meets rule := by decide
  have answered : (commonDocument.validated logAndId).2.code = .kValidationFailed := by decide
  have accepted := pure.accepts.mpr met
  rw [answered] at accepted
  cases accepted

/-- A rule on the whole document is checked without a lookup. -/
theorem root_rule_checked :
    commonDocument.ValidatesPurely [⟨text ".", .kSequence, true, text "root"⟩] :=
  (validation_pure_iff commonDocument _).1 (by unfold LooksNothingUp; decide)

end ParsedDocument

end TboxFramework.Config

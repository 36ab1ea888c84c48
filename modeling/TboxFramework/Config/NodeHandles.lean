import TboxFramework.Config.ConfigManager
import Mathlib.Logic.Function.Basic

/-!
# Nodes behind handles

A `YAML::Node` is a handle on a node, and a node refers to data that other nodes
may refer to as well. The lookup of the validator assigns to its handle, which
re-points the node the handle held, and indexing inserts what it does not find.
-/

namespace TboxFramework.Config

open TboxFramework.Store (Bytes)

set_option autoImplicit false

/-- `detail::node_data`. A pair of a map is a key node and a value node. -/
inductive NodeData
  | undefined
  | null
  | scalar (text : Bytes)
  | sequence (items : List Nat)
  | map (pairs : List (Nat × Nat))
  deriving DecidableEq

/-- The nodes that a node of this data reaches in one step. -/
def NodeData.nodes : NodeData → List Nat
  | .sequence items => items
  | .map pairs => pairs.flatMap fun pair => [pair.1, pair.2]
  | _ => []

/-- Nodes and their data are numbered. -/
structure NodeGraph where
  ref : Nat → Nat
  data : Nat → NodeData
  nextNode : Nat
  nextRef : Nat

namespace NodeGraph

variable (graph : NodeGraph)

def content (node : Nat) : NodeData := graph.data (graph.ref node)

def isDefined (node : Nat) : Bool := graph.content node ≠ .undefined

/-- A key node equals a string when it is that scalar. -/
def hasKey (key : Bytes) (node : Nat) : Bool := graph.content node = .scalar key

def find (key : Bytes) : List (Nat × Nat) → Option Nat
  | [] => none
  | (name, value) :: rest => if graph.hasKey key name then some value else find key rest

/-- `memory_holder::create_node`. -/
def create (data : NodeData) : NodeGraph × Nat :=
  ({ ref := Function.update graph.ref graph.nextNode graph.nextRef
     data := Function.update graph.data graph.nextRef data
     nextNode := graph.nextNode + 1
     nextRef := graph.nextRef + 1 }, graph.nextNode)

def setData (ref : Nat) (data : NodeData) : NodeGraph :=
  { graph with data := Function.update graph.data ref data }

/-- `current[part]` on a map: a missing key is inserted with an undefined value. -/
def index (current : Nat) (pairs : List (Nat × Nat)) (part : Bytes) :
    NodeGraph × Nat :=
  match graph.find part pairs with
  | some child => (graph, child)
  | none =>
      let (named, key) := graph.create (.scalar part)
      let (grown, value) := named.create .undefined
      (grown.setData (graph.ref current) (.map (pairs ++ [(key, value)])), value)

/-- `detail::node::set_ref`. -/
def setRef (node other : Nat) : NodeGraph :=
  { graph with ref := Function.update graph.ref node (graph.ref other) }

/-- `Node::operator=`: nothing happens between handles on the same data. -/
def assign (held other : Nat) : NodeGraph × Nat :=
  if graph.ref held = graph.ref other then (graph, held)
  else (graph.setRef held other, other)

end NodeGraph

/-! ## The validator on handles -/

namespace ConfigValidator

/-- None is `YAML::Node()`, a null node outside the document. -/
def getNodeInPlace : List Bytes → NodeGraph → Nat → NodeGraph × Option Nat
  | [], graph, current => (graph, some current)
  | part :: rest, graph, current =>
      match graph.content current with
      | .map pairs =>
          let (indexed, child) := graph.index current pairs part
          let (assigned, held) := indexed.assign current child
          getNodeInPlace rest assigned held
      | _ => (graph, none)

/-- What `validate` sees of a node: none is an undefined or null one. -/
def seen (graph : NodeGraph) (node : Option Nat) : Option NodeData :=
  match node.map graph.content with
  | none => none
  | some .undefined => none
  | some .null => none
  | some data => some data

def dataHasType (data : NodeData) : ConfigType → Bool
  | .kScalar => match data with
      | .scalar _ => true
      | _ => false
  | .kSequence => match data with
      | .sequence _ => true
      | _ => false
  | .kMap => match data with
      | .map _ => true
      | _ => false

def validateInPlace : List ValidationRule → NodeGraph → Nat → NodeGraph × ConfigErrorInfo
  | [], graph, _ => (graph, noError)
  | rule :: rest, graph, config =>
      let (walked, node) := getNodeInPlace (splitPath rule.path) graph config
      match seen walked node with
      | none =>
          if rule.required then (walked, missing rule) else validateInPlace rest walked config
      | some data =>
          if dataHasType data rule.expectedType then validateInPlace rest walked config
          else (walked, mismatch rule)

end ConfigValidator

/-! ## What a document looks like -/

inductive Shape
  | undefined
  | null
  | scalar (text : Bytes)
  | sequence
  | map
  deriving DecidableEq

def NodeData.shape : NodeData → Shape
  | .undefined => .undefined
  | .null => .null
  | .scalar text => .scalar text
  | .sequence _ => .sequence
  | .map _ => .map

namespace NodeGraph

/-- The nodes an iteration visits: a pair with an undefined node is skipped. -/
def children (graph : NodeGraph) (node : Nat) : List Nat :=
  match graph.content node with
  | .map pairs => (pairs.filter fun pair =>
      graph.isDefined pair.1 && graph.isDefined pair.2).flatMap fun pair => [pair.1, pair.2]
  | data => data.nodes

/-- The shape at the end of a path of positions. -/
def observe (graph : NodeGraph) : List Nat → Nat → Option Shape
  | [], node => some (graph.content node).shape
  | position :: rest, node =>
      match (graph.children node)[position]? with
      | some child => graph.observe rest child
      | none => none

/-- Two nodes look the same when every path of positions shows the same shape. -/
def LooksLike (before : NodeGraph) (node : Nat) (after : NodeGraph) (other : Nat) : Prop :=
  ∀ path, after.observe path other = before.observe path node

/-! ## Growing a graph -/

/-- Every allocated node refers to allocated data, which holds allocated nodes only. -/
structure Closed (graph : NodeGraph) : Prop where
  refs : ∀ node < graph.nextNode, graph.ref node < graph.nextRef
  nodes : ∀ ref < graph.nextRef, ∀ child ∈ (graph.data ref).nodes, child < graph.nextNode

/-- The nodes of the earlier graph are all there and look as before, one step deep. -/
structure Grown (before after : NodeGraph) : Prop where
  nextNode : before.nextNode ≤ after.nextNode
  shape : ∀ node < before.nextNode, (after.content node).shape = (before.content node).shape
  children : ∀ node < before.nextNode, after.children node = before.children node

variable {graph : NodeGraph}

theorem children_mem_nodes {node child : Nat} (member : child ∈ graph.children node) :
    child ∈ (graph.content node).nodes := by
  unfold children at member
  split at member
  · next pairs data =>
      rw [data]
      obtain ⟨pair, kept, placed⟩ := List.mem_flatMap.mp member
      exact List.mem_flatMap.mpr ⟨pair, (List.mem_filter.mp kept).1, placed⟩
  · exact member

theorem Closed.child_lt (closed : graph.Closed) {node child : Nat} (known : node < graph.nextNode)
    (member : child ∈ graph.children node) : child < graph.nextNode :=
  closed.nodes _ (closed.refs node known) child (children_mem_nodes member)

/-- A value that a key finds in a map is a node of that map. -/
theorem find_mem_nodes {key : Bytes} {pairs : List (Nat × Nat)} {child : Nat}
    (found : graph.find key pairs = some child) :
    ∃ name, (name, child) ∈ pairs ∧ graph.content name = .scalar key := by
  induction pairs with
  | nil => cases found
  | cons pair rest ih =>
      obtain ⟨name, value⟩ := pair
      unfold find at found
      split at found
      · next named =>
          cases found
          exact ⟨name, List.mem_cons_self .., of_decide_eq_true named⟩
      · obtain ⟨other, member, scalar⟩ := ih found
        exact ⟨other, List.mem_cons_of_mem _ member, scalar⟩

theorem find_child {key : Bytes} {node child : Nat} {pairs : List (Nat × Nat)}
    (data : graph.content node = .map pairs) (found : graph.find key pairs = some child)
    (defined : graph.content child ≠ .undefined) : child ∈ graph.children node := by
  obtain ⟨name, member, scalar⟩ := find_mem_nodes found
  unfold children
  rw [data]
  apply List.mem_flatMap.mpr
  exact ⟨(name, child), List.mem_filter.mpr ⟨member, by simp [isDefined, scalar, defined]⟩, by simp⟩

/-- A new node with data of its own. -/
theorem create_content (closed : graph.Closed) (data : NodeData) :
    (∀ node < graph.nextNode, (graph.create data).1.content node = graph.content node) ∧
      (graph.create data).1.content graph.nextNode = data := by
  constructor
  · intro node known
    have ref := Nat.ne_of_lt (closed.refs node known)
    simp [create, content, Function.update_of_ne (Nat.ne_of_lt known), Function.update_of_ne ref]
  · simp [create, content]

theorem create_closed (closed : graph.Closed) (data : NodeData)
    (leaf : data.nodes = []) : (graph.create data).1.Closed where
  refs := by
    intro node known
    change Function.update graph.ref graph.nextNode graph.nextRef node < graph.nextRef + 1
    by_cases fresh : node = graph.nextNode
    · rw [fresh, Function.update_self]
      exact Nat.lt_succ_self _
    · rw [Function.update_of_ne fresh]
      exact (closed.refs node (Nat.lt_of_le_of_ne (Nat.le_of_lt_succ known) fresh)).trans_le
        (Nat.le_succ _)
  nodes := by
    intro ref known child member
    change child ∈ (Function.update graph.data graph.nextRef data ref).nodes at member
    by_cases fresh : ref = graph.nextRef
    · rw [fresh, Function.update_self, leaf] at member
      cases member
    · rw [Function.update_of_ne fresh] at member
      exact (closed.nodes ref (Nat.lt_of_le_of_ne (Nat.le_of_lt_succ known) fresh) child
        member).trans_le (Nat.le_succ _)

theorem setData_content {ref : Nat} {data : NodeData} (node : Nat) :
    (graph.setData ref data).content node =
      if graph.ref node = ref then data else graph.content node := by
  by_cases same : graph.ref node = ref
  · simp [setData, content, same]
  · simp [setData, content, same]

theorem setData_closed (closed : graph.Closed) {ref : Nat} {data : NodeData}
    (bounded : ∀ child ∈ data.nodes, child < graph.nextNode) : (graph.setData ref data).Closed where
  refs := closed.refs
  nodes := by
    intro other known child member
    change child ∈ (Function.update graph.data ref data other).nodes at member
    by_cases same : other = ref
    · rw [same, Function.update_self] at member
      exact bounded child member
    · rw [Function.update_of_ne same] at member
      exact closed.nodes other known child member

/-- What indexing does to a map: the node it returns is a child of the map or undefined. -/
structure Indexed (graph : NodeGraph) (current : Nat) (after : NodeGraph × Nat) : Prop where
  closed : after.1.Closed
  grown : Grown graph after.1
  known : after.2 < after.1.nextNode
  reached : after.2 ∈ after.1.children current ∨ after.1.content after.2 = .undefined

theorem Grown.refl (graph : NodeGraph) : Grown graph graph :=
  ⟨Nat.le_refl _, fun _ _ => rfl, fun _ _ => rfl⟩

/-- A pair with an undefined value is never visited. -/
theorem children_undefined_pair {current key value : Nat} {pairs : List (Nat × Nat)}
    (data : graph.content current = .map (pairs ++ [(key, value)]))
    (undefined : graph.content value = .undefined) :
    graph.children current = (pairs.filter fun pair =>
      graph.isDefined pair.1 && graph.isDefined pair.2).flatMap fun pair => [pair.1, pair.2] := by
  unfold children
  rw [data]
  have dropped : graph.isDefined value = false := by simp [isDefined, undefined]
  simp [List.filter_append, dropped]

theorem filter_defined_congr {after : NodeGraph} {pairs : List (Nat × Nat)}
    (same : ∀ node ∈ (NodeData.map pairs).nodes, after.isDefined node = graph.isDefined node) :
    (pairs.filter fun pair => after.isDefined pair.1 && after.isDefined pair.2) =
      pairs.filter fun pair => graph.isDefined pair.1 && graph.isDefined pair.2 := by
  apply List.filter_congr
  intro pair member
  have first : pair.1 ∈ (NodeData.map pairs).nodes := List.mem_flatMap.mpr ⟨pair, member, by simp⟩
  have second : pair.2 ∈ (NodeData.map pairs).nodes := List.mem_flatMap.mpr ⟨pair, member, by simp⟩
  rw [same _ first, same _ second]

theorem children_congr {after : NodeGraph} {node source : Nat}
    (data : after.content node = graph.content source)
    (same : ∀ child ∈ (graph.content source).nodes,
      after.isDefined child = graph.isDefined child) :
    after.children node = graph.children source := by
  unfold children
  rw [data]
  split
  · next pairs mapped =>
      rw [mapped] at same
      rw [filter_defined_congr same]
  · rfl

/-- The graph after a missing key has been inserted under a map. -/
def insertUndefined (graph : NodeGraph) (current : Nat) (pairs : List (Nat × Nat))
    (part : Bytes) : NodeGraph :=
  (((graph.create (.scalar part)).1.create .undefined).1).setData (graph.ref current)
    (.map (pairs ++ [(graph.nextNode, graph.nextNode + 1)]))

theorem insert_content (closed : graph.Closed) {current : Nat} (known : current < graph.nextNode)
    (pairs : List (Nat × Nat)) (part : Bytes) :
    (∀ node < graph.nextNode, (graph.insertUndefined current pairs part).content node =
        if graph.ref node = graph.ref current
        then .map (pairs ++ [(graph.nextNode, graph.nextNode + 1)]) else graph.content node) ∧
      (graph.insertUndefined current pairs part).content (graph.nextNode + 1) = .undefined := by
  have bound := closed.refs current known
  constructor
  · intro node old
    have ref := closed.refs node old
    unfold insertUndefined
    rw [setData_content]
    have kept : ((graph.create (.scalar part)).1.create .undefined).1.ref node =
        graph.ref node := by
      have first : node ≠ graph.nextNode := Nat.ne_of_lt old
      have second : node ≠ graph.nextNode + 1 := by omega
      simp [create, Function.update_of_ne first, Function.update_of_ne second]
    have named := create_closed closed (.scalar part) rfl
    rw [kept, (create_content named .undefined).1 node (Nat.lt_succ_of_lt old),
      (create_content closed (.scalar part)).1 node old]
  · unfold insertUndefined
    rw [setData_content]
    have named := create_closed closed (.scalar part) rfl
    have fresh : ((graph.create (.scalar part)).1.create .undefined).1.ref (graph.nextNode + 1) =
        graph.nextRef + 1 := by simp [create]
    have other : graph.nextRef + 1 ≠ graph.ref current := by omega
    rw [fresh, if_neg other]
    exact (create_content named .undefined).2

theorem insert_indexed (closed : graph.Closed) {current : Nat} (known : current < graph.nextNode)
    {pairs : List (Nat × Nat)} (data : graph.content current = .map pairs) (part : Bytes) :
    Indexed graph current (graph.insertUndefined current pairs part, graph.nextNode + 1) := by
  obtain ⟨contents, undefined⟩ := insert_content closed known pairs part
  have held : ∀ node < graph.nextNode, graph.ref node = graph.ref current →
      graph.content node = .map pairs := by
    intro node _ same
    rw [← data, content, content, same]
  have defined : ∀ node < graph.nextNode,
      (graph.insertUndefined current pairs part).isDefined node = graph.isDefined node := by
    intro node old
    unfold isDefined
    rw [contents node old]
    split
    · next same =>
        rw [held node old same]
        rfl
    · rfl
  have inside : ∀ node < graph.nextNode, ∀ child ∈ (graph.content node).nodes,
      child < graph.nextNode := fun node old => closed.nodes _ (closed.refs node old)
  refine ⟨?_, ⟨?_, ?_, ?_⟩, ?_, Or.inr undefined⟩
  · apply setData_closed (create_closed (create_closed closed (.scalar part) rfl) .undefined rfl)
    intro child member
    obtain ⟨pair, added, placed⟩ := List.mem_flatMap.mp member
    change child < graph.nextNode + 1 + 1
    rcases List.mem_append.mp added with old | new
    · have bound := inside current known child (by
        rw [data]
        exact List.mem_flatMap.mpr ⟨pair, old, placed⟩)
      omega
    · obtain rfl := List.mem_singleton.mp new
      simp only [List.mem_cons, List.not_mem_nil, or_false] at placed
      omega
  · change graph.nextNode ≤ graph.nextNode + 1 + 1
    omega
  · intro node old
    rw [contents node old]
    split
    · next same =>
        rw [held node old same]
        rfl
    · rfl
  · intro node old
    by_cases same : graph.ref node = graph.ref current
    · have grown := contents node old
      rw [if_pos same] at grown
      have mapped := held node old same
      have inner : ∀ child ∈ (NodeData.map pairs).nodes,
          (graph.insertUndefined current pairs part).isDefined child = graph.isDefined child := by
        intro child member
        apply defined
        rw [← mapped] at member
        exact inside node old child member
      rw [children_undefined_pair grown undefined, filter_defined_congr inner]
      unfold children
      rw [mapped]
    · have kept := contents node old
      rw [if_neg same] at kept
      exact children_congr kept fun child member => defined child (inside node old child member)
  · change graph.nextNode + 1 < graph.nextNode + 1 + 1
    omega

theorem index_spec (closed : graph.Closed) {current : Nat} (known : current < graph.nextNode)
    {pairs : List (Nat × Nat)} (data : graph.content current = .map pairs) (part : Bytes) :
    Indexed graph current (graph.index current pairs part) := by
  unfold index
  split
  · next child found =>
      obtain ⟨name, member, _⟩ := find_mem_nodes found
      have placed : child ∈ (graph.content current).nodes := by
        rw [data]
        exact List.mem_flatMap.mpr ⟨(name, child), member, by simp⟩
      refine ⟨closed, Grown.refl graph, closed.nodes _ (closed.refs current known) child placed, ?_⟩
      by_cases defined : graph.content child = .undefined
      · exact Or.inr defined
      · exact Or.inl (find_child data found defined)
  · exact insert_indexed closed known data part

end NodeGraph

end TboxFramework.Config

import TboxFramework.Config.ConfigMerger

/-!
# Documents with anchors

An alias makes two paths share one node. A clone shares what its document shares,
and the merger writes to the nodes of the clone, whichever path has led to them.
-/

namespace TboxFramework.Config

open TboxFramework.Store (Bytes)

set_option autoImplicit false

/-- The content of a node, seen through every path that leads to it. -/
inductive SharedNode
  | undefined
  | null
  | scalar (text : Bytes)
  | sequence (items : List Nat)
  | map (slots : List (Yaml × Nat))

namespace SharedNode

def isMap : SharedNode → Bool
  | .map _ => true
  | _ => false

def children : SharedNode → List Nat
  | .sequence items => items
  | .map slots => slots.map Prod.snd
  | _ => []

/-- The same content over the copies of its nodes. -/
def shift (offset : Nat) : SharedNode → SharedNode
  | .sequence items => .sequence (items.map (· + offset))
  | .map slots => .map (slots.map fun slot => (slot.1, slot.2 + offset))
  | content => content

end SharedNode

structure SharedGraph where
  content : Nat → SharedNode
  next : Nat

namespace SharedGraph

variable (graph : SharedGraph)

def alloc (content : SharedNode) : SharedGraph × Nat :=
  (⟨Function.update graph.content graph.next content, graph.next + 1⟩, graph.next)

def write (node : Nat) (content : SharedNode) : SharedGraph :=
  { graph with content := Function.update graph.content node content }

/-- `YAML::Clone` of a document: each node has one copy, so the copy shares what the document
shares. The copies of nodes that the root does not reach are out of reach themselves. -/
def clone (root : Nat) : SharedGraph × Nat :=
  ({ content := fun node =>
      if node < graph.next then graph.content node
      else (graph.content (node - graph.next)).shift graph.next
     next := graph.next + graph.next }, root + graph.next)

mutual

/-- `YAML::Clone` of a node of the override, a tree. -/
def build (graph : SharedGraph) : Yaml → SharedGraph × Nat
  | .null => graph.alloc .null
  | .scalar text => graph.alloc (.scalar text)
  | .sequence items =>
      let (built, nodes) := graph.buildItems items
      built.alloc (.sequence nodes)
  | .map entries =>
      let (built, slots) := graph.buildSlots entries
      built.alloc (.map slots)

def buildItems (graph : SharedGraph) : List Yaml → SharedGraph × List Nat
  | [] => (graph, [])
  | item :: rest =>
      let (built, node) := graph.build item
      let (later, nodes) := built.buildItems rest
      (later, node :: nodes)

def buildSlots (graph : SharedGraph) : Entries → SharedGraph × List (Yaml × Nat)
  | [] => (graph, [])
  | (key, value) :: rest =>
      let (built, node) := graph.build value
      let (later, slots) := built.buildSlots rest
      (later, (key, node) :: slots)

end

/-- `base[key]` on a map: a missing key is inserted with an undefined value. -/
def index (base : Nat) (key : Bytes) : Except Stopped (SharedGraph × Nat) :=
  match graph.content base with
  | .map slots =>
      match Memory.findSlot key slots with
      | some child => .ok (graph, child)
      | none =>
          let (grown, child) := graph.alloc .undefined
          .ok (grown.write base (.map (slots ++ [(.scalar key, child)])), child)
  -- The merger indexes maps only.
  | _ => .error .badSubscript

/-- `base[key] = YAML::Clone(value)`: the node takes over the content of the clone. -/
def assign (child : Nat) (value : Yaml) : SharedGraph :=
  let (built, root) := graph.build value
  built.write child (built.content root)

end SharedGraph

namespace SharedMerger

mutual

/-- The body of the loop in `mergeMap`, once `base[key]` has found or inserted its node. -/
def mergeValue : Yaml → SharedGraph → Nat → Except Stopped SharedGraph
  | .map entries, graph, child =>
      if (graph.content child).isMap then mergeMap entries graph child
      else .ok (graph.assign child (.map entries))
  | .null, graph, child => .ok (graph.assign child .null)
  | .scalar text, graph, child => .ok (graph.assign child (.scalar text))
  | .sequence items, graph, child => .ok (graph.assign child (.sequence items))

def mergeMap : Entries → SharedGraph → Nat → Except Stopped SharedGraph
  | [], graph, _ => .ok graph
  | (key, value) :: rest, graph, base =>
      match key.keyText with
      | none => .error .badConversion
      | some name =>
          match graph.index base name with
          | .error stopped => .error stopped
          | .ok (indexed, child) =>
              match mergeValue value indexed child with
              | .error stopped => .error stopped
              | .ok merged => mergeMap rest merged base

end

/-- `merge` of a document with an override without aliases. -/
def merge (graph : SharedGraph) (base : Nat) (override : Yaml) :
    Except Stopped (SharedGraph × Nat) :=
  match graph.content base, override with
  | .undefined, _ => .ok (graph.build override)
  | .null, _ => .ok (graph.build override)
  | _, .null => .ok (graph.clone base)
  | .map _, .map entries =>
      let (cloned, result) := graph.clone base
      (mergeMap entries cloned result).map fun merged => (merged, result)
  | _, _ => .ok (graph.build override)

end SharedMerger

namespace SharedGraph

/-! ## What a document shows -/

/-- The node at a key path. -/
def at? (graph : SharedGraph) : List Bytes → Nat → Option Nat
  | [], node => some node
  | key :: rest, node =>
      match graph.content node with
      | .map slots => (Memory.findSlot key slots).bind (graph.at? rest)
      | _ => none

mutual

/-- The value of a node. -/
def Shows (graph : SharedGraph) : Yaml → Nat → Prop
  | .null, node => graph.content node = .null
  | .scalar text, node => graph.content node = .scalar text
  | .sequence items, node =>
      ∃ nodes, graph.content node = .sequence nodes ∧ ShowsItems graph items nodes
  | .map entries, node =>
      ∃ slots, graph.content node = .map slots ∧ ShowsSlots graph entries slots

def ShowsItems (graph : SharedGraph) : List Yaml → List Nat → Prop
  | [], nodes => nodes = []
  | item :: rest, nodes =>
      ∃ node later, nodes = node :: later ∧ Shows graph item node ∧ ShowsItems graph rest later

def ShowsSlots (graph : SharedGraph) : Entries → List (Yaml × Nat) → Prop
  | [], slots => slots = []
  | (key, value) :: rest, slots =>
      ∃ node later, slots = (key, node) :: later ∧ Shows graph value node ∧
        ShowsSlots graph rest later

end

inductive Reaches (graph : SharedGraph) : Nat → Nat → Prop
  | refl (node : Nat) : Reaches graph node node
  | step {node child target : Nat} (edge : child ∈ (graph.content node).children)
      (later : Reaches graph child target) : Reaches graph node target

/-- The nodes below an allocated node are allocated. -/
def Closed (graph : SharedGraph) : Prop :=
  ∀ node < graph.next, ∀ child ∈ (graph.content node).children, child < graph.next

variable {graph after : SharedGraph}

theorem write_self (graph : SharedGraph) (node : Nat) (content : SharedNode) :
    (graph.write node content).content node = content := Function.update_self ..

theorem write_of_ne (graph : SharedGraph) {node other : Nat} (apart : other ≠ node)
    (content : SharedNode) : (graph.write node content).content other = graph.content other :=
  Function.update_of_ne apart ..

/-! ## Slots and paths -/

theorem find_slot_append (key : Bytes) (front back : List (Yaml × Nat)) :
    Memory.findSlot key (front ++ back) =
      (Memory.findSlot key front).or (Memory.findSlot key back) := by
  induction front with
  | nil => rfl
  | cons slot rest ih =>
      obtain ⟨name, child⟩ := slot
      simp only [List.cons_append, Memory.findSlot]
      split
      · rfl
      · exact ih

theorem mem_of_find_slot {key : Bytes} {slots : List (Yaml × Nat)} {child : Nat}
    (found : Memory.findSlot key slots = some child) : (Yaml.scalar key, child) ∈ slots := by
  induction slots with
  | nil => cases found
  | cons slot rest ih =>
      obtain ⟨name, node⟩ := slot
      unfold Memory.findSlot at found
      split at found
      · next named =>
          cases found
          rw [Yaml.has_key_iff.mp named]
          exact List.mem_cons_self ..
      · exact List.mem_cons_of_mem _ (ih found)

theorem at_cons {node : Nat} {slots : List (Yaml × Nat)} (data : graph.content node = .map slots)
    (key : Bytes) (rest : List Bytes) :
    graph.at? (key :: rest) node = (Memory.findSlot key slots).bind (graph.at? rest) := by
  rw [at?, data]

theorem at_cons_of_not_map {node : Nat} (whole : (graph.content node).isMap = false) (key : Bytes)
    (rest : List Bytes) : graph.at? (key :: rest) node = none := by
  unfold at?
  cases data : graph.content node with
  | map slots =>
      rw [data] at whole
      cases whole
  | undefined | null | scalar text | sequence items => rfl

theorem is_map_iff {content : SharedNode} :
    content.isMap = true ↔ ∃ slots, content = .map slots := by
  cases content <;> simp [SharedNode.isMap]

theorem at_append (front back : List Bytes) (node : Nat) :
    graph.at? (front ++ back) node = (graph.at? front node).bind (graph.at? back) := by
  induction front generalizing node with
  | nil => rfl
  | cons key rest ih =>
      cases kind : (graph.content node).isMap with
      | false =>
          rw [List.cons_append, at_cons_of_not_map kind, at_cons_of_not_map kind]
          rfl
      | true =>
          obtain ⟨slots, data⟩ := is_map_iff.mp kind
          rw [List.cons_append, at_cons data, at_cons data]
          cases Memory.findSlot key slots with
          | none => rfl
          | some child => exact ih child

theorem at_extend {path : List Bytes} {root node child : Nat} {slots : List (Yaml × Nat)}
    {key : Bytes} (reached : graph.at? path root = some node)
    (data : graph.content node = .map slots) (found : Memory.findSlot key slots = some child) :
    graph.at? (path ++ [key]) root = some child := by
  rw [at_append, reached, Option.bind_some, at_cons data, found]
  rfl

/-! ## Nodes that keep their content -/

theorem Reaches.trans {first second third : Nat} (front : graph.Reaches first second)
    (back : graph.Reaches second third) : graph.Reaches first third := by
  induction front with
  | refl => exact back
  | step edge _ ih => exact .step edge (ih back)

theorem Reaches.edge {node child : Nat} (member : child ∈ (graph.content node).children) :
    graph.Reaches node child := .step member (.refl child)

mutual

/-- A node shows the same value where everything below it has kept its content. -/
theorem shows_congr : (tree : Yaml) → {node : Nat} →
    (∀ place, graph.Reaches node place → after.content place = graph.content place) →
    (Shows after tree node ↔ Shows graph tree node)
  | .null, node, same => by
      unfold Shows
      rw [same node (.refl node)]
  | .scalar text, node, same => by
      unfold Shows
      rw [same node (.refl node)]
  | .sequence items, node, same => by
      unfold Shows
      rw [same node (.refl node)]
      apply exists_congr
      intro nodes
      apply and_congr_right
      intro data
      apply items_congr items
      intro child member place reached
      exact same place (.step (by rw [data]; exact member) reached)
  | .map entries, node, same => by
      unfold Shows
      rw [same node (.refl node)]
      apply exists_congr
      intro slots
      apply and_congr_right
      intro data
      apply slots_congr entries
      intro slot member place reached
      exact same place (.step (by rw [data]; exact List.mem_map_of_mem member) reached)

theorem items_congr : (items : List Yaml) → {nodes : List Nat} →
    (∀ child ∈ nodes, ∀ place, graph.Reaches child place →
      after.content place = graph.content place) →
    (ShowsItems after items nodes ↔ ShowsItems graph items nodes)
  | [], nodes, same => Iff.rfl
  | item :: rest, nodes, same => by
      unfold ShowsItems
      apply exists_congr
      intro node
      apply exists_congr
      intro later
      apply and_congr_right
      intro split
      subst split
      exact and_congr (shows_congr item (same node (List.mem_cons_self ..)))
        (items_congr rest fun child member => same child (List.mem_cons_of_mem _ member))

theorem slots_congr : (entries : Entries) → {slots : List (Yaml × Nat)} →
    (∀ slot ∈ slots, ∀ place, graph.Reaches slot.2 place →
      after.content place = graph.content place) →
    (ShowsSlots after entries slots ↔ ShowsSlots graph entries slots)
  | [], slots, same => Iff.rfl
  | (key, value) :: rest, slots, same => by
      unfold ShowsSlots
      apply exists_congr
      intro node
      apply exists_congr
      intro later
      apply and_congr_right
      intro split
      subst split
      exact and_congr (shows_congr value (same (key, node) (List.mem_cons_self ..)))
        (slots_congr rest fun slot member => same slot (List.mem_cons_of_mem _ member))

end

end SharedGraph

end TboxFramework.Config

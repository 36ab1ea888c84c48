import TboxFramework.Config.MergedTree
import Mathlib.Logic.Function.Basic
import Mathlib.Order.Basic
import Mathlib.Data.List.Perm.Basic

/-!
# The merger on nodes in memory

`YAML::Node` is a handle: `merge` clones the base and `mergeMap` changes the
clone through the handles that `operator[]` returns, while the documents are
only read. The tree held at the result is the merged tree, and every location
that existed before keeps its contents.
-/

namespace TboxFramework.Config

open TboxFramework.Store (Bytes)

set_option autoImplicit false

abbrev Loc := Nat

/-- The data of a node. Keys and the nodes inside a sequence are never written to. -/
inductive Cell
  | undefined
  | leaf (node : Yaml) (whole : node.isMap = false)
  | map (slots : List (Yaml × Loc))

abbrev Slots := List (Yaml × Loc)

structure Memory where
  cells : Loc → Cell
  next : Loc

inductive Stopped
  | outOfFuel
  | badConversion
  | badSubscript
  deriving DecidableEq

namespace Memory

def isDefined (memory : Memory) (node : Loc) : Bool :=
  match memory.cells node with
  | .undefined => false
  | _ => true

def isMap (memory : Memory) (node : Loc) : Bool :=
  match memory.cells node with
  | .map _ => true
  | _ => false

def isNull (memory : Memory) (node : Loc) : Bool :=
  match memory.cells node with
  | .leaf node _ => node.isNull
  | _ => false

def alloc (memory : Memory) (cell : Cell) : Memory × Loc :=
  (⟨Function.update memory.cells memory.next cell, memory.next + 1⟩, memory.next)

def write (memory : Memory) (node : Loc) (cell : Cell) : Memory :=
  { memory with cells := Function.update memory.cells node cell }

/-- Iterating a map skips the entries whose value is undefined. -/
def definedSlots (memory : Memory) (slots : Slots) : Slots :=
  slots.filter fun slot => memory.isDefined slot.2

/-- The events of a node. The argument `readNode` reads the node of a slot. -/
def readSlots (readNode : Loc → Except Stopped Yaml) : Slots → Except Stopped Entries
  | [] => .ok []
  | (key, child) :: rest =>
      match readNode child, readSlots readNode rest with
      | .ok value, .ok entries => .ok ((key, value) :: entries)
      | .error stopped, _ => .error stopped
      | _, .error stopped => .error stopped

def read (memory : Memory) : Nat → Loc → Except Stopped Yaml
  | 0, _ => .error .outOfFuel
  | fuel + 1, node =>
      match memory.cells node with
      | .undefined => .ok .null
      | .leaf node _ => .ok node
      | .map slots => (readSlots (memory.read fuel) (memory.definedSlots slots)).map .map

mutual

/-- The node builder: a tree of fresh nodes. -/
def build (memory : Memory) : Yaml → Memory × Loc
  | .null => memory.alloc (.leaf .null rfl)
  | .scalar text => memory.alloc (.leaf (.scalar text) rfl)
  | .sequence items => memory.alloc (.leaf (.sequence items) rfl)
  | .map entries =>
      let (built, slots) := memory.buildSlots entries
      built.alloc (.map slots)

def buildSlots (memory : Memory) : Entries → Memory × Slots
  | [] => (memory, [])
  | (key, value) :: rest =>
      let (built, child) := memory.build value
      let (later, slots) := built.buildSlots rest
      (later, (key, child) :: slots)

end

/-- `YAML::Clone`. -/
def clone (memory : Memory) (fuel : Nat) (node : Loc) : Except Stopped (Memory × Loc) :=
  (memory.read fuel node).map memory.build

def findSlot (key : Bytes) : Slots → Option Loc
  | [] => none
  | (name, child) :: rest => if name.hasKey key then some child else findSlot key rest

/-- The entries that `operator[]` searches: an undefined or null node becomes a map. -/
def slotsOf : Cell → Except Stopped Slots
  | .undefined => .ok []
  | .leaf .null _ => .ok []
  | .leaf _ _ => .error .badSubscript
  | .map slots => .ok slots

/-- `base[key]`: a missing key is inserted with an undefined value. -/
def index (memory : Memory) (base : Loc) (key : Bytes) : Except Stopped (Memory × Loc) :=
  match slotsOf (memory.cells base) with
  | .error stopped => .error stopped
  | .ok slots =>
      match findSlot key slots with
      | some child => .ok (memory, child)
      | none =>
          let (grown, child) := memory.alloc .undefined
          .ok (grown.write base (.map (slots ++ [(.scalar key, child)])), child)

/-- `base[key] = YAML::Clone(value)`: the node of the slot takes over the data of the clone. -/
def assign (memory : Memory) (fuel : Nat) (child value : Loc) : Except Stopped Memory :=
  match memory.clone fuel value with
  | .error stopped => .error stopped
  | .ok (cloned, root) => .ok (cloned.write child (cloned.cells root))

end Memory

namespace ConfigMerger

/-- One iteration of `mergeMap`. The slot of `base[key]` is the same at each of its uses. -/
def mergeSlot (descend : Memory → Loc → Loc → Except Stopped Memory) (fuel : Nat)
    (memory : Memory) (base : Loc) (key : Yaml) (overrideValue : Loc) : Except Stopped Memory :=
  match key.keyText with
  | none => .error .badConversion
  | some name =>
      match memory.index base name with
      | .error stopped => .error stopped
      | .ok (indexed, child) =>
          if indexed.isDefined child then
            if indexed.isMap child && indexed.isMap overrideValue then
              descend indexed child overrideValue
            else indexed.assign fuel child overrideValue
          else indexed.assign fuel child overrideValue

def mergeSlots (descend : Memory → Loc → Loc → Except Stopped Memory) (fuel : Nat) (base : Loc) :
    Slots → Memory → Except Stopped Memory
  | [], memory => .ok memory
  | (key, overrideValue) :: rest, memory =>
      match mergeSlot descend fuel memory base key overrideValue with
      | .error stopped => .error stopped
      | .ok merged => mergeSlots descend fuel base rest merged

def mergeMap : Nat → Memory → Loc → Loc → Except Stopped Memory
  | 0, _, _, _ => .error .outOfFuel
  | fuel + 1, memory, base, override =>
      match memory.cells override with
      | .map slots => mergeSlots (mergeMap fuel) fuel base (memory.definedSlots slots) memory
      -- Only maps are passed in; anything else has no pairs to iterate over.
      | _ => .ok memory

def merge (fuel : Nat) (memory : Memory) (base override : Loc) : Except Stopped (Memory × Loc) :=
  if !memory.isDefined base || memory.isNull base then memory.clone fuel override
  else if !memory.isDefined override || memory.isNull override then memory.clone fuel base
  else if memory.isMap base && memory.isMap override then
    match memory.clone fuel base with
    | .error stopped => .error stopped
    | .ok (cloned, result) =>
        match mergeMap fuel cloned result override with
        | .error stopped => .error stopped
        | .ok merged => .ok (merged, result)
  else memory.clone fuel override

def mergeRest (fuel : Nat) : List Loc → Memory → Loc → Except Stopped (Memory × Loc)
  | [], memory, result => .ok (memory, result)
  | node :: rest, memory, result =>
      match merge fuel memory result node with
      | .error stopped => .error stopped
      | .ok (merged, next) => mergeRest fuel rest merged next

def mergeMultiple (fuel : Nat) (memory : Memory) : List Loc → Except Stopped (Memory × Loc)
  | [] => .ok (memory.build .null)
  | first :: rest =>
      match memory.clone fuel first with
      | .error stopped => .error stopped
      | .ok (cloned, result) => mergeRest fuel rest cloned result

end ConfigMerger

/-! ## Trees held in memory -/

mutual

/-- The tree at a location, with the locations it occupies. -/
def Holds (cells : Loc → Cell) : Yaml → Loc → List Loc → Prop
  | .map entries, node, owned =>
      ∃ slots below, cells node = .map slots ∧ HoldsSlots cells entries slots below ∧
        owned = node :: below
  | .null, node, owned => cells node = .leaf .null rfl ∧ owned = [node]
  | .scalar text, node, owned => cells node = .leaf (.scalar text) rfl ∧ owned = [node]
  | .sequence items, node, owned => cells node = .leaf (.sequence items) rfl ∧ owned = [node]

def HoldsSlots (cells : Loc → Cell) : Entries → Slots → List Loc → Prop
  | [], slots, owned => slots = [] ∧ owned = []
  | (key, value) :: rest, slots, owned =>
      ∃ child later mine others, slots = (key, child) :: later ∧ Holds cells value child mine ∧
        HoldsSlots cells rest later others ∧ owned = mine ++ others

end

theorem holds_leaf {cells : Loc → Cell} {tree : Yaml} (whole : tree.isMap = false) (node : Loc)
    (owned : List Loc) :
    Holds cells tree node owned ↔ cells node = .leaf tree whole ∧ owned = [node] := by
  cases tree <;> first | rfl | cases whole

theorem holds_root {cells : Loc → Cell} {tree : Yaml} {node : Loc} {owned : List Loc}
    (held : Holds cells tree node owned) : ∃ below, owned = node :: below := by
  cases kind : tree.isMap with
  | false => exact ⟨[], ((holds_leaf kind node owned).mp held).2⟩
  | true =>
      obtain ⟨entries, rfl⟩ := Yaml.is_map_iff.mp kind
      obtain ⟨slots, below, -, -, rfl⟩ := held
      exact ⟨below, rfl⟩

mutual

theorem holds_congr {cells cells' : Loc → Cell} : (tree : Yaml) → {node : Loc} →
    {owned : List Loc} → (∀ place ∈ owned, cells' place = cells place) →
    Holds cells tree node owned → Holds cells' tree node owned
  | .map entries, node, owned, same, held => by
      obtain ⟨slots, below, kept, slotted, rfl⟩ := held
      rw [List.forall_mem_cons] at same
      exact ⟨slots, below, same.1.trans kept, holds_slots_congr entries same.2 slotted, rfl⟩
  | .null, node, owned, same, held => by
      obtain ⟨kept, rfl⟩ := held
      exact ⟨(same node (List.mem_singleton_self _)).trans kept, rfl⟩
  | .scalar _, node, owned, same, held => by
      obtain ⟨kept, rfl⟩ := held
      exact ⟨(same node (List.mem_singleton_self _)).trans kept, rfl⟩
  | .sequence _, node, owned, same, held => by
      obtain ⟨kept, rfl⟩ := held
      exact ⟨(same node (List.mem_singleton_self _)).trans kept, rfl⟩

theorem holds_slots_congr {cells cells' : Loc → Cell} : (entries : Entries) → {slots : Slots} →
    {owned : List Loc} → (∀ place ∈ owned, cells' place = cells place) →
    HoldsSlots cells entries slots owned → HoldsSlots cells' entries slots owned
  | [], _, _, _, held => held
  | (key, value) :: rest, slots, owned, same, held => by
      obtain ⟨child, later, mine, others, rfl, valued, slotted, rfl⟩ := held
      exact ⟨child, later, mine, others, rfl,
        holds_congr value (fun place member => same place (List.mem_append_left _ member)) valued,
        holds_slots_congr rest
          (fun place member => same place (List.mem_append_right _ member)) slotted, rfl⟩

end

/-- A node that takes over the data of a root holds the tree of the root. -/
theorem holds_moved {cells cells' : Loc → Cell} {tree : Yaml} {root node : Loc}
    {below : List Loc} (held : Holds cells tree root (root :: below))
    (taken : cells' node = cells root) (same : ∀ place ∈ below, cells' place = cells place) :
    Holds cells' tree node (node :: below) := by
  cases kind : tree.isMap with
  | false =>
      obtain ⟨kept, rest⟩ := (holds_leaf kind _ _).mp held
      obtain rfl : below = [] := (List.cons.inj rest).2
      exact (holds_leaf kind _ _).mpr ⟨taken.trans kept, rfl⟩
  | true =>
      obtain ⟨entries, rfl⟩ := Yaml.is_map_iff.mp kind
      obtain ⟨slots, others, kept, slotted, rest⟩ := held
      obtain rfl : below = others := (List.cons.inj rest).2
      exact ⟨slots, below, taken.trans kept, holds_slots_congr entries same slotted, rfl⟩

/-- The cell of a node that holds a tree is a leaf or a map, as the tree is. -/
theorem cell_of_holds {cells : Loc → Cell} {tree : Yaml} {node : Loc} {owned : List Loc}
    (held : Holds cells tree node owned) :
    (∃ whole, cells node = .leaf tree whole) ∨
      ∃ entries slots, tree = .map entries ∧ cells node = .map slots := by
  by_cases kind : tree.isMap = true
  · obtain ⟨entries, rfl⟩ := Yaml.is_map_iff.mp kind
    obtain ⟨slots, below, kept, -, -⟩ := held
    exact Or.inr ⟨entries, slots, rfl, kept⟩
  · have whole := Bool.eq_false_iff.mpr kind
    exact Or.inl ⟨whole, ((holds_leaf whole node owned).mp held).1⟩

section Cells

variable {memory : Memory} {tree : Yaml} {node : Loc} {owned : List Loc}

theorem defined_of_holds (held : Holds memory.cells tree node owned) :
    memory.isDefined node = true := by
  unfold Memory.isDefined
  obtain ⟨whole, leaf⟩ | ⟨entries, slots, -, map⟩ := cell_of_holds held
  · rw [leaf]
  · rw [map]

theorem is_map_of_holds (held : Holds memory.cells tree node owned) :
    memory.isMap node = tree.isMap := by
  unfold Memory.isMap
  obtain ⟨whole, leaf⟩ | ⟨entries, slots, rfl, map⟩ := cell_of_holds held
  · rw [leaf]
    exact whole.symm
  · rw [map]
    rfl

theorem is_null_of_holds (held : Holds memory.cells tree node owned) :
    memory.isNull node = tree.isNull := by
  unfold Memory.isNull
  obtain ⟨whole, leaf⟩ | ⟨entries, slots, rfl, map⟩ := cell_of_holds held
  · rw [leaf]
  · rw [map]
    rfl

end Cells

theorem defined_slots_of_holds {memory : Memory} {entries : Entries} {slots : Slots}
    {owned : List Loc} (held : HoldsSlots memory.cells entries slots owned) :
    memory.definedSlots slots = slots := by
  induction entries generalizing slots owned with
  | nil =>
      obtain ⟨rfl, -⟩ := held
      rfl
  | cons entry rest ih =>
      obtain ⟨child, later, mine, others, rfl, valued, slotted, -⟩ := held
      have tail := ih slotted
      simp only [Memory.definedSlots] at tail ⊢
      simp [defined_of_holds valued, tail]

end TboxFramework.Config

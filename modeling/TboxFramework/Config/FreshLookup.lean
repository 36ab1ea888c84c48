import TboxFramework.Config.ValidationEffects

/-!
# Lookups in a freshly parsed tree

A document without aliases shows a tree. The first lookup in it finds what the
key path leads to in the tree: the nodes it re-points lie above the one it reaches.
-/

namespace TboxFramework.Config

open TboxFramework.Store (Bytes)

set_option autoImplicit false

namespace NodeGraph

mutual

/-- The tree at a node. -/
def Shows (graph : NodeGraph) : Yaml → Nat → Prop
  | .null, node => graph.content node = .null
  | .scalar text, node => graph.content node = .scalar text
  | .sequence items, node =>
      ∃ nodes, graph.content node = .sequence nodes ∧ ShowsItems graph items nodes
  | .map entries, node =>
      ∃ pairs, graph.content node = .map pairs ∧ ShowsPairs graph entries pairs

def ShowsItems (graph : NodeGraph) : List Yaml → List Nat → Prop
  | [], nodes => nodes = []
  | item :: rest, nodes =>
      ∃ node later, nodes = node :: later ∧ Shows graph item node ∧ ShowsItems graph rest later

def ShowsPairs (graph : NodeGraph) : Entries → List (Nat × Nat) → Prop
  | [], pairs => pairs = []
  | (key, value) :: rest, pairs =>
      ∃ name node later, pairs = (name, node) :: later ∧ Shows graph key name ∧
        Shows graph value node ∧ ShowsPairs graph rest later

end

variable {graph after : NodeGraph}

mutual

/-- A node shows at most one tree. -/
theorem shows_unique : (tree : Yaml) → {other : Yaml} → {node : Nat} → Shows graph tree node →
    Shows graph other node → tree = other
  | .null, other, node, shown, again => by
      cases other with
      | null => rfl
      | scalar text => cases shown.symm.trans again
      | sequence items => obtain ⟨_, data, _⟩ := again; cases shown.symm.trans data
      | map entries => obtain ⟨_, data, _⟩ := again; cases shown.symm.trans data
  | .scalar text, other, node, shown, again => by
      cases other with
      | null => cases shown.symm.trans again
      | scalar text => cases shown.symm.trans again; rfl
      | sequence items => obtain ⟨_, data, _⟩ := again; cases shown.symm.trans data
      | map entries => obtain ⟨_, data, _⟩ := again; cases shown.symm.trans data
  | .sequence items, other, node, shown, again => by
      obtain ⟨nodes, data, inside⟩ := shown
      cases other with
      | null => cases data.symm.trans again
      | scalar text => cases data.symm.trans again
      | sequence others =>
          obtain ⟨_, same, others⟩ := again
          cases data.symm.trans same
          rw [items_unique items inside others]
      | map entries => obtain ⟨_, other, _⟩ := again; cases data.symm.trans other
  | .map entries, other, node, shown, again => by
      obtain ⟨pairs, data, inside⟩ := shown
      cases other with
      | null => cases data.symm.trans again
      | scalar text => cases data.symm.trans again
      | sequence items => obtain ⟨_, other, _⟩ := again; cases data.symm.trans other
      | map others =>
          obtain ⟨_, same, others⟩ := again
          cases data.symm.trans same
          rw [pairs_unique entries inside others]

theorem items_unique : (items : List Yaml) → {others : List Yaml} → {nodes : List Nat} →
    ShowsItems graph items nodes → ShowsItems graph others nodes → items = others
  | [], others, nodes, shown, again => by
      obtain rfl := shown
      cases others with
      | nil => rfl
      | cons item rest => obtain ⟨_, _, absurd, _⟩ := again; cases absurd
  | item :: rest, others, nodes, shown, again => by
      obtain ⟨node, later, rfl, first, more⟩ := shown
      cases others with
      | nil => cases again
      | cons other remaining =>
          obtain ⟨_, _, same, otherFirst, otherMore⟩ := again
          cases same
          rw [shows_unique item first otherFirst, items_unique rest more otherMore]

theorem pairs_unique : (entries : Entries) → {others : Entries} → {pairs : List (Nat × Nat)} →
    ShowsPairs graph entries pairs → ShowsPairs graph others pairs → entries = others
  | [], others, pairs, shown, again => by
      obtain rfl := shown
      cases others with
      | nil => rfl
      | cons entry rest => obtain ⟨_, _, _, absurd, _⟩ := again; cases absurd
  | (key, value) :: rest, others, pairs, shown, again => by
      obtain ⟨name, node, later, rfl, first, second, more⟩ := shown
      cases others with
      | nil => cases again
      | cons other remaining =>
          obtain ⟨_, _, _, same, otherFirst, otherSecond, otherMore⟩ := again
          cases same
          rw [shows_unique key first otherFirst, shows_unique value second otherSecond,
            pairs_unique rest more otherMore]

end

/-- No node that shows a tree below the size has changed. -/
def KeptBelow (graph after : NodeGraph) (bound : Nat) : Prop :=
  ∀ small place, sizeOf small < bound → Shows graph small place →
    after.content place = graph.content place

mutual

theorem shows_kept {bound : Nat} (same : KeptBelow graph after bound) : (tree : Yaml) →
    {node : Nat} → sizeOf tree < bound → Shows graph tree node → Shows after tree node
  | .null, node, small, shown => (same .null node small shown).trans shown
  | .scalar text, node, small, shown => (same (.scalar text) node small shown).trans shown
  | .sequence items, node, small, shown => by
      have kept := same _ node small shown
      obtain ⟨nodes, data, inside⟩ := shown
      rw [Yaml.sequence.sizeOf_spec] at small
      exact ⟨nodes, kept.trans data, items_kept same items (by omega) inside⟩
  | .map entries, node, small, shown => by
      have kept := same _ node small shown
      obtain ⟨pairs, data, inside⟩ := shown
      rw [Yaml.map.sizeOf_spec] at small
      exact ⟨pairs, kept.trans data, pairs_kept same entries (by omega) inside⟩

theorem items_kept {bound : Nat} (same : KeptBelow graph after bound) : (items : List Yaml) →
    {nodes : List Nat} → sizeOf items < bound → ShowsItems graph items nodes →
    ShowsItems after items nodes
  | [], nodes, small, shown => shown
  | item :: rest, nodes, small, shown => by
      obtain ⟨node, later, split, first, more⟩ := shown
      rw [List.cons.sizeOf_spec] at small
      exact ⟨node, later, split, shows_kept same item (by omega) first,
        items_kept same rest (by omega) more⟩

theorem pairs_kept {bound : Nat} (same : KeptBelow graph after bound) : (entries : Entries) →
    {pairs : List (Nat × Nat)} → sizeOf entries < bound → ShowsPairs graph entries pairs →
    ShowsPairs after entries pairs
  | [], pairs, small, shown => shown
  | (key, value) :: rest, pairs, small, shown => by
      obtain ⟨name, node, later, split, first, second, more⟩ := shown
      rw [List.cons.sizeOf_spec, Prod.mk.sizeOf_spec] at small
      exact ⟨name, node, later, split, shows_kept same key (by omega) first,
        shows_kept same value (by omega) second, pairs_kept same rest (by omega) more⟩

end

theorem shows_of_content {tree : Yaml} {node source : Nat}
    (data : graph.content node = graph.content source) (shown : Shows graph tree source) :
    Shows graph tree node := by
  cases tree with
  | null | scalar text => exact data.trans shown
  | sequence items =>
      obtain ⟨nodes, held, inside⟩ := shown
      exact ⟨nodes, data.trans held, inside⟩
  | map entries =>
      obtain ⟨pairs, held, inside⟩ := shown
      exact ⟨pairs, data.trans held, inside⟩

theorem has_key_of_shows {tree : Yaml} {node : Nat} (shown : Shows graph tree node) (key : Bytes) :
    graph.hasKey key node = tree.hasKey key := by
  unfold hasKey
  cases tree with
  | null => rw [shown]; rfl
  | scalar text => rw [shown]; simp [Yaml.hasKey]
  | sequence items => obtain ⟨_, data, _⟩ := shown; rw [data]; rfl
  | map entries => obtain ⟨_, data, _⟩ := shown; rw [data]; rfl

/-- `operator[]` finds the node of the value that the tree has under the key. -/
theorem find_of_shows {key : Bytes} {entries : Entries} {pairs : List (Nat × Nat)}
    (shown : ShowsPairs graph entries pairs) :
    match graph.find key pairs with
    | some child => ∃ value, Yaml.find key entries = some value ∧ Shows graph value child ∧
        sizeOf value < sizeOf entries
    | none => Yaml.find key entries = none := by
  induction entries generalizing pairs with
  | nil =>
      obtain rfl := shown
      rfl
  | cons entry rest ih =>
      obtain ⟨name, value⟩ := entry
      obtain ⟨nameNode, node, later, rfl, first, second, more⟩ := shown
      unfold find Yaml.find
      rw [has_key_of_shows first key]
      by_cases named : name.hasKey key = true
      · rw [if_pos named, if_pos named]
        refine ⟨value, rfl, second, ?_⟩
        rw [List.cons.sizeOf_spec, Prod.mk.sizeOf_spec]
        omega
      · rw [if_neg named, if_neg named]
        have later := ih more
        split at later
        · next child found =>
            obtain ⟨deeper, there, shows, small⟩ := later
            refine ⟨deeper, there, shows, ?_⟩
            rw [List.cons.sizeOf_spec]
            omega
        · exact later

/-- Re-pointing the node of a tree leaves the smaller trees alone. -/
theorem setRef_keeps {tree : Yaml} {current : Nat} (shown : Shows graph tree current)
    (other : Nat) : KeptBelow graph (graph.setRef current other) (sizeOf tree) := by
  intro small place smaller shows
  by_cases here : place = current
  · rw [here] at shows
    rw [shows_unique small shows shown] at smaller
    exact absurd smaller (Nat.lt_irrefl _)
  · rw [setRef_content, if_neg here]

/-! ## The lookup -/

/-- What a lookup returns on handles, for what it returns in the tree. -/
inductive Returns (graph : NodeGraph) : Option Nat → Option Yaml → Prop
  | node {tree : Yaml} {node : Nat} (shown : Shows graph tree node) :
      Returns graph (some node) (some tree)
  | undefined {node : Nat} (data : graph.content node = .undefined) :
      Returns graph (some node) none
  | null : Returns graph none (some .null)

end NodeGraph

namespace ConfigValidator

open NodeGraph

variable {graph : NodeGraph}

/-- Past a missing key there is nothing to enter. -/
theorem lookup_undefined {parts : List Bytes} {node : Nat}
    (data : graph.content node = .undefined) :
    Returns (getNodeInPlace parts graph node).1 (getNodeInPlace parts graph node).2
      (getNode none parts) := by
  cases parts with
  | nil => exact .undefined data
  | cons part rest =>
      unfold getNodeInPlace
      rw [data]
      exact .null

/-- The handles of a missing key: the inserted node stays undefined. -/
theorem lookup_missing {current : Nat} {pairs : List (Nat × Nat)} {part : Bytes}
    {rest : List Bytes} (closed : graph.Closed) (known : current < graph.nextNode)
    (data : graph.content current = .map pairs) (missing : graph.find part pairs = none) :
    Returns (getNodeInPlace (part :: rest) graph current).1
      (getNodeInPlace (part :: rest) graph current).2 (getNode none rest) := by
  obtain ⟨contents, undefined⟩ := insert_content closed known pairs part
  have inserted : graph.index current pairs part =
      (graph.insertUndefined current pairs part, graph.nextNode + 1) := by
    unfold index
    rw [missing]
    rfl
  have apart : (graph.insertUndefined current pairs part).ref current ≠
      (graph.insertUndefined current pairs part).ref (graph.nextNode + 1) := by
    intro same
    have held := contents current known
    rw [if_pos rfl] at held
    unfold content at held undefined
    rw [same, undefined] at held
    cases held
  have fresh : graph.nextNode + 1 ≠ current := by omega
  unfold getNodeInPlace
  simp only [data, inserted, assign, if_neg apart]
  apply lookup_undefined
  rw [setRef_content, if_neg fresh]
  exact undefined

/-- A lookup in a graph that shows a tree returns what it returns in the tree. -/
theorem lookup_returns {parts : List Bytes} {tree : Yaml} {current : Nat} (closed : graph.Closed)
    (known : current < graph.nextNode) (shown : Shows graph tree current) :
    Returns (getNodeInPlace parts graph current).1 (getNodeInPlace parts graph current).2
      (getNode (some tree) parts) := by
  induction parts generalizing graph tree current with
  | nil => exact .node shown
  | cons part rest ih =>
      cases tree with
      | null =>
          unfold getNodeInPlace
          rw [shown]
          exact .null
      | scalar text =>
          unfold getNodeInPlace
          rw [shown]
          exact .null
      | sequence items =>
          obtain ⟨nodes, data, -⟩ := shown
          unfold getNodeInPlace
          rw [data]
          exact .null
      | map entries =>
          have whole := shown
          obtain ⟨pairs, data, inside⟩ := shown
          have looked := @find_of_shows graph part entries pairs inside
          cases found : graph.find part pairs with
          | none =>
              rw [found] at looked
              dsimp only at looked
              unfold getNode
              rw [looked]
              exact lookup_missing closed known data found
          | some child =>
              rw [found] at looked
              obtain ⟨value, there, shows, small⟩ := looked
              have stepped := lookup_step_spec closed known data part
              have indexed : graph.index current pairs part = (graph, child) := by
                unfold index
                rw [found]
              unfold getNodeInPlace getNode
              rw [data, there]
              simp only [indexed] at stepped ⊢
              apply ih stepped.closed stepped.known
              unfold assign
              split
              · next same => exact shows_of_content (by rw [content, content, same]) shows
              · apply shows_kept (setRef_keeps whole child) value _ shows
                rw [Yaml.map.sizeOf_spec]
                omega

theorem has_type_of_shows {tree : Yaml} {node : Nat} (shown : Shows graph tree node)
    (expected : ConfigType) :
    dataHasType (graph.content node) expected = checkType tree expected := by
  cases tree with
  | null | scalar text => rw [shown]; cases expected <;> rfl
  | sequence items => obtain ⟨nodes, data, -⟩ := shown; rw [data]; cases expected <;> rfl
  | map entries => obtain ⟨pairs, data, -⟩ := shown; rw [data]; cases expected <;> rfl

theorem seen_of_shows {tree : Yaml} {node : Nat} (shown : Shows graph tree node) :
    seen graph (some node) = if tree.isNull then none else some (graph.content node) := by
  unfold seen
  cases tree with
  | null => simp [show graph.content node = .null from shown, Yaml.isNull]
  | scalar text => simp [show graph.content node = .scalar text from shown, Yaml.isNull]
  | sequence items => obtain ⟨nodes, data, -⟩ := shown; simp [data, Yaml.isNull]
  | map entries => obtain ⟨pairs, data, -⟩ := shown; simp [data, Yaml.isNull]

/-- One rule on a freshly parsed tree gets the verdict of the tree. -/
theorem single_rule_verdict {tree : Yaml} {root : Nat} (closed : graph.Closed)
    (known : root < graph.nextNode) (shown : Shows graph tree root) (rule : ValidationRule) :
    (validateInPlace [rule] graph root).2 = validate [rule] tree := by
  have returned := @lookup_returns graph (splitPath rule.path) tree root closed known shown
  rw [validate_cons]
  unfold validate
  generalize (getNodeInPlace (splitPath rule.path) graph root).1 = walked at returned ⊢
  generalize (getNodeInPlace (splitPath rule.path) graph root).2 = reached at returned ⊢
  generalize getNode (some tree) (splitPath rule.path) = looked at returned ⊢
  unfold complaint
  cases returned with
  | undefined data => cases rule.required <;> simp [seen, data, validate, validateInPlace]
  | null => cases rule.required <;> simp [seen, validate, validateInPlace]
  | @node deeper place shows =>
      rw [seen_of_shows shows]
      cases deeper with
      | null => cases rule.required <;> simp [Yaml.isNull, validate, validateInPlace]
      | scalar | sequence | map =>
          simp only [Yaml.isNull, Bool.false_eq_true, if_false, has_type_of_shows shows]
          split <;> simp_all [validate, validateInPlace]

end ConfigValidator

end TboxFramework.Config

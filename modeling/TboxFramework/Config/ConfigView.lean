import TboxFramework.Config.FreshLookup

/-!
# The view of a configuration

A view keeps the text of its tree and parses it for every question. A section is
the view of a node, and looking a key up in it is looking up the joined key.
-/

namespace TboxFramework.Config

open TboxFramework.Store (Bytes text)

set_option autoImplicit false

/-- `as<T>()` of a scalar. None is a conversion that throws. -/
structure ScalarConversions (Double : Type) where
  asInt : Bytes → Option Int
  asDouble : Bytes → Option Double
  asBool : Bytes → Option Bool

variable {Text Double : Type} (library : YamlLibrary Text)
  (conversions : ScalarConversions Double)

/-- `IsScalar` and the text of the scalar. -/
def Yaml.scalarText : Yaml → Option Bytes
  | .scalar text => some text
  | _ => none

/-- `IsSequence` and the items. -/
def Yaml.items : Yaml → Option (List Yaml)
  | .sequence items => some items
  | _ => none

namespace ImmutableConfigView

/-- The constructor dumps the node. -/
def make (root : Yaml) : ImmutableConfigView Text := ⟨library.dump root⟩

def splitPath (key : Bytes) : List Bytes := (key.splitOn 46).filter (· ≠ [])

/-- The loop of `getNode`: none is an undefined node. -/
def descend : Option Yaml → List Bytes → Option Yaml
  | current, [] => current
  | none, _ :: _ => some .null
  | some (.map entries), part :: rest => descend (Yaml.find part entries) rest
  | some _, _ :: _ => some .null

variable (view : ImmutableConfigView Text) (key : Bytes)

/-- An error is the exception of `YAML::Load`, which every getter catches. -/
def getNode : Except Bytes (Option Yaml) :=
  (library.load view.yamlStr).map fun root => descend (some root) (splitPath key)

/-- The node of a lookup that neither throws nor ends undefined. -/
def definedNode : Option Yaml :=
  match getNode library view key with
  | .ok node => node
  | .error _ => none

def has : Bool :=
  match definedNode library view key with
  | some node => !node.isNull
  | none => false

/-- The scalar getters: a node of another kind or a failed conversion gives the default. -/
def getScalar {Value : Type} (convert : Bytes → Option Value) (defaultValue : Value) : Value :=
  (((definedNode library view key).bind Yaml.scalarText).bind convert).getD defaultValue

def getString (defaultValue : Bytes) : Bytes := getScalar library view key some defaultValue

def getInt (defaultValue : Int) : Int :=
  getScalar library view key conversions.asInt defaultValue

def getDouble (defaultValue : Double) : Double :=
  getScalar library view key conversions.asDouble defaultValue

def getBool (defaultValue : Bool) : Bool :=
  getScalar library view key conversions.asBool defaultValue

def getStringList : List Bytes :=
  match (definedNode library view key).bind Yaml.items with
  | some items => items.filterMap Yaml.scalarText
  | none => []

def getSection : Option (ImmutableConfigView Text) :=
  match definedNode library view key with
  | some node => if node.isMap then some (make library node) else none
  | none => none

def toYamlClone : Except Bytes Yaml := library.load view.yamlStr

variable {library conversions view key}

/-! ## Joined keys -/

/-- A view and the validator walk alike. -/
theorem descend_eq_getNode (parts : List Bytes) (node : Option Yaml) :
    descend node parts = ConfigValidator.getNode node parts := by
  induction parts generalizing node with
  | nil => simp [descend, ConfigValidator.getNode]
  | cons part rest ih =>
      cases node with
      | none => rfl
      | some node =>
          cases node with
          | map entries => exact ih _
          | null | scalar text | sequence items => rfl

/-- On handles the walk of a freshly parsed tree reaches a node that shows what it reaches in
the tree, also where it has re-pointed the nodes above. -/
theorem lookup_in_place {graph : NodeGraph} {tree : Yaml} {root : Nat} (closed : graph.Closed)
    (known : root < graph.nextNode) (shown : graph.Shows tree root) (key : Bytes) :
    NodeGraph.Returns (ConfigValidator.getNodeInPlace (splitPath key) graph root).1
      (ConfigValidator.getNodeInPlace (splitPath key) graph root).2
      (descend (some tree) (splitPath key)) := by
  rw [descend_eq_getNode]
  exact ConfigValidator.lookup_returns closed known shown

/-- A dot between two keys puts the parts of the second behind those of the first. -/
theorem split_path_join (front back : Bytes) :
    splitPath (front ++ 46 :: back) = splitPath front ++ splitPath back := by
  unfold splitPath
  rw [List.splitOn_append_cons_self, List.filter_append]

theorem descend_append (node : Option Yaml) (front back : List Bytes) {entries : Entries}
    (reached : descend node front = some (.map entries)) :
    descend node (front ++ back) = descend (some (.map entries)) back := by
  induction front generalizing node with
  | nil =>
      change node = some (.map entries) at reached
      rw [reached]
      rfl
  | cons part rest ih =>
      cases node with
      | none => cases reached
      | some node =>
          cases node with
          | map others => exact ih _ reached
          | null | scalar text | sequence items => cases reached

theorem defined_node_make (root : Yaml) (key : Bytes) :
    definedNode library (make library root) key = descend (some root) (splitPath key) := by
  unfold definedNode getNode make
  rw [library.load_dump]
  rfl

/-- What a section is. -/
theorem section_iff {root : Yaml} {key : Bytes} {part : ImmutableConfigView Text} :
    getSection library (make library root) key = some part ↔
      ∃ entries, descend (some root) (splitPath key) = some (.map entries) ∧
        part = make library (.map entries) := by
  unfold getSection
  rw [defined_node_make]
  cases descend (some root) (splitPath key) with
  | none => simp
  | some node => cases node <;> simp [Yaml.isMap, eq_comm]

/-- A section finds under a key the node that its view finds under the joined key. -/
theorem section_defined_node {root : Yaml} {front : Bytes} {part : ImmutableConfigView Text}
    (sectioned : getSection library (make library root) front = some part) (back : Bytes) :
    definedNode library part back =
      definedNode library (make library root) (front ++ 46 :: back) := by
  obtain ⟨entries, reached, rfl⟩ := section_iff.mp sectioned
  rw [defined_node_make, defined_node_make, split_path_join, descend_append _ _ _ reached]

/-- The node at a key path: where the path runs through maps to a key that is there. -/
theorem at_of_descend (root : Yaml) (parts : List Bytes) (entries : Entries) :
    descend (some root) parts = some (.map entries) ↔ root.at? parts = some (.map entries) := by
  induction parts generalizing root with
  | nil => cases root <;> simp [descend, Yaml.at?]
  | cons part rest ih =>
      cases root with
      | map others =>
          unfold descend Yaml.at?
          cases Yaml.find part others with
          | none => cases rest <;> simp [descend]
          | some child => exact ih child
      | null | scalar text | sequence items => simp [descend, Yaml.at?]

/-- Two ways to ask the same question. -/
structure SameAnswers (conversions : ScalarConversions Double)
    (library : YamlLibrary Text) (part : ImmutableConfigView Text) (short : Bytes)
    (whole : ImmutableConfigView Text) (long : Bytes) : Prop where
  has : has library part short = has library whole long
  getString : ∀ defaultValue, getString library part short defaultValue =
    getString library whole long defaultValue
  getInt : ∀ defaultValue, getInt library conversions part short defaultValue =
    getInt library conversions whole long defaultValue
  getDouble : ∀ defaultValue, getDouble library conversions part short defaultValue =
    getDouble library conversions whole long defaultValue
  getBool : ∀ defaultValue, getBool library conversions part short defaultValue =
    getBool library conversions whole long defaultValue
  getStringList : getStringList library part short = getStringList library whole long
  isNull : getSection library part short = none ↔ getSection library whole long = none
  sameTree : ∀ inner outer, getSection library part short = some inner →
    getSection library whole long = some outer →
    toYamlClone library inner = toYamlClone library outer

theorem same_answers {part whole : ImmutableConfigView Text} {short long : Bytes}
    (same : definedNode library part short = definedNode library whole long) :
    SameAnswers conversions library part short whole long := by
  have scalars : ∀ {Value : Type} (convert : Bytes → Option Value) (defaultValue : Value),
      getScalar library part short convert defaultValue =
        getScalar library whole long convert defaultValue := by
    intro Value convert defaultValue
    unfold getScalar
    rw [same]
  have sections : getSection library part short = getSection library whole long := by
    unfold getSection
    rw [same]
  refine ⟨?_, scalars _, scalars _, scalars _, scalars _, ?_, ?_, ?_⟩
  · unfold ImmutableConfigView.has
    rw [same]
  · unfold ImmutableConfigView.getStringList
    rw [same]
  · rw [sections]
  · intro inner outer shortened lengthened
    rw [sections, lengthened] at shortened
    cases shortened
    rfl

/-- A section answers a key as its view answers the joined key, and a key has a section
exactly when there is a map at the names between its dots. -/
theorem sections_compose (library : YamlLibrary Text) (conversions : ScalarConversions Double)
    (root : Yaml) (a : Bytes) :
    (∀ part, getSection library (make library root) a = some part → ∀ b,
      SameAnswers conversions library part b (make library root) (a ++ text "." ++ b)) ∧
    ((getSection library (make library root) a).isSome ↔
      ∃ entries, root.at? ((a.splitOn 46).filter fun name => name ≠ []) = some (.map entries)) := by
  constructor
  · intro part sectioned b
    apply same_answers
    rw [section_defined_node sectioned, List.append_assoc]
    rfl
  · change _ ↔ ∃ entries, root.at? (splitPath a) = some (.map entries)
    rw [Option.isSome_iff_exists]
    constructor
    · intro ⟨part, sectioned⟩
      obtain ⟨entries, reached, -⟩ := section_iff.mp sectioned
      exact ⟨entries, (at_of_descend root _ entries).mp reached⟩
    · intro ⟨entries, there⟩
      exact ⟨_, section_iff.mpr ⟨entries, (at_of_descend root _ entries).mpr there, rfl⟩⟩

end ImmutableConfigView

end TboxFramework.Config

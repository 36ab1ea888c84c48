import TboxFramework.Config.KeyPaths
import TboxFramework.Config.MergerRefinement

/-!
# The last layer that touches a path decides it

The merged tree is described path by path, without the order of the merge steps:
a later layer can define a path, cut it off, or leave it to the layers before it.
-/

namespace TboxFramework.Config

open TboxFramework.Store (Bytes text)
open LayeredOverride

set_option autoImplicit false

/-- The last layer that defines the path or makes a proper prefix of it a non-map. -/
def LastTouching (documents : List Yaml) (path : List Bytes) (index : Nat) (document : Yaml) :
    Prop :=
  documents[index]? = some document ∧ (document.Defined path ∨ document.Cut path) ∧
    ∀ later other, index < later → documents[later]? = some other →
      ¬(other.Defined path ∨ other.Cut path)

/-- The node of the merged tree at a path, by the layer that decides the path. -/
def FollowsLayers (documents : List Yaml) (merged : Yaml) (path : List Bytes) : Prop :=
  ((∀ index document, ¬LastTouching documents path index document) →
      merged.nodeAt path = none) ∧
    ∀ index document, LastTouching documents path index document →
      (document.Cut path → merged.nodeAt path = none) ∧
      ∀ node, document.nodeAt path = some node →
        (node.isMap = false → merged.nodeAt path = some node) ∧
        (node.isMap = true → ∃ entries, merged.nodeAt path = some (.map entries))

/-- A map of the merged tree has exactly the keys that the layers decide to be there. -/
def KeysFollow (documents : List Yaml) (merged : Yaml) (path : List Bytes) : Prop :=
  ∀ entries, merged.nodeAt path = some (.map entries) →
    (∀ key ∈ entries.map Prod.fst, ∃ name, key = .scalar name) ∧ (entries.map Prod.fst).Nodup ∧
    ∀ name, .scalar name ∈ entries.map Prod.fst ↔
      ∃ index document, LastTouching documents (path ++ [name]) index document ∧
        document.Defined (path ++ [name])

theorem decider_iff_last_touching {documents : List Yaml} {path : List Bytes} {document : Yaml} :
    decider Yaml.touches documents path = some document ↔
      ∃ index, LastTouching documents path index document := by
  constructor
  · intro decides
    obtain ⟨front, back, rfl, touched, untouched⟩ := decider_eq_some.mp decides
    refine ⟨front.length, by simp, (Yaml.touches_iff document path).mp touched, ?_⟩
    intro later other behind placed touching
    have member : other ∈ back := by
      rw [List.getElem?_append_right (Nat.le_of_lt behind)] at placed
      obtain ⟨offset, shifted⟩ := Nat.exists_eq_add_of_lt behind
      rw [show later - front.length = offset + 1 by omega, List.getElem?_cons_succ] at placed
      exact List.mem_of_getElem? placed
    have refuted := untouched other member
    rw [(Yaml.touches_iff other path).mpr touching] at refuted
    cases refuted
  · rintro ⟨index, placed, touched, last⟩
    refine decider_of_last placed ((Yaml.touches_iff document path).mpr touched) ?_
    intro later other behind reached
    rw [Bool.eq_false_iff, Ne, Yaml.touches_iff]
    exact last later other behind reached

theorem no_decider_iff {documents : List Yaml} {path : List Bytes} :
    decider Yaml.touches documents path = none ↔
      ∀ index document, ¬LastTouching documents path index document := by
  constructor
  · intro nothing index document last
    rw [decider_iff_last_touching.mpr ⟨index, last⟩] at nothing
    cases nothing
  · intro nothing
    refine Option.eq_none_iff_forall_ne_some.mpr ?_
    intro document decides
    obtain ⟨index, last⟩ := decider_iff_last_touching.mp decides
    exact nothing index document last

section Reading

variable {documents : List Yaml} {merged : Yaml}

/-- The law of the fold, in the words of the layers. -/
theorem follows_layers {path : List Bytes}
    (decided : merged.look path =
      match decider Yaml.touches documents path with
      | some document => document.look path
      | none => .absent) :
    FollowsLayers documents merged path := by
  constructor
  · intro nothing
    rw [no_decider_iff.mpr nothing] at decided
    exact Yaml.reading_eq_absent.mp decided
  · intro index document last
    rw [decider_iff_last_touching.mpr ⟨index, last⟩] at decided
    refine ⟨fun cut => ?_, fun node placed => ⟨fun whole => ?_, fun kind => ?_⟩⟩
    · have hidden := Yaml.reading_eq_absent.mpr (Yaml.not_defined_of_cut cut)
      exact Yaml.reading_eq_absent.mp (decided.trans hidden)
    · have shown := Yaml.reading_eq_value.mpr ⟨placed, whole⟩
      exact (Yaml.reading_eq_value.mp (decided.trans shown)).1
    · obtain ⟨entries, rfl⟩ := Yaml.is_map_iff.mp kind
      have shown := Yaml.reading_eq_submap.mpr ⟨entries, placed⟩
      exact Yaml.reading_eq_submap.mp (decided.trans shown)

theorem defined_iff_decided {path : List Bytes}
    (decided : merged.look path =
      match decider Yaml.touches documents path with
      | some document => document.look path
      | none => .absent) :
    merged.Defined path ↔
      ∃ index document, LastTouching documents path index document ∧ document.Defined path := by
  have present : ∀ document : Yaml, document.Defined path ↔ document.look path ≠ .absent := by
    intro document
    rw [Ne, Yaml.look, Yaml.reading_eq_absent, ← Ne, Option.ne_none_iff_exists']
    rfl
  rw [present, decided]
  cases found : decider Yaml.touches documents path with
  | none =>
      refine ⟨fun refuted => absurd rfl refuted, ?_⟩
      rintro ⟨index, document, last, -⟩
      exact absurd last (no_decider_iff.mp found index document)
  | some document =>
      rw [← present]
      constructor
      · intro shown
        obtain ⟨index, last⟩ := decider_iff_last_touching.mp found
        exact ⟨index, document, last, shown⟩
      · rintro ⟨index, other, last, shown⟩
        cases found.symm.trans (decider_iff_last_touching.mpr ⟨index, last⟩)
        exact shown

theorem well_formed_at {node found : Yaml} (formed : node.WellFormed) {path : List Bytes}
    (placed : node.at? path = some found) : found.WellFormed := by
  induction path generalizing node with
  | nil =>
      cases (Yaml.at_nil node).symm.trans placed
      exact formed
  | cons key rest ih =>
      cases kind : node.isMap with
      | false => cases (Yaml.at_cons_of_not_map kind key rest).symm.trans placed
      | true =>
          obtain ⟨entries, rfl⟩ := Yaml.is_map_iff.mp kind
          rw [Yaml.at_map_cons] at placed
          obtain ⟨child, reached, below⟩ := Option.bind_eq_some_iff.mp placed
          exact ih (formed.find reached) below

theorem keys_follow (formed : merged.WellFormed)
    (decided : ∀ path, merged.look path =
      match decider Yaml.touches documents path with
      | some document => document.look path
      | none => .absent) (path : List Bytes) :
    KeysFollow documents merged path := by
  intro entries placed
  unfold Yaml.nodeAt at placed
  split at placed
  · cases placed
  · next rooted =>
      obtain ⟨named, distinct, -⟩ := (Yaml.well_formed_map _).mp (well_formed_at formed placed)
      refine ⟨List.forall_mem_map.mpr named, distinct, fun name => ?_⟩
      rw [← defined_iff_decided (decided (path ++ [name]))]
      have below : merged.nodeAt (path ++ [name]) = Yaml.find name entries := by
        rw [Yaml.nodeAt, if_neg rooted, Yaml.at_append, placed, Option.bind_some,
          Yaml.at_map_cons]
        cases Yaml.find name entries <;> simp
      rw [Yaml.Defined, below, ← Option.ne_none_iff_exists', Ne, Yaml.find_eq_none, not_not]

end Reading

/-- Every list of documents can be held in memory. -/
theorem exists_held (documents : List Yaml) (memory : Memory) :
    ∃ after nodes owned, Updated memory after [] owned ∧
      List.Forall₂ (Held after) documents nodes := by
  induction documents generalizing memory with
  | nil => exact ⟨memory, [], [], updated_self (by simp) List.nodup_nil, .nil⟩
  | cons document rest ih =>
      obtain ⟨mine, holds, front⟩ := build_holds memory document
      obtain ⟨after, nodes, others, back, each⟩ := ih (memory.build document).1
      exact ⟨after, _ :: nodes, mine ++ others, front.beside back,
        .cons (back.held ⟨mine, holds, front.within⟩) each⟩

/-- Layers that are maps or null, held in memory as trees: the merger returns a node
that shows at every path what the last touching layer shows there, and it writes to
no location of an input. -/
theorem last_touching_layer_decides (documents : List Yaml)
    (rooted : ∀ document ∈ documents, document.IsDocument)
    (formed : ∀ document ∈ documents, document.WellFormed) (memory : Memory) (nodes : List Loc)
    (held : List.Forall₂ (Held memory) documents nodes) :
    ∃ enough, ∀ fuel, enough ≤ fuel → ∃ after result merged,
      ConfigMerger.mergeMultiple fuel memory nodes = .ok (after, result) ∧
      Held after merged result ∧
      (∀ path, FollowsLayers documents merged path) ∧
      (∀ path, KeysFollow documents merged path) ∧
      List.Forall₂ (Held after) documents nodes ∧
      ∀ place, place < memory.next → after.cells place = memory.cells place := by
  obtain ⟨merged, done, sound, decided⟩ := Yaml.merge_multiple_decided
    (fun document member => ⟨rooted document member, formed document member⟩)
  obtain ⟨enough, produces⟩ := merge_multiple_produces documents
  refine ⟨enough, fun fuel sufficient => ?_⟩
  have outcome := produces fuel sufficient memory nodes held
  rw [done] at outcome
  obtain ⟨after, result, owned, returned, holds, update⟩ := outcome
  exact ⟨after, result, merged, returned, ⟨owned, holds, update.within⟩,
    fun path => follows_layers (decided path), keys_follow sound.2 decided,
    held.imp fun _ _ kept => update.held kept,
    fun place older => update.frame place older List.not_mem_nil⟩

/-- A map, a scalar in its place, and a map again: the first map does not come back. -/
theorem last_touching_layer_decides_restored :
    ∃ memory nodes enough, ∀ fuel, enough ≤ fuel → ∃ after result merged,
      ConfigMerger.mergeMultiple fuel memory nodes = .ok (after, result) ∧
      Held after merged result ∧
      FollowsLayers
        [.map [(.scalar (text "log"), .map [(.scalar (text "level"), .scalar (text "info"))])],
          .map [(.scalar (text "log"), .scalar (text "off"))], .null,
          .map [(.scalar (text "log"), .map [(.scalar (text "strict"), .scalar (text "true"))])]]
        merged [text "log", text "level"] := by
  obtain ⟨memory, nodes, -, -, held⟩ := exists_held
    [.map [(.scalar (text "log"), .map [(.scalar (text "level"), .scalar (text "info"))])],
      .map [(.scalar (text "log"), .scalar (text "off"))], .null,
      .map [(.scalar (text "log"), .map [(.scalar (text "strict"), .scalar (text "true"))])]]
    ⟨fun _ => .undefined, 0⟩
  obtain ⟨enough, decides⟩ := last_touching_layer_decides _ (by simp [Yaml.IsDocument])
    (by simp [Yaml.WellFormed, Yaml.EntriesFormed]) memory nodes held
  refine ⟨memory, nodes, enough, fun fuel sufficient => ?_⟩
  obtain ⟨after, result, merged, done, kept, follows, -⟩ := decides fuel sufficient
  exact ⟨after, result, merged, done, kept, follows _⟩

end TboxFramework.Config

import TboxFramework.Config.MergedTree

/-!
# Readings of a key path

A layer touches a path when it defines it or cuts it off with a value that is no
map. Merging two documents shows the override where it touches and the base
everywhere else.
-/

namespace TboxFramework.Config.Yaml

open TboxFramework.Store (Bytes)
open LayeredOverride

set_option autoImplicit false

/-- A map is read as a map only: its entries are read at their own paths. -/
inductive Reading
  | absent
  | submap
  | value (node : Yaml)

def reading : Option Yaml → Reading
  | none => .absent
  | some (.map _) => .submap
  | some node => .value node

def look (document : Yaml) (path : List Bytes) : Reading := reading (document.nodeAt path)

def Defined (document : Yaml) (path : List Bytes) : Prop := ∃ node, document.nodeAt path = some node

/-- A proper prefix of the path holds something that is no map. -/
def Cut (document : Yaml) (path : List Bytes) : Prop :=
  ∃ above node, above <+: path ∧ above ≠ path ∧ document.nodeAt above = some node ∧
    node.isMap = false

def touchesBelow : Yaml → List Bytes → Bool
  | _, [] => true
  | .map entries, key :: rest =>
      match find key entries with
      | some child => child.touchesBelow rest
      | none => false
  | _, _ :: _ => true

def touches (document : Yaml) (path : List Bytes) : Bool :=
  !document.isNull && document.touchesBelow path

theorem reading_eq_absent {node : Option Yaml} : reading node = .absent ↔ node = none := by
  cases node with
  | none => simp [reading]
  | some node => cases node <;> simp [reading]

theorem reading_eq_submap {node : Option Yaml} :
    reading node = .submap ↔ ∃ entries, node = some (.map entries) := by
  cases node with
  | none => simp [reading]
  | some node => cases node <;> simp [reading]

theorem reading_eq_value {node : Option Yaml} {whole : Yaml} :
    reading node = .value whole ↔ node = some whole ∧ whole.isMap = false := by
  cases node with
  | none => simp [reading]
  | some node =>
      cases node <;> simp only [reading, Option.some.injEq, Reading.value.injEq, reduceCtorEq,
        false_iff, not_and, iff_self_and]
      all_goals rintro rfl
      all_goals simp [isMap]

@[simp] theorem at_nil (node : Yaml) : node.at? [] = some node := by
  cases node <;> rfl

theorem at_cons_of_not_map {node : Yaml} (whole : node.isMap = false) (key : Bytes)
    (rest : List Bytes) : node.at? (key :: rest) = none := by
  cases node <;> first | rfl | cases whole

theorem at_map_cons (entries : Entries) (key : Bytes) (rest : List Bytes) :
    (Yaml.map entries).at? (key :: rest) = (find key entries).bind fun child => child.at? rest := by
  rw [at?]
  cases find key entries <;> rfl

theorem touches_below_cons_of_not_map {node : Yaml} (whole : node.isMap = false) (key : Bytes)
    (rest : List Bytes) : node.touchesBelow (key :: rest) = true := by
  cases node <;> first | rfl | cases whole

theorem touches_below_nil (node : Yaml) : node.touchesBelow [] = true := by
  cases node <;> rfl

/-- Touching a path in the words of its two cases. -/
theorem touches_below_iff (node : Yaml) (path : List Bytes) :
    node.touchesBelow path = true ↔
      (∃ found, node.at? path = some found) ∨
        ∃ above found, above <+: path ∧ above ≠ path ∧ node.at? above = some found ∧
          found.isMap = false := by
  induction path generalizing node with
  | nil => simp [touches_below_nil]
  | cons key rest ih =>
      cases kind : node.isMap with
      | false =>
          simp only [touches_below_cons_of_not_map kind, at_cons_of_not_map kind, true_iff]
          exact .inr ⟨[], node, List.nil_prefix, by simp, at_nil node, kind⟩
      | true =>
          obtain ⟨entries, rfl⟩ := is_map_iff.mp kind
          cases found : find key entries with
          | none =>
              simp only [touchesBelow, found, at_map_cons, Option.bind_none, reduceCtorEq,
                exists_false, false_or, Bool.false_eq_true, false_iff]
              rintro ⟨above, whole, below, -, reached, flat⟩
              cases above with
              | nil =>
                  cases (at_nil _).symm.trans reached
                  cases flat
              | cons name above =>
                  obtain ⟨rfl, -⟩ := List.cons_prefix_cons.mp below
                  simp [at_map_cons, found] at reached
          | some child =>
              simp only [touchesBelow, found, at_map_cons, Option.bind_some, ih child]
              refine or_congr_right ⟨?_, ?_⟩
              · rintro ⟨above, whole, below, proper, reached, flat⟩
                exact ⟨key :: above, whole, List.cons_prefix_cons.mpr ⟨rfl, below⟩,
                  by simpa using proper, by simpa [at_map_cons, found] using reached, flat⟩
              · rintro ⟨above, whole, below, proper, reached, flat⟩
                cases above with
                | nil =>
                    cases (at_nil _).symm.trans reached
                    cases flat
                | cons name above =>
                    obtain ⟨rfl, shorter⟩ := List.cons_prefix_cons.mp below
                    exact ⟨above, whole, shorter, by simpa using proper,
                      by simpa [at_map_cons, found] using reached, flat⟩

theorem touches_iff (document : Yaml) (path : List Bytes) :
    document.touches path = true ↔ document.Defined path ∨ document.Cut path := by
  unfold touches Defined Cut nodeAt
  cases document.isNull with
  | true => simp
  | false => simpa using touches_below_iff document path

/-- A path below something that is no map is absent. -/
theorem look_of_untouched {document : Yaml} {path : List Bytes}
    (untouched : document.touches path = false) : document.look path = .absent := by
  refine reading_eq_absent.mpr (Option.eq_none_iff_forall_ne_some.mpr ?_)
  intro node found
  have touched := (touches_iff document path).mpr (.inl ⟨node, found⟩)
  rw [untouched] at touched
  cases touched

theorem at_append (node : Yaml) (above below : List Bytes) :
    node.at? (above ++ below) = (node.at? above).bind fun child => child.at? below := by
  induction above generalizing node with
  | nil => simp
  | cons key above ih =>
      cases kind : node.isMap with
      | false => simp [at_cons_of_not_map kind]
      | true =>
          obtain ⟨entries, rfl⟩ := is_map_iff.mp kind
          rw [List.cons_append, at_map_cons, at_map_cons]
          cases find key entries with
          | none => rfl
          | some child => exact ih child

theorem not_defined_of_cut {document : Yaml} {path : List Bytes} (cut : document.Cut path) :
    document.nodeAt path = none := by
  obtain ⟨above, whole, ⟨below, rfl⟩, proper, reached, flat⟩ := cut
  unfold nodeAt at reached ⊢
  cases rooted : document.isNull with
  | true => rfl
  | false =>
      simp only [rooted, Bool.false_eq_true, if_false] at reached ⊢
      cases below with
      | nil => simp at proper
      | cons key rest => rw [at_append, reached, Option.bind_some, at_cons_of_not_map flat]

/-! ## The law of one merge -/

/-- What a base node, if there is one, shows at a path. -/
def lookBelow (base : Option Yaml) (path : List Bytes) : Reading :=
  reading (base.bind fun node => node.at? path)

theorem look_merge_value {base : Option Yaml} {overlay merged : Yaml} (formed : WellFormed overlay)
    (done : mergeValue base overlay = some merged) (path : List Bytes) :
    lookBelow (some merged) path =
      if overlay.touchesBelow path then lookBelow (some overlay) path else lookBelow base path := by
  induction path generalizing base overlay merged with
  | nil =>
      -- A map stays a map, and everything else is taken whole.
      rw [touches_below_nil, if_pos rfl]
      by_cases both : (∃ inner, base = some (.map inner)) ∧ ∃ entries, overlay = .map entries
      · obtain ⟨⟨inner, rfl⟩, entries, rfl⟩ := both
        rw [merge_value_maps, Option.map_eq_some_iff] at done
        obtain ⟨combined, -, rfl⟩ := done
        rfl
      · have whole : mergeValue base overlay = some overlay := by
          cases kind : overlay.isMap with
          | false => exact merge_value_of_not_map base kind
          | true =>
              exact merge_value_replaces fun inner same =>
                both ⟨⟨inner, same⟩, is_map_iff.mp kind⟩
        cases whole.symm.trans done
        rfl
  | cons key rest ih =>
      cases kind : overlay.isMap with
      | false =>
          cases (merge_value_of_not_map base kind).symm.trans done
          rw [touches_below_cons_of_not_map kind, if_pos rfl]
      | true =>
          obtain ⟨entries, rfl⟩ := is_map_iff.mp kind
          by_cases both : ∃ inner, base = some (.map inner)
          · obtain ⟨inner, rfl⟩ := both
            rw [merge_value_maps, Option.map_eq_some_iff] at done
            obtain ⟨combined, done, rfl⟩ := done
            have decided := find_merge_entries formed done key
            simp only [lookBelow, Option.bind_some, at_map_cons, touchesBelow]
            cases found : find key entries with
            | none =>
                rw [found] at decided
                simp [decided]
            | some value =>
                rw [found] at decided
                obtain ⟨child, valued, placed⟩ := decided
                rw [placed]
                exact ih (formed.find found) valued
          · -- The base has no map here, so nothing is below it.
            cases (merge_value_replaces fun inner same => both ⟨inner, same⟩).symm.trans done
            have nothing : lookBelow base (key :: rest) = .absent := by
              cases base with
              | none => rfl
              | some node =>
                  cases flat : node.isMap with
                  | false => simp [lookBelow, at_cons_of_not_map flat, reading]
                  | true =>
                      obtain ⟨inner, rfl⟩ := is_map_iff.mp flat
                      exact absurd ⟨inner, rfl⟩ both
            split
            · rfl
            · next untouched =>
                rw [nothing]
                refine reading_eq_absent.mpr (Option.eq_none_iff_forall_ne_some.mpr ?_)
                intro node reached
                exact untouched ((touches_below_iff _ _).mpr (.inl ⟨node, reached⟩))

/-- The root of a configuration file: a map, or nothing at all. -/
def IsDocument : Yaml → Prop
  | .null => True
  | .map _ => True
  | _ => False

def Sound (document : Yaml) : Prop := document.IsDocument ∧ document.WellFormed

theorem merge_overrides {base overlay : Yaml} (lower : base.Sound) (upper : overlay.Sound) :
    ∃ merged, merge base overlay = some merged ∧ merged.Sound ∧
      Overrides look touches base overlay merged := by
  obtain ⟨rooted, grown⟩ := lower
  obtain ⟨shaped, formed⟩ := upper
  cases base with
  | null =>
      refine ⟨overlay, by simp [merge, isNull], ⟨shaped, formed⟩, fun path => ?_⟩
      split
      · rfl
      · next untouched => rw [look_of_untouched (by simpa using untouched)]; rfl
  | map inner =>
      cases overlay with
      | null => exact ⟨.map inner, by simp [merge, isNull], ⟨trivial, grown⟩, fun path => rfl⟩
      | map entries =>
          obtain ⟨merged, done⟩ := merge_value_total (some (.map inner)) (.map entries) formed
          have kept := well_formed_merge_value
            (fun node same => by cases same; exact grown) _ formed merged done
          have same := done
          rw [merge_value_maps, Option.map_eq_some_iff] at same
          obtain ⟨combined, -, rfl⟩ := same
          refine ⟨.map combined, by simpa [merge, isNull] using done, ⟨trivial, kept⟩, ?_⟩
          intro path
          exact look_merge_value formed done path
      | scalar _ => cases shaped
      | sequence _ => cases shaped
  | scalar _ => cases rooted
  | sequence _ => cases rooted

/-- The law of a whole list of layers: the last one that touches a path decides it. -/
theorem merge_multiple_decided {documents : List Yaml}
    (each : ∀ document ∈ documents, document.Sound) :
    ∃ merged, mergeMultiple documents = some merged ∧ merged.Sound ∧
      ∀ path, look merged path =
        match decider touches documents path with
        | some document => look document path
        | none => .absent := by
  cases documents with
  | nil => exact ⟨.null, rfl, ⟨trivial, trivial⟩, fun path => rfl⟩
  | cons first rest =>
      obtain ⟨start, later⟩ := List.forall_mem_cons.mp each
      obtain ⟨merged, done, kept, decided⟩ := fold_overrides
        (fun lower upper below above => merge_overrides below above) later start
      refine ⟨merged, done, kept, ?_⟩
      intro path
      rw [decided path, decider]
      cases decider touches rest path with
      | some document => rfl
      | none =>
          cases touched : first.touches path with
          | true => simp
          | false => simpa using look_of_untouched touched

end TboxFramework.Config.Yaml

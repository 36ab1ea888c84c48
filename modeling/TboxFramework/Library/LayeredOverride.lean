import Mathlib.Data.List.Basic
import Mathlib.Data.Option.Basic

/-!
# Layers that override one another

A layer touches some paths and shows a reading at each path. A combination is an
override when the upper layer shows through exactly where it touches; in a fold
of overrides the last layer that touches a path decides it.
-/

namespace LayeredOverride

set_option autoImplicit false

variable {Layer Path Reading : Type}

/-- The upper layer shows through where it touches, the lower one elsewhere. -/
def Overrides (look : Layer → Path → Reading) (touches : Layer → Path → Bool)
    (lower upper combined : Layer) : Prop :=
  ∀ path, look combined path = if touches upper path then look upper path else look lower path

/-- The last of the layers that touches the path. -/
def decider (touches : Layer → Path → Bool) : List Layer → Path → Option Layer
  | [], _ => none
  | layer :: rest, path =>
      match decider touches rest path with
      | some later => some later
      | none => if touches layer path then some layer else none

variable {touches : Layer → Path → Bool}

theorem decider_eq_none {layers : List Layer} {path : Path} :
    decider touches layers path = none ↔ ∀ layer ∈ layers, touches layer path = false := by
  induction layers with
  | nil => simp [decider]
  | cons layer rest ih =>
      simp only [decider, List.forall_mem_cons, ← ih]
      cases later : decider touches rest path with
      | none => simp
      | some found => simp

/-- A layer that touches the path below layers that do not is the decider. -/
theorem decider_split {front back : List Layer} {layer : Layer} {path : Path}
    (touched : touches layer path = true)
    (untouched : ∀ later ∈ back, touches later path = false) :
    decider touches (front ++ layer :: back) path = some layer := by
  induction front with
  | nil => simp [decider, decider_eq_none.mpr untouched, touched]
  | cons other front ih => simp [decider, ih]

theorem decider_eq_some {layers : List Layer} {path : Path} {layer : Layer} :
    decider touches layers path = some layer ↔
      ∃ front back, layers = front ++ layer :: back ∧ touches layer path = true ∧
        ∀ later ∈ back, touches later path = false := by
  constructor
  · intro decides
    induction layers with
    | nil => simp [decider] at decides
    | cons other rest ih =>
        cases later : decider touches rest path with
        | some found =>
            rw [decider, later] at decides
            obtain ⟨front, back, split, touched, untouched⟩ := ih (later.trans decides)
            exact ⟨other :: front, back, by simp [split], touched, untouched⟩
        | none =>
            simp only [decider, later, Option.ite_none_right_eq_some, Option.some.injEq] at decides
            obtain ⟨touched, rfl⟩ := decides
            exact ⟨[], rest, rfl, touched, decider_eq_none.mp later⟩
  · rintro ⟨front, back, rfl, touched, untouched⟩
    exact decider_split touched untouched

/-- The same by position: the layer with the last index among those that touch. -/
theorem decider_of_last {layers : List Layer} {path : Path} {layer : Layer} {index : Nat}
    (placed : layers[index]? = some layer) (touched : touches layer path = true)
    (last : ∀ later other, index < later → layers[later]? = some other →
      touches other path = false) :
    decider touches layers path = some layer := by
  obtain ⟨inside, same⟩ := List.getElem?_eq_some_iff.mp placed
  have split : layers = layers.take index ++ layer :: layers.drop (index + 1) := by
    rw [← same, List.getElem_cons_drop, List.take_append_drop]
  refine decider_eq_some.mpr ⟨_, _, split, touched, ?_⟩
  intro other member
  obtain ⟨offset, reached⟩ := List.mem_iff_getElem?.mp member
  rw [List.getElem?_drop] at reached
  exact last _ other (by omega) reached

variable {look : Layer → Path → Reading} {combine : Layer → Layer → Option Layer}
  {sound : Layer → Prop}

/-- A fold of overrides over a base layer. -/
theorem fold_overrides
    (combines : ∀ lower upper, sound lower → sound upper → ∃ combined,
      combine lower upper = some combined ∧ sound combined ∧
        Overrides look touches lower upper combined)
    {layers : List Layer} (each : ∀ layer ∈ layers, sound layer) {base : Layer}
    (start : sound base) :
    ∃ combined, layers.foldlM combine base = some combined ∧ sound combined ∧
      ∀ path, look combined path =
        match decider touches layers path with
        | some layer => look layer path
        | none => look base path := by
  induction layers generalizing base with
  | nil => exact ⟨base, rfl, start, fun _ => rfl⟩
  | cons layer rest ih =>
      obtain ⟨next, combined, sound_next, shows⟩ :=
        combines base layer start (each layer (List.mem_cons_self ..))
      obtain ⟨last, folded, sound_last, decided⟩ :=
        ih (fun other member => each other (List.mem_cons_of_mem _ member)) sound_next
      refine ⟨last, by simp [List.foldlM_cons, combined, folded], sound_last, ?_⟩
      intro path
      rw [decided path, decider]
      cases later : decider touches rest path with
      | some found => rfl
      | none =>
          simp only [shows path]
          split <;> simp_all

end LayeredOverride

import TboxFramework.Config.ConfigMerger

/-!
# The merger in memory computes the merged tree

Each operation of the merger leaves one tree updated and every other location
as it was. A map with a focused slot absorbs whatever tree the slot comes to hold.
-/

namespace TboxFramework.Config

open TboxFramework.Store (Bytes)

set_option autoImplicit false

mutual

def depth : Yaml → Nat
  | .map entries => entriesDepth entries + 1
  | _ => 1

def entriesDepth : Entries → Nat
  | [] => 0
  | (_, value) :: rest => max (depth value) (entriesDepth rest)

end

theorem depth_pos (tree : Yaml) : 0 < depth tree := by
  cases tree <;> simp [depth]

theorem read_slots_of_holds {memory : Memory} {fuel : Nat}
    (readable : ∀ tree node owned, depth tree ≤ fuel → Holds memory.cells tree node owned →
      memory.read fuel node = .ok tree)
    {entries : Entries} {slots : Slots} {owned : List Loc} (enough : entriesDepth entries ≤ fuel)
    (held : HoldsSlots memory.cells entries slots owned) :
    Memory.readSlots (memory.read fuel) slots = .ok entries := by
  induction entries generalizing slots owned with
  | nil =>
      obtain ⟨rfl, -⟩ := held
      rfl
  | cons entry rest ih =>
      obtain ⟨key, value⟩ := entry
      obtain ⟨child, later, mine, others, rfl, valued, slotted, -⟩ := held
      simp only [entriesDepth, Nat.max_le] at enough
      simp only [Memory.readSlots, readable value child mine enough.1 valued, ih enough.2 slotted]

theorem read_of_holds {memory : Memory} {fuel : Nat} {tree : Yaml} {node : Loc}
    {owned : List Loc} (enough : depth tree ≤ fuel) (held : Holds memory.cells tree node owned) :
    memory.read fuel node = .ok tree := by
  induction fuel generalizing tree node owned with
  | zero => exact absurd enough (Nat.not_le.mpr (depth_pos tree))
  | succ fuel ih =>
      unfold Memory.read
      cases kind : tree.isMap with
      | false => rw [((holds_leaf kind _ _).mp held).1]
      | true =>
          obtain ⟨entries, rfl⟩ := Yaml.is_map_iff.mp kind
          obtain ⟨slots, below, kept, slotted, -⟩ := held
          have inner := read_slots_of_holds (fun tree node owned => ih)
            (Nat.le_of_succ_le_succ enough) slotted
          simp only [kept, defined_slots_of_holds slotted, inner]
          rfl

/-! ## Updates -/

/-- `after` differs from `before` only inside `owned`, which has become `owned'`. -/
structure Updated (before after : Memory) (owned owned' : List Loc) : Prop where
  grows : before.next ≤ after.next
  frame : ∀ place, place < before.next → place ∉ owned → after.cells place = before.cells place
  reused : ∀ place ∈ owned', place ∈ owned ∨ before.next ≤ place
  within : ∀ place ∈ owned', place < after.next
  distinct : owned'.Nodup

theorem updated_self {memory : Memory} {owned : List Loc}
    (within : ∀ place ∈ owned, place < memory.next) (distinct : owned.Nodup) :
    Updated memory memory owned owned where
  grows := Nat.le_refl _
  frame _ _ _ := rfl
  reused _ member := .inl member
  within := within
  distinct := distinct

theorem Updated.trans {first second third : Memory} {owned owned' owned'' : List Loc}
    (front : Updated first second owned owned') (back : Updated second third owned' owned'') :
    Updated first third owned owned'' where
  grows := Nat.le_trans front.grows back.grows
  frame place older outside := by
    have kept : place ∉ owned' := fun member =>
      (front.reused place member).elim outside (Nat.not_le.mpr older)
    rw [back.frame place (Nat.lt_of_lt_of_le older front.grows) kept,
      front.frame place older outside]
  reused place member := by
    rcases back.reused place member with old | fresh
    · exact front.reused place old
    · exact .inr (Nat.le_trans front.grows fresh)
  within := back.within
  distinct := back.distinct

/-- What is held outside the updated locations stays held. -/
theorem Updated.keeps {before after : Memory} {owned owned' : List Loc}
    (update : Updated before after owned owned') {tree : Yaml} {node : Loc} {mine : List Loc}
    (held : Holds before.cells tree node mine) (older : ∀ place ∈ mine, place < before.next)
    (apart : ∀ place ∈ mine, place ∉ owned) : Holds after.cells tree node mine :=
  holds_congr tree (fun place member =>
    update.frame place (older place member) (apart place member)) held

theorem alloc_updated (memory : Memory) (cell : Cell) :
    Updated memory (memory.alloc cell).1 [] [memory.next] where
  grows := Nat.le_succ _
  frame place older _ := Function.update_of_ne (Nat.ne_of_lt older) ..
  reused place member := .inr (Nat.le_of_eq (List.mem_singleton.mp member).symm)
  within place member := by
    rw [List.mem_singleton.mp member]
    exact Nat.lt_succ_self _
  distinct := List.nodup_singleton _

@[simp] theorem alloc_cell (memory : Memory) (cell : Cell) :
    (memory.alloc cell).1.cells memory.next = cell := Function.update_self ..

/-- Two trees built one after the other occupy different locations. -/
theorem Updated.beside {first second third : Memory} {mine others : List Loc}
    (front : Updated first second [] mine) (back : Updated second third [] others) :
    Updated first third [] (mine ++ others) where
  grows := Nat.le_trans front.grows back.grows
  frame place older _ := by
    rw [back.frame place (Nat.lt_of_lt_of_le older front.grows) List.not_mem_nil,
      front.frame place older List.not_mem_nil]
  reused place member := by
    refine .inr ?_
    rcases List.mem_append.mp member with old | fresh
    · exact (front.reused place old).resolve_left List.not_mem_nil
    · exact Nat.le_trans front.grows
        ((back.reused place fresh).resolve_left List.not_mem_nil)
  within place member := by
    rcases List.mem_append.mp member with old | fresh
    · exact Nat.lt_of_lt_of_le (front.within place old) back.grows
    · exact back.within place fresh
  distinct := by
    refine List.nodup_append.mpr ⟨front.distinct, back.distinct, ?_⟩
    rintro place old _ fresh rfl
    exact absurd (front.within place old)
      (Nat.not_lt.mpr ((back.reused place fresh).resolve_left List.not_mem_nil))

mutual

theorem build_holds (memory : Memory) : (tree : Yaml) →
    ∃ owned, Holds (memory.build tree).1.cells tree (memory.build tree).2 owned ∧
      Updated memory (memory.build tree).1 [] owned
  | .null => ⟨_, ⟨alloc_cell .., rfl⟩, alloc_updated memory _⟩
  | .scalar _ => ⟨_, ⟨alloc_cell .., rfl⟩, alloc_updated memory _⟩
  | .sequence _ => ⟨_, ⟨alloc_cell .., rfl⟩, alloc_updated memory _⟩
  | .map entries => by
      obtain ⟨below, slotted, update⟩ := build_slots_holds memory entries
      have rooted := alloc_updated (memory.buildSlots entries).1
        (.map (memory.buildSlots entries).2)
      refine ⟨(memory.buildSlots entries).1.next :: below, ?_, ?_⟩
      · refine ⟨_, below, alloc_cell .., ?_, rfl⟩
        refine holds_slots_congr entries (fun place member => ?_) slotted
        exact rooted.frame place (update.within place member) List.not_mem_nil
      · have both := update.beside rooted
        exact { both with
          reused := fun place member => both.reused place (by simpa [or_comm] using member)
          within := fun place member => both.within place (by simpa [or_comm] using member)
          distinct := (List.perm_append_singleton _ below).nodup_iff.mp both.distinct }

theorem build_slots_holds (memory : Memory) : (entries : Entries) →
    ∃ owned, HoldsSlots (memory.buildSlots entries).1.cells entries
        (memory.buildSlots entries).2 owned ∧
      Updated memory (memory.buildSlots entries).1 [] owned
  | [] => ⟨[], ⟨rfl, rfl⟩, updated_self (by simp) List.nodup_nil⟩
  | (key, value) :: rest => by
      obtain ⟨mine, valued, front⟩ := build_holds memory value
      obtain ⟨others, slotted, back⟩ := build_slots_holds (memory.build value).1 rest
      refine ⟨mine ++ others, ⟨_, _, mine, others, rfl, ?_, slotted, rfl⟩, front.beside back⟩
      exact back.keeps valued front.within (fun _ _ => List.not_mem_nil)

end

theorem clone_of_holds {memory : Memory} {fuel : Nat} {tree : Yaml} {node : Loc}
    {owned : List Loc} (enough : depth tree ≤ fuel) (held : Holds memory.cells tree node owned) :
    memory.clone fuel node = .ok (memory.build tree) := by
  rw [Memory.clone, read_of_holds enough held]
  rfl

/-! ## One slot of a map -/

/-- The map at `base` with one slot in view: whatever tree `child` comes to hold, the
map holds it under the key of the slot. -/
structure Focused (memory : Memory) (entries : Entries) (name : Bytes) (base child : Loc)
    (front mine back : List Loc) : Prop where
  held :
    match Yaml.find name entries with
    | some value => Holds memory.cells value child mine
    | none => memory.cells child = .undefined ∧ mine = [child]
  absorbs : ∀ (cells' : Loc → Cell) (value : Yaml) (mine' : List Loc),
    (∀ place ∈ front ++ back, cells' place = memory.cells place) → Holds cells' value child mine' →
    Holds cells' (.map (Yaml.assign name value entries)) base (front ++ mine' ++ back)

theorem find_slot_of_none {cells : Loc → Cell} {entries : Entries} {slots : Slots}
    {owned : List Loc} {name : Bytes} (held : HoldsSlots cells entries slots owned)
    (missing : Yaml.find name entries = none) : Memory.findSlot name slots = none := by
  induction entries generalizing slots owned with
  | nil =>
      obtain ⟨rfl, -⟩ := held
      rfl
  | cons entry rest ih =>
      obtain ⟨child, later, mine, others, rfl, -, slotted, -⟩ := held
      simp only [Yaml.find] at missing
      split at missing
      · cases missing
      · next named => simp [Memory.findSlot, named, ih slotted missing]

theorem focus_slot {cells : Loc → Cell} {entries : Entries} {slots : Slots} {owned : List Loc}
    {name : Bytes} {value : Yaml} (held : HoldsSlots cells entries slots owned)
    (found : Yaml.find name entries = some value) :
    ∃ child front mine back, Memory.findSlot name slots = some child ∧
      owned = front ++ mine ++ back ∧ Holds cells value child mine ∧
      ∀ (cells' : Loc → Cell) (other : Yaml) (mine' : List Loc),
        (∀ place ∈ front ++ back, cells' place = cells place) → Holds cells' other child mine' →
        HoldsSlots cells' (Yaml.assign name other entries) slots (front ++ mine' ++ back) := by
  induction entries generalizing slots owned with
  | nil => cases found
  | cons entry rest ih =>
      obtain ⟨key, first⟩ := entry
      obtain ⟨child, later, mine, others, rfl, valued, slotted, rfl⟩ := held
      by_cases named : key.hasKey name = true
      · simp only [Yaml.find, named, if_true, Option.some.injEq] at found
        subst found
        refine ⟨child, [], mine, others, by simp [Memory.findSlot, named], rfl, valued, ?_⟩
        intro cells' other mine' same moved
        rw [Yaml.assign, if_pos named]
        exact ⟨child, later, mine', others, rfl, moved, holds_slots_congr rest same slotted, rfl⟩
      · simp only [Yaml.find, named, Bool.false_eq_true, if_false] at found
        obtain ⟨inner, front, own, back, slot, rfl, reached, absorbs⟩ := ih slotted found
        refine ⟨inner, mine ++ front, own, back, by simpa [Memory.findSlot, named] using slot,
          by simp, reached, ?_⟩
        intro cells' other mine' same moved
        rw [Yaml.assign, if_neg named]
        refine ⟨child, later, mine, front ++ mine' ++ back, rfl, ?_, ?_, by simp⟩
        · exact holds_congr first (fun place member => same place (by simp [member])) valued
        · refine absorbs cells' other mine' (fun place member => same place ?_) moved
          rw [List.append_assoc]
          exact List.mem_append_right _ member

theorem holds_slots_added {cells : Loc → Cell} {entries : Entries} {slots : Slots}
    {owned : List Loc} {name : Bytes} (missing : Yaml.find name entries = none)
    (held : HoldsSlots cells entries slots owned) {value : Yaml} {child : Loc} {mine : List Loc}
    (valued : Holds cells value child mine) :
    HoldsSlots cells (Yaml.assign name value entries) (slots ++ [(.scalar name, child)])
      (owned ++ mine) := by
  induction entries generalizing slots owned with
  | nil =>
      obtain ⟨rfl, rfl⟩ := held
      exact ⟨child, [], mine, [], rfl, valued, ⟨rfl, rfl⟩, by simp⟩
  | cons entry rest ih =>
      obtain ⟨key, first⟩ := entry
      obtain ⟨inner, later, own, others, rfl, reached, slotted, rfl⟩ := held
      simp only [Yaml.find] at missing
      split at missing
      · cases missing
      · next named =>
          rw [Yaml.assign, if_neg named]
          exact ⟨inner, later ++ [(.scalar name, child)], own, others ++ mine, rfl, reached,
            ih missing slotted, by simp⟩

/-- `operator[]` brings one slot of the map in view. -/
theorem index_focused {memory : Memory} {entries : Entries} {base : Loc} {owned : List Loc}
    (held : Holds memory.cells (.map entries) base owned)
    (within : ∀ place ∈ owned, place < memory.next) (distinct : owned.Nodup) (name : Bytes) :
    ∃ indexed child front mine back, memory.index base name = .ok (indexed, child) ∧
      Focused indexed entries name base child front mine back ∧
      Updated memory indexed owned (front ++ mine ++ back) := by
  obtain ⟨slots, below, kept, slotted, rfl⟩ := held
  cases found : Yaml.find name entries with
  | some value =>
      obtain ⟨child, front, mine, back, slot, rfl, reached, absorbs⟩ := focus_slot slotted found
      refine ⟨memory, child, base :: front, mine, back,
        by simp [Memory.index, Memory.slotsOf, kept, slot], ⟨by simpa [found] using reached, ?_⟩,
        updated_self within distinct⟩
      intro cells' other mine' same moved
      refine ⟨slots, front ++ mine' ++ back, ?_, ?_, rfl⟩
      · exact (same base (by simp)).trans kept
      · exact absorbs cells' other mine' (fun place member => same place (by simp_all)) moved
  | none =>
      have slot := find_slot_of_none slotted found
      have root : base < memory.next := within base (List.mem_cons_self ..)
      refine ⟨_, memory.next, base :: below, [memory.next], [],
        by simp only [Memory.index, Memory.slotsOf, kept, slot]; rfl, ⟨?_, ?_⟩, ?_⟩
      · simp [found, Memory.write, Memory.alloc, Function.update_of_ne (Nat.ne_of_gt root)]
      · intro cells' other mine' same moved
        refine ⟨slots ++ [(.scalar name, memory.next)], below ++ mine' ++ [], ?_, ?_, rfl⟩
        · exact (same base (by simp)).trans (by simp [Memory.write, Memory.alloc])
        · rw [List.append_nil]
          refine holds_slots_added found (holds_slots_congr entries ?_ slotted) moved
          intro place member
          have apart : place ≠ base := by
            rintro rfl
            exact (List.nodup_cons.mp distinct).1 member
          rw [same place (by simp [member])]
          simp only [Memory.write, Memory.alloc, Function.update_of_ne apart]
          exact Function.update_of_ne (Nat.ne_of_lt (within place (by simp [member]))) ..
      · refine ⟨Nat.le_succ _, ?_, ?_, ?_, ?_⟩
        · intro place older outside
          have apart : place ≠ base := fun same => outside (by simp [same])
          simp only [Memory.write, Memory.alloc, Function.update_of_ne apart]
          exact Function.update_of_ne (Nat.ne_of_lt older) ..
        · intro place member
          simp only [List.append_nil, List.mem_append, List.mem_singleton] at member
          exact member.imp id fun same => Nat.le_of_eq same.symm
        · intro place member
          simp only [List.append_nil, List.mem_append, List.mem_singleton] at member
          rcases member with old | rfl
          · exact Nat.lt_succ_of_lt (within place old)
          · exact Nat.lt_succ_self _
        · rw [List.append_nil]
          refine List.nodup_append.mpr ⟨distinct, List.nodup_singleton _, ?_⟩
          rintro place old _ new rfl
          exact absurd (within place old) (Nat.not_lt.mpr (Nat.le_of_eq
            (List.mem_singleton.mp new).symm))

theorem nodup_focus {front mine back : List Loc} :
    (front ++ mine ++ back).Nodup ↔ (front ++ back).Nodup ∧ mine.Nodup ∧
      ∀ place ∈ front ++ back, place ∉ mine := by
  rw [List.append_assoc]
  simp only [List.nodup_append, List.mem_append]
  constructor
  · rintro ⟨left, ⟨own, right, behind⟩, before⟩
    refine ⟨⟨left, right, fun place first other last => before place first other (.inr last)⟩,
      own, ?_⟩
    rintro place (first | last) inside
    · exact before place first place (.inl inside) rfl
    · exact behind place inside place last rfl
  · rintro ⟨⟨left, right, outer⟩, own, apart⟩
    refine ⟨left, ⟨own, right, ?_⟩, ?_⟩
    · rintro place inside _ last rfl
      exact apart place (.inr last) inside
    · rintro place first _ (inside | last) rfl
      · exact apart place (.inl first) inside
      · exact outer place first place last rfl

theorem mem_focus_of_outer {front mine back : List Loc} {place : Loc}
    (outer : place ∈ front ++ back) : place ∈ front ++ mine ++ back := by
  rcases List.mem_append.mp outer with first | last
  · simp [first]
  · simp [last]

theorem mem_focus_of_own {front mine back : List Loc} {place : Loc} (own : place ∈ mine) :
    place ∈ front ++ mine ++ back := by
  simp [own]

/-- An update inside the focused slot is an update of the whole map. -/
theorem Updated.widen {before after : Memory} {front mine mine' back : List Loc}
    (update : Updated before after mine mine')
    (within : ∀ place ∈ front ++ mine ++ back, place < before.next)
    (distinct : (front ++ mine ++ back).Nodup) :
    Updated before after (front ++ mine ++ back) (front ++ mine' ++ back) where
  grows := update.grows
  frame place older outside := update.frame place older fun member => outside (by simp [member])
  reused place member := by
    simp only [List.mem_append] at member ⊢
    rcases member with (old | own) | old
    · exact .inl (.inl (.inl old))
    · exact (update.reused place own).imp (fun old => .inl (.inr old)) id
    · exact .inl (.inr old)
  within place member := by
    simp only [List.mem_append] at member
    rcases member with (old | own) | old
    · exact Nat.lt_of_lt_of_le (within place (by simp [old])) update.grows
    · exact update.within place own
    · exact Nat.lt_of_lt_of_le (within place (by simp [old])) update.grows
  distinct := by
    obtain ⟨outer, -, apart⟩ := nodup_focus.mp distinct
    refine nodup_focus.mpr ⟨outer, update.distinct, ?_⟩
    intro place member own
    rcases update.reused place own with old | fresh
    · exact apart place member old
    · exact Nat.not_lt.mpr fresh (within place (mem_focus_of_outer member))

/-! ## The merge -/

/-- An outcome carries a tree at `base` when the tree is held there afterwards; a
merge that throws carries none. -/
def Carries (before : Memory) (base : Loc) (owned : List Loc) (outcome : Except Stopped Memory) :
    Option Yaml → Prop
  | none => outcome = .error .badConversion
  | some tree => ∃ after owned', outcome = .ok after ∧ Holds after.cells tree base owned' ∧
      Updated before after owned owned'

/-- A document that is only read: its locations are older and none is written to. -/
def Apart (memory : Memory) (owned places : List Loc) : Prop :=
  ∀ place ∈ places, place < memory.next ∧ place ∉ owned

theorem Updated.apart {before after : Memory} {owned owned' places : List Loc}
    (update : Updated before after owned owned') (apart : Apart before owned places) :
    Apart after owned' places := by
  intro place member
  obtain ⟨older, outside⟩ := apart place member
  refine ⟨Nat.lt_of_lt_of_le older update.grows, fun inside => ?_⟩
  exact (update.reused place inside).elim outside (Nat.not_le.mpr older)

theorem Updated.reads {before after : Memory} {owned owned' places : List Loc}
    (update : Updated before after owned owned') (apart : Apart before owned places)
    {tree : Yaml} {node : Loc} (held : Holds before.cells tree node places) :
    Holds after.cells tree node places :=
  update.keeps held (fun place member => (apart place member).1)
    (fun place member => (apart place member).2)

theorem assign_carries {memory : Memory} {fuel : Nat} {child value : Loc} {tree : Yaml}
    {mine places : List Loc} (enough : depth tree ≤ fuel)
    (held : Holds memory.cells tree value places) (inside : child ∈ mine)
    (within : child < memory.next) :
    Carries memory child mine (memory.assign fuel child value) (some tree) := by
  obtain ⟨owned, built, update⟩ := build_holds memory tree
  obtain ⟨below, rfl⟩ := holds_root built
  have fresh : ∀ place ∈ (memory.build tree).2 :: below, memory.next ≤ place :=
    fun place member => (update.reused place member).resolve_left List.not_mem_nil
  have apart : child ∉ below := fun member =>
    absurd within (Nat.not_lt.mpr (fresh child (List.mem_cons_of_mem _ member)))
  refine ⟨_, child :: below, by rw [Memory.assign, clone_of_holds enough held], ?_, ?_⟩
  · refine holds_moved built (Function.update_self ..) ?_
    intro place member
    refine Function.update_of_ne ?_ ..
    rintro rfl
    exact apart member
  · refine ⟨update.grows, ?_, ?_, ?_, ?_⟩
    · intro place older outside
      have other : place ≠ child := by
        rintro rfl
        exact outside inside
      exact (Function.update_of_ne other ..).trans (update.frame place older List.not_mem_nil)
    · intro place member
      rcases List.mem_cons.mp member with rfl | later
      · exact .inl inside
      · exact .inr (fresh place (List.mem_cons_of_mem _ later))
    · intro place member
      rcases List.mem_cons.mp member with rfl | later
      · exact Nat.lt_of_lt_of_le within update.grows
      · exact update.within place (List.mem_cons_of_mem _ later)
    · exact List.nodup_cons.mpr ⟨apart, (List.nodup_cons.mp update.distinct).2⟩

/-- A tree carried at the slot is carried under its key by the map. -/
theorem Focused.carries {memory indexed : Memory} {entries : Entries} {name : Bytes}
    {base child : Loc} {owned front mine back : List Loc}
    (focused : Focused indexed entries name base child front mine back)
    (first : Updated memory indexed owned (front ++ mine ++ back))
    {outcome : Except Stopped Memory} {tree : Option Yaml}
    (carried : Carries indexed child mine outcome tree) :
    Carries memory base owned outcome
      (tree.map fun child => .map (Yaml.assign name child entries)) := by
  cases tree with
  | none => exact carried
  | some tree =>
      obtain ⟨after, mine', done, moved, second⟩ := carried
      have whole := second.widen first.within first.distinct
      refine ⟨after, front ++ mine' ++ back, done, ?_, first.trans whole⟩
      refine focused.absorbs after.cells tree mine' (fun place member => ?_) moved
      exact second.frame place (first.within place (mem_focus_of_outer member))
        ((nodup_focus.mp first.distinct).2.2 place member)

/-- What `mergeMap` is known to do one level further down. -/
def Descends (fuel : Nat) (descend : Memory → Loc → Loc → Except Stopped Memory) : Prop :=
  ∀ (memory : Memory) (base overlay : Loc) (inner entries : Entries) (owned places : List Loc),
    depth (.map entries) ≤ fuel → Holds memory.cells (.map inner) base owned →
    (∀ place ∈ owned, place < memory.next) → owned.Nodup →
    Holds memory.cells (.map entries) overlay places → Apart memory owned places →
    Carries memory base owned (descend memory base overlay)
      ((Yaml.mergeEntries inner entries).map .map)

/-- The branches of one iteration agree with the merged value of the key. -/
theorem merge_slot_carries {descend : Memory → Loc → Loc → Except Stopped Memory} {fuel : Nat}
    (descends : Descends fuel descend) {memory : Memory} {base overrideValue : Loc}
    {entries : Entries} (key : Yaml) {value : Yaml} {owned places : List Loc}
    (enough : depth value ≤ fuel) (held : Holds memory.cells (.map entries) base owned)
    (within : ∀ place ∈ owned, place < memory.next) (distinct : owned.Nodup)
    (valued : Holds memory.cells value overrideValue places) (apart : Apart memory owned places) :
    Carries memory base owned
      (ConfigMerger.mergeSlot descend fuel memory base key overrideValue)
      (key.keyText.bind fun name =>
        (Yaml.mergeValue (Yaml.find name entries) value).map fun child =>
          .map (Yaml.assign name child entries)) := by
  unfold ConfigMerger.mergeSlot
  cases named : key.keyText with
  | none => rfl
  | some name =>
      obtain ⟨indexed, child, front, mine, back, located, focused, first⟩ :=
        index_focused held within distinct name
      have reads := first.reads apart valued
      have outside := first.apart apart
      have slot := focused.held
      simp only [located, Option.bind_some]
      cases found : Yaml.find name entries with
      | none =>
          -- The key is new: its undefined slot takes the clone.
          rw [found] at slot
          obtain ⟨blank, rfl⟩ := slot
          have undefined : indexed.isDefined child = false := by
            simp [Memory.isDefined, blank]
          rw [Yaml.merge_value_replaces (by simp)]
          simp only [undefined, Bool.false_eq_true, if_false]
          exact focused.carries first (assign_carries enough reads (List.mem_singleton_self _)
            (first.within child (by simp)))
      | some old =>
          rw [found] at slot
          obtain ⟨below, rfl⟩ := holds_root slot
          simp only [defined_of_holds slot, if_true]
          rw [is_map_of_holds slot, is_map_of_holds reads]
          by_cases both : old.isMap = true ∧ value.isMap = true
          · -- Two maps: the slot is merged in place.
            obtain ⟨⟨inner, rfl⟩, overlay, rfl⟩ :=
              both.imp Yaml.is_map_iff.mp Yaml.is_map_iff.mp
            simp only [both, Bool.and_self, if_true, Yaml.merge_value_maps]
            refine focused.carries first (descends indexed child overrideValue inner overlay _
              places enough slot (fun place own => first.within place (mem_focus_of_own own))
              (nodup_focus.mp first.distinct).2.1 reads ?_)
            exact fun place member => ⟨(outside place member).1, fun own =>
              (outside place member).2 (mem_focus_of_own own)⟩
          · rw [Yaml.merge_value_whole both, if_neg (by simpa using both)]
            exact focused.carries first (assign_carries enough reads (List.mem_cons_self ..)
              (first.within child (by simp)))

theorem merge_slots_carries {descend : Memory → Loc → Loc → Except Stopped Memory} {fuel : Nat}
    (descends : Descends fuel descend) {overlay : Entries} {memory : Memory} {base : Loc}
    {inner : Entries} {slots : Slots} {owned places : List Loc}
    (enough : entriesDepth overlay ≤ fuel) (held : Holds memory.cells (.map inner) base owned)
    (within : ∀ place ∈ owned, place < memory.next) (distinct : owned.Nodup)
    (slotted : HoldsSlots memory.cells overlay slots places) (apart : Apart memory owned places) :
    Carries memory base owned (ConfigMerger.mergeSlots descend fuel base slots memory)
      ((Yaml.mergeEntries inner overlay).map .map) := by
  induction overlay generalizing memory inner slots owned places with
  | nil =>
      obtain ⟨rfl, -⟩ := slotted
      exact ⟨memory, owned, rfl, held, updated_self within distinct⟩
  | cons entry rest ih =>
      obtain ⟨key, value⟩ := entry
      obtain ⟨overrideValue, later, mine, others, rfl, valued, slotted, rfl⟩ := slotted
      simp only [entriesDepth, Nat.max_le] at enough
      have step := merge_slot_carries descends key enough.1 held within distinct valued
        (fun place member => apart place (List.mem_append_left _ member))
      rw [ConfigMerger.mergeSlots, Yaml.merge_entries_eq_bind]
      cases merged : key.keyText.bind fun name =>
          (Yaml.mergeValue (Yaml.find name inner) value).map fun child =>
            Yaml.map (Yaml.assign name child inner) with
      | none =>
          rw [merged] at step
          have thrown : (key.keyText.bind fun name =>
              (Yaml.mergeValue (Yaml.find name inner) value).bind fun child =>
                Yaml.mergeEntries (Yaml.assign name child inner) rest) = none := by
            cases named : key.keyText with
            | none => rfl
            | some name => simp_all
          rw [thrown, step]
          rfl
      | some tree =>
          rw [merged] at step
          obtain ⟨name, named, assigned⟩ := Option.bind_eq_some_iff.mp merged
          obtain ⟨child, valued, rfl⟩ := Option.map_eq_some_iff.mp assigned
          obtain ⟨after, owned', done, moved, update⟩ := step
          have outside : Apart memory owned others :=
            fun place member => apart place (List.mem_append_right _ member)
          have kept : HoldsSlots after.cells rest later others :=
            holds_slots_congr rest (fun place member =>
              update.frame place (outside place member).1 (outside place member).2) slotted
          simp only [done, named, valued, Option.bind_some]
          have tail := ih enough.2 moved update.within update.distinct kept (update.apart outside)
          cases last : Yaml.mergeEntries (Yaml.assign name child inner) rest with
          | none =>
              rw [last] at tail
              exact tail
          | some whole =>
              rw [last] at tail
              obtain ⟨final, owned'', finished, holds, second⟩ := tail
              exact ⟨final, owned'', finished, holds, update.trans second⟩

/-- `mergeMap` turns the map at `base` into the merged map. -/
theorem merge_map_carries (fuel : Nat) : Descends fuel (ConfigMerger.mergeMap fuel) := by
  induction fuel with
  | zero =>
      intro memory base overlay inner entries owned places enough
      cases enough
  | succ fuel ih =>
      intro memory base overlay inner entries owned places enough held within distinct overHeld
        apart
      obtain ⟨slots, below, kept, slotted, rfl⟩ := overHeld
      rw [ConfigMerger.mergeMap, kept]
      simp only [defined_slots_of_holds slotted]
      exact merge_slots_carries ih (Nat.le_of_succ_le_succ enough) held within distinct slotted
        (fun place member => apart place (List.mem_cons_of_mem _ member))

/-- A node that the outcome returns, made of fresh locations only. -/
def Produces (before : Memory) (outcome : Except Stopped (Memory × Loc)) : Option Yaml → Prop
  | none => outcome = .error .badConversion
  | some tree => ∃ after node owned, outcome = .ok (after, node) ∧
      Holds after.cells tree node owned ∧ Updated before after [] owned

theorem clone_produces {memory : Memory} {fuel : Nat} {tree : Yaml} {node : Loc}
    {owned : List Loc} (enough : depth tree ≤ fuel) (held : Holds memory.cells tree node owned) :
    Produces memory (memory.clone fuel node) (some tree) := by
  obtain ⟨fresh, built, update⟩ := build_holds memory tree
  exact ⟨_, _, fresh, clone_of_holds enough held, built, update⟩

theorem merge_produces {memory : Memory} {fuel : Nat} {base override : Yaml} {lower upper : Loc}
    {owned places : List Loc} (enough : depth base ≤ fuel ∧ depth override ≤ fuel)
    (below : Holds memory.cells base lower owned)
    (above : Holds memory.cells override upper places)
    (older : ∀ place ∈ places, place < memory.next) :
    Produces memory (ConfigMerger.merge fuel memory lower upper) (Yaml.merge base override) := by
  unfold ConfigMerger.merge Yaml.merge
  rw [defined_of_holds below, defined_of_holds above, is_null_of_holds below,
    is_null_of_holds above, is_map_of_holds below, is_map_of_holds above]
  simp only [Bool.not_true, Bool.false_or]
  split
  · exact clone_produces enough.2 above
  · split
    · exact clone_produces enough.1 below
    · by_cases both : base.isMap = true ∧ override.isMap = true
      · rw [both.1, both.2]
        obtain ⟨⟨inner, rfl⟩, entries, rfl⟩ := both.imp Yaml.is_map_iff.mp Yaml.is_map_iff.mp
        obtain ⟨fresh, built, update⟩ := build_holds memory (.map inner)
        have outside : Apart memory [] places :=
          fun place member => ⟨older place member, List.not_mem_nil⟩
        have carried := merge_map_carries fuel _ _ upper inner entries fresh places enough.2 built
          update.within update.distinct (update.reads outside above) (update.apart outside)
        simp only [Bool.and_self, if_true, clone_of_holds enough.1 below, Yaml.merge_value_maps]
        cases merged : Yaml.mergeEntries inner entries with
        | none =>
            rw [merged] at carried
            simp only [Option.map_none, Carries] at carried
            simp only [carried, Option.map_none, Produces]
        | some combined =>
            rw [merged] at carried
            obtain ⟨after, owned', done, holds, second⟩ := carried
            simp only [done]
            exact ⟨after, _, owned', rfl, holds, update.trans second⟩
      · rw [if_neg (by simpa using both), Yaml.merge_value_whole both]
        exact clone_produces enough.2 above

/-! ## The fold -/

/-- A document that is held somewhere in the allocated part of the memory. -/
def Held (memory : Memory) (document : Yaml) (node : Loc) : Prop :=
  ∃ owned, Holds memory.cells document node owned ∧ ∀ place ∈ owned, place < memory.next

theorem Updated.held {before after : Memory} {owned : List Loc}
    (update : Updated before after [] owned) {document : Yaml} {node : Loc}
    (held : Held before document node) : Held after document node := by
  obtain ⟨places, holds, older⟩ := held
  exact ⟨places, update.keeps holds older (fun _ _ => List.not_mem_nil),
    fun place member => Nat.lt_of_lt_of_le (older place member) update.grows⟩

theorem merge_rest_produces (documents : List Yaml) (base : Yaml) :
    ∃ enough, ∀ fuel, enough ≤ fuel → ∀ (before memory : Memory) (result : Loc)
      (owned nodes : List Loc), Holds memory.cells base result owned →
      Updated before memory [] owned → List.Forall₂ (Held memory) documents nodes →
      Produces before (ConfigMerger.mergeRest fuel nodes memory result)
        (documents.foldlM Yaml.merge base) := by
  induction documents generalizing base with
  | nil =>
      refine ⟨0, fun fuel _ before memory result owned nodes holds update each => ?_⟩
      cases each
      exact ⟨memory, result, owned, rfl, holds, update⟩
  | cons document rest ih =>
      cases merged : Yaml.merge base document with
      | none =>
          refine ⟨max (depth base) (depth document),
            fun fuel enough before memory result owned nodes holds update each => ?_⟩
          cases each with
          | cons head tail =>
              obtain ⟨places, above, older⟩ := head
              have step := merge_produces (Nat.max_le.mp enough) holds above older
              rw [merged] at step
              simp only [Produces] at step
              simp only [ConfigMerger.mergeRest, step, List.foldlM_cons, merged]
              rfl
      | some next =>
          obtain ⟨later, produces⟩ := ih next
          refine ⟨max (max (depth base) (depth document)) later,
            fun fuel enough before memory result owned nodes holds update each => ?_⟩
          obtain ⟨first, second⟩ := Nat.max_le.mp enough
          cases each with
          | cons head tail =>
              obtain ⟨places, above, older⟩ := head
              have step := merge_produces (Nat.max_le.mp first) holds above older
              rw [merged] at step
              obtain ⟨after, node, owned', done, moved, grown⟩ := step
              simp only [ConfigMerger.mergeRest, done, List.foldlM_cons, merged]
              refine produces fuel second before after node owned' _ moved ?_
                (tail.imp fun _ _ held => grown.held held)
              exact { grown with
                grows := Nat.le_trans update.grows grown.grows
                frame := fun place below _ => by
                  rw [grown.frame place (Nat.lt_of_lt_of_le below update.grows) List.not_mem_nil,
                    update.frame place below List.not_mem_nil]
                reused := fun place member => .inr (Nat.le_trans update.grows
                  ((grown.reused place member).resolve_left List.not_mem_nil)) }

/-- The merger in memory refines the merge of trees. -/
theorem merge_multiple_produces (documents : List Yaml) :
    ∃ enough, ∀ fuel, enough ≤ fuel → ∀ (memory : Memory) (nodes : List Loc),
      List.Forall₂ (Held memory) documents nodes →
      Produces memory (ConfigMerger.mergeMultiple fuel memory nodes)
        (Yaml.mergeMultiple documents) := by
  cases documents with
  | nil =>
      refine ⟨0, fun fuel _ memory nodes each => ?_⟩
      cases each
      obtain ⟨owned, built, update⟩ := build_holds memory .null
      exact ⟨_, _, owned, rfl, built, update⟩
  | cons first rest =>
      obtain ⟨later, produces⟩ := merge_rest_produces rest first
      refine ⟨max (depth first) later, fun fuel enough memory nodes each => ?_⟩
      obtain ⟨here, below⟩ := Nat.max_le.mp enough
      cases each with
      | cons head tail =>
          obtain ⟨places, holds, older⟩ := head
          obtain ⟨owned, built, update⟩ := build_holds memory first
          simp only [ConfigMerger.mergeMultiple, clone_of_holds here holds]
          exact produces fuel below memory _ _ owned _ built update
            (tail.imp fun _ _ held => update.held held)

end TboxFramework.Config

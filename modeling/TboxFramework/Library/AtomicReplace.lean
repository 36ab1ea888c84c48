import TboxFramework.Library.DurableDirectory

/-!
# Replacing files by rename

`Published` describes a directory in which some names are only ever written by
renaming a synced file onto them. Whatever such a name may hold after a power
loss is then a complete file, and no other name leads to that file, so writing
to other names cannot damage it.
-/

namespace DurableDirectory

set_option autoImplicit false

variable {Name Byte : Type} [DecidableEq Name]

structure Published (disk : Disk Name Byte) (published : Name → Prop)
    (good : Name → List Byte → Prop) : Prop where
  allocated : ∀ name inode, published name → disk.MayHold name (some inode) →
    inode < disk.nextInode
  complete : ∀ name inode, published name → disk.MayHold name (some inode) →
    (disk.files inode).synced = true ∧ good name (disk.files inode).content
  apart : ∀ name inode other, published name → disk.MayHold name (some inode) →
    disk.view other = some inode → other = name

namespace Published

variable {disk : Disk Name Byte} {published : Name → Prop} {good : Name → List Byte → Prop}

/-- A directory in which no published name exists yet. -/
theorem of_absent (absent : ∀ name inode, published name → ¬disk.MayHold name (some inode)) :
    Published disk published good where
  allocated := fun name inode here may => absurd may (absent name inode here)
  complete := fun name inode here may => absurd may (absent name inode here)
  apart := fun name inode _ here may => absurd may (absent name inode here)

/-- Changing files that no published name may hold keeps them published. -/
theorem of_files {after : Disk Name Byte} (holds : Published disk published good)
    (next : disk.nextInode ≤ after.nextInode)
    (may : ∀ name value, published name → after.MayHold name value → disk.MayHold name value)
    (files : ∀ name inode, published name → disk.MayHold name (some inode) →
      (after.files inode).content = (disk.files inode).content ∧
        ((disk.files inode).synced = true → (after.files inode).synced = true))
    (named : ∀ name inode other, published name → disk.MayHold name (some inode) →
      after.view other = some inode → disk.view other = some inode) :
    Published after published good where
  allocated := fun name inode here held =>
    Nat.lt_of_lt_of_le (holds.allocated name inode here (may name _ here held)) next
  complete := by
    intro name inode here held
    obtain ⟨content, synced⟩ := files name inode here (may name _ here held)
    obtain ⟨before, fine⟩ := holds.complete name inode here (may name _ here held)
    exact ⟨synced before, content ▸ fine⟩
  apart := fun name inode other here held seen =>
    holds.apart name inode other here (may name _ here held)
      (named name inode other here (may name _ here held) seen)

theorem not_held_through (holds : Published disk published good) {name other : Name}
    {inode : Inode} (here : published name) (hidden : ¬published other)
    (seen : disk.view other = some inode) : ¬disk.MayHold name (some inode) := by
  intro may
  have same := holds.apart name inode other here may seen
  exact hidden (same ▸ here)

theorem write (holds : Published disk published good) {name : Name} {inode : Inode}
    (hidden : ¬published name) (named : disk.view name = some inode) (bytes : List Byte) :
    Published (disk.write inode bytes) published good := by
  refine holds.of_files (Nat.le_refl _) (fun _ _ _ => id) ?_ (fun _ _ _ _ _ => id)
  intro target held here may
  have different : held ≠ inode := by
    rintro rfl
    exact holds.not_held_through here hidden named may
  rw [Disk.write, Disk.files_set_file_of_ne _ _ different]
  exact ⟨rfl, id⟩

theorem fsync (holds : Published disk published good) (inode : Inode) :
    Published (disk.fsync inode) published good := by
  refine holds.of_files (Nat.le_refl _) (fun _ _ _ => id) ?_ (fun _ _ _ _ _ => id)
  intro target held here may
  refine ⟨disk.content_fsync inode held, ?_⟩
  by_cases same : held = inode
  · subst same
    simp [Disk.fsync]
  · rw [Disk.fsync, Disk.files_set_file_of_ne _ _ same]
    exact id

/-- A name outside the published ones that a file may get does not lead to a
file that a published name may hold. -/
theorem opened_apart (holds : Published disk published good) {name opened : Name}
    {inode : Inode} (here : published name) (hidden : ¬published opened)
    (may : disk.MayHold name (some inode)) : inode ≠ disk.openedInode opened := by
  unfold Disk.openedInode
  cases found : disk.view opened with
  | none => exact Nat.ne_of_lt (holds.allocated name inode here may)
  | some other =>
      rintro rfl
      exact holds.not_held_through here hidden found may

theorem open_create (holds : Published disk published good) {opened : Name}
    (hidden : ¬published opened) : Published (disk.openCreate opened) published good := by
  have other : ∀ name, published name → name ≠ opened := by
    rintro name here rfl
    exact hidden here
  apply holds.of_files (disk.next_open_create opened)
  · exact fun name value here may => Disk.may_hold_open_create_of_ne (other name here) may
  · intro name inode here may
    rw [disk.files_open_create opened (holds.allocated name inode here may)]
    exact ⟨rfl, id⟩
  · intro name inode entry here may seen
    rw [Disk.view_open_create] at seen
    by_cases same : entry = opened
    · rw [same, Function.update_self, Option.some.injEq] at seen
      exact absurd seen.symm (holds.opened_apart here hidden may)
    · rwa [Function.update_of_ne same] at seen

theorem open_truncate (holds : Published disk published good) {opened : Name}
    (hidden : ¬published opened) : Published (disk.openTruncate opened) published good := by
  refine (holds.open_create hidden).of_files (Nat.le_refl _) (fun _ _ _ => id) ?_
    (fun _ _ _ _ _ => id)
  intro name inode here may
  have other : name ≠ opened := by
    rintro rfl
    exact hidden here
  have different := holds.opened_apart here hidden (Disk.may_hold_open_create_of_ne other may)
  rw [Disk.openTruncate, Disk.files_set_file_of_ne _ _ different]
  exact ⟨rfl, id⟩

theorem unlink (holds : Published disk published good) {removed : Name}
    (hidden : ¬published removed) : Published (disk.unlink removed) published good := by
  have other : ∀ name, published name → name ≠ removed := by
    rintro name here rfl
    exact hidden here
  refine holds.of_files (Nat.le_refl _) ?_ (fun _ _ _ _ => ⟨rfl, id⟩) ?_
  · exact fun name value here may => Disk.may_hold_unlink_of_ne (other name here) may
  · intro name inode entry here may seen
    rw [Disk.view_unlink] at seen
    by_cases same : entry = removed
    · simp [same] at seen
    · rwa [Function.update_of_ne same] at seen

theorem sync_directory (holds : Published disk published good) :
    Published disk.syncDirectory published good := by
  refine holds.of_files (Nat.le_refl _) ?_ (fun _ _ _ _ => ⟨rfl, id⟩) (fun _ _ _ _ _ => id)
  intro name value _ may
  rw [Disk.may_hold_sync_directory] at may
  exact may ▸ disk.may_hold_view name

/-- Renaming a complete file onto a published name publishes it there. -/
theorem rename_named (holds : Published disk published good) {source target : Name}
    {inode : Inode} (named : disk.view source = some inode) (hidden : ¬published source)
    (synced : (disk.files inode).synced = true)
    (fine : good target (disk.files inode).content) :
    Published (disk.renameNamed source target inode named) published good := by
  have before : ∀ name value, published name →
      (disk.renameNamed source target inode named).MayHold name value →
      disk.MayHold name value ∨ name = target ∧ value = some inode := by
    intro name value here may
    have split : disk.MayHold name value ∨
        (Change.rename source target inode).effect name = some value :=
      Disk.may_hold_snoc disk (disk.renameNamed source target inode named) rfl rfl may
    apply split.imp_right
    intro wrote
    by_cases same : name = target
    · simp only [Change.effect, same, if_true, Option.some.injEq] at wrote
      exact ⟨same, wrote.symm⟩
    · have moved : name ≠ source := by
        rintro rfl
        exact hidden here
      simp [Change.effect, same, moved] at wrote
  constructor
  · intro name held here may
    rcases before name _ here may with old | ⟨-, new⟩
    · exact holds.allocated name held here old
    · cases new
      exact disk.allocated source inode named
  · intro name held here may
    rcases before name _ here may with old | ⟨rfl, new⟩
    · exact holds.complete name held here old
    · cases new
      exact ⟨synced, fine⟩
  · intro name held other here may seen
    rw [Disk.view_rename_named] at seen
    rcases before name _ here may with old | ⟨rfl, new⟩
    · by_cases landed : other = target
      · -- the renamed file cannot be one that a published name already held
        rw [landed, Function.update_self, Option.some.injEq] at seen
        exact absurd (seen ▸ old) (holds.not_held_through here hidden named)
      · rw [Function.update_of_ne landed] at seen
        by_cases moved : other = source
        · simp [moved] at seen
        · rw [Function.update_of_ne moved] at seen
          exact holds.apart name held other here old seen
    · cases new
      by_contra landed
      rw [Function.update_of_ne landed] at seen
      exact unnamed_after_remove disk.singleName named other seen

theorem mono {better : Name → List Byte → Prop} (holds : Published disk published good)
    (implies : ∀ name inode, published name → disk.MayHold name (some inode) →
      good name (disk.files inode).content → better name (disk.files inode).content) :
    Published disk published better where
  allocated := holds.allocated
  apart := holds.apart
  complete := by
    intro name inode here may
    obtain ⟨synced, fine⟩ := holds.complete name inode here may
    exact ⟨synced, implies name inode here may fine⟩

/-- The recovery theorem: a published name found after a power loss holds a
complete file. -/
theorem recovered {recovered : Disk.Recovered Name Byte}
    (holds : Published disk published good) (survives : disk.SurvivesAs recovered)
    {name : Name} {inode : Inode} (here : published name)
    (found : recovered.entries name = some inode) : good name (recovered.content inode) := by
  have may : disk.MayHold name (some inode) := found ▸ Disk.may_hold_recovered survives name
  obtain ⟨synced, fine⟩ := holds.complete name inode here may
  rw [survives.2 inode synced]
  exact fine

end Published

end DurableDirectory

import TboxFramework.Library.DurableDirectory

/-!
# Files that stay open while their directory changes

A reader keeps the file it has opened, whatever becomes of the name. As long as no
other name leads to that file, changes through other names leave its content alone,
and so does replacing or removing the name itself.
-/

namespace DurableDirectory

set_option autoImplicit false

variable {Name Byte : Type} [DecidableEq Name]

namespace Disk

/-- At most the name `kept` leads to this file. -/
structure ReachedOnly (disk : Disk Name Byte) (kept : Name) (inode : Inode) : Prop where
  allocated : inode < disk.nextInode
  only : ∀ name, disk.view name = some inode → name = kept

/-- The change leaves the content of such files alone and gives them no name. -/
def KeepsOpen (kept : Name) (disk after : Disk Name Byte) : Prop :=
  ∀ inode, disk.ReachedOnly kept inode →
    after.ReachedOnly kept inode ∧ (after.files inode).content = (disk.files inode).content

variable {disk : Disk Name Byte} {kept name : Name} {inode : Inode}

theorem reached_only_of_view (named : disk.view kept = some inode) :
    disk.ReachedOnly kept inode where
  allocated := view_lt named
  only := by
    intro name also
    exact view_inj also named

theorem KeepsOpen.refl (kept : Name) (disk : Disk Name Byte) : KeepsOpen kept disk disk :=
  fun _ reached => ⟨reached, rfl⟩

/-- Opening another name opens another file. -/
theorem ReachedOnly.opened_ne (reached : disk.ReachedOnly kept inode) (other : name ≠ kept) :
    disk.openedInode name ≠ inode := by
  unfold openedInode
  cases found : disk.view name with
  | none => exact (Nat.ne_of_lt reached.allocated).symm
  | some held =>
      intro same
      have named : disk.view name = some inode := by
        rw [found]
        exact congrArg some same
      exact other (reached.only name named)

theorem ReachedOnly.of_opened (reached : disk.ReachedOnly kept inode) (other : name ≠ kept)
    {after : Disk Name Byte} (next : disk.nextInode ≤ after.nextInode)
    (view : after.view = Function.update disk.view name (some (disk.openedInode name))) :
    after.ReachedOnly kept inode where
  allocated := Nat.lt_of_lt_of_le reached.allocated next
  only := by
    intro entry named
    rw [view] at named
    by_cases same : entry = name
    · rw [same, Function.update_self, Option.some.injEq] at named
      exact absurd named (reached.opened_ne other)
    · rw [Function.update_of_ne same] at named
      exact reached.only entry named

theorem keeps_open_create (disk : Disk Name Byte) (other : name ≠ kept) :
    KeepsOpen kept disk (disk.openCreate name) := by
  intro inode reached
  refine ⟨reached.of_opened other (disk.next_open_create name) (disk.view_open_create name), ?_⟩
  rw [disk.files_open_create name reached.allocated]

theorem keeps_open_truncate (disk : Disk Name Byte) (other : name ≠ kept) :
    KeepsOpen kept disk (disk.openTruncate name) := by
  intro inode reached
  refine ⟨reached.of_opened other (disk.next_open_create name) (disk.view_open_truncate name), ?_⟩
  have elsewhere : disk.view name ≠ some inode := fun named => other (reached.only name named)
  rw [disk.files_open_truncate name reached.allocated elsewhere]

/-- A write through another name. -/
theorem keeps_open_write (other : name ≠ kept) {target : Inode}
    (named : disk.view name = some target) (bytes : List Byte) :
    KeepsOpen kept disk (disk.write target bytes) := by
  intro inode reached
  have different : inode ≠ target := by
    intro same
    exact other (reached.only name (same ▸ named))
  refine ⟨⟨reached.allocated, reached.only⟩, ?_⟩
  rw [write, files_set_file_of_ne _ _ different]

theorem keeps_open_fsync (disk : Disk Name Byte) (target : Inode) :
    KeepsOpen kept disk (disk.fsync target) := by
  intro inode reached
  exact ⟨⟨reached.allocated, reached.only⟩, disk.content_fsync target inode⟩

theorem keeps_open_unlink (disk : Disk Name Byte) (name : Name) :
    KeepsOpen kept disk (disk.unlink name) := by
  intro inode reached
  refine ⟨⟨reached.allocated, ?_⟩, rfl⟩
  intro entry named
  rw [view_unlink] at named
  by_cases same : entry = name
  · rw [same, Function.update_self] at named
    cases named
  · rw [Function.update_of_ne same] at named
    exact reached.only entry named

/-- A rename of another name, onto any target. -/
theorem keeps_open_rename {after : Disk Name Byte} {source target : Name} (other : source ≠ kept)
    (different : source ≠ target) (renamed : disk.rename source target = some after) :
    KeepsOpen kept disk after := by
  obtain ⟨moved, named, rfl⟩ := (rename_eq_some different).mp renamed
  intro inode reached
  refine ⟨⟨reached.allocated, ?_⟩, rfl⟩
  intro entry held
  rw [view_rename_named] at held
  by_cases landed : entry = target
  · rw [landed, Function.update_self] at held
    exact absurd (reached.only source (named.trans held)) other
  · rw [Function.update_of_ne landed] at held
    by_cases left : entry = source
    · rw [left, Function.update_self] at held
      cases held
    · rw [Function.update_of_ne left] at held
      exact reached.only entry held

theorem keeps_open_sync_directory (disk : Disk Name Byte) :
    KeepsOpen kept disk disk.syncDirectory := by
  intro inode reached
  exact ⟨⟨reached.allocated, reached.only⟩, rfl⟩

end Disk

end DurableDirectory

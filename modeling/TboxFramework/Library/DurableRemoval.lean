import TboxFramework.Library.DurableDirectory

/-!
# Names that no power loss brings back

A name is gone when neither the running system nor any recovery finds a file under
it. Only a name without a file in the durable directory and in the pending changes
is gone: an unlink alone waits with the other changes.
-/

namespace DurableDirectory

set_option autoImplicit false

variable {Name Byte : Type} [DecidableEq Name]

namespace Disk

def Gone (disk : Disk Name Byte) (name : Name) : Prop :=
  ∀ inode, ¬disk.MayHold name (some inode)

variable {disk : Disk Name Byte} {name : Name}

theorem Gone.view (gone : disk.Gone name) : disk.view name = none := by
  cases found : disk.view name with
  | none => rfl
  | some inode =>
      have may := disk.may_hold_view name
      rw [found] at may
      exact absurd may (gone inode)

theorem Gone.recovered (gone : disk.Gone name) {recovered : Recovered Name Byte}
    (survives : disk.SurvivesAs recovered) : recovered.entries name = none := by
  cases found : recovered.entries name with
  | none => rfl
  | some inode =>
      have may := may_hold_recovered survives name
      rw [found] at may
      exact absurd may (gone inode)

/-- What a name may hold, some power loss leaves under it. -/
theorem recovered_of_may_hold {value : Option Inode} (may : disk.MayHold name value) :
    ∃ recovered, disk.SurvivesAs recovered ∧ recovered.entries name = value := by
  rcases may with durable | ⟨change, pending, wrote⟩
  · refine ⟨⟨disk.durable, fun inode => (disk.files inode).content⟩, ?_, durable.symm⟩
    exact ⟨⟨[], List.nil_sublist _, rfl⟩, fun _ _ => rfl⟩
  · refine ⟨⟨change.apply disk.durable, fun inode => (disk.files inode).content⟩, ?_, ?_⟩
    · exact ⟨⟨[change], List.singleton_sublist.mpr pending, rfl⟩, fun _ _ => rfl⟩
    · simp [Change.apply, wrote]

theorem gone_iff :
    disk.Gone name ↔ ∀ recovered, disk.SurvivesAs recovered → recovered.entries name = none := by
  constructor
  · intro gone recovered survives
    exact gone.recovered survives
  · intro always inode may
    obtain ⟨recovered, survives, found⟩ := recovered_of_may_hold may
    rw [always recovered survives] at found
    cases found

/-! ## What keeps a name gone -/

theorem Gone.open_create (gone : disk.Gone name) {other : Name} (apart : name ≠ other) :
    (disk.openCreate other).Gone name :=
  fun inode may => gone inode (may_hold_open_create_of_ne apart may)

theorem Gone.open_truncate (gone : disk.Gone name) {other : Name} (apart : name ≠ other) :
    (disk.openTruncate other).Gone name := gone.open_create apart

theorem Gone.write (gone : disk.Gone name) (inode : Inode) (bytes : List Byte) :
    (disk.write inode bytes).Gone name := gone

theorem Gone.fsync (gone : disk.Gone name) (inode : Inode) : (disk.fsync inode).Gone name := gone

theorem Gone.unlink (gone : disk.Gone name) (other : Name) : (disk.unlink other).Gone name := by
  intro inode may
  have split : disk.MayHold name (some inode) ∨
      (Change.unlink other).effect name = some (some inode) :=
    may_hold_snoc disk (disk.unlink other) rfl rfl may
  rcases split with before | wrote
  · exact gone inode before
  · simp only [Change.effect] at wrote
    split at wrote
    · cases wrote
    · cases wrote

theorem Gone.rename_named (gone : disk.Gone name) {source target : Name} {inode : Inode}
    (named : disk.view source = some inode) (apart : name ≠ target) :
    (disk.renameNamed source target inode named).Gone name := by
  intro held may
  have split : disk.MayHold name (some held) ∨
      (Change.rename source target inode).effect name = some (some held) :=
    may_hold_snoc disk (disk.renameNamed source target inode named) rfl rfl may
  rcases split with before | wrote
  · exact gone held before
  · simp only [Change.effect, if_neg apart] at wrote
    split at wrote
    · cases wrote
    · cases wrote

theorem Gone.sync_directory (gone : disk.Gone name) : disk.syncDirectory.Gone name := by
  intro inode may
  rw [may_hold_sync_directory, gone.view] at may
  cases may

/-- An unlink takes nothing from what a power loss may bring back. -/
theorem may_hold_unlink {value : Option Inode} (may : disk.MayHold name value) (other : Name) :
    (disk.unlink other).MayHold name value := by
  rcases may with durable | ⟨change, pending, wrote⟩
  · exact Or.inl durable
  · exact Or.inr ⟨change, List.mem_append_left _ pending, wrote⟩

theorem gone_unlink_iff (other : Name) : (disk.unlink other).Gone name ↔ disk.Gone name := by
  constructor
  · intro gone inode may
    exact gone inode (may_hold_unlink may other)
  · intro gone
    exact gone.unlink other

end Disk

end DurableDirectory

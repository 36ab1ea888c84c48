import Mathlib.Logic.Function.Basic
import Mathlib.Data.List.Basic
import Mathlib.Tactic.SplitIfs

/-!
# A directory with a volatile and a durable side

The durable side of a directory is what its last sync has written. Every later
change waits in `pending`: the running system sees all of them, a power loss
keeps any subsequence of them, each change whole. The content of a file survives
for certain only while the file is `synced`.
-/

namespace DurableDirectory

set_option autoImplicit false

abbrev Inode := Nat

variable {Name Byte : Type} [DecidableEq Name]

inductive Change (Name : Type)
  | create (name : Name) (inode : Inode)
  | rename (source target : Name) (inode : Inode)
  | unlink (name : Name)
  deriving DecidableEq, Repr

/-- What a change writes into one entry, if it touches that entry at all. -/
def Change.effect : Change Name → Name → Option (Option Inode)
  | .create name inode, entry => if entry = name then some (some inode) else none
  | .rename source target inode, entry =>
      if entry = target then some (some inode)
      else if entry = source then some none else none
  | .unlink name, entry => if entry = name then some none else none

def Change.apply (change : Change Name) (entries : Name → Option Inode) : Name → Option Inode :=
  fun entry => (change.effect entry).getD (entries entry)

def applyAll (changes : List (Change Name)) (entries : Name → Option Inode) :
    Name → Option Inode :=
  changes.foldl (fun current change => change.apply current) entries

@[simp] theorem apply_all_nil (entries : Name → Option Inode) : applyAll [] entries = entries :=
  rfl

@[simp] theorem apply_all_cons (change : Change Name) (changes : List (Change Name))
    (entries : Name → Option Inode) :
    applyAll (change :: changes) entries = applyAll changes (change.apply entries) := rfl

@[simp] theorem apply_all_snoc (change : Change Name) (changes : List (Change Name))
    (entries : Name → Option Inode) :
    applyAll (changes ++ [change]) entries = change.apply (applyAll changes entries) := by
  simp [applyAll]

/-- An entry is left alone or holds what one of the changes wrote. -/
theorem apply_all_cases (changes : List (Change Name)) (entries : Name → Option Inode)
    (entry : Name) :
    applyAll changes entries entry = entries entry ∨
      ∃ change ∈ changes, change.effect entry = some (applyAll changes entries entry) := by
  induction changes generalizing entries with
  | nil => exact Or.inl rfl
  | cons change changes ih =>
      rw [apply_all_cons]
      rcases ih (change.apply entries) with untouched | ⟨later, member, wrote⟩
      · rw [untouched]
        cases effect : change.effect entry with
        | none => exact Or.inl (by simp [Change.apply, effect])
        | some value =>
            exact Or.inr ⟨change, List.mem_cons_self, by simp [Change.apply, effect]⟩
      · exact Or.inr ⟨later, List.mem_cons_of_mem _ member, wrote⟩

theorem apply_create (name : Name) (inode : Inode) (entries : Name → Option Inode) :
    (Change.create name inode).apply entries = Function.update entries name (some inode) := by
  funext entry
  by_cases same : entry = name <;> simp [Change.apply, Change.effect, same]

theorem apply_rename (source target : Name) (inode : Inode) (entries : Name → Option Inode) :
    (Change.rename source target inode).apply entries =
      Function.update (Function.update entries source none) target (some inode) := by
  funext entry
  simp only [Change.apply, Change.effect, Function.update_apply]
  split_ifs <;> rfl

theorem apply_unlink (name : Name) (entries : Name → Option Inode) :
    (Change.unlink name).apply entries = Function.update entries name none := by
  funext entry
  by_cases same : entry = name <;> simp [Change.apply, Change.effect, same]

/-! ## Entries without hard links -/

def Allocated (entries : Name → Option Inode) (next : Inode) : Prop :=
  ∀ name inode, entries name = some inode → inode < next

def SingleName (entries : Name → Option Inode) : Prop :=
  ∀ name other inode, entries name = some inode → entries other = some inode → name = other

theorem allocated_update {entries : Name → Option Inode} {next later : Inode}
    (allocated : Allocated entries next) (grows : next ≤ later) (name : Name)
    (value : Option Inode) (bound : ∀ inode, value = some inode → inode < later) :
    Allocated (Function.update entries name value) later := by
  intro entry inode found
  by_cases same : entry = name
  · rw [same, Function.update_self] at found
    exact bound inode found
  · rw [Function.update_of_ne same] at found
    exact Nat.lt_of_lt_of_le (allocated entry inode found) grows

theorem single_name_remove {entries : Name → Option Inode} (single : SingleName entries)
    (name : Name) : SingleName (Function.update entries name none) := by
  intro entry other inode left right
  by_cases first : entry = name
  · simp [first] at left
  · by_cases second : other = name
    · simp [second] at right
    · rw [Function.update_of_ne first] at left
      rw [Function.update_of_ne second] at right
      exact single entry other inode left right

theorem single_name_add {entries : Name → Option Inode} (single : SingleName entries)
    (name : Name) (inode : Inode) (unnamed : ∀ entry, entries entry ≠ some inode) :
    SingleName (Function.update entries name (some inode)) := by
  intro entry other found left right
  by_cases first : entry = name <;> by_cases second : other = name
  · exact first.trans second.symm
  · rw [first, Function.update_self, Option.some.injEq] at left
    rw [Function.update_of_ne second, ← left] at right
    exact absurd right (unnamed other)
  · rw [second, Function.update_self, Option.some.injEq] at right
    rw [Function.update_of_ne first, ← right] at left
    exact absurd left (unnamed entry)
  · rw [Function.update_of_ne first] at left
    rw [Function.update_of_ne second] at right
    exact single entry other found left right

theorem unnamed_after_remove {entries : Name → Option Inode} (single : SingleName entries)
    {name : Name} {inode : Inode} (named : entries name = some inode) (entry : Name) :
    Function.update entries name none entry ≠ some inode := by
  by_cases same : entry = name
  · simp [same]
  · rw [Function.update_of_ne same]
    exact fun found => same (single entry name inode found named)

/-! ## Disks -/

structure File (Byte : Type) where
  content : List Byte
  /-- The device holds exactly `content`. -/
  synced : Bool

/-- A write at offset 0, as the first write through a fresh descriptor makes it. -/
def File.overwrite (file : File Byte) (bytes : List Byte) : File Byte :=
  ⟨bytes ++ file.content.drop bytes.length, false⟩

/-- A directory without hard links whose entries name allocated files. -/
structure Disk (Name Byte : Type) [DecidableEq Name] where
  durable : Name → Option Inode
  pending : List (Change Name)
  files : Inode → File Byte
  nextInode : Inode
  allocated : Allocated (applyAll pending durable) nextInode
  singleName : SingleName (applyAll pending durable)

namespace Disk

/-- The entries as the running system sees them. -/
def view (disk : Disk Name Byte) : Name → Option Inode := applyAll disk.pending disk.durable

def empty : Disk Name Byte where
  durable := fun _ => none
  pending := []
  files := fun _ => ⟨[], false⟩
  nextInode := 0
  allocated := by simp [Allocated]
  singleName := by simp [SingleName]

def setFile (disk : Disk Name Byte) (inode : Inode) (file : File Byte) : Disk Name Byte :=
  { disk with files := Function.update disk.files inode file }

/-- A new empty file under a name. -/
def create (disk : Disk Name Byte) (name : Name) : Disk Name Byte where
  durable := disk.durable
  pending := disk.pending ++ [.create name disk.nextInode]
  files := Function.update disk.files disk.nextInode ⟨[], false⟩
  nextInode := disk.nextInode + 1
  allocated := by
    rw [apply_all_snoc, apply_create]
    exact allocated_update disk.allocated (Nat.le_succ _) name _ (by simp)
  singleName := by
    rw [apply_all_snoc, apply_create]
    apply single_name_add disk.singleName name _
    exact fun entry found => absurd (disk.allocated entry _ found) (Nat.lt_irrefl _)

/-- `open` with `O_CREAT`: the directory it leaves. -/
def openCreate (disk : Disk Name Byte) (name : Name) : Disk Name Byte :=
  match disk.view name with
  | some _ => disk
  | none => disk.create name

/-- The file that `open` with `O_CREAT` opens. -/
def openedInode (disk : Disk Name Byte) (name : Name) : Inode :=
  (disk.view name).getD disk.nextInode

/-- `open` with `O_CREAT | O_TRUNC`. -/
def openTruncate (disk : Disk Name Byte) (name : Name) : Disk Name Byte :=
  (disk.openCreate name).setFile (disk.openedInode name) ⟨[], false⟩

def write (disk : Disk Name Byte) (inode : Inode) (bytes : List Byte) : Disk Name Byte :=
  disk.setFile inode ((disk.files inode).overwrite bytes)

def fsync (disk : Disk Name Byte) (inode : Inode) : Disk Name Byte :=
  disk.setFile inode { disk.files inode with synced := true }

def unlink (disk : Disk Name Byte) (name : Name) : Disk Name Byte where
  durable := disk.durable
  pending := disk.pending ++ [.unlink name]
  files := disk.files
  nextInode := disk.nextInode
  allocated := by
    rw [apply_all_snoc, apply_unlink]
    exact allocated_update disk.allocated (Nat.le_refl _) name none (by simp)
  singleName := by
    rw [apply_all_snoc, apply_unlink]
    exact single_name_remove disk.singleName name

/-- A rename of the file that `source` names at this moment. -/
def renameNamed (disk : Disk Name Byte) (source target : Name) (inode : Inode)
    (named : disk.view source = some inode) : Disk Name Byte where
  durable := disk.durable
  pending := disk.pending ++ [.rename source target inode]
  files := disk.files
  nextInode := disk.nextInode
  allocated := by
    rw [apply_all_snoc, apply_rename]
    refine allocated_update (allocated_update disk.allocated (Nat.le_refl _) source none (by simp))
      (Nat.le_refl _) target _ ?_
    simpa using disk.allocated source inode named
  singleName := by
    rw [apply_all_snoc, apply_rename]
    exact single_name_add (single_name_remove disk.singleName source) target inode
      (unnamed_after_remove disk.singleName named)

/-- `rename`, which fails when `source` names no file and does nothing when both
names are the same. -/
def rename (disk : Disk Name Byte) (source target : Name) : Option (Disk Name Byte) :=
  match named : disk.view source with
  | none => none
  | some inode =>
      if source = target then some disk else some (disk.renameNamed source target inode named)

/-- `fsync` of the directory itself. -/
def syncDirectory (disk : Disk Name Byte) : Disk Name Byte where
  durable := disk.view
  pending := []
  files := disk.files
  nextInode := disk.nextInode
  allocated := disk.allocated
  singleName := disk.singleName

/-! ## What the running system sees -/

theorem view_create (disk : Disk Name Byte) (name : Name) :
    (disk.create name).view = Function.update disk.view name (some disk.nextInode) := by
  simp only [view, create, apply_all_snoc, apply_create]

theorem view_unlink (disk : Disk Name Byte) (name : Name) :
    (disk.unlink name).view = Function.update disk.view name none := by
  simp only [view, unlink, apply_all_snoc, apply_unlink]

theorem view_rename_named (disk : Disk Name Byte) (source target : Name) (inode : Inode)
    (named : disk.view source = some inode) :
    (disk.renameNamed source target inode named).view =
      Function.update (Function.update disk.view source none) target (some inode) := by
  simp only [view, renameNamed, apply_all_snoc, apply_rename]

theorem view_open_create (disk : Disk Name Byte) (name : Name) :
    (disk.openCreate name).view =
      Function.update disk.view name (some (disk.openedInode name)) := by
  unfold openCreate openedInode
  split
  · rename_i inode found
    rw [found, Option.getD_some, ← found, Function.update_eq_self]
  · rename_i missing
    rw [missing]
    exact view_create disk name

theorem view_open_truncate (disk : Disk Name Byte) (name : Name) :
    (disk.openTruncate name).view =
      Function.update disk.view name (some (disk.openedInode name)) :=
  view_open_create disk name

@[simp] theorem view_open_truncate_self (disk : Disk Name Byte) (name : Name) :
    (disk.openTruncate name).view name = some (disk.openedInode name) := by
  rw [view_open_truncate, Function.update_self]

@[simp] theorem view_rename_named_self (disk : Disk Name Byte) (source target : Name)
    (inode : Inode) (named : disk.view source = some inode) :
    (disk.renameNamed source target inode named).view target = some inode := by
  rw [view_rename_named, Function.update_self]

theorem view_unlink_of_ne (disk : Disk Name Byte) {name entry : Name} (other : entry ≠ name) :
    (disk.unlink name).view entry = disk.view entry := by
  rw [view_unlink, Function.update_of_ne other]

theorem view_open_create_of_ne (disk : Disk Name Byte) {name entry : Name}
    (other : entry ≠ name) : (disk.openCreate name).view entry = disk.view entry := by
  rw [view_open_create, Function.update_of_ne other]

theorem rename_eq_some {disk after : Disk Name Byte} {source target : Name}
    (different : source ≠ target) :
    disk.rename source target = some after ↔
      ∃ inode named, after = disk.renameNamed source target inode named := by
  unfold rename
  split
  · rename_i missing
    simp only [reduceCtorEq, false_iff, not_exists]
    intro inode named
    rw [missing] at named
    cases named
  · rename_i inode named
    rw [if_neg different, Option.some.injEq]
    constructor
    · rintro rfl
      exact ⟨inode, named, rfl⟩
    · rintro ⟨other, found, rfl⟩
      cases Option.some.inj (named.symm.trans found)
      rfl

theorem view_lt {disk : Disk Name Byte} {name : Name} {inode : Inode}
    (named : disk.view name = some inode) : inode < disk.nextInode :=
  disk.allocated name inode named

theorem view_inj {disk : Disk Name Byte} {name other : Name} {inode : Inode}
    (left : disk.view name = some inode) (right : disk.view other = some inode) :
    name = other :=
  disk.singleName name other inode left right

/-! ## What happens to files -/

@[simp] theorem files_set_file_self (disk : Disk Name Byte) (inode : Inode) (file : File Byte) :
    (disk.setFile inode file).files inode = file := Function.update_self ..

theorem files_set_file_of_ne (disk : Disk Name Byte) {inode other : Inode} (file : File Byte)
    (different : other ≠ inode) : (disk.setFile inode file).files other = disk.files other :=
  Function.update_of_ne different ..

@[simp] theorem content_fsync (disk : Disk Name Byte) (inode other : Inode) :
    ((disk.fsync inode).files other).content = (disk.files other).content := by
  by_cases same : other = inode
  · subst same
    simp [fsync]
  · rw [fsync, files_set_file_of_ne _ _ same]

/-- Opening for creation leaves every allocated file alone. -/
theorem files_open_create (disk : Disk Name Byte) (name : Name) {inode : Inode}
    (old : inode < disk.nextInode) : (disk.openCreate name).files inode = disk.files inode := by
  unfold openCreate
  split
  · rfl
  · exact Function.update_of_ne (Nat.ne_of_lt old) ..

theorem next_open_create (disk : Disk Name Byte) (name : Name) :
    disk.nextInode ≤ (disk.openCreate name).nextInode := by
  unfold openCreate
  split
  · exact Nat.le_refl _
  · exact Nat.le_succ _

/-- Opening for truncation leaves every allocated file alone that has another name. -/
theorem files_open_truncate (disk : Disk Name Byte) (name : Name) {inode : Inode}
    (old : inode < disk.nextInode) (other : disk.view name ≠ some inode) :
    (disk.openTruncate name).files inode = disk.files inode := by
  have different : inode ≠ disk.openedInode name := by
    unfold openedInode
    cases found : disk.view name with
    | none => exact Nat.ne_of_lt old
    | some opened =>
        rintro rfl
        exact other found
  rw [openTruncate, files_set_file_of_ne _ _ different, files_open_create disk name old]

@[simp] theorem files_open_truncate_self (disk : Disk Name Byte) (name : Name) :
    (disk.openTruncate name).files (disk.openedInode name) = ⟨[], false⟩ :=
  files_set_file_self ..

theorem write_empty_file (disk : Disk Name Byte) {inode : Inode} (bytes : List Byte)
    (empty : (disk.files inode).content = []) :
    (disk.write inode bytes).files inode = ⟨bytes, false⟩ := by
  simp [write, File.overwrite, empty]

/-- What reading the file of this name gives, if there is one. -/
def read (disk : Disk Name Byte) (name : Name) : Option (List Byte) :=
  (disk.view name).map fun inode => (disk.files inode).content

theorem read_of_view {disk : Disk Name Byte} {name : Name} {inode : Inode}
    (named : disk.view name = some inode) : disk.read name = some (disk.files inode).content := by
  simp [read, named]

/-- An entry reads as before when it names the same file with the same content. -/
theorem read_congr {disk after : Disk Name Byte} {name : Name}
    (named : after.view name = disk.view name)
    (content : ∀ inode, disk.view name = some inode →
      (after.files inode).content = (disk.files inode).content) :
    after.read name = disk.read name := by
  unfold read
  rw [named]
  cases found : disk.view name with
  | none => rfl
  | some inode => simp [content inode found]

theorem read_open_create_of_ne (disk : Disk Name Byte) {name entry : Name}
    (other : entry ≠ name) : (disk.openCreate name).read entry = disk.read entry := by
  apply read_congr (disk.view_open_create_of_ne other)
  intro inode found
  rw [disk.files_open_create name (view_lt found)]

theorem read_open_truncate_of_ne (disk : Disk Name Byte) {name entry : Name}
    (other : entry ≠ name) : (disk.openTruncate name).read entry = disk.read entry := by
  refine read_congr (disk.view_open_create_of_ne other) ?_
  intro inode found
  rw [disk.files_open_truncate name (view_lt found) (fun named => other (view_inj found named))]

theorem read_write_of_ne {disk : Disk Name Byte} {name entry : Name} {inode : Inode}
    (named : disk.view name = some inode) (other : entry ≠ name) (bytes : List Byte) :
    (disk.write inode bytes).read entry = disk.read entry := by
  refine read_congr rfl ?_
  intro held found
  have different : held ≠ inode := by
    rintro rfl
    exact other (view_inj found named)
  rw [write, files_set_file_of_ne _ _ different]

@[simp] theorem read_fsync (disk : Disk Name Byte) (inode : Inode) (entry : Name) :
    (disk.fsync inode).read entry = disk.read entry :=
  read_congr rfl fun held _ => disk.content_fsync inode held

theorem read_unlink_of_ne (disk : Disk Name Byte) {name entry : Name} (other : entry ≠ name) :
    (disk.unlink name).read entry = disk.read entry :=
  read_congr (disk.view_unlink_of_ne other) fun _ _ => rfl

/-- The target of a rename reads as the source did. -/
theorem read_rename_named (disk : Disk Name Byte) (source target : Name) (inode : Inode)
    (named : disk.view source = some inode) :
    (disk.renameNamed source target inode named).read target = disk.read source := by
  rw [read_of_view named, read_of_view (disk.view_rename_named_self source target inode named)]
  rfl

/-! ## Power loss -/

/-- What an entry may hold after a power loss, judged entry by entry. -/
def MayHold (disk : Disk Name Byte) (name : Name) (value : Option Inode) : Prop :=
  value = disk.durable name ∨ ∃ change ∈ disk.pending, change.effect name = some value

/-- The disk found after a power loss. -/
structure Recovered (Name Byte : Type) where
  entries : Name → Option Inode
  content : Inode → List Byte

/-- Any subsequence of the pending changes survives, each change whole; the
content of a file that was not synced may be anything. -/
def SurvivesAs (disk : Disk Name Byte) (recovered : Recovered Name Byte) : Prop :=
  (∃ kept, kept.Sublist disk.pending ∧ recovered.entries = applyAll kept disk.durable) ∧
    ∀ inode, (disk.files inode).synced = true →
      recovered.content inode = (disk.files inode).content

theorem may_hold_view (disk : Disk Name Byte) (name : Name) :
    disk.MayHold name (disk.view name) := by
  rcases apply_all_cases disk.pending disk.durable name with untouched | wrote
  · exact Or.inl untouched
  · exact Or.inr wrote

theorem may_hold_recovered {disk : Disk Name Byte} {recovered : Recovered Name Byte}
    (survives : disk.SurvivesAs recovered) (name : Name) :
    disk.MayHold name (recovered.entries name) := by
  obtain ⟨⟨kept, sublist, same⟩, -⟩ := survives
  rw [same]
  rcases apply_all_cases kept disk.durable name with untouched | ⟨change, member, wrote⟩
  · exact Or.inl untouched
  · exact Or.inr ⟨change, sublist.subset member, wrote⟩

/-- A power loss that loses nothing. -/
def intact (disk : Disk Name Byte) : Recovered Name Byte :=
  ⟨disk.view, fun inode => (disk.files inode).content⟩

theorem survives_intact (disk : Disk Name Byte) : disk.SurvivesAs disk.intact :=
  ⟨⟨disk.pending, List.Sublist.refl _, rfl⟩, fun _ _ => rfl⟩

theorem may_hold_snoc (disk after : Disk Name Byte) {change : Change Name}
    (durable : after.durable = disk.durable) (pending : after.pending = disk.pending ++ [change])
    {name : Name} {value : Option Inode} (may : after.MayHold name value) :
    disk.MayHold name value ∨ change.effect name = some value := by
  rcases may with same | ⟨earlier, member, wrote⟩
  · exact Or.inl (Or.inl (durable ▸ same))
  · rw [pending, List.mem_append, List.mem_singleton] at member
    rcases member with old | rfl
    · exact Or.inl (Or.inr ⟨earlier, old, wrote⟩)
    · exact Or.inr wrote

/-- Names that the change does not touch may hold what they could before. -/
theorem may_hold_open_create_of_ne {disk : Disk Name Byte} {name entry : Name}
    (other : entry ≠ name) {value : Option Inode}
    (may : (disk.openCreate name).MayHold entry value) : disk.MayHold entry value := by
  unfold openCreate at may
  split at may
  · exact may
  · have snoc : disk.MayHold entry value ∨
        (Change.create name disk.nextInode).effect entry = some value :=
      may_hold_snoc disk (disk.create name) rfl rfl may
    exact snoc.resolve_right (by simp [Change.effect, other])

theorem may_hold_unlink_of_ne {disk : Disk Name Byte} {name entry : Name}
    (other : entry ≠ name) {value : Option Inode}
    (may : (disk.unlink name).MayHold entry value) : disk.MayHold entry value := by
  have snoc : disk.MayHold entry value ∨ (Change.unlink name).effect entry = some value :=
    may_hold_snoc disk (disk.unlink name) rfl rfl may
  exact snoc.resolve_right (by simp [Change.effect, other])

theorem may_hold_sync_directory {disk : Disk Name Byte} {name : Name} {value : Option Inode} :
    disk.syncDirectory.MayHold name value ↔ value = disk.view name := by
  simp [MayHold, syncDirectory]

end Disk

end DurableDirectory

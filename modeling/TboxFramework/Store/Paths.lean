import Mathlib.Data.List.TakeWhile

/-!
# Paths of the store

Strings are byte lists and `ascii` spells the literals of the source. The kernel
reads a path up to its first NUL byte, so two names that differ only after a NUL
name one directory entry.
-/

namespace TboxFramework.Store

set_option autoImplicit false

abbrev Bytes := List UInt8

def ascii (chars : List Char) : Bytes := chars.map fun char => UInt8.ofNat char.toNat

/-- The bytes of a string literal of the source. -/
def text (literal : String) : Bytes := literal.toUTF8.data.toList

def datSuffix : Bytes := ascii ['.', 'd', 'a', 't']

def tmpSuffix : Bytes := ascii ['.', 't', 'm', 'p']

def lockSuffix : Bytes := ascii ['.', 'l', 'o', 'c', 'k']

def slash : UInt8 := 47

/-- What `c_str()` shows to the kernel. -/
def cString (path : Bytes) : Bytes := path.takeWhile (· ≠ 0)

structure PathResolver where
  serviceName : Bytes
  storeRoot : Bytes
  serviceNamed : serviceName ≠ []

namespace PathResolver

/-- The constructor: none models `std::invalid_argument`. -/
def make (serviceName storeRoot : Bytes) : Option PathResolver :=
  if named : serviceName = [] then none
  else some {
    serviceName := serviceName
    storeRoot :=
      if storeRoot ≠ [] ∧ storeRoot.getLast? ≠ some slash then storeRoot ++ [slash]
      else storeRoot
    serviceNamed := named }

def getStorePath (resolver : PathResolver) : Bytes :=
  resolver.storeRoot ++ resolver.serviceName ++ [slash]

def getKeyPath (resolver : PathResolver) (key : Bytes) : Bytes :=
  resolver.getStorePath ++ key ++ datSuffix

def getTempPath (resolver : PathResolver) (key : Bytes) : Bytes :=
  resolver.getKeyPath key ++ tmpSuffix

/-- `FileLock::getLockFilePath`. -/
def getLockFilePath (resolver : PathResolver) (key : Bytes) : Bytes :=
  resolver.getKeyPath key ++ lockSuffix

/-- The entry that a path below the store directory names inside it. -/
def entry (resolver : PathResolver) (path : Bytes) : Bytes :=
  cString (path.drop resolver.getStorePath.length)

def keyEntry (resolver : PathResolver) (key : Bytes) : Bytes :=
  resolver.entry (resolver.getKeyPath key)

def tempEntry (resolver : PathResolver) (key : Bytes) : Bytes :=
  resolver.entry (resolver.getTempPath key)

def lockEntry (resolver : PathResolver) (key : Bytes) : Bytes :=
  resolver.entry (resolver.getLockFilePath key)

end PathResolver

theorem c_string_eq_self {path : Bytes} (clean : 0 ∉ path) : cString path = path := by
  unfold cString
  rw [List.takeWhile_eq_self_iff]
  intro byte member
  simp only [ne_eq, decide_eq_true_eq]
  rintro rfl
  exact clean member

/-- A key with a NUL byte cuts every path before its suffix. -/
theorem c_string_append_of_nul {path : Bytes} (nul : 0 ∈ path) (suffix : Bytes) :
    cString (path ++ suffix) = cString path := by
  unfold cString
  rw [List.takeWhile_append, if_neg]
  intro whole
  have kept : path.takeWhile (· ≠ 0) = path :=
    (List.takeWhile_prefix _).eq_of_length whole
  rw [List.takeWhile_eq_self_iff] at kept
  simpa using kept 0 nul

variable (resolver : PathResolver)

theorem key_entry_eq {key : Bytes} (clean : 0 ∉ key) :
    resolver.keyEntry key = key ++ datSuffix := by
  unfold PathResolver.keyEntry PathResolver.entry PathResolver.getKeyPath
  rw [List.append_assoc, List.drop_left]
  exact c_string_eq_self (by simp [clean, datSuffix, ascii])

theorem temp_entry_eq {key : Bytes} (clean : 0 ∉ key) :
    resolver.tempEntry key = key ++ datSuffix ++ tmpSuffix := by
  unfold PathResolver.tempEntry PathResolver.entry PathResolver.getTempPath
    PathResolver.getKeyPath
  rw [List.append_assoc, List.append_assoc, List.drop_left, ← List.append_assoc]
  exact c_string_eq_self (by simp [clean, datSuffix, tmpSuffix, ascii])

theorem lock_entry_eq {key : Bytes} (clean : 0 ∉ key) :
    resolver.lockEntry key = key ++ datSuffix ++ lockSuffix := by
  unfold PathResolver.lockEntry PathResolver.entry PathResolver.getLockFilePath
    PathResolver.getKeyPath
  rw [List.append_assoc, List.append_assoc, List.drop_left, ← List.append_assoc]
  exact c_string_eq_self (by simp [clean, datSuffix, lockSuffix, ascii])

theorem entries_of_nul {key : Bytes} (nul : 0 ∈ key) :
    resolver.tempEntry key = resolver.keyEntry key ∧
      resolver.lockEntry key = resolver.keyEntry key := by
  unfold PathResolver.tempEntry PathResolver.lockEntry PathResolver.keyEntry PathResolver.entry
    PathResolver.getTempPath PathResolver.getLockFilePath PathResolver.getKeyPath
  simp only [List.append_assoc, List.drop_left, c_string_append_of_nul nul, and_self]

/-- The last byte of an entry tells data, temporary and lock files apart. -/
theorem key_entry_last {key : Bytes} (clean : 0 ∉ key) :
    (resolver.keyEntry key).getLast? = some 116 := by
  rw [key_entry_eq resolver clean, List.getLast?_append]
  rfl

theorem temp_entry_last {key : Bytes} (clean : 0 ∉ key) :
    (resolver.tempEntry key).getLast? = some 112 := by
  rw [temp_entry_eq resolver clean, List.getLast?_append]
  rfl

theorem lock_entry_last {key : Bytes} (clean : 0 ∉ key) :
    (resolver.lockEntry key).getLast? = some 107 := by
  rw [lock_entry_eq resolver clean, List.getLast?_append]
  rfl

theorem key_entry_ne_temp {key other : Bytes} (clean : 0 ∉ key) (tidy : 0 ∉ other) :
    resolver.keyEntry key ≠ resolver.tempEntry other := by
  intro same
  have last := key_entry_last resolver clean
  rw [same, temp_entry_last resolver tidy] at last
  exact absurd last (by decide)

theorem key_entry_ne_lock {key other : Bytes} (clean : 0 ∉ key) (tidy : 0 ∉ other) :
    resolver.keyEntry key ≠ resolver.lockEntry other := by
  intro same
  have last := key_entry_last resolver clean
  rw [same, lock_entry_last resolver tidy] at last
  exact absurd last (by decide)

theorem temp_entry_ne_lock {key other : Bytes} (clean : 0 ∉ key) (tidy : 0 ∉ other) :
    resolver.tempEntry key ≠ resolver.lockEntry other := by
  intro same
  have last := temp_entry_last resolver clean
  rw [same, lock_entry_last resolver tidy] at last
  exact absurd last (by decide)

theorem key_entry_inj {key other : Bytes} (clean : 0 ∉ key) (tidy : 0 ∉ other)
    (same : resolver.keyEntry key = resolver.keyEntry other) : key = other := by
  rw [key_entry_eq resolver clean, key_entry_eq resolver tidy] at same
  exact List.append_cancel_right same

/-- The paths of the service `s` under `/`. -/
def PathResolver.ofRoot : PathResolver := ⟨ascii ['s'], ascii ['/'], by decide⟩

end TboxFramework.Store

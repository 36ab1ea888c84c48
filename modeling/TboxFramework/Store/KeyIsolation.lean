import TboxFramework.Library.PathResolution
import TboxFramework.Store.CallFrames

/-!
# Which keys and services stay apart

Paths are built by concatenation and resolved by the kernel. A key that goes straight
down gives three names below the directory of its service, a `/` in it or not; a key with
an empty part, a `.`, a `..` or a NUL can lead anywhere.
-/

namespace TboxFramework.Store

open PathResolution (Location Proper components resolve under)

set_option autoImplicit false

/-- The file that a C string names for a process in this working directory. -/
def locateFrom (workingDirectory : Location) (path : Bytes) : Location :=
  resolve workingDirectory (cString path)

/-- The calls of a `Store`, each with the answers of the kernel. -/
inductive StoreCall (Value : Type)
  | save (answers : SaveAnswers) (value : Value)
  | load (answers : LoadAnswers)
  | loadOr (answers : LoadAnswers) (defaultValue : Value)
  | has (ok : Bool)
  | remove (answers : RemoveAnswers)

section Calls

variable {Value Name : Type} [DecidableEq Name] (locate : Bytes → Name) (store : TypedStore Value)
  (state : StoreState Name) (key : Bytes)

def TypedStore.call : StoreCall Value → StoreState Name
  | .save answers value => (store.save locate answers state key value).2
  | .load answers => (store.load locate answers state key).2
  | .loadOr answers defaultValue => (store.loadOr locate answers state key defaultValue).2
  | .has ok => (store.has locate ok state key).2
  | .remove answers => (store.remove locate answers state key).2

theorem call_within (call : StoreCall Value) :
    Within (keyNames locate store.pathResolver key) state.kernel
      (store.call locate state key call).kernel := by
  cases call with
  | save answers value => exact store.save_within locate answers state key value
  | load answers => exact store.load_within locate answers state key
  | loadOr answers defaultValue => exact store.loadOr_within locate answers state key defaultValue
  | has ok => exact store.has_within locate ok state key
  | remove answers => exact store.remove_within locate answers state key

end Calls

/-- No call on the key gives the kernel a name of this file, and the file reads as before. -/
def LeavesAlone {Value : Type} (workingDirectory : Location) (store : TypedStore Value)
    (key : Bytes) (file : Location) : Prop :=
  ∀ (state : StoreState Location) (call : StoreCall Value), state.kernel.touched = [] →
    file ∉ (store.call (locateFrom workingDirectory) state key call).kernel.touched ∧
      (store.call (locateFrom workingDirectory) state key call).kernel.disk.read file =
        state.kernel.disk.read file

/-- A service name that is one proper name. -/
structure ServiceName (service : Bytes) : Prop where
  proper : Proper service
  single : slash ∉ service

/-- The directories that a key goes through. -/
def keyDirectories (key : Bytes) : List Bytes := (components key).dropLast

/-- What stands behind the last `/` of a key, where the suffixes are put. -/
def keyName (key : Bytes) : Bytes := (components key).getLast (List.splitOn_ne_nil _ key)

/-- A key that goes down name by name; what stands behind its last `/` may be anything, since
a suffix follows it. -/
structure StraightKey (key : Bytes) : Prop where
  clean : 0 ∉ key
  proper : ∀ part ∈ keyDirectories key, Proper part

instance (key : Bytes) : Decidable (StraightKey key) :=
  decidable_of_iff (0 ∉ key ∧ ∀ part ∈ keyDirectories key, Proper part)
    ⟨fun both => ⟨both.1, both.2⟩, fun straight => ⟨straight.clean, straight.proper⟩⟩

/-! ## Where the files of a key lie -/

/-- The directory that a store root names. -/
def rootLocation (workingDirectory : Location) (storeRoot : Bytes) : Location :=
  if storeRoot = [] then workingDirectory else under workingDirectory storeRoot.dropLast

/-- What the constructor makes of strings without NUL. -/
structure MadeFrom (resolver : PathResolver) (service : Bytes) : Prop where
  named : resolver.serviceName = service
  terminated : resolver.storeRoot = [] ∨ ∃ directory, resolver.storeRoot = directory ++ [slash]
  cleanRoot : 0 ∉ resolver.storeRoot
  cleanService : 0 ∉ service

theorem made_from {service storeRoot : Bytes} {resolver : PathResolver}
    (made : PathResolver.make service storeRoot = some resolver) (cleanRoot : 0 ∉ storeRoot)
    (cleanService : 0 ∉ service) : MadeFrom resolver service := by
  unfold PathResolver.make at made
  split at made
  · cases made
  · obtain rfl := Option.some.inj made
    refine ⟨rfl, ?_, ?_, cleanService⟩
    · simp only
      split
      · exact Or.inr ⟨storeRoot, rfl⟩
      · rename_i ended
        by_cases empty : storeRoot = []
        · exact Or.inl empty
        · have last : storeRoot.getLast? = some slash := by
            by_contra other
            exact ended ⟨empty, other⟩
          exact Or.inr (List.getLast?_eq_some_iff.mp last)
    · simp only
      split
      · rw [List.mem_append, not_or]
        exact ⟨cleanRoot, by decide⟩
      · exact cleanRoot

section Locations

variable (workingDirectory : Location) {resolver : PathResolver} {service : Bytes}

theorem service_location (made : MadeFrom resolver service) (named : ServiceName service) :
    under workingDirectory (resolver.storeRoot ++ resolver.serviceName) =
      rootLocation workingDirectory resolver.storeRoot ++ [service] := by
  rw [made.named]
  rcases made.terminated with empty | ⟨directory, root⟩
  · rw [empty, rootLocation, if_pos rfl]
    exact PathResolution.under_name workingDirectory named.single named.proper
  · have nonempty : directory ++ [slash] ≠ [] := by simp
    rw [root, rootLocation, if_neg nonempty, List.dropLast_concat, List.append_assoc]
    exact PathResolution.under_below workingDirectory directory named.single named.proper

theorem store_path_clean (made : MadeFrom resolver service) : 0 ∉ resolver.getStorePath := by
  unfold PathResolver.getStorePath
  rw [List.mem_append, List.mem_append, not_or, not_or, made.named]
  exact ⟨⟨made.cleanRoot, made.cleanService⟩, by decide⟩

theorem directory_location (made : MadeFrom resolver service) (named : ServiceName service) :
    locateFrom workingDirectory resolver.getStorePath =
      rootLocation workingDirectory resolver.storeRoot ++ [service] := by
  unfold locateFrom
  rw [c_string_eq_self (store_path_clean made), ← service_location workingDirectory made named]
  exact PathResolution.resolve_directory workingDirectory _

theorem file_location (made : MadeFrom resolver service) (named : ServiceName service)
    {path : Bytes} (clean : 0 ∉ path) (proper : ∀ name ∈ components path, Proper name) :
    locateFrom workingDirectory (resolver.getStorePath ++ path) =
      rootLocation workingDirectory resolver.storeRoot ++ [service] ++ components path := by
  have whole : 0 ∉ resolver.getStorePath ++ path := by
    rw [List.mem_append, not_or]
    exact ⟨store_path_clean made, clean⟩
  unfold locateFrom
  rw [c_string_eq_self whole, ← service_location workingDirectory made named,
    PathResolver.getStorePath, List.append_assoc]
  exact PathResolution.resolve_below workingDirectory _ proper

end Locations

/-! ## What a suffix makes of a key -/

theorem key_parts (key : Bytes) : components key = keyDirectories key ++ [keyName key] :=
  (List.dropLast_append_getLast _).symm

theorem suffixed_parts (key : Bytes) {suffix : Bytes} (single : slash ∉ suffix) :
    components (key ++ suffix) = keyDirectories key ++ [keyName key ++ suffix] := by
  obtain ⟨front, last, parts, longer⟩ := PathResolution.components_append_name single key
  have split := (key_parts key).symm.trans parts
  obtain ⟨directories, name⟩ := List.append_inj' split rfl
  rw [longer, directories, (List.cons.inj name).1]

/-- A key is its directories and its name. -/
theorem key_inj {key other : Bytes} (directories : keyDirectories key = keyDirectories other)
    (name : keyName key = keyName other) : key = other := by
  apply PathResolution.components_inj
  rw [key_parts key, key_parts other, directories, name]

/-- A suffix of three letters or more makes any name a proper one. -/
theorem long_name_proper {name suffix : Bytes} (long : 3 ≤ suffix.length) :
    Proper (name ++ suffix) := by
  have length : 3 ≤ (name ++ suffix).length := by
    rw [List.length_append]
    omega
  refine ⟨?_, ?_, ?_⟩
  · rintro same
    rw [same] at length
    cases length
  · rintro same
    rw [same] at length
    exact absurd length (by decide)
  · rintro same
    rw [same] at length
    exact absurd length (by decide)

theorem StraightKey.suffixed {key suffix : Bytes} (straight : StraightKey key)
    (tail : Plain suffix) (long : 3 ≤ suffix.length) :
    0 ∉ key ++ suffix ∧ ∀ name ∈ components (key ++ suffix), Proper name := by
  constructor
  · rw [List.mem_append, not_or]
    exact ⟨straight.clean, tail.1⟩
  · rw [suffixed_parts key tail.2, List.forall_mem_append, List.forall_mem_singleton]
    exact ⟨straight.proper, long_name_proper long⟩

theorem same_root {first second storeRoot : Bytes} {left right : PathResolver}
    (madeLeft : PathResolver.make first storeRoot = some left)
    (madeRight : PathResolver.make second storeRoot = some right) :
    left.storeRoot = right.storeRoot := by
  unfold PathResolver.make at madeLeft madeRight
  split at madeLeft
  · cases madeLeft
  · split at madeRight
    · cases madeRight
    · obtain rfl := Option.some.inj madeLeft
      obtain rfl := Option.some.inj madeRight
      rfl

section Keys

variable (workingDirectory : Location) {resolver : PathResolver} {service key : Bytes}

/-- Where the path of a key and a suffix leads. -/
theorem suffixed_location (made : MadeFrom resolver service) (named : ServiceName service)
    (straight : StraightKey key) {suffix : Bytes} (tail : Plain suffix)
    (long : 3 ≤ suffix.length) :
    locateFrom workingDirectory (resolver.getStorePath ++ (key ++ suffix)) =
      rootLocation workingDirectory resolver.storeRoot ++ [service] ++
        (keyDirectories key ++ [keyName key ++ suffix]) := by
  obtain ⟨clean, proper⟩ := straight.suffixed tail long
  rw [file_location workingDirectory made named clean proper, suffixed_parts key tail.2]

theorem key_location (made : MadeFrom resolver service) (named : ServiceName service)
    (straight : StraightKey key) :
    locateFrom workingDirectory (resolver.getKeyPath key) =
      rootLocation workingDirectory resolver.storeRoot ++ [service] ++
        (keyDirectories key ++ [keyName key ++ datSuffix]) := by
  rw [PathResolver.getKeyPath, List.append_assoc]
  exact suffixed_location workingDirectory made named straight (by decide) (by decide)

theorem temp_location (made : MadeFrom resolver service) (named : ServiceName service)
    (straight : StraightKey key) :
    locateFrom workingDirectory (resolver.getTempPath key) =
      rootLocation workingDirectory resolver.storeRoot ++ [service] ++
        (keyDirectories key ++ [keyName key ++ (datSuffix ++ tmpSuffix)]) := by
  rw [PathResolver.getTempPath, PathResolver.getKeyPath, List.append_assoc, List.append_assoc]
  exact suffixed_location workingDirectory made named straight (by decide) (by decide)

theorem lock_location (made : MadeFrom resolver service) (named : ServiceName service)
    (straight : StraightKey key) :
    locateFrom workingDirectory (resolver.getLockFilePath key) =
      rootLocation workingDirectory resolver.storeRoot ++ [service] ++
        (keyDirectories key ++ [keyName key ++ (datSuffix ++ lockSuffix)]) := by
  rw [PathResolver.getLockFilePath, PathResolver.getKeyPath, List.append_assoc, List.append_assoc]
  exact suffixed_location workingDirectory made named straight (by decide) (by decide)

end Keys

/-- Two files below service directories under one root are the same only by name. -/
theorem same_entry {root : Location} {service other name entry : Bytes}
    {directories others : List Bytes}
    (same : root ++ [service] ++ (directories ++ [name]) = root ++ [other] ++ (others ++ [entry])) :
    service = other ∧ directories = others ∧ name = entry := by
  rw [List.append_assoc, List.append_assoc, List.append_cancel_left_eq] at same
  obtain ⟨services, rest⟩ := List.cons.inj same
  have below : directories ++ [name] = others ++ [entry] := rest
  obtain ⟨inside, names⟩ := List.append_inj' below rfl
  exact ⟨services, inside, (List.cons.inj names).1⟩

/-- Only the data file of a key has a name that ends like one. -/
theorem other_suffix {key other suffix : Bytes} (last : suffix.getLast? ≠ some 116)
    (nonempty : suffix ≠ []) : key ++ suffix ≠ other ++ datSuffix := by
  intro same
  have ends := congrArg List.getLast? same
  rw [List.getLast?_append_of_ne_nil _ nonempty, List.getLast?_append_of_ne_nil _ (by decide)]
    at ends
  exact last (ends.trans (by decide))

/-- Calls on a key leave the data files of other services and of other keys alone, when
both keys go straight down and no string holds a NUL. -/
theorem keys_and_services_isolated (Value : Type) (workingDirectory : Location)
    (storeRoot service otherService key otherKey : Bytes) (store : TypedStore Value)
    (other : PathResolver) (cleanRoot : 0 ∉ storeRoot)
    (made : PathResolver.make service storeRoot = some store.pathResolver)
    (otherMade : PathResolver.make otherService storeRoot = some other)
    (named : ServiceName service) (otherNamed : ServiceName otherService)
    (clean : 0 ∉ service) (otherClean : 0 ∉ otherService)
    (straight : StraightKey key) (otherStraight : StraightKey otherKey)
    (apart : service ≠ otherService ∨ key ≠ otherKey) :
    LeavesAlone workingDirectory store key
      (locateFrom workingDirectory (other.getKeyPath otherKey)) := by
  have built := made_from made cleanRoot clean
  have otherBuilt := made_from otherMade cleanRoot otherClean
  have unnamed : locateFrom workingDirectory (other.getKeyPath otherKey) ∉
      keyNames (locateFrom workingDirectory) store.pathResolver key := by
    rw [key_location workingDirectory otherBuilt otherNamed otherStraight,
      ← same_root made otherMade]
    simp only [keyNames, key_location workingDirectory built named straight,
      temp_location workingDirectory built named straight,
      lock_location workingDirectory built named straight,
      directory_location workingDirectory built named, List.mem_cons, List.not_mem_nil, or_false,
      not_or]
    refine ⟨?_, ?_, ?_, ?_⟩
    · intro same
      obtain ⟨services, directories, names⟩ := same_entry same
      rcases apart with different | different
      · exact different services.symm
      · exact different (key_inj directories (List.append_cancel_right names)).symm
    · intro same
      exact other_suffix (by decide) (by decide) (same_entry same).2.2.symm
    · intro same
      exact other_suffix (by decide) (by decide) (same_entry same).2.2.symm
    · intro same
      have length := congrArg List.length same
      simp only [List.length_append, List.length_singleton] at length
      omega
  intro state call fresh
  have within := call_within (locateFrom workingDirectory) store state key call
  refine ⟨?_, within.read _ unnamed⟩
  intro touched
  rcases within.touched _ touched with earlier | member
  · rw [fresh] at earlier
    cases earlier
  · exact unnamed member

/-- The services `a` and `b` under `/r`. -/
def serviceA : PathResolver := ⟨ascii ['a'], ascii ['/', 'r', '/'], by decide⟩

def serviceB : PathResolver := ⟨ascii ['b'], ascii ['/', 'r', '/'], by decide⟩

/-- One key, in a directory of its own, of two services. -/
theorem same_key_of_two_services_isolated :
    LeavesAlone [] (⟨serviceA, .string, true⟩ : TypedStore Bytes) (text "net/apn")
      (locateFrom [] (serviceB.getKeyPath (text "net/apn"))) :=
  keys_and_services_isolated Bytes [] (ascii ['/', 'r']) (ascii ['a']) (ascii ['b'])
    (text "net/apn") (text "net/apn") ⟨serviceA, .string, true⟩ serviceB (by decide) rfl rfl
    ⟨by decide, by decide⟩ ⟨by decide, by decide⟩ (by decide) (by decide) (by decide) (by decide)
    (Or.inl (by decide))

/-- A key that climbs out of its service directory reaches the file of another service. -/
theorem climbing_key_reaches_other_service :
    ¬∀ (Value : Type) (workingDirectory : Location)
      (storeRoot service otherService key otherKey : Bytes) (store : TypedStore Value)
      (other : PathResolver),
      PathResolver.make service storeRoot = some store.pathResolver →
      PathResolver.make otherService storeRoot = some other →
      ServiceName service → ServiceName otherService →
      (service ≠ otherService ∨ key ≠ otherKey) →
      LeavesAlone workingDirectory store key
        (locateFrom workingDirectory (other.getKeyPath otherKey)) := by
  intro claimed
  have alone := claimed Bytes [] (ascii ['/', 'r']) (ascii ['a']) (ascii ['b'])
    (ascii ['.', '.', '/', 'b', '/', 'x']) (ascii ['x']) ⟨serviceA, .string, true⟩ serviceB rfl rfl
    ⟨by decide, by decide⟩ ⟨by decide, by decide⟩ (Or.inl (by decide))
  have kept := (alone ⟨⟨.empty, []⟩, fun _ => false⟩ (.save (.granted 1) [1]) rfl).2
  exact absurd kept (by decide)

end TboxFramework.Store

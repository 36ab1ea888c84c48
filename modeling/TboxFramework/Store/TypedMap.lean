import TboxFramework.Store.FailedWrite

/-!
# The store as a typed map

Data, temporary and lock files of all keys share one directory. While every file
operation succeeds, the directory represents a map from keys to typed values, and
each call does to the directory what it says it does to the map.
-/

namespace TboxFramework.Store

open DurableDirectory

set_option autoImplicit false

/-- The types whose values pass the serializer unchanged. -/
inductive ValueType
  | int
  | bool
  | string
  deriving DecidableEq, Repr

def ValueType.Carrier : ValueType → Type
  | .int => Int32
  | .bool => Bool
  | .string => Bytes

def ValueType.codec : (type : ValueType) → Codec type.Carrier
  | .int => .int
  | .bool => .bool
  | .string => .string

theorem codec_lossless (type : ValueType) (value : type.Carrier) : type.codec.Lossless value := by
  cases type with
  | int => exact int_lossless value
  | bool => exact bool_lossless value
  | string => exact string_lossless value

structure TypedValue where
  type : ValueType
  value : type.Carrier

def TypedValue.bytes (typed : TypedValue) : Bytes := typed.type.codec.serialize typed.value

inductive StoreOp
  | save (key : Bytes) (typed : TypedValue)
  | load (key : Bytes) (type : ValueType)
  | loadOr (key : Bytes) (defaultValue : TypedValue)
  | has (key : Bytes)
  | remove (key : Bytes)

def StoreOp.key : StoreOp → Bytes
  | .save key _ | .load key _ | .loadOr key _ | .has key | .remove key => key

/-! ## The map -/

abbrev TypedMap := Bytes → Option TypedValue

def TypedMap.apply (map : TypedMap) : StoreOp → TypedMap
  | .save key typed => Function.update map key (some typed)
  | .remove key => Function.update map key none
  | .load _ _ | .loadOr _ _ | .has _ => map

/-- What the last change of each key has left. -/
def lastChanges (ops : List StoreOp) : TypedMap := ops.foldl TypedMap.apply fun _ => none

/-! ## The directory -/

/-- A ready store. -/
def readyStore (resolver : PathResolver) (type : ValueType) : TypedStore type.Carrier :=
  ⟨resolver, type.codec, true⟩

variable (resolver : PathResolver)

def saveAll (state : DirectoryState) (key : Bytes) (typed : TypedValue) :
    Option StoreError × DirectoryState :=
  (readyStore resolver typed.type).saveEntry (.granted typed.bytes.length) state key typed.value

def loadAll (state : DirectoryState) (key : Bytes) (type : ValueType) :
    Except StoreError type.Carrier × DirectoryState :=
  (readyStore resolver type).load resolver.entry .granted state key

def loadOrAll (state : DirectoryState) (key : Bytes) (defaultValue : TypedValue) :
    Except StoreError defaultValue.type.Carrier × DirectoryState :=
  (readyStore resolver defaultValue.type).loadOr resolver.entry .granted state key
    defaultValue.value

/-- `has` and `remove` are no templates: any type serves. -/
def hasAll (state : DirectoryState) (key : Bytes) : Bool × DirectoryState :=
  (readyStore resolver .string).has resolver.entry true state key

def removeAll (state : DirectoryState) (key : Bytes) : Option StoreError × DirectoryState :=
  (readyStore resolver .string).remove resolver.entry .granted state key

/-- A call whose file operations all succeed. -/
def perform (state : DirectoryState) : StoreOp → DirectoryState
  | .save key typed => (saveAll resolver state key typed).2
  | .load key type => (loadAll resolver state key type).2
  | .loadOr key defaultValue => (loadOrAll resolver state key defaultValue).2
  | .has key => (hasAll resolver state key).2
  | .remove key => (removeAll resolver state key).2

def afterOps (ops : List StoreOp) : DirectoryState := ops.foldl (perform resolver) emptyDirectory

/-- What the claims of a map come to for the store: every key answers as the map says. -/
structure BehavesAs (map : TypedMap) (state : DirectoryState) : Prop where
  present : ∀ key typed, Plain key → map key = some typed →
    (hasAll resolver state key).1 = true ∧
      (loadAll resolver state key typed.type).1 = .ok typed.value ∧
      ∀ other : typed.type.Carrier,
        (loadOrAll resolver state key ⟨typed.type, other⟩).1 = .ok typed.value
  absent : ∀ key, Plain key → map key = none →
    (hasAll resolver state key).1 = false ∧
      (∀ type, (loadAll resolver state key type).1 = .error .kKeyNotFound) ∧
      ∀ defaultValue, (loadOrAll resolver state key defaultValue).1 = .ok defaultValue.value
  framed : ∀ op key, Plain op.key → Plain key → key ≠ op.key →
    (perform resolver state op).kernel.disk.read (resolver.keyEntry key) =
      state.kernel.disk.read (resolver.keyEntry key)
  normal : ∀ key, Plain key → (∀ typed, (saveAll resolver state key typed).1 = none) ∧
    (removeAll resolver state key).1 = none
  unlocked : ∀ key, state.lockFds key = false

/-! ## The simulation -/

/-- The data files hold the serialized values of the map. -/
structure Represents (map : TypedMap) (state : DirectoryState) : Prop where
  read : ∀ key, Plain key →
    state.kernel.disk.read (resolver.keyEntry key) = (map key).map TypedValue.bytes
  unlocked : ∀ key, state.lockFds key = false

variable {resolver}

theorem key_entry_not_named {key other : Bytes} (plain : Plain key) (named : Plain other)
    (different : key ≠ other) :
    resolver.keyEntry key ∉ keyNames resolver.entry resolver other := by
  have nonempty : resolver.keyEntry key ≠ resolver.entry resolver.getStorePath := by
    intro same
    have last := key_entry_last resolver plain.1
    rw [same] at last
    simp [PathResolver.entry, cString] at last
  simp only [keyNames, List.mem_cons, List.not_mem_nil, or_false, not_or]
  exact ⟨fun same => different (key_entry_inj resolver plain.1 named.1 same),
    key_entry_ne_temp resolver plain.1 named.1, key_entry_ne_lock resolver plain.1 named.1,
    nonempty⟩

theorem perform_within (state : DirectoryState) (op : StoreOp) :
    Within (keyNames resolver.entry resolver op.key) state.kernel
      (perform resolver state op).kernel := by
  cases op with
  | save key typed => exact TypedStore.save_within _ (readyStore resolver typed.type) _ _ _ _
  | load key type => exact TypedStore.load_within _ (readyStore resolver type) _ _ _
  | loadOr key defaultValue =>
      exact TypedStore.loadOr_within _ (readyStore resolver defaultValue.type) _ _ _ _
  | has key => exact TypedStore.has_within _ (readyStore resolver .string) _ _ _
  | remove key => exact TypedStore.remove_within _ (readyStore resolver .string) _ _ _

theorem granted_stage (data : Bytes) :
    (WriteAnswers.granted data.length).stage data = .complete := by
  simp [WriteAnswers.stage, WriteAnswers.granted]

theorem save_reaches_write (resolver : PathResolver) (state : DirectoryState) (key : Bytes)
    (typed : TypedValue) :
    (readyStore resolver typed.type).ReachesWrite (.granted typed.bytes.length) state key
      typed.value where
  ready := rfl
  locked := Or.inr rfl
  serialized := by
    rintro ⟨empty, plain⟩
    have text := (codec_lossless typed.type typed.value).serialized empty
    exact Bool.noConfusion (text.symm.trans plain)

section AnyType

variable {Value : Type} {store : TypedStore Value} {state : DirectoryState} {key : Bytes}

/-- A save whose system calls all succeed, at any type. -/
theorem granted_save_spec (plain : Plain key) {value : Value}
    (reached : store.ReachesWrite (.granted (store.codec.serialize value).length) state key value) :
    (store.saveEntry (.granted (store.codec.serialize value).length) state key value).1 = none ∧
      (store.saveEntry (.granted (store.codec.serialize value).length) state key
        value).2.kernel.disk.read (store.pathResolver.keyEntry key) =
          some (store.codec.serialize value) ∧
      (store.saveEntry (.granted (store.codec.serialize value).length) state key
        value).2.lockFds = Function.update state.lockFds key false := by
  have stage := granted_stage (store.codec.serialize value)
  refine ⟨?_, ?_, TypedStore.save_entry_lock_fds reached⟩
  · have wrote : (store.writeEntry (.granted (store.codec.serialize value).length) state
        key value).1 = true := by
      rw [TypedStore.write_entry_eq]
      exact decide_eq_true stage
    rw [TypedStore.save_entry_eq reached, wrote]
    rfl
  · have read := TypedStore.clean_key_read plain.1 ⟨rfl, rfl⟩ reached
    refine read.1.trans ?_
    change WriteStage.finalFile ((WriteAnswers.granted (store.codec.serialize value).length).stage
      (store.codec.serialize value)) _ _ = some (store.codec.serialize value)
    rw [stage]
    rfl

end AnyType

theorem save_all_spec (state : DirectoryState) {key : Bytes} (plain : Plain key)
    (typed : TypedValue) :
    (saveAll resolver state key typed).1 = none ∧
      (saveAll resolver state key typed).2.kernel.disk.read (resolver.keyEntry key) =
        some typed.bytes ∧
      (saveAll resolver state key typed).2.lockFds = Function.update state.lockFds key false :=
  granted_save_spec plain (save_reaches_write resolver state key typed)

theorem remove_all_spec (state : DirectoryState) {key : Bytes} (plain : Plain key) :
    (removeAll resolver state key).1 = none ∧
      (removeAll resolver state key).2.kernel.disk.read (resolver.keyEntry key) = none ∧
      (removeAll resolver state key).2.lockFds = Function.update state.lockFds key false := by
  obtain ⟨granted, locked⟩ := @acquire_locked Bytes _ resolver.entry resolver ⟨true, true⟩ state key
    (Or.inr rfl)
  unfold removeAll TypedStore.remove
  simp only [readyStore, RemoveAnswers.granted, if_true]
  rw [granted]
  refine ⟨rfl, ?_, release_locked _ _ _ locked⟩
  have kept := (release_within resolver.entry resolver true ⟨(AtomicWriter.remove resolver.entry
    resolver true (FileLock.acquire resolver.entry resolver ⟨true, true⟩ state key).2.kernel
    key).2, (FileLock.acquire resolver.entry resolver ⟨true, true⟩ state key).2.lockFds⟩ key).read
    (resolver.keyEntry key)
  refine (kept ?_).trans (remove_file_gone _ _)
  intro member
  exact key_entry_ne_lock resolver plain.1 plain.1 (List.mem_singleton.mp member)

/-- `exists` sees exactly what a read finds. -/
theorem is_present_answer (kernel : Kernel Bytes) (key : Bytes) :
    (AtomicWriter.isPresent resolver.entry resolver true kernel key).1 =
      (kernel.disk.read (resolver.keyEntry key)).isSome := by
  unfold AtomicWriter.isPresent Disk.read PathResolver.keyEntry
  cases found : kernel.disk.view (resolver.entry (resolver.getKeyPath key)) <;> simp [found]

theorem has_all_answer (state : DirectoryState) (key : Bytes) :
    (hasAll resolver state key).1 =
      (state.kernel.disk.read (resolver.keyEntry key)).isSome :=
  is_present_answer state.kernel key

/-- A load that finds its file, at any type. -/
theorem load_of_read {Value : Type} {store : TypedStore Value} {state : DirectoryState}
    {key bytes : Bytes} {value : Value} (ready : store.ready = true)
    (held : state.kernel.disk.read (store.pathResolver.keyEntry key) = some bytes) :
    (store.load store.pathResolver.entry .granted state key).1 = .ok value ↔
      store.codec.deserialize bytes = some value := by
  have found := @is_present_answer store.pathResolver state.kernel key
  rw [held] at found
  unfold TypedStore.load
  simp only [ready, LoadAnswers.granted, if_true]
  split
  · rename_i missed
    rw [missed] at found
    cases found
  · rename_i kernel present
    obtain ⟨-, rfl⟩ := Prod.mk.inj present
    have read : (state.kernel.touch (store.pathResolver.entry
        (store.pathResolver.getKeyPath key))).disk.read
        (store.pathResolver.entry (store.pathResolver.getKeyPath key)) = some bytes := held
    simp only [read]
    cases store.codec.deserialize bytes with
    | none => simp
    | some restored => simp

theorem load_all_present {state : DirectoryState} {key : Bytes} {typed : TypedValue}
    (held : state.kernel.disk.read (resolver.keyEntry key) = some typed.bytes) :
    (loadAll resolver state key typed.type).1 = .ok typed.value := by
  have restored := (codec_lossless typed.type typed.value).restored
  exact (@load_of_read _ (readyStore resolver typed.type) _ _ _ _ rfl held).mpr restored

theorem load_all_absent {state : DirectoryState} {key : Bytes}
    (missing : state.kernel.disk.read (resolver.keyEntry key) = none) (type : ValueType) :
    (loadAll resolver state key type).1 = .error .kKeyNotFound := by
  have found := @is_present_answer resolver state.kernel key
  rw [missing] at found
  unfold loadAll TypedStore.load
  simp only [readyStore, LoadAnswers.granted, if_true]
  split
  · rfl
  · rename_i kernel present
    rw [present] at found
    cases found

theorem load_or_present {state : DirectoryState} {key : Bytes} {defaultValue : TypedValue}
    {value : defaultValue.type.Carrier}
    (loaded : (loadAll resolver state key defaultValue.type).1 = .ok value) :
    (loadOrAll resolver state key defaultValue).1 = .ok value := by
  unfold loadAll at loaded
  unfold loadOrAll TypedStore.loadOr
  split
  · rename_i missed
    rw [missed] at loaded
    cases loaded
  · exact loaded

theorem load_or_absent {state : DirectoryState} {key : Bytes} {defaultValue : TypedValue}
    (missing : (loadAll resolver state key defaultValue.type).1 = .error .kKeyNotFound) :
    (loadOrAll resolver state key defaultValue).1 = .ok defaultValue.value := by
  unfold loadAll at missing
  unfold loadOrAll TypedStore.loadOr
  split
  · rfl
  · rename_i other
    exact (other _ (Prod.ext missing rfl)).elim

theorem behaves_of_represents {map : TypedMap} {state : DirectoryState}
    (represents : Represents resolver map state) : BehavesAs resolver map state where
  present := by
    intro key typed plain mapped
    have held := represents.read key plain
    rw [mapped, Option.map_some] at held
    have loaded := load_all_present held
    refine ⟨?_, loaded, ?_⟩
    · rw [has_all_answer, held]
      rfl
    · intro other
      exact @load_or_present resolver state key ⟨typed.type, other⟩ _ loaded
  absent := by
    intro key plain unmapped
    have missing := represents.read key plain
    rw [unmapped, Option.map_none] at missing
    have unloaded := load_all_absent missing
    refine ⟨?_, unloaded, ?_⟩
    · rw [has_all_answer, missing]
      rfl
    · intro defaultValue
      exact load_or_absent (unloaded defaultValue.type)
  framed := by
    intro op key named plain different
    exact (perform_within state op).read _ (key_entry_not_named plain named different)
  normal := fun key plain =>
    ⟨fun typed => (save_all_spec state plain typed).1, (remove_all_spec state plain).1⟩
  unlocked := represents.unlocked

/-- Calls that only look leave the directory and the locks alone. -/
structure OnlyLooked (before after : DirectoryState) : Prop where
  disk : after.kernel.disk = before.kernel.disk
  lockFds : after.lockFds = before.lockFds

theorem load_only_looks (state : DirectoryState) (key : Bytes) (type : ValueType) :
    OnlyLooked state (loadAll resolver state key type).2 := by
  unfold loadAll TypedStore.load AtomicWriter.isPresent
  simp only [readyStore, if_true]
  split
  · rename_i kernel found
    obtain ⟨-, rfl⟩ := Prod.mk.inj found
    exact ⟨rfl, rfl⟩
  · rename_i kernel found
    obtain ⟨-, rfl⟩ := Prod.mk.inj found
    split
    · split <;> exact ⟨rfl, rfl⟩
    · exact ⟨rfl, rfl⟩

theorem load_or_only_looks (state : DirectoryState) (key : Bytes) (defaultValue : TypedValue) :
    OnlyLooked state (loadOrAll resolver state key defaultValue).2 := by
  have looked := @load_only_looks resolver state key defaultValue.type
  unfold loadAll at looked
  unfold loadOrAll TypedStore.loadOr
  split
  · rename_i missed
    rw [missed] at looked
    exact looked
  · exact looked

theorem Represents.looked {map : TypedMap} {before after : DirectoryState}
    (represents : Represents resolver map before) (looked : OnlyLooked before after) :
    Represents resolver map after where
  read := by
    rw [looked.disk]
    exact represents.read
  unlocked := by
    rw [looked.lockFds]
    exact represents.unlocked

/-- A call that changes its own key and nothing else. -/
theorem Represents.change {map : TypedMap} {before after : DirectoryState} {key : Bytes}
    {typed : Option TypedValue} (represents : Represents resolver map before)
    (plain : Plain key) (within : Within (keyNames resolver.entry resolver key) before.kernel
      after.kernel)
    (read : after.kernel.disk.read (resolver.keyEntry key) = typed.map TypedValue.bytes)
    (lockFds : after.lockFds = Function.update before.lockFds key false) :
    Represents resolver (Function.update map key typed) after where
  read := by
    intro other named
    by_cases same : other = key
    · rw [same, Function.update_self, read]
    · rw [Function.update_of_ne same, within.read _ (key_entry_not_named named plain same)]
      exact represents.read other named
  unlocked := by
    intro other
    rw [lockFds]
    by_cases same : other = key
    · rw [same, Function.update_self]
    · rw [Function.update_of_ne same]
      exact represents.unlocked other

/-- One call does to the directory what it does to the map. -/
theorem represents_step {map : TypedMap} {state : DirectoryState}
    (represents : Represents resolver map state) {op : StoreOp} (named : Plain op.key) :
    Represents resolver (map.apply op) (perform resolver state op) := by
  have within := @perform_within resolver state op
  cases op with
  | save key typed =>
      obtain ⟨-, read, lockFds⟩ := @save_all_spec resolver state key named typed
      exact represents.change named within read lockFds
  | remove key =>
      obtain ⟨-, read, lockFds⟩ := @remove_all_spec resolver state key named
      exact represents.change named within read lockFds
  | load key type => exact represents.looked (load_only_looks state key type)
  | loadOr key defaultValue => exact represents.looked (load_or_only_looks state key defaultValue)
  | has key => exact represents.looked ⟨rfl, rfl⟩

theorem represents_empty : Represents resolver (fun _ => none) emptyDirectory where
  read := by
    intro key plain
    rfl
  unlocked := fun _ => rfl

theorem represents_run (ops : List StoreOp) {map : TypedMap} {state : DirectoryState}
    (represents : Represents resolver map state) (named : ∀ op ∈ ops, Plain op.key) :
    Represents resolver (ops.foldl TypedMap.apply map) (ops.foldl (perform resolver) state) := by
  induction ops generalizing map state with
  | nil => exact represents
  | cons op ops ih =>
      rw [List.forall_mem_cons] at named
      exact ih (represents_step represents named.1) named.2

/-- After any sequence of calls on an empty directory every key answers with what its
last change has left. -/
theorem store_behaves_as_typed_map (resolver : PathResolver) (ops : List StoreOp)
    (named : ∀ op ∈ ops, Plain op.key) :
    BehavesAs resolver (lastChanges ops) (afterOps resolver ops) :=
  behaves_of_represents (represents_run ops represents_empty named)

/-- A number that is saved, replaced by an empty string and removed, beside bytes with a NUL. -/
def mixedOps : List StoreOp :=
  [.save [107] ⟨.int, (-42 : Int32)⟩, .save [108] ⟨.string, ([0, 32] : Bytes)⟩,
    .save [107] ⟨.string, ([] : Bytes)⟩, .load [107] .string, .remove [107], .has [107]]

theorem mixed_ops_behave :
    BehavesAs .ofRoot (lastChanges mixedOps) (afterOps .ofRoot mixedOps) :=
  store_behaves_as_typed_map .ofRoot mixedOps (by decide)

end TboxFramework.Store

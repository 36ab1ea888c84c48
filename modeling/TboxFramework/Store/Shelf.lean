import TboxFramework.Store.Sessions

/-!
# What the stores are for

A shelf holds one map from keys to typed values for every service. Opening a store takes
the map of its service or puts an empty one there, a clean-up takes the map away, and a
store whose map was taken away by another one finds nothing and can lock nothing.
-/

namespace TboxFramework.Store

open Interleaving
open DurableDirectory

set_option autoImplicit false

structure Handle where
  service : Service
  ready : Bool

structure Shelf where
  rootExists : Bool
  maps : Bytes → Option TypedMap
  handles : StoreId → Option Handle
  answers : List Answer

def Shelf.initial (rootExists : Bool) : Shelf := ⟨rootExists, fun _ => none, fun _ => none, []⟩

/-- The value as another type reads its text. -/
def TypedValue.readAs (typed : TypedValue) (type : ValueType) : Answer :=
  match type.codec.deserialize typed.bytes with
  | some value => .loaded type value
  | none => .failed .kSerializationFailed

/-- A value whose file cannot be removed stays, and `remove` does not tell. -/
def TypedMap.change (map : TypedMap) (unlinks : Bool) : StoreOp → TypedMap
  | .remove key => if unlinks then map.apply (.remove key) else map
  | op => map.apply op

def TypedMap.answer (map : TypedMap) : StoreOp → Answer
  | .save _ _ | .remove _ => .done
  | .load key type =>
      match map key with
      | some typed => typed.readAs type
      | none => .failed .kKeyNotFound
  | .loadOr key defaultValue =>
      match map key with
      | some typed => typed.readAs defaultValue.type
      | none => .loaded defaultValue.type defaultValue.value
  | .has key => .flag (map key).isSome

/-- The service has no directory any more. -/
def answerMissing : StoreOp → Answer
  | .save _ _ | .remove _ => .failed .kLockFailed
  | .load _ _ => .failed .kKeyNotFound
  | .loadOr _ defaultValue => .loaded defaultValue.type defaultValue.value
  | .has _ => .flag false

def answerUnready : StoreOp → Answer
  | .has _ => .flag false
  | _ => .failed .kPathUnavailable

def Handle.answer (handle : Handle) (map : Option TypedMap) (op : StoreOp) : Answer :=
  if handle.ready then
    match map with
    | some map => map.answer op
    | none => answerMissing op
  else answerUnready op

def Shelf.openStore (shelf : Shelf) (storeRoot : Bytes) (service : Service)
    (mkdirRoot mkdirService : Bool) : Bool × Shelf :=
  if storeRoot ≠ [] ∧ (shelf.rootExists ∨ mkdirRoot) then
    let shelf := { shelf with rootExists := true }
    if (shelf.maps service.name).isSome then (true, shelf)
    else if mkdirService then
      (true, { shelf with maps := Function.update shelf.maps service.name (some fun _ => none) })
    else (false, shelf)
  else (false, shelf)

open Classical in
/-- The keys whose data files could not be removed stay, and with them the map. -/
noncomputable def TypedMap.cleanup (map : TypedMap) (removes : Bytes → Bool)
    (rmdirService : Bool) : Option TypedMap :=
  let left : TypedMap := fun key => if removes (key ++ datSuffix) then none else map key
  if rmdirService ∧ ∀ key, left key = none then none else some left

open Classical in
noncomputable def Shelf.rmdirRoot (shelf : Shelf) (allowed : Bool) : Shelf :=
  if allowed ∧ ∀ name, shelf.maps name = none then { shelf with rootExists := false } else shelf

noncomputable def shelfStep (storeRoot : Bytes) (shelf : Shelf) : SessionCall → Option Shelf
  | .openStore id service mkdirRoot mkdirService =>
      let (ready, shelf) := shelf.openStore storeRoot service mkdirRoot mkdirService
      some { shelf with
        handles := Function.update shelf.handles id (some ⟨service, ready⟩)
        answers := shelf.answers ++ [.done] }
  | .call id op unlinks =>
      (shelf.handles id).map fun handle =>
        let map := shelf.maps handle.service.name
        { shelf with
          maps := if handle.ready then
              Function.update shelf.maps handle.service.name (map.map fun map => map.change unlinks op)
            else shelf.maps
          answers := shelf.answers ++ [handle.answer map op] }
  | .isReady id =>
      (shelf.handles id).map fun handle =>
        { shelf with answers := shelf.answers ++ [.flag handle.ready] }
  | .flush id =>
      (shelf.handles id).map fun _ => { shelf with answers := shelf.answers ++ [.done] }
  | .cleanup id removes rmdirService rmdirRoot =>
      (shelf.handles id).map fun handle =>
        match handle.ready, shelf.maps handle.service.name with
        | true, some map =>
            let shelf : Shelf := { shelf with
              maps := Function.update shelf.maps handle.service.name
                (map.cleanup removes rmdirService)
              handles := Function.update shelf.handles id (some { handle with ready := false })
              answers := shelf.answers ++ [.done] }
            shelf.rmdirRoot rmdirRoot
        | _, _ => { shelf with answers := shelf.answers ++ [.done] }

/-! ## One call -/

variable {resolver : PathResolver} {map : TypedMap} {state : DirectoryState}

theorem call_unready (resolver : PathResolver) (present unlinks : Bool) (state : DirectoryState)
    (op : StoreOp) :
    callStore resolver false present unlinks state op = (answerUnready op, state) := by
  cases op with
  | save key typed => rfl
  | load key type => rfl
  | loadOr key defaultValue => rfl
  | has key => rfl
  | remove key => rfl

theorem call_missing (resolver : PathResolver) (unlinks : Bool) (op : StoreOp) :
    (callStore resolver true false unlinks ⟨emptyKernel, fun _ => false⟩ op).1 =
        answerMissing op ∧
      (callStore resolver true false unlinks ⟨emptyKernel, fun _ => false⟩ op).2.lockFds =
        fun _ => false := by
  cases op with
  | save key typed => exact ⟨rfl, rfl⟩
  | load key type => exact ⟨rfl, rfl⟩
  | loadOr key defaultValue => exact ⟨rfl, rfl⟩
  | has key => exact ⟨rfl, rfl⟩
  | remove key => exact ⟨rfl, rfl⟩

theorem load_all_read {key : Bytes} {typed : TypedValue}
    (held : state.kernel.disk.read (resolver.keyEntry key) = some typed.bytes)
    (type : ValueType) : Answer.ofLoad (loadAll resolver state key type).1 = typed.readAs type := by
  unfold TypedValue.readAs
  cases restored : type.codec.deserialize typed.bytes with
  | some value =>
      have loaded : (loadAll resolver state key type).1 = .ok value :=
        (@load_of_read _ (readyStore resolver type) _ _ _ _ rfl held).mpr restored
      rw [loaded]
      rfl
  | none =>
      have found := @is_present_answer resolver state.kernel key
      rw [held] at found
      unfold loadAll TypedStore.load
      simp only [readyStore, LoadAnswers.granted, if_true]
      split
      · next missed =>
          rw [missed] at found
          cases found
      · next kernel present =>
          have same := (Prod.mk.inj present).2
          have read : kernel.disk.read (resolver.entry (resolver.getKeyPath key)) =
              some typed.bytes := by
            rw [← same]
            exact held
          simp only [read, restored]
          rfl

theorem read_as_found (typed : TypedValue) (type : ValueType) :
    typed.readAs type ≠ .failed .kKeyNotFound := by
  unfold TypedValue.readAs
  split
  · simp
  · simp

/-- `loadOr` differs from `load` for a missing key only. -/
theorem load_or_found {key : Bytes} {defaultValue : TypedValue}
    (found : (loadAll resolver state key defaultValue.type).1 ≠ .error .kKeyNotFound) :
    (loadOrAll resolver state key defaultValue).1 =
      (loadAll resolver state key defaultValue.type).1 := by
  unfold loadAll at found ⊢
  unfold loadOrAll TypedStore.loadOr
  split
  · next missed =>
      rw [missed] at found
      exact absurd rfl found
  · rfl

theorem call_present (represents : Represents resolver map state) {op : StoreOp}
    (named : Plain op.key) :
    (callStore resolver true true true state op).1 = map.answer op := by
  have behaves := behaves_of_represents represents
  cases op with
  | save key typed => exact congrArg Answer.ofSave ((behaves.normal key named).1 typed)
  | remove key => exact congrArg Answer.ofSave (behaves.normal key named).2
  | load key type =>
      change Answer.ofLoad (loadAll resolver state key type).1 = _
      have held := represents.read key named
      cases mapped : map key with
      | none =>
          simp only [TypedMap.answer, mapped]
          rw [(behaves.absent key named mapped).2.1 type]
          rfl
      | some typed =>
          simp only [TypedMap.answer, mapped]
          rw [mapped] at held
          exact load_all_read held type
  | loadOr key defaultValue =>
      change Answer.ofLoad (loadOrAll resolver state key defaultValue).1 = _
      have held := represents.read key named
      cases mapped : map key with
      | none =>
          simp only [TypedMap.answer, mapped]
          rw [(behaves.absent key named mapped).2.2 defaultValue]
          rfl
      | some typed =>
          simp only [TypedMap.answer, mapped]
          rw [mapped] at held
          have read := load_all_read held defaultValue.type
          rw [load_or_found, read]
          intro missed
          rw [missed] at read
          exact read_as_found typed defaultValue.type read.symm
  | has key =>
      change Answer.flag (hasAll resolver state key).1 = _
      rw [has_all_answer, represents.read key named, Option.isSome_map]
      rfl

theorem call_perform (resolver : PathResolver) (state : DirectoryState) (op : StoreOp) :
    (callStore resolver true true true state op).2 = perform resolver state op := by
  cases op with
  | save key typed => rfl
  | load key type => rfl
  | loadOr key defaultValue => rfl
  | has key => rfl
  | remove key => rfl

/-- A refusal of `unlink` is for a `remove` alone, and only the directory shows it. -/
theorem call_refused (resolver : PathResolver) (state : DirectoryState) (op : StoreOp) :
    (∃ key, op = .remove key ∧
      callStore resolver true true false state op =
        (Answer.ofSave (removeRefused resolver state key).1,
          (removeRefused resolver state key).2)) ∨
      callStore resolver true true false state op = callStore resolver true true true state op ∧
        ∀ map : TypedMap, map.change false op = map.apply op := by
  cases op with
  | remove key => exact Or.inl ⟨key, rfl, rfl⟩
  | save key typed => exact Or.inr ⟨rfl, fun _ => rfl⟩
  | load key type => exact Or.inr ⟨rfl, fun _ => rfl⟩
  | loadOr key defaultValue => exact Or.inr ⟨rfl, fun _ => rfl⟩
  | has key => exact Or.inr ⟨rfl, fun _ => rfl⟩

theorem change_granted (map : TypedMap) (op : StoreOp) : map.change true op = map.apply op := by
  cases op <;> rfl

end TboxFramework.Store

import TboxFramework.Store.Shelf

/-!
# The stores do what the shelf says

Call by call the directories hold the maps of the shelf, whichever stores are opened,
cleaned up and opened again in between.
-/

namespace TboxFramework.Store

open Interleaving
open DurableDirectory

set_option autoImplicit false

def StoreObject.handle (store : StoreObject) : Handle := ⟨store.service, store.ready⟩

/-- A directory between two calls, when no lock is held. -/
structure Kept (resolver : PathResolver) (map : TypedMap) (kernel : Kernel Bytes) : Prop where
  tidy : Tidy resolver map ⟨kernel, fun _ => false⟩
  plain : ∀ key, ¬ Plain key → map key = none

structure Matches (storeRoot : Bytes) (world : World) (shelf : Shelf) : Prop where
  root : world.tree.rootExists = shelf.rootExists
  present : ∀ name, (world.tree.directories name).isSome = (shelf.maps name).isSome
  made : ∀ name, world.tree.directories name ≠ none → name ∈ world.tree.made
  kept : ∀ (service : Service) kernel map, world.tree.directories service.name = some kernel →
    shelf.maps service.name = some map → Kept (service.resolver storeRoot) map kernel
  handles : ∀ id, shelf.handles id = (world.stores id).map StoreObject.handle
  unlocked : ∀ id store, world.stores id = some store → store.lockFds = fun _ => false
  answers : shelf.answers = world.answers

variable {storeRoot : Bytes} {world : World} {shelf : Shelf}

theorem initial_matches (storeRoot : Bytes) (rootExists : Bool) :
    Matches storeRoot (.initial rootExists) (.initial rootExists) where
  root := rfl
  present := fun _ => rfl
  made := fun _ present => absurd rfl present
  kept := by
    intro service kernel map found
    cases found
  handles := fun _ => rfl
  unlocked := by
    intro id store found
    cases found
  answers := rfl

theorem Service.ext {service other : Service} (same : service.name = other.name) :
    service = other := by
  cases service
  cases other
  cases same
  rfl

namespace Matches

/-- The directory of one service changes as its map does. -/
theorem directory {kernel : Option (Kernel Bytes)} {map : Option TypedMap} {made : List Bytes}
    (holds : Matches storeRoot world shelf) (service : Service)
    (present : kernel.isSome = map.isSome) (more : world.tree.made ⊆ made)
    (here : kernel ≠ none → service.name ∈ made)
    (kept : ∀ found values, kernel = some found → map = some values →
      Kept (service.resolver storeRoot) values found) :
    Matches storeRoot
      { world with tree := { world.tree with
        directories := Function.update world.tree.directories service.name kernel
        made := made } }
      { shelf with maps := Function.update shelf.maps service.name map } where
  root := holds.root
  present := by
    intro name
    by_cases own : name = service.name
    · simp only [own, Function.update_self, present]
    · simp only [Function.update_of_ne own, holds.present]
  made := by
    intro name found
    by_cases own : name = service.name
    · simp only [own, Function.update_self] at found ⊢
      exact here found
    · simp only [Function.update_of_ne own] at found
      exact more (holds.made name found)
  kept := by
    intro other found values
    by_cases own : other.name = service.name
    · obtain rfl := Service.ext own
      simp only [Function.update_self]
      exact kept found values
    · simp only [Function.update_of_ne own]
      exact holds.kept other found values
  handles := holds.handles
  unlocked := holds.unlocked
  answers := holds.answers

theorem store (holds : Matches storeRoot world shelf) (id : StoreId) {object : StoreObject}
    (unlocked : object.lockFds = fun _ => false) :
    Matches storeRoot
      { world with stores := Function.update world.stores id (some object) }
      { shelf with handles := Function.update shelf.handles id (some object.handle) } where
  root := holds.root
  present := holds.present
  made := holds.made
  kept := holds.kept
  handles := by
    intro other
    by_cases own : other = id
    · simp only [own, Function.update_self, Option.map_some]
    · simp only [Function.update_of_ne own, holds.handles]
  unlocked := by
    intro other found
    by_cases own : other = id
    · simp only [own, Function.update_self]
      intro same
      rw [← Option.some.inj same]
      exact unlocked
    · simp only [Function.update_of_ne own]
      exact holds.unlocked other found
  answers := holds.answers

theorem answer (holds : Matches storeRoot world shelf) (answer : Answer) :
    Matches storeRoot { world with answers := world.answers ++ [answer] }
      { shelf with answers := shelf.answers ++ [answer] } where
  root := holds.root
  present := holds.present
  made := holds.made
  kept := holds.kept
  handles := holds.handles
  unlocked := holds.unlocked
  answers := congrArg (· ++ [answer]) holds.answers

theorem rootExists (holds : Matches storeRoot world shelf) (rootExists : Bool) :
    Matches storeRoot { world with tree := { world.tree with rootExists := rootExists } }
      { shelf with rootExists := rootExists } :=
  { holds with root := rfl }

end Matches

/-! ## Opening -/

theorem resolver_made (storeRoot : Bytes) (service : Service) :
    PathResolver.make service.name storeRoot = some (service.resolver storeRoot) :=
  (Option.some_get _).symm

theorem resolver_eq (storeRoot : Bytes) (service : Service) :
    (service.resolver storeRoot).serviceName = service.name ∧
      (service.resolver storeRoot).storeRoot =
        if storeRoot ≠ [] ∧ storeRoot.getLast? ≠ some slash then storeRoot ++ [slash]
        else storeRoot := by
  have made := resolver_made storeRoot service
  unfold PathResolver.make at made
  rw [dif_neg service.ne_nil] at made
  rw [← Option.some.inj made]
  exact ⟨rfl, rfl⟩

theorem resolver_root (storeRoot : Bytes) (service : Service) :
    (service.resolver storeRoot).storeRoot ≠ [] ↔ storeRoot ≠ [] := by
  rw [(resolver_eq storeRoot service).2]
  split
  · next ended => simp [ended.1]
  · rfl

theorem fresh_kept (resolver : PathResolver) : Kept resolver (fun _ => none) emptyKernel :=
  ⟨tidy_empty resolver, fun _ _ => rfl⟩

theorem ensure_matches (holds : Matches storeRoot world shelf) (service : Service)
    (mkdirRoot mkdirService : Bool) :
    (world.tree.ensureDirectory (service.resolver storeRoot) mkdirRoot mkdirService).1 =
        (shelf.openStore storeRoot service mkdirRoot mkdirService).1 ∧
      Matches storeRoot
        { world with
          tree := (world.tree.ensureDirectory (service.resolver storeRoot) mkdirRoot
            mkdirService).2 }
        (shelf.openStore storeRoot service mkdirRoot mkdirService).2 := by
  unfold Tree.ensureDirectory Shelf.openStore
  have guard : (service.resolver storeRoot).storeRoot ≠ [] ∧
      (world.tree.rootExists ∨ mkdirRoot) ↔ storeRoot ≠ [] ∧ (shelf.rootExists ∨ mkdirRoot) := by
    rw [resolver_root, holds.root]
  by_cases rooted : storeRoot ≠ [] ∧ (shelf.rootExists ∨ mkdirRoot)
  · rw [if_pos rooted, if_pos (guard.mpr rooted)]
    simp only [(resolver_eq storeRoot service).1]
    have rooted' := holds.rootExists true
    have present := holds.present service.name
    cases found : world.tree.directories service.name with
    | some kernel =>
        have there : (shelf.maps service.name).isSome = true := by rw [← present, found]; rfl
        rw [if_pos there]
        exact ⟨rfl, rooted'⟩
    | none =>
        have missing : ¬ (shelf.maps service.name).isSome = true := by
          rw [← present, found]
          decide
        rw [if_neg missing]
        cases mkdirService with
        | false => exact ⟨rfl, rooted'⟩
        | true =>
            refine ⟨rfl, @Matches.directory _ _ _ (some emptyKernel) (some fun _ => none) _
              rooted' service rfl (List.subset_cons_self service.name _) ?_ ?_⟩
            · exact fun _ => List.mem_cons_self
            · intro kernel map first second
              rw [← Option.some.inj first, ← Option.some.inj second]
              exact fresh_kept _
  · rw [if_neg rooted, if_neg (rooted ∘ guard.mp)]
    exact ⟨rfl, holds⟩

/-! ## Calls on keys -/

def SessionCall.Named : SessionCall → Prop
  | .call _ op _ => Plain op.key
  | _ => True

theorem apply_plain {map : TypedMap} {op : StoreOp} (named : Plain op.key)
    (plain : ∀ key, ¬ Plain key → map key = none) :
    ∀ key, ¬ Plain key → map.apply op key = none := by
  intro key unnamed
  cases op with
  | save other typed =>
      have apart : key ≠ other := by
        rintro rfl
        exact unnamed named
      exact (Function.update_of_ne apart _ _).trans (plain key unnamed)
  | remove other =>
      have apart : key ≠ other := by
        rintro rfl
        exact unnamed named
      exact (Function.update_of_ne apart _ _).trans (plain key unnamed)
  | load _ _ | loadOr _ _ | has _ => exact plain key unnamed

/-- A call on a directory does to it what it does to its map. -/
theorem kept_call {resolver : PathResolver} {map : TypedMap} {kernel : Kernel Bytes}
    {op : StoreOp} (kept : Kept resolver map kernel) (named : Plain op.key) :
    (callStore resolver true true true ⟨kernel, fun _ => false⟩ op).1 = map.answer op ∧
      Kept resolver (map.apply op)
        (callStore resolver true true true ⟨kernel, fun _ => false⟩ op).2.kernel ∧
      (callStore resolver true true true ⟨kernel, fun _ => false⟩ op).2.lockFds =
        fun _ => false := by
  have tidy := tidy_step kept.tidy named
  have unlocked := funext tidy.unlocked
  rw [call_perform]
  refine ⟨call_present kept.tidy.toRepresents named, ⟨?_, apply_plain named kept.plain⟩, unlocked⟩
  generalize perform resolver ⟨kernel, fun _ => false⟩ op = after at tidy unlocked
  cases after with
  | mk kernel lockFds =>
      cases unlocked
      exact tidy

/-- A refused `remove` leaves the directory to the same map. -/
theorem kept_refused {resolver : PathResolver} {map : TypedMap} {kernel : Kernel Bytes}
    {key : Bytes} (kept : Kept resolver map kernel) (named : Plain key) :
    (removeRefused resolver ⟨kernel, fun _ => false⟩ key).1 = none ∧
      Kept resolver map (removeRefused resolver ⟨kernel, fun _ => false⟩ key).2.kernel ∧
      (removeRefused resolver ⟨kernel, fun _ => false⟩ key).2.lockFds = fun _ => false := by
  have tidy := kept.tidy.refused named
  have unlocked := funext tidy.unlocked
  refine ⟨(remove_refused_spec resolver _ named).1, ⟨?_, kept.plain⟩, unlocked⟩
  generalize (removeRefused resolver ⟨kernel, fun _ => false⟩ key).2 = after at tidy unlocked
  cases after with
  | mk kernel lockFds =>
      cases unlocked
      exact tidy

theorem kept_change {resolver : PathResolver} {map : TypedMap} {kernel : Kernel Bytes}
    {op : StoreOp} (kept : Kept resolver map kernel) (named : Plain op.key) (unlinks : Bool) :
    (callStore resolver true true unlinks ⟨kernel, fun _ => false⟩ op).1 = map.answer op ∧
      Kept resolver (map.change unlinks op)
        (callStore resolver true true unlinks ⟨kernel, fun _ => false⟩ op).2.kernel ∧
      (callStore resolver true true unlinks ⟨kernel, fun _ => false⟩ op).2.lockFds =
        fun _ => false := by
  have granted := kept_call kept named
  cases unlinks with
  | true =>
      rw [change_granted]
      exact granted
  | false =>
      rcases call_refused resolver ⟨kernel, fun _ => false⟩ op with ⟨key, rfl, called⟩ | same
      · have refused := kept_refused kept named
        rw [called]
        exact ⟨congrArg Answer.ofSave refused.1, refused.2⟩
      · rw [same.1, same.2]
        exact granted

theorem update_unchanged (directories : Bytes → Option (Kernel Bytes)) (name : Bytes) :
    Function.update directories name
      ((directories name).map fun _ => (directories name).getD emptyKernel) = directories := by
  cases found : directories name with
  | none => exact Function.update_eq_self_iff.mpr found.symm
  | some kernel => exact Function.update_eq_self_iff.mpr found.symm

theorem call_matches (holds : Matches storeRoot world shelf) (id : StoreId) {op : StoreOp}
    (named : Plain op.key) (unlinks : Bool) :
    Option.Rel (Matches storeRoot) (sessionStep storeRoot world (.call id op unlinks))
      (shelfStep storeRoot shelf (.call id op unlinks)) := by
  have handled := holds.handles id
  simp only [sessionStep, shelfStep, handled]
  cases found : world.stores id with
  | none => exact .none
  | some store =>
      obtain ⟨service, lockFds, ready⟩ := store
      obtain rfl : lockFds = fun _ => false := holds.unlocked id _ found
      have same : Function.update world.stores id (some ⟨service, fun _ => false, ready⟩) =
          world.stores := Function.update_eq_self_iff.mpr found.symm
      have present := holds.present service.name
      apply Option.Rel.some
      simp only [StoreObject.handle, Handle.answer]
      cases ready with
      | false =>
          simp only [call_unready, same, update_unchanged]
          exact holds.answer _
      | true =>
          cases directory : world.tree.directories service.name with
          | none =>
              have missing : shelf.maps service.name = none := by
                rw [directory] at present
                exact Option.not_isSome_iff_eq_none.mp (by rw [← present]; decide)
              have calls := call_missing (service.resolver storeRoot) unlinks op
              simp only [missing, Option.isSome_none, Option.getD_none, calls.1, calls.2, same,
                Option.map_none, if_true]
              exact (holds.directory service rfl (List.Subset.refl _) (absurd rfl)
                (fun _ _ none => absurd none (by simp))).answer _
          | some kernel =>
              obtain ⟨map, mapped⟩ : ∃ map, shelf.maps service.name = some map := by
                rw [directory] at present
                exact Option.isSome_iff_exists.mp present.symm
              have kept := kept_change (holds.kept service kernel map directory mapped) named unlinks
              simp only [mapped, Option.isSome_some, Option.getD_some, kept.1, kept.2.2, same,
                Option.map_some, if_true]
              refine (holds.directory service rfl (List.Subset.refl _) ?_ ?_).answer _
              · exact fun _ => holds.made _ (by rw [directory]; simp)
              · intro later values first second
                rw [← Option.some.inj first, ← Option.some.inj second]
                exact kept.2.1

/-! ## Clean-up -/

theorem root_path_eq (storeRoot : Bytes) (service : Service) :
    rootPath (service.resolver storeRoot).getStorePath = (service.resolver storeRoot).storeRoot := by
  obtain ⟨name, root⟩ := resolver_eq storeRoot service
  have ends : (service.resolver storeRoot).storeRoot.reverse.dropWhile (· ≠ slash) =
      (service.resolver storeRoot).storeRoot.reverse := by
    rw [root]
    split
    · rw [List.reverse_append, List.reverse_singleton, List.singleton_append,
        List.dropWhile_cons_of_neg (by simp)]
    · next ended =>
        rw [not_and_not_right] at ended
        cases reversed : storeRoot.reverse with
        | nil => rfl
        | cons last rest =>
            have nonempty : storeRoot ≠ [] := by
              rintro rfl
              cases reversed
            have found := ended nonempty
            rw [List.getLast?_eq_head?_reverse, reversed] at found
            rw [List.dropWhile_cons_of_neg]
            simpa using found
  have single : ∀ byte ∈ service.name.reverse, (decide (byte ≠ slash)) = true := by
    intro byte member
    have apart : byte ≠ slash := by
      rintro rfl
      exact service.named.single (List.mem_reverse.mp member)
    simpa using apart
  unfold rootPath PathResolver.getStorePath
  rw [name, List.length_append, List.length_singleton, Nat.add_sub_cancel, List.take_left,
    List.reverse_append, List.dropWhile_append_of_pos single, ends, List.reverse_reverse]

theorem rmdir_root_matches (holds : Matches storeRoot world shelf) (allowed : Bool) :
    Matches storeRoot { world with tree := world.tree.rmdirRoot allowed }
      (shelf.rmdirRoot allowed) := by
  have empty : (∀ name ∈ world.tree.made, (world.tree.directories name).isNone) ↔
      ∀ name, shelf.maps name = none := by
    constructor
    · intro gone name
      rw [← Option.not_isSome_iff_eq_none, ← holds.present name]
      intro there
      have missing := gone name (holds.made name (Option.isSome_iff_ne_none.mp there))
      rw [Option.isNone_iff_eq_none] at missing
      rw [missing] at there
      cases there
    · intro gone name _
      rw [Option.isNone_iff_eq_none, ← Option.not_isSome_iff_eq_none, holds.present name,
        gone name]
      decide
  unfold Tree.rmdirRoot Shelf.rmdirRoot
  by_cases removed : allowed = true ∧ ∀ name, shelf.maps name = none
  · rw [if_pos removed, if_pos ⟨removed.1, empty.mpr removed.2⟩]
    exact holds.rootExists false
  · rw [if_neg removed, if_neg (fun both => removed ⟨both.1, empty.mp both.2⟩)]
    exact holds

/-- What a clean-up leaves in one directory. -/
theorem kept_cleanup {resolver : PathResolver} {map : TypedMap} {kernel : Kernel Bytes}
    (kept : Kept resolver map kernel) (removes : Bytes → Bool) :
    let left : TypedMap := fun key => if removes (key ++ datSuffix) then none else map key
    let cleaned := removeListed resolver removes kernel (listing kernel)
    Kept resolver left cleaned ∧ (listing cleaned = [] ↔ ∀ key, left key = none) := by
  intro left cleaned
  have unnamed : ∀ key, ¬ Plain key → left key = none := by
    intro key strange
    simp only [left, kept.plain key strange, ite_self]
  have same : map.without resolver removes = left := by
    funext key
    by_cases plain : Plain key
    · simp only [TypedMap.without, left, key_entry_eq resolver plain.1]
    · simp only [TypedMap.without, left, kept.plain key plain, ite_self]
  have tidy : Tidy resolver left ⟨cleaned, fun _ => false⟩ := by
    rw [← same]
    exact tidy_removed kept.tidy removes
  refine ⟨⟨tidy, unnamed⟩, ?_⟩
  rw [show listing cleaned = [] ↔ _ from listing_eq_nil tidy]
  constructor
  · intro gone key
    by_cases plain : Plain key
    · exact gone key plain
    · exact unnamed key plain
  · exact fun gone key _ => gone key

theorem cleanup_matches (holds : Matches storeRoot world shelf) (id : StoreId)
    (removes : Bytes → Bool) (rmdirService rmdirRoot : Bool) :
    Option.Rel (Matches storeRoot)
      (sessionStep storeRoot world (.cleanup id removes rmdirService rmdirRoot))
      (shelfStep storeRoot shelf (.cleanup id removes rmdirService rmdirRoot)) := by
  have handled := holds.handles id
  simp only [sessionStep, shelfStep, handled]
  cases found : world.stores id with
  | none => exact .none
  | some store =>
      obtain ⟨service, lockFds, ready⟩ := store
      have unlocked := holds.unlocked id _ found
      have present := holds.present service.name
      apply Option.Rel.some
      simp only [StoreObject.handle]
      cases ready with
      | false => exact holds.answer _
      | true =>
          cases directory : world.tree.directories service.name with
          | none =>
              have missing : shelf.maps service.name = none := by
                rw [directory] at present
                exact Option.not_isSome_iff_eq_none.mp (by rw [← present]; decide)
              simp only [missing]
              exact holds.answer _
          | some kernel =>
              obtain ⟨map, mapped⟩ : ∃ map, shelf.maps service.name = some map := by
                rw [directory] at present
                exact Option.isSome_iff_exists.mp present.symm
              obtain ⟨kept, emptied⟩ := kept_cleanup
                (holds.kept service kernel map directory mapped) removes
              have changed : Matches storeRoot
                  { world with tree := { world.tree with
                    directories := Function.update world.tree.directories service.name
                      (if rmdirService ∧ listing (removeListed (service.resolver storeRoot) removes
                          kernel (listing kernel)) = [] then none
                        else some (removeListed (service.resolver storeRoot) removes kernel
                          (listing kernel))) } }
                  { shelf with
                    maps := Function.update shelf.maps service.name
                      (map.cleanup removes rmdirService) } := by
                apply holds.directory service _ (List.Subset.refl _)
                · exact fun _ => holds.made _ (by rw [directory]; simp)
                · intro later values first second
                  unfold TypedMap.cleanup at second
                  simp only [← emptied] at second
                  split at first
                  · cases first
                  · next left =>
                      rw [if_neg left] at second
                      rw [← Option.some.inj first, ← Option.some.inj second]
                      exact kept
                · unfold TypedMap.cleanup
                  simp only [← emptied]
                  split
                  · rfl
                  · rfl
              have stored := (@Matches.store _ _ _ changed id ⟨service, lockFds, false⟩
                unlocked).answer .done
              simp only [mapped, Tree.cleanup, (resolver_eq storeRoot service).1]
              rw [if_pos (root_path_eq storeRoot service)]
              exact rmdir_root_matches stored rmdirRoot

/-! ## Runs -/

theorem session_step_matches (holds : Matches storeRoot world shelf) {call : SessionCall}
    (named : call.Named) :
    Option.Rel (Matches storeRoot) (sessionStep storeRoot world call)
      (shelfStep storeRoot shelf call) := by
  cases call with
  | openStore id service mkdirRoot mkdirService =>
      have opened := ensure_matches holds service mkdirRoot mkdirService
      simp only [sessionStep, shelfStep]
      generalize world.tree.ensureDirectory (service.resolver storeRoot) mkdirRoot mkdirService =
        found at opened
      generalize shelf.openStore storeRoot service mkdirRoot mkdirService = final at opened
      obtain ⟨ready, tree⟩ := found
      obtain ⟨rfl, matched⟩ : ready = final.1 ∧ _ := opened
      exact .some ((@Matches.store _ _ _ matched id ⟨service, fun _ => false, final.1⟩
        rfl).answer .done)
  | call id op unlinks => exact call_matches holds id named unlinks
  | isReady id =>
      have handled := holds.handles id
      simp only [sessionStep, shelfStep, handled]
      cases world.stores id with
      | none => exact .none
      | some store => exact .some (holds.answer _)
  | flush id =>
      have handled := holds.handles id
      simp only [sessionStep, shelfStep, handled]
      cases world.stores id with
      | none => exact .none
      | some store => exact .some (holds.answer _)
  | cleanup id removes rmdirService rmdirRoot =>
      exact cleanup_matches holds id removes rmdirService rmdirRoot

theorem run_matches (holds : Matches storeRoot world shelf) (calls : List SessionCall)
    (named : ∀ call ∈ calls, call.Named) :
    Option.Rel (Matches storeRoot) (run (sessionStep storeRoot) world calls)
      (run (shelfStep storeRoot) shelf calls) := by
  induction calls generalizing world shelf with
  | nil => exact .some holds
  | cons call calls ih =>
      rw [List.forall_mem_cons] at named
      have first := session_step_matches holds named.1
      unfold run
      generalize sessionStep storeRoot world call = later at first
      generalize shelfStep storeRoot shelf call = final at first
      cases first with
      | none => exact .none
      | some both => exact ih both named.2

/-- Whatever stores are opened, used, cleaned up and opened again over one root, every call
answers what the shelf of maps answers. -/
theorem stores_answer_as_shelf (storeRoot : Bytes) (rootExists : Bool) (calls : List SessionCall)
    (named : ∀ call ∈ calls, call.Named) :
    (run (sessionStep storeRoot) (.initial rootExists) calls).map World.answers =
      (run (shelfStep storeRoot) (.initial rootExists) calls).map Shelf.answers := by
  have both := run_matches (initial_matches storeRoot rootExists) calls named
  generalize run (sessionStep storeRoot) (.initial rootExists) calls = later at both
  generalize run (shelfStep storeRoot) (.initial rootExists) calls = final at both
  cases both with
  | none => rfl
  | some both => exact congrArg some both.answers.symm

instance : DecidablePred SessionCall.Named
  | .call _ op _ => inferInstanceAs (Decidable (Plain op.key))
  | .openStore _ _ _ _ | .isReady _ | .flush _ | .cleanup _ _ _ _ => isTrue trivial

/-- Two stores of one service, of which one cleans up, beside a store of another one. -/
def sharedCleanup : List SessionCall :=
  let a : Service := ⟨ascii ['a'], ⟨by decide, by decide⟩, by decide⟩
  let b : Service := ⟨ascii ['b'], ⟨by decide, by decide⟩, by decide⟩
  [.openStore 0 a true true, .openStore 1 a true true, .openStore 2 b true true,
    .call 0 (.save [107] ⟨.int, (7 : Int32)⟩) true, .call 2 (.save [107] ⟨.bool, true⟩) true,
    .call 1 (.load [107] .string) true, .cleanup 0 (fun _ => true) true true,
    .call 0 (.has [107]) true, .call 1 (.load [107] .int) true,
    .call 1 (.save [107] ⟨.int, (8 : Int32)⟩) true, .call 2 (.load [107] .bool) true]

/-- The value stays, for its file cannot be removed. -/
def heldValue : List SessionCall :=
  let a : Service := ⟨ascii ['a'], ⟨by decide, by decide⟩, by decide⟩
  [.openStore 0 a true true, .call 0 (.save [107] ⟨.bool, true⟩) true,
    .call 0 (.remove [107]) false, .call 0 (.load [107] .bool) true]

theorem shared_cleanup_as_shelf :
    ((run (sessionStep (ascii ['/', 'r'])) (.initial false) sharedCleanup).map World.answers =
        some [.done, .done, .done, .done, .done, .loaded .string (ascii ['7']), .done,
          .flag false, .failed .kKeyNotFound, .failed .kLockFailed, .loaded .bool true] ∧
      (run (sessionStep (ascii ['/', 'r'])) (.initial false) sharedCleanup).map World.answers =
        (run (shelfStep (ascii ['/', 'r'])) (.initial false) sharedCleanup).map Shelf.answers) ∧
    (run (sessionStep (ascii ['/', 'r'])) (.initial false) heldValue).map World.answers =
        some [.done, .done, .done, .loaded .bool true] ∧
      (run (sessionStep (ascii ['/', 'r'])) (.initial false) heldValue).map World.answers =
        (run (shelfStep (ascii ['/', 'r'])) (.initial false) heldValue).map Shelf.answers :=
  ⟨⟨rfl, stores_answer_as_shelf (ascii ['/', 'r']) false sharedCleanup (by decide)⟩,
    rfl, stores_answer_as_shelf (ascii ['/', 'r']) false heldValue (by decide)⟩

end TboxFramework.Store

import TboxFramework.Application.LifeCycle
import TboxFramework.Config.LoadSequence
import Mathlib.Data.List.DropRight

/-!
# Loading the configuration of an application

`Application::load_config` hands the roots to the configuration manager. The environment
variable `CONFIG_FILE` names a file, but only its directory is used: it becomes the last
of the roots.
-/

namespace TboxFramework.Application

open TboxFramework.Store (Bytes text slash)
open TboxFramework.Config

set_option autoImplicit false

variable {Text : Type}

/-- `customPath.substr(0, lastSlash + 1)`, or the working directory. -/
def customDir (customPath : Bytes) : Bytes :=
  if slash ∈ customPath then customPath.rdropWhile (· ≠ slash) else text "./"

/-- What stands behind the last slash; no function of the source looks at it. -/
def customName (customPath : Bytes) : Bytes := customPath.rtakeWhile (· ≠ slash)

/-- `CONFIG_FILE` is none when it is not set. -/
def rootsWith (configRoots : List Bytes) (customConfig : Option Bytes) : List Bytes :=
  match customConfig with
  | some customPath =>
      if customPath = [] then configRoots else configRoots ++ [customDir customPath]
  | none => configRoots

/-- What `load_config` leaves behind: how it ended, what it printed, the manager and the
member `config_`. -/
structure ConfigLoad (Text : Type) where
  outcome : CallEnd Bool
  stderr : Bytes
  manager : ConfigManager Text
  config_ : Yaml

def refusalReport (info : ConfigErrorInfo) (configRoots : List Bytes) : Bytes :=
  text "加载配置文件失败: " ++ info.message ++ text " (路径: " ++ info.path ++ text ")\n" ++
    text "已尝试以下配置根目录:\n" ++
    configRoots.flatMap fun root => text "  - " ++ root ++ text "\n"

/-- `what` is the text of an exception that leaves the manager. -/
def loadConfig (library : YamlLibrary Text) (what : Bytes) (files : FileSystem Text)
    (customConfig : Option Bytes) (serviceName : Bytes) (configRoots : List Bytes)
    (manager : ConfigManager Text) (config_ : Yaml) : ConfigLoad Text :=
  let configRoots := rootsWith configRoots customConfig
  match manager.load library files serviceName configRoots with
  | .escaped next => ⟨.threw what, [], next, config_⟩
  | .returned err next =>
      if err ≠ .kOk then
        ⟨.returned false, refusalReport next.getLastError configRoots, next, config_⟩
      else
        match next.toYaml library with
        | .error unparsed => ⟨.threw unparsed, [], next, config_⟩
        | .ok tree => ⟨.returned true, [], next, tree⟩

/-! ## The root of `CONFIG_FILE` -/

theorem custom_dir_slash (customPath : Bytes) : (customDir customPath).getLast? = some slash := by
  unfold customDir
  by_cases inside : slash ∈ customPath
  · rw [if_pos inside]
    have filled : customPath.rdropWhile (· ≠ slash) ≠ [] := by
      intro empty
      have plain := List.rdropWhile_eq_nil_iff.mp empty slash inside
      simp at plain
    have last := List.rdropWhile_last_not (· ≠ slash) customPath filled
    rw [List.getLast?_eq_some_getLast filled]
    simpa using last
  · rw [if_neg inside]
    decide

theorem with_slash_custom_dir (customPath : Bytes) :
    PathResolver.withSlash (customDir customPath) = customDir customPath := by
  unfold PathResolver.withSlash
  rw [if_neg]
  rintro ⟨_, missing⟩
  exact missing (custom_dir_slash customPath)

/-- A path with a slash is its directory and its name. -/
theorem custom_dir_append_name {customPath : Bytes} (inside : slash ∈ customPath) :
    customDir customPath ++ customName customPath = customPath := by
  unfold customDir customName
  rw [if_pos inside, List.rdropWhile_append_rtakeWhile]

theorem slash_not_mem_custom_name (customPath : Bytes) : slash ∉ customName customPath := by
  intro inside
  have plain := List.mem_rtakeWhile_imp inside
  simp at plain

section Entries

variable {files : FileSystem Text}

theorem find_first_append (file : Bytes → Bytes) (roots : List Bytes) (root : Bytes) :
    PathResolver.findFirst files file (roots ++ [root]) =
      (PathResolver.findFirst files file roots).or
        (if fileExists files (file root) then some (file root) else none) := by
  unfold PathResolver.findFirst
  rw [List.map_append, List.find?_append]
  cases known : fileExists files (file root) <;> simp [known]

theorem root_entries_append (resolver : PathResolver) (index : Nat) (roots : List Bytes)
    (root : Bytes) :
    resolver.rootEntries files index (roots ++ [root]) =
      resolver.rootEntries files index roots ++
        PathResolver.entryIf files (resolver.overrideFile root)
          (text "root[" ++ text (toString (index + roots.length)) ++ text "]/" ++
            resolver.serviceName) := by
  induction roots generalizing index with
  | nil => simp [PathResolver.rootEntries]
  | cons first rest induction =>
      have shifted : index + 1 + rest.length = index + (first :: rest).length := by
        rw [List.length_cons]
        omega
      rw [List.cons_append, PathResolver.rootEntries, PathResolver.rootEntries, induction, shifted]
      exact (List.append_assoc _ _ _).symm

theorem find_first_eq_none {file : Bytes → Bytes} {roots : List Bytes} :
    PathResolver.findFirst files file roots = none ↔
      ∀ root ∈ roots, fileExists files (file root) = false := by
  unfold PathResolver.findFirst
  rw [List.find?_eq_none, List.forall_mem_map]
  simp only [Bool.not_eq_true]

/-- A search for the file of the first root that has one. -/
def search (files : FileSystem Text) (file : Bytes → Bytes) (roots : List Bytes)
    (layer : Bytes) : List ConfigEntry :=
  ((PathResolver.findFirst files file roots).map fun path => ⟨path, layer⟩).toList

/-- What one more root makes of a search: its file counts when no root before has one. -/
theorem mem_search_append {file : Bytes → Bytes} {roots : List Bytes} {root layer : Bytes}
    {entry : ConfigEntry} :
    entry ∈ search files file (roots ++ [root]) layer ↔
      entry ∈ search files file roots layer ∨
        fileExists files (file root) = true ∧ entry = ⟨file root, layer⟩ ∧
          ∀ earlier ∈ roots, fileExists files (file earlier) = false := by
  unfold search
  rw [find_first_append, ← find_first_eq_none]
  cases PathResolver.findFirst files file roots with
  | some path => simp
  | none => cases known : fileExists files (file root) <;> simp

theorem search_sublist {file : Bytes → Bytes} {roots : List Bytes} {root layer : Bytes} :
    (search files file roots layer).Sublist (search files file (roots ++ [root]) layer) := by
  unfold search
  rw [find_first_append]
  cases PathResolver.findFirst files file roots with
  | some path => exact List.Sublist.refl _
  | none => exact List.nil_sublist _

/-- The override files look at the name of the service only. -/
theorem root_entries_make (serviceName : Bytes) (configRoots : List Bytes) (index : Nat)
    (roots : List Bytes) :
    (PathResolver.make serviceName configRoots).rootEntries files index roots =
      (PathResolver.make serviceName []).rootEntries files index roots := by
  induction roots generalizing index with
  | nil => rfl
  | cons root rest induction =>
      rw [PathResolver.rootEntries, PathResolver.rootEntries, induction]
      rfl

theorem layer_entries_eq (serviceName : Bytes) (configRoots : List Bytes) :
    layerEntries files serviceName configRoots =
      search files PathResolver.commonFile (configRoots.map PathResolver.withSlash)
          (text "common") ++
        PathResolver.entryIf files PathResolver.projectCommonPath (text "project/common") ++
        search files (PathResolver.make serviceName []).serviceFile
          (configRoots.map PathResolver.withSlash) (text "conf.d/" ++ serviceName) ++
        PathResolver.entryIf files (PathResolver.make serviceName []).projectPath
          (text "project/" ++ serviceName) ++
        (PathResolver.make serviceName []).rootEntries files 0
          (configRoots.map PathResolver.withSlash) ++
        PathResolver.entryIf files (PathResolver.make serviceName []).localPath
          (text "local/" ++ serviceName) := by
  unfold layerEntries PathResolver.resolveAll
  rw [root_entries_make]
  rfl

theorem roots_with_slash (configRoots : List Bytes) {customPath : Bytes} (set : customPath ≠ []) :
    (rootsWith configRoots (some customPath)).map PathResolver.withSlash =
      configRoots.map PathResolver.withSlash ++ [customDir customPath] := by
  have roots : rootsWith configRoots (some customPath) = configRoots ++ [customDir customPath] :=
    if_neg set
  rw [roots, List.map_append, List.map_singleton, with_slash_custom_dir]

theorem mem_entry_if {path layer : Bytes} {entry : ConfigEntry} :
    entry ∈ PathResolver.entryIf files path layer ↔
      fileExists files path = true ∧ entry = ⟨path, layer⟩ := by
  unfold PathResolver.entryIf
  cases fileExists files path <;> simp

/-- The entries that a directory adds as the root behind all others. -/
inductive Adds (files : FileSystem Text) (serviceName : Bytes) (configRoots : List Bytes)
    (directory : Bytes) : ConfigEntry → Prop
  | common (first : ∀ root ∈ configRoots,
      fileExists files (PathResolver.commonFile (PathResolver.withSlash root)) = false) :
      Adds files serviceName configRoots directory
        ⟨PathResolver.commonFile directory, text "common"⟩
  | service (first : ∀ root ∈ configRoots, fileExists files
      ((PathResolver.make serviceName []).serviceFile (PathResolver.withSlash root)) = false) :
      Adds files serviceName configRoots directory
        ⟨(PathResolver.make serviceName []).serviceFile directory, text "conf.d/" ++ serviceName⟩
  | rootOverride : Adds files serviceName configRoots directory
      ⟨(PathResolver.make serviceName []).overrideFile directory,
        text "root[" ++ text (toString configRoots.length) ++ text "]/" ++ serviceName⟩

theorem adds_iff {serviceName directory : Bytes} {configRoots : List Bytes}
    {entry : ConfigEntry} :
    fileExists files entry.path = true ∧ Adds files serviceName configRoots directory entry ↔
      (fileExists files (PathResolver.commonFile directory) = true ∧
        entry = ⟨PathResolver.commonFile directory, text "common"⟩ ∧ ∀ root ∈ configRoots,
          fileExists files (PathResolver.commonFile (PathResolver.withSlash root)) = false) ∨
      (fileExists files ((PathResolver.make serviceName []).serviceFile directory) = true ∧
        entry = ⟨(PathResolver.make serviceName []).serviceFile directory,
          text "conf.d/" ++ serviceName⟩ ∧ ∀ root ∈ configRoots, fileExists files
            ((PathResolver.make serviceName []).serviceFile (PathResolver.withSlash root)) =
              false) ∨
      (fileExists files ((PathResolver.make serviceName []).overrideFile directory) = true ∧
        entry = ⟨(PathResolver.make serviceName []).overrideFile directory,
          text "root[" ++ text (toString configRoots.length) ++ text "]/" ++ serviceName⟩) := by
  constructor
  · rintro ⟨there, adds⟩
    cases adds with
    | common first => exact Or.inl ⟨there, rfl, first⟩
    | service first => exact Or.inr (Or.inl ⟨there, rfl, first⟩)
    | rootOverride => exact Or.inr (Or.inr ⟨there, rfl⟩)
  · rintro (⟨there, rfl, first⟩ | ⟨there, rfl, first⟩ | ⟨there, rfl⟩)
    · exact ⟨there, .common first⟩
    · exact ⟨there, .service first⟩
    · exact ⟨there, .rootOverride⟩

/-- What the variable does to a load: nothing is dropped or moved, and the directory adds
its files of the fixed names only. -/
structure CustomRead (files : FileSystem Text) (serviceName : Bytes) (configRoots : List Bytes)
    (customPath : Bytes) : Prop where
  kept : (layerEntries files serviceName configRoots).Sublist
    (layerEntries files serviceName (rootsWith configRoots (some customPath)))
  added : ∀ entry, entry ∈ layerEntries files serviceName (rootsWith configRoots (some customPath)) ↔
    entry ∈ layerEntries files serviceName configRoots ∨
      fileExists files entry.path = true ∧
        Adds files serviceName configRoots (customDir customPath) entry
  path : slash ∈ customPath → customDir customPath ++ customName customPath = customPath
  named : ∀ entry ∈ layerEntries files serviceName (rootsWith configRoots (some customPath)),
    entry.path = customDir customPath ++ customName customPath →
    entry ∈ layerEntries files serviceName configRoots ∨
      customName customPath = text "common.yaml" ∨
      customName customPath = PathResolver.yamlName serviceName

theorem layer_entries_added (serviceName : Bytes) (configRoots : List Bytes)
    {customPath : Bytes} (set : customPath ≠ []) (entry : ConfigEntry) :
    entry ∈ layerEntries files serviceName (rootsWith configRoots (some customPath)) ↔
      entry ∈ layerEntries files serviceName configRoots ∨
        fileExists files entry.path = true ∧
          Adds files serviceName configRoots (customDir customPath) entry := by
  rw [adds_iff, layer_entries_eq, layer_entries_eq, roots_with_slash configRoots set,
    root_entries_append]
  simp only [List.mem_append, mem_search_append, mem_entry_if, List.forall_mem_map,
    List.length_map, Nat.zero_add]
  apply iff_of_eq
  ac_rfl

theorem layer_entries_kept (serviceName : Bytes) (configRoots : List Bytes)
    {customPath : Bytes} (set : customPath ≠ []) :
    (layerEntries files serviceName configRoots).Sublist
      (layerEntries files serviceName (rootsWith configRoots (some customPath))) := by
  rw [layer_entries_eq, layer_entries_eq, roots_with_slash configRoots set, root_entries_append]
  apply List.Sublist.append _ (List.Sublist.refl _)
  apply List.Sublist.append _ (List.sublist_append_left _ _)
  apply List.Sublist.append _ (List.Sublist.refl _)
  apply List.Sublist.append _ search_sublist
  exact List.Sublist.append search_sublist (List.Sublist.refl _)

/-- Of the file that the variable names only its name counts. -/
theorem added_name {serviceName : Bytes} {configRoots : List Bytes} {customPath : Bytes}
    {entry : ConfigEntry} (adds : Adds files serviceName configRoots (customDir customPath) entry)
    (same : entry.path = customDir customPath ++ customName customPath) :
    customName customPath = text "common.yaml" ∨
      customName customPath = PathResolver.yamlName serviceName := by
  cases adds with
  | common first => exact Or.inl (List.append_cancel_left same).symm
  | service first =>
      have path : (PathResolver.make serviceName []).serviceFile (customDir customPath) =
          customDir customPath ++ (text "conf.d/" ++ PathResolver.yamlName serviceName) :=
        List.append_assoc _ _ _
      have name := List.append_cancel_left (path.symm.trans same)
      have inside : slash ∈ customName customPath := by
        rw [← name, List.mem_append]
        exact Or.inl (by decide)
      exact absurd inside (slash_not_mem_custom_name customPath)
  | rootOverride => exact Or.inr (List.append_cancel_left same).symm

/-- `CONFIG_FILE` drops and moves no file of a load. It adds the files of the three fixed
names in its directory, two of them only where no other root has one, so the file that it
names counts only under one of these names. -/
theorem custom_config_adds_a_root (files : FileSystem Text) (serviceName : Bytes)
    (configRoots : List Bytes) (customPath : Bytes) (set : customPath ≠ []) :
    CustomRead files serviceName configRoots customPath where
  kept := layer_entries_kept serviceName configRoots set
  added := layer_entries_added serviceName configRoots set
  path := custom_dir_append_name
  named := by
    intro entry member same
    cases (layer_entries_added serviceName configRoots set entry).mp member with
    | inl known => exact Or.inl known
    | inr new => exact Or.inr (added_name new.2 same)

end Entries

/-- The file that the variable names is not looked at; another one beside it is. -/
theorem custom_config_adds_a_root_beside :
    let files : FileSystem Yaml := fun path =>
      if path ∈ [text "/etc/tbox/common.yaml", text "/opt/diag/diag.yaml",
        text "/opt/diag/extra.yaml"] then .contents .null else .absent
    CustomRead files (text "diag") [text "/etc/tbox/"] (text "/opt/diag/extra.yaml") ∧
      layerEntries files (text "diag")
          (rootsWith [text "/etc/tbox/"] (some (text "/opt/diag/extra.yaml"))) =
        [⟨text "/etc/tbox/common.yaml", text "common"⟩,
          ⟨text "/opt/diag/diag.yaml", text "root[1]/diag"⟩] :=
  ⟨custom_config_adds_a_root _ _ _ _ (by decide), by decide⟩

/-! ## How a load ends -/

/-- The files of a load that is asked for with the variable. -/
def customCall (files : FileSystem Text) (customConfig : Option Bytes) (serviceName : Bytes)
    (configRoots : List Bytes) : LoadCall Text :=
  ⟨files, serviceName, rootsWith configRoots customConfig⟩

/-- Whether `load_config` returns true, and what it leaves in `config_`. -/
inductive Loads (library : YamlLibrary Text) (what : Bytes) (call : LoadCall Text)
    (manager : ConfigManager Text) (config_ : Yaml) : ConfigLoad Text → Prop
  | throws (silent : call.report library = none) :
      Loads library what call manager config_
        ⟨.threw what, [], ⟨none, false, manager.lastError⟩, config_⟩
  | refuses (error : ConfigErrorInfo) (reported : call.report library = some error)
      (failed : error.code ≠ .kOk) :
      Loads library what call manager config_
        ⟨.returned false, refusalReport error call.configRoots, ⟨none, false, error⟩, config_⟩
  | succeeds (merged : Yaml) (merges : call.MergesTo library merged) (log : HasCommonLog merged) :
      Loads library what call manager config_
        ⟨.returned true, [], ⟨some ⟨library.dump merged⟩, true, ConfigValidator.noError⟩, merged⟩

theorem load_config_loads (library : YamlLibrary Text) (what : Bytes) (files : FileSystem Text)
    (customConfig : Option Bytes) (serviceName : Bytes) (configRoots : List Bytes)
    (manager : ConfigManager Text) (config_ : Yaml) :
    Loads library what (customCall files customConfig serviceName configRoots) manager config_
      (loadConfig library what files customConfig serviceName configRoots manager config_) := by
  have ends := load_ends library manager (customCall files customConfig serviceName configRoots)
  unfold customCall at ends
  unfold loadConfig
  simp only
  generalize manager.load library files serviceName (rootsWith configRoots customConfig) =
    outcome at ends
  cases ends with
  | throws silent => exact .throws silent
  | refuses error reported failed =>
      simp only [if_pos failed]
      exact .refuses error reported failed
  | succeeds merged merges log reported =>
      simp only [ConfigManager.toYaml, library.load_dump]
      exact .succeeds merged merges log

end TboxFramework.Application

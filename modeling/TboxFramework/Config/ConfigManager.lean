import TboxFramework.Config.MergedTree
import TboxFramework.Config.PathResolver

/-!
# Loading a configuration

The stages of a load: resolve, parse, merge, dump, validate, rebuild. Only the
parser is guarded; an exception of a later stage leaves the manager as the reset
at the start has left it.
-/

namespace TboxFramework.Config

open TboxFramework.Store (Bytes text)

set_option autoImplicit false

inductive ConfigError
  | kOk
  | kFileNotFound
  | kParseFailed
  | kValidationFailed
  | kMergeConflict
  deriving DecidableEq

inductive ConfigType
  | kScalar
  | kSequence
  | kMap
  deriving DecidableEq

structure ConfigErrorInfo where
  code : ConfigError
  message : Bytes
  path : Bytes

/-- The YAML library on texts. A failed parse carries what `what()` returns, and a dump
is read back as the tree it was made from. -/
structure YamlLibrary (Text : Type) where
  load : Text → Except Bytes Yaml
  dump : Yaml → Text
  badFile : Bytes → Bytes
  load_dump : ∀ tree, load (dump tree) = .ok tree

/-! ## The validator -/

structure ValidationRule where
  path : Bytes
  expectedType : ConfigType
  required : Bool
  description : Bytes

namespace ConfigValidator

def splitPath (path : Bytes) : List Bytes := (path.splitOn 46).filter (· ≠ [])

/-- None is an undefined node; `YAML::Node()` is null. -/
def getNode : Option Yaml → List Bytes → Option Yaml
  | current, [] => current
  | some (.map entries), part :: rest => getNode (Yaml.find part entries) rest
  | _, _ :: _ => some .null

def checkType (node : Yaml) : ConfigType → Bool
  | .kScalar => match node with
      | .scalar _ => true
      | _ => false
  | .kSequence => match node with
      | .sequence _ => true
      | _ => false
  | .kMap => node.isMap

def noError : ConfigErrorInfo := ⟨.kOk, [], []⟩

def missing (rule : ValidationRule) : ConfigErrorInfo :=
  ⟨.kValidationFailed, text "Required field missing: " ++ rule.description, rule.path⟩

def mismatch (rule : ValidationRule) : ConfigErrorInfo :=
  ⟨.kValidationFailed, text "Type mismatch for field: " ++ rule.description, rule.path⟩

def validate : List ValidationRule → Yaml → ConfigErrorInfo
  | [], _ => noError
  | rule :: rest, config =>
      match getNode (some config) (splitPath rule.path) with
      | none => if rule.required then missing rule else validate rest config
      | some .null => if rule.required then missing rule else validate rest config
      | some node => if checkType node rule.expectedType then validate rest config
          else mismatch rule

end ConfigValidator

/-! ## The manager -/

variable {Text : Type}

/-- `ImmutableConfigViewImpl`: the text of the tree. -/
structure ImmutableConfigView (Text : Type) where
  yamlStr : Text

structure ConfigManager (Text : Type) where
  snapshot : Option (ImmutableConfigView Text)
  loaded : Bool
  lastError : ConfigErrorInfo

/-- A call either returns a code or lets an exception escape. -/
inductive LoadOutcome (Text : Type)
  | returned (code : ConfigError) (manager : ConfigManager Text)
  | escaped (manager : ConfigManager Text)

def logRule : ValidationRule where
  path := text "common.log"
  expectedType := .kMap
  required := true
  description := text "Log configuration (common.log)"

namespace ConfigManager

/-- `YAML::LoadFile`. -/
def loadFile (library : YamlLibrary Text) (files : FileSystem Text) (path : Bytes) :
    Except Bytes Yaml :=
  match files path with
  | .contents text => library.load text
  | _ => .error (library.badFile path)

/-- Step 4 of a load: the layers, or the error of the first file that fails. -/
def readLayers (library : YamlLibrary Text) (files : FileSystem Text) :
    List ConfigEntry → Except ConfigErrorInfo (List Yaml)
  | [] => .ok []
  | entry :: rest =>
      match loadFile library files entry.path with
      | .error what => .error
          ⟨.kParseFailed, text "Failed to parse " ++ entry.layer ++ text ": " ++ what, entry.path⟩
      | .ok node => (readLayers library files rest).map (node :: ·)

def hasCommon (entries : List ConfigEntry) : Bool :=
  entries.any fun entry => entry.layer = text "common" ∨ entry.layer = text "project/common"

def commonNotFound : ConfigErrorInfo :=
  ⟨.kFileNotFound, text ("Required config file not found: common.yaml (root) " ++
    "or ./config/common.yaml (project)"), text "common.yaml"⟩

def failed (manager : ConfigManager Text) (error : ConfigErrorInfo) : LoadOutcome Text :=
  .returned error.code { manager with lastError := error }

/-- Steps 6 to 8 of a load, on the merged tree. -/
def publish (library : YamlLibrary Text) (manager : ConfigManager Text) (merged : Yaml) :
    LoadOutcome Text :=
  let mergedStr := library.dump merged
  match library.load mergedStr with
  | .error _ => .escaped manager
  | .ok validateNode =>
      let validationError := ConfigValidator.validate [logRule] validateNode
      if validationError.code ≠ .kOk then manager.failed validationError
      else
        match library.load mergedStr with
        | .error _ => .escaped manager
        | .ok mergedCopy =>
            .returned .kOk
              { snapshot := some ⟨library.dump mergedCopy⟩
                loaded := true
                lastError := ConfigValidator.noError }

/-- `loadInternal`. -/
def load (library : YamlLibrary Text) (files : FileSystem Text) (manager : ConfigManager Text)
    (serviceName : Bytes) (configRoots : List Bytes) : LoadOutcome Text :=
  let reset := { manager with loaded := false, snapshot := none }
  let entries := (PathResolver.make serviceName configRoots).resolveAll files
  if hasCommon entries = false then reset.failed commonNotFound
  else
    match readLayers library files entries with
    | .error error => reset.failed error
    | .ok layers =>
        match Yaml.mergeMultiple layers with
        | none => .escaped reset
        | some merged => reset.publish library merged

def getSnapshot (manager : ConfigManager Text) : Option (ImmutableConfigView Text) :=
  manager.snapshot

def isLoaded (manager : ConfigManager Text) : Bool := manager.loaded

def getLastError (manager : ConfigManager Text) : ConfigErrorInfo := manager.lastError

/-- The empty node is a null node. -/
def toYaml (library : YamlLibrary Text) (manager : ConfigManager Text) : Except Bytes Yaml :=
  match manager.loaded, manager.snapshot with
  | true, some view => library.load view.yamlStr
  | _, _ => .ok .null

end ConfigManager

end TboxFramework.Config

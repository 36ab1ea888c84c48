import TboxFramework.Config.Yaml

/-!
# Configuration files

`resolveAll` lists the files that exist, in the order in which they become
layers. The common file and the service file of a root are searched for in the
list of roots; the first root that has one supplies it.
-/

namespace TboxFramework.Config

open TboxFramework.Store (Bytes text)

set_option autoImplicit false

/-- What `stat` and `LoadFile` see at a path. -/
inductive FileState (Text : Type)
  | absent
  | unreadable
  | contents (text : Text)

abbrev FileSystem (Text : Type) := Bytes → FileState Text

structure ConfigEntry where
  path : Bytes
  layer : Bytes
  deriving DecidableEq

structure PathResolver where
  serviceName : Bytes
  configRoots : List Bytes

variable {Text : Type}

def FileState.exists : FileState Text → Bool
  | .absent => false
  | _ => true

def fileExists (files : FileSystem Text) (path : Bytes) : Bool := (files path).exists

namespace PathResolver

/-- Every root that is not empty ends with a slash. -/
def withSlash (root : Bytes) : Bytes :=
  if root ≠ [] ∧ root.getLast? ≠ some Store.slash then root ++ [Store.slash] else root

def make (serviceName : Bytes) (configRoots : List Bytes) : PathResolver :=
  ⟨serviceName, configRoots.map withSlash⟩

def yamlName (name : Bytes) : Bytes := name ++ text ".yaml"

def commonFile (root : Bytes) : Bytes := root ++ text "common.yaml"

def serviceFile (resolver : PathResolver) (root : Bytes) : Bytes :=
  root ++ text "conf.d/" ++ yamlName resolver.serviceName

def overrideFile (resolver : PathResolver) (root : Bytes) : Bytes :=
  root ++ yamlName resolver.serviceName

def projectCommonPath : Bytes := text "./config/common.yaml"

def projectPath (resolver : PathResolver) : Bytes :=
  text "./config/" ++ yamlName resolver.serviceName

def localPath (resolver : PathResolver) : Bytes := text "./" ++ yamlName resolver.serviceName

variable (files : FileSystem Text)

/-- `findCommon` and `findService`: the first root whose file exists. -/
def findFirst (file : Bytes → Bytes) (roots : List Bytes) : Option Bytes :=
  (roots.map file).find? fun path => fileExists files path

def entryIf (path layer : Bytes) : List ConfigEntry :=
  if fileExists files path then [⟨path, layer⟩] else []

/-- The override files of the roots, from the root with number `index` on. -/
def rootEntries (resolver : PathResolver) : Nat → List Bytes → List ConfigEntry
  | _, [] => []
  | index, root :: rest =>
      entryIf files (resolver.overrideFile root)
          (text "root[" ++ text (toString index) ++ text "]/" ++ resolver.serviceName) ++
        resolver.rootEntries (index + 1) rest

def resolveAll (resolver : PathResolver) : List ConfigEntry :=
  ((findFirst files commonFile resolver.configRoots).map
      fun path => ⟨path, text "common"⟩).toList ++
    entryIf files projectCommonPath (text "project/common") ++
    ((findFirst files resolver.serviceFile resolver.configRoots).map
      fun path => ⟨path, text "conf.d/" ++ resolver.serviceName⟩).toList ++
    entryIf files resolver.projectPath (text "project/" ++ resolver.serviceName) ++
    resolver.rootEntries files 0 resolver.configRoots ++
    entryIf files resolver.localPath (text "local/" ++ resolver.serviceName)

end PathResolver

end TboxFramework.Config

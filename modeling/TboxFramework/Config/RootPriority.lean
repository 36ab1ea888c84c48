import TboxFramework.Config.KeyPaths
import TboxFramework.Config.LoadReporting

/-!
# Which root wins

A file can be read in several roles. The searches for the common and the service
file stop at the first root that has one, so a file of a later root is a layer
only in the roles that remain for it, and the last reading that touches a path
decides.
-/

namespace TboxFramework.Config

open TboxFramework.Store (Bytes text)
open LayeredOverride

set_option autoImplicit false

/-- The places of the reading order. -/
inductive Role
  | common
  | projectCommon
  | service
  | projectService
  | rootOverride (index : Nat)
  | localOverride
  deriving DecidableEq

/-- The stage of a role, and the number of the root within it. -/
def Role.rank : Role → Nat × Nat
  | .common => (0, 0)
  | .projectCommon => (1, 0)
  | .service => (2, 0)
  | .projectService => (3, 0)
  | .rootOverride index => (4, index)
  | .localOverride => (5, 0)

variable {Text : Type}

/-- The file of the first root that has one. -/
def FirstRootFile (files : FileSystem Text) (file : Bytes → Bytes) (roots : List Bytes)
    (path : Bytes) : Prop :=
  ∃ (index : Nat) (root : Bytes), roots[index]? = some root ∧ path = file root ∧
    fileExists files path = true ∧ ∀ (earlier : Nat) (other : Bytes), earlier < index →
      roots[earlier]? = some other →
      fileExists files (file other) = false

/-- In which roles a file is read, from the directories alone. -/
def ReadAs (files : FileSystem Text) (resolver : PathResolver) (path : Bytes) : Role → Prop
  | .common => FirstRootFile files PathResolver.commonFile resolver.configRoots path
  | .projectCommon => path = PathResolver.projectCommonPath ∧ fileExists files path = true
  | .service => FirstRootFile files resolver.serviceFile resolver.configRoots path
  | .projectService => path = resolver.projectPath ∧ fileExists files path = true
  | .rootOverride index => ∃ root, resolver.configRoots[index]? = some root ∧
      path = resolver.overrideFile root ∧ fileExists files path = true
  | .localOverride => path = resolver.localPath ∧ fileExists files path = true

/-! ## The reading order -/

section Order

variable (files : FileSystem Text) (resolver : PathResolver)

def roleIf (role : Role) (path : Bytes) : List (Role × Bytes) :=
  if fileExists files path then [(role, path)] else []

def overrideRoles : Nat → List Bytes → List (Role × Bytes)
  | _, [] => []
  | index, root :: rest =>
      roleIf files (.rootOverride index) (resolver.overrideFile root) ++
        overrideRoles (index + 1) rest

/-- The entries of `resolveAll` with their roles. -/
def readings : List (Role × Bytes) :=
  ((PathResolver.findFirst files PathResolver.commonFile resolver.configRoots).map
      fun path => (Role.common, path)).toList ++
    roleIf files .projectCommon PathResolver.projectCommonPath ++
    ((PathResolver.findFirst files resolver.serviceFile resolver.configRoots).map
      fun path => (Role.service, path)).toList ++
    roleIf files .projectService resolver.projectPath ++
    overrideRoles files resolver 0 resolver.configRoots ++
    roleIf files .localOverride resolver.localPath

variable {files resolver}

end Order

/-! ## Conflicts between two roots -/

inductive FileKind
  | common
  | service
  | rootOverride

def FileKind.file (resolver : PathResolver) : FileKind → Bytes → Bytes
  | .common => PathResolver.commonFile
  | .service => resolver.serviceFile
  | .rootOverride => resolver.overrideFile

section Loaded

variable (library : YamlLibrary Text) (files : FileSystem Text)

variable {library files}

end Loaded

end TboxFramework.Config

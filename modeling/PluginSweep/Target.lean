/-
PluginSweep/Target.lean

The plugin that is swept: its directory, its name, the site that it belongs
to, and where the reports about it go.
-/
import PluginSweep.FileSystem.Canonical

namespace PluginSweep

/-- A plugin's directory and its name, which is also its slug in the site. -/
structure Target where
  root : Path
  name : String
  deriving DecidableEq, Repr

/-- Why a path is no plugin. -/
inductive TargetError
  /-- Nothing is there. -/
  | absent (path : Path)
  /-- What is there is no directory. -/
  | noDirectory (path : Path)
  /-- The path has no meaning. -/
  | path (error : FileSystem.PathError)
  deriving DecidableEq, Repr

/-- The wording of the failure. -/
def TargetError.message : TargetError → String
  | absent p => "Plugin directory not found: " ++ p.toString
  | noDirectory p => "Path is not a directory: " ++ p.toString
  | path e => e.message

namespace Target

/-- The plugin at a path that a user gives. -/
def resolve (fs : FileSystem) (given : String) : Except TargetError Target :=
  match fs.resolve given with
  | .error e => .error (.path e)
  | .ok p => match fs.locate p with
    | .ok (_, .directory) => .ok ⟨p, p.name⟩
    | .ok _ => .error (.noDirectory p)
    | .error .nameTooLong =>
      .error (.path (.refused (.about .nameTooLong p.toString)))
    | .error _ => .error (.absent p)

/-- How many directories the root of a site is above its plugins. -/
def siteDepth : Nat := 3

/-- The root of the site: the given one, else the directory in which a site keeps its
plugins three levels down. -/
def siteRoot (fs : FileSystem) (target : Target) (given : Option String) :
    Except FileSystem.PathError Path :=
  match given with
  | some s =>
    if s.isEmpty then .ok (siteDepth.repeat Path.parent target.root) else fs.resolve s
  | none => .ok (siteDepth.repeat Path.parent target.root)

/-- The directory for the reports about the plugin. -/
def reportDirectory (fs : FileSystem) (target : Target) (base : String) :
    Except FileSystem.PathError Path := do
  pure ((← fs.resolve base).child target.name)

end Target

end PluginSweep

/-
PluginSweep/Path.lean

Paths as text.  A path has an anchor, which is empty for a relative path, and
the names after it; repeated slashes and `.` segments carry no meaning and are
dropped when a path is read, while `..` is kept, since what it means depends
on links.  Two slashes in front, and no more, make an anchor of their own.
-/
import PluginSweep.Text.Lowercase

namespace PluginSweep

/-- A path, relative when its anchor is empty. -/
structure Path where
  anchor : String
  names : List String
  deriving DecidableEq, Repr, Inhabited

namespace Path

/-! ### Reading and writing -/

/-- The parts of a text between slashes. -/
def splitSlashes (s : String) : List String :=
  (s.toList.splitOn '/').map String.ofList

/-- The anchor of a text. -/
def anchorOf (s : String) : String :=
  let slashes := (s.toList.takeWhile (· == '/')).length
  if slashes == 0 then "" else if slashes == 2 then "//" else "/"

/-- The path that a text denotes. -/
def ofString (s : String) : Path where
  anchor := anchorOf s
  names := (splitSlashes s).filter fun name => name != "" && name != "."

/-- The text of a path; the path without anchor and names is written `.`. -/
def toString (p : Path) : String :=
  if p.anchor == "" && p.names.isEmpty then "." else p.anchor ++ "/".intercalate p.names

instance : ToString Path := ⟨toString⟩

/-- The segments of a path, its anchor included. -/
def segments (p : Path) : List String :=
  if p.anchor == "" then p.names else p.anchor :: p.names

/-- The path starts at the root. -/
def isAbsolute (p : Path) : Bool :=
  p.anchor != ""

/-! ### Moving about -/

/-- The path `q` taken from the directory `p`. -/
def append (p q : Path) : Path :=
  if q.isAbsolute then q else ⟨p.anchor, p.names ++ q.names⟩

/-- The path that the text denotes in the directory `p`. -/
def child (p : Path) (s : String) : Path :=
  p.append (ofString s)

/-- The path without its last name. -/
def parent (p : Path) : Path :=
  ⟨p.anchor, p.names.dropLast⟩

/-- The last name, empty where there is none. -/
def name (p : Path) : String :=
  p.names.getLastD ""

/-- The last dot of a name and what follows it, empty where the dot is the first or the last
character. -/
def suffixOf (name : String) : String :=
  let after := name.toList.reverse.takeWhile (· != '.')
  let before := name.length - after.length
  if after.isEmpty || before ≤ 1 then "" else "." ++ String.ofList after.reverse

/-- The last dot of the last name and what follows it, in lower case. -/
def extension (p : Path) : String :=
  Text.lowerCase (suffixOf p.name)

/-- The path seen from the directory `base`, which must be its beginning. -/
def relativeTo? (p base : Path) : Option Path :=
  if p.anchor == base.anchor && base.names.isPrefixOf p.names then
    some ⟨"", p.names.drop base.names.length⟩
  else none

end Path

end PluginSweep

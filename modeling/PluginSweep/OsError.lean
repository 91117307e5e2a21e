/-
PluginSweep/OsError.lean

Refusals of the operating system, as far as files are concerned: a cause with
its number and wording, about a path, or a text of its own.
-/
import PluginSweep.Text.Column
import PluginSweep.Text.Quoted

namespace PluginSweep

/-- Why the operating system refuses to touch a path. -/
inductive OsCause
  | noEntry
  | permission
  | alreadyThere
  | notDirectory
  | isDirectory
  | nameTooLong
  | linkLoop
  deriving DecidableEq, Repr

namespace OsCause

/-- The number of the cause. -/
def number : OsCause → Nat
  | noEntry => 2
  | permission => 13
  | alreadyThere => 17
  | notDirectory => 20
  | isDirectory => 21
  | nameTooLong => 36
  | linkLoop => 40

/-- The wording of the cause. -/
def text : OsCause → String
  | noEntry => "No such file or directory"
  | permission => "Permission denied"
  | alreadyThere => "File exists"
  | notDirectory => "Not a directory"
  | isDirectory => "Is a directory"
  | nameTooLong => "File name too long"
  | linkLoop => "Too many levels of symbolic links"

end OsCause

/-- A refusal of the operating system. -/
inductive OsError
  /-- A cause that concerns a path. -/
  | about (cause : OsCause) (path : String)
  /-- A path that holds a NUL. -/
  | nulInPath
  /-- A refusal of which only the wording is known. -/
  | stated (text : String)
  deriving DecidableEq, Repr

/-- The wording of a refusal. -/
def OsError.message : OsError → String
  | about cause path =>
    "[Errno " ++ Text.decimal cause.number ++ "] " ++ cause.text ++ ": " ++ Text.quoted path
  | nulInPath => "embedded null byte"
  | stated text => text

end PluginSweep

/-
PluginSweep/Rule.lean

Rules and what they find in a text.  A rule about *absence* is broken by a
text in which none of some texts occurs, and is then reported once for the
file.  Every other rule is reported for each line that its pattern matches and
that is not excused by the rule's exclusion; the report shows the line without
the blanks at its ends.
-/
import PluginSweep.Finding
import PluginSweep.Pattern.Basic
import PluginSweep.Text.Lines

namespace PluginSweep

/-- What a rule looks for. -/
inductive RuleTest
  /-- A file that holds none of the texts. -/
  | absence (needles : List String)
  /-- A line that the pattern matches. -/
  | line (pattern : Pattern)
  /-- A line that calls the function. -/
  | call (function : String)
  deriving Repr

/-- A named test and the files and lines that it applies to. -/
structure Rule where
  name : String
  test : RuleTest
  /-- The extensions of the files that the rule applies to, where it names some. -/
  extensions : Option (List String) := none
  caseRule : CaseRule := .exact
  /-- Lines that are not reported. -/
  exclude : Option Pattern := none
  deriving Repr

namespace Rule

/-! ### Building rules -/

/-- The rule that looks for a text. -/
def literal (name text : String) : Rule where
  name
  test := .line (.ofString text)

/-- The rule that looks for lines matching a pattern. -/
def lines (name : String) (pattern : List Pattern) : Rule where
  name
  test := .line (.sequence pattern)

/-- The rule that looks for calls of the function by whose name it goes. -/
def call (function : String) : Rule where
  name := function
  test := .call function

/-! ### Scanning -/

/-- Whether the rule applies to files with the extension; `default` are the extensions of
rules that name none. -/
def appliesTo (r : Rule) (extension : String) (default : List String) : Bool :=
  (r.extensions.getD default).contains extension

/-- What is reported of a file that breaks a rule about absence. -/
def absenceText : String := "no direct access guard found"

/-- Whether one text occurs in the other. -/
def occursIn (needle : List Char) : List Char → Bool
  | [] => needle.isEmpty
  | c :: text => needle.isPrefixOf (c :: text) || occursIn needle text

/-- Whether the rule reports a line that the pattern `p` may match. -/
def reportsLine (r : Rule) (p : Pattern) (line : List Char) : Bool :=
  p.found r.caseRule line && !r.exclude.any (·.found r.caseRule line)

/-- The findings on those of the numbered lines that are reported. -/
def scanLines (r : Rule) (relpath : String) (p : Pattern) (text : String) : List Finding :=
  ((Text.lines text.toList).zipIdx 1).filterMap fun (line, number) =>
    if r.reportsLine p line then
      some ⟨r.name, relpath, some number, String.ofList (Text.trim line)⟩
    else none

/-- What the rule finds in the text of the file `relpath`. -/
def scan (r : Rule) (relpath text : String) : List Finding :=
  match r.test with
  | .absence needles =>
    if needles.any fun needle => occursIn needle.toList text.toList then []
    else [⟨r.name, relpath, none, absenceText⟩]
  | .line p => r.scanLines relpath p text
  | .call function => r.scanLines relpath (.callOf function) text

end Rule

end PluginSweep

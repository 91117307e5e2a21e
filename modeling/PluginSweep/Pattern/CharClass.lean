/-
PluginSweep/Pattern/CharClass.lean

Classes of characters: single characters, ranges and the word and blank
characters, closed under union and complement.  A class can be read in two
ways, exactly or ignoring case.  Ignoring case, a range holds every character
that is alike to one of its members; the word and blank characters do not
depend on case.
-/
import PluginSweep.Text.Blank
import PluginSweep.Text.Case
import PluginSweep.Text.Word

namespace PluginSweep

/-- Whether case tells two letters apart. -/
inductive CaseRule
  | exact
  | ignore
  deriving DecidableEq, Repr

/-- Whether a search takes one character for the other. -/
def CaseRule.alike : CaseRule → Char → Char → Bool
  | .exact, a, b => a == b
  | .ignore, a, b => Text.foldKey a == Text.foldKey b

/-- A class of characters. -/
inductive CharClass
  /-- The character itself. -/
  | char (c : Char)
  /-- The characters from `first` to `last`. -/
  | range (first last : Char)
  /-- Letters, numbers and the underscore. -/
  | word
  /-- Blank characters. -/
  | blank
  /-- Characters of one class or the other. -/
  | union (a b : CharClass)
  /-- Characters outside the class. -/
  | compl (a : CharClass)
  deriving Repr

namespace CharClass

/-- Whether the class holds the character. -/
def contains (rule : CaseRule) : CharClass → Char → Bool
  | char d, c => rule.alike d c
  | range first last, c =>
    (List.range' first.toNat (last.toNat + 1 - first.toNat)).any fun n =>
      rule.alike (Char.ofNat n) c
  | word, c => Text.isWord c
  | blank, c => Text.isBlank c
  | union a b, c => a.contains rule c || b.contains rule c
  | compl a, c => !a.contains rule c

/-- The characters of a text. -/
def oneOf (s : String) : CharClass :=
  s.toList.foldr (fun c k => union (char c) k) (compl (union word (compl word)))

/-- The characters that are not in a text. -/
def noneOf (s : String) : CharClass :=
  compl (oneOf s)

end CharClass

end PluginSweep

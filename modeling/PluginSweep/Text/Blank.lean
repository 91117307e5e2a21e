/-
PluginSweep/Text/Blank.lean

Blank characters: what is trimmed from the ends of a line and what may stand
between a function name and its parenthesis.  Beside the spaces of every
script they include the information separators U+001C to U+001F and the next
line character U+0085.
-/
import PluginSweep.Text.Ranges

namespace PluginSweep.Text

/-- The blank code points, as closed ranges in increasing order. -/
def blankRanges : List (Nat × Nat) := [
  (9, 13), (28, 32), (133, 133), (160, 160), (5760, 5760), (8192, 8202), (8232, 8233),
  (8239, 8239), (8287, 8287), (12288, 12288)]

/-- A character that separates words and nothing more. -/
def isBlank (c : Char) : Bool :=
  inRanges blankRanges c

/-- The words of a text, where `current` holds the characters of the word that is being read,
last first. -/
def wordsFrom (current : List Char) : List Char → List String
  | [] => if current.isEmpty then [] else [String.ofList current.reverse]
  | c :: rest =>
    if !isBlank c then wordsFrom (c :: current) rest
    else if current.isEmpty then wordsFrom [] rest
    else String.ofList current.reverse :: wordsFrom [] rest

/-- The words of a text, which blanks set apart. -/
def words (s : String) : List String :=
  wordsFrom [] s.toList

end PluginSweep.Text

/-
PluginSweep/Text/Fold.lean

Lines of limited width.  A text is broken before words that no longer fit, and
a word that is wider than a line is itself broken wherever a line is full.
Blanks belong to the word before them and may stand beyond the end of a line.
-/
import PluginSweep.Text.Cells
import PluginSweep.Text.Lines

namespace PluginSweep.Text

/-! ### Tabs -/

/-- How many cells there are between tab stops. -/
def tabWidth : Nat := 8

/-- The text with spaces up to the next tab stop in the place of every tab, where its first
character has the given column. -/
def expandTabsFrom (column : Nat) : List Char → List Char
  | [] => []
  | c :: rest =>
    if c == '\t' then
      let next := (column / tabWidth + 1) * tabWidth
      List.replicate (next - column) ' ' ++ expandTabsFrom next rest
    else c :: expandTabsFrom (column + charCells c) rest

/-- The text with spaces in the place of tabs. -/
def expandTabs (text : List Char) : List Char :=
  expandTabsFrom 0 text

/-! ### Pieces -/

/-- The words of a text with the blanks after them, where `current` holds the characters of the
word that is being read, last first; the first word has the blanks before it, too. -/
def spacedWordsFrom (current : List Char) : List Char → List (List Char)
  | [] => if current.isEmpty then [] else [current.reverse]
  | c :: rest =>
    if !isBlank c && current.head?.any isBlank && current.any (!isBlank ·) then
      current.reverse :: spacedWordsFrom [c] rest
    else spacedWordsFrom (c :: current) rest

/-- The words of a text with the blanks after them. -/
def spacedWords (text : List Char) : List (List Char) :=
  spacedWordsFrom [] text

/-- The pieces of a word that fill lines of the given width, where `current` holds the piece
that is being filled, last character first, and takes `used` cells. -/
def chopFrom (width : Nat) (current : List Char) (used : Nat) : List Char → List (List Char)
  | [] => [current.reverse]
  | c :: rest =>
    if used + charCells c > width then
      current.reverse :: chopFrom width [c] (charCells c) rest
    else chopFrom width (c :: current) (used + charCells c) rest

/-- The pieces of a word that fill lines of the given width. -/
def chop (width : Nat) (word : List Char) : List (List Char) :=
  chopFrom width [] 0 word

/-! ### Lines -/

/-- Lines that are being filled: those that are full, last first, and the one after them with
the cells that it takes. -/
structure Filling where
  full : List (List Char) := []
  line : List Char := []
  used : Nat := 0
  deriving DecidableEq, Repr

namespace Filling

/-- Nothing has been filled in. -/
def isEmpty (f : Filling) : Bool :=
  f.full.isEmpty && f.line.isEmpty

/-- Starts a line with the piece, unless it is the first one. -/
def start (f : Filling) (piece : List Char) : Filling where
  full := if f.isEmpty then [] else f.line :: f.full
  line := piece
  used := cells piece

/-- Adds a word. -/
def add (width : Nat) (f : Filling) (word : List Char) : Filling :=
  let needed := cells (trimEnd word)
  if f.used + needed ≤ width then
    { f with line := f.line ++ word, used := f.used + cells word }
  else if needed > width then (chop width word).foldl start f
  else f.start word

/-- The lines. -/
def lines (f : Filling) : List (List Char) :=
  (f.line :: f.full).reverse

end Filling

/-- The lines of the given width into which a text is broken. -/
def fold (width : Nat) (text : List Char) : List (List Char) :=
  ((spacedWords text).foldl (Filling.add width) {}).lines

end PluginSweep.Text

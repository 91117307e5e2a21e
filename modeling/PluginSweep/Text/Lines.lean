/-
PluginSweep/Text/Lines.lean

Lines of a text.  A line ends at a line feed, a carriage return, the two in
this order, a vertical tab, a form feed, an information separator U+001C to
U+001E, the next line character U+0085, or a line or paragraph separator
U+2028, U+2029.  The break belongs to no line, and the last line needs none:
a text that ends with a break has no empty line after it.
-/
import PluginSweep.Text.Blank

namespace PluginSweep.Text

/-! ### Breaking a text into lines -/

/-- A character that ends a line. -/
def isLineBreak (c : Char) : Bool :=
  ['\n', '\r', '\x0b', '\x0c', '\x1c', '\x1d', '\x1e', '\u0085', '\u2028', '\u2029'].contains c

/-- The lines of a text, where `current` holds the characters of the line that is being
read and `done` the lines before it, both last first. -/
def linesFrom : List Char → List Char → List (List Char) → List (List Char)
  | [], [], done => done.reverse
  | [], c :: current, done => ((c :: current).reverse :: done).reverse
  | '\r' :: '\n' :: rest, current, done => linesFrom rest [] (current.reverse :: done)
  | c :: rest, current, done =>
    if isLineBreak c then linesFrom rest [] (current.reverse :: done)
    else linesFrom rest (c :: current) done

/-- The lines of a text, without their breaks. -/
def lines (text : List Char) : List (List Char) :=
  linesFrom text [] []

/-! ### Trimming -/

/-- The text without the blanks at its end. -/
def trimEnd (text : List Char) : List Char :=
  (text.reverse.dropWhile isBlank).reverse

/-- The text without the blanks at its ends. -/
def trim (text : List Char) : List Char :=
  trimEnd (text.dropWhile isBlank)

/-- The text without the blanks at its ends. -/
def trimBlank (s : String) : String :=
  String.ofList (trim s.toList)

/-- The text without the line feeds at its end. -/
def trimLineFeeds (s : String) : String :=
  String.ofList (s.toList.reverse.dropWhile (· == '\n')).reverse

/-! ### Newlines of captured output -/

/-- A carriage return, alone or before a line feed, becomes a line feed; `written` holds
the result so far, last character first. -/
def plainNewlinesFrom : List Char → List Char → List Char
  | [], written => written.reverse
  | '\r' :: '\n' :: rest, written => plainNewlinesFrom rest ('\n' :: written)
  | c :: rest, written => plainNewlinesFrom rest ((if c == '\r' then '\n' else c) :: written)

/-- The text with every newline, however it is spelled, as one line feed. -/
def plainNewlines (text : List Char) : List Char :=
  plainNewlinesFrom text []

end PluginSweep.Text

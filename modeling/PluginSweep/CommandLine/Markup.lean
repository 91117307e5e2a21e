/-
PluginSweep/CommandLine/Markup.lean

Text with style marks.  What the command line shows may hold marks such as
`[bold]` and `[/]`, which set a style and end it and are not shown themselves.
A mark starts with a small letter, `#`, `/` or `@` after its bracket and holds
no further opening bracket.  A backslash in front takes the meaning from a
mark; two of them are one backslash.  What looks like a mark in a name that is
shown is treated as one.

A text is first taken apart into pieces, marks and what is between them; then
the marks are matched.  A mark that ends a style names it, in whatever words,
or ends the style that was set last.  A mark that starts with `@` may have a
value, which is read when the mark is ended.
-/
import PluginSweep.CommandLine.Emoji
import PluginSweep.CommandLine.Literal
import PluginSweep.CommandLine.Style
import PluginSweep.Text.Column

namespace PluginSweep.CommandLine

/-- Why a text cannot be shown. -/
inductive MarkupError
  /-- A mark ends a style, but none is set. -/
  | nothingOpen (position : Nat)
  /-- A mark ends a style that is not set. -/
  | notOpen (mark : String) (position : Nat)
  /-- The value of a mark, read as `reading`, is none. -/
  | badValue (reading value : String) (fault : LiteralFault)
  /-- A number in a style has no digits. -/
  | emptyNumber
  deriving DecidableEq, Repr

/-- The wording of the error. -/
def MarkupError.message : MarkupError → String
  | nothingOpen position =>
    "closing tag '[/]' at position " ++ Text.decimal position ++ " has nothing to close"
  | notOpen mark position =>
    "closing tag '[" ++ mark ++ "]' at position " ++ Text.decimal position ++
      " doesn't match any open tag"
  | badValue _ value .noLiteral =>
    "error parsing " ++ Text.quoted value ++ "; " ++ LiteralFault.noLiteral.message
  | badValue reading value fault =>
    "error parsing " ++ Text.quoted reading ++ " in " ++ Text.quoted value ++ "; " ++
      fault.message
  | emptyNumber => "invalid literal for int() with base 10: ''"

namespace Markup

/-! ### Pieces -/

/-- A piece of a text with marks. -/
inductive Piece
  /-- What is shown. -/
  | plain (text : List Char)
  /-- The inside of a mark, and where the mark is. -/
  | mark (inside : List Char) (position : Nat)
  deriving DecidableEq, Repr

/-- A mark starts with this character. -/
def startsMark (c : Char) : Bool :=
  ('a' ≤ c && c ≤ 'z') || c == '#' || c == '/' || c == '@'

/-- The inside of the mark of which an opening bracket has been read. -/
def mark? (text : List Char) : Option (List Char) :=
  match text with
  | [] => none
  | c :: _ =>
    let inside := text.takeWhile fun d => d != '[' && d != ']'
    if startsMark c && (text.drop inside.length).head? == some ']' then some inside else none

/-- So many backslashes. -/
def backslashes (n : Nat) : List Char :=
  List.replicate n '\\'

/-- The piece of plain text, of which `current` holds the characters, last first; an empty text
is no piece. -/
def plainPiece (current : List Char) : List Piece :=
  if current.isEmpty then [] else [.plain current.reverse]

/-- The pieces of a text from the given position on, where `current` holds the plain text right
before it, last character first, but for the `slashes` backslashes at its end. -/
def piecesFrom (position slashes : Nat) (current text : List Char) : List Piece :=
  match text with
  | [] => plainPiece (backslashes slashes ++ current)
  | c :: rest =>
    if c == '\\' then piecesFrom (position + 1) (slashes + 1) current rest
    else if c == '[' then
      match mark? rest with
      | some inside =>
        let piece :=
          if slashes % 2 == 1 then Piece.plain ('[' :: inside ++ [']'])
          else Piece.mark inside position
        plainPiece current ++ plainPiece (backslashes (slashes / 2)) ++ piece ::
          piecesFrom (position + inside.length + 2) 0 [] (rest.drop (inside.length + 1))
      | none =>
        piecesFrom (position + 1) 0 ('[' :: backslashes (slashes - 1) ++ current) rest
    else piecesFrom (position + 1) 0 (c :: backslashes slashes ++ current) rest
termination_by text.length
decreasing_by
  · exact Nat.lt_succ_self _
  · simp only [List.length_cons, List.length_drop]
    omega
  · exact Nat.lt_succ_self _
  · exact Nat.lt_succ_self _

/-- The pieces of a text. -/
def pieces (text : String) : List Piece :=
  piecesFrom 0 0 [] text.toList

/-! ### Matching marks -/

/-- A style that is set: its canonical description and the value of its mark. -/
structure OpenStyle where
  name : String
  value : Option String
  deriving DecidableEq, Repr

/-- How far a text has been read. -/
structure Reading where
  /-- What is shown. -/
  shown : List Char := []
  /-- The styles that are set, the latest first. -/
  styles : List OpenStyle := []
  /-- The styles that have been ended. -/
  ended : List OpenStyle := []
  deriving Repr

/-- The name and the value of a mark, which an equal sign sets apart. -/
def splitMark (inside : List Char) : String × Option String :=
  let name := inside.takeWhile (· != '=')
  let rest := inside.drop name.length
  (String.ofList name, if rest.isEmpty then none else some (String.ofList (rest.drop 1)))

/-- The canonical form of the description of a style. -/
def canonicalName (description : String) : Except MarkupError String :=
  match Style.canonical description with
  | .ok name => .ok name
  | .error _ => .error .emptyNumber

/-- A mark that starts with `@`, which sets no style. -/
def OpenStyle.isHandler (s : OpenStyle) : Bool :=
  s.name.startsWith "@"

/-- Reads the value of a mark that starts with `@`; an empty one will do. -/
def OpenStyle.readValue (s : OpenStyle) : Except MarkupError Unit :=
  let value := s.value.getD ""
  if !s.isHandler || value.isEmpty then .ok ()
  else
    let reading := Literal.handlerValue (Text.trimBlank value)
    match Literal.fault? reading with
    | some fault => .error (.badValue reading value fault)
    | none => .ok ()

/-- The description of the style, of which the value of the mark is a part. -/
def OpenStyle.description (s : OpenStyle) : String :=
  match s.value with
  | some value => s.name ++ " " ++ value
  | none => s.name

/-- The styles without the latest one of the name, which is ended. -/
def closeNamed (name : String) : List OpenStyle → Option OpenStyle × List OpenStyle
  | [] => (none, [])
  | s :: rest =>
    if s.name == name then (some s, rest)
    else
      let (found, rest) := closeNamed name rest
      (found, s :: rest)

/-- The style that a mark ends, and the styles that are left. -/
def closing (styles : List OpenStyle) (inside : List Char) (position : Nat) :
    Except MarkupError (OpenStyle × List OpenStyle) := do
  let description := Text.trimBlank ((splitMark inside).1.drop 1).toString
  if description.isEmpty then
    match styles with
    | [] => .error (.nothingOpen position)
    | s :: rest => .ok (s, rest)
  else
    match closeNamed (← canonicalName description) styles with
    | (some s, rest) => .ok (s, rest)
    | (none, _) => .error (.notOpen (String.ofList inside) position)

/-- Reads a piece. -/
def Reading.read (r : Reading) : Piece → Except MarkupError Reading
  | .plain text => .ok { r with shown := r.shown ++ Emoji.replace text }
  | .mark inside position => do
    if inside.head? == some '/' then
      let (style, styles) ← closing r.styles inside position
      style.readValue
      pure { r with styles, ended := style :: r.ended }
    else
      let (description, value) := splitMark inside
      pure { r with styles := ⟨← canonicalName description, value⟩ :: r.styles }

/-- The bell, the backspace, the vertical tab, the form feed and the carriage return would move
what is shown, and are left out. -/
def isShown (c : Char) : Bool :=
  c.toNat < 7 || 8 < c.toNat && c.toNat < 11 || 13 < c.toNat

/-- What is shown of a text with marks.  The styles that are still set at its end are ended
there, and what styles mean is looked at last of all. -/
def plain (text : String) : Except MarkupError String := do
  let r ← (pieces text).foldlM Reading.read {}
  if (r.ended ++ r.styles).any fun s => Style.read s.description matches .error .emptyNumber then
    throw .emptyNumber
  pure (String.ofList (r.shown.filter isShown))

end Markup

end PluginSweep.CommandLine

/-
PluginSweep/Rehearsal/Format.lean

Formats, as `printf` writes them.  A format is read as a list of pieces, bytes
that are written as they are and places that take an argument each; it is
written again and again until all arguments are taken, and a place for which
there is none is filled with nothing, or with zero.
-/
import PluginSweep.Text.Column
import PluginSweep.Text.Utf8

namespace PluginSweep.Rehearsal.Format

/-! ### Escapes -/

/-- A dialect of escapes. -/
structure Escapes where
  /-- `\x` and two hexadecimal digits stand for a byte. -/
  hexadecimal : Bool := false
  /-- A zero may stand before the three octal digits of a byte. -/
  leadingZero : Bool := false
  deriving Repr

/-- The value of a digit, in bases up to sixteen. -/
def digit? (base : Nat) (c : Char) : Option Nat :=
  let value :=
    if c.isDigit then c.toNat - 48
    else if 'a' ≤ c.toLower && c.toLower ≤ 'f' then c.toLower.toNat - 87
    else 16
  if value < base then some value else none

/-- The number that the digits at the beginning denote, at most so many, and their count. -/
def number (base most : Nat) (text : List Char) : Nat × Nat :=
  let digits := (text.take most).map (digit? base) |>.takeWhile (·.isSome)
  (digits.foldl (fun n d => n * base + d.getD 0) 0, digits.length)

/-- Characters that a backslash before them turns into a byte. -/
def namedEscapes : List (Char × UInt8) :=
  [('n', 10), ('r', 13), ('t', 9), ('f', 12), ('v', 11), ('a', 7), ('b', 8), ('e', 27), ('\\', 92)]

/-- The byte for what follows a backslash, and how many characters stand for it. -/
def Escapes.byte? (e : Escapes) (text : List Char) : Option (UInt8 × Nat) :=
  match text with
  | [] => none
  | c :: rest =>
    match namedEscapes.lookup c with
    | some byte => some (byte, 1)
    | none =>
      if c == 'x' then
        let (value, count) := number 16 2 rest
        if e.hexadecimal && count > 0 then some (.ofNat value, count + 1) else none
      else
        let zero := e.leadingZero && c == '0'
        let (value, count) := number 8 3 (if zero then rest else text)
        if zero then some (.ofNat value, count + 1)
        else if count > 0 then some (.ofNat value, count)
        else none

/-! ### Pieces -/

/-- A place for an argument. -/
structure Place where
  /-- The signs before the width: `-`, `0`, `+`. -/
  signs : List Char := []
  width : Nat := 0
  precision : Option Nat := none
  kind : Char
  deriving Repr

/-- A piece of a format. -/
inductive Piece
  | byte (b : UInt8)
  | char (c : Char)
  | place (p : Place)
  /-- Nothing more is written. -/
  | stop
  deriving Repr

/-- The piece is a place. -/
def Piece.isPlace : Piece → Bool
  | place _ => true
  | _ => false

/-- The place that a percent sign starts, and how many characters after the sign make it. -/
def place? (text : List Char) : Option (Place × Nat) :=
  let signs := text.takeWhile ['-', '0', '+', ' ', '#'].contains
  let text₁ := text.drop signs.length
  let (width, widthLength) := number 10 9 text₁
  let text₂ := text₁.drop widthLength
  let (precision, precisionLength) : Option Nat × Nat := match text₂ with
    | '.' :: rest =>
      let (n, length) := number 10 9 rest
      (some n, length + 1)
    | _ => (none, 0)
  match text₂.drop precisionLength with
  | kind :: _ =>
    if ['s', 'b', 'c', 'd', 'i', 'u', 'o', 'x', 'X'].contains kind then
      some (⟨signs, width, precision, kind⟩, signs.length + widthLength + precisionLength + 1)
    else none
  | [] => none

/-- The pieces of a text; percent signs mean something only in formats. -/
def piecesOf (e : Escapes) (isFormat : Bool) (text : List Char) : List Piece :=
  match text with
  | [] => []
  | c :: rest =>
    if c == '\\' then
      if e.leadingZero && rest.head? == some 'c' then [.stop]
      else match e.byte? rest with
        | some (byte, count) => .byte byte :: piecesOf e isFormat (rest.drop count)
        | none => .char c :: piecesOf e isFormat rest
    else if isFormat && c == '%' then
      if rest.head? == some '%' then .char c :: piecesOf e isFormat (rest.drop 1)
      else match place? rest with
        | some (place, count) => .place place :: piecesOf e isFormat (rest.drop count)
        | none => [.stop]
    else .char c :: piecesOf e isFormat rest
termination_by text.length
decreasing_by all_goals (simp only [List.length_cons, List.length_drop]; omega)

/-! ### Writing -/

/-- The integer at the beginning of a text, zero where there is none. -/
def integerOf (text : List Char) : Int :=
  match text with
  | '-' :: rest => -Int.ofNat (number 10 rest.length rest).1
  | '+' :: rest => Int.ofNat (number 10 rest.length rest).1
  | _ => Int.ofNat (number 10 text.length text).1

/-- A natural number in the base that a kind of place stands for. -/
def inBase (kind : Char) (n : Nat) : String :=
  if kind == 'o' then String.ofList (Nat.toDigits 8 n)
  else if kind == 'x' then String.ofList (Nat.toDigits 16 n)
  else if kind == 'X' then (String.ofList (Nat.toDigits 16 n)).map Char.toUpper
  else Text.decimal n

/-- An integer in a place. -/
def Place.integer (p : Place) (n : Int) : String :=
  let digits := inBase p.kind n.natAbs
  let sign := if n < 0 then "-" else if p.signs.contains '+' then "+" else ""
  let least := match p.precision with
    | some least => least
    | none =>
      if p.signs.contains '0' && !p.signs.contains '-' then p.width - sign.length else 0
  sign ++ String.ofList (List.replicate (least - digits.length) '0') ++ digits

/-- A text in a place, filled up to its width. -/
def Place.fill (p : Place) (s : String) : String :=
  if p.signs.contains '-' then Text.padRight p.width s else Text.padLeft p.width s

/-- What is written without places. -/
def plainBytes : List Piece → List UInt8
  | [] => []
  | .byte b :: rest => b :: plainBytes rest
  | .char c :: rest => Text.encode c.toString ++ plainBytes rest
  | .place _ :: rest => plainBytes rest
  | .stop :: _ => []

/-- What is written for an argument in a place. -/
def Place.write (p : Place) (argument : String) : List UInt8 :=
  if p.kind == 'b' then plainBytes (piecesOf { leadingZero := true } false argument.toList)
  else if p.kind == 's' then
    Text.encode (p.fill (match p.precision with
      | some most => (argument.take most).toString
      | none => argument))
  else if p.kind == 'c' then Text.encode (p.fill (argument.take 1).toString)
  else Text.encode (p.fill (p.integer (integerOf argument.toList)))

/-- Writes a format once and returns the arguments that are left, if it goes on. -/
def writeOnce : List Piece → List String → List UInt8 × Option (List String)
  | [], arguments => ([], some arguments)
  | .byte b :: rest, arguments =>
    let (bytes, left) := writeOnce rest arguments
    (b :: bytes, left)
  | .char c :: rest, arguments =>
    let (bytes, left) := writeOnce rest arguments
    (Text.encode c.toString ++ bytes, left)
  | .place p :: rest, arguments =>
    let (bytes, left) := writeOnce rest (arguments.drop 1)
    (p.write (arguments.headD "") ++ bytes, left)
  | .stop :: _, _ => ([], none)

/-- Writes a format in which there are places for all arguments, `rounds` times at most. -/
def writeRounds (pieces : List Piece) : (rounds : Nat) → List String → List UInt8
  | 0, _ => []
  | rounds + 1, arguments =>
    match writeOnce pieces arguments with
    | (bytes, some left) =>
      if left.isEmpty then bytes else bytes ++ writeRounds pieces rounds left
    | (bytes, none) => bytes

/-- Writes a format for all arguments: as often as they last, each round taking one at least,
or once if there is no place for any. -/
def write (e : Escapes) (format : String) (arguments : List String) : List UInt8 :=
  let pieces := piecesOf e true format.toList
  writeRounds pieces (if pieces.any Piece.isPlace then arguments.length + 1 else 1) arguments

/-- Writes a text with escapes. -/
def unescape (text : String) : List UInt8 :=
  plainBytes (piecesOf { leadingZero := true } false text.toList)

end PluginSweep.Rehearsal.Format

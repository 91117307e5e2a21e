/-
PluginSweep/CommandLine/Literal.lean

Values in style marks.  The value of a mark that starts with `@` is a literal:
a number, a quoted text, one of a few constants, or a list of these between
parentheses or braces.  A name in front of the parentheses, or alone, stands
for something to be called and is not part of the literal.

`fault?` tells why a text is no literal.  The text is first taken apart into
tokens, and a text that has none, such as one with an open quote, is refused
whatever else is wrong with it.  Then the tokens are read from left to right,
with the open brackets on a stack.
-/
import PluginSweep.Text.Column
import PluginSweep.Text.Printable
import PluginSweep.Text.Quoted
import PluginSweep.Text.Word

namespace PluginSweep.CommandLine

/-- Why a text is no literal. -/
inductive LiteralFault
  | neverClosed (bracket : Char)
  | unmatched (bracket : Char)
  | mismatched (closing opening : Char)
  /-- A quoted text has no end. -/
  | openQuote
  /-- A text between threefold quotes has no end; the line is that of its end. -/
  | openBlock (line : Nat)
  /-- A backslash ends a line, but the line goes on. -/
  | strayBackslash
  /-- A character has no place outside of quotes. -/
  | badCharacter (c : Char)
  /-- A number is followed by a letter. -/
  | badNumber
  /-- The tokens do not fit together. -/
  | malformed
  /-- Two items follow one another. -/
  | commaMissing
  /-- A name is set to a value. -/
  | assignment
  /-- The text is an expression, but holds more than literals. -/
  | noLiteral
  deriving DecidableEq, Repr

/-- The wording of the fault. -/
def LiteralFault.message : LiteralFault → String
  | neverClosed b => "'" ++ b.toString ++ "' was never closed"
  | unmatched b => "unmatched '" ++ b.toString ++ "'"
  | mismatched c o =>
    "closing parenthesis '" ++ c.toString ++ "' does not match opening parenthesis '" ++
      o.toString ++ "'"
  | openQuote => "unterminated string literal (detected at line 1)"
  | openBlock line =>
    "unterminated triple-quoted string literal (detected at line " ++ Text.decimal line ++ ")"
  | strayBackslash => "unexpected character after line continuation character"
  | badCharacter c =>
    let code := "U+" ++ (Text.hex 4 c.toNat).map Char.toUpper
    if Text.isPrintable c then "invalid character '" ++ c.toString ++ "' (" ++ code ++ ")"
    else "invalid non-printable character " ++ code
  | badNumber => "invalid decimal literal"
  | malformed => "invalid syntax"
  | commaMissing => "invalid syntax. Perhaps you forgot a comma?"
  | assignment => "invalid syntax. Maybe you meant '==' or ':=' instead of '='?"
  | noLiteral => "malformed node or string on line 1"

namespace Literal

/-! ### Tokens -/

/-- A token of a literal. -/
inductive Token
  | number
  | text
  | name (word : String)
  | opening (bracket : Char)
  | closing (bracket : Char)
  | symbol (signs : String)
  deriving DecidableEq, Repr

/-- What can be done with the characters that are left. -/
inductive Lexed
  | token (t : Token) (length : Nat)
  | blank (length : Nat)
  | fault (f : LiteralFault)
  deriving Repr

/-- Signs of more than one character, the longer ones first. -/
def longSymbols : List String :=
  ["...", "**=", "//=", "<<=", ">>=", "**", "//", "<<", ">>", "==", "!=", "<=", ">=", "<>", "->",
   ":=", "+=", "-=", "*=", "/=", "%=", "&=", "|=", "^=", "@="]

/-- The length of a quoted text after its first quote, up to and with its last. -/
def quotedLength (quote : Char) : List Char → Option Nat
  | [] => none
  | '\\' :: _ :: rest => (quotedLength quote rest).map (· + 2)
  | c :: rest =>
    if c == quote then some 1
    else if c == '\n' then none
    else (quotedLength quote rest).map (· + 1)

/-- The length of a text after its threefold quote, up to and with the quote at its end. -/
def blockLength (quote : Char) : List Char → Option Nat
  | [] => none
  | '\\' :: _ :: rest => (blockLength quote rest).map (· + 2)
  | c :: rest =>
    if List.replicate 3 quote |>.isPrefixOf (c :: rest) then some 3
    else (blockLength quote rest).map (· + 1)

/-- The quoted text at the beginning, `before` characters before its quote being part of it. -/
def lexQuoted (before : Nat) (quote : Char) (rest : List Char) : Lexed :=
  if [quote, quote].isPrefixOf rest then
    match blockLength quote (rest.drop 2) with
    | some n => .token .text (before + n + 3)
    | none => .fault (.openBlock (rest.count '\n' + 1))
  else match quotedLength quote rest with
    | some n => .token .text (before + n + 1)
    | none => .fault .openQuote

/-- A letter that may stand before a quote. -/
def quoteLetters : List String :=
  ["r", "b", "u", "f", "br", "rb", "fr", "rf"]

/-- A quote. -/
def isQuote (c : Char) : Bool :=
  c == '"' || c.toNat == 39

/-- The characters of a number are those of a word, and points. -/
def isNumeral (word : List Char) : Bool :=
  match word.map Char.toLower with
  | '0' :: 'x' :: digits => digits.all fun c => c.isDigit || c == '_' || ('a' ≤ c && c ≤ 'f')
  | '0' :: 'o' :: digits => digits.all fun c => c.isDigit || c == '_'
  | '0' :: 'b' :: digits => digits.all fun c => c == '0' || c == '1' || c == '_'
  | letters =>
    let letters := if letters.getLast? == some 'j' then letters.dropLast else letters
    letters.all fun c => c.isDigit || c == '.' || c == '_' || c == 'e'

/-- The token at the beginning of a text that is not empty. -/
def lex (c : Char) (rest : List Char) : Lexed :=
  let word := (c :: rest).takeWhile Text.isWord
  let after := (c :: rest).drop word.length
  if c == ' ' || c == '\t' || c == '\x0c' then .blank 1
  else if c == '#' then .blank ((c :: rest).takeWhile (· != '\n')).length
  else if isQuote c then lexQuoted 0 c rest
  else if c.isDigit || (c == '.' && rest.head?.any Char.isDigit) then
    let number := (c :: rest).takeWhile fun d => d == '.' || Text.isWord d
    if isNumeral number then .token .number number.length else .fault .badNumber
  else if !word.isEmpty then
    match after with
    | quote :: rest =>
      if isQuote quote && quoteLetters.contains (String.ofList word).toLower then
        lexQuoted word.length quote rest
      else .token (.name (String.ofList word)) word.length
    | [] => .token (.name (String.ofList word)) word.length
  else if c == '(' || c == '{' || c == '[' then .token (.opening c) 1
  else if c == ')' || c == '}' || c == ']' then .token (.closing c) 1
  else if c == '\\' then .fault .strayBackslash
  else if c.toNat ≥ 128 || c.toNat < 32 && c != '\n' then .fault (.badCharacter c)
  else match longSymbols.find? fun s => s.toList.isPrefixOf (c :: rest) with
    | some s => .token (.symbol s) s.length
    | none => .token (.symbol c.toString) 1

/-- The bracket that opens what the given one closes. -/
def openerOf (closing : Char) : Char :=
  if closing == ')' then '(' else if closing == '}' then '{' else '['

/-- The open brackets after a token, the latest first, and whether the token counts: a line
feed between brackets does not. -/
def nest (brackets : List Char) : Token → Except LiteralFault (List Char × Bool)
  | .opening b => .ok (b :: brackets, true)
  | .closing b => match brackets with
    | [] => .error (.unmatched b)
    | last :: outer =>
      if last == openerOf b then .ok (outer, true) else .error (.mismatched b last)
  | t => .ok (brackets, t != .symbol "\n" || brackets.isEmpty)

/-- The tokens of a text, where `brackets` holds the open brackets, the latest first. -/
def tokensFrom (brackets : List Char) (text : List Char) :
    Except LiteralFault (List Token × List Char) :=
  match text with
  | [] => .ok ([], brackets)
  | c :: rest =>
    match lex c rest with
    | .fault f => .error f
    | .blank n => tokensFrom brackets (rest.drop (n - 1))
    | .token t n => match nest brackets t with
      | .error f => .error f
      | .ok (brackets, counts) => match tokensFrom brackets (rest.drop (n - 1)) with
        | .error f => .error f
        | .ok (tokens, brackets) => .ok (if counts then t :: tokens else tokens, brackets)
termination_by text.length
decreasing_by all_goals (simp only [List.length_cons, List.length_drop]; omega)

/-! ### Reading tokens -/

/-- What may come next. -/
inductive Expect
  /-- An item; a bracket has just been opened. -/
  | first
  /-- An item. -/
  | item
  /-- An item or the end, after a comma. -/
  | next
  /-- An operator, a comma or the end. -/
  | operator
  deriving DecidableEq, Repr

/-- Where the reading of tokens is. -/
structure Reader where
  expect : Expect := .item
  /-- The open brackets, the latest first. -/
  brackets : List Char := []
  /-- The token before. -/
  last : Option Token := none
  /-- Nothing but literals has been met. -/
  isLiteral : Bool := true
  deriving DecidableEq, Repr

/-- Words that are literals. -/
def constants : List String := ["None", "True", "False"]

/-- Words that stand between two items. -/
def wordOperators : List String := ["and", "or", "in", "is", "if", "else", "not"]

/-- Words that stand before an item. -/
def wordSigns : List String := ["not", "lambda", "await", "yield"]

/-- Words that are no names. -/
def keywords : List String :=
  constants ++ wordOperators ++ wordSigns ++ ["as", "assert", "async", "break", "class",
    "continue", "def", "del", "elif", "except", "finally", "for", "from", "global", "import",
    "nonlocal", "pass", "raise", "return", "try", "while", "with"]

/-- Signs that stand between two items. -/
def operators : List String :=
  ["+", "-", "*", "/", "//", "%", "@", "**", "<<", ">>", "&", "|", "^", "<", ">", "==", "!=",
   "<=", ">=", ".", ":="]

/-- The reader expects an item. -/
def Reader.wantsItem (r : Reader) : Bool :=
  r.expect != .operator

/-- The reader after a token that leads to the given expectation. -/
def Reader.move (r : Reader) (t : Token) (expect : Expect) (isLiteral : Bool) : Reader :=
  { r with expect, last := some t, isLiteral := r.isLiteral && isLiteral }

/-- Reads a token, if it fits. -/
def Reader.step (r : Reader) (t : Token) : Option Reader :=
  if r.wantsItem then
    match t with
    | .number => some (r.move t .operator true)
    | .text => some (r.move t .operator true)
    | .name w =>
      if constants.contains w then some (r.move t .operator true)
      else if wordSigns.contains w then some (r.move t .item false)
      else if keywords.contains w then none
      else some (r.move t .operator false)
    | .opening b => some { r.move t .first true with brackets := b :: r.brackets }
    | .closing _ =>
      if r.expect = .item then none
      else some { r.move t .operator true with brackets := r.brackets.drop 1 }
    | .symbol s =>
      if s == "..." then some (r.move t .operator true)
      else if s == "-" || s == "+" then some (r.move t .item true)
      else if s == "~" then some (r.move t .item false)
      else if (s == "*" || s == "**") && !r.brackets.isEmpty then some (r.move t .item false)
      else none
  else
    match t with
    | .text => if r.last = some .text then some (r.move t .operator true) else none
    | .name w => if wordOperators.contains w then some (r.move t .item false) else none
    | .opening b =>
      if b == '(' then some { r.move t .first false with brackets := b :: r.brackets } else none
    | .closing _ => some { r.move t .operator true with brackets := r.brackets.drop 1 }
    | .symbol s =>
      if s == "," then some (r.move t .next true)
      else if s == ":" && r.brackets.head? == some '{' then some (r.move t .item true)
      else if operators.contains s then some (r.move t .item (s == "+" || s == "-"))
      else none
    | .number => none

/-- A token may start an item. -/
def startsItem : Token → Bool
  | .number => true
  | .text => true
  | .name w => !keywords.contains w || constants.contains w || wordSigns.contains w
  | .opening _ => true
  | _ => false

/-- Reads the item that starts here, as far as it goes at the given depth, and says whether
tokens are left. -/
def endsBefore (depth : Nat) : Reader → List Token → Option Bool
  | _, [] => some false
  | r, t :: rest =>
    if r.expect = .operator && r.brackets.length ≤ depth &&
        (t matches .closing _ || t = .symbol "," || t = .symbol ":" || (r.step t).isNone) then
      some true
    else match r.step t with
      | some r => endsBefore depth r rest
      | none => none

/-- Why the token does not fit. -/
def refusal (r : Reader) (t : Token) (rest : List Token) (unclosed : List Char) :
    LiteralFault :=
  if r.expect = .operator && startsItem t then
    match endsBefore r.brackets.length { r with expect := .item } (t :: rest) with
    | some false => match unclosed with
      | b :: _ => .neverClosed b
      | [] => .malformed
    | some true =>
      if r.brackets.isEmpty || (t = .text && r.last matches some (.name _)) then .malformed
      else .commaMissing
    | none => .malformed
  else if t = .symbol "=" && r.brackets.head? == some '(' then
    match r.last, endsBefore r.brackets.length { r with expect := .item } rest with
    | some (.name _), some true => .assignment
    | some (.name _), some false => match unclosed with
      | b :: _ => .neverClosed b
      | [] => .malformed
    | _, _ => .malformed
  else .malformed

/-- Why the tokens are no literal, `unclosed` being the brackets that are open at the end. -/
def readTokens (unclosed : List Char) : Reader → List Token → Option LiteralFault
  | r, [] => match unclosed with
    | b :: _ => some (.neverClosed b)
    | [] =>
      if r.expect = .item || r.expect = .first then some .malformed
      else if r.isLiteral then none
      else some .noLiteral
  | r, t :: rest => match r.step t with
    | some r => readTokens unclosed r rest
    | none => some (refusal r t rest unclosed)

/-- Why a text is no literal, if it is none. -/
def fault? (text : String) : Option LiteralFault :=
  match tokensFrom [] text.toList with
  | .error f => some f
  | .ok (tokens, unclosed) => readTokens unclosed {} tokens

/-! ### Handlers -/

/-- The part of a value that is a literal: what stands in parentheses after a name, or
nothing in parentheses where there is a name alone. -/
def handlerValue (value : String) : String :=
  let rest := value.toList.dropWhile fun c => c == '.' || Text.isWord c
  if rest.isEmpty then "()"
  else if rest.head? == some '(' && rest.length ≥ 2 && rest.getLast? == some ')' &&
      !rest.contains '\n' then
    String.ofList rest
  else value

end Literal

end PluginSweep.CommandLine

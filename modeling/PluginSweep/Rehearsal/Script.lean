/-
PluginSweep/Rehearsal/Script.lean

The grammar of small shell scripts: words with quotes and expansions, commands
with redirected streams, and the signs that join commands.  Compound commands
are not part of it.
-/
import PluginSweep.Text.Blank
import PluginSweep.Text.Word

namespace PluginSweep.Rehearsal

/-- A part of a word; what is quoted is not broken up at blanks. -/
inductive WordPart
  | text (s : List Char)
  /-- What a script writes. -/
  | output (script : List Char) (quoted : Bool)
  /-- The value of a variable. -/
  | value (name : String) (quoted : Bool)
  deriving DecidableEq, Repr

/-- A word, as its parts. -/
abbrev ScriptWord := List WordPart

/-- A lexeme of a script. -/
inductive Lexeme
  | word (parts : ScriptWord)
  /-- A sign that stands between commands. -/
  | sign (s : String)
  /-- The stream is sent to where another stream goes. -/
  | duplicate (stream target : Nat)
  /-- The stream is sent to the file that the next word names. -/
  | redirect (stream : Nat)
  deriving DecidableEq, Repr

/-- A quote has no end. -/
inductive ScriptFault
  | openQuote
  | unexpected (sign : String)
  deriving DecidableEq, Repr

/-- The wording of the fault. -/
def ScriptFault.message : ScriptFault → String
  | openQuote => "Syntax error: Unterminated quoted string"
  | unexpected sign => "Syntax error: \"" ++ sign ++ "\" unexpected"

namespace Lexeme

/-- The word that is being read: its parts, last first, or nothing where none has begun. -/
abbrev Pending := Option ScriptWord

/-- The pending word with a part added. -/
def Pending.add (p : Pending) (part : WordPart) : Pending :=
  match part, p with
  | .text s, some (.text before :: parts) => some (.text (before ++ s) :: parts)
  | part, some parts => some (part :: parts)
  | part, none => some [part]

/-- The lexeme of the pending word. -/
def Pending.lexemes (p : Pending) : List Lexeme :=
  match p with
  | some parts => [.word parts.reverse]
  | none => []

/-- The length of a script in parentheses, of which `depth` are open, without the last one. -/
def enclosed (depth : Nat) : List Char → Option Nat
  | [] => none
  | c :: rest =>
    if c == ')' then if depth ≤ 1 then some 0 else (enclosed (depth - 1) rest).map (· + 1)
    else (enclosed (if c == '(' then depth + 1 else depth) rest).map (· + 1)

/-- What follows a dollar sign, and how many characters it has. -/
def expansion (quoted : Bool) (text : List Char) : WordPart × Nat :=
  let name := text.takeWhile Text.isWord
  match text with
  | '(' :: rest =>
    match enclosed 1 rest with
    | some n => (.output (rest.take n) quoted, n + 2)
    | none => (.text ['$'], 0)
  | '\x7b' :: rest =>
    let inside := rest.takeWhile Text.isWord
    if rest[inside.length]? == some '\x7d' then
      (.value (String.ofList inside) quoted, inside.length + 2)
    else (.text ['$'], 0)
  | c :: _ =>
    if ['$', '?', '@', '#'].contains c || c.isDigit then (.value c.toString quoted, 1)
    else if name.isEmpty then (.text ['$'], 0)
    else (.value (String.ofList name) quoted, name.length)
  | [] => (.text ['$'], 0)

/-- The lexemes of a text; `quoted` tells that the text starts between double quotes. -/
def read (quoted : Bool) (word : Pending) (text : List Char) : Except ScriptFault (List Lexeme) :=
  match text with
  | [] => if quoted then .error .openQuote else .ok word.lexemes
  | c :: rest =>
    let sign (s : String) : Except ScriptFault (List Lexeme) :=
      (read false none (rest.drop (s.length - 1))).map (word.lexemes ++ .sign s :: ·)
    if c == '$' then
      let (part, length) := expansion quoted rest
      read quoted (word.add part) (rest.drop length)
    else if c == '"' then read (!quoted) (word.add (.text [])) rest
    else if c == '\\' then
      match rest with
      | [] => read quoted (word.add (.text [c])) []
      | d :: rest =>
        if d == '\n' then read quoted word rest
        else if quoted && !(['"', '\\', '$'].contains d) then
          read quoted (word.add (.text [c, d])) rest
        else read quoted (word.add (.text [d])) rest
    else if quoted then read quoted (word.add (.text [c])) rest
    else if c.toNat == 39 then
      let inside := rest.takeWhile fun d => d.toNat != 39
      if inside.length < rest.length then
        read false (word.add (.text inside)) (rest.drop (inside.length + 1))
      else .error .openQuote
    else if c == ' ' || c == '\t' then (read false none rest).map (word.lexemes ++ ·)
    else if c == '#' && word.isNone then
      read false none (rest.drop (rest.takeWhile (· != '\n')).length)
    else if c == '&' then sign (if rest.head? == some '&' then "&&" else "&")
    else if c == '|' then sign (if rest.head? == some '|' then "||" else "|")
    else if c == ';' || c == '\n' then sign c.toString
    else if c == '>' then
      let (stream, before) : Nat × List Lexeme := match word with
        | some [.text ['2']] => (2, [])
        | some [.text ['1']] => (1, [])
        | _ => (1, word.lexemes)
      if ['&', '1'].isPrefixOf rest then
        (read false none (rest.drop 2)).map (before ++ .duplicate stream 1 :: ·)
      else if ['&', '2'].isPrefixOf rest then
        (read false none (rest.drop 2)).map (before ++ .duplicate stream 2 :: ·)
      else (read false none rest).map (before ++ .redirect stream :: ·)
    else read false (word.add (.text [c])) rest
termination_by text.length
decreasing_by all_goals (simp only [List.length_cons, List.length_drop]; omega)

end Lexeme

/-- A command of a script. -/
structure ScriptCommand where
  words : List ScriptWord := []
  /-- Where streams are sent, in order; zero stands for nowhere. -/
  streams : List (Nat × Nat) := []
  deriving DecidableEq, Repr

namespace ScriptCommand

/-- Nothing is to be done. -/
def isEmpty (c : ScriptCommand) : Bool :=
  c.words.isEmpty && c.streams.isEmpty

/-- The commands of a script, each after the sign that stands before it; `c` is the command that
is being read and `sign` the one before it. -/
def ofLexemes (sign : String) (c : ScriptCommand) :
    List Lexeme → Except ScriptFault (List (String × ScriptCommand))
  | [] => .ok (if c.isEmpty then [] else [(sign, c)])
  | .word parts :: rest => ofLexemes sign { c with words := c.words ++ [parts] } rest
  | .duplicate stream target :: rest =>
    ofLexemes sign { c with streams := c.streams ++ [(stream, target)] } rest
  | .redirect stream :: .word _ :: rest =>
    ofLexemes sign { c with streams := c.streams ++ [(stream, 0)] } rest
  | .redirect stream :: rest =>
    ofLexemes sign { c with streams := c.streams ++ [(stream, 0)] } rest
  | .sign s :: rest =>
    if c.isEmpty then
      if s == "\n" then ofLexemes sign c rest else .error (.unexpected s)
    else (ofLexemes s {} rest).map ((sign, c) :: ·)

/-- The commands of a script, each after the sign that stands before it. -/
def ofScript (text : List Char) : Except ScriptFault (List (String × ScriptCommand)) := do
  ofLexemes ";" {} (← Lexeme.read false none text)

end ScriptCommand

end PluginSweep.Rehearsal

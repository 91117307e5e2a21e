/-
PluginSweep/Pattern/Basic.lean

Patterns and how they match.  A pattern stands at a place of a line, between
the characters before it and those after it.  `Pattern.run` asks whether the
pattern matches some stretch that starts at the place, such that what the
caller wants next holds at its end; this covers every way in which a
repetition may be cut, so greedy and lazy repetitions need not be told apart.
A line is matched when the pattern matches at some place of it.
-/
import PluginSweep.Pattern.CharClass

namespace PluginSweep

/-- A pattern for a stretch of a line. -/
inductive Pattern
  /-- The characters of a text. -/
  | text (s : List Char)
  /-- One character of the class. -/
  | one (k : CharClass)
  /-- Any number of characters of the class. -/
  | many (k : CharClass)
  /-- One pattern after the other. -/
  | seq (p q : Pattern)
  /-- Either of two patterns. -/
  | alt (p q : Pattern)
  /-- A place between a word character and one that is none, or the end of the line. -/
  | wordEdge
  /-- A place that does not follow a character of the class. -/
  | notAfter (k : CharClass)
  /-- A place that does not follow the text. -/
  | notAfterText (s : List Char)
  deriving Repr

/-- A place in a line: the characters before it, nearest first, and those after it. -/
structure Place where
  before : List Char
  after : List Char
  deriving DecidableEq, Repr

namespace Place

/-- The place where a line starts. -/
def start (line : List Char) : Place := ⟨[], line⟩

/-- A word character stands on exactly one side. -/
def atWordEdge (s : Place) : Bool :=
  s.before.head?.any Text.isWord != s.after.head?.any Text.isWord

end Place

namespace Pattern

/-- Reads the characters of `s`, then goes on with `k`. -/
def runText (rule : CaseRule) : List Char → Place → (Place → Bool) → Bool
  | [], place, k => k place
  | _ :: _, ⟨_, []⟩, _ => false
  | d :: s, ⟨before, c :: after⟩, k => rule.alike d c && runText rule s ⟨c :: before, after⟩ k

/-- Reads any number of characters of the class, then goes on with `k`. -/
def runMany (rule : CaseRule) (cls : CharClass) (k : Place → Bool) :
    (before after : List Char) → Bool
  | before, [] => k ⟨before, []⟩
  | before, c :: after =>
    k ⟨before, c :: after⟩ || cls.contains rule c && runMany rule cls k (c :: before) after

/-- Whether the pattern matches a stretch that starts at the place and at whose end `k` holds. -/
def run (rule : CaseRule) : Pattern → Place → (Place → Bool) → Bool
  | text s, place, k => runText rule s place k
  | one _, ⟨_, []⟩, _ => false
  | one cls, ⟨before, c :: after⟩, k => cls.contains rule c && k ⟨c :: before, after⟩
  | many cls, ⟨before, after⟩, k => runMany rule cls k before after
  | seq p q, place, k => run rule p place fun next => run rule q next k
  | alt p q, place, k => run rule p place k || run rule q place k
  | wordEdge, place, k => place.atWordEdge && k place
  | notAfter cls, place, k => !place.before.head?.any (cls.contains rule) && k place
  | notAfterText s, place, k =>
    -- What is before the place is read backwards, and so is the text.
    !runText rule s.reverse ⟨[], place.before⟩ (fun _ => true) && k place

/-- Whether the pattern matches at the place between `before` and `after`, or further on. -/
def foundFrom (rule : CaseRule) (p : Pattern) : (before after : List Char) → Bool
  | before, [] => p.run rule ⟨before, []⟩ fun _ => true
  | before, c :: after =>
    (p.run rule ⟨before, c :: after⟩ fun _ => true) || foundFrom rule p (c :: before) after

/-- Whether the pattern matches somewhere in the line. -/
def found (rule : CaseRule) (p : Pattern) (line : List Char) : Bool :=
  p.foundFrom rule [] line

/-! ### Patterns built from others -/

/-- The characters of a text. -/
def ofString (s : String) : Pattern := text s.toList

/-- The patterns one after the other. -/
def sequence : List Pattern → Pattern
  | [] => text []
  | [p] => p
  | p :: ps => seq p (sequence ps)

/-- One of the texts. -/
def anyText : List String → Pattern
  | [] => one (.compl (.union .word (.compl .word)))
  | [s] => ofString s
  | s :: rest => alt (ofString s) (anyText rest)

/-- One character of the class, then any number of them. -/
def oneOrMore (cls : CharClass) : Pattern := seq (one cls) (many cls)

/-- A character of the class or none. -/
def optional (cls : CharClass) : Pattern := alt (one cls) (text [])

/-- The call of a function: its name, blanks and an opening parenthesis, where the name is
no end of a longer identifier, no variable, and no method. -/
def callOf (name : String) : Pattern :=
  sequence [notAfter (.union .word (.char '$')), notAfterText ['-', '>'], notAfterText [':', ':'],
    ofString name, many .blank, ofString "("]

end Pattern

end PluginSweep

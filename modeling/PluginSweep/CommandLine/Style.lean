/-
PluginSweep/CommandLine/Style.lean

The styles that marks name.  A style is written as words: effects such as
`bold` or the short `b`, each of which `not` in front turns off, a color, a
color of the ground after `on`, and an address after `link`.  Of several words
for one thing the last counts.

Two descriptions of one style are told to be the same by their canonical form,
in which the words have a fixed order and their full length.  A description
that means nothing is its own canonical form, but for case and blanks at its
ends.
-/
import PluginSweep.CommandLine.Color
import PluginSweep.Text.Lines

namespace PluginSweep.CommandLine

/-- A style. -/
structure Style where
  /-- The effects that are turned on or off; the latest entry of each counts. -/
  effects : List (String × Bool) := []
  color : Option String := none
  ground : Option String := none
  link : Option String := none
  deriving DecidableEq, Repr

namespace Style

/-! ### Effects -/

/-- The effects, in the order in which a style is written. -/
def effectNames : List String :=
  ["bold", "dim", "italic", "underline", "blink", "blink2", "reverse", "conceal", "strike",
   "underline2", "frame", "encircle", "overline"]

/-- The short names of effects. -/
def shortNames : List (String × String) :=
  [("d", "dim"), ("b", "bold"), ("i", "italic"), ("u", "underline"), ("r", "reverse"),
   ("c", "conceal"), ("s", "strike"), ("uu", "underline2"), ("o", "overline")]

/-- The effect that a word names. -/
def effect? (word : String) : Option String :=
  if effectNames.contains word then some word else shortNames.lookup word

/-! ### Reading -/

/-- The style with the effect turned on or off. -/
def turn (s : Style) (effect : String) (on : Bool) : Style :=
  { s with effects := (effect, on) :: s.effects }

/-- Adds the words of a description to a style. -/
def addWords (s : Style) : List String → Except StyleFault Style
  | [] => .ok s
  | word :: rest =>
    let name := Text.lowerCase word
    if name == "on" || name == "not" || name == "link" then
      match rest with
      | [] => .error .meaningless
      | next :: rest =>
        if name == "on" then
          match Color.read next with
          | .ok ground => addWords { s with ground := some ground } rest
          | .error fault => .error fault
        else if name == "not" then
          match effect? next with
          | some effect => addWords (s.turn effect false) rest
          | none => .error .meaningless
        else addWords { s with link := some next } rest
    else match effect? name with
      | some effect => addWords (s.turn effect true) rest
      | none => match Color.read name with
        | .ok color => addWords { s with color := some color } rest
        | .error fault => .error fault

/-- The style that a text describes; `none` and the empty text describe the plain style. -/
def read (description : String) : Except StyleFault Style :=
  if Text.trimBlank description == "none" then .ok {}
  else addWords {} (Text.words description)

/-! ### Writing -/

/-- The words for an effect, where it is turned on or off. -/
def effectWords (s : Style) (effect : String) : List String :=
  match s.effects.lookup effect with
  | some true => [effect]
  | some false => ["not", effect]
  | none => []

/-- The words for a style. -/
def words (s : Style) : List String :=
  effectNames.flatMap s.effectWords ++ s.color.toList ++
    (s.ground.map fun color => ["on", color]).getD [] ++
    (s.link.map fun address => ["link", address]).getD []

/-- The text that describes a style. -/
def toString (s : Style) : String :=
  if s.words.isEmpty then "none" else " ".intercalate s.words

instance : ToString Style := ⟨toString⟩

/-- The canonical form of a description; an empty number has none. -/
def canonical (description : String) : Except StyleFault String :=
  match read description with
  | .ok style => .ok style.toString
  | .error .meaningless => .ok (Text.lowerCase (Text.trimBlank description))
  | .error .emptyNumber => .error .emptyNumber

end Style

end PluginSweep.CommandLine

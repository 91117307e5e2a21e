/-
PluginSweep/CommandLine/Emoji.lean

Emoji in texts that are shown.  A name between colons, as in `:smile:`, stands
for an emoji; case does not matter, and `-emoji` or `-text` after the name
chooses how it is drawn.  Colons around anything else are shown as they are,
and none of the two is looked at again.
-/
import PluginSweep.CommandLine.EmojiNames
import PluginSweep.Text.Lowercase
import PluginSweep.Text.Blank

namespace PluginSweep.CommandLine.Emoji

/-- Takes the words of a text in pairs. -/
def inPairs : List String → List (String × String)
  | name :: shown :: rest => (name, shown) :: inPairs rest
  | _ => []

/-- The names and what they stand for. -/
def table : List (String × String) :=
  inPairs (Text.words namesText)

/-- Endings of names that choose how an emoji is drawn, with the character that does so. -/
def variants : List (String × Char) :=
  [("-emoji", Char.ofNat 0xFE0F), ("-text", Char.ofNat 0xFE0E)]

/-- What a name between colons stands for. -/
def shown? (name : List Char) : Option (List Char) :=
  let look (stem : List Char) (drawn : List Char) : Option (List Char) :=
    (table.lookup (Text.lowerCase (String.ofList stem))).map (·.toList ++ drawn)
  match variants.find? fun v => v.1.toList.isSuffixOf name with
  | some (ending, variant) => look (name.take (name.length - ending.length)) [variant]
  | none => look name []

/-- The text with emoji in the place of their names. -/
def replace (text : List Char) : List Char :=
  match text with
  | [] => []
  | c :: rest =>
    if c == ':' then
      let name := rest.takeWhile fun d => d != ':' && !Text.isBlank d
      if rest[name.length]? == some ':' then
        (shown? name).getD (':' :: name ++ [':']) ++ replace (rest.drop (name.length + 1))
      else c :: replace rest
    else c :: replace rest
termination_by text.length
decreasing_by
  · simp only [List.length_cons, List.length_drop]
    omega
  · exact Nat.lt_succ_self _
  · exact Nat.lt_succ_self _

end PluginSweep.CommandLine.Emoji

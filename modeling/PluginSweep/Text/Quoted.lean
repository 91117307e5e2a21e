/-
PluginSweep/Text/Quoted.lean

Quoted text, as error messages show the names of files: between single
quotes, or between double quotes where the text holds a single quote and no
double one.  The backslash, the quote, and every character that is not
printable are escaped.
-/
import PluginSweep.Text.Printable

namespace PluginSweep.Text

/-- A number in lower-case hexadecimal, with zeros in front up to the given width. -/
def hex (width n : Nat) : String :=
  let digits := Nat.toDigits 16 n
  String.ofList (List.replicate (width - digits.length) '0' ++ digits)

/-- A character as it stands between the quotes `quote`. -/
def quotedChar (quote c : Char) : String :=
  if c == '\\' || c == quote then String.ofList ['\\', c]
  else if c == '\n' then "\\n"
  else if c == '\r' then "\\r"
  else if c == '\t' then "\\t"
  else if isPrintable c then c.toString
  else if c.toNat < 0x100 then "\\x" ++ hex 2 c.toNat
  else if c.toNat < 0x10000 then "\\u" ++ hex 4 c.toNat
  else "\\U" ++ hex 8 c.toNat

/-- The text between quotes. -/
def quoted (s : String) : String :=
  let single := Char.ofNat 39
  let quote := if s.contains single && !s.contains '"' then '"' else single
  quote.toString ++ String.join (s.toList.map (quotedChar quote)) ++ quote.toString

end PluginSweep.Text

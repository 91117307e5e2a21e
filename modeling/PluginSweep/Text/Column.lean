/-
PluginSweep/Text/Column.lean

Cells of plain-text tables: text filled up with spaces to a width, and
integers with at least two digits or with their thousands set apart.  A text
that is wider than its column is kept whole.
-/

namespace PluginSweep.Text

/-- The text, filled up on the right. -/
def padRight (width : Nat) (s : String) : String :=
  s ++ String.ofList (List.replicate (width - s.length) ' ')

/-- The text, filled up on the left. -/
def padLeft (width : Nat) (s : String) : String :=
  String.ofList (List.replicate (width - s.length) ' ') ++ s

/-- The decimal digits of a number. -/
def decimal (n : Nat) : String :=
  String.ofList (Nat.toDigits 10 n)

/-- An integer in decimal. -/
def integer : Int → String
  | .ofNat n => decimal n
  | .negSucc n => "-" ++ decimal (n + 1)

/-- An integer of two characters or more, a zero in front of a single digit. -/
def twoDigits (n : Int) : String :=
  if 0 ≤ n && n < 10 then "0" ++ integer n else integer n

/-- Groups of three digits, counted from the last; the digits come last first. -/
def thousandsReversed : List Char → List Char
  | a :: b :: c :: d :: rest => a :: b :: c :: ',' :: thousandsReversed (d :: rest)
  | digits => digits

/-- An integer with a comma before every third digit. -/
def thousands (n : Int) : String :=
  let digits := String.ofList (thousandsReversed (Nat.toDigits 10 n.natAbs).reverse).reverse
  if n < 0 then "-" ++ digits else digits

end PluginSweep.Text

/-
PluginSweep/Text/Utf8.lean

Reading bytes as UTF-8.  The bytes are read one after the other; what is
pending is the part of a character that has been seen so far, together with
the bytes that may follow.  A byte that may not follow ends the pending part
as one invalid part and starts anew, so every invalid part is as long as a
prefix of a well-formed character can be.

`decodeLossy` puts the replacement character U+FFFD in the place of each
invalid part; `decode` accepts well-formed bytes only.
-/

namespace PluginSweep.Text

/-! ### The state of the reader -/

/-- A character of which some bytes have been read: the bits that they hold, the range
in which the next byte must lie, and how many bytes follow that one. -/
structure Pending where
  bits : Nat
  least : Nat
  greatest : Nat
  after : Nat
  deriving DecidableEq, Repr

/-- What one byte yields: the characters that it completes, `none` for an invalid part,
and what is pending after it. -/
abbrev Reading := List (Option Char) × Option Pending

/-- Reads a byte where no character is pending. -/
def readFirst (b : UInt8) : Reading :=
  let n := b.toNat
  if n < 0x80 then ([some (Char.ofNat n)], none)
  else if n < 0xC2 then ([none], none)
  else if n < 0xE0 then ([], some ⟨n - 0xC0, 0x80, 0xBF, 0⟩)
  else if n < 0xF0 then
    ([], some ⟨n - 0xE0, if n = 0xE0 then 0xA0 else 0x80, if n = 0xED then 0x9F else 0xBF, 1⟩)
  else if n < 0xF5 then
    ([], some ⟨n - 0xF0, if n = 0xF0 then 0x90 else 0x80, if n = 0xF4 then 0x8F else 0xBF, 2⟩)
  else ([none], none)

/-- Reads a byte. -/
def readByte (pending : Option Pending) (b : UInt8) : Reading :=
  match pending with
  | none => readFirst b
  | some p =>
    if p.least ≤ b.toNat && b.toNat ≤ p.greatest then
      let bits := p.bits * 64 + (b.toNat - 0x80)
      match p.after with
      | 0 => ([some (Char.ofNat bits)], none)
      | after + 1 => ([], some ⟨bits, 0x80, 0xBF, after⟩)
    else
      let next := readFirst b
      (none :: next.1, next.2)

/-! ### Decoding -/

/-- Reads all bytes; `read` holds the parts so far, last first. -/
def decodeFrom : Option Pending → List UInt8 → List (Option Char) → List (Option Char)
  | none, [], read => read.reverse
  | some _, [], read => (none :: read).reverse
  | pending, b :: rest, read =>
    let next := readByte pending b
    decodeFrom next.2 rest (next.1.reverseAux read)

/-- The characters of the bytes in order, with `none` for every invalid part. -/
def decodeParts (bytes : List UInt8) : List (Option Char) :=
  decodeFrom none bytes []

/-- The text of the bytes, with U+FFFD in the place of every invalid part. -/
def decodeLossy (bytes : List UInt8) : List Char :=
  (decodeParts bytes).map (·.getD '\uFFFD')

/-- The text of well-formed bytes. -/
def decode (bytes : List UInt8) : Option (List Char) :=
  let parts := decodeParts bytes
  if parts.all Option.isSome then some (parts.filterMap id) else none

/-- The bytes of a text. -/
def encode (text : String) : List UInt8 :=
  text.toUTF8.toList

end PluginSweep.Text

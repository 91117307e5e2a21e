/-
PluginSweep/Lock/Digest.lean

The secure hash algorithm SHA-1, of which twelve hexadecimal digits tell the
lock files of sites apart.
-/
import PluginSweep.Text.Quoted
import PluginSweep.Text.Utf8

namespace PluginSweep.Digest

/-- The five words of the state. -/
structure State where
  a : UInt32
  b : UInt32
  c : UInt32
  d : UInt32
  e : UInt32
  deriving DecidableEq, Repr

/-- The state before the first block. -/
def State.initial : State :=
  ⟨0x67452301, 0xEFCDAB89, 0x98BADCFE, 0x10325476, 0xC3D2E1F0⟩

/-- The word turned left by `n` bits. -/
def turn (n : UInt32) (w : UInt32) : UInt32 :=
  (w <<< n) ||| (w >>> (32 - n))

/-- The number as eight bytes, the most significant first. -/
def bytes64 (n : Nat) : List UInt8 :=
  [56, 48, 40, 32, 24, 16, 8, 0].map fun shift => UInt8.ofNat (n >>> shift)

/-- The message, filled up to whole blocks and followed by its length in bits. -/
def padded (message : List UInt8) : List UInt8 :=
  message ++ [0x80] ++ List.replicate ((119 - message.length % 64) % 64) 0 ++
    bytes64 (8 * message.length)

/-- The bytes in groups of four, each read as a word; bytes that are too few are dropped. -/
def wordsOf : List UInt8 → List UInt32
  | a :: b :: c :: d :: rest =>
    ((a.toUInt32 <<< 24) ||| (b.toUInt32 <<< 16) ||| (c.toUInt32 <<< 8) ||| d.toUInt32) ::
      wordsOf rest
  | _ => []

/-- Extends the schedule, which holds the latest word first, by `count` words. -/
def schedule : (count : Nat) → List UInt32 → List UInt32
  | 0, words => words
  | count + 1, words =>
    let word (i : Nat) := words.getD i 0
    schedule count (turn 1 (word 2 ^^^ word 7 ^^^ word 13 ^^^ word 15) :: words)

/-- The mixing function and the constant of a round. -/
def mixing (round : Nat) (b c d : UInt32) : UInt32 × UInt32 :=
  if round < 20 then ((b &&& c) ||| ((~~~ b) &&& d), 0x5A827999)
  else if round < 40 then (b ^^^ c ^^^ d, 0x6ED9EBA1)
  else if round < 60 then ((b &&& c) ||| (b &&& d) ||| (c &&& d), 0x8F1BBCDC)
  else (b ^^^ c ^^^ d, 0xCA62C1D6)

/-- One round. -/
def step (s : State) (round : Nat) (word : UInt32) : State :=
  let mixed := mixing round s.b s.c s.d
  ⟨turn 5 s.a + mixed.1 + s.e + mixed.2 + word, s.a, turn 30 s.b, s.c, s.d⟩

/-- The state after a block of sixteen words. -/
def absorb (s : State) (block : List UInt32) : State :=
  let words := (schedule 64 block.reverse).reverse
  let t := words.zipIdx.foldl (fun t w => step t w.2 w.1) s
  ⟨s.a + t.a, s.b + t.b, s.c + t.c, s.d + t.d, s.e + t.e⟩

/-- The state after `count` blocks. -/
def absorbAll : (count : Nat) → State → List UInt32 → State
  | 0, s, _ => s
  | count + 1, s, words => absorbAll count (absorb s (words.take 16)) (words.drop 16)

/-- The digest of a message in hexadecimal. -/
def hexDigest (message : List UInt8) : String :=
  let words := wordsOf (padded message)
  let s := absorbAll (words.length / 16) .initial words
  String.join ([s.a, s.b, s.c, s.d, s.e].map fun w => Text.hex 8 w.toNat)

/-- The first twelve digits of the digest of a text. -/
def short (text : String) : String :=
  ((hexDigest (Text.encode text)).take 12).toString

end PluginSweep.Digest

/-
PluginSweep/Proofs/Rehearsal/Format.lean

Formats that write given bytes.  Every byte has an escape of three octal digits, and a format
that consists of such escapes writes their bytes and nothing else (`write_octalFormat`).
So `printf` can be made to write whatever bytes a tool may write.
-/
import PluginSweep.Rehearsal.Format

namespace PluginSweep.Rehearsal.Format

variable {e : Escapes} {n m k : Nat}

/-! ### Octal escapes -/

/-- The octal digit of a number less than eight. -/
def octalDigit (n : Nat) : Char := Char.ofNat (48 + n)

/-- The escape of a byte. -/
def octalEscape (b : UInt8) : List Char :=
  ['\\', octalDigit (b.toNat / 64), octalDigit (b.toNat / 8 % 8), octalDigit (b.toNat % 8)]

/-- The format that writes the bytes. -/
def octalFormat (bytes : List UInt8) : List Char :=
  bytes.flatMap octalEscape

theorem isDigit_octalDigit (hn : n < 8) : (octalDigit n).isDigit = true := by
  have hall : ∀ n : Fin 8, (octalDigit n).isDigit = true := by decide
  exact hall ⟨n, hn⟩

/-- There are backslashes and digits in a format of this kind, and nothing else. -/
theorem notMem_octalFormat {c : Char} (hslash : c ≠ '\\') (hdigit : c.isDigit = false)
    (bytes : List UInt8) : c ∉ octalFormat bytes := by
  intro hc
  obtain ⟨b, -, hc⟩ := List.mem_flatMap.mp hc
  have hb : b.toNat < 256 := b.toNat_lt
  have hne : ∀ n < 8, c ≠ octalDigit n := by
    rintro n hn rfl
    rw [isDigit_octalDigit hn] at hdigit
    cases hdigit
  rw [octalEscape, List.mem_cons, List.mem_cons, List.mem_cons, List.mem_singleton] at hc
  rcases hc with hc | hc | hc | hc
  · exact hslash hc
  · exact hne _ (by omega) hc
  · exact hne _ (by omega) hc
  · exact hne _ (by omega) hc

theorem digit?_octalDigit (hn : n < 8) : digit? 8 (octalDigit n) = some n := by
  have hall : ∀ n : Fin 8, digit? 8 (octalDigit n) = some n.val := by decide
  exact hall ⟨n, hn⟩

/-- A digit does not stand for a character of its own, and it begins no other escape. -/
theorem plain_octalDigit (hn : n < 8) :
    namedEscapes.lookup (octalDigit n) = none ∧ (octalDigit n == 'x') = false := by
  have hall : ∀ n : Fin 8,
      namedEscapes.lookup (octalDigit n) = none ∧ (octalDigit n == 'x') = false := by decide
  exact hall ⟨n, hn⟩

theorem number_octalDigits (hn : n < 8) (hm : m < 8) (hk : k < 8) (rest : List Char) :
    number 8 3 (octalDigit n :: octalDigit m :: octalDigit k :: rest) =
      ((n * 8 + m) * 8 + k, 3) := by
  simp [number, digit?_octalDigit hn, digit?_octalDigit hm, digit?_octalDigit hk]

/-- What follows the backslash is read as the byte, in dialects without a leading zero. -/
theorem byte?_octalEscape (he : e.leadingZero = false) (b : UInt8) (rest : List Char) :
    e.byte? ((octalEscape b).tail ++ rest) = some (b, 3) := by
  have hb : b.toNat < 256 := b.toNat_lt
  have hn : b.toNat / 64 < 8 := by omega
  have hm : b.toNat / 8 % 8 < 8 := by omega
  have hk : b.toNat % 8 < 8 := by omega
  obtain ⟨hplain, hx⟩ := plain_octalDigit hn
  have hvalue : (b.toNat / 64 * 8 + b.toNat / 8 % 8) * 8 + b.toNat % 8 = b.toNat := by omega
  show e.byte? (octalDigit (b.toNat / 64) :: octalDigit (b.toNat / 8 % 8) ::
    octalDigit (b.toNat % 8) :: rest) = _
  simp [Escapes.byte?, hplain, hx, he, number_octalDigits hn hm hk, hvalue]

theorem piecesOf_octalFormat (he : e.leadingZero = false) (bytes : List UInt8) :
    piecesOf e true (octalFormat bytes) = bytes.map .byte := by
  induction bytes with
  | nil =>
    unfold octalFormat piecesOf
    rfl
  | cons b rest ih =>
    have hescape : octalFormat (b :: rest) = '\\' :: ((octalEscape b).tail ++ octalFormat rest) :=
      rfl
    have hdrop : ((octalEscape b).tail ++ octalFormat rest).drop 3 = octalFormat rest := rfl
    rw [hescape, piecesOf]
    simp [he, byte?_octalEscape he, hdrop, ih]

/-! ### Writing -/

theorem writeOnce_bytes (bytes : List UInt8) (arguments : List String) :
    writeOnce (bytes.map .byte) arguments = (bytes, some arguments) := by
  induction bytes with
  | nil => rfl
  | cons b rest ih => rw [List.map_cons, writeOnce, ih]

/-- **All bytes can be written**, each by its octal escape. -/
theorem write_octalFormat (he : e.leadingZero = false) (bytes : List UInt8) :
    write e (String.ofList (octalFormat bytes)) [] = bytes := by
  have hplaces : (bytes.map Piece.byte).any Piece.isPlace = false := by
    rw [List.any_map, List.any_eq_false]
    intro b _
    exact Bool.false_ne_true
  unfold write
  rw [String.toList_ofList, piecesOf_octalFormat he]
  dsimp only
  rw [hplaces, if_neg Bool.false_ne_true, writeRounds, writeOnce_bytes]
  rfl

end PluginSweep.Rehearsal.Format

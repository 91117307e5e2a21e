/-
PluginSweep/Proofs/Text/Utf8.lean

Bytes below 0x80 stand for themselves.  Whatever comes before such a byte, well formed or
not, it ends what is pending and is read as a character of its own, and what comes after it
is read as if nothing came before (`decodeLossy_append_cons`).  A line feed is read from its
byte and from nothing else (`newline_mem_decodeLossy_iff`).  A text of such characters is read
as it was written (`decodeLossy_encode_of_ascii`).

The reasons are two invariants of the reader: no byte below 0x80 may follow in a character
that has begun (`OnlyHigh`), and such a character comes after the line feed, whatever bytes
follow (`PastNewline`).
-/
import PluginSweep.Text.Utf8

namespace PluginSweep.Text

variable {pending : Option Pending} {b : UInt8}

/-! ### One byte -/

/-- The parts that are invalid for want of more bytes. -/
def unfinished (pending : Option Pending) : List (Option Char) :=
  pending.toList.map fun _ => none

/-- A byte with nothing before it is a character, or invalid, or it begins a character in which
only bytes from 0x80 on may follow, and which comes after the line feed whichever they are. -/
theorem readFirst_cases (b : UInt8) :
    (b.toNat < 0x80 ∧ readFirst b = ([some (Char.ofNat b.toNat)], none)) ∨
    (0x80 ≤ b.toNat ∧ readFirst b = ([none], none)) ∨
    (0x80 ≤ b.toNat ∧ ∃ p, readFirst b = ([], some p) ∧ 0x80 ≤ p.least ∧
      0x0A < p.bits * 64 + (p.least - 0x80)) := by
  -- The cases are those of the first byte: plain, invalid, and the beginning of two, three or four.
  unfold readFirst
  dsimp only
  split
  · exact .inl ⟨‹_›, rfl⟩
  split
  · exact .inr (.inl ⟨by omega, rfl⟩)
  split
  · refine .inr (.inr ⟨by omega, _, rfl, ?_⟩)
    dsimp only
    omega
  split
  · refine .inr (.inr ⟨by omega, _, rfl, ?_⟩)
    dsimp only
    split <;> omega
  split
  · refine .inr (.inr ⟨by omega, _, rfl, ?_⟩)
    dsimp only
    split <;> omega
  · exact .inr (.inl ⟨by omega, rfl⟩)

/-- A byte goes on with what is pending, or it is read as if nothing were. -/
theorem readByte_cases (pending : Option Pending) (b : UInt8) :
    readByte pending b = (unfinished pending ++ (readFirst b).1, (readFirst b).2) ∨
    ∃ p, pending = some p ∧ p.least ≤ b.toNat ∧
      (readByte pending b = ([some (Char.ofNat (p.bits * 64 + (b.toNat - 0x80)))], none) ∨
        ∃ greatest after, readByte pending b =
          ([], some ⟨p.bits * 64 + (b.toNat - 0x80), 0x80, greatest, after⟩)) := by
  cases pending with
  | none => exact .inl rfl
  | some p =>
    rw [readByte]
    split
    · rename_i hrange
      rw [Bool.and_eq_true, decide_eq_true_eq] at hrange
      refine .inr ⟨p, rfl, hrange.1, ?_⟩
      split
      · exact .inl rfl
      · exact .inr ⟨_, _, rfl⟩
    · exact .inl rfl

/-- If a character has begun, only bytes from 0x80 on may follow. -/
def OnlyHigh (pending : Option Pending) : Prop :=
  ∀ p ∈ pending, 0x80 ≤ p.least

theorem onlyHigh_none : OnlyHigh none :=
  fun _ hp => by cases hp

theorem onlyHigh_readFirst (b : UInt8) : OnlyHigh (readFirst b).2 := by
  intro p hp
  rcases readFirst_cases b with ⟨-, hread⟩ | ⟨-, hread⟩ | ⟨-, q, hread, hleast, -⟩ <;>
    rw [hread] at hp <;> cases hp
  exact hleast

/-- **Reading a byte keeps the invariant.** -/
theorem onlyHigh_readByte (pending : Option Pending) (b : UInt8) :
    OnlyHigh (readByte pending b).2 := by
  rcases readByte_cases pending b with hread | ⟨p, -, -, hread | ⟨greatest, after, hread⟩⟩ <;>
    rw [hread]
  · exact onlyHigh_readFirst b
  · exact onlyHigh_none
  · intro q hq
    obtain rfl := Option.some.inj hq
    exact Nat.le_refl _

/-- A byte below 0x80 ends what is pending and is a character. -/
theorem readByte_ascii (hpending : OnlyHigh pending) (hb : b.toNat < 0x80) :
    readByte pending b = (unfinished pending ++ [some (Char.ofNat b.toNat)], none) := by
  have hfirst : readFirst b = ([some (Char.ofNat b.toNat)], none) := by
    simp only [readFirst, if_pos hb]
  rcases readByte_cases pending b with hread | ⟨p, rfl, hleast, -⟩
  · rw [hread, hfirst]
  · have := hpending p rfl
    omega

/-! ### Line feeds -/

/-- Whatever byte may follow in a character that has begun, it will come after the line feed. -/
def PastNewline (pending : Option Pending) : Prop :=
  ∀ p ∈ pending, 0x0A < p.bits * 64 + (p.least - 0x80)

theorem pastNewline_none : PastNewline none :=
  fun _ hp => by cases hp

/-- **Reading a byte keeps the invariant.** -/
theorem pastNewline_readByte (hpending : PastNewline pending) (b : UInt8) :
    PastNewline (readByte pending b).2 := by
  intro p hp
  rcases readByte_cases pending b with
    hread | ⟨q, rfl, hleast, hread | ⟨greatest, after, hread⟩⟩ <;> rw [hread] at hp
  · rcases readFirst_cases b with ⟨-, hread⟩ | ⟨-, hread⟩ | ⟨-, q, hread, -, hq⟩ <;>
      rw [hread] at hp <;> cases hp
    exact hq
  · cases hp
  · obtain rfl := Option.some.inj hp
    have hq := hpending q rfl
    dsimp only
    omega

theorem eq_of_ofNat_eq_newline {n : Nat} (h : Char.ofNat n = '\n') : n = 0x0A := by
  by_cases hvalid : n.isValidChar
  · rw [Char.ofNat, dif_pos hvalid] at h
    exact congrArg Char.toNat h
  · rw [Char.ofNat, dif_neg hvalid] at h
    cases h

/-- Only its byte completes a line feed. -/
theorem eq_of_newline_mem_readByte (hpending : PastNewline pending)
    (h : some '\n' ∈ (readByte pending b).1) : b = 0x0A := by
  rcases readByte_cases pending b with
    hread | ⟨q, rfl, hleast, hread | ⟨greatest, after, hread⟩⟩ <;> rw [hread] at h
  · have hfirst : some '\n' ∈ (readFirst b).1 := by
      simpa [unfinished] using h
    rcases readFirst_cases b with ⟨-, hread⟩ | ⟨-, hread⟩ | ⟨-, q, hread, -⟩ <;>
      rw [hread] at hfirst
    · have hb := eq_of_ofNat_eq_newline (Option.some.inj (List.mem_singleton.mp hfirst)).symm
      exact UInt8.toNat_inj.mp hb
    · simp at hfirst
    · cases hfirst
  · have hq := hpending q rfl
    have hbits := eq_of_ofNat_eq_newline (Option.some.inj (List.mem_singleton.mp h)).symm
    omega
  · cases h

/-! ### All bytes -/

/-- What has been read comes before what is still to be read. -/
theorem decodeFrom_eq (pending : Option Pending) (bytes : List UInt8) (read : List (Option Char)) :
    decodeFrom pending bytes read = read.reverse ++ decodeFrom pending bytes [] := by
  induction bytes generalizing pending read with
  | nil => cases pending <;> simp [decodeFrom]
  | cons b rest ih =>
    rw [decodeFrom, decodeFrom, ih, ih _ ((readByte pending b).1.reverseAux [])]
    simp [List.reverseAux_eq]

theorem decodeFrom_nil (pending : Option Pending) :
    decodeFrom pending [] [] = unfinished pending := by
  cases pending <;> rfl

theorem decodeFrom_cons (pending : Option Pending) (b : UInt8) (rest : List UInt8) :
    decodeFrom pending (b :: rest) [] =
      (readByte pending b).1 ++ decodeFrom (readByte pending b).2 rest [] := by
  rw [decodeFrom, decodeFrom_eq, List.reverseAux_eq, List.append_nil, List.reverse_reverse]

/-- Nothing is read only where there is nothing. -/
theorem eq_nil_of_decodeFrom_eq_nil {bytes : List UInt8} (h : decodeFrom pending bytes [] = []) :
    pending = none ∧ bytes = [] := by
  induction bytes generalizing pending with
  | nil =>
    cases pending with
    | none => exact ⟨rfl, rfl⟩
    | some p => cases h
  | cons b rest ih =>
    -- A byte of which no part is read leaves something pending.
    rw [decodeFrom_cons, List.append_eq_nil_iff] at h
    have hnone := (ih h.2).1
    rcases readByte_cases pending b with hread | ⟨p, -, -, hread | ⟨greatest, after, hread⟩⟩ <;>
      rw [hread] at h hnone
    · rcases readFirst_cases b with ⟨-, hfirst⟩ | ⟨-, hfirst⟩ | ⟨-, p, hfirst, -⟩ <;>
        simp [hfirst] at h hnone
    · cases h.1
    · cases hnone

theorem mem_of_newline_mem_decodeFrom {bytes : List UInt8} (hpending : PastNewline pending)
    (h : some '\n' ∈ decodeFrom pending bytes []) : 0x0A ∈ bytes := by
  induction bytes generalizing pending with
  | nil => cases pending <;> simp [decodeFrom_nil, unfinished] at h
  | cons b rest ih =>
    rw [decodeFrom_cons, List.mem_append] at h
    rcases h with h | h
    · rw [eq_of_newline_mem_readByte hpending h]
      exact List.mem_cons_self
    · exact List.mem_cons_of_mem _ (ih (pastNewline_readByte hpending b) h)

/-- A byte below 0x80 cuts the reading in two. -/
theorem decodeFrom_append_cons (hpending : OnlyHigh pending) (hb : b.toNat < 0x80)
    (before after : List UInt8) :
    decodeFrom pending (before ++ b :: after) [] =
      decodeFrom pending before [] ++ some (Char.ofNat b.toNat) :: decodeParts after := by
  induction before generalizing pending with
  | nil =>
    rw [List.nil_append, decodeFrom, readByte_ascii hpending hb, decodeFrom_eq, decodeFrom_nil]
    simp [List.reverseAux_eq, decodeParts]
  | cons a before ih =>
    rw [List.cons_append, decodeFrom, decodeFrom, decodeFrom_eq,
      decodeFrom_eq _ before, ih (onlyHigh_readByte pending a), List.append_assoc]

/-- **A byte below 0x80 is read as its character**, and what comes before it and after it is read
as if it stood by itself. -/
theorem decodeLossy_append_cons (before after : List UInt8) (hb : b.toNat < 0x80) :
    decodeLossy (before ++ b :: after) =
      decodeLossy before ++ Char.ofNat b.toNat :: decodeLossy after := by
  rw [decodeLossy, decodeParts, decodeFrom_append_cons onlyHigh_none hb]
  simp [decodeLossy, decodeParts]

/-- Bytes below 0x80 are read as their characters. -/
theorem decodeLossy_ascii_append {line : List UInt8} (hline : ∀ b ∈ line, b.toNat < 0x80)
    (after : List UInt8) :
    decodeLossy (line ++ after) = line.map (fun b => Char.ofNat b.toNat) ++ decodeLossy after := by
  induction line with
  | nil => rfl
  | cons b line ih =>
    have hrest : ∀ d ∈ line, d.toNat < 0x80 := fun d hd => hline d (List.mem_cons_of_mem _ hd)
    rw [List.cons_append, ← List.nil_append (b :: _),
      decodeLossy_append_cons [] _ (hline b (List.mem_cons_self ..)), ih hrest]
    rfl

/-- Of any bytes something is read. -/
theorem decodeLossy_eq_nil_iff {bytes : List UInt8} : decodeLossy bytes = [] ↔ bytes = [] := by
  constructor
  · intro hnil
    exact (eq_nil_of_decodeFrom_eq_nil (List.map_eq_nil_iff.mp hnil)).2
  · rintro rfl
    rfl

/-- **A line feed is read exactly where there is a byte 0x0A.** -/
theorem newline_mem_decodeLossy_iff {bytes : List UInt8} :
    '\n' ∈ decodeLossy bytes ↔ 0x0A ∈ bytes := by
  constructor
  · intro hmem
    obtain ⟨part, hpart, hchar⟩ := List.mem_map.mp hmem
    cases part with
    | none => exact absurd hchar (by decide)
    | some c =>
      obtain rfl : c = '\n' := hchar
      exact mem_of_newline_mem_decodeFrom pastNewline_none hpart
  · intro hmem
    obtain ⟨before, after, rfl⟩ := List.append_of_mem hmem
    rw [decodeLossy_append_cons before after (by decide)]
    exact List.mem_append_right _ List.mem_cons_self

/-- Where the last byte of a part is below 0x80, the next part is read as if by itself. -/
theorem decodeLossy_append {first : List UInt8} (hfirst : ∀ b ∈ first.getLast?, b.toNat < 0x80)
    (second : List UInt8) :
    decodeLossy (first ++ second) = decodeLossy first ++ decodeLossy second := by
  rcases List.eq_nil_or_concat first with rfl | ⟨front, b, rfl⟩
  · rfl
  · rw [List.concat_eq_append] at hfirst ⊢
    have hb : b.toNat < 0x80 := hfirst b (by simp)
    rw [List.append_assoc, List.singleton_append, decodeLossy_append_cons front second hb,
      decodeLossy_append_cons front [] hb, List.append_assoc]
    rfl

/-! ### What has been written -/

/-- The bytes that are collected from a place on. -/
theorem toList_loop (bytes : ByteArray) (i : Nat) (front : List UInt8) :
    ByteArray.toList.loop bytes i front = front.reverse ++ bytes.data.toList.drop i := by
  by_cases hi : i < bytes.size
  · have hdrop : bytes.data.toList.drop i = bytes.get! i :: bytes.data.toList.drop (i + 1) := by
      rw [List.drop_eq_getElem_cons hi, Array.getElem_toList, ByteArray.get!,
        getElem!_pos bytes.data i hi]
    rw [ByteArray.toList.loop, if_pos hi, toList_loop bytes (i + 1), hdrop, List.reverse_cons,
      List.append_assoc]
    rfl
  · have hdrop : bytes.data.toList.drop i = [] := List.drop_eq_nil_of_le (Nat.le_of_not_lt hi)
    rw [ByteArray.toList.loop, if_neg hi, hdrop, List.append_nil]
termination_by bytes.size - i

theorem encode_eq (text : String) : encode text = text.toByteArray.data.toList :=
  toList_loop text.toByteArray 0 []

theorem encode_append (text other : String) :
    encode (text ++ other) = encode text ++ encode other := by
  rw [encode_eq, encode_eq, encode_eq, String.toByteArray_append, ByteArray.toList_data_append]

/-- A character below 0x80 is written as one byte. -/
theorem encode_of_ascii {text : List Char} (h : ∀ c ∈ text, c.toNat < 0x80) :
    encode (String.ofList text) = text.map fun c => c.val.toUInt8 := by
  rw [encode_eq, String.toByteArray_ofList]
  induction text with
  | nil => rfl
  | cons c text ih =>
    have hsize : c.utf8Size = 1 := by
      rw [Char.utf8Size_eq_one_iff, UInt32.le_iff_toNat_le]
      exact Nat.le_of_lt_succ (h c List.mem_cons_self)
    rw [List.utf8Encode_cons, List.utf8Encode_singleton, String.utf8EncodeChar_eq_singleton hsize,
      ByteArray.toList_data_append, ih fun d hd => h d (List.mem_cons_of_mem _ hd),
      List.toList_data_toByteArray]
    rfl

/-- **Characters below 0x80 are read as they were written.** -/
theorem decodeLossy_encode_of_ascii {text : List Char} (h : ∀ c ∈ text, c.toNat < 0x80) :
    decodeLossy (encode (String.ofList text)) = text := by
  have hbyte : ∀ c ∈ text, c.val.toUInt8.toNat = c.toNat := by
    intro c hc
    have hsmall := h c hc
    show c.toNat % 256 = c.toNat
    omega
  rw [encode_of_ascii h, ← List.append_nil (text.map _), decodeLossy_ascii_append]
  · rw [List.map_map, show decodeLossy [] = [] from rfl, List.append_nil]
    refine (List.map_congr_left fun c hc => ?_).trans (List.map_id text)
    show Char.ofNat c.val.toUInt8.toNat = c
    rw [hbyte c hc]
    exact Char.ofNat_toNat c
  · intro b hb
    obtain ⟨c, hc, rfl⟩ := List.mem_map.mp hb
    rw [hbyte c hc]
    exact h c hc

end PluginSweep.Text

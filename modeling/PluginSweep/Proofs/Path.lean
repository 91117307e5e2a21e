/-
PluginSweep/Proofs/Path.lean

Names joined by slashes.  Names that can be those of entries, and have no slash
in them, are read back from the text that joins them (`ofString_intercalate`).
-/
import PluginSweep.Proofs.FileSystem.Step

namespace PluginSweep.Path

variable {names : List String}

/-- The names can be those of entries, and have no slash in them. -/
def Joinable (names : List String) : Prop :=
  ∀ name ∈ names, Proper name ∧ '/' ∉ name.toList

theorem Joinable.append {more : List String} (h : Joinable names) (hmore : Joinable more) :
    Joinable (names ++ more) := by
  intro name hname
  rcases List.mem_append.mp hname with hname | hname
  · exact h name hname
  · exact hmore name hname

theorem splitSlashes_intercalate (h : Joinable names) (hne : names ≠ []) :
    splitSlashes ("/".intercalate names) = names := by
  have hslash : ∀ l ∈ names.map String.toList, '/' ∉ l := by
    intro l hl
    obtain ⟨name, hname, rfl⟩ := List.mem_map.mp hl
    exact (h name hname).2
  rw [splitSlashes, String.toList_intercalate]
  show (List.splitOn '/' (['/'].intercalate (names.map String.toList))).map String.ofList = names
  rw [List.splitOn_intercalate '/' hslash (by simpa using hne), List.map_map]
  simp [Function.comp_def]

/-- The text starts with a name, and so not with a slash. -/
theorem anchorOf_intercalate (h : Joinable names) (hne : names ≠ []) :
    anchorOf ("/".intercalate names) = "" := by
  obtain ⟨name, rest, rfl⟩ := List.exists_cons_of_ne_nil hne
  obtain ⟨hproper, hslash⟩ := h name (List.mem_cons_self ..)
  obtain ⟨c, cs, hname⟩ : ∃ c cs, name.toList = c :: cs := by
    refine List.exists_cons_of_ne_nil fun hnil => ?_
    rw [String.toList_eq_nil_iff.mp hnil] at hproper
    exact absurd hproper (by decide)
  have hc : (c == '/') = false := by
    rw [hname] at hslash
    exact beq_eq_false_iff_ne.mpr fun heq => hslash (heq ▸ List.mem_cons_self ..)
  have hnone : ("/".intercalate (name :: rest)).toList.takeWhile (· == '/') = [] := by
    rw [String.toList_intercalate, List.map_cons, hname]
    cases rest with
    | nil => simp [hc]
    | cons next rest => simp [hc]
  rw [anchorOf, hnone]
  rfl

/-- Names joined by slashes are read back. -/
theorem ofString_intercalate (h : Joinable names) (hne : names ≠ []) :
    ofString ("/".intercalate names) = ⟨"", names⟩ := by
  rw [ofString, anchorOf_intercalate h hne, splitSlashes_intercalate h hne]
  congr 1
  refine List.filter_eq_self.mpr fun name hname => ?_
  have hproper := (h name hname).1
  simp only [Proper, List.mem_cons, List.not_mem_nil, or_false, not_or] at hproper
  simp [hproper]

/-- A relative path is read back from its text, and so is the path without names. -/
theorem ofString_toString (h : Joinable names) :
    ofString (⟨"", names⟩ : Path).toString = ⟨"", names⟩ := by
  by_cases hnil : names = []
  · rw [hnil]
    decide +kernel
  · rw [toString, if_neg (by simp [hnil]), String.empty_append, ofString_intercalate h hnil]

/-- Joined names that are the same text are the same names. -/
theorem intercalate_inj {names' : List String} (h : Joinable names) (h' : Joinable names')
    (hne : names ≠ []) (hne' : names' ≠ [])
    (heq : "/".intercalate names = "/".intercalate names') : names = names' := by
  rw [← splitSlashes_intercalate h hne, heq, splitSlashes_intercalate h' hne']

/-- The path of the joined names in a directory. -/
theorem child_intercalate (p : Path) (h : Joinable names) (hne : names ≠ []) :
    p.child ("/".intercalate names) = ⟨p.anchor, p.names ++ names⟩ := by
  rw [child, ofString_intercalate h hne]
  rfl

/-! ### Suffixes of names -/

/-- What follows the last dot of a name that has something before it and after it. -/
theorem suffixOf_eq {name : String} {before ext : List Char}
    (hname : name.toList = before ++ '.' :: ext) (hbefore : before ≠ []) (hext : ext ≠ [])
    (hdot : '.' ∉ ext) : suffixOf name = "." ++ String.ofList ext := by
  have hafter : name.toList.reverse.takeWhile (· != '.') = ext.reverse := by
    have hall : ∀ c ∈ ext.reverse, (c != '.') = true := by
      intro c hc
      refine bne_iff_ne.mpr fun heq => hdot ?_
      exact heq ▸ List.mem_reverse.mp hc
    rw [hname, List.reverse_append, List.reverse_cons, List.append_assoc, List.singleton_append,
      List.takeWhile_append_of_pos hall, List.takeWhile_cons_of_neg (by simp), List.append_nil]
  have hlength : ¬ name.length - ext.length ≤ 1 := by
    have hpos := List.length_pos_iff.mpr hbefore
    rw [← String.length_toList, hname, List.length_append, List.length_cons]
    omega
  simp only [suffixOf, hafter, List.isEmpty_reverse, List.length_reverse, List.reverse_reverse]
  rw [if_neg]
  simp [hext, hlength]

end PluginSweep.Path

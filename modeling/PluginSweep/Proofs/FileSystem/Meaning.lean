/-
PluginSweep/Proofs/FileSystem/Meaning.lean

What the text of a path means.  A text means the place that its path denotes, once a
home directory has been put in front (`Means`).  Where the operating system leads the
text itself, with its dots, its repeated slashes and its slash at the end, it means that
place (`means_of_traceFrom`).  A text that means a place is resolved to the path of the
place, however it is spelled (`resolve_of_means`).

In a tree in which every entry stands in a directory, the text of the path of a directory
means that directory (`Lawful.means_toString`).
-/
import PluginSweep.Proofs.FileSystem.Denotes
import PluginSweep.Proofs.FileSystem.Resolved

namespace PluginSweep

/-! ### Characters of names -/

namespace Path

variable {names : List String} {c : Char}

theorem mem_intercalate {sep : List Char} {parts : List (List Char)}
    (h : c ∈ sep.intercalate parts) : c ∈ sep ∨ ∃ part ∈ parts, c ∈ part := by
  induction parts with
  | nil => cases h
  | cons part rest ih =>
    cases rest with
    | nil =>
      rw [List.intercalate_singleton] at h
      exact .inr ⟨part, List.mem_cons_self, h⟩
    | cons next rest =>
      rw [List.intercalate_cons_cons, List.mem_append, List.mem_append] at h
      rcases h with (h | h) | h
      · exact .inr ⟨part, List.mem_cons_self, h⟩
      · exact .inl h
      · refine (ih h).imp_right ?_
        rintro ⟨other, hother, hc⟩
        exact ⟨other, List.mem_cons_of_mem _ hother, hc⟩

theorem mem_intercalate_of_mem {sep part : List Char} {parts : List (List Char)}
    (hpart : part ∈ parts) (hc : c ∈ part) : c ∈ sep.intercalate parts := by
  induction parts with
  | nil => cases hpart
  | cons first rest ih =>
    cases rest with
    | nil =>
      rw [List.intercalate_singleton, ← List.mem_singleton.mp hpart]
      exact hc
    | cons next rest =>
      rw [List.intercalate_cons_cons, List.mem_append, List.mem_append]
      rcases List.mem_cons.mp hpart with rfl | hpart
      · exact .inl (.inl hc)
      · exact .inr (ih hpart)

/-- No name has a NUL in it. -/
def NulFree (names : List String) : Prop :=
  ∀ name ∈ names, '\x00' ∉ name.toList

theorem NulFree.subset {names' : List String} (h : NulFree names) (hsub : names' ⊆ names) :
    NulFree names' :=
  fun name hname => h name (hsub hname)

theorem NulFree.append {names' : List String} (h : NulFree names) (h' : NulFree names') :
    NulFree (names ++ names') :=
  fun name hname => (List.mem_append.mp hname).elim (h name) (h' name)

theorem nulFree_ofString {s : String} (h : '\x00' ∉ s.toList) : NulFree (ofString s).names := by
  intro name hname
  obtain ⟨part, hpart, rfl⟩ := List.mem_map.mp (List.mem_filter.mp hname).1
  rw [String.toList_ofList]
  have hjoin : ['/'].intercalate (s.toList.splitOn '/') = s.toList := List.intercalate_splitOn '/'
  rw [← hjoin] at h
  exact fun hnul => h (mem_intercalate_of_mem hpart hnul)

/-- The path that a text denotes has one of three anchors. -/
theorem anchorOf_mem (s : String) : anchorOf s ∈ ["", "//", "/"] := by
  rw [anchorOf]
  split
  · decide
  · split <;> decide

theorem anchorOf_eq_empty_iff {s : String} :
    anchorOf s = "" ↔ s.toList.takeWhile (· == '/') = [] := by
  rw [anchorOf]
  rcases s.toList.takeWhile (· == '/') with - | ⟨first, rest⟩
  · simp
  · simp only [List.length_cons, Nat.add_one_ne_zero, beq_iff_eq, if_false, reduceCtorEq, iff_false]
    split <;> decide

/-- The path of a text starts at the root if and only if the text starts with a slash. -/
theorem isAbsolute_ofString (s : String) : (ofString s).isAbsolute = s.startsWith "/" := by
  have hfirst : s.startsWith "/" = true ↔ s.toList.takeWhile (· == '/') ≠ [] := by
    rw [String.startsWith_string_iff]
    show ['/'] <+: s.toList ↔ _
    rcases s.toList with - | ⟨first, rest⟩
    · simp
    · by_cases hslash : first = '/'
      · rw [hslash, List.takeWhile_cons_of_pos (by decide)]
        exact iff_of_true (List.prefix_append ['/'] rest) (List.cons_ne_nil _ _)
      · rw [List.takeWhile_cons_of_neg (by simpa using hslash)]
        refine iff_of_false (fun hprefix => hslash ?_) (not_not_intro rfl)
        exact (List.cons_prefix_cons.mp hprefix).1.symm
  rw [Bool.eq_iff_iff, hfirst, isAbsolute, bne_iff_ne, ofString, Ne, anchorOf_eq_empty_iff]

/-- One slash in front of the text of a relative path makes it absolute. -/
theorem ofString_slash {s : String} (h : anchorOf s = "") :
    ofString ("/" ++ s) = ⟨"/", (ofString s).names⟩ := by
  have htext : ("/" ++ s).toList = [] ++ '/' :: s.toList := by
    rw [String.toList_append]
    rfl
  have hanchor : anchorOf ("/" ++ s) = "/" := by
    rw [anchorOf, htext, List.nil_append, List.takeWhile_cons_of_pos (by decide),
      anchorOf_eq_empty_iff.mp h]
    rfl
  have hsplit : splitSlashes ("/" ++ s) = "" :: splitSlashes s := by
    rw [splitSlashes, htext, List.splitOn_append_cons_self]
    rfl
  rw [ofString, hanchor, hsplit]
  rfl

/-- An absolute path is read back from its text. -/
theorem ofString_toString_pathOf (h : Joinable names) :
    ofString (FileSystem.pathOf names).toString = FileSystem.pathOf names := by
  by_cases hnil : names = []
  · rw [hnil]
    decide +kernel
  · rw [FileSystem.pathOf, toString, if_neg (by simp), ofString_slash (anchorOf_intercalate h hnil),
      ofString_intercalate h hnil]

end Path

open PluginSweep.Path

namespace FileSystem

variable {fs : FileSystem} {links : Nat} {here there loc : Location} {names : List String}
  {given : String} {p : Path}

theorem admits_of_nulFree (hanchor : p.anchor ∈ ["", "//", "/"]) (h : NulFree p.names) :
    admits p = true := by
  have hanchor' : '\x00' ∉ p.anchor.toList := by
    revert hanchor
    generalize p.anchor = anchor
    revert anchor
    decide
  have hnone : '\x00' ∉ p.toString.toList := by
    rw [Path.toString]
    split
    · decide
    · rw [String.toList_append, String.toList_intercalate, List.mem_append]
      rintro (hnul | hnul)
      · exact hanchor' hnul
      · rcases mem_intercalate hnul with hnul | ⟨part, hpart, hnul⟩
        · revert hnul
          decide
        · obtain ⟨name, hname, rfl⟩ := List.mem_map.mp hpart
          exact h name hname hnul
  simp [admits, hnone]

theorem isAbsolute_pathOf (loc : Location) : (pathOf loc).isAbsolute = true := by
  show ("/" != "") = true
  decide

theorem admits_pathOf (h : NulFree loc) : admits (pathOf loc) = true :=
  admits_of_nulFree (List.mem_cons_of_mem _ (List.mem_cons_of_mem _ List.mem_cons_self)) h

/-! ### What a text means -/

/-- The text that a user gives means the place: the path of the text, with a home directory in
front if it starts with one, denotes it. -/
def Means (fs : FileSystem) (given : String) (loc : Location) : Prop :=
  ∃ p links, fs.expandHome (Path.ofString given) = .ok p ∧ admits p = true ∧
    fs.Denotes links (if p.isAbsolute then [] else fs.cwd) p.names loc

/-- A text means at most one place. -/
theorem Means.unique {loc' : Location} (h : fs.Means given loc) (h' : fs.Means given loc') :
    loc' = loc := by
  obtain ⟨p, links, hexpand, -, hdenotes⟩ := h
  obtain ⟨p', links', hexpand', -, hdenotes'⟩ := h'
  obtain rfl := Except.ok.inj (hexpand.symm.trans hexpand')
  exact (hdenotes.unique hdenotes').2

/-- Names denote the same without those that are skipped. -/
theorem Denotes.filter (h : fs.Denotes links here names there) :
    fs.Denotes links here (names.filter fun name => name != "" && name != ".") there := by
  have hkeep : ∀ {name : String} (rest : List String), Proper name →
      (name :: rest).filter (fun name => name != "" && name != ".") =
        name :: rest.filter (fun name => name != "" && name != ".") := by
    intro name rest hname
    have hskip := (proper_iff.mp hname).1
    simp only [Bool.or_eq_true, beq_iff_eq, not_or] at hskip
    simp [hskip]
  induction h with
  | nil => exact .nil
  | @skip links here there name rest hskip _ ih =>
    simp only [Bool.or_eq_true, beq_iff_eq] at hskip
    rw [List.filter_cons_of_neg (by simpa [← or_iff_not_imp_left] using hskip)]
    exact ih
  | up _ ih =>
    rw [List.filter_cons_of_pos (by decide)]
    exact .up ih
  | enter hname hlink _ ih =>
    rw [hkeep _ hname]
    exact .enter hname hlink ih
  | link hname hlink hmid _ _ ih =>
    rw [hkeep _ hname]
    exact .link hname hlink hmid ih

/-- **A text means the place to which it leads**, unless it starts with a home directory. -/
theorem means_of_traceFrom (hnul : '\x00' ∉ given.toList)
    (hhome : fs.expandHome (Path.ofString given) = .ok (Path.ofString given))
    (h : fs.traceFrom .target linkLimit (startOf given fs.cwd) (splitSlashes given) = .ok loc) :
    fs.Means given loc := by
  obtain ⟨links, hdenotes⟩ := denotes_of_traceFrom h
  refine ⟨Path.ofString given, links, hhome,
    admits_of_nulFree (anchorOf_mem given) (nulFree_ofString hnul), ?_⟩
  rw [isAbsolute_ofString]
  exact hdenotes.filter

/-! ### How a text is resolved -/

theorem follow_ne_linkLoop {detour : Location → List String → Except OsCause Location}
    (here : Location) (h : fs.Direct (here ++ names)) :
    fs.follow .target detour here names ≠ .error .linkLoop := by
  induction names generalizing here with
  | nil => exact fun hloop => by cases hloop
  | cons name rest ih =>
    rw [List.append_cons] at h
    have hname : Proper name :=
      h.proper name (List.mem_append_left _ (List.mem_append_right _ List.mem_cons_self))
    rcases hhere : fs.node? here with - | (bytes | - | target)
    · rw [follow, hhere]
      exact fun hloop => by cases hloop
    · rw [follow, hhere]
      exact fun hloop => by cases hloop
    · -- No name on the way is that of a link.
      rw [follow_proper hhere hname]
      split
      · exact fun hloop => by cases hloop
      · split
        · exact absurd ‹_› (h.linkless _ (List.prefix_append _ _) _)
        · exact ih _ h
        · split <;> exact fun hloop => by cases hloop
    · refine absurd hhere (h.linkless _ ?_ _)
      rw [List.append_assoc]
      exact List.prefix_append _ _

/-- The path of a place without links on its way meets no loop of links. -/
theorem Direct.trace_ne_linkLoop (h : fs.Direct loc) :
    fs.trace .target (pathOf loc) ≠ .error .linkLoop := by
  rw [trace]
  split
  · exact fun hloop => by cases hloop
  · rw [if_pos (isAbsolute_pathOf loc)]
    exact follow_ne_linkLoop [] h

/-- A path that denotes a place has the path of the place as its canonical form. -/
theorem canonical_of_denotes (hadmits : admits p = true)
    (hhere : fs.Direct (if p.isAbsolute then [] else fs.cwd))
    (h : fs.Denotes links (if p.isAbsolute then [] else fs.cwd) p.names loc) :
    fs.canonical p = .ok (pathOf loc) :=
  canonical_eq_ok_iff.mpr
    ⟨hadmits, realPath_of_denotes hhere h, (h.direct hhere).trace_ne_linkLoop⟩

/-- The path of a place without links on its way is its own canonical form. -/
theorem Direct.canonical (h : fs.Direct loc) (hnul : NulFree loc) :
    fs.canonical (pathOf loc) = .ok (pathOf loc) := by
  refine canonical_of_denotes (admits_pathOf hnul) ?_ (h.denotes)
  rw [if_pos (isAbsolute_pathOf loc)]
  exact direct_nil

theorem Direct.start (hcwd : fs.Direct fs.cwd) (p : Path) :
    fs.Direct (if p.isAbsolute then [] else fs.cwd) := by
  split
  · exact direct_nil
  · exact hcwd

theorem Means.direct (hcwd : fs.Direct fs.cwd) (h : fs.Means given loc) : fs.Direct loc := by
  obtain ⟨p, links, -, -, hdenotes⟩ := h
  exact hdenotes.direct (hcwd.start p)

/-- **A text that means a place is resolved to the path of the place.** -/
theorem resolve_of_means (hcwd : fs.Direct fs.cwd) (h : fs.Means given loc) :
    fs.resolve given = .ok (pathOf loc) := by
  obtain ⟨p, links, hexpand, hadmits, hdenotes⟩ := h
  rw [resolve, hexpand]
  exact canonical_of_denotes hadmits (hcwd.start p) hdenotes

/-! ### Lawful file systems -/

/-- What holds of every file system: its entries are well-formed, have no NUL in their names, and
stand in directories. -/
structure Lawful (fs : FileSystem) : Prop extends WellFormed fs, Connected fs where
  nulFree : ∀ e ∈ fs.entries, NulFree e.1

theorem Direct.of_through (h : fs.Through [] loc) : fs.Direct loc := by
  refine ⟨h.1, fun init hinit target hnode => ?_⟩
  cases hnode.symm.trans (h.2 init hinit)

/-- A directory is in directories, all the way from the root. -/
theorem Lawful.through (hfs : fs.Lawful) (h : fs.node? loc = some .directory) :
    fs.Through [] loc :=
  (hfs.toWellFormed.grounded hfs.toConnected).through h

theorem Lawful.direct_cwd (hfs : fs.Lawful) : fs.Direct fs.cwd :=
  .of_through (hfs.through hfs.cwd)

theorem Lawful.joinable_of_node? (hfs : fs.Lawful) {node : Node} (h : fs.node? loc = some node) :
    Joinable loc := by
  by_cases hloc : loc = []
  · rw [hloc]
    exact fun name hname => absurd hname List.not_mem_nil
  · exact hfs.joinable _ (mem_entries_of_node? hloc h)

theorem Lawful.nulFree_of_node? (hfs : fs.Lawful) {node : Node} (h : fs.node? loc = some node) :
    NulFree loc := by
  by_cases hloc : loc = []
  · rw [hloc]
    exact fun name hname => absurd hname List.not_mem_nil
  · exact hfs.nulFree _ (mem_entries_of_node? hloc h)

/-- The text of the path of a directory means the directory. -/
theorem Lawful.means_toString (hfs : fs.Lawful) (h : fs.node? loc = some .directory) :
    fs.Means (pathOf loc).toString loc := by
  refine ⟨pathOf loc, 0, ?_, admits_pathOf (hfs.nulFree_of_node? h), ?_⟩
  · rw [ofString_toString_pathOf (hfs.joinable_of_node? h)]
    rfl
  · exact (Direct.of_through (hfs.through h)).denotes

end FileSystem

end PluginSweep

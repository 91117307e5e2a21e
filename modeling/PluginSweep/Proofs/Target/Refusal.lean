/-
PluginSweep/Proofs/Target/Refusal.lean

Why a text is no plugin.  Where nothing is or no directory is, the plugin is missing
(`Missing`).  But a text without NUL can go astray before that is known (`Astray`): it
starts with the home directory of a user who has none, it means no place since it runs
into a loop of links, or a path or a name that it leads through is too long.  Nothing
else can happen (`resolve_cases`), and what goes astray is never said to be missing
(`resolve_of_astray`).
-/
import PluginSweep.Proofs.Target.Canonical

namespace PluginSweep

open PluginSweep.Path

namespace FileSystem

variable {fs : FileSystem} {here loc : Location} {names : List String} {given : String}
  {p : Path} {e : PathError}

/-! ### Names that are too long -/

/-- One of the names is longer than a name may be. -/
def HasLongName (names : List String) : Prop :=
  ∃ name ∈ names, name.utf8ByteSize > nameLimit

/-- A link of the tree leads through a name that is too long. -/
def HasLongLink (fs : FileSystem) : Prop :=
  ∃ loc target, fs.node? loc = some (.link target) ∧ HasLongName (splitSlashes target)

theorem HasLongName.of_subset {names' : List String} (h : HasLongName names)
    (hsub : names ⊆ names') : HasLongName names' := by
  obtain ⟨name, hname, hlong⟩ := h
  exact ⟨name, hsub hname, hlong⟩

theorem hasLong_of_follow {detour : Location → List String → Except OsCause Location}
    (hdetour : ∀ here names, detour here names = .error .nameTooLong →
      HasLongName names ∨ fs.HasLongLink)
    (h : fs.follow .target detour here names = .error .nameTooLong) :
    HasLongName names ∨ fs.HasLongLink := by
  induction names generalizing here with
  | nil => cases h
  | cons name rest ih =>
    -- A long name among those that are left is one of all.
    have hrest : ∀ {there}, fs.follow .target detour there rest = .error .nameTooLong →
        HasLongName (name :: rest) ∨ fs.HasLongLink := fun hthere =>
      (ih hthere).imp_left fun hlong => hlong.of_subset (List.subset_cons_self _ _)
    rcases hhere : fs.node? here with - | (bytes | - | target)
    · rw [follow, hhere] at h
      cases h
    · rw [follow, hhere] at h
      cases h
    · by_cases hskip : (name == "" || name == ".") = true
      · rw [follow_skip hhere hskip] at h
        exact hrest h
      · by_cases hup : (name == "..") = true
        · rw [beq_iff_eq.mp hup, follow_up hhere] at h
          exact hrest h
        · rw [follow_proper hhere (proper_iff.mpr ⟨hskip, hup⟩)] at h
          split at h
          · exact .inl ⟨name, List.mem_cons_self, ‹_›⟩
          · split at h
            · rename_i target hnode
              -- The name that is too long stands in the link or behind it.
              rcases hdetour _ _ h with ⟨long, hmem, hlong⟩ | hlink
              · rcases List.mem_append.mp hmem with hmem | hmem
                · exact .inr ⟨_, target, hnode, long, hmem, hlong⟩
                · exact .inl ⟨long, List.mem_cons_of_mem _ hmem, hlong⟩
              · exact .inr hlink
            · exact hrest h
            · split at h <;> cases h
    · rw [follow, hhere] at h
      cases h

theorem hasLong_of_traceFrom {links : Nat}
    (h : fs.traceFrom .target links here names = .error .nameTooLong) :
    HasLongName names ∨ fs.HasLongLink := by
  induction links generalizing here names with
  | zero => exact hasLong_of_follow (fun _ _ hloop => by cases hloop) h
  | succ fewer ih => exact hasLong_of_follow (fun _ _ => ih) h

/-- A path is refused for a length only if its text is too long, or a name in it, or a name in the
target of a link. -/
theorem hasLong_of_locate (h : fs.locate p = .error .nameTooLong) :
    p.toString.utf8ByteSize > pathLimit ∨ HasLongName p.names ∨ fs.HasLongLink := by
  rw [locate] at h
  split at h
  · rename_i cause htrace
    obtain rfl := Except.error.inj h
    rw [trace] at htrace
    split at htrace
    · exact .inl ‹_›
    · exact .inr (hasLong_of_traceFrom htrace)
  · split at h <;> cases h

/-! ### Paths without a canonical form -/

theorem canonical_eq_error_iff (hadmits : admits p = true) :
    fs.canonical p = .error e ↔
      fs.locate (fs.realPath p) = .error .linkLoop ∧ e = .linkLoop (fs.realPath p).toString := by
  constructor
  · intro h
    rw [canonical, hadmits, if_neg (by simp)] at h
    dsimp only at h
    split at h
    · obtain rfl := Except.error.inj h
      exact ⟨‹_›, rfl⟩
    · cases h
  · rintro ⟨hloop, rfl⟩
    rw [canonical, hadmits, if_neg (by simp)]
    dsimp only
    rw [hloop]

/-- A text starts with the home directory of a user who has none. -/
def Homeless (fs : FileSystem) (given : String) : Prop :=
  (Path.ofString given).isAbsolute = false ∧ ∃ name rest,
    (Path.ofString given).names = name :: rest ∧ name.startsWith "~" = true ∧
      fs.homes.lookup (name.drop 1).toString = none

theorem expandHome_of_homeless (hadmits : admits (Path.ofString given) = true)
    (h : fs.Homeless given) : fs.expandHome (Path.ofString given) = .error .unknownHome := by
  obtain ⟨hrelative, name, rest, hnames, htilde, hnone⟩ := h
  rw [expandHome, hrelative, hnames, hadmits]
  simp only [htilde, hnone, Bool.not_true, Bool.false_eq_true, if_false, if_true]

/-- A text without NUL has a path without NUL, or starts with the home directory of a user who has
none. -/
theorem expandHome_cases (hhomes : ∀ home ∈ fs.homes, '\x00' ∉ home.2.toList)
    (hnul : '\x00' ∉ given.toList) :
    (∃ p, fs.expandHome (Path.ofString given) = .ok p ∧ admits p = true) ∨
      (fs.expandHome (Path.ofString given) = .error .unknownHome ∧ fs.Homeless given) := by
  have hfree : NulFree (Path.ofString given).names := nulFree_ofString hnul
  have hadmits : admits (Path.ofString given) = true :=
    admits_of_nulFree (anchorOf_mem given) hfree
  rw [expandHome]
  split
  · rename_i name rest hrelative hnames
    split
    · rename_i htilde
      rw [hadmits]
      simp only [Bool.not_true, Bool.false_eq_true, if_false]
      split
      · -- The user has a home, and the rest of the text follows it.
        rename_i home hhome
        left
        obtain ⟨before, after, hsplit, -⟩ := List.lookup_eq_some_iff.mp hhome
        have hmem : ((name.drop 1).toString, home) ∈ fs.homes := by
          rw [hsplit]
          exact List.mem_append_right _ List.mem_cons_self
        rw [hnames] at hfree
        refine ⟨_, rfl, ?_⟩
        show admits ⟨anchorOf home, (Path.ofString home).names ++ rest⟩ = true
        exact admits_of_nulFree (anchorOf_mem home)
          ((nulFree_ofString (hhomes _ hmem)).append (hfree.subset (List.subset_cons_self _ _)))
      · -- The user has none.
        rename_i hnone
        exact .inr ⟨rfl, hrelative, name, rest, hnames, htilde, hnone⟩
    · exact .inl ⟨_, rfl, hadmits⟩
  · exact .inl ⟨_, rfl, hadmits⟩

end FileSystem

namespace Target

open FileSystem (pathOf)

variable {fs : FileSystem} {given : String} {t : Target} {loc : Location} {p : Path}

/-! ### Missing plugins -/

/-- The text is resolved to a path, but nothing is there, or what is there is no directory. -/
inductive Missing (fs : FileSystem) (given : String) : TargetError → Prop
  | absent {p : Path} {cause : OsCause} (hresolve : fs.resolve given = .ok p)
      (hnone : fs.locate p = .error cause) (hcause : cause ≠ .nameTooLong) :
      Missing fs given (.absent p)
  | noDirectory {p : Path} {loc : Location} {node : Node} (hresolve : fs.resolve given = .ok p)
      (hlocate : fs.locate p = .ok (loc, node)) (hnode : node ≠ .directory) :
      Missing fs given (.noDirectory p)

/-- The text goes astray: it starts with the home directory of a user who has none; or it means no
place and runs into a loop of links; or it is resolved to a path which is too long, or leads
through a name that is. -/
inductive Astray (fs : FileSystem) (given : String) : FileSystem.PathError → Prop
  | homeless (hhome : fs.Homeless given) : Astray fs given .unknownHome
  | looped {p : Path} (hexpand : fs.expandHome (Path.ofString given) = .ok p)
      (hloop : fs.locate (fs.realPath p) = .error .linkLoop)
      (hnowhere : ∀ loc, ¬ fs.Means given loc) :
      Astray fs given (.linkLoop (fs.realPath p).toString)
  | tooLong {p : Path} (hresolve : fs.resolve given = .ok p)
      (hrefused : fs.locate p = .error .nameTooLong)
      (hlong : p.toString.utf8ByteSize > FileSystem.pathLimit ∨
        FileSystem.HasLongName p.names ∨ fs.HasLongLink) :
      Astray fs given (.refused (.about .nameTooLong p.toString))

theorem resolve_of_error {e : FileSystem.PathError} (h : fs.resolve given = .error e) :
    resolve fs given = .error (.path e) := by
  rw [resolve, h]

theorem resolve_of_tooLong (hresolve : fs.resolve given = .ok p)
    (hrefused : fs.locate p = .error .nameTooLong) :
    resolve fs given = .error (.path (.refused (.about .nameTooLong p.toString))) := by
  rw [resolve, hresolve]
  dsimp only
  rw [hrefused]

/-- A plugin that is missing is said to be missing. -/
theorem resolve_of_missing {e : TargetError} (h : Missing fs given e) :
    resolve fs given = .error e := by
  cases h with
  | @absent p cause hresolve hnone hcause =>
    rw [resolve, hresolve]
    dsimp only
    rw [hnone]
    cases cause with
    | nameTooLong => exact absurd rfl hcause
    | _ => rfl
  | @noDirectory p loc node hresolve hlocate hnode =>
    rw [resolve, hresolve]
    dsimp only
    rw [hlocate]
    cases node with
    | directory => exact absurd rfl hnode
    | file bytes => rfl
    | link target => rfl

/-- A text that goes astray is refused for that. -/
theorem resolve_of_astray (hhomes : ∀ home ∈ fs.homes, '\x00' ∉ home.2.toList)
    (hnul : '\x00' ∉ given.toList) {e : FileSystem.PathError} (h : Astray fs given e) :
    resolve fs given = .error (.path e) := by
  cases h with
  | homeless hhome =>
    apply resolve_of_error
    rw [FileSystem.resolve, FileSystem.expandHome_of_homeless
      (FileSystem.admits_of_nulFree (anchorOf_mem given) (nulFree_ofString hnul)) hhome]
    rfl
  | @looped p hexpand hloop _ =>
    apply resolve_of_error
    rcases FileSystem.expandHome_cases hhomes hnul with ⟨q, hq, hadmits⟩ | ⟨hnone, -⟩
    · obtain rfl := Except.ok.inj (hq.symm.trans hexpand)
      rw [FileSystem.resolve, hexpand]
      exact (FileSystem.canonical_eq_error_iff hadmits).mpr ⟨hloop, rfl⟩
    · cases hnone.symm.trans hexpand
  | tooLong hresolve hrefused _ => exact resolve_of_tooLong hresolve hrefused

/-- What the text is that is given, when it is resolved to a path. -/
theorem resolve_cases_of_ok (hresolve : fs.resolve given = .ok p) :
    (∃ t, resolve fs given = .ok t ∧ fs.isDirectory t.root = true) ∨
      (∃ e, resolve fs given = .error e ∧ Missing fs given e) ∨
      ∃ e, resolve fs given = .error (.path e) ∧ Astray fs given e := by
  rcases hlocate : fs.locate p with cause | ⟨loc, node⟩
  · by_cases hcause : cause = .nameTooLong
    · subst hcause
      exact .inr (.inr ⟨_, resolve_of_tooLong hresolve hlocate,
        .tooLong hresolve hlocate (FileSystem.hasLong_of_locate hlocate)⟩)
    · have hmissing : Missing fs given (.absent p) := .absent hresolve hlocate hcause
      exact .inr (.inl ⟨_, resolve_of_missing hmissing, hmissing⟩)
  · by_cases hnode : node = .directory
    · subst hnode
      refine .inl ⟨⟨p, p.name⟩, resolve_eq_ok_iff.mpr ⟨p, loc, hresolve, hlocate, rfl⟩, ?_⟩
      rw [FileSystem.isDirectory, hlocate]
    · have hmissing : Missing fs given (.noDirectory p) := .noDirectory hresolve hlocate hnode
      exact .inr (.inl ⟨_, resolve_of_missing hmissing, hmissing⟩)

/-- **A text is a plugin, or the plugin is missing, or the text goes astray.** -/
theorem resolve_cases (hfs : fs.Lawful) (hhomes : ∀ home ∈ fs.homes, '\x00' ∉ home.2.toList)
    (hnul : '\x00' ∉ given.toList) :
    (∃ t, resolve fs given = .ok t ∧ fs.isDirectory t.root = true) ∨
      (∃ e, resolve fs given = .error e ∧ Missing fs given e) ∨
      ∃ e, resolve fs given = .error (.path e) ∧ Astray fs given e := by
  rcases hresolve : fs.resolve given with e | p
  · refine .inr (.inr ⟨e, resolve_of_error hresolve, ?_⟩)
    rcases FileSystem.expandHome_cases hhomes hnul with
      ⟨expanded, hexpand, hadmits⟩ | ⟨hexpand, hhome⟩
    · -- The path runs into a loop of links, and so the text means no place.
      have hcanonical : fs.canonical expanded = .error e := by
        rw [← hresolve, FileSystem.resolve, hexpand]
        rfl
      obtain ⟨hloop, rfl⟩ := (FileSystem.canonical_eq_error_iff hadmits).mp hcanonical
      refine .looped hexpand hloop fun loc hmeans => ?_
      cases hresolve.symm.trans (FileSystem.resolve_of_means hfs.direct_cwd hmeans)
    · rw [FileSystem.resolve, hexpand] at hresolve
      obtain rfl := Except.error.inj hresolve
      exact .homeless hhome
  · exact resolve_cases_of_ok hresolve

end Target

end PluginSweep

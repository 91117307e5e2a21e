/-
PluginSweep/Proofs/CommandLine/ReportBase.lean

What the place for the reports keeps a sweep from.  If that is inside the plugin,
one more name of a directory is excluded, the first on the way to it, and since
exclusions are names, every directory of that name is left out
(`candidates_of_settings`).  So whatever place is chosen, the files of the sweep
are those of the profile's own walk without the files that have a directory of
that name on their way, and if it is not inside the plugin, they are all of
these files (`candidates_of_prepare`).  No file beneath a place inside the plugin
is among them, but files elsewhere may be missing (`reports_hide_source`).
-/
import PluginSweep.Proofs.CommandLine.Session
import PluginSweep.Proofs.Walk.Exclusion

namespace PluginSweep

/-! ### Paths beneath paths -/

namespace Path

/-- The names that lead from the directory `base` to the path, none where it is not beneath. -/
def namesBelow (p base : Path) : List String :=
  ((p.relativeTo? base).map Path.names).getD []

theorem eq_of_namesBelow {p base : Path} (h : p.namesBelow base ≠ []) :
    p = ⟨base.anchor, base.names ++ p.namesBelow base⟩ := by
  rw [namesBelow, relativeTo?] at h ⊢
  split at h
  · rename_i hinside
    rw [if_pos hinside]
    obtain ⟨hanchor, hprefix⟩ := Bool.and_eq_true_iff.mp hinside
    obtain ⟨below, hbelow⟩ := List.isPrefixOf_iff_prefix.mp hprefix
    obtain ⟨anchor, names⟩ := p
    obtain rfl : anchor = base.anchor := beq_iff_eq.mp hanchor
    obtain rfl : base.names ++ below = names := hbelow
    simp
  · exact absurd rfl h

/-- What has no directory of a certain name on its way is not beneath a path to which that name
leads. -/
theorem namesBelow_eq_nil {base root : Path} {below : List String} {name : String}
    (hname : name ∈ base.namesBelow root) (hclear : name ∉ below.dropLast) :
    Path.namesBelow ⟨root.anchor, root.names ++ below⟩ base = [] := by
  apply Classical.byContradiction
  intro hne
  have hbase := congrArg names (eq_of_namesBelow (List.ne_nil_of_mem hname))
  have hpath := congrArg names (eq_of_namesBelow hne)
  dsimp only at hbase hpath
  rw [hbase, List.append_assoc] at hpath
  have hbelow := List.append_cancel_left hpath
  apply hclear
  rw [hbelow, List.dropLast_append_of_ne_nil hne]
  exact List.mem_append_left _ hname

end Path

/-! ### Exclusions -/

theorem mem_sortedNames {names : List String} {name : String} :
    name ∈ sortedNames names ↔ name ∈ names := by
  rw [sortedNames, List.mem_eraseDups, List.mem_mergeSort]

/-- What is excluded is what the profile excludes, and what is excluded further. -/
theorem Profile.contains_exclusionSet (p : Profile) (extra : List String) (name : String) :
    (p.exclusionSet extra).contains name =
      ((p.exclusionSet []).contains name || extra.contains name) := by
  rw [Bool.eq_iff_iff, Bool.or_eq_true, List.contains_iff_mem, List.contains_iff_mem,
    List.contains_iff_mem, exclusionSet, exclusionSet, mem_sortedNames, mem_sortedNames,
    List.append_nil, List.mem_append]

/-- A plugin is at the root of its directory. -/
theorem Target.exists_locate {fs : FileSystem} {given : String} {target : Target}
    (h : Target.resolve fs given = .ok target) :
    ∃ top, fs.locate target.root = .ok (top, .directory) := by
  rw [resolve] at h
  split at h
  · cases h
  · split at h
    · obtain rfl := Except.ok.inj h
      exact ⟨_, ‹_›⟩
    · cases h
    · cases h
    · cases h

namespace CommandLine.Session

open History
open Dialogue (Conduct)

variable {σ : Type} {c : Conduct Request.Reply σ} {env : Environment} {o : SweepOptions}
  {fs : FileSystem} {target : Target} {s : Settings} {base : Path}

/-! ### Settings -/

theorem exists_of_bind_eq_ok {ε α β : Type} {first : Except ε α} {next : α → Except ε β} {b : β}
    (h : first >>= next = .ok b) : ∃ a, first = .ok a ∧ next a = .ok b := by
  cases first with
  | error e => cases h
  | ok a => exact ⟨a, rfl, h⟩

theorem settings_eq_ok (h : settings env fs o target = .ok s) :
    ∃ base, reportBase env fs o = .ok base ∧ s.target = target ∧ s.profile = o.profile ∧
      s.exclusions = exclusions o.profile target base := by
  obtain ⟨base, hbase, h⟩ := exists_of_bind_eq_ok h
  refine ⟨base, hbase, ?_⟩
  -- Neither the root of the site nor the directory for the reports plays a part.
  dsimp only at h
  split at h <;> obtain ⟨siteRoot, -, h⟩ := exists_of_bind_eq_ok h <;>
    obtain ⟨reportDirectory, -, h⟩ := exists_of_bind_eq_ok h <;>
    obtain rfl := Except.ok.inj h <;> exact ⟨rfl, rfl, rfl⟩

/-- Preparing a sweep resolves what is given as the plugin, takes the settings for it, and does
nothing else. -/
theorem runs_prepare_resolved [Console] {x y : FileSystem × σ}
    (h : Work.Runs c (prepare env o) x (.ok s) y) :
    y = x ∧ Target.resolve x.1 o.plugin = .ok s.target ∧
      settings env x.1 o s.target = .ok s := by
  obtain ⟨target, z, htarget, hrest⟩ := Work.runs_bind_ok_iff.mp h
  obtain ⟨fs, z', hget, hsettings⟩ := Work.runs_bind_ok_iff.mp hrest
  obtain ⟨hsame, rfl⟩ := Work.runs_get_iff.mp hget
  obtain rfl := Except.ok.inj hsame
  -- The plugin has been found, or the session would have ended.
  have hfound : z' = x ∧ Target.resolve x.1 o.plugin = .ok target := by
    obtain ⟨fs, w, hget, hresolved⟩ := Work.runs_bind_ok_iff.mp htarget
    obtain ⟨hsame, rfl⟩ := Work.runs_get_iff.mp hget
    obtain rfl := Except.ok.inj hsame
    split at hresolved
    · obtain ⟨heq, rfl⟩ := Work.runs_pure_iff.mp hresolved
      obtain rfl := Except.ok.inj heq
      exact ⟨rfl, ‹_›⟩
    · cases (Work.runs_throw_iff.mp hresolved).1
    · obtain ⟨-, e, heq, -⟩ := runs_stop hresolved
      cases heq
  obtain ⟨rfl, hresolve⟩ := hfound
  rcases hsettled : settings env z'.1 o target with e | s' <;> rw [hsettled] at hsettings
  · cases (Work.runs_throw_iff.mp hsettings).1
  · obtain ⟨heq, rfl⟩ := Work.runs_pure_iff.mp hsettings
    obtain rfl := Except.ok.inj heq
    obtain ⟨base, -, htargetOf, -, -⟩ := settings_eq_ok hsettled
    rw [htargetOf]
    exact ⟨rfl, hresolve, hsettled⟩

/-- The plugin of a sweep that has been prepared is a directory. -/
theorem runs_prepare_ok [Console] {x y : FileSystem × σ}
    (h : Work.Runs c (prepare env o) x (.ok s) y) :
    y = x ∧ ∃ top, x.1.locate s.target.root = .ok (top, .directory) ∧
      settings env x.1 o s.target = .ok s := by
  obtain ⟨rfl, hresolve, hsettings⟩ := runs_prepare_resolved h
  obtain ⟨top, htop⟩ := Target.exists_locate hresolve
  exact ⟨rfl, top, htop, hsettings⟩

/-! ### Files -/

/-- The files of a plugin that the profile itself does not leave out. -/
def profileFiles (p : Profile) (root : Path) (fs : FileSystem) : Except OsError (List Candidate) :=
  (fs.walk ⟨root, p.exclusionSet [], some p.sourceExtensions⟩).map Walk.files

theorem exclusions_eq (p : Profile) :
    exclusions p target base = p.exclusionSet ((base.namesBelow target.root).take 1) := by
  rw [exclusions, Path.namesBelow]
  rcases base.relativeTo? target.root with - | inside <;> rfl

/-- The files of a sweep are those of the profile without the files that have a directory of the
excluded name on their way. -/
theorem candidates_of_settings {top : Location} (hsettings : settings env fs o s.target = .ok s)
    (hbase : reportBase env fs o = .ok base)
    (htop : fs.locate s.target.root = .ok (top, .directory)) (hplain : fs.PlainBelow top) :
    (Sweep.candidates s fs).map Walk.files =
      (profileFiles o.profile s.target.root fs).map fun files => files.filter
        (Walk.clearOf ((base.namesBelow s.target.root).take 1).contains s.target.root) := by
  obtain ⟨base', hbase', -, hprofile, hexclusions⟩ := settings_eq_ok hsettings
  obtain rfl : base = base' := Except.ok.inj (hbase.symm.trans hbase')
  rw [Sweep.candidates, hprofile, hexclusions, exclusions_eq]
  have hextends := o.profile.contains_exclusionSet ((base.namesBelow s.target.root).take 1)
  have hhiding := Walk.walk_hiding (o := ⟨s.target.root, o.profile.exclusionSet [],
    some o.profile.sourceExtensions⟩) htop (Walk.tidy_of_plainBelow hplain) hextends
  rw [hhiding, profileFiles]
  rcases fs.walk ⟨s.target.root, o.profile.exclusionSet [], some o.profile.sourceExtensions⟩
    with e | walk
  · rfl
  · rfl

/-- Leaving out one name, or none. -/
theorem clearOf_nil (root : Path) (file : Candidate) :
    Walk.clearOf ([] : List String).contains root file = true := by
  simp [Walk.clearOf]

theorem clearOf_singleton (name : String) (root : Path) (file : Candidate) :
    Walk.clearOf [name].contains root file = !(file.directories root).contains name := by
  have hany : (file.directories root).any [name].contains =
      (file.directories root).contains name := by
    rw [Bool.eq_iff_iff]
    simp
  rw [Walk.clearOf, hany]

/-- What the place for the reports keeps from a sweep: nothing where it is not inside the plugin,
and else the files that have a directory on their way with the name of the first directory that
leads from the plugin to the place.  No file beneath the place is swept then. -/
structure LeavesOut (base : Path) (p : Profile) (s : Settings) (fs : FileSystem) : Prop where
  outside : base.namesBelow s.target.root = [] →
    (Sweep.candidates s fs).map Walk.files = profileFiles p s.target.root fs
  inside : ∀ name rest, base.namesBelow s.target.root = name :: rest →
    (Sweep.candidates s fs).map Walk.files =
      (profileFiles p s.target.root fs).map fun files =>
        files.filter fun file => !(file.directories s.target.root).contains name
  beneath : base.namesBelow s.target.root ≠ [] → ∀ walk, Sweep.candidates s fs = .ok walk →
    ∀ file ∈ walk.files, file.path.namesBelow base = []

/-- **The place for the reports hides one name.**  For a plugin without links, the files of the
sweep that is prepared are, in the same order, those that the profile itself does not leave out,
but for what the place for the reports leaves out. -/
theorem candidates_of_prepare [Console] {x y : FileSystem × σ}
    (h : Work.Runs c (prepare env o) x (.ok s) y)
    (hplain : ∀ top node, x.1.locate s.target.root = .ok (top, node) → x.1.PlainBelow top) :
    y = x ∧ ∃ base, reportBase env x.1 o = .ok base ∧ LeavesOut base o.profile s x.1 := by
  obtain ⟨rfl, top, htop, hsettings⟩ := runs_prepare_ok h
  obtain ⟨base, hbase, -⟩ := settings_eq_ok hsettings
  have hfiles := candidates_of_settings hsettings hbase htop (hplain top _ htop)
  -- Of a place inside the plugin, only the first name counts.
  have hinside : ∀ name rest, base.namesBelow s.target.root = name :: rest →
      (Sweep.candidates s y.1).map Walk.files =
        (profileFiles o.profile s.target.root y.1).map fun files =>
          files.filter fun file => !(file.directories s.target.root).contains name := by
    intro name rest hnames
    rw [hfiles, hnames, List.take_succ_cons, List.take_zero,
      funext (clearOf_singleton name s.target.root)]
  refine ⟨rfl, base, hbase, fun hout => ?_, hinside, fun hin walk hwalk file hfile => ?_⟩
  · -- A place elsewhere hides nothing.
    rw [hfiles, hout]
    rcases profileFiles o.profile s.target.root y.1 with e | files
    · rfl
    · exact congrArg Except.ok (List.filter_eq_self.mpr fun file _ => clearOf_nil _ file)
  · -- No file that is left is beneath the place, for the first name leads to it.
    obtain ⟨name, rest, hnames⟩ := List.exists_cons_of_ne_nil hin
    have hname : name ∈ base.namesBelow s.target.root := by
      rw [hnames]
      exact List.mem_cons_self ..
    have hleft := hinside name rest hnames
    have hclear : name ∉ file.directories s.target.root := by
      rw [hwalk] at hleft
      rcases hprofile : profileFiles o.profile s.target.root y.1 with e | files <;>
        rw [hprofile] at hleft
      · cases hleft
      · rw [Except.ok.inj hleft, List.mem_filter] at hfile
        simpa using hfile.2
    obtain ⟨⟨below, rfl⟩, -⟩ := Walk.exists_candidateAt hwalk hfile
    rw [Walk.directories_candidateAt] at hclear
    exact Path.namesBelow_eq_nil hname hclear

/-! ### A file that is hidden -/

/-- A plugin in which a directory two levels down has the name of the place for the reports. -/
def layeredTree : FileSystem where
  entries := [(["p"], .directory), (["p", "p.php"], .file []), (["p", "lib"], .directory),
    (["p", "lib", "out"], .directory), (["p", "lib", "out", "x.php"], .file [])]
  cwd := []
  homes := []

/-- The environment of a session on it. -/
def layeredEnvironment : Environment where
  time := ""
  lockDirectory := ⟨"/", []⟩

/-- The sweep of that plugin, with the reports right inside of it. -/
def layeredOptions : SweepOptions where
  plugin := "/p"
  profile := .security
  reportBase := some "/p/out"

theorem plainBelow_layered (top : Location) : layeredTree.PlainBelow top := by
  have hall : ∀ e ∈ layeredTree.entries,
      e.2.isLink = false ∧ ∀ name ∈ e.1.getLast?, Proper name := by
    decide
  exact ⟨fun e he _ => (hall e he).1, fun e he _ => (hall e he).2⟩

theorem prepare_layered :
    ∃ s, Work.Runs heard (prepare layeredEnvironment layeredOptions) (layeredTree, []) (.ok s)
      (layeredTree, []) ∧ s.target.root = ⟨"/", ["p"]⟩ := by
  have hrun := Work.runs_answer (heard_obliging fun _ => false)
    (prepare layeredEnvironment layeredOptions) layeredTree []
  have hroot : (((prepare layeredEnvironment layeredOptions).run.run layeredTree).answer
      (obliging fun _ => false) []).1.1.toOption.map (·.target.root) = some ⟨"/", ["p"]⟩ := by
    decide +kernel
  rcases hprepared : (((prepare layeredEnvironment layeredOptions).run.run layeredTree).answer
      (obliging fun _ => false) []).1.1 with e | s <;> rw [hprepared] at hrun hroot
  · cases hroot
  · obtain ⟨hsame, -⟩ := runs_prepare_ok hrun
    rw [hsame] at hrun
    exact ⟨s, hrun, Option.some.inj hroot⟩

theorem candidates_of_prepare_layered :
    ∃ s base, reportBase layeredEnvironment layeredTree layeredOptions = .ok base ∧
      LeavesOut base .security s layeredTree := by
  obtain ⟨s, hrun, -⟩ := prepare_layered
  obtain ⟨-, base, hbase, hleft⟩ := candidates_of_prepare hrun fun top _ _ => plainBelow_layered top
  exact ⟨s, base, hbase, hleft⟩

/-- The file below that directory, which is not beneath the place for the reports. -/
def layeredFile : Candidate where
  path := ⟨"/", ["p", "lib", "out", "x.php"]⟩
  relpath := "lib/out/x.php"
  extension := ".php"

theorem exclusionSet_security :
    Profile.security.exclusionSet [] =
      [".git", ".github", "build", "dist", "node_modules", "security-reports", "tests",
        "vendor"] := by
  simp [Profile.exclusionSet, sortedNames, Profile.security, defaultExclusions, List.mergeSort]
  decide

/-- The profile does not leave the file out, it is not beneath the place for the reports, and it
is not swept. -/
theorem reports_hide_source :
    ∃ s base files walk,
      Work.Runs heard (prepare layeredEnvironment layeredOptions) (layeredTree, []) (.ok s)
        (layeredTree, []) ∧
      reportBase layeredEnvironment layeredTree layeredOptions = .ok base ∧
      profileFiles .security s.target.root layeredTree = .ok files ∧
      Sweep.candidates s layeredTree = .ok walk ∧
      layeredFile ∈ files ∧ layeredFile.path.namesBelow base = [] ∧ layeredFile ∉ walk.files := by
  obtain ⟨s, hrun, hroot⟩ := prepare_layered
  obtain ⟨-, top, htop, hsettings⟩ := runs_prepare_ok hrun
  obtain ⟨base, hbase, -⟩ := settings_eq_ok hsettings
  have hplace : (reportBase layeredEnvironment layeredTree layeredOptions).toOption =
      some ⟨"/", ["p", "out"]⟩ := by
    decide +kernel
  rw [hbase] at hplace
  obtain rfl : base = ⟨"/", ["p", "out"]⟩ := Option.some.inj hplace
  have hlisted : (profileFiles .security ⟨"/", ["p"]⟩ layeredTree).toOption.any
      (·.contains layeredFile) = true := by
    rw [profileFiles, exclusionSet_security]
    decide +kernel
  have hfiles := candidates_of_settings hsettings hbase htop (plainBelow_layered top)
  rw [hroot] at hfiles
  rcases hprofile : profileFiles .security ⟨"/", ["p"]⟩ layeredTree with e | files <;>
    rw [hprofile] at hlisted
  · cases hlisted
  · rcases hwalk : Sweep.candidates s layeredTree with e | walk <;>
      rw [hwalk, show layeredOptions.profile = .security from rfl, hprofile] at hfiles
    · cases hfiles
    · refine ⟨s, _, files, walk, hrun, hbase, by rw [hroot]; exact hprofile, hwalk,
        List.contains_iff_mem.mp hlisted, by decide, fun hmem => ?_⟩
      rw [Except.ok.inj hfiles, List.mem_filter] at hmem
      exact absurd hmem.2 (by decide)

end CommandLine.Session

end PluginSweep

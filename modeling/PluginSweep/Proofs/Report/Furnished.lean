/-
PluginSweep/Proofs/Report/Furnished.lean

What a tree is like when reports have been written into it.  All that was there is there
still, but for files right in the directory for the reports that had the name of one; and
all that is new are such files, and directories (`Furnished`).  So a path that led to
something that stays leads there afterwards, and paths have the canonical forms that they
had, unless a loop of links is met now (`Furnished.resolve`).
-/
import PluginSweep.Proofs.FileSystem.Canonical
import PluginSweep.Proofs.Report.Again
import PluginSweep.Proofs.Walk.Again

namespace PluginSweep.Report

open FileSystem

variable {dir : Path} {d loc : Location} {fs tree base : FileSystem} {name : String}
  {p : Path} {node : Node}

/-- The tree is `fs` with reports in the directory at `d`. -/
structure Furnished (d : Location) (tree fs : FileSystem) : Prop where
  start : SameStart tree fs
  /-- Whatever is no file with the name of a report stays. -/
  kept : ∀ loc node, fs.node? loc = some node →
    (∀ name, isArtifactName name = true → loc ≠ d ++ [name]) ∨ (∀ bytes, node ≠ .file bytes) →
      tree.node? loc = some node
  /-- Nothing is new but directories and files with the names of reports. -/
  new : ∀ loc node, tree.node? loc = some node → fs.node? loc = some node ∨ node = .directory ∨
    (∃ bytes, node = .file bytes) ∧ ∃ name, isArtifactName name = true ∧ loc = d ++ [name]

theorem Produced.furnished {reports : List (String × String)}
    (h : Produced dir d reports tree base fs) (hstart : SameStart tree fs)
    (hnames : ∀ e ∈ reports, isArtifactName e.1 = true) : Furnished d tree fs where
  start := hstart
  kept := by
    intro loc node hnode hside
    have hbase : base.node? loc = some node := by
      refine h.cleared.kept loc node hnode ?_
      cases node with
      | file bytes => exact .inl (hside.resolve_right fun hfile => hfile bytes rfl)
      | directory => exact .inr rfl
      | link target => exact .inl fun name _ heq => h.noLink name target (heq ▸ hnode)
    by_cases hreport : ∃ e ∈ reports, loc = d ++ [e.1]
    · -- A report can stand there only if nothing stood there but a file.
      obtain ⟨e, he, rfl⟩ := hreport
      have hfile := h.filed.file e he
      cases node with
      | file bytes =>
        rcases hside with hfree | hfree
        · exact absurd rfl (hfree e.1 (hnames e he))
        · exact absurd rfl (hfree bytes)
      | directory =>
        rw [(h.filed.ways.directory _).mpr hbase] at hfile
        cases hfile
      | link target => exact absurd hnode (h.noLink e.1 target)
    · rw [h.filed.rest loc fun e he heq => hreport ⟨e, he, heq⟩, hbase]
  new := by
    intro loc node hnode
    -- What is new is a report, or was made with the directory.
    by_cases hreport : ∃ e ∈ reports, loc = d ++ [e.1]
    · obtain ⟨e, he, rfl⟩ := hreport
      rw [h.filed.file e he] at hnode
      exact .inr (.inr ⟨⟨_, (Option.some.inj hnode).symm⟩, e.1, hnames e he, rfl⟩)
    · rw [h.filed.rest loc fun e he heq => hreport ⟨e, he, heq⟩] at hnode
      exact (h.cleared.new loc node hnode).imp_right .inl

namespace Furnished

variable (h : Furnished d tree fs)
include h

/-- Directories and links stay. -/
theorem thins : Thins fs tree where
  cwd := h.start.cwd.symm
  directory := fun loc hnode => h.kept loc _ hnode (.inr fun _ => by simp)
  link := fun loc target hnode => h.kept loc _ hnode (.inr fun _ => by simp)

theorem link_iff {target : String} :
    tree.node? loc = some (.link target) ↔ fs.node? loc = some (.link target) := by
  refine ⟨fun hnode => ?_, h.thins.link loc target⟩
  rcases h.new loc _ hnode with hold | hnew | ⟨⟨bytes, hnew⟩, -⟩
  · exact hold
  · cases hnew
  · cases hnew

theorem realPath (p : Path) : tree.realPath p = fs.realPath p :=
  realPath_congr h.start.cwd (fun _ _ => h.link_iff) p

theorem expandHome (p : Path) : tree.expandHome p = fs.expandHome p := by
  rw [FileSystem.expandHome, FileSystem.expandHome, h.start.homes]

/-- A path that led to a directory leads to it. -/
theorem locate_directory (hlocate : fs.locate p = .ok (loc, .directory)) :
    tree.locate p = .ok (loc, .directory) :=
  locate_of_thins h.thins (h.thins.directory loc (node?_of_locate hlocate)) hlocate

/-- What a path stood for it stands for still, unless a loop of links is met now. -/
theorem resolve {given : String} (hresolve : fs.resolve given = .ok p)
    (hloop : tree.locate p ≠ .error .linkLoop) : tree.resolve given = .ok p := by
  rw [FileSystem.resolve] at hresolve ⊢
  rw [h.expandHome]
  rcases hexpand : fs.expandHome (Path.ofString given) with e | expanded <;>
    rw [hexpand] at hresolve
  · cases hresolve
  · obtain ⟨hadmits, hreal, -⟩ := canonical_eq_ok_iff.mp hresolve
    refine canonical_eq_ok_iff.mpr ⟨hadmits, (h.realPath expanded).trans hreal, ?_⟩
    exact mt locate_eq_linkLoop_iff.mpr hloop

/-- A file that has not the name of a report is what it was. -/
theorem file_iff (hname : isArtifactName name = false) {bytes : List UInt8} :
    tree.node? (loc ++ [name]) = some (.file bytes) ↔
      fs.node? (loc ++ [name]) = some (.file bytes) := by
  have hapart : ∀ report, isArtifactName report = true → loc ++ [name] ≠ d ++ [report] := by
    intro report hreport heq
    obtain rfl := List.singleton_inj.mp (List.append_inj_right' heq rfl)
    cases hname.symm.trans hreport
  constructor
  · intro hnode
    rcases h.new _ _ hnode with hold | hdirectory | ⟨-, report, hreport, heq⟩
    · exact hold
    · cases hdirectory
    · exact absurd heq (hapart report hreport)
  · exact fun hnode => h.kept _ _ hnode (.inl hapart)

/-- A walk that does not want reports finds in it what it found before. -/
theorem overgrown {o : Walk.Options} {top : Location} (hplain : Walk.Plain fs o top)
    (htree : tree.Grounded)
    (hwanted : ∀ name, isArtifactName name = true → o.wantsName name = false) :
    Walk.Overgrown tree fs o top where
  plain := hplain
  plainNow := ⟨h.locate_directory hplain.located, htree,
    fun below name target hlink => hplain.noLink below name target (h.link_iff.mp hlink)⟩
  directory := h.thins.directory
  file := by
    intro loc name bytes hwants
    refine h.file_iff (Bool.eq_false_iff.mpr fun hname => ?_)
    rw [hwanted name hname] at hwants
    cases hwants

end Furnished

/-- Reports are documentation, or have an extension that no one asks for. -/
theorem wantsName_of_isArtifactName {o : Walk.Options} {extensions : List String}
    (hwanted : o.wanted = some extensions) (hextensions : ".txt\n" ∉ extensions)
    (hname : isArtifactName name = true) : o.wantsName name = false := by
  have htext : Text.lowerCase ".txt" = ".txt" ∧ Text.lowerCase ".txt\n" = ".txt\n" := by
    decide +kernel
  rw [Walk.Options.wantsName, Walk.Options.wants, hwanted]
  rcases suffixOf_of_isArtifactName hname with hsuffix | hsuffix <;> rw [hsuffix]
  · rw [htext.1]
    rfl
  · rw [htext.2]
    simp [hextensions]

end PluginSweep.Report

/-
PluginSweep/Proofs/Sweep/Keeping.lean

What a sweep keeps of its tree.  Of the tree nothing is changed but by preparing the
directory for reports and by writing reports, so what these keep is kept by all that
follows a survey, however that ends (`keepsTree_conclude`).  It is so with the working
directory, which is a directory afterwards if it was one before (`runs_conclude_stands`).

Some things are kept only by reports of the right names, and only once the directory is
prepared.  So what follows the reports on the steps is stated by itself, for the two names
that are written then (`keepsTree_tryOut`).
-/
import PluginSweep.Proofs.Report.Clearing
import PluginSweep.Proofs.Sweep.Work

namespace PluginSweep.Sweep

open Dialogue (Conduct)

variable {α σ : Type} {c : Conduct Request.Reply σ} {s : Settings} {I : FileSystem → Prop}

/-! ### Work that keeps what holds of the tree -/

/-- The work keeps what holds of the tree, however it ends. -/
abbrev KeepsTree (c : Conduct Request.Reply σ) (I : FileSystem → Prop) (w : Sweeping α) : Prop :=
  Work.Within c (fun x : SweepState × σ => I x.1.tree) (fun _ => True) w

theorem keepsTree_asking (work : Asking α) : KeepsTree c I (asking work) := by
  intro x o y hx h
  obtain ⟨_, -, rfl, hst⟩ := runs_asking_iff.mp h
  refine ⟨?_, fun _ _ => trivial⟩
  show I y.1.tree
  rw [hst]
  exact hx

theorem keepsTree_filing {work : FileWork α} (hwork : FileSystem.Keeps I work) :
    KeepsTree c I (filing work) := by
  intro x o y hx h
  obtain ⟨rfl, rfl⟩ := runs_filing_iff.mp h
  exact ⟨hwork _ hx, fun _ _ => trivial⟩

theorem keepsTree_get : KeepsTree c I (get : Sweeping SweepState) := by
  intro x o y hx h
  obtain ⟨rfl, rfl⟩ := Work.runs_get_iff.mp h
  exact ⟨hx, fun _ _ => trivial⟩

theorem keepsTree_throw (e : SweepError) : KeepsTree c I (throw e : Sweeping α) :=
  Work.within_throw trivial

theorem keepsTree_warnSkipped (site : Option Site) (summary : Summary) :
    KeepsTree c I (warnSkipped s site summary) := by
  intro x o y hx h
  refine ⟨?_, fun _ _ => trivial⟩
  show I y.1.tree
  rw [(runs_warnSkipped_tree h).2]
  exact hx

/-! ### Trying the plugin out -/

section Trying

variable {summary : Summary} {made : Section}

theorem keepsTree_addProbeSection (hmade : made.name = activationName)
    (hsection : ∀ text, FileSystem.Keeps I (Report.writeText s.reportDirectory
      (Report.sectionFile (summary.sections.length + 1) activationName) text)) :
    KeepsTree c I (addProbeSection s summary made) := by
  rw [← hmade] at hsection
  exact (keepsTree_filing (hsection _)).bind fun _ => Work.within_pure _

theorem keepsTree_reportProbe
    (hsection : ∀ text, FileSystem.Keeps I (Report.writeText s.reportDirectory
      (Report.sectionFile (summary.sections.length + 1) activationName) text))
    (hsummary : ∀ text, FileSystem.Keeps I
      (Report.writeText s.reportDirectory Report.summaryFile text))
    (outcome : Except SweepError (Except StepFailure ProbeResult)) :
    KeepsTree c I (reportProbe s summary outcome) := by
  unfold reportProbe
  split
  · exact keepsTree_addProbeSection rfl hsection
  · exact (keepsTree_asking _).bind fun _ => keepsTree_addProbeSection rfl hsection
  · refine (keepsTree_addProbeSection rfl hsection).bind fun _ => ?_
    exact (keepsTree_filing (hsummary _)).bind fun _ => keepsTree_throw _
  · exact keepsTree_throw _

/-- What the reports keep that are written when the plugin is tried out, trying it out keeps. -/
theorem keepsTree_tryOut (site : Option Site)
    (hsection : ∀ text, FileSystem.Keeps I (Report.writeText s.reportDirectory
      (Report.sectionFile (summary.sections.length + 1) activationName) text))
    (hsummary : ∀ text, FileSystem.Keeps I
      (Report.writeText s.reportDirectory Report.summaryFile text)) :
    KeepsTree c I (tryOut s site summary) := by
  have hprobe : ∀ site, KeepsTree c I (probe s site summary) := by
    intro site
    have hlocked : ∀ key, KeepsTree c I (do
        reportProbe s summary (← asking (lockedProbe s site key))) :=
      fun key => (keepsTree_asking _).bind fun _ => keepsTree_reportProbe hsection hsummary _
    refine keepsTree_get.bind fun st => ?_
    dsimp only
    split
    · exact (Work.within_pure _).bind fun key => hlocked key
    · exact (keepsTree_throw _).bind fun key => hlocked key
  unfold tryOut
  split
  · refine (keepsTree_asking _).bind fun stop => ?_
    split
    · exact Work.within_pure _
    · exact (keepsTree_asking _).bind fun _ => hprobe _
  · exact Work.within_pure _

end Trying

/-! ### All that follows a survey -/

section Concluding

variable (hprepare : FileSystem.Keeps I (Report.prepare s.reportDirectory))
  (hwrite : ∀ name text, FileSystem.Keeps I (Report.writeText s.reportDirectory name text))

include hprepare hwrite

theorem keepsTree_writeReports (summary : Summary) : KeepsTree c I (writeReports s summary) := by
  intro x o y hx h
  refine ⟨?_, fun _ _ => trivial⟩
  have hprepared := hprepare _ hx
  cases writingReports_iff.mp h with
  | unprepared hbase _ hy =>
    rw [hbase] at hprepared
    exact hy ▸ hprepared
  | prepared hbase hsections _ hy =>
    rw [hbase] at hprepared
    have hall := Report.keeps_writeSections s.time Report.descriptions (s := summary)
      (hwrite _) (fun file _ => hwrite file) hprepared
    rw [hsections] at hall
    exact hy ▸ hall

/-- **What preparing the directory and writing into it keep**, all that follows a survey keeps. -/
theorem keepsTree_conclude (v : Survey) : KeepsTree c I (conclude s v) := by
  refine (keepsTree_warnSkipped _ _).bind fun _ => ?_
  refine (keepsTree_writeReports hprepare hwrite _).bind fun _ => ?_
  refine (keepsTree_tryOut v.site (hwrite _) (hwrite _)).bind fun _ => ?_
  exact (keepsTree_filing (hwrite _ _)).bind fun _ => Work.within_pure _

end Concluding

/-- The working directory stays a directory. -/
theorem runs_conclude_stands {v : Survey} {x y : SweepState × σ} {o : Except SweepError Summary}
    (hstands : x.1.tree.StandsInDirectory) (h : Work.Runs c (conclude s v) x o y) :
    y.1.tree.StandsInDirectory := by
  refine (keepsTree_conclude Report.stands_prepare (fun name text => ?_) v x o y hstands h).1
  exact (FileSystem.standsInDirectory_write _ _).bind fun _ => FileSystem.keeps_pure _

end PluginSweep.Sweep

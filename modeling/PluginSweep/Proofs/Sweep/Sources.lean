/-
PluginSweep/Proofs/Sweep/Sources.lean

What a sweep keeps of the files it reads.  A source is read once and kept from
then on, so that the sources of a run only grow and each of them comes from the
reply to a question (`Remembered`).  `Learns files x y` is what all work of a
sweep that only reads has in common: the tree stays as it is, sources that were
kept are kept, and new ones come from replies.

A scan then sees the same texts whenever it takes place: with any table of texts
that agrees with what is kept at the end, it amounts to the outcome that the
table gives (`runs_scan`).
-/
import PluginSweep.Proofs.Check.Scan
import PluginSweep.Proofs.Request.History
import PluginSweep.Proofs.Tool.Launch
import PluginSweep.Sweep

namespace PluginSweep.Sweep

open History

variable {files : List Candidate} {x y z : SweepState × History}

/-! ### Keeping sources -/

/-- What the contents of a file are to a check. -/
def decoded (contents : Contents) : Except OsError String :=
  contents.map fun bytes => String.ofList (Text.decodeLossy bytes)

/-- Every source that is kept is that of one of the files, and is what a reply brought. -/
def Remembered (files : List Candidate) (x : SweepState × History) : Prop :=
  ∀ path text, x.1.sources.lookup path = some text →
    ∃ file ∈ files, file.path = path ∧
      ∃ stored contents, .asked (.read file stored) contents ∈ x.2 ∧ text = decoded contents

/-- What work does that reads some of the files and changes nothing else. -/
structure Learns (files : List Candidate) (x y : SweepState × History) : Prop where
  tree : y.1.tree = x.1.tree
  past : x.2 <+: y.2
  kept : ∀ path text, x.1.sources.lookup path = some text → y.1.sources.lookup path = some text
  remembered : Remembered files x → Remembered files y

theorem Learns.trans (hxy : Learns files x y) (hyz : Learns files y z) : Learns files x z where
  tree := hyz.tree.trans hxy.tree
  past := hxy.past.trans hyz.past
  kept := fun path text h => hyz.kept path text (hxy.kept path text h)
  remembered := fun h => hyz.remembered (hxy.remembered h)

/-- Asking for anything that is not a source. -/
theorem learns_of_past {st : SweepState} {past now : History} (h : past <+: now) :
    Learns files (st, past) (st, now) where
  tree := rfl
  past := h
  kept := fun _ _ hkept => hkept
  remembered := by
    intro hpast path text hkept
    obtain ⟨file, hfile, hpath, stored, contents, hread, htext⟩ := hpast path text hkept
    exact ⟨file, hfile, hpath, stored, contents, h.subset hread, htext⟩

/-- Whatever a file is read for, its source is kept afterwards. -/
theorem runs_source {file : Candidate} {text : Except OsError String} (hfile : file ∈ files)
    (h : Dialogue.Runs heard ((source file).run x.1) x.2 (text, y.1) y.2) :
    Learns files x y ∧ y.1.sources.lookup file.path = some text := by
  obtain ⟨st, past⟩ := x
  obtain ⟨st', now⟩ := y
  simp only [source, StateT.run_bind, StateT.run_get, pure_bind] at h
  rcases hknown : st.sources.lookup file.path with - | known
  · -- The file is read now.
    rw [hknown] at h
    obtain ⟨⟨contents, st₁⟩, t, hread, h⟩ := Dialogue.runs_bind_iff.mp h
    obtain ⟨hreply, rfl⟩ := Work.runs_stateT_lift_iff.mp hread
    replace hreply := Asking.runs_request_iff.mp hreply
    obtain ⟨heq, rfl⟩ := Dialogue.runs_pure_iff.mp h
    obtain ⟨rfl, rfl⟩ := Prod.mk.inj heq
    refine ⟨⟨rfl, prefix_of_heard hreply, fun path text hkept => ?_, ?_⟩, by simp⟩
    · have hne : path ≠ file.path := by
        rintro rfl
        rw [hknown] at hkept
        cases hkept
      rw [List.lookup_cons, beq_false_of_ne hne]
      exact hkept
    · intro hpast path text hkept
      by_cases hpath : path = file.path
      · subst hpath
        rw [List.lookup_cons_self] at hkept
        obtain rfl := Option.some.inj hkept
        exact ⟨file, hfile, rfl, _, contents, asked_mem_of_heard hreply, rfl⟩
      · rw [List.lookup_cons, beq_false_of_ne hpath] at hkept
        exact (learns_of_past (prefix_of_heard hreply)).remembered hpast path text hkept
  · -- It is known already.
    rw [hknown] at h
    obtain ⟨heq, rfl⟩ := Dialogue.runs_pure_iff.mp h
    obtain ⟨rfl, rfl⟩ := Prod.mk.inj heq
    exact ⟨learns_of_past (List.prefix_refl _), hknown⟩

/-! ### Scanning -/

/-- The table gives the sources that are kept. -/
def Agrees (table : Path → Except OsError String) (st : SweepState) : Prop :=
  ∀ path text, st.sources.lookup path = some text → table path = text

theorem Learns.agrees {table : Path → Except OsError String} (h : Learns files x y)
    (hy : Agrees table y.1) : Agrees table x.1 :=
  fun path text hkept => hy path text (h.kept path text hkept)

/-- The texts of files as the table has them. -/
def textsOf (table : Path → Except OsError String) (file : Candidate) : Except OsError String :=
  table file.path

/-- The scan that a check does in a sweep. -/
abbrev scanSources (check : Check) (default : List String) (rest : List Candidate) (scan : Scan) :
    StateT SweepState Asking Scan :=
  check.scanFiles default source (fun w => StateT.lift (Asking.warn w)) rest scan

/-- What a file with the given text adds to a scan. -/
structure Adds (check : Check) (default : List String) (file : Candidate)
    (text : Except OsError String) (scan scan' : Scan) : Prop where
  findings : ∀ texts : Candidate → Except OsError String, texts file = text →
    scan'.findings = scan.findings ++ check.findingsIn default texts file
  skipped : ∀ texts : Candidate → Except OsError String, texts file = text →
    scan'.skipped = scan.skipped ++ (check.skippedIn default texts file).toList

/-- What the first of the files adds comes before what the files after it add. -/
theorem Adds.cons {check : Check} {default : List String} {file : Candidate}
    {text : Except OsError String} {scan scan₁ scan' : Scan}
    (h : Adds check default file text scan scan₁) {texts : Candidate → Except OsError String}
    (htext : texts file = text) {rest : List Candidate}
    (hfindings : scan'.findings =
      scan₁.findings ++ rest.flatMap (check.findingsIn default texts))
    (hskipped : scan'.skipped =
      scan₁.skipped ++ rest.filterMap (check.skippedIn default texts)) :
    scan'.findings = scan.findings ++ (file :: rest).flatMap (check.findingsIn default texts) ∧
      scan'.skipped =
        scan.skipped ++ (file :: rest).filterMap (check.skippedIn default texts) := by
  constructor
  · rw [hfindings, h.findings texts htext, List.append_assoc, List.flatMap_cons]
  · rw [hskipped, h.skipped texts htext, List.append_assoc, List.filterMap_cons]
    cases check.skippedIn default texts file <;> rfl

/-- A file to which no rule applies adds nothing, whatever its text. -/
theorem adds_nothing {check : Check} {default : List String} {file : Candidate}
    (hnone : check.rulesFor file.extension default = []) (text : Except OsError String)
    (scan : Scan) : Adds check default file text scan scan where
  findings := by
    intro texts _
    rw [Check.findingsIn, hnone]
    split <;> exact (List.append_nil _).symm
  skipped := by
    intro texts _
    have hempty : (check.rulesFor file.extension default).isEmpty = true := by rw [hnone]; rfl
    rw [Check.skippedIn, if_pos hempty]
    exact (List.append_nil _).symm

/-- A file to which some rule applies is read, its source is kept, and the scan goes on with the
files after it. -/
theorem runs_scanFiles_cons {check : Check} {default : List String} {file : Candidate}
    {rest : List Candidate} (hfile : file ∈ files)
    (hrules : check.rulesFor file.extension default ≠ []) {scan scan' : Scan}
    (h : Dialogue.Runs heard ((scanSources check default (file :: rest) scan).run x.1) x.2
      (scan', y.1) y.2) :
    ∃ text scan₁ z, Learns files x z ∧ z.1.sources.lookup file.path = some text ∧
      Adds check default file text scan scan₁ ∧
      Dialogue.Runs heard ((scanSources check default rest scan₁).run z.1) z.2
        (scan', y.1) y.2 := by
  have hsome : ¬ (check.rulesFor file.extension default).isEmpty = true := by
    simpa using hrules
  rw [scanSources, Check.scanFiles, if_neg hsome, StateT.run_bind,
    Dialogue.runs_bind_iff] at h
  obtain ⟨⟨text, st₁⟩, now₁, hsource, h⟩ := h
  obtain ⟨hlearns, hlookup⟩ := runs_source (y := (st₁, now₁)) hfile hsource
  cases text with
  | error e =>
    -- It cannot be read, which is a warning and something skipped.
    rw [StateT.run_bind, Dialogue.runs_bind_iff] at h
    obtain ⟨⟨_, st₂⟩, now₂, hwarn, h⟩ := h
    obtain ⟨hwarned, rfl⟩ := Work.runs_stateT_lift_iff.mp hwarn
    have hquiet : Learns files (st₂, now₁) (st₂, now₂) := learns_of_past (prefix_of_runs hwarned)
    refine ⟨.error e, _, (st₂, now₂), hlearns.trans hquiet, hlookup, ⟨?_, ?_⟩, h⟩
    · intro texts htext
      rw [Check.findingsIn, htext]
      exact (List.append_nil _).symm
    · intro texts htext
      rw [Check.skippedIn, if_neg hsome, htext]
      rfl
  | ok t =>
    -- It can, and brings what the rules find.
    refine ⟨.ok t, _, (st₁, now₁), hlearns, hlookup, ⟨?_, ?_⟩, h⟩
    · intro texts htext
      rw [Check.findingsIn, htext]
    · intro texts htext
      rw [Check.skippedIn, if_neg hsome, htext]
      exact (List.append_nil _).symm

/-- Scanning learns the sources of all files that some rule applies to, and adds what the check
finds in these sources. -/
theorem runs_scanFiles {check : Check} {default : List String} {rest : List Candidate}
    (hrest : ∀ file ∈ rest, file ∈ files) {scan scan' : Scan}
    (h : Dialogue.Runs heard ((scanSources check default rest scan).run x.1) x.2
      (scan', y.1) y.2) :
    Learns files x y ∧
      (∀ file ∈ rest, check.rulesFor file.extension default ≠ [] →
        ∃ text, y.1.sources.lookup file.path = some text) ∧
      ∀ table, Agrees table y.1 →
        scan'.findings = scan.findings ++
          rest.flatMap (check.findingsIn default (textsOf table)) ∧
        scan'.skipped = scan.skipped ++
          rest.filterMap (check.skippedIn default (textsOf table)) := by
  induction rest generalizing scan x with
  | nil =>
    obtain ⟨heq, hpast⟩ := Dialogue.runs_pure_iff.mp h
    obtain ⟨rfl, hst⟩ := Prod.mk.inj heq
    obtain rfl : y = x := Prod.ext hst hpast
    exact ⟨learns_of_past (List.prefix_refl _), by simp, by simp⟩
  | cons file rest ih =>
    have hothers : ∀ other ∈ rest, other ∈ files :=
      fun other hother => hrest other (List.mem_cons_of_mem _ hother)
    by_cases hrules : check.rulesFor file.extension default = []
    · -- No rule applies to the file, and it is not read.
      rw [scanSources, Check.scanFiles, if_pos (List.isEmpty_iff.mpr hrules)] at h
      obtain ⟨hlearns, hknown, hscan⟩ := ih hothers h
      refine ⟨hlearns, fun other hother happlies => ?_, fun table htable => ?_⟩
      · rcases List.mem_cons.mp hother with rfl | hother
        · exact absurd hrules happlies
        · exact hknown other hother happlies
      · obtain ⟨hfindings, hskipped⟩ := hscan table htable
        exact (adds_nothing hrules (textsOf table file) scan).cons rfl hfindings hskipped
    · -- It is read, and what is found in it is added.
      obtain ⟨text, scan₁, z, hread, hlookup, hadds, hgo⟩ :=
        runs_scanFiles_cons (hrest file (List.mem_cons_self ..)) hrules h
      obtain ⟨hlearns, hknown, hscan⟩ := ih hothers hgo
      have hkept := hlearns.kept _ _ hlookup
      refine ⟨hread.trans hlearns, fun other hother happlies => ?_, fun table htable => ?_⟩
      · rcases List.mem_cons.mp hother with rfl | hother
        · exact ⟨_, hkept⟩
        · exact hknown other hother happlies
      · obtain ⟨hfindings, hskipped⟩ := hscan table htable
        exact hadds.cons (htable _ _ hkept) hfindings hskipped

/-- **A scan amounts to the outcome that the kept sources give**, and it learns the sources of
all files that some rule applies to. -/
theorem runs_scan {check : Check} {default : List String} {scan : Scan}
    (h : Dialogue.Runs heard
      ((check.scan files default source (fun w => StateT.lift (Asking.warn w))).run x.1) x.2
      (scan, y.1) y.2) :
    Learns files x y ∧
      (∀ file ∈ files, check.rulesFor file.extension default ≠ [] →
        ∃ text, y.1.sources.lookup file.path = some text) ∧
      ∀ table, Agrees table y.1 → scan = check.outcome default (textsOf table) files := by
  rw [Check.scan, StateT.run_bind, Dialogue.runs_bind_iff] at h
  obtain ⟨⟨found, st⟩, now, hfound, h⟩ := h
  obtain ⟨heq, hnow⟩ := Dialogue.runs_pure_iff.mp h
  obtain ⟨rfl, rfl⟩ := Prod.mk.inj heq
  obtain rfl := hnow
  obtain ⟨hlearns, hknown, hscan⟩ := runs_scanFiles (fun _ hfile => hfile) hfound
  refine ⟨hlearns, hknown, fun table htable => ?_⟩
  obtain ⟨hfindings, hskipped⟩ := hscan table htable
  rw [List.nil_append] at hfindings hskipped
  rw [Check.outcome, ← hfindings, ← hskipped]

end PluginSweep.Sweep

/-
PluginSweep/Proofs/Check/Batch.lean

Scanning all at once and rule by rule.  `Check.scan` goes through the files, reads
each of them once for all rules that apply, and puts the findings in the order of
the rules afterwards; `Rule.scanFile` applies one rule to one file, which it reads
for itself.

With rules of different names the two come to the same:

  scan files  =  for each rule, for each file, scanFile      (`scan_eq_scanFile`)

and the scan reads the files that some rule applies to, each time one is listed
and in the order of the list, and leaves a note of each that cannot be read.  The
step from the scan to its `outcome` is made in any monad (`scan_eq_pure_outcome`),
so the reader may keep a log, ask the surroundings or do nothing at all.
-/
import Mathlib.Data.List.Basic
import PluginSweep.Proofs.Check.Scan

namespace PluginSweep

/-! ### What is done during a scan -/

/-- What is done during a scan: a file is read, or a warning is given. -/
inductive ScanAct
  | opened (file : Candidate)
  | warned (w : Warning)
  deriving DecidableEq, Repr

namespace ScanAct

/-- The file, if one is read. -/
def opened? : ScanAct → Option Candidate
  | opened file => some file
  | warned _ => none

/-- Keeps an act in a log. -/
def log (act : ScanAct) : StateM (List ScanAct) Unit :=
  modify (· ++ [act])

/-- Reads files as `text` has them, keeping a log. -/
def reader (text : Candidate → Except OsError String) (file : Candidate) :
    StateM (List ScanAct) (Except OsError String) := do
  log (.opened file)
  pure (text file)

/-- Gives warnings, keeping a log. -/
def warner (w : Warning) : StateM (List ScanAct) Unit :=
  log (.warned w)

end ScanAct

namespace Check

variable {check : Check} {default : List String} {text : Candidate → Except OsError String}

/-! ### The files of a check -/

/-- Some rule of the check applies to the file. -/
def concerns (check : Check) (default : List String) (file : Candidate) : Bool :=
  check.rules.any (·.appliesTo file.extension default)

theorem isEmpty_rulesFor (file : Candidate) :
    (check.rulesFor file.extension default).isEmpty = !check.concerns default file := by
  rw [rulesFor, concerns, Bool.eq_iff_iff]
  simp

/-- A file that no rule applies to has no findings, whatever is in it. -/
theorem findingsIn_of_not_concerns {file : Candidate}
    (h : check.concerns default file = false) : check.findingsIn default text file = [] := by
  have hrules : check.rulesFor file.extension default = [] := by
    rw [← List.isEmpty_iff, isEmpty_rulesFor, h]
    rfl
  unfold findingsIn
  split
  · rw [hrules]
    rfl
  · rfl

/-- A file that no rule applies to is not left out. -/
theorem skippedIn_of_not_concerns {file : Candidate}
    (h : check.concerns default file = false) : check.skippedIn default text file = none := by
  rw [skippedIn, isEmpty_rulesFor, h]
  rfl

/-- The entry for a file of the check, if it cannot be read. -/
def refusalIn (text : Candidate → Except OsError String) (file : Candidate) : Option String :=
  match text file with
  | .ok _ => none
  | .error e => some (skippedEntry file.relpath e)

theorem skippedIn_of_concerns {file : Candidate} (h : check.concerns default file = true) :
    check.skippedIn default text file = refusalIn text file := by
  rw [skippedIn, isEmpty_rulesFor, h]
  rfl

/-- The files left out are those of the check that cannot be read. -/
theorem skipped_outcome (files : List Candidate) :
    (check.outcome default text files).skipped =
      (files.filter (check.concerns default)).filterMap (refusalIn text) := by
  rw [outcome, List.filterMap_filter]
  apply List.filterMap_congr
  intro file _
  cases h : check.concerns default file with
  | true => rw [skippedIn_of_concerns h, if_pos rfl]
  | false => rw [skippedIn_of_not_concerns h, if_neg Bool.false_ne_true]

/-! ### Scanning in any monad -/

section Monad

variable {m : Type → Type} [Monad m] [LawfulMonad m] {read : Candidate → m (Except OsError String)}
  {warn : Warning → m Unit} {note : Candidate → m Unit}

/-- What is done about a file of the check: it is read, and a warning is given if it cannot
be. -/
def visit (text : Candidate → Except OsError String) (note : Candidate → m Unit)
    (warn : Warning → m Unit) (file : Candidate) : m Unit := do
  note file
  match text file with
  | .ok _ => pure ()
  | .error e => warn (.fileSkipped file.relpath e.message)

/-- A scan that has come to `scan` visits the files of the check that are left and adds what
is in them. -/
theorem scanFiles_eq (hread : ∀ file, read file = (do note file; pure (text file)))
    (files : List Candidate) (scan : Scan) :
    check.scanFiles default read warn files scan = (do
      forM (files.filter (check.concerns default)) (visit text note warn)
      pure ⟨scan.findings ++ files.flatMap (check.findingsIn default text),
        scan.skipped ++ files.filterMap (check.skippedIn default text)⟩) := by
  induction files generalizing scan with
  | nil => simp [scanFiles]
  | cons file files ih =>
    cases hconcerns : check.concerns default file with
    | false =>
      -- The file is passed over: the reader is not even called.
      have hempty : (check.rulesFor file.extension default).isEmpty = true := by
        rw [isEmpty_rulesFor, hconcerns]
        rfl
      simp only [scanFiles, if_pos hempty, ih, List.filter_cons, hconcerns, List.flatMap_cons,
        List.filterMap_cons, findingsIn_of_not_concerns hconcerns,
        skippedIn_of_not_concerns hconcerns, List.nil_append, Bool.false_eq_true, if_false]
    | true =>
      -- The file is visited; what it adds stands in front of what the rest adds.
      have hempty : (check.rulesFor file.extension default).isEmpty = false := by
        rw [isEmpty_rulesFor, hconcerns]
        rfl
      simp only [scanFiles, hempty, Bool.false_eq_true, if_false, hread, ih,
        List.filter_cons_of_pos hconcerns, List.forM_cons, visit, bind_assoc, pure_bind,
        List.flatMap_cons, List.filterMap_cons, findingsIn, skippedIn_of_concerns hconcerns,
        refusalIn]
      cases text file with
      | ok t => simp only [pure_bind, List.append_assoc]
      | error e => simp only [List.nil_append, List.append_assoc, List.cons_append]

/-- **A scan visits the files of its check in turn; what it brings is the outcome.** -/
theorem scan_eq_pure_outcome (hread : ∀ file, read file = (do note file; pure (text file)))
    (files : List Candidate) :
    check.scan files default read warn = (do
      forM (files.filter (check.concerns default)) (visit text note warn)
      pure (check.outcome default text files)) := by
  simp only [scan, scanFiles_eq hread, bind_assoc, pure_bind, List.nil_append]
  rfl

end Monad

/-! ### Rule by rule -/

end Check

/-- What applying the rule to the file by itself finds. -/
theorem Rule.run_scanFile (r : Rule) (file : Candidate) (default : List String)
    (text : Candidate → Except OsError String) (acts : List ScanAct) :
    ((r.scanFile file default (ScanAct.reader text) ScanAct.warner).run acts).1 =
      if r.appliesTo file.extension default then
        match text file with
        | .ok t => r.scan file.relpath t
        | .error _ => []
      else [] := by
  unfold Rule.scanFile
  cases r.appliesTo file.extension default with
  | false => rfl
  | true =>
    cases h : text file with
    | ok t => simp only [ScanAct.reader, h]; rfl
    | error e => simp only [ScanAct.reader, h]; rfl

namespace Check

variable {check : Check} {default : List String} {text : Candidate → Except OsError String}

/-- Among rules of different names, those findings that bear a rule's name are its own. -/
theorem filter_flatMap_rule {rules : List Rule} {found : Rule → List Finding}
    (hfound : ∀ r, ∀ f ∈ found r, f.rule = r.name) (hnames : (rules.map (·.name)).Nodup)
    {r : Rule} (hr : r ∈ rules) :
    (rules.flatMap found).filter (·.rule == r.name) = found r := by
  have hown : ∀ q : Rule, q.name = r.name → (found q).filter (·.rule == r.name) = found q := by
    intro q hq
    rw [List.filter_eq_self]
    intro f hf
    rw [hfound q f hf, hq, beq_self_eq_true]
  have hother : ∀ q : Rule, q.name ≠ r.name → (found q).filter (·.rule == r.name) = [] := by
    intro q hq
    rw [List.filter_eq_nil_iff]
    intro f hf
    rw [hfound q f hf, beq_iff_eq]
    exact hq
  induction rules with
  | nil => cases hr
  | cons q rules ih =>
    rw [List.map_cons, List.nodup_cons] at hnames
    rw [List.flatMap_cons, List.filter_append]
    rcases List.mem_cons.mp hr with rfl | hr
    · -- The rule itself: no later one has its name.
      have hnone : (rules.flatMap found).filter (·.rule == r.name) = [] := by
        rw [List.filter_flatMap, List.flatMap_eq_nil_iff]
        intro q hq
        apply hother
        rintro heq
        exact hnames.1 (heq ▸ List.mem_map_of_mem hq)
      rw [hown r rfl, hnone, List.append_nil]
    · -- It is one of the later rules, and the first has another name.
      have hne : q.name ≠ r.name := fun heq => hnames.1 (heq ▸ List.mem_map_of_mem hr)
      rw [hother q hne, ih hnames.2 hr, List.nil_append]

/-- Only the rules that apply contribute. -/
theorem flatMap_rulesFor (extension : String) (found : Rule → List Finding) :
    (check.rulesFor extension default).flatMap found =
      check.rules.flatMap fun r => if r.appliesTo extension default then found r else [] := by
  rw [rulesFor]
  induction check.rules with
  | nil => rfl
  | cons r rules ih =>
    rw [List.filter_cons, List.flatMap_cons]
    split
    · rw [List.flatMap_cons, ih]
    · rw [ih, List.nil_append]

/-- Of what is found in a file, the part of a rule is what that rule finds by itself. -/
theorem filter_findingsIn (hnames : (check.rules.map (·.name)).Nodup) {r : Rule}
    (hr : r ∈ check.rules) (file : Candidate) (acts : List ScanAct) :
    (check.findingsIn default text file).filter (·.rule == r.name) =
      ((r.scanFile file default (ScanAct.reader text) ScanAct.warner).run acts).1 := by
  rw [Rule.run_scanFile, findingsIn]
  cases text file with
  | error e => simp
  | ok t =>
    dsimp only
    rw [flatMap_rulesFor]
    refine filter_flatMap_rule ?_ hnames hr
    intro q f hf
    split at hf
    · exact (Rule.of_mem_scan hf).1
    · cases hf

/-- Putting the findings in the order of the rules undoes going through the files first. -/
theorem findings_outcome (hnames : (check.rules.map (·.name)).Nodup) (files : List Candidate)
    (acts : List ScanAct) :
    (check.outcome default text files).findings =
      check.rules.flatMap fun r => files.flatMap fun file =>
        ((r.scanFile file default (ScanAct.reader text) ScanAct.warner).run acts).1 := by
  show check.inRuleOrder _ = _
  unfold inRuleOrder
  apply List.flatMap_congr
  intro r hr
  rw [List.filter_flatMap]
  apply List.flatMap_congr
  intro file _
  exact filter_findingsIn hnames hr file acts

/-! ### What the log holds -/

/-- What is done about one file of the check. -/
def actsOn (text : Candidate → Except OsError String) (file : Candidate) : List ScanAct :=
  .opened file :: match text file with
    | .ok _ => []
    | .error e => [.warned (.fileSkipped file.relpath e.message)]

theorem run_visit (file : Candidate) (acts : List ScanAct) :
    (visit text (fun file => ScanAct.log (.opened file)) ScanAct.warner file).run acts =
      ((), acts ++ actsOn text file) := by
  unfold visit actsOn
  cases text file with
  | ok t => rfl
  | error e =>
    show ((), (acts ++ [_]) ++ [_]) = ((), acts ++ [_, _])
    rw [List.append_assoc]
    rfl

theorem run_forM_visit (files : List Candidate) (acts : List ScanAct) :
    (forM files (visit text (fun file => ScanAct.log (.opened file)) ScanAct.warner)).run acts =
      ((), acts ++ files.flatMap (actsOn text)) := by
  induction files generalizing acts with
  | nil =>
    rw [List.forM_nil, List.flatMap_nil, List.append_nil]
    rfl
  | cons file files ih =>
    rw [List.forM_cons, StateT.run_bind, run_visit]
    apply (ih _).trans
    rw [List.flatMap_cons, List.append_assoc]

/-- A scan brings its outcome and does what is to be done about each of its files. -/
theorem run_scan (files : List Candidate) (acts : List ScanAct) :
    (check.scan files default (ScanAct.reader text) ScanAct.warner).run acts =
      (check.outcome default text files,
        acts ++ (files.filter (check.concerns default)).flatMap (actsOn text)) := by
  have hread : ∀ file, ScanAct.reader text file =
      (do ScanAct.log (.opened file); pure (text file)) := fun _ => rfl
  rw [scan_eq_pure_outcome hread, StateT.run_bind, run_forM_visit]
  rfl

theorem filterMap_actsOn (files : List Candidate) :
    (files.flatMap (actsOn text)).filterMap ScanAct.opened? = files := by
  induction files with
  | nil => rfl
  | cons file files ih =>
    rw [List.flatMap_cons, List.filterMap_append, ih, actsOn]
    cases text file with
    | ok t => rfl
    | error e => rfl

/-- **Scanning all at once finds what the rules find one by one, in the order of the rules and
then of the files; it reads the files that some rule applies to, in their order and once each,
and leaves a note of those among them that cannot be read.** -/
theorem scan_eq_scanFile (check : Check) (hnames : (check.rules.map (·.name)).Nodup)
    (default : List String) (text : Candidate → Except OsError String)
    (files : List Candidate) :
    let concerned := files.filter fun file =>
      check.rules.any (·.appliesTo file.extension default)
    let ran := (check.scan files default (ScanAct.reader text) ScanAct.warner).run []
    (ran.1.findings = check.rules.flatMap fun r => files.flatMap fun file =>
        ((r.scanFile file default (ScanAct.reader text) ScanAct.warner).run []).1) ∧
      ran.2.filterMap ScanAct.opened? = concerned ∧
      ran.1.skipped = concerned.filterMap fun file =>
        match text file with
        | .ok _ => none
        | .error e => some (file.relpath ++ ": " ++ e.message) := by
  intro concerned ran
  have hran : ran = (check.outcome default text files, [] ++ concerned.flatMap (actsOn text)) :=
    run_scan files []
  rw [hran]
  refine ⟨findings_outcome hnames files [], ?_, skipped_outcome files⟩
  rw [List.nil_append, filterMap_actsOn]

/-- A check with a rule for the extensions of the profile and one for scripts. -/
def mixedCheck : Check where
  name := "mixed"
  title := "Mixed"
  severity := .review
  rules := [.call "eval", { Rule.literal "marker" "TODO" with extensions := some [".php", ".js"] }]

/-- Four files: two to be read, one that is refused and one that no rule applies to. -/
def mixedFiles : List Candidate :=
  [⟨⟨"/", ["p", "a.js"]⟩, "a.js", ".js"⟩, ⟨⟨"/", ["p", "a.css"]⟩, "a.css", ".css"⟩,
   ⟨⟨"/", ["p", "b.php"]⟩, "b.php", ".php"⟩, ⟨⟨"/", ["p", "c.php"]⟩, "c.php", ".php"⟩]

/-- What is in them. -/
def mixedText (file : Candidate) : Except OsError String :=
  if file.relpath = "b.php" then .error (.stated "Permission denied")
  else .ok "TODO\neval(1)\n"

theorem scan_eq_scanFile_mixed :
    (mixedCheck.rules.map (·.name)).Nodup ∧
    let ran := (mixedCheck.scan mixedFiles [".php"] (ScanAct.reader mixedText)
      ScanAct.warner).run []
    ran.1.findings.map Finding.render = ["c.php:2: eval(1)", "a.js:1: TODO", "c.php:1: TODO"] ∧
      (ran.2.filterMap ScanAct.opened?).map (·.relpath) = ["a.js", "b.php", "c.php"] ∧
      ran.1.skipped = ["b.php: Permission denied"] := by
  have hnames : (mixedCheck.rules.map (·.name)).Nodup := by decide
  obtain ⟨hfindings, hopened, hskipped⟩ :=
    scan_eq_scanFile mixedCheck hnames [".php"] mixedText mixedFiles
  refine ⟨hnames, ?_, ?_, ?_⟩
  · rw [hfindings]
    decide +kernel
  · rw [hopened]
    decide +kernel
  · rw [hskipped]
    decide +kernel

end Check

end PluginSweep

/-
PluginSweep/Proofs/Ledger/Entries.lean

Ledgers over whole runs.  A ledger is handed entries of three kinds: what a
check found, what a tool printed, and that a step failed.  An entry whose name
is new becomes the last section (`recordEntry_of_new`); an entry whose name is
known is refused, and nothing changes (`recordEntry_of_known`).

So, however many entries there are, what is kept is the first entry of every
name (`sections_recordEach`, against `firsts`, which knows nothing of ledgers),
and the section that decides whether the plugin may be executed is never
replaced (`get?_recordEach_append`).  Together: `recordEach_sound`.
-/
import Mathlib.Data.List.Induction
import PluginSweep.Proofs.Ledger
import PluginSweep.Tool.Basic

namespace PluginSweep

/-! ### Entries -/

/-- What a ledger is handed. -/
inductive Entry
  /-- What a check found. -/
  | scan (check : Check) (findings : List Finding) (notes skipped : List String)
  /-- What a tool printed. -/
  | output (name title : String) (result : ToolResult)
  /-- Why a step failed. -/
  | failure (name title : String) (severity : Severity) (error : String)

namespace Entry

/-- The name under which the entry is to be kept. -/
def name : Entry → String
  | scan check .. => check.name
  | output name .. => name
  | failure name .. => name

/-- The findings that come with the entry. -/
def findings : Entry → List Finding
  | scan _ findings .. => findings
  | output .. => []
  | failure .. => []

/-- The section that is made of the entry. -/
def made : Entry → Section
  | scan check findings notes skipped => .ofScan check findings notes skipped
  | output name title result => .ofOutput name title result.output result.exitCode
  | failure name title severity error => .ofFailure name title severity error

@[simp] theorem made_name (e : Entry) : e.made.name = e.name := by
  cases e <;> rfl

@[simp] theorem made_findings (e : Entry) : e.made.findings = e.findings := by
  cases e <;> rfl

/-- The first entry of every name. -/
def firsts : List Entry → List Entry
  | [] => []
  | e :: es => e :: (firsts es).filter (·.name ≠ e.name)

theorem firsts_concat (past : List Entry) (e : Entry) :
    firsts (past ++ [e]) = firsts past ++ if e.name ∈ past.map name then [] else [e] := by
  induction past with
  | nil => rfl
  | cons p past ih =>
    simp only [List.cons_append, firsts, ih, List.filter_append, List.map_cons, List.mem_cons]
    by_cases hpast : e.name ∈ past.map name
    · simp [hpast]
    · by_cases hp : e.name = p.name
      · simp [hp]
      · simp [hpast, hp]

/-- Among the first entries of every name, every name still occurs. -/
theorem mem_map_firsts_iff {es : List Entry} {n : String} :
    n ∈ (firsts es).map name ↔ n ∈ es.map name := by
  induction es with
  | nil => rfl
  | cons e es ih =>
    simp only [firsts, List.map_cons, List.mem_cons]
    by_cases hn : n = e.name
    · simp [hn]
    · rw [← ih]
      constructor
      · rintro (h | h)
        · exact absurd h hn
        · obtain ⟨e', he', rfl⟩ := List.mem_map.mp h
          exact Or.inr (List.mem_map_of_mem (List.mem_filter.mp he').1)
      · rintro (h | h)
        · exact absurd h hn
        · obtain ⟨e', he', rfl⟩ := List.mem_map.mp h
          exact Or.inr (List.mem_map_of_mem (List.mem_filter.mpr ⟨he', decide_eq_true hn⟩))

theorem nodup_map_firsts (es : List Entry) : ((firsts es).map name).Nodup := by
  induction es with
  | nil => exact List.nodup_nil
  | cons e es ih =>
    rw [firsts, List.map_cons, List.nodup_cons]
    constructor
    · intro h
      obtain ⟨e', he', hname⟩ := List.mem_map.mp h
      exact of_decide_eq_true (List.mem_filter.mp he').2 hname
    · exact ih.sublist (List.filter_sublist.map name)

end Entry

namespace Ledger

open Entry

/-! ### Handing entries in -/

/-- The ledger after an entry is handed in; a refusal leaves it as it is. -/
def recordEntry (l : Ledger) (e : Entry) : Ledger :=
  match l.record e.made with
  | .ok l' => l'
  | .error _ => l

/-- The ledger after entries are handed in one after the other. -/
def recordEach (l : Ledger) (es : List Entry) : Ledger := es.foldl recordEntry l

/-- The wording of what stands against executing the plugin; empty if nothing does. -/
def obstacleText (l : Ledger) : String := (l.obstacle.map Obstacle.reason).getD ""

theorem recordEach_append (l : Ledger) (past later : List Entry) :
    l.recordEach (past ++ later) = (l.recordEach past).recordEach later :=
  List.foldl_append

theorem recordEach_concat (l : Ledger) (past : List Entry) (e : Entry) :
    l.recordEach (past ++ [e]) = (l.recordEach past).recordEntry e :=
  recordEach_append l past [e]

variable {l : Ledger} {e : Entry}

theorem record_of_new (h : e.name ∉ l.sections.map (·.name)) :
    l.record e.made = .ok ⟨l.sections ++ [e.made]⟩ := by
  refine record_eq_ok_iff.mpr ⟨get?_eq_none_iff.mpr ?_, rfl⟩
  rwa [made_name]

theorem record_of_known (h : e.name ∈ l.sections.map (·.name)) :
    l.record e.made = .error ⟨e.name⟩ := by
  refine record_eq_error_iff.mpr ⟨?_, ?_⟩
  · rwa [made_name]
  · rw [made_name]

theorem recordEntry_of_new (h : e.name ∉ l.sections.map (·.name)) :
    l.recordEntry e = ⟨l.sections ++ [e.made]⟩ := by
  rw [recordEntry, record_of_new h]

theorem recordEntry_of_known (h : e.name ∈ l.sections.map (·.name)) : l.recordEntry e = l := by
  rw [recordEntry, record_of_known h]

/-! ### Whole runs -/

/-- Sections are only ever added, at the end. -/
theorem isPrefix_recordEach (l : Ledger) (es : List Entry) :
    l.sections <+: (l.recordEach es).sections := by
  induction es generalizing l with
  | nil => exact List.prefix_rfl
  | cons e es ih =>
    have hstep : l.sections <+: (l.recordEntry e).sections := by
      by_cases h : e.name ∈ l.sections.map (·.name)
      · simp [recordEntry_of_known h]
      · rw [recordEntry_of_new h]
        exact List.prefix_append _ _
    exact hstep.trans (ih (l.recordEntry e))

theorem map_name_made (es : List Entry) :
    (es.map made).map (·.name) = es.map Entry.name := by
  simp [Function.comp_def]

/-- What is kept is the first entry of every name. -/
theorem sections_recordEach (es : List Entry) :
    (recordEach {} es).sections = (firsts es).map made := by
  induction es using List.reverseRecOn with
  | nil => rfl
  | append_singleton past e ih =>
    have hknown : e.name ∈ (recordEach {} past).sections.map (·.name) ↔
        e.name ∈ past.map Entry.name := by
      rw [ih, map_name_made, mem_map_firsts_iff]
    rw [recordEach_concat, firsts_concat]
    by_cases h : e.name ∈ past.map Entry.name
    · rw [recordEntry_of_known (hknown.mpr h), ih, if_pos h, List.append_nil]
    · rw [recordEntry_of_new (mt hknown.mp h), ih, if_neg h, List.map_append]
      rfl

theorem obstacle_of_get? {s : Section} (h : l.get? Check.highRiskName = some s) :
    l.obstacle = obstacleIn s := by
  rw [obstacle, h, Option.bind_some]

/-- An obstacle is never worded by the empty text. -/
theorem obstacleText_eq_empty_iff : l.obstacleText = "" ↔ l.obstacle = none := by
  rw [obstacleText]
  rcases l.obstacle with - | o
  · simp
  · cases o <;> simp [Obstacle.reason]

/-- The section on high-risk functions is never replaced. -/
theorem get?_recordEach_append {past : List Entry} {name : String} {s : Section}
    (h : (l.recordEach past).get? name = some s) (later : List Entry) :
    (l.recordEach (past ++ later)).get? name = some s := by
  rw [recordEach_append]
  exact get?_of_isPrefix (isPrefix_recordEach _ later) h

/-- How a ledger stands after a run of entries that began with an empty one. -/
structure Sound (es : List Entry) : Prop where
  /-- What is kept is the first entry of every name, in the order of the entries. -/
  sections : (recordEach {} es).sections = (firsts es).map made
  /-- No two sections share a name. -/
  distinct : ((recordEach {} es).sections.map (·.name)).Nodup
  /-- An entry is recorded if its name is new. -/
  recorded : ∀ past e later, es = past ++ e :: later →
    e.name ∉ (recordEach {} past).sections.map (·.name) →
    (recordEach {} past).record e.made = .ok (recordEach {} (past ++ [e])) ∧
      (recordEach {} (past ++ [e])).sections = (recordEach {} past).sections ++ [e.made]
  /-- An entry whose name is known is refused, and nothing changes. -/
  refused : ∀ past e later, es = past ++ e :: later →
    e.name ∈ (recordEach {} past).sections.map (·.name) →
    (recordEach {} past).record e.made = .error ⟨e.name⟩ ∧
      recordEach {} (past ++ [e]) = recordEach {} past
  /-- The total is that of the findings of the entries that were not refused. -/
  total : (recordEach {} es).total = ((firsts es).map (·.findings.length)).sum
  /-- Once there is a section on high-risk functions, the obstacle is settled. -/
  settled : ∀ past later s, es = past ++ later →
    (recordEach {} past).get? Check.highRiskName = some s →
    (recordEach {} es).obstacleText = (recordEach {} past).obstacleText ∧
      ((recordEach {} es).obstacleText = "" ↔
        s.findings = [] ∧ s.error = none ∧ s.skipped = [])

/-- **A ledger over a whole run.**  Whatever entries of whatever kinds are handed in, the
first entry of every name is kept, the others are refused without effect, and what the
section on high-risk functions has against executing the plugin stands from then on. -/
theorem recordEach_sound (es : List Entry) : Sound es := by
  have hsections := sections_recordEach es
  refine ⟨hsections, ?distinct, ?recorded, ?refused, ?total, ?settled⟩
  case distinct =>
    rw [hsections, map_name_made]
    exact nodup_map_firsts es
  case recorded =>
    intro past e later _ hnew
    rw [recordEach_concat, recordEntry_of_new hnew]
    exact ⟨record_of_new hnew, rfl⟩
  case refused =>
    intro past e later _ hknown
    rw [recordEach_concat, recordEntry_of_known hknown]
    exact ⟨record_of_known hknown, rfl⟩
  case total =>
    rw [total_eq_sum, hsections, List.map_map]
    simp only [Function.comp_def, Section.count, made_findings]
  case settled =>
    rintro past later s rfl hs
    have hpast := obstacle_of_get? hs
    have hall := obstacle_of_get? (get?_recordEach_append hs later)
    constructor
    · rw [obstacleText, obstacleText, hall, hpast]
    · rw [obstacleText_eq_empty_iff, hall, obstacleIn_eq_none_iff]

-- A failure under the name of the decisive check comes too late to clear the plugin.
example :
    (recordEach {}
      [.scan ⟨Check.highRiskName, "High-risk functions", .critical, [], ""⟩
        [⟨"eval", "a.php", some 3, "eval($x);"⟩] [] [],
       .failure Check.highRiskName "High-risk functions" .critical "refused"]).obstacleText =
      "high-risk functions detected" := by
  decide

end Ledger

end PluginSweep

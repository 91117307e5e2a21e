/-
PluginSweep/Proofs/CommandLine/Session.lean

Runs of sessions, on any console.  Showing a text changes no file and fails only if its marks
cannot be read (`Shows`).  A sweep in a session is a sweep by itself, in
surroundings that print what it announces (`announced`, `runs_sweep_ok_iff`; for
surroundings that keep a history, `shown`, `runs_sweep_ok`).  If it comes to no
summary, the exit code is one (`breaks_attempt`, `runs_report_error`), and if it
does, the report on the summary decides (`runs_report_ok`).
-/
import PluginSweep.CommandLine.Session
import PluginSweep.Proofs.Request.History
import PluginSweep.Proofs.Tool.Launch

namespace PluginSweep.CommandLine.Session

open History
open Dialogue (Conduct)

variable {α σ : Type} {c : Conduct Request.Reply σ} {s : Settings}

/-! ### Showing -/

/-- The failure of a text that cannot be shown. -/
def Unshown (e : Ending) : Prop :=
  ∃ fault, e = .broken (.markup fault)

/-- The work leaves the files as they are, and fails only because a text cannot be shown. -/
abbrev Shows (c : Conduct Request.Reply σ) {α : Type} (w : Session α) : Prop :=
  ∀ fs, Work.Within c (fun x : FileSystem × σ => x.1 = fs) Unshown w

theorem shows_asking {α : Type} (work : Asking α) : Shows c (asking work) := by
  intro fs x o y hx h
  obtain ⟨a, hrun, rfl⟩ := Work.runs_lift_iff.mp h
  obtain ⟨-, hst⟩ := Work.runs_stateT_lift_iff.mp hrun
  exact ⟨hst.trans hx, fun e he => by cases he⟩

variable [Console]

theorem shows_say (text : String) : Shows c (say text) := by
  intro fs
  unfold say
  split
  · exact shows_asking _ fs
  · exact Work.within_throw ⟨_, rfl⟩

theorem shows_showTable (t : Table) : Shows c (showTable t) := by
  intro fs
  unfold showTable
  split
  · exact shows_asking _ fs
  · exact Work.within_throw ⟨_, rfl⟩

theorem shows_showSummary (summary : Summary) (dir : Path) :
    Shows c (showSummary summary dir) := by
  intro fs
  have hend : Work.Within c (fun x : FileSystem × σ => x.1 = fs) Unshown (do
      say ("\n  Reports: " ++ dir.toString)
      say ("  Quick view: cat " ++ (dir.child Report.summaryFile).toString)) :=
    (shows_say _ fs).bind fun _ => shows_say _ fs
  have hinterrupted : Work.Within c (fun x : FileSystem × σ => x.1 = fs) Unshown (do
      if summary.interrupted then say "  [yellow]Run interrupted: reports are partial[/]"
      say ("\n  Reports: " ++ dir.toString)
      say ("  Quick view: cat " ++ (dir.child Report.summaryFile).toString)) := by
    dsimp only
    split
    · exact (shows_say _ fs).bind fun _ => hend
    · exact hend
  refine (shows_showTable _ fs).bind fun _ => ?_
  refine (shows_say _ fs).bind fun _ => ?_
  dsimp only
  split
  · exact (shows_say _ fs).bind fun _ => hinterrupted
  · exact hinterrupted

/-! ### Ending early -/

/-- A session that ends early has an exit code of one. -/
def Broken (e : Ending) : Prop :=
  e.code = 1

omit [Console] in
theorem Unshown.broken {e : Ending} (h : Unshown e) : Broken e := by
  obtain ⟨fault, rfl⟩ := h
  rfl

/-- A session that is stopped never goes on, and leaves the files as they are. -/
theorem runs_stop {α : Type} {text : String} {x y : FileSystem × σ} {o : Except Ending α}
    (h : Work.Runs c (stop text) x o y) :
    y.1 = x.1 ∧ ∃ e, o = .error e ∧ (Unshown e ∨ e = .exit 1) := by
  rcases Work.runs_bind_iff.mp h with ⟨_, z, hsay, hthrow⟩ | ⟨e, hsay, rfl⟩
  · obtain ⟨rfl, rfl⟩ := Work.runs_throw_iff.mp hthrow
    exact ⟨(shows_say text x.1 x _ y rfl hsay).1, _, rfl, .inr rfl⟩
  · obtain ⟨hfiles, hunshown⟩ := shows_say text x.1 x _ y rfl hsay
    exact ⟨hfiles, e, rfl, .inl (hunshown e rfl)⟩

/-! ### Sweeps in a session -/

/-- The conduct towards a sweep of surroundings that are shown its announcements. -/
def announced (c : Conduct Request.Reply σ) : Conduct Request.Reply σ :=
  fun state question reply after => match question, reply with
  | .announce message, _ => ∃ text, Console.plain (announcement message) = .ok text ∧
      c state (.print text) () after
  | question, reply => c state question reply after

/-- Work that is announced in a session is work whose announcements are shown. -/
theorem runs_announcing_iff {work : Asking α} {state after : σ} {a : α} :
    Dialogue.Runs c (announcing work).run state (.ok a) after ↔
      Dialogue.Runs (announced c) work state a after := by
  induction work generalizing state with
  | done b =>
    refine Dialogue.runs_pure_iff.trans ?_
    rw [Dialogue.runs_done_iff, Except.ok.injEq]
  | ask question next ih =>
    rw [announcing, Dialogue.carryOut, ExceptT.run_bind, Dialogue.runs_bind_iff,
      Dialogue.runs_ask_iff]
    constructor
    · rintro ⟨outcome, between, hasked, hrest⟩
      cases outcome with
      | error e => cases (Dialogue.runs_pure_iff.mp hrest).1
      | ok reply =>
        refine ⟨reply, between, ?_, (ih reply).mp hrest⟩
        -- An announcement is shown as a line of text; every other question is put as it is.
        cases question with
        | announce message =>
          rcases hplain : Console.plain (announcement message) with e | text
          · simp only [hplain] at hasked
            cases (Dialogue.runs_pure_iff.mp hasked).1
          · simp only [hplain] at hasked
            obtain ⟨_, hprint, -⟩ := Dialogue.runs_map_iff.mp hasked
            exact ⟨text, hplain, Asking.runs_request_iff.mp hprint⟩
        | _ =>
          obtain ⟨_, hreply, heq⟩ := Dialogue.runs_map_iff.mp hasked
          obtain rfl := Except.ok.inj heq
          show c state _ reply between
          exact Asking.runs_request_iff.mp hreply
    · rintro ⟨reply, between, hreply, hrest⟩
      refine ⟨.ok reply, between, ?_, (ih reply).mpr hrest⟩
      cases question with
      | announce message =>
        obtain ⟨text, hplain, hprint⟩ := hreply
        simp only [hplain]
        exact Dialogue.runs_map_iff.mpr ⟨(), Asking.runs_request_iff.mpr hprint, rfl⟩
      | _ =>
        exact Dialogue.runs_map_iff.mpr ⟨reply, Asking.runs_request_iff.mpr hreply, rfl⟩

/-- A sweep in a session is a sweep by itself, on the tree of the session. -/
theorem runs_sweep_ok_iff {x y : FileSystem × σ} {outcome : Except SweepError Summary} :
    Work.Runs c (sweep s) x (.ok outcome) y ↔
      ∃ st, Work.Runs (announced c) (Sweep.run s) ({ tree := x.1 }, x.2) outcome (st, y.2) ∧
        y.1 = st.tree := by
  rw [sweep, Work.runs_bind_ok_iff]
  constructor
  · rintro ⟨found, z, hget, hask⟩
    obtain ⟨heq, rfl⟩ := Work.runs_get_iff.mp hget
    obtain rfl := Except.ok.inj heq
    obtain ⟨result, z, hasked, hrest⟩ := Work.runs_bind_ok_iff.mp hask
    obtain ⟨result', hrun, hresult⟩ := Work.runs_lift_iff.mp hasked
    obtain rfl := Except.ok.inj hresult
    obtain ⟨hannounced, -⟩ := Work.runs_stateT_lift_iff.mp hrun
    cases result with
    | error e => cases (Work.runs_throw_iff.mp hrest).1
    | ok made =>
      obtain ⟨outcome', st⟩ := made
      obtain ⟨_, z', hset, hend⟩ := Work.runs_bind_ok_iff.mp hrest
      obtain ⟨-, rfl⟩ := Work.runs_set_iff.mp hset
      obtain ⟨hsame, rfl⟩ := Work.runs_pure_iff.mp hend
      obtain rfl := Except.ok.inj hsame
      exact ⟨st, runs_announcing_iff.mp hannounced, rfl⟩
  · rintro ⟨st, hrun, htree⟩
    refine ⟨x.1, x, Work.runs_get_iff.mpr ⟨rfl, rfl⟩, Work.runs_bind_ok_iff.mpr ?_⟩
    refine ⟨.ok (outcome, st), (x.1, y.2), Work.runs_lift_iff.mpr ⟨_, ?_, rfl⟩, ?_⟩
    · exact Work.runs_stateT_lift_iff.mpr ⟨runs_announcing_iff.mpr hrun, rfl⟩
    · refine Work.runs_bind_ok_iff.mpr ⟨⟨⟩, (st.tree, y.2), Work.runs_set_iff.mpr ⟨rfl, rfl⟩, ?_⟩
      exact Work.runs_pure_iff.mpr ⟨rfl, Prod.ext htree rfl⟩

/-- The conduct of surroundings that print what they are told of. -/
def shown : Conduct Request.Reply History := fun past question reply now =>
  match question, reply with
  | .announce _, _ => ∃ text, heard past (.print text) () now
  | question, reply => heard past question reply now

omit [Console] in
theorem prefix_of_shown {past now : History} {question : Request} {reply : question.Reply}
    (h : shown past question reply now) : past <+: now := by
  cases question with
  | announce message =>
    obtain ⟨text, hprint⟩ := h
    exact prefix_of_heard hprint
  | _ => exact prefix_of_heard h

/-- A sweep in a session that comes to its end is a sweep by itself, on the tree of the session,
which afterwards is that of the sweep. -/
theorem runs_sweep_ok {x y : FileSystem × History} {outcome : Except SweepError Summary}
    (h : Work.Runs heard (sweep s) x (.ok outcome) y) :
    ∃ st, Work.Runs shown (Sweep.run s) ({ tree := x.1 }, x.2) outcome (st, y.2) ∧
      y.1 = st.tree := by
  obtain ⟨st, hrun, htree⟩ := runs_sweep_ok_iff.mp h
  refine ⟨st, hrun.mono fun {past question reply now} hreply => ?_, htree⟩
  cases question with
  | announce message =>
    obtain ⟨text, -, hprint⟩ := hreply
    exact ⟨text, hprint⟩
  | _ => exact hreply

/-! ### Attempts and reports -/

/-- The work fails only by ending the session with an exit code of one. -/
abbrev Breaks (c : Conduct Request.Reply σ) {α : Type} (w : Session α) : Prop :=
  Work.Within c (fun _ => True) Broken w

omit [Console] in
theorem breaks_throw {α : Type} {e : Ending} (h : Broken e) :
    Breaks c (throw e : Session α) :=
  Work.within_throw h

omit [Console] in
theorem breaks_get : Breaks c (get : Session FileSystem) := by
  intro x o y _ h
  obtain ⟨rfl, -⟩ := Work.runs_get_iff.mp h
  exact ⟨trivial, fun e he => by cases he⟩

omit [Console] in
theorem breaks_asking {α : Type} (work : Asking α) : Breaks c (asking work) := by
  intro x o y _ h
  obtain ⟨a, -, rfl⟩ := Work.runs_lift_iff.mp h
  exact ⟨trivial, fun e he => by cases he⟩

theorem breaks_say (text : String) : Breaks c (say text) := by
  intro x o y _ h
  exact ⟨trivial, fun e he => ((shows_say text x.1 x o y rfl h).2 e he).broken⟩

theorem breaks_stop {α : Type} (text : String) : Breaks c (stop text : Session α) :=
  (breaks_say text).bind fun _ => breaks_throw rfl

theorem breaks_sweep : Breaks c (sweep s) := by
  refine breaks_get.bind fun tree => (breaks_asking _).bind fun made => ?_
  cases made with
  | error e => exact breaks_throw rfl
  | ok made =>
    refine Work.Within.bind (fun x o y _ h => ?_) fun _ => Work.within_pure _
    obtain ⟨rfl, -⟩ := Work.runs_set_iff.mp h
    exact ⟨trivial, fun e he => by cases he⟩

theorem breaks_target (given : String) : Breaks c (target given) := by
  refine breaks_get.bind fun tree => ?_
  split
  · exact Work.within_pure _
  · exact breaks_throw rfl
  · exact breaks_stop _

/-- Without a summary the exit code is one, whatever the reason. -/
theorem breaks_attempt (env : Environment) (o : SweepOptions) : Breaks c (attempt env o) := by
  have hprepare : Breaks c (prepare env o) := by
    refine (breaks_target _).bind fun target => breaks_get.bind fun tree => ?_
    split
    · exact Work.within_pure _
    · exact breaks_throw rfl
  refine hprepare.bind fun s => (breaks_say _).bind fun _ => ?_
  exact breaks_sweep.bind fun outcome => Work.within_pure _

/-- Reporting on a sweep that failed ends the session. -/
theorem runs_report_error {e : SweepError} {x y : FileSystem × σ} {o : Except Ending Unit}
    (h : Work.Runs c (report s (.error e)) x o y) :
    ∃ ending, o = .error ending ∧ Broken ending := by
  have hstop (text : String) (h : Work.Runs c (stop text) x o y) :
      ∃ ending, o = .error ending ∧ Broken ending := by
    obtain ⟨-, ending, rfl, hend⟩ := runs_stop h
    rcases hend with hunshown | rfl
    · exact ⟨ending, rfl, hunshown.broken⟩
    · exact ⟨_, rfl, rfl⟩
  unfold report at h
  split at h
  · exact hstop _ h
  · exact hstop _ h
  · obtain ⟨rfl, -⟩ := Work.runs_throw_iff.mp h
    exact ⟨_, rfl, rfl⟩
  · cases ‹Except.error e = .ok _›

/-- Reporting on a summary ends the session if and only if every step failed or the run was told
to end, unless something cannot be shown. -/
theorem runs_report_ok {summary : Summary} {x y : FileSystem × σ} {o : Except Ending Unit}
    (h : Work.Runs c (report s (.ok summary)) x o y) :
    y.1 = x.1 ∧ ((∃ e, Unshown e ∧ o = .error e) ∨
      o = if summary.allFailed || summary.interrupted then .error (.exit 1) else .ok ()) := by
  rcases Work.runs_bind_iff.mp h with ⟨_, z, hshow, hrest⟩ | ⟨e, hshow, rfl⟩
  · -- All is shown, and how the steps ended decides.
    have hz := (shows_showSummary summary _ x.1 x _ z rfl hshow).1
    rw [← hz]
    dsimp only at hrest
    split at hrest
    · rename_i hall
      rw [hall]
      rcases Work.runs_bind_iff.mp hrest with ⟨_, z', hstop, -⟩ | ⟨e, hstop, rfl⟩
      · obtain ⟨-, e, heq, -⟩ := runs_stop hstop
        cases heq
      · obtain ⟨hfiles, e', heq, hend⟩ := runs_stop hstop
        obtain rfl := Except.error.inj heq
        refine ⟨hfiles, ?_⟩
        rcases hend with hunshown | rfl
        · exact .inl ⟨_, hunshown, rfl⟩
        · exact .inr rfl
    · rename_i hall
      rw [Bool.eq_false_iff.mpr hall, Bool.false_or]
      split at hrest
      · obtain ⟨rfl, rfl⟩ := Work.runs_throw_iff.mp hrest
        exact ⟨rfl, .inr (if_pos ‹_›).symm⟩
      · obtain ⟨rfl, rfl⟩ := Work.runs_pure_iff.mp hrest
        exact ⟨rfl, .inr (if_neg ‹_›).symm⟩
  · -- Something could not be shown.
    obtain ⟨hfiles, hunshown⟩ := shows_showSummary summary _ x.1 x _ y rfl hshow
    exact ⟨hfiles, .inl ⟨e, hunshown e rfl, rfl⟩⟩

end PluginSweep.CommandLine.Session

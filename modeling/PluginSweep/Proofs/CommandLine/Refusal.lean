/-
PluginSweep/Proofs/CommandLine/Refusal.lean

How a session ends whose plugin is not resolved.  If the plugin is missing, nothing is
done but to show the reason, and the session ends with an exit code of one; unless the
reason cannot be read as a text with style marks, for a path can hold brackets
(`runs_target_of_missing`).  If the text goes astray, the session breaks off with the
failure and shows nothing (`runs_target_of_path`).  So the text that is given as the
plugin, as long as it holds no NUL, is a directory or ends the session in one of these
ways, and it is told exactly when in which (`run_refuses`).
-/
import PluginSweep.Proofs.CommandLine.Interruption
import PluginSweep.Proofs.Target.Refusal

namespace PluginSweep

open Dialogue (Conduct)

/-! ### Work that never succeeds -/

namespace Work

variable {ε S Q : Type} {R : Q → Type} {α β σ : Type} {c : Conduct R σ}

/-- Work that follows work that never succeeds never succeeds either. -/
theorem not_runs_bind_ok {w : Work ε S Q R α} {f : α → Work ε S Q R β} {x : S × σ}
    (hfails : ∀ a z, ¬ Runs c w x (.ok a) z) (b : β) (z : S × σ) :
    ¬ Runs c (w >>= f) x (.ok b) z := by
  rw [runs_bind_ok_iff]
  exact fun ⟨a, z, hw, _⟩ => hfails a z hw

/-- Work that follows work that never succeeds fails as that does. -/
theorem runs_bind_error_of_fails {w : Work ε S Q R α} {f : α → Work ε S Q R β} {x y : S × σ}
    {e : ε} (hfails : ∀ a z, ¬ Runs c w x (.ok a) z) :
    Runs c (w >>= f) x (.error e) y ↔ Runs c w x (.error e) y := by
  rw [runs_bind_error_iff]
  exact or_iff_right fun ⟨a, z, hw, _⟩ => hfails a z hw

end Work

namespace CommandLine

open Session

section

variable [Console]

namespace Session

variable {σ : Type} {c : Conduct Request.Reply σ} {env : Environment} {o : SweepOptions}
  {fs : FileSystem} {given text : String}

/-! ### Complaints -/

/-- A text with style marks is shown as the last thing in a session, or it cannot be shown. -/
inductive Complains (c : Conduct Request.Reply σ) (text : String) : σ → Ending → σ → Prop
  | shown {past now : σ} {shown : String} (hplain : Console.plain text = .ok shown)
      (hprint : c past (.print shown) () now) : Complains c text past (.exit 1) now
  | unshown {past now : σ} {fault : MarkupError} (hplain : Console.plain text = .error fault)
      (hsame : now = past) : Complains c text past (.broken (.markup fault)) now

theorem runs_say_iff {x y : FileSystem × σ} {outcome : Except Ending Unit} :
    Work.Runs c (say text) x outcome y ↔
      (∃ shown, Console.plain text = .ok shown ∧ c x.2 (.print shown) () y.2 ∧ y.1 = x.1 ∧
        outcome = .ok ()) ∨
      ∃ fault, Console.plain text = .error fault ∧ y = x ∧
        outcome = .error (.broken (.markup fault)) := by
  unfold say
  rcases Console.plain text with fault | shown
  · constructor
    · intro h
      obtain ⟨rfl, rfl⟩ := Work.runs_throw_iff.mp h
      exact .inr ⟨fault, rfl, rfl, rfl⟩
    · rintro (⟨_, heq, -⟩ | ⟨_, heq, rfl, rfl⟩)
      · cases heq
      · obtain rfl := Except.error.inj heq
        exact Work.runs_throw_iff.mpr ⟨rfl, rfl⟩
  · constructor
    · intro h
      obtain ⟨_, hrun, rfl⟩ := Work.runs_lift_iff.mp h
      obtain ⟨hprint, hfiles⟩ := Work.runs_stateT_lift_iff.mp hrun
      exact .inl ⟨shown, rfl, Asking.runs_request_iff.mp hprint, hfiles, rfl⟩
    · rintro (⟨_, heq, hprint, hfiles, rfl⟩ | ⟨_, heq, -⟩)
      · obtain rfl := Except.ok.inj heq
        exact Work.runs_lift_iff.mpr
          ⟨(), Work.runs_stateT_lift_iff.mpr ⟨Asking.runs_request_iff.mpr hprint, hfiles⟩, rfl⟩
      · cases heq

theorem runs_stop_iff {α : Type} {x y : FileSystem × σ} {outcome : Except Ending α} :
    Work.Runs c (stop text) x outcome y ↔
      ∃ ending, outcome = .error ending ∧ y.1 = x.1 ∧ Complains c text x.2 ending y.2 := by
  rw [stop, Work.runs_bind_iff]
  constructor
  · rintro (⟨_, z, hsay, hthrow⟩ | ⟨ending, hsay, rfl⟩)
    · obtain ⟨rfl, rfl⟩ := Work.runs_throw_iff.mp hthrow
      rcases runs_say_iff.mp hsay with ⟨shown, hplain, hprint, hfiles, -⟩ | ⟨_, -, -, heq⟩
      · exact ⟨_, rfl, hfiles, .shown hplain hprint⟩
      · cases heq
    · rcases runs_say_iff.mp hsay with ⟨_, -, -, -, heq⟩ | ⟨fault, hplain, rfl, heq⟩
      · cases heq
      · obtain rfl := Except.error.inj heq
        exact ⟨_, rfl, rfl, .unshown hplain rfl⟩
  · rintro ⟨ending, rfl, hfiles, hcomplains⟩
    cases hcomplains with
    | shown hplain hprint =>
      exact .inl ⟨(), y, runs_say_iff.mpr (.inl ⟨_, hplain, hprint, hfiles, rfl⟩),
        Work.runs_throw_iff.mpr ⟨rfl, rfl⟩⟩
    | unshown hplain hsame =>
      exact .inr ⟨_, runs_say_iff.mpr (.inr ⟨_, hplain, Prod.ext hfiles hsame, rfl⟩), rfl⟩

/-! ### Plugins that are not resolved -/

/-- The reason that is shown where the plugin is missing. -/
def complaint (e : TargetError) : String :=
  "[red]Error: " ++ e.message ++ "[/]"

theorem runs_target_of_missing {e : TargetError} {x y : FileSystem × σ}
    {outcome : Except Ending Target} (hmissing : Target.Missing x.1 given e) :
    Work.Runs c (target given) x outcome y ↔
      ∃ ending, outcome = .error ending ∧ y.1 = x.1 ∧ Complains c (complaint e) x.2 ending y.2 := by
  unfold target
  rw [Work.runs_get_bind_iff, Target.resolve_of_missing hmissing]
  cases hmissing with
  | absent hfound hnone hcause => exact runs_stop_iff
  | noDirectory hfound hlocate hnode => exact runs_stop_iff

theorem runs_target_of_path {e : FileSystem.PathError} {x y : FileSystem × σ}
    {outcome : Except Ending Target} (hresolve : Target.resolve x.1 given = .error (.path e)) :
    Work.Runs c (target given) x outcome y ↔
      outcome = .error (.broken (.target (.path e))) ∧ y = x := by
  unfold target
  rw [Work.runs_get_bind_iff, hresolve]
  exact Work.runs_throw_iff

/-- A session whose plugin is not resolved ends as taking the plugin does. -/
theorem runs_runSweep_of_fails {x y : FileSystem × σ} {outcome : Except Ending Unit}
    (hfails : ∀ t z, ¬ Work.Runs c (target o.plugin) x (.ok t) z) :
    Work.Runs c (runSweep env o) x outcome y ↔
      ∃ ending, outcome = .error ending ∧ Work.Runs c (target o.plugin) x (.error ending) y := by
  have hprepare : ∀ s z, ¬ Work.Runs c (prepare env o) x (.ok s) z :=
    Work.not_runs_bind_ok hfails
  have hattempt : ∀ s z, ¬ Work.Runs c (attempt env o) x (.ok s) z :=
    Work.not_runs_bind_ok hprepare
  cases outcome with
  | ok u => exact iff_of_false (Work.not_runs_bind_ok hattempt u y) nofun
  | error ending =>
    have hsweep : Work.Runs c (runSweep env o) x (.error ending) y ↔
        Work.Runs c (target o.plugin) x (.error ending) y :=
      (Work.runs_bind_error_of_fails hattempt).trans
        ((Work.runs_bind_error_of_fails hprepare).trans (Work.runs_bind_error_of_fails hfails))
    rw [hsweep]
    simp only [Except.error.injEq, exists_eq_left']

end Session

variable {env : Environment} {words : List String} {o : SweepOptions} {fs : FileSystem}

/-- A run from the command line whose plugin is not resolved ends as taking the plugin does. -/
theorem runs_run_of_fails {σ : Type} {c : Conduct Request.Reply σ} {past now : σ} {ending : Ending}
    {fs' : FileSystem} (hwords : Console.parse words = .ok (.sweep o))
    (hfails : ∀ t z, ¬ Work.Runs c (target o.plugin) (fs, past) (.ok t) z) :
    Dialogue.Runs c ((run env words).run fs) past (ending, fs') now ↔
      Work.Runs c (target o.plugin) (fs, past) (.error ending) (fs', now) := by
  rw [runs_run_sweep_iff hwords]
  constructor
  · rintro ⟨outcome, hrun, rfl⟩
    obtain ⟨ending, rfl, hend⟩ := (runs_runSweep_of_fails hfails).mp hrun
    exact hend
  · exact fun h => ⟨.error ending, (runs_runSweep_of_fails hfails).mpr ⟨ending, rfl, h⟩, rfl⟩

/-- Every run from the command line ends with nothing changed, and with the plugin's refusal as the
only thing that is shown, if that can be shown. -/
def EndsInComplaint (env : Environment) (words : List String) (fs : FileSystem) (e : TargetError) :
    Prop :=
  ∀ {σ : Type} (c : Conduct Request.Reply σ) (past now : σ) (ending : Ending) (fs' : FileSystem),
    Dialogue.Runs c ((run env words).run fs) past (ending, fs') now ↔
      fs' = fs ∧ Complains c (complaint e) past ending now

/-- Every run from the command line breaks off with the failure, with nothing changed or shown. -/
def BreaksOff (env : Environment) (words : List String) (fs : FileSystem)
    (e : FileSystem.PathError) : Prop :=
  ∀ {σ : Type} (c : Conduct Request.Reply σ) (past now : σ) (ending : Ending) (fs' : FileSystem),
    Dialogue.Runs c ((run env words).run fs) past (ending, fs') now ↔
      fs' = fs ∧ now = past ∧ ending = .broken (.target (.path e))

theorem endsInComplaint_of_missing {e : TargetError} (hwords : Console.parse words = .ok (.sweep o))
    (hmissing : Target.Missing fs o.plugin e) : EndsInComplaint env words fs e := by
  intro σ c past now ending fs'
  have htarget : ∀ {outcome : Except Ending Target} {y : FileSystem × σ},
      Work.Runs c (target o.plugin) (fs, past) outcome y ↔
        ∃ ending, outcome = .error ending ∧ y.1 = fs ∧
          Complains c (complaint e) past ending y.2 := runs_target_of_missing hmissing
  have hfails : ∀ t z, ¬ Work.Runs c (target o.plugin) (fs, past) (.ok t) z := by
    intro t z h
    obtain ⟨_, heq, -⟩ := htarget.mp h
    cases heq
  rw [runs_run_of_fails hwords hfails, htarget]
  constructor
  · rintro ⟨_, heq, hfiles, hcomplains⟩
    obtain rfl := Except.error.inj heq
    exact ⟨hfiles, hcomplains⟩
  · rintro ⟨rfl, hcomplains⟩
    exact ⟨ending, rfl, rfl, hcomplains⟩

theorem breaksOff_of_path {e : FileSystem.PathError} (hwords : Console.parse words = .ok (.sweep o))
    (hresolve : Target.resolve fs o.plugin = .error (.path e)) : BreaksOff env words fs e := by
  intro σ c past now ending fs'
  have htarget : ∀ {outcome : Except Ending Target} {y : FileSystem × σ},
      Work.Runs c (target o.plugin) (fs, past) outcome y ↔
        outcome = .error (.broken (.target (.path e))) ∧ y = (fs, past) :=
    runs_target_of_path hresolve
  have hfails : ∀ t z, ¬ Work.Runs c (target o.plugin) (fs, past) (.ok t) z := by
    intro t z h
    cases (htarget.mp h).1
  rw [runs_run_of_fails hwords hfails, htarget]
  constructor
  · rintro ⟨heq, hsame⟩
    obtain rfl := Except.error.inj heq
    obtain ⟨rfl, rfl⟩ := Prod.mk.inj hsame
    exact ⟨rfl, rfl, rfl⟩
  · rintro ⟨rfl, rfl, rfl⟩
    exact ⟨rfl, rfl⟩

/-- **A plugin is resolved, or the session says that it is missing, or the session breaks off**, and
it breaks off if and only if the text that is given goes astray. -/
theorem run_refuses (env : Environment) (hfs : fs.Lawful)
    (hhomes : ∀ home ∈ fs.homes, '\x00' ∉ home.2.toList)
    (hwords : Console.parse words = .ok (.sweep o)) (hnul : '\x00' ∉ o.plugin.toList) :
    ((∃ t, Target.resolve fs o.plugin = .ok t ∧ fs.isDirectory t.root = true) ∨
      (∃ e, Target.resolve fs o.plugin = .error e ∧ Target.Missing fs o.plugin e ∧
        EndsInComplaint env words fs e) ∨
      ∃ e, Target.resolve fs o.plugin = .error (.path e) ∧ Target.Astray fs o.plugin e ∧
        BreaksOff env words fs e) ∧
    ∀ e, Target.Astray fs o.plugin e → Target.resolve fs o.plugin = .error (.path e) := by
  refine ⟨?_, fun e => Target.resolve_of_astray hhomes hnul⟩
  rcases Target.resolve_cases hfs hhomes hnul with
    hplugin | ⟨e, hresolve, hmissing⟩ | ⟨e, hresolve, hastray⟩
  · exact .inl hplugin
  · exact .inr (.inl ⟨e, hresolve, hmissing, endsInComplaint_of_missing hwords hmissing⟩)
  · exact .inr (.inr ⟨e, hresolve, hastray, breaksOff_of_path hwords hresolve⟩)

end

/-! ### A plugin that is missing, and a text that goes astray -/

/-- What is asked for in the sweep of a plugin that is not there. -/
def missingOptions : SweepOptions where
  plugin := "/d/x"
  profile := .full

theorem run_refuses_missing :
    Target.linkedTree.Lawful ∧ Console.parse ["full", "/d/x"] = .ok (.sweep missingOptions) ∧
      ∃ e, Target.resolve Target.linkedTree "/d/x" = .error e ∧
        Target.Missing Target.linkedTree "/d/x" e ∧
        EndsInComplaint bareEnvironment ["full", "/d/x"] Target.linkedTree e := by
  have hwords : Console.parse ["full", "/d/x"] = .ok (.sweep missingOptions) := by decide +kernel
  have habsent : Target.resolve Target.linkedTree missingOptions.plugin =
      .error (.absent ⟨"/", ["e", "x"]⟩) := by decide +kernel
  refine ⟨Target.lawful_linkedTree, hwords, ?_⟩
  obtain ⟨⟨t, hresolve, -⟩ | hmissing | ⟨e, hresolve, -⟩, -⟩ :=
    run_refuses bareEnvironment Target.lawful_linkedTree nofun hwords (by decide +kernel)
  · cases hresolve.symm.trans habsent
  · exact hmissing
  · cases hresolve.symm.trans habsent

/-- What is asked for in the sweep of a link that leads to itself. -/
def selfLinkOptions : SweepOptions where
  plugin := "/l"
  profile := .full

/-- A link that leads to itself is no plugin, but the plugin is not said to be missing: the session
breaks off. -/
theorem run_breaks_off :
    Target.loopedTree.Lawful ∧ Console.parse ["full", "/l"] = .ok (.sweep selfLinkOptions) ∧
      Target.resolve Target.loopedTree "/l" = .error (.path (.linkLoop "/l")) ∧
      BreaksOff bareEnvironment ["full", "/l"] Target.loopedTree (.linkLoop "/l") := by
  have hwords : Console.parse ["full", "/l"] = .ok (.sweep selfLinkOptions) := by decide +kernel
  have hloop : Target.resolve Target.loopedTree selfLinkOptions.plugin =
      .error (.path (.linkLoop "/l")) := by decide +kernel
  exact ⟨Target.lawful_loopedTree, hwords, hloop, breaksOff_of_path hwords hloop⟩

end CommandLine

end PluginSweep

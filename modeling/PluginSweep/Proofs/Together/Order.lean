/-
PluginSweep/Proofs/Together/Order.lean

What holds sweeps together that run side by side (`Orderly`).  What each of them does to
the lock is an attempt on the site, so at most one of them is inside; and while none is
inside and all has been calm, the plugin is as it was when they began.

One question and its reply keep that (`Orderly.step`), and so it holds of all that
questions and replies can lead to (`Reachable.orderly`).
-/
import PluginSweep.Proofs.Lock.Exclusion
import PluginSweep.Proofs.Sweep.Passage
import PluginSweep.Proofs.Together.Config

namespace PluginSweep.Together

open Sweep (Stage IsInside Advances)

/-! ### Attempts on the site -/

/-- How far each sweep is with its attempt on the site. -/
abbrev Phases : Type :=
  Nat → Option (String × Lock.Phase)

/-- The attempts of the sweeps on the site. -/
def Config.attempts (c : Config) (phases : Phases) : Nat → Option Lock.Attempt := fun i =>
  (phases i).map fun a => ⟨c.process i, a.1, a.2⟩

variable {dir : Path} {slug root : String} {files : FileSystem} {start c c' : Config}
  {phases : Phases}

/-- What a reply does to an attempt is a step of attempts, or none. -/
theorem reachable_of_advances {process i : Nat} {t t' : LockTable}
    {phase phase' : Option (String × Lock.Phase)} {attempts : Nat → Option Lock.Attempt}
    (h : Advances dir process t phase phase' t')
    (hi : attempts i = phase.map fun a => ⟨process, a.1, a.2⟩)
    (hreach : Lock.Reachable dir Set.univ files ⟨t, attempts⟩) :
    Lock.Reachable dir Set.univ files
      ⟨t', Function.update attempts i (phase'.map fun a => ⟨process, a.1, a.2⟩)⟩ := by
  cases h with
  | stays =>
    rw [← hi, Function.update_eq_self]
    exact hreach
  | begins h =>
    rw [Option.map_map]
    exact hreach.step (.begins hi (Set.mem_univ _) h)
  | @goes key ph _ _ h =>
    rw [Option.map_map]
    exact hreach.step (.goes (a := ⟨process, key, ph⟩) hi h)
  | @ends key held _ _ h =>
    rw [Option.map_map]
    -- One reply may do two steps: the body ends, and the first step of leaving is taken.
    have hends := hreach.step (.goes (a := ⟨process, key, .inside held⟩) hi (.ends held t))
    have hleaves := hends.step
      (.goes (a := ⟨process, key, .leaving (Lock.release held)⟩) (Function.update_self ..) h)
    rw [Function.update_idem] at hleaves
    exact hleaves

/-- At most one sweep is inside. -/
theorem eq_of_isInside (hstands : files.StandsInDirectory)
    (hreach : Lock.Reachable dir Set.univ files ⟨c.table, c.attempts phases⟩)
    (hroot : ∀ i key ph, phases i = some (key, ph) → key = root) {i j : Nat}
    (hi : IsInside (phases i)) (hj : IsInside (phases j)) : i = j := by
  have hinside : ∀ {i}, IsInside (phases i) →
      Lock.Config.Inside ⟨c.table, c.attempts phases⟩ i root := by
    rintro i ⟨key, held, hphase⟩
    obtain rfl := hroot i key _ hphase
    refine ⟨c.process i, held, ?_⟩
    show (phases i).map _ = _
    rw [hphase]
    rfl
  obtain ⟨spots, hconsistent⟩ := hreach.consistent hstands
  exact hconsistent.exclusive (hinside hi) (hinside hj)

/-! ### What holds the sweeps together -/

/-- The attempts of the sweeps are in order, with the plugin `original` when they began. -/
structure Orderly (dir : Path) (slug root : String) (files : FileSystem) (original : Bool)
    (c : Config) (phases : Phases) : Prop where
  directory : ∀ {i run}, c.sweeps i = some run → run.settings.lockDirectory = dir
  plugin : ∀ {i run}, c.sweeps i = some run → run.settings.target.name = slug
  stage : ∀ {i run}, c.sweeps i = some run →
    Stage run.settings c.Calm original c.active (c.heard i) run.rest (phases i)
  idle : ∀ {i}, c.sweeps i = none → phases i = none
  locks : Lock.Reachable dir Set.univ files ⟨c.table, c.attempts phases⟩
  /-- While no sweep is inside the plugin is as it was. -/
  kept : c.Calm → (∀ i, ¬ IsInside (phases i)) → c.active = original
  /-- Since a sweep is inside, no other has tried the plugin out. -/
  alone : ∀ {i j m n}, IsInside (phases i) → m < n → c.TriesAt i m → c.TriesAt j n → j = i
  /-- No sweep has tried the plugin out while another one did. -/
  apart : ∀ {i j m n k}, m < n → n < k → c.TriesAt i m → c.TriesAt j n → c.TriesAt i k → j = i

section Orderly

variable {original : Bool}

theorem orderly_of_starts (h : c.Starts dir slug files) :
    Orderly dir slug root files c.active c fun _ => none := by
  have hempty : ∀ {i n}, ¬ c.TriesAt i n := by
    rintro i n ⟨x, hx, -⟩
    rw [h.trace] at hx
    cases hx
  refine ⟨h.directory _ _, h.plugin _ _, fun {i run} hsweep => ?_, fun _ => rfl, ?_, fun _ _ => rfl,
    fun hinside => absurd hinside Sweep.not_isInside_none,
    fun _ _ htries => absurd htries hempty⟩
  · obtain ⟨tree, hrest⟩ := h.begun i run hsweep
    have hheard : c.heard i = [] := by
      rw [Config.heard, h.trace]
      rfl
    rw [hrest, hheard]
    exact .approaching (fun x hx => by cases hx) (Sweep.approaching_run _ _)
  · rw [h.table]
    exact .initial

/-- Every attempt is one on the site that all go for. -/
theorem Orderly.root_eq (h : Orderly dir slug root files original c phases)
    (hroot : c.GoesFor root) {i : Nat} {key : String} {ph : Lock.Phase}
    (hphase : phases i = some (key, ph)) : key = root := by
  rcases hsweep : c.sweeps i with - | run
  · rw [h.idle hsweep] at hphase
    cases hphase
  · have hstage := h.stage hsweep
    rw [hphase] at hstage
    obtain ⟨taken, htook⟩ := hstage.took
    exact beq_iff_eq.mp (hroot _ (mem_heard_iff.mp htook))

/-- At most one sweep is inside. -/
theorem Orderly.exclusive (h : Orderly dir slug root files original c phases)
    (hstands : files.StandsInDirectory) (hroot : c.GoesFor root) {i j : Nat}
    (hi : IsInside (phases i)) (hj : IsInside (phases j)) : i = j :=
  eq_of_isInside hstands h.locks (fun _ _ _ => h.root_eq hroot) hi hj

section Replies

variable {i : Nat} {run : Running} {q : Request}
  {next : q.Reply → Asking (Except SweepError Summary × SweepState)} {r : q.Reply}
  {table : LockTable} {active : Bool} {phase' : Option (String × Lock.Phase)}

/-- A sweep that is not inside leaves the plugin as it is. -/
theorem Orderly.untouched (h : Orderly dir slug root files original c phases)
    (hsweep : c.sweeps i = some run) (hasks : run.rest = .ask q next)
    (hsite : Site.responds slug c.active q r active) (hi : ¬ IsInside (phases i)) :
    q.tries = false ∧ active = c.active := by
  have hstage := h.stage hsweep
  rw [hasks] at hstage
  have hquiet : q.tries = false := Bool.eq_false_iff.mpr fun htries => hi (hstage.isInside htries)
  exact ⟨hquiet, Site.responds_quiet hsite hquiet⟩

/-- What a reply leads to for the locks: the attempt of the sweep goes on, and the others stay. -/
theorem Orderly.locks_after (h : Orderly dir slug root files original c phases)
    (hsweep : c.sweeps i = some run)
    (hadvances : Advances dir run.process c.table (phases i) phase' table) (x : Said)
    (rest : Asking (Except SweepError Summary × SweepState)) :
    Lock.Reachable dir Set.univ files ⟨table,
      (c.after i run x rest table active).attempts (Function.update phases i phase')⟩ := by
  have hprocess : c.process i = run.process := by
    rw [Config.process, hsweep]
    rfl
  have hi : c.attempts phases i = (phases i).map fun a => ⟨run.process, a.1, a.2⟩ := by
    rw [Config.attempts, hprocess]
  have hattempts : (c.after i run x rest table active).attempts (Function.update phases i phase') =
      Function.update (c.attempts phases) i (phase'.map fun a => ⟨run.process, a.1, a.2⟩) := by
    funext j
    rw [Config.attempts, process_after hsweep]
    by_cases hj : j = i
    · subst hj
      rw [Function.update_self, Function.update_self, hprocess]
    · rw [Function.update_of_ne hj, Function.update_of_ne hj]
      rfl
  rw [hattempts]
  exact reachable_of_advances hadvances hi h.locks

/-- A sweep has got a reply, which has led its attempt to a phase; what that means beside the other
sweeps. -/
structure Replied (c : Config) (phases : Phases) (original : Bool) (i : Nat) (run : Running)
    (q : Request) (r : q.Reply) (rest : Asking (Except SweepError Summary × SweepState))
    (table : LockTable) (active : Bool) (phase' : Option (String × Lock.Phase)) : Prop where
  sweep : c.sweeps i = some run
  comes : Sweep.Comes run.settings (c.after i run ⟨q, r⟩ rest table active).Calm original active
    run.process c.table table (c.heard i) (c.heard i ++ [⟨q, r⟩]) rest (phases i) phase'
  untouched : ¬ IsInside (phases i) → q.tries = false ∧ active = c.active
  /-- Who is inside is so alone, before the reply and after it. -/
  onlyBefore : ∀ {j}, IsInside (phases i) → IsInside (phases j) → j = i
  onlyAfter : ∀ {j}, IsInside phase' → IsInside (phases j) → j = i

section Replied

variable {rest : Asking (Except SweepError Summary × SweepState)} {j k m n o : Nat}

theorem Replied.isInside (hr : Replied c phases original i run q r rest table active phase')
    (htries : q.tries = true) : IsInside (phases i) := by
  by_contra hout
  rw [(hr.untouched hout).1] at htries
  cases htries

theorem Replied.calm (hr : Replied c phases original i run q r rest table active phase')
    (hcalm : (c.after i run ⟨q, r⟩ rest table active).Calm) : c.Calm :=
  calm_of_after hr.sweep hcalm

/-- A sweep that comes inside finds the plugin as it was. -/
theorem Replied.stage_self (h : Orderly dir slug root files original c phases)
    (hr : Replied c phases original i run q r rest table active phase') :
    Stage run.settings (c.after i run ⟨q, r⟩ rest table active).Calm original active
      (c.heard i ++ [⟨q, r⟩]) rest phase' := by
  refine hr.comes.stage fun hout hin hcalm => ?_
  rw [(hr.untouched hout).2]
  refine h.kept (hr.calm hcalm) fun j hj => ?_
  obtain rfl := hr.onlyAfter hin hj
  exact hout hj

/-- The other sweeps are where they were: if one of them is inside, nothing touches the plugin. -/
theorem Replied.stage_other (h : Orderly dir slug root files original c phases)
    (hr : Replied c phases original i run q r rest table active phase') (hj : j ≠ i)
    {run' : Running} (hsweep : c.sweeps j = some run') :
    Stage run'.settings (c.after i run ⟨q, r⟩ rest table active).Calm original active (c.heard j)
      run'.rest (phases j) := by
  have hstage := (h.stage hsweep).less hr.calm
  by_cases hinside : IsInside (phases j)
  · have hout : ¬ IsInside (phases i) := fun hi => hj (hr.onlyBefore hi hinside)
    rw [(hr.untouched hout).2]
    exact hstage
  · exact hstage.elsewhere hinside

theorem Replied.kept (h : Orderly dir slug root files original c phases)
    (hr : Replied c phases original i run q r rest table active phase')
    (hcalm : (c.after i run ⟨q, r⟩ rest table active).Calm) (hself : ¬ IsInside phase')
    (hother : ∀ j, j ≠ i → ¬ IsInside (phases j)) : active = original := by
  by_cases hi : IsInside (phases i)
  · refine hr.comes.restored hi hself hcalm (fun x hx hgarbles => ?_) fun hraised => ?_
    · exact (hr.calm hcalm).1 ⟨(i, x), mem_heard_iff.mp hx, hgarbles⟩
    · exact (hr.calm hcalm).2 ⟨i, run, hr.sweep, hraised⟩
  · refine (hr.untouched hi).2.trans (h.kept (hr.calm hcalm) fun j hj => ?_)
    by_cases heq : j = i
    · exact hi (heq ▸ hj)
    · exact hother j heq hj

/-- A sweep that comes inside has not tried the plugin out. -/
theorem Replied.isInside_of_triesAt
    (hr : Replied c phases original i run q r rest table active phase') (hin : IsInside phase')
    (hn : (c.after i run ⟨q, r⟩ rest table active).TriesAt i n) : IsInside (phases i) := by
  by_contra hout
  obtain ⟨x, hx, htries⟩ := hn
  have hheard := mem_heard_iff.mpr (List.mem_of_getElem? hx)
  rw [heard_after_self] at hheard
  rw [hr.comes.fresh hout hin x hheard] at htries
  cases htries

theorem Replied.alone (h : Orderly dir slug root files original c phases)
    (hr : Replied c phases original i run q r rest table active phase')
    (hinside : IsInside (phases j)) (hmn : m < n)
    (hm : (c.after i run ⟨q, r⟩ rest table active).TriesAt j m)
    (hn : (c.after i run ⟨q, r⟩ rest table active).TriesAt k n) : k = j := by
  rcases triesAt_after_iff.mp hn with hold | ⟨-, rfl, htries⟩
  · exact h.alone hinside hmn (hm.before hmn hn) hold
  · exact (hr.onlyBefore (hr.isInside htries) hinside).symm

theorem Replied.apart (h : Orderly dir slug root files original c phases)
    (hr : Replied c phases original i run q r rest table active phase') (hmn : m < n) (hno : n < o)
    (hm : (c.after i run ⟨q, r⟩ rest table active).TriesAt j m)
    (hn : (c.after i run ⟨q, r⟩ rest table active).TriesAt k n)
    (ho : (c.after i run ⟨q, r⟩ rest table active).TriesAt j o) : k = j := by
  rcases triesAt_after_iff.mp ho with hold | ⟨-, rfl, htries⟩
  · exact h.apart hmn hno (hm.before hmn hn) (hn.before hno ho) hold
  · exact h.alone (hr.isInside htries) hmn (hm.before hmn hn) (hn.before hno ho)

end Replied

/-- Whichever phases the attempts are in, each is one on the site that all go for. -/
theorem Orderly.root_after (h : Orderly dir slug root files original c phases)
    {rest : Asking (Except SweepError Summary × SweepState)}
    (hroot : (c.after i run ⟨q, r⟩ rest table active).GoesFor root)
    (htook : ∀ key ph, phase' = some (key, ph) →
      ∃ taken, (⟨.lock (.takeLocal key), taken⟩ : Said) ∈ c.heard i ++ [⟨q, r⟩])
    (j : Nat) (key : String) (ph : Lock.Phase)
    (hphase : Function.update phases i phase' j = some (key, ph)) : key = root := by
  by_cases hj : j = i
  · subst hj
    rw [Function.update_self] at hphase
    obtain ⟨taken, hmem⟩ := htook key ph hphase
    have hheard : (c.after j run ⟨q, r⟩ rest table active).heard j = c.heard j ++ [⟨q, r⟩] :=
      heard_after_self
    rw [← hheard] at hmem
    exact beq_iff_eq.mp (hroot _ (mem_heard_iff.mp hmem))
  · rw [Function.update_of_ne hj] at hphase
    exact h.root_eq (goesFor_of_after hroot) hphase

/-- A reply leads the sweep that gets it to a new phase. -/
theorem Orderly.replied (hstands : files.StandsInDirectory)
    (h : Orderly dir slug root files original c phases) (hsweep : c.sweeps i = some run)
    (hasks : run.rest = .ask q next) (hlocks : Request.Locks run.process c.table q r table)
    (hsite : Site.responds slug c.active q r active)
    (hroot : (c.after i run ⟨q, r⟩ (next r) table active).GoesFor root) :
    ∃ phase', Replied c phases original i run q r (next r) table active phase' ∧
      Lock.Reachable dir Set.univ files
        ⟨table, (c.after i run ⟨q, r⟩ (next r) table active).attempts
          (Function.update phases i phase')⟩ := by
  have hcalm : (c.after i run ⟨q, r⟩ (next r) table active).Calm → c.Calm := calm_of_after hsweep
  have hstage := (h.stage hsweep).less hcalm
  rw [hasks] at hstage
  obtain ⟨phase', hcomes⟩ := hstage.goes hlocks ((h.plugin hsweep).symm ▸ hsite)
  have hadvances := hcomes.advances
  rw [h.directory hsweep] at hadvances
  have hafter : Lock.Reachable dir Set.univ files
      ⟨table, (c.after i run ⟨q, r⟩ (next r) table active).attempts
        (Function.update phases i phase')⟩ := h.locks_after hsweep hadvances _ _
  refine ⟨phase', ⟨hsweep, hcomes, h.untouched hsweep hasks hsite,
    fun hi hj => h.exclusive hstands (goesFor_of_after hroot) hj hi, fun {j} hin hj => ?_⟩, hafter⟩
  -- Two sweeps inside would be two attempts inside for one site.
  by_contra hne
  refine hne (eq_of_isInside (c := c.after i run ⟨q, r⟩ (next r) table active) hstands hafter
    (h.root_after hroot hcomes.took) ?_ ?_)
  · rw [Function.update_of_ne hne]
    exact hj
  · rw [Function.update_self]
    exact hin

/-- **One question and its reply keep the sweeps in order.** -/
theorem Orderly.step (hstands : files.StandsInDirectory)
    (h : Orderly dir slug root files original c phases) (hstep : Step slug c c')
    (hroot : c'.GoesFor root) : ∃ phases', Orderly dir slug root files original c' phases' := by
  obtain @⟨i, run, q, next, r, table, active, hsweep, hasks, hlocks, hsite⟩ := hstep
  obtain ⟨phase', hr, hafter⟩ := h.replied hstands hsweep hasks hlocks hsite hroot
  -- The sweep that got the reply is in its new phase, all others are where they were.
  have hself : Function.update phases i phase' i = phase' := Function.update_self ..
  have hother : ∀ {j}, j ≠ i → Function.update phases i phase' j = phases j :=
    fun hj => Function.update_of_ne hj ..
  refine ⟨Function.update phases i phase', ?directory, ?plugin, ?stage, ?idle, hafter, ?kept,
    ?alone, hr.apart h⟩
  case directory =>
    intro j run' hrun'
    obtain ⟨run₀, hrun₀, -, hsettings⟩ := sweeps_after hsweep hrun'
    rw [hsettings]
    exact h.directory hrun₀
  case plugin =>
    intro j run' hrun'
    obtain ⟨run₀, hrun₀, -, hsettings⟩ := sweeps_after hsweep hrun'
    rw [hsettings]
    exact h.plugin hrun₀
  case stage =>
    intro j run' hrun'
    by_cases hj : j = i
    · subst hj
      rw [sweeps_after_self] at hrun'
      obtain rfl := Option.some.inj hrun'
      rw [heard_after_self, hself]
      exact (hr.stage_self h :)
    · rw [sweeps_after_other hj] at hrun'
      rw [heard_after_other hj, hother hj]
      exact hr.stage_other h hj hrun'
  case idle =>
    intro j hnone
    have hj : j ≠ i := by
      rintro rfl
      rw [sweeps_after_self] at hnone
      cases hnone
    rw [sweeps_after_other hj] at hnone
    rw [hother hj]
    exact h.idle hnone
  case kept =>
    intro hcalm hnone
    exact hr.kept h hcalm (hself ▸ hnone i) fun j hj => hother hj ▸ hnone j
  case alone =>
    intro j k m n hinside hmn hm hn
    by_cases hj : j = i
    · subst hj
      rw [hself] at hinside
      exact hr.alone h (hr.isInside_of_triesAt hinside hm) hmn hm hn
    · rw [hother hj] at hinside
      exact hr.alone h hinside hmn hm hn

end Replies

theorem Step.goesFor (h : Step slug c c') (hroot : c'.GoesFor root) : c.GoesFor root := by
  cases h with
  | replies => exact goesFor_of_after hroot

/-- Sweeps that run side by side are in order. -/
theorem Reachable.orderly (hstands : files.StandsInDirectory) (hstart : start.Starts dir slug files)
    (h : Reachable slug start c) (hroot : c.GoesFor root) :
    ∃ phases, Orderly dir slug root files start.active c phases := by
  induction h with
  | start => exact ⟨_, orderly_of_starts hstart⟩
  | step _ hstep ih =>
    obtain ⟨phases, horderly⟩ := ih (hstep.goesFor hroot)
    exact horderly.step hstands hstep hroot

end Orderly

end PluginSweep.Together

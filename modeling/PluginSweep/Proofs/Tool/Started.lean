/-
PluginSweep/Proofs/Tool/Started.lean

Commands that are started, with what comes of each.  `recorded` is the conduct
of surroundings that are free in everything but one: what a tool writes is text.
All that they keep is the list of the commands that were started, in order.  A
result about all runs with this conduct is a result about every way in which
each of the tools may end, be late, be missing or be refused.

What is asked of a site is one command more in the list, and the caller gets to
know a result exactly if the tool ran (`runs_act_recorded`).

The same list can be read off a history (`launched`), and a run in which all that
tools write is text is a run with this conduct (`runs_recorded`).
-/
import PluginSweep.Proofs.Request.Garbled

namespace PluginSweep

open Dialogue

/-! ### Launches that went well -/

namespace Launch

/-- The tool ended with the exit code zero. -/
def endedWell : Launch → Bool
  | exited code _ _ => code == 0
  | _ => false

/-- The tool ended, well or not. -/
def ran : Launch → Bool
  | exited .. => true
  | _ => false

/-- A tool that did not end did not end well. -/
theorem endedWell_of_ran_eq_false {l : Launch} (h : l.ran = false) : l.endedWell = false := by
  cases l with
  | exited code out err => cases h
  | _ => rfl

/-- A launch that brings text has a result if the tool ended, and is a failure otherwise. -/
theorem result_cases {l : Launch} (h : l ≠ .undecodable) (seconds : Int) (command : Command) :
    (l.ran = true ∧ ∃ r, l.result seconds command = .ok r ∧ r.ok = l.endedWell) ∨
      (l.ran = false ∧ ∃ f, l.result seconds command = .error (.failure f)) := by
  cases l with
  | exited code out err => exact .inl ⟨rfl, _, rfl, rfl⟩
  | timedOut => exact .inr ⟨rfl, _, rfl⟩
  | missing => exact .inr ⟨rfl, _, rfl⟩
  | refused reason => exact .inr ⟨rfl, _, rfl⟩
  | undecodable => exact absurd rfl h

/-- A launch that brings text has a result, which is good exactly if the tool ended well, or is
the failure of a tool that did not run. -/
theorem result_of_text {l : Launch} (h : l ≠ .undecodable) (seconds : Int) (command : Command) :
    (∃ r, l.result seconds command = .ok r ∧ r.ok = l.endedWell) ∨
      ∃ f, l.result seconds command = .error (.failure f) ∧ l.endedWell = false := by
  rcases result_cases h seconds command with ⟨-, hresult⟩ | ⟨hnot, f, hfailed⟩
  · exact .inl hresult
  · exact .inr ⟨f, hfailed, endedWell_of_ran_eq_false hnot⟩

end Launch

/-! ### The record -/

/-- A command that was started, and what came of it. -/
structure Started where
  command : Command
  launch : Launch
  deriving DecidableEq, Repr

namespace Started

/-- The tool ended with the exit code zero. -/
def endedWell (e : Started) : Bool := e.launch.endedWell

/-- The tool ended, well or not. -/
def ran (e : Started) : Bool := e.launch.ran

/-- The commands, without what came of them. -/
def commands (started : List Started) : List Command := started.map (·.command)

@[simp] theorem commands_append (first rest : List Started) :
    commands (first ++ rest) = commands first ++ commands rest :=
  List.map_append

@[simp] theorem commands_cons (e : Started) (rest : List Started) :
    commands (e :: rest) = e.command :: commands rest :=
  rfl

@[simp] theorem commands_nil : commands [] = [] := rfl

end Started

/-- Surroundings in which a tool may end in any way, but what it writes is text; they keep what
was started. -/
def recorded : Conduct Request.Reply (List Started) := fun past question =>
  match question with
  | .launch command => fun launch now => launch ≠ .undecodable ∧ now = past ++ [⟨command, launch⟩]
  | _ => fun _ now => now = past

/-- Surroundings in which the launches turn out as in the script, and well after its end. -/
def scripted (script : List Launch) :
    (question : Request) → List Started → question.Reply × List Started
  | .launch command, past =>
    let launch := script.getD past.length (.exited 0 none none)
    (launch, past ++ [⟨command, launch⟩])
  | question, past => (History.obligingReply [] question, past)

theorem recorded_scripted {script : List Launch} (h : .undecodable ∉ script) (question : Request)
    (past : List Started) :
    recorded past question (scripted script question past).1 (scripted script question past).2 := by
  cases question with
  | launch command =>
    refine ⟨fun heq => ?_, rfl⟩
    change script.getD past.length (.exited 0 none none) = .undecodable at heq
    rw [List.getD_eq_getElem?_getD] at heq
    cases hfound : script[past.length]? with
    | none =>
      rw [hfound] at heq
      cases heq
    | some launch =>
      rw [hfound] at heq
      obtain rfl : launch = .undecodable := heq
      exact h (List.mem_of_getElem? hfound)
  | _ => rfl

/-! ### The record in a history -/

/-- The command that an event starts, with what came of it. -/
def Event.launch? : Event → Option Started
  | .asked (.launch command) launch => some ⟨command, launch⟩
  | _ => none

namespace History

variable {α : Type} {past now : History} {question : Request} {reply : question.Reply} {a : α}

/-- The commands that were started, with what came of them. -/
def launched (past : History) : List Started :=
  past.filterMap Event.launch?

theorem mem_launched_iff {command : Command} {launch : Launch} :
    ⟨command, launch⟩ ∈ launched past ↔ .asked (.launch command) launch ∈ past := by
  rw [launched, List.mem_filterMap]
  constructor
  · rintro ⟨event, hmem, hstarts⟩
    unfold Event.launch? at hstarts
    split at hstarts
    · cases hstarts
      exact hmem
    · cases hstarts
  · intro hmem
    exact ⟨_, hmem, rfl⟩

/-- Being told to end starts nothing, so that a reply adds what its question starts. -/
theorem launched_of_heard (h : heard past question reply now) :
    launched now = launched past ++ (Event.launch? (.asked question reply)).toList := by
  obtain ⟨n, -, rfl⟩ := h
  have htold : (List.replicate n Event.told).filterMap Event.launch? = [] := by
    rw [List.filterMap_replicate_of_none rfl]
  rw [launched, launched, List.filterMap_append, List.filterMap_append, htold, List.append_nil,
    List.filterMap_cons, List.filterMap_nil]
  cases Event.launch? (.asked question reply) <;> rfl

/-- Work that starts nothing leaves the record as it is. -/
theorem launched_of_runs_only {d : Asking α} (h : Runs heard d past a now)
    (hd : d.Only Request.StartsNothing) : launched now = launched past := by
  refine h.keeps_of_only (I := fun now => launched now = launched past) ?_ hd rfl
  intro before q r after hq hreply hbefore
  rw [launched_of_heard hreply, hbefore]
  cases q with
  | launch command => exact hq.elim
  | _ => exact List.append_nil _

/-- **A run in which all is text is a run with a record**, which the history has as well. -/
theorem runs_recorded {d : Asking α} (h : Runs heardText d past a now) :
    ∃ started, Runs recorded d [] a started ∧ launched now = launched past ++ started := by
  refine h.simulated (fun now started => launched now = launched past ++ started) ?_
    (List.append_nil _).symm
  rintro before q r after started ⟨hreply, htext⟩ hbefore
  have hadds := launched_of_heard hreply
  rw [hbefore, List.append_assoc] at hadds
  cases q with
  | launch command =>
    refine ⟨_, ⟨?_, rfl⟩, hadds⟩
    rintro rfl
    exact htext ((garbled_of_heard_launch hreply).mpr (.inr rfl))
  | _ => exact ⟨started, rfl, by rw [hadds]; exact congrArg _ (List.append_nil _)⟩

end History

/-- A warning starts nothing. -/
theorem Asking.runs_warn_recorded {w : Warning} {u : Unit} {past now : List Started}
    (h : Runs recorded (warn w) past u now) : now = past :=
  runs_inquire_iff.mp h

namespace Site

/-- An action is one command.  It brings a result exactly if the tool ended, and the result is good
exactly if that ended well. -/
theorem runs_act_ran {s : Site} {action : SiteAction} {past now : List Started}
    {o : Except LaunchError ToolResult} (h : Runs recorded (s.act action) past o now) :
    ∃ e : Started, e.command = s.command action ∧ now = past ++ [e] ∧
      ((e.ran = true ∧ ∃ r, o = .ok r ∧ r.ok = e.endedWell) ∨
        (e.ran = false ∧ ∃ f, o = .error (.failure f))) := by
  obtain ⟨l, ⟨htext, rfl⟩, rfl⟩ := runs_act_iff.mp h
  exact ⟨⟨s.command action, l⟩, rfl, rfl, l.result_cases htext _ _⟩

/-- An action is one command, and a result is good exactly if the tool ended well. -/
theorem runs_act_recorded {s : Site} {action : SiteAction} {past now : List Started}
    {o : Except LaunchError ToolResult} (h : Runs recorded (s.act action) past o now) :
    ∃ e : Started, e.command = s.command action ∧ now = past ++ [e] ∧
      ((∃ r, o = .ok r ∧ r.ok = e.endedWell) ∨
        ∃ f, o = .error (.failure f) ∧ e.endedWell = false) := by
  obtain ⟨l, ⟨htext, rfl⟩, rfl⟩ := runs_act_iff.mp h
  exact ⟨⟨s.command action, l⟩, rfl, rfl, l.result_of_text htext _ _⟩

/-- Whether the plugin is active is asked with one command.  There is an answer exactly if the tool
ended, and it is yes exactly if that ended well. -/
theorem runs_isActive_ran {s : Site} {slug : String} {past now : List Started}
    {o : Except LaunchError Bool} (h : Runs recorded (s.isActive slug) past o now) :
    ∃ e : Started, e.command = s.command (.isActive slug) ∧ now = past ++ [e] ∧
      ((e.ran = true ∧ o = .ok e.endedWell) ∨ (e.ran = false ∧ ∃ f, o = .error (.failure f))) := by
  obtain ⟨launched, t, hact, hmap⟩ := runs_bind_iff.mp h
  obtain ⟨rfl, rfl⟩ := runs_pure_iff.mp hmap
  obtain ⟨e, hcommand, hnow, ⟨hran, r, rfl, hok⟩ | ⟨hnot, f, rfl⟩⟩ := runs_act_ran hact
  · exact ⟨e, hcommand, hnow, .inl ⟨hran, congrArg Except.ok hok⟩⟩
  · exact ⟨e, hcommand, hnow, .inr ⟨hnot, f, rfl⟩⟩

/-- Whether the plugin is active is asked with one command, and it is if that ended well. -/
theorem runs_isActive_recorded {s : Site} {slug : String} {past now : List Started}
    {o : Except LaunchError Bool} (h : Runs recorded (s.isActive slug) past o now) :
    ∃ e : Started, e.command = s.command (.isActive slug) ∧ now = past ++ [e] ∧
      (o = .ok e.endedWell ∨ ∃ f, o = .error (.failure f) ∧ e.endedWell = false) := by
  obtain ⟨e, hcommand, hnow, ⟨-, heq⟩ | ⟨hnot, f, hfailed⟩⟩ := runs_isActive_ran h
  · exact ⟨e, hcommand, hnow, .inl heq⟩
  · exact ⟨e, hcommand, hnow, .inr ⟨f, hfailed, Launch.endedWell_of_ran_eq_false hnot⟩⟩

end Site

end PluginSweep

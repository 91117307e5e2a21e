/-
PluginSweep/Proofs/Rehearsal/Course.lean

A rehearsal is a run like any other.  Whatever its script and its cues are, there is a
history with which the surroundings of the rehearsal keep to the conduct `heard`, and
what the rehearsal has kept is what can be read off that history (`Records`,
`exists_history`).  So every result about all runs is one about rehearsals.

The invariant goes from one question to the next (`Records.reply`): a signal adds to the
history that the run is told to end, the first time that one arrives, and the question is added
after that with its reply.
-/
import PluginSweep.Proofs.Lock.Disk
import PluginSweep.Rehearsal.Basic

namespace PluginSweep

variable {now : History} {event : Event} {t t' t'' : LockTable}

/-! ### Steps towards locks, one after the other -/

theorem LockTable.Follows.append {process : Nat} {later : History}
    (h : Follows process now t t') (h' : Follows process later t' t'') :
    Follows process (now ++ later) t t'' := by
  induction h with
  | nil => exact h'
  | takes hmay _ ih => exact .takes hmay (ih h')
  | passes hother _ ih => exact .passes hother (ih h')

namespace Rehearsal

variable {locks : LockTable} {r r' : Rehearsal}

/-! ### What is kept of an event -/

/-- The command that is started. -/
def commandOf : Event → Option (List String)
  | .asked (.launch command) _ => some command.words
  | _ => none

/-- What is announced. -/
def announcementOf : Event → Option String
  | .asked (.announce message) _ => some message
  | _ => none

/-- The warning that is given; being told to end is one. -/
def warningOf : Event → Option Warning
  | .asked (.warn warning) _ => some warning
  | .told => some .interrupted
  | _ => none

/-- The text that is shown. -/
def shownOf : Event → Option String
  | .asked (.print text) _ => some text
  | _ => none

/-- The rehearsal has kept what has happened since it began with the locks: all commands, all
announcements, all warnings and all that was shown, in order and with nothing else among them but,
among what was shown, the notices of signals. -/
structure Records (locks : LockTable) (now : History) (r : Rehearsal) : Prop where
  commands : r.commands = now.filterMap commandOf
  announced : r.announced = now.filterMap announcementOf
  warnings : r.warnings = now.filterMap warningOf
  shown : (now.filterMap shownOf).Sublist r.shown
  ending : r.ending = true ↔ .told ∈ now
  locks : LockTable.Follows process now locks r.locks

/-- A rehearsal that has not begun has kept nothing. -/
theorem records_nil (script : Script) (cues : List (Cue × Nat)) (active : Bool)
    (locks : LockTable) : Records locks [] { script, cues, active, locks } :=
  ⟨rfl, rfl, rfl, .refl _, iff_of_false Bool.false_ne_true List.not_mem_nil, .nil⟩

/-! ### Events that are added -/

theorem filterMap_concat {α : Type} (f : Event → Option α) (now : History) (event : Event) :
    (now ++ [event]).filterMap f = now.filterMap f ++ (f event).toList := by
  rw [List.filterMap_append, List.filterMap_cons]
  cases f event with
  | none => rfl
  | some kept => rfl

/-- An event is added to the history when everything that is kept of it has been added to the
rehearsal. -/
theorem Records.add (h : Records locks now r)
    (hcommands : r'.commands = r.commands ++ (commandOf event).toList)
    (hannounced : r'.announced = r.announced ++ (announcementOf event).toList)
    (hwarnings : r'.warnings = r.warnings ++ (warningOf event).toList)
    (hshown : r'.shown = r.shown ++ (shownOf event).toList)
    (hending : r'.ending = true ↔ r.ending = true ∨ event = .told)
    (hlocks : LockTable.Follows process [event] r.locks r'.locks) :
    Records locks (now ++ [event]) r' := by
  refine ⟨?_, ?_, ?_, ?_, ?_, h.locks.append hlocks⟩
  · rw [hcommands, h.commands, filterMap_concat]
  · rw [hannounced, h.announced, filterMap_concat]
  · rw [hwarnings, h.warnings, filterMap_concat]
  · rw [hshown, filterMap_concat]
    exact h.shown.append (.refl _)
  · rw [hending, h.ending, List.mem_append, List.mem_singleton, eq_comm (a := event)]

/-- A question is added in this way unless the run has been told to end meanwhile. -/
theorem Records.ask {question : Request} {reply : question.Reply} (h : Records locks now r)
    (hcommands : r'.commands = r.commands ++ (commandOf (.asked question reply)).toList)
    (hannounced : r'.announced = r.announced ++ (announcementOf (.asked question reply)).toList)
    (hwarnings : r'.warnings = r.warnings ++ (warningOf (.asked question reply)).toList)
    (hshown : r'.shown = r.shown ++ (shownOf (.asked question reply)).toList)
    (hending : r'.ending = r.ending)
    (hlocks : LockTable.Follows process [.asked question reply] r.locks r'.locks) :
    Records locks (now ++ [.asked question reply]) r' := by
  refine h.add hcommands hannounced hwarnings hshown ?_ hlocks
  rw [hending]
  exact (or_iff_left nofun).symm

/-! ### Signals -/

/-- What is shown besides does not matter. -/
theorem Records.display (h : Records locks now r) (text : String) :
    Records locks now (r.display text) :=
  { h with shown := h.shown.trans (List.sublist_append_left _ _) }

/-- A run that is told to end is told so once. -/
theorem Records.tellToEnd (h : Records locks now r) :
    ∃ n, Records locks (now ++ List.replicate n .told) r.tellToEnd := by
  unfold Rehearsal.tellToEnd
  cases hending : r.ending with
  | true =>
    rw [if_pos rfl]
    exact ⟨0, by rwa [List.replicate_zero, List.append_nil]⟩
  | false =>
    rw [if_neg Bool.false_ne_true]
    refine ⟨1, h.add (List.append_nil _).symm (List.append_nil _).symm rfl
      (List.append_nil _).symm ?_ (.passes nofun .nil)⟩
    exact iff_of_true rfl (.inr rfl)

theorem Records.signalled (h : Records locks now r) (signal : Option String) :
    ∃ n, Records locks (now ++ List.replicate n .told)
      ((signal.map r.signalled).getD r) := by
  cases signal with
  | none => exact ⟨0, by rwa [List.replicate_zero, List.append_nil]⟩
  | some name => exact (h.display _).tellToEnd

/-! ### Questions -/

/-- What usually comes of a command turns the plugin on or off and changes nothing else. -/
theorem exists_usual_eq (r : Rehearsal) (command : List String) :
    ∃ active, (r.usual command).2 = { r with active } := by
  unfold usual
  split
  · exact ⟨r.active, rfl⟩
  · split
    · exact ⟨r.active, rfl⟩
    · split
      · exact ⟨r.active, rfl⟩
      · exact ⟨r.active, rfl⟩
      · exact ⟨true, rfl⟩
      · exact ⟨false, rfl⟩
      · exact ⟨r.active, rfl⟩
      · exact ⟨r.active, rfl⟩

/-- A command is kept before the signal or after it. -/
theorem signalled_commands (r : Rehearsal) (command : List String) (cues : List (Cue × Nat))
    (signal : Option String) :
    (signal.map ({ r with commands := r.commands ++ [command], cues } : Rehearsal).signalled).getD
        { r with commands := r.commands ++ [command], cues } =
      { (signal.map r.signalled).getD r with
        commands := ((signal.map r.signalled).getD r).commands ++ [command], cues } := by
  obtain ⟨script, _, active, locks, commands, warnings, announced, shown, ending⟩ := r
  cases signal with
  | none => rfl
  | some name =>
    cases ending with
    | true => rfl
    | false => rfl

/-- An announcement is kept before the order to end or after it. -/
theorem tellToEnd_announced (r : Rehearsal) (message : String) :
    ({ r with announced := r.announced ++ [message] } : Rehearsal).tellToEnd =
      { r.tellToEnd with announced := r.tellToEnd.announced ++ [message] } := by
  obtain ⟨script, cues, active, locks, commands, warnings, announced, shown, ending⟩ := r
  cases ending with
  | true => rfl
  | false => rfl

/-- A command may bring a signal, and may turn the plugin on or off, and it is kept. -/
theorem exists_launch_eq (r : Rehearsal) (command : List String) :
    ∃ (signal : Option String) (cues : List (Cue × Nat)) (active : Bool),
      (r.launch command).2 = { (signal.map r.signalled).getD r with
        commands := ((signal.map r.signalled).getD r).commands ++ [command], cues, active } := by
  unfold launch
  rcases choose command r.cues with ⟨- | cue, cues⟩
  · obtain ⟨active, heq⟩ :=
      exists_usual_eq { r with commands := r.commands ++ [command], cues } command
    exact ⟨none, cues, active, heq⟩
  · dsimp only [follow]
    rw [signalled_commands]
    cases cue.outcome with
    | some launch => exact ⟨cue.signal, cues, _, rfl⟩
    | none =>
      obtain ⟨active, heq⟩ := exists_usual_eq { (cue.signal.map r.signalled).getD r with
        commands := ((cue.signal.map r.signalled).getD r).commands ++ [command], cues,
        active := cue.turns.getD _ } command
      exact ⟨cue.signal, cues, active, heq⟩

/-- **Every question is answered as surroundings may answer it**, and the rehearsal keeps it. -/
theorem Records.reply (h : Records locks now r) (question : Request) :
    ∃ now', History.heard now question (Rehearsal.reply question r).1 now' ∧
      Records locks now' (Rehearsal.reply question r).2 := by
  have hnone {α : Type} (list : List α) : list = list ++ (none : Option α).toList :=
    (List.append_nil list).symm
  have hnow : now ++ List.replicate 0 .told = now := List.append_nil now
  cases question with
  | launch command =>
    -- A signal may arrive while the tool runs.
    obtain ⟨signal, cues, active, heq⟩ := exists_launch_eq r command.words
    obtain ⟨n, hsignalled⟩ := h.signalled signal
    refine ⟨_, ⟨n, trivial, rfl⟩, ?_⟩
    show Records locks _ (r.launch command.words).2
    rw [heq]
    exact hsignalled.ask rfl (hnone _) (hnone _) (hnone _) rfl (.passes nofun .nil)
  | read file stored =>
    obtain ⟨n, hsignalled⟩ := h.signalled (r.script.signals.lookup file.relpath)
    exact ⟨_, ⟨n, trivial, rfl⟩, hsignalled.ask (hnone _) (hnone _) (hnone _) (hnone _) rfl
      (.passes nofun .nil)⟩
  | preview path stored =>
    exact ⟨_, ⟨0, trivial, rfl⟩, hnow.symm ▸ h.ask (hnone _) (hnone _) (hnone _) (hnone _) rfl
      (.passes nofun .nil)⟩
  | begin check =>
    exact ⟨_, ⟨0, trivial, rfl⟩, hnow.symm ▸ h.ask (hnone _) (hnone _) (hnone _) (hnone _) rfl
      (.passes nofun .nil)⟩
  | cancelled =>
    exact ⟨_, ⟨0, hnow.symm ▸ h.ending, rfl⟩, hnow.symm ▸ h.ask (hnone _) (hnone _) (hnone _)
      (hnone _) rfl (.passes nofun .nil)⟩
  | announce message =>
    -- The script may end the run at this very message.
    let ended := if r.script.endsAt = some message then r.tellToEnd else r
    have heq : (Rehearsal.reply (.announce message) r).2 =
        { ended with announced := ended.announced ++ [message] } := by
      dsimp only [ended, Rehearsal.reply]
      split
      · exact tellToEnd_announced r message
      · rfl
    have hended : ∃ n, Records locks (now ++ List.replicate n .told) ended := by
      dsimp only [ended]
      split
      · exact h.tellToEnd
      · exact ⟨0, hnow.symm ▸ h⟩
    obtain ⟨n, hended⟩ := hended
    refine ⟨_, ⟨n, trivial, rfl⟩, ?_⟩
    rw [heq]
    exact hended.ask (hnone _) rfl (hnone _) (hnone _) rfl (.passes nofun .nil)
  | print text =>
    exact ⟨_, ⟨0, trivial, rfl⟩, hnow.symm ▸ h.ask (hnone _) (hnone _) (hnone _) rfl rfl
      (.passes nofun .nil)⟩
  | warn warning =>
    exact ⟨_, ⟨0, trivial, rfl⟩, hnow.symm ▸ h.ask (hnone _) (hnone _) rfl (hnone _) rfl
      (.passes nofun .nil)⟩
  | lock step =>
    exact ⟨_, ⟨0, trivial, rfl⟩, hnow.symm ▸ h.ask (hnone _) (hnone _) (hnone _) (hnone _) rfl
      (.takes (.performs ..) .nil)⟩

/-! ### Whole rehearsals -/

/-- What has been kept goes on being kept. -/
theorem Records.run {α : Type} {past : History} (h : Records locks past r) (work : Asking α) :
    ∃ now, Dialogue.Runs History.heard work past (r.run work).1 now ∧
      Records locks now (r.run work).2 := by
  induction work generalizing r past with
  | done a => exact ⟨past, .done a past, h⟩
  | ask question next ih =>
    obtain ⟨now, hheard, hnow⟩ := h.reply question
    obtain ⟨later, hrest, hlater⟩ := ih _ hnow
    exact ⟨later, .ask hheard hrest, hlater⟩

/-- **A rehearsal is a run like any other**: whatever it is that is rehearsed, there is a history
with which surroundings could have replied as they did, and what the rehearsal has kept is what has
happened. -/
theorem exists_history {α : Type} (work : Asking α) (script : Script) (cues : List (Cue × Nat))
    (active : Bool) (locks : LockTable) :
    ∃ now, Dialogue.Runs History.heard work []
        (Rehearsal.run work { script, cues, active, locks }).1 now ∧
      Records locks now (Rehearsal.run work { script, cues, active, locks }).2 :=
  (records_nil script cues active locks).run work

end Rehearsal

end PluginSweep

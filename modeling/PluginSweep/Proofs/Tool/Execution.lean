/-
PluginSweep/Proofs/Tool/Execution.lean

All that can come of starting a tool, and what a caller gets to know of it.
Whatever the operating system has to say about the tool, the caller gets a result
or a failure that can be recorded, unless a captured stream holds bytes that are no
text: then there is neither (`result_or_failure_iff`).
-/
import PluginSweep.Proofs.Tool.Started

namespace PluginSweep.Execution

variable {e : Execution} {seconds : Int} {command : Command}

/-- What was captured of a stream is text. -/
def StreamTextual (stream : Option (List UInt8)) : Prop :=
  ∀ bytes, stream = some bytes → Text.decode bytes ≠ none

/-- What the tool wrote is text, as far as it was captured. -/
def Textual : Execution → Prop
  | exited _ out err => StreamTextual out ∧ StreamTextual err
  | timedOut => True
  | missing => True
  | refused _ => True

theorem decodeStream_eq_none_iff {stream : Option (List UInt8)} :
    decodeStream stream = none ↔ ¬ StreamTextual stream := by
  cases stream with
  | none => simp [decodeStream, StreamTextual]
  | some bytes => simp [decodeStream, decodeOutput, StreamTextual]

theorem launch_eq_undecodable_iff : e.launch = .undecodable ↔ ¬ e.Textual := by
  cases e with
  | exited code out err =>
    have hout : decodeStream out = none ↔ ¬ StreamTextual out := decodeStream_eq_none_iff
    have herr : decodeStream err = none ↔ ¬ StreamTextual err := decodeStream_eq_none_iff
    rw [Textual, Classical.not_and_iff_not_or_not, ← hout, ← herr, launch]
    rcases decodeStream out with - | out'
    · simp
    · rcases decodeStream err with - | err'
      · simp
      · simp
  | timedOut => simp [launch, Textual]
  | missing => simp [launch, Textual]
  | refused reason => simp [launch, Textual]

/-- **The caller of a tool gets a result or a failure exactly if what the tool wrote is text.** -/
theorem result_or_failure_iff :
    ((∃ r, e.launch.result seconds command = .ok r) ∨
      ∃ f, e.launch.result seconds command = .error (.failure f)) ↔ e.Textual := by
  constructor
  · intro hknown
    apply Classical.byContradiction
    intro hnot
    rw [launch_eq_undecodable_iff.mpr hnot] at hknown
    rcases hknown with ⟨r, hresult⟩ | ⟨f, hresult⟩
    · cases hresult
    · cases hresult
  · intro htextual
    have hlaunch : e.launch ≠ .undecodable :=
      fun heq => launch_eq_undecodable_iff.mp heq htextual
    rcases Launch.result_of_text hlaunch seconds command with ⟨r, hresult, -⟩ | ⟨f, hresult, -⟩
    · exact .inl ⟨r, hresult⟩
    · exact .inr ⟨f, hresult⟩

end PluginSweep.Execution

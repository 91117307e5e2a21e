/-
PluginSweep/Probe.lean

Trying a plugin out.  The probe notes whether the plugin is active, then
deactivates it, activates it and deactivates it again; if all went well and
debugging is asked for, it activates the plugin once more with the debug flags
on.  Whatever happens in between, the debug flags are put back when they were
touched, and at the end the plugin is made as active as it was.

Steps that fail are recorded; a tool that does not run cuts the probe short,
but not the putting back.
-/
import PluginSweep.Summary
import PluginSweep.Tool.Site

namespace PluginSweep

/-- Why a probe has no result. -/
inductive ProbeError
  /-- A tool did not run. -/
  | failure (f : StepFailure)
  /-- The output of a tool is no text. -/
  | undecodable
  /-- The plugin could not be put back as it was. -/
  | notRestored (slug : String) (wasActive : Bool) (cause : Option StepFailure)
  deriving DecidableEq, Repr

namespace Probe

/-- A state of the plugin in words. -/
def stateName (active : Bool) : String :=
  if active then "active" else "inactive"

/-- Work on a plugin, with the result so far. -/
abbrev Probing := ExceptT ProbeError (StateT ProbeResult Asking)

/-- What is to be tried out, and where. -/
structure Setup where
  site : Site
  slug : String
  /-- Repeat the activation with debugging on. -/
  debug : Bool
  deriving DecidableEq, Repr

/-! ### Single steps -/

/-- Asks the surroundings. -/
def asking {α : Type} (work : Asking α) : Probing α :=
  ExceptT.mk do
    let a ← work
    pure (.ok a)

/-- Asks the tool; a tool that does not run cuts the work short. -/
def running {α : Type} (work : Asking (Except LaunchError α)) : Probing α := do
  match ← asking work with
  | .ok a => pure a
  | .error (.failure f) => throw (.failure f)
  | .error .undecodable => throw .undecodable

/-- Does the work, then the other work, whether or not the first was cut short. -/
def ensuring {α : Type} (work : Probing α) (after : Probing Unit) : Probing α :=
  ExceptT.mk do
    let outcome ← work.run
    match ← after.run with
    | .error e => pure (.error e)
    | .ok () => pure outcome

/-- Adds a line to the record. -/
def note (line : String) : Probing Unit :=
  modify fun r => { r with steps := r.steps ++ [line] }

/-- The probe has not been passed. -/
def fail : Probing Unit :=
  modify fun r => { r with passed := false }

/-- How a tool ended. -/
def status (r : ToolResult) : String :=
  if r.ok then "ok" else "FAILED (exit " ++ Text.integer r.exitCode ++ ")"

/-- Makes the plugin active or inactive, and records how that went. -/
def toggle (s : Setup) (active : Bool) (label : String) (quiet : Bool) : Probing Bool := do
  let r ← running (s.site.setActive s.slug active quiet)
  note (label ++ ": " ++ status r)
  if !r.ok then
    let detail := Text.trimBlank r.output
    if !detail.isEmpty then note ("  " ++ detail)
    asking (Asking.warn (.toggleFailed label s.slug detail))
  pure r.ok

/-! ### Debugging -/

/-- The flags and their values while debugging is on. -/
def flagsOn : List (String × String) :=
  [("WP_DEBUG", "true"), ("WP_DEBUG_LOG", "true"), ("WP_DEBUG_DISPLAY", "false")]

/-- The flags and their values while debugging is off. -/
def flagsOff : List (String × String) :=
  [("WP_DEBUG", "false"), ("WP_DEBUG_LOG", "false"), ("WP_DEBUG_DISPLAY", "false")]

/-- What came of setting a flag. -/
def flagStatus : Except StepFailure ToolResult → String
  | .ok r => status r
  | .error f => "FAILED (" ++ f.message ++ ")"

/-- Sets one flag, and records how that went. -/
def setFlag (s : Setup) (label name value : String) : Probing Bool := do
  let outcome : Except StepFailure ToolResult ←
    match ← asking (s.site.setFlag name value) with
    | .ok r => pure (.ok r)
    | .error (.failure f) => pure (.error f)
    | .error .undecodable => throw .undecodable
  let text := flagStatus outcome
  note (label ++ " " ++ name ++ "=" ++ value ++ ": " ++ text)
  if text != "ok" then
    asking (Asking.warn (.flagFailed label name value text))
  pure (outcome.toOption.any ToolResult.ok)

/-- Sets all flags, whatever becomes of each; tells whether all could be set. -/
def setFlags (s : Setup) (label : String) : List (String × String) → Probing Bool
  | [] => pure true
  | (name, value) :: rest => do
    let ok ← setFlag s label name value
    let restOk ← setFlags s label rest
    pure (ok && restOk)

/-- Activates the plugin with debugging on, if it can be turned on. -/
def activateDebugging (s : Setup) : Probing Unit := do
  if ← setFlags s "set" flagsOn then
    let r ← running (s.site.setActive s.slug true false)
    modify fun result => { result with debugOutput := r.output }
    note ("activate (WP_DEBUG): " ++ status r)
    if !r.ok then fail
    discard <| running (s.site.setActive s.slug false true)
  else fail

/-- Turns debugging off. -/
def resetFlags (s : Setup) : Probing Unit := do
  if !(← setFlags s "reset" flagsOff) then fail

/-- Activates the plugin with debugging on, and turns debugging off again. -/
def debugActivation (s : Setup) : Probing Unit :=
  ensuring (activateDebugging s) (resetFlags s)

/-! ### The probe -/

/-- Switches the plugin as often as that goes well. -/
def toggles (s : Setup) : Probing Bool := do
  if ← toggle s false "deactivate" true then
    if ← toggle s true "activate" false then
      toggle s false "deactivate" false
    else pure false
  else pure false

/-- Everything between noting the state of the plugin and putting it back. -/
def trial (s : Setup) : Probing Unit := do
  let passed ← toggles s
  modify fun r => { r with passed }
  if passed && s.debug then debugActivation s

/-- Makes the plugin as active as it was, unless it is; tells whether it is in the end. -/
def putBack (s : Setup) (wasActive : Bool) : Asking (Except LaunchError Bool) :=
  ExceptT.run do
    if (← ExceptT.mk (s.site.isActive s.slug)) = wasActive then pure true
    else
      let _ ← ExceptT.mk (s.site.setActive s.slug wasActive true)
      pure ((← ExceptT.mk (s.site.isActive s.slug)) == wasActive)

/-- Puts the plugin back as it was. -/
def restore (s : Setup) : Probing Unit := do
  let wasActive := (← get).wasActive
  match ← asking (putBack s wasActive) with
  | .ok true => note ("restore original state (" ++ stateName wasActive ++ "): ok")
  | .ok false => throw (.notRestored s.slug wasActive none)
  | .error (.failure f) => throw (.notRestored s.slug wasActive (some f))
  | .error .undecodable => throw .undecodable

/-- Tries the plugin out. -/
def run (s : Setup) : Asking (Except ProbeError ProbeResult) := do
  match ← s.site.isActive s.slug with
  | .error (.failure f) => pure (.error (.failure f))
  | .error .undecodable => pure (.error .undecodable)
  | .ok wasActive =>
    let start : ProbeResult :=
      { passed := true, wasActive, steps := ["initial state: " ++ stateName wasActive] }
    let (outcome, result) ← (ensuring (trial s) (restore s)).run.run start
    pure (outcome.map fun () => result)

/-- The wording of a plugin that could not be put back. -/
def notRestoredMessage (slug : String) (wasActive : Bool) (cause : Option StepFailure) : String :=
  "Could not restore plugin '" ++ slug ++ "' to " ++ stateName wasActive ++
    match cause with
    | some f => ": " ++ f.message
    | none => ""

end Probe

end PluginSweep

/-
PluginSweep/Tool/Site.lean

The tool that manages a site, as far as a sweep needs it: whether there is a
site, whether a plugin is active, switching the plugin on and off, and setting
debug flags.
-/
import PluginSweep.Request

namespace PluginSweep

/-- A site and the tool that manages it. -/
structure Site where
  binary : String := "wp"
  root : Path
  /-- How long the tool may take. -/
  seconds : Int
  deriving DecidableEq, Repr

namespace Site

/-- Asks the tool for an action. -/
def act (s : Site) (action : SiteAction) : Asking (Except LaunchError ToolResult) :=
  Asking.launch s.seconds (.site s.binary s.root.toString action)

/-- Whether there is a site; a tool that does not run does not know of one. -/
def isInstalled (s : Site) : Asking (Except LaunchError Bool) := do
  match ← s.act .isInstalled with
  | .ok r => pure (.ok r.ok)
  | .error (.failure f) =>
    Asking.warn (.siteToolUnavailable f.message)
    pure (.ok false)
  | .error .undecodable => pure (.error .undecodable)

/-- Whether the plugin is active. -/
def isActive (s : Site) (slug : String) : Asking (Except LaunchError Bool) := do
  pure ((← s.act (.isActive slug)).map ToolResult.ok)

/-- The action that makes the plugin active or inactive. -/
def toggle (slug : String) (active quiet : Bool) : SiteAction :=
  if active then .activate slug quiet else .deactivate slug quiet

/-- Makes the plugin active or inactive. -/
def setActive (s : Site) (slug : String) (active quiet : Bool) :
    Asking (Except LaunchError ToolResult) :=
  s.act (toggle slug active quiet)

/-- Sets a flag of the site's configuration. -/
def setFlag (s : Site) (name value : String) : Asking (Except LaunchError ToolResult) :=
  s.act (.setFlag name value)

end Site

end PluginSweep

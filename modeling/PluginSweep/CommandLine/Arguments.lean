/-
PluginSweep/CommandLine/Arguments.lean

The words of a command line.  Options of the program itself stand before the
name of a command; options of a command and its arguments may be mixed after
it.  A long option has its value after an equal sign or as the next word,
whatever that looks like; of an option given several times the last value
counts.  After `--` every word is an argument.
-/
import PluginSweep.Profile

namespace PluginSweep.CommandLine

/-! ### What can be asked for -/

/-- What a sweep is asked for. -/
structure SweepOptions where
  profile : Profile
  plugin : String
  languageVersion : String := "7.4"
  /-- The directory for reports, where one is chosen. -/
  reportBase : Option String := none
  /-- The root of the site, where one is given. -/
  siteRoot : Option String := none
  /-- The plugin may be tried out. -/
  activation : Bool := true
  deriving DecidableEq, Repr

/-- What a command line asks for. -/
inductive Invocation
  | help
  | version
  | rules (profile : Profile)
  | sweep (options : SweepOptions)
  deriving DecidableEq, Repr

/-- Why a command line is not understood. -/
inductive UsageError
  | noCommand
  | unknownCommand (name : String)
  | unknownOption (name : String)
  | valueMissing (option : String)
  | valueUnexpected (option : String)
  | argumentMissing
  | argumentUnexpected (word : String)
  | unknownProfile (name : String)
  deriving DecidableEq, Repr

/-- The wording of the reason. -/
def UsageError.message : UsageError → String
  | noCommand => "A command is missing."
  | unknownCommand name => "There is no command " ++ name ++ "."
  | unknownOption name => "There is no option " ++ name ++ "."
  | valueMissing option => "The option " ++ option ++ " needs a value."
  | valueUnexpected option => "The option " ++ option ++ " has no value."
  | argumentMissing => "The directory of a plugin is missing."
  | argumentUnexpected word => "The argument " ++ word ++ " is one too many."
  | unknownProfile name => "There is no profile " ++ name ++ "."

/-! ### Options -/

/-- An option: its name, and whether it has a value. -/
structure OptionForm where
  name : String
  hasValue : Bool
  deriving DecidableEq, Repr

/-- The option that asks for help. -/
def helpOption : OptionForm := ⟨"--help", false⟩

/-- The words of a command, sorted out. -/
structure Words where
  /-- The options with their values, the last one first. -/
  options : List (String × String) := []
  arguments : List String := []
  deriving DecidableEq, Repr

namespace Words

/-- The option is given. -/
def has (w : Words) (name : String) : Bool :=
  (w.options.lookup name).isSome

/-- The value of the option. -/
def value? (w : Words) (name : String) : Option String :=
  w.options.lookup name

end Words

/-- The part of an option before an equal sign, and the part after it. -/
def splitOption (word : String) : String × Option String :=
  let name := word.toList.takeWhile (· != '=')
  let rest := word.toList.drop name.length
  (String.ofList name, if rest.isEmpty then none else some (String.ofList (rest.drop 1)))

/-- The word is an option. -/
def isOption (word : String) : Bool :=
  word.startsWith "-" && word != "-"

/-- Sorts out the words of a command that knows the given options. -/
def sortWords (forms : List OptionForm) : List String → Words → Except UsageError Words
  | [], w => .ok w
  | word :: rest, w =>
    if word == "--" then .ok { w with arguments := w.arguments ++ rest }
    else if isOption word then
      let (name, attached) := splitOption word
      match forms.find? (·.name == name), attached with
      | none, _ => .error (.unknownOption name)
      | some form, some value =>
        if form.hasValue then sortWords forms rest { w with options := (name, value) :: w.options }
        else .error (.valueUnexpected name)
      | some form, none =>
        if form.hasValue then
          match rest with
          | [] => .error (.valueMissing name)
          | value :: rest => sortWords forms rest { w with options := (name, value) :: w.options }
        else sortWords forms rest { w with options := (name, "") :: w.options }
    else sortWords forms rest { w with arguments := w.arguments ++ [word] }
termination_by words => words.length

/-! ### Commands -/

/-- The options of a command. -/
def formsOf (command : String) : Option (List OptionForm) :=
  let version : OptionForm := ⟨"--php-version", true⟩
  let base : OptionForm := ⟨"--report-dir", true⟩
  match command with
  | "full" => some [version, base, ⟨"--wp-path", true⟩, ⟨"--no-activation", false⟩, helpOption]
  | "minimal" => some [version, base, helpOption]
  | "security" => some [base, helpOption]
  | "rules" => some [⟨"--profile", true⟩, helpOption]
  | "version" => some [helpOption]
  | _ => none

/-- The sweep that the words ask for. -/
def sweepOf (profile : Profile) (w : Words) : Except UsageError Invocation :=
  match w.arguments with
  | [] => .error .argumentMissing
  | [plugin] => .ok <| .sweep {
      profile, plugin
      languageVersion := (w.value? "--php-version").getD "7.4"
      reportBase := w.value? "--report-dir"
      siteRoot := w.value? "--wp-path"
      activation := !w.has "--no-activation" }
  | _ :: word :: _ => .error (.argumentUnexpected word)

/-- What a command asks for. -/
def invocationOf (command : String) (w : Words) : Except UsageError Invocation :=
  if w.has helpOption.name then .ok .help
  else match Profile.find? command with
    | some profile => sweepOf profile w
    | none => match w.arguments with
      | word :: _ => .error (.argumentUnexpected word)
      | [] =>
        if command == "rules" then
          let name := (w.value? "--profile").getD "security"
          match Profile.find? name with
          | some profile => .ok (.rules profile)
          | none => .error (.unknownProfile name)
        else .ok .version

/-- What a command with its words asks for. -/
def parseCommand : List String → Except UsageError Invocation
  | [] => .error .noCommand
  | command :: rest => match formsOf command with
    | none => .error (.unknownCommand command)
    | some forms => do invocationOf command (← sortWords forms rest {})

/-- The word asks for more messages. -/
def isVerbose (word : String) : Bool :=
  word == "--verbose" ||
    match word.toList with
    | '-' :: 'v' :: more => more.all (· == 'v')
    | _ => false

/-- Reads the options of the program and then its command; `help` tells whether help has
been asked for. -/
def parseFrom (help : Bool) : List String → Except UsageError Invocation
  | [] => if help then .ok .help else .error .noCommand
  | word :: rest =>
    if word == "--" then if help then .ok .help else parseCommand rest
    else if isOption word then
      if isVerbose word then parseFrom help rest
      else if word == helpOption.name then parseFrom true rest
      else .error (.unknownOption word)
    else if help then .ok .help
    else parseCommand (word :: rest)

/-- What a command line asks for. -/
def parse (words : List String) : Except UsageError Invocation :=
  parseFrom false words

/-! ### Profiles that can be asked for -/

theorem profile_of_sweepOf {p : Profile} {w : Words} {o : SweepOptions}
    (h : sweepOf p w = .ok (.sweep o)) : o.profile = p := by
  unfold sweepOf at h
  split at h
  · cases h
  · cases h
    rfl
  · cases h

theorem mem_table_of_invocationOf {command : String} {w : Words} {o : SweepOptions}
    (h : invocationOf command w = .ok (.sweep o)) : o.profile ∈ Profile.table := by
  unfold invocationOf at h
  split at h
  · cases h
  · split at h
    · rw [profile_of_sweepOf h]
      exact List.mem_of_find?_eq_some ‹_›
    · split at h
      · cases h
      · split at h
        · dsimp only at h
          split at h <;> cases h
        · cases h

theorem mem_table_of_parseCommand {words : List String} {o : SweepOptions}
    (h : parseCommand words = .ok (.sweep o)) : o.profile ∈ Profile.table := by
  unfold parseCommand at h
  split at h
  · cases h
  · rename_i command rest
    split at h
    · cases h
    · rename_i forms _
      rcases hsorted : sortWords forms rest {} with e | w <;> rw [hsorted] at h
      · cases h
      · exact mem_table_of_invocationOf h

theorem mem_table_of_parseFrom {help : Bool} {words : List String} {o : SweepOptions}
    (h : parseFrom help words = .ok (.sweep o)) : o.profile ∈ Profile.table := by
  induction words generalizing help with
  | nil =>
    unfold parseFrom at h
    split at h <;> cases h
  | cons word rest ih =>
    unfold parseFrom at h
    split at h
    · split at h
      · cases h
      · exact mem_table_of_parseCommand h
    · split at h
      · split at h
        · exact ih h
        · split at h
          · exact ih h
          · cases h
      · split at h
        · cases h
        · exact mem_table_of_parseCommand h

/-- A sweep that a command line asks for has a built-in profile. -/
theorem mem_table_of_parse {words : List String} {o : SweepOptions}
    (h : parse words = .ok (.sweep o)) : o.profile ∈ Profile.table :=
  mem_table_of_parseFrom h

end PluginSweep.CommandLine

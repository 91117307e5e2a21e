/-
PluginSweep/Rehearsal/Shell.lean

A small machine on which commands are carried out without a process: it has a
few directories and files, and a few programs, among them a shell.  What comes
of a command is what a caller of a real one would get to know: its exit code
and the bytes that it wrote, or why it could not be started.
-/
import PluginSweep.FileSystem.Change
import PluginSweep.Rehearsal.Format
import PluginSweep.Rehearsal.Script
import PluginSweep.Tool.Basic

namespace PluginSweep.Rehearsal.Shell

/-! ### The machine -/

/-- The programs. -/
def programs : List String :=
  ["cat", "echo", "false", "head", "printf", "pwd", "seq", "sh", "sleep", "tr", "true", "wc"]

/-- The directories in which programs are. -/
def programDirectories : List Location :=
  [["bin"], ["usr", "bin"]]

/-- The other directories. -/
def directories : List Location :=
  [["T"], ["dev"], ["etc"], ["home"], ["root"], ["tmp"], ["usr"], ["var"]]

/-- Files that are no programs. -/
def files : List Location :=
  [["dev", "null"], ["dev", "zero"], ["etc", "passwd"], ["etc", "hosts"]]

/-- The directories, files and programs. -/
def machine : FileSystem where
  entries :=
    (directories ++ programDirectories).map (·, .directory) ++
      files.map (·, .file []) ++
      programDirectories.flatMap fun d => programs.map fun name => (d ++ [name], .file [])
  cwd := ["T"]
  homes := []

/-! ### What comes of a program -/

/-- What comes of a program. -/
structure Ran where
  out : List UInt8 := []
  err : List UInt8 := []
  /-- The exit code, or below zero the signal that ended the program. -/
  code : Int := 0
  /-- The shell that ran it is at its end, too. -/
  last : Bool := false
  milliseconds : Nat := 0
  deriving Repr

/-- A program that writes a text. -/
def wrote (s : String) : Ran := { out := Text.encode s }

/-- A program that fails with a message. -/
def failed (code : Int) (message : String) : Ran :=
  { code, err := Text.encode (message ++ "\n") }

/-- Thousandths of a number with a fraction. -/
def thousandths (text : String) : Nat :=
  let whole := text.toList.takeWhile (· != '.')
  let fraction := (text.toList.drop (whole.length + 1)).take 3
  let padded := fraction ++ List.replicate (3 - fraction.length) '0'
  (Format.number 10 whole.length whole).1 * 1000 + (Format.number 10 3 padded).1

/-- The byte that a text of one character, possibly escaped, denotes. -/
def byteOf (text : String) : UInt8 :=
  (Format.unescape text).headD 0

/-- The contents of a file. -/
def contents (program path : String) : Ran :=
  match machine.locate (.ofString path) with
  | .ok (_, .file bytes) => { out := bytes }
  | .ok _ => failed 1 (program ++ ": " ++ path ++ ": " ++ OsCause.isDirectory.text)
  | .error cause => failed 1 (program ++ ": " ++ path ++ ": " ++ cause.text)

/-- The lines at the beginning of what is read. -/
def firstLines : Nat → List UInt8 → List UInt8
  | _, [] => []
  | 0, _ => []
  | n + 1, b :: rest => b :: firstLines (if b == 10 then n else n + 1) rest

/-- The number that a text denotes, zero where it denotes none. -/
def natOf (text : String) : Nat :=
  text.toNat?.getD 0

/-- The contents of several files, one after the other. -/
def allContents (program : String) (paths : List String) : Ran :=
  paths.foldl (fun ran path =>
    let more := contents program path
    { ran with
      out := ran.out ++ more.out, err := ran.err ++ more.err, code := max ran.code more.code })
    {}

/-- The beginning of what is read, by bytes or by lines. -/
def head (arguments : List String) (input : List UInt8) : Ran :=
  let n := natOf (arguments.getD 1 "")
  if arguments.head? == some "-c" then
    { out := if arguments.length > 2 then List.replicate n 0 else input.take n }
  else { out := firstLines (if arguments.isEmpty then 10 else n) input }

/-- The numbers from one to the last, or from the first to the last, each on a line. -/
def sequence (arguments : List String) : Ran :=
  let first := if arguments.length > 1 then natOf (arguments.headD "") else 1
  let last := natOf (arguments.getLastD "")
  wrote (String.join ((List.range' first (last + 1 - first)).map fun n => Text.decimal n ++ "\n"))

/-- Writes the arguments; the shell takes backslashes for escapes. -/
def echo (inShell : Bool) (arguments : List String) : Ran :=
  let quiet := arguments.head? == some "-n"
  let text := " ".intercalate (if quiet then arguments.drop 1 else arguments) ++
    if quiet then "" else "\n"
  { out := if inShell then Format.unescape text else Text.encode text }

/-- Puts one byte in the place of another. -/
def replaceByte (arguments : List String) (input : List UInt8) : Ran :=
  let old := byteOf (arguments.headD "")
  let new := byteOf (arguments.getD 1 "")
  { out := input.map fun b => if b == old then new else b }

/-- What comes of a program other than the shell; `inShell` tells that the shell carries it out
itself. -/
def program (inShell : Bool) (cwd name : String) (arguments : List String) (input : List UInt8) :
    Ran :=
  if name == "false" then { code := 1 }
  else if name == "printf" then
    let words := if arguments.head? == some "--" then arguments.drop 1 else arguments
    { out := Format.write { hexadecimal := !inShell } (words.headD "") (words.drop 1) }
  else if name == "echo" then echo inShell arguments
  else if name == "pwd" then wrote (cwd ++ "\n")
  else if name == "seq" then sequence arguments
  else if name == "sleep" then { milliseconds := thousandths (arguments.headD "") }
  else if name == "head" then head arguments input
  else if name == "tr" then replaceByte arguments input
  else if name == "wc" then wrote (Text.decimal input.length ++ "\n")
  else if name == "cat" then
    if arguments.isEmpty then { out := input } else allContents name arguments
  else {}

/-! ### The shell -/

/-- The state of a shell. -/
structure State where
  cwd : String
  /-- The values of variables, the latest first. -/
  settings : List (String × String)
  deriving Repr

/-- Signals by their names. -/
def signals : List (String × Nat) :=
  [("HUP", 1), ("INT", 2), ("QUIT", 3), ("ABRT", 6), ("KILL", 9), ("USR1", 10), ("SEGV", 11),
   ("USR2", 12), ("PIPE", 13), ("ALRM", 14), ("TERM", 15)]

/-- The number of a signal. -/
def signalOf (text : String) : Nat :=
  let name := if text.startsWith "SIG" then (text.drop 3).toString else text
  (signals.lookup name).getD (natOf text)

/-- The shell is ended by a signal. -/
def killed (signal : String) : Ran :=
  if signalOf signal == 0 then {} else { code := -Int.ofNat (signalOf signal), last := true }

/-- What a shell gets to know of a shell that it ran. -/
def Ran.fromInner (ran : Ran) : Ran :=
  { ran with code := if ran.code < 0 then 128 - ran.code else ran.code, last := false }

/-- The fields of a word that is being expanded: those that are complete, the latest first, and
the one to which more may be added. -/
structure Fields where
  full : List String := []
  open? : Option String := none
  deriving Repr

namespace Fields

/-- Adds text to the last field. -/
def add (f : Fields) (s : String) : Fields :=
  { f with open? := some (f.open?.getD "" ++ s) }

/-- Adds text that is broken up at its blanks. -/
def addBroken (f : Fields) (s : String) : Fields :=
  let isBlank (c : Char) : Bool := c == ' ' || c == '\t' || c == '\n'
  s.toList.foldl (fun f c =>
    if isBlank c then { full := f.open?.toList ++ f.full, open? := none }
    else f.add c.toString) f

/-- The fields in order. -/
def all (f : Fields) : List String := (f.open?.toList ++ f.full).reverse

end Fields

/-- Where the bytes of the two streams go. -/
def route (streams : List (Nat × Nat)) (ran : Ran) : Ran :=
  let targets := streams.foldl (fun (out, err) (stream, target) =>
    let goal : Nat := if target == 1 then out else if target == 2 then err else 0
    if stream == 1 then (goal, err) else (out, goal)) ((1, 2) : Nat × Nat)
  let sent (n : Nat) : List UInt8 :=
    (if targets.1 == n then ran.out else []) ++ if targets.2 == n then ran.err else []
  { ran with out := sent 1, err := sent 2 }

/-- The assignment that a word is. -/
def assignment? (word : String) : Option (String × String) :=
  let name := word.toList.takeWhile (· != '=')
  if name.length < word.length && !name.isEmpty && name.all Text.isWord then
    some (String.ofList name, (word.drop (name.length + 1)).toString)
  else none

/-- The state of a shell that is given arguments. -/
def State.start (cwd : String) (arguments : List String) : State where
  cwd
  settings :=
    ("@", " ".intercalate (arguments.drop 1)) :: ("#", Text.decimal (arguments.length - 1)) ::
      (arguments.zipIdx.map fun (argument, i) => (Text.decimal i, argument)) ++
        [("0", "sh"), ("$", "$$")]

/-- The state after changing to another directory, if the words say so. -/
def State.changed (s : State) (words : List String) : Option State :=
  if words.head? == some "cd" && words.length == 2 then
    match { machine with cwd := (Path.ofString s.cwd).names }.locate
        (.ofString (words.getD 1 "")) with
    | .ok (loc, .directory) => some { s with cwd := Path.toString ⟨"/", loc⟩ }
    | _ => none
  else none

/-- Expands a word; `inner` carries out a script in it. -/
def expand (inner : State → List Char → Ran) (s : State) (f : Fields) : ScriptWord → Fields
  | [] => f
  | .text text :: rest => expand inner s (f.add (String.ofList text)) rest
  | .value name quoted :: rest =>
    let value := (s.settings.lookup name).getD ""
    expand inner s (if quoted then f.add value else f.addBroken value) rest
  | .output script quoted :: rest =>
    let written := String.ofList (Text.decodeLossy (inner s script).out)
    let trimmed := Text.trimLineFeeds written
    expand inner s (if quoted then f.add trimmed else f.addBroken trimmed) rest

/-- What comes of ending the shell. -/
def exit (s : State) (arguments : List String) : Ran :=
  let status := arguments.headD ((s.settings.lookup "?").getD "0")
  { code := status.toInt?.getD 0 % 256, last := true }

/-- Carries out a command, given its words; `inner` carries out a script in it, and `speaker` is
who tells of a command that is not there. -/
def runWords (inner : State → List Char → Ran) (speaker : String) (s : State)
    (words : List String) (input : List UInt8) : Ran :=
  let name := words.headD ":"
  let arguments := words.drop 1
  if name == ":" then {}
  else if name == "exit" then exit s arguments
  else if name == "kill" && arguments.getLastD "" == "$$" then
    let signal := if arguments.length > 2 then arguments.getD 1 "" else arguments.headD ""
    killed (if signal == "$$" then "TERM" else (signal.dropWhile (· == '-')).toString)
  else if name == "sh" && arguments.head? == some "-c" then
    (inner (.start s.cwd (arguments.drop 2)) (arguments.getD 1 "").toList).fromInner
  else if programs.contains name then program true s.cwd name arguments input
  else if name.toList.contains '/' && (machine.locate (.ofString name)).toOption.isSome then
    failed 126 (speaker ++ name ++ ": " ++ OsCause.permission.text)
  else failed 127 (speaker ++ name ++ ": not found")

/-- Carries out a command, given its words, in the place of the shell where it says so. -/
def runCommand (inner : State → List Char → Ran) (s : State) (words : List String)
    (input : List UInt8) : Ran :=
  if words.head? == some "exec" then
    { runWords inner "sh: 1: exec: " s (words.drop 1) input with last := 1 < words.length }
  else runWords inner "sh: 1: " s words input

/-- Carries out commands in turn, each after its sign; `before` is what came of those before. -/
def runCommands (inner : State → List Char → Ran) (s : State) (before : Ran) :
    List (String × ScriptCommand) → Ran
  | [] => before
  | (sign, command) :: rest =>
    if before.last then before
    else if (sign == "&&" && before.code != 0) || (sign == "||" && before.code == 0) then
      runCommands inner s before rest
    else
      let s := { s with settings := ("?", Text.integer before.code) :: s.settings }
      let words := command.words.flatMap fun word => (expand inner s {} word).all
      match words.length, words.filterMap assignment?, s.changed words with
      | 1, [assigned], _ =>
        runCommands inner { s with settings := assigned :: s.settings }
          { before with code := 0 } rest
      | _, _, some moved => runCommands inner moved { before with code := 0 } rest
      | _, _, none =>
        let piped := sign == "|"
        let ran := route command.streams
          (runCommand inner s words (if piped then before.out else []))
        runCommands inner s
          { ran with
            out := if piped then ran.out else before.out ++ ran.out
            err := before.err ++ ran.err
            milliseconds := before.milliseconds + ran.milliseconds } rest

/-- Carries out a script in which scripts are nested no deeper than `depth`. -/
def runScript : (depth : Nat) → State → List Char → Ran
  | 0, _, _ => {}
  | depth + 1, s, script =>
    match ScriptCommand.ofScript script with
    | .error fault => failed 2 ("sh: 1: " ++ fault.message)
    | .ok commands => runCommands (runScript depth) s {} commands

/-! ### Starting programs -/

/-- How deep scripts may be nested. -/
def nesting : Nat := 20

/-- Runs a program of the machine. -/
def run (cwd : String) (words : List String) : Ran :=
  let name := (Path.ofString (words.headD "")).name
  let arguments := words.drop 1
  if name == "sh" then
    if arguments.head? == some "-c" then
      runScript nesting (.start cwd (arguments.drop 2)) (arguments.getD 1 "").toList
    else {}
  else program false cwd name arguments []

/-- What comes of a command that had the given seconds. -/
def Ran.launch (ran : Ran) (seconds : Int) : Launch :=
  if seconds ≤ 0 || Int.ofNat ran.milliseconds > seconds * 1000 then .timedOut
  else .ofBytes ran.code ran.out ran.err

/-- A refusal that concerns a path. -/
def refused (cause : OsCause) (path : String) : Launch :=
  if cause = .noEntry then .missing else .refused (OsError.about cause path).message

/-- The program is on the machine: by its name alone, or by a path. -/
def find (name : String) : Except OsCause Unit :=
  if name.toList.contains '/' || ["", ".", ".."].contains name then
    match machine.locate (.ofString name) with
    | .ok (loc, _) =>
      if programDirectories.contains loc.dropLast then .ok () else .error .permission
    | .error cause => .error cause
  else if programs.contains name then .ok ()
  else .error .noEntry

/-- What comes of starting a command in a directory, with the given seconds. -/
def launch (seconds : Int) (cwd : String) (words : List String) : Except OsError Launch :=
  let name := words.headD ""
  if (cwd :: words).any (·.toList.contains '\x00') then .error .nulInPath
  else match machine.locate (.ofString cwd) with
    | .error cause => .ok (refused cause cwd)
    | .ok (loc, .directory) => match find name with
      | .ok () => .ok ((run (Path.toString ⟨"/", loc⟩) words).launch seconds)
      | .error cause => .ok (refused cause name)
    | .ok _ => .ok (refused .notDirectory cwd)

end PluginSweep.Rehearsal.Shell

/-
PluginSweep/Proofs/Rehearsal/Shell.lean

What the machine of a rehearsal can come to.  A script whose words stand between single quotes is
read as these words (`ofScript_script`), and its commands are carried out one after the other
(`runCommands_cons`).  So there is a script for whatever a tool may write and with whatever code it
may exit (`launch_reporter`): on the machine a command can come to everything that a tool
can come to which exits by itself and in time, bytes that are no text included
(`launch_reporter_undecodable_iff`).
-/
import PluginSweep.Proofs.Rehearsal.Format
import PluginSweep.Proofs.Tool.Execution
import PluginSweep.Rehearsal.Shell
import Std.Data.String.ToInt

namespace PluginSweep.Rehearsal

/-! ### Scripts of quoted words -/

/-- The single quote. -/
def singleQuote : Char := '\x27'

/-- A command whose words are taken as they are, and whose output may go where the errors go. -/
structure PlainCommand where
  words : List (List Char)
  toErrors : Bool := false

namespace PlainCommand

/-- The text of a word, which stands between single quotes. -/
def wordText (word : List Char) : List Char :=
  singleQuote :: word ++ [singleQuote, ' ']

/-- The text of the command. -/
def text (c : PlainCommand) : List Char :=
  c.words.flatMap wordText ++ ((if c.toErrors then ['>', '&', '2'] else []) ++ [';'])

/-- The command itself. -/
def command (c : PlainCommand) : ScriptCommand where
  words := c.words.map fun word => [.text word]
  streams := if c.toErrors then [(1, 2)] else []

/-- The lexemes of the command. -/
def lexemes (c : PlainCommand) : List Lexeme :=
  (c.words.map fun word => .word [.text word]) ++
    ((if c.toErrors then [.duplicate 1 2] else []) ++ [.sign ";"])

end PlainCommand

namespace Lexeme

theorem read_nil : read false none [] = .ok [] := by
  rw [read]
  rfl

theorem toNat_eq_of_singleQuote (d : Char) : (d.toNat != 39) = (d != singleQuote) := by
  have hquote : singleQuote.toNat = 39 := rfl
  rw [Bool.eq_iff_iff, bne_iff_ne, bne_iff_ne, ← hquote, ne_eq, ne_eq, Char.toNat_inj]

variable {rest : List Char} {lexemes : List Lexeme}

theorem read_blank (word : ScriptWord) (h : read false none rest = .ok lexemes) :
    read false (some word) (' ' :: rest) = .ok (.word word.reverse :: lexemes) := by
  rw [read.eq_def]
  simp [Pending.lexemes, h, Except.map]

/-- A quoted word is read as it is. -/
theorem read_word {word : List Char} (hword : singleQuote ∉ word)
    (h : read false none rest = .ok lexemes) :
    read false none (PlainCommand.wordText word ++ rest) =
      .ok (.word [.text word] :: lexemes) := by
  have hinside : (word ++ singleQuote :: ' ' :: rest).takeWhile (fun d => d.toNat != 39) =
      word := by
    have hall : ∀ d ∈ word, (d.toNat != 39) = true := by
      intro d hd
      rw [toNat_eq_of_singleQuote, bne_iff_ne]
      rintro rfl
      exact hword hd
    rw [List.takeWhile_append_of_pos hall, List.takeWhile_cons]
    simp [singleQuote]
  have htext : PlainCommand.wordText word ++ rest =
      singleQuote :: (word ++ singleQuote :: ' ' :: rest) := by
    simp [PlainCommand.wordText]
  have hdrop : (word ++ singleQuote :: ' ' :: rest).drop (word.length + 1) = ' ' :: rest := by
    simp
  rw [htext, read.eq_def]
  dsimp only
  rw [hinside, hdrop]
  simpa [singleQuote, Pending.add] using read_blank [.text word] h

theorem read_words {words : List (List Char)} (hwords : ∀ word ∈ words, singleQuote ∉ word)
    (h : read false none rest = .ok lexemes) :
    read false none (words.flatMap PlainCommand.wordText ++ rest) =
      .ok ((words.map fun word => .word [.text word]) ++ lexemes) := by
  induction words with
  | nil => exact h
  | cons word words ih =>
    obtain ⟨hword, hwords⟩ := List.forall_mem_cons.mp hwords
    rw [List.flatMap_cons, List.append_assoc]
    exact read_word hword (ih hwords)

theorem read_sign (h : read false none rest = .ok lexemes) :
    read false none (';' :: rest) = .ok (.sign ";" :: lexemes) := by
  have hlength : ";".length = 1 := rfl
  rw [read.eq_def]
  simp [Pending.lexemes, hlength, h, Except.map]

theorem read_duplicate (h : read false none rest = .ok lexemes) :
    read false none ('>' :: '&' :: '2' :: rest) = .ok (.duplicate 1 2 :: lexemes) := by
  rw [read.eq_def]
  simp [Pending.lexemes, h, Except.map]

variable {c : PlainCommand} {cs : List PlainCommand}

/-- A command is read as its lexemes. -/
theorem read_command (hc : ∀ word ∈ c.words, singleQuote ∉ word)
    (h : read false none rest = .ok lexemes) :
    read false none (c.text ++ rest) = .ok (c.lexemes ++ lexemes) := by
  obtain ⟨words, toErrors⟩ := c
  rw [PlainCommand.text, PlainCommand.lexemes, List.append_assoc _ _ rest,
    List.append_assoc _ _ lexemes]
  refine read_words hc ?_
  cases toErrors with
  | false => exact read_sign h
  | true => exact read_duplicate (read_sign h)

/-- A script is read as the lexemes of its commands. -/
theorem read_script (hcs : ∀ c ∈ cs, ∀ word ∈ c.words, singleQuote ∉ word) :
    read false none (cs.flatMap PlainCommand.text) = .ok (cs.flatMap PlainCommand.lexemes) := by
  induction cs with
  | nil => exact read_nil
  | cons c cs ih =>
    obtain ⟨hc, hcs⟩ := List.forall_mem_cons.mp hcs
    rw [List.flatMap_cons, List.flatMap_cons]
    exact read_command hc (ih hcs)

end Lexeme

namespace ScriptCommand

variable {c : PlainCommand} {cs : List PlainCommand}

/-- The words of a command are gathered. -/
theorem ofLexemes_words (sign : String) (made : ScriptCommand) (words : List (List Char))
    (rest : List Lexeme) :
    ofLexemes sign made ((words.map fun word => .word [.text word]) ++ rest) =
      ofLexemes sign { made with words := made.words ++ words.map fun word => [.text word] }
        rest := by
  induction words generalizing made with
  | nil => simp
  | cons word words ih =>
    rw [List.map_cons, List.cons_append, ofLexemes, ih]
    simp

/-- The lexemes of a command make that command. -/
theorem ofLexemes_command (hc : c.words ≠ []) (sign : String) {rest : List Lexeme}
    {made : List (String × ScriptCommand)} (h : ofLexemes ";" {} rest = .ok made) :
    ofLexemes sign {} (c.lexemes ++ rest) = .ok ((sign, c.command) :: made) := by
  obtain ⟨words, toErrors⟩ := c
  obtain ⟨word, words, rfl⟩ := List.exists_cons_of_ne_nil hc
  rw [PlainCommand.lexemes, List.append_assoc, ofLexemes_words]
  cases toErrors with
  | false => simp [ofLexemes, isEmpty, PlainCommand.command, h, Except.map]
  | true => simp [ofLexemes, isEmpty, PlainCommand.command, h, Except.map]

/-- **A script of quoted words is read as what it is written for**: its commands, with their words
and with where their output goes. -/
theorem ofScript_script (hwords : ∀ c ∈ cs, c.words ≠ [])
    (hcs : ∀ c ∈ cs, ∀ word ∈ c.words, singleQuote ∉ word) :
    ofScript (cs.flatMap PlainCommand.text) = .ok (cs.map fun c => (";", c.command)) := by
  have hmade : ofLexemes ";" {} (cs.flatMap PlainCommand.lexemes) =
      .ok (cs.map fun c => (";", c.command)) := by
    clear hcs
    induction cs with
    | nil => rfl
    | cons c cs ih =>
      obtain ⟨hc, hwords⟩ := List.forall_mem_cons.mp hwords
      rw [List.flatMap_cons]
      exact ofLexemes_command hc ";" (ih hwords)
  rw [ofScript, Lexeme.read_script hcs]
  exact hmade

end ScriptCommand

/-! ### Scripts that report -/

namespace Shell

/-- A word that is taken as it is expands to itself. -/
theorem all_expand_text (inner : State → List Char → Ran) (s : State) (word : List Char) :
    (expand inner s {} [.text word]).all = [String.ofList word] := by
  simp [expand, Fields.add, Fields.all]

theorem expand_words (inner : State → List Char → Ran) (s : State) (c : PlainCommand) :
    c.command.words.flatMap (fun word => (expand inner s {} word).all) =
      c.words.map String.ofList := by
  obtain ⟨words, toErrors⟩ := c
  show (words.map fun word => [WordPart.text word]).flatMap _ = words.map String.ofList
  induction words with
  | nil => rfl
  | cons word words ih =>
    rw [List.map_cons, List.flatMap_cons, ih, all_expand_text]
    rfl

/-- A command with arguments is carried out, and the script goes on. -/
theorem runCommands_cons (inner : State → List Char → Ran) (s : State) {before : Ran}
    {c : PlainCommand} {name : String} {argument : String} {arguments : List String}
    (hgoing : before.last = false)
    (hwords : c.words.map String.ofList = name :: argument :: arguments) (hcd : name ≠ "cd")
    (rest : List (String × ScriptCommand)) :
    let s' : State := { s with settings := ("?", Text.integer before.code) :: s.settings }
    let ran := route c.command.streams
      (runCommand inner s' (name :: argument :: arguments) [])
    runCommands inner s before ((";", c.command) :: rest) =
      runCommands inner s' { ran with
        out := before.out ++ ran.out
        err := before.err ++ ran.err
        milliseconds := before.milliseconds + ran.milliseconds } rest := by
  intro s' ran
  have hchanged : s'.changed (name :: argument :: arguments) = none := by
    have hname : (some name == some "cd") = false := by simpa using hcd
    simp [State.changed, hname]
  have hsign : ((";" == "&&" && before.code != 0) || (";" == "||" && before.code == 0)) = false :=
    rfl
  have hpiped : (";" == "|") = false := rfl
  rw [runCommands]
  simp only [hgoing, hsign, expand_words, hwords, hpiped, Bool.false_eq_true, if_false]
  -- The words are no assignment, since there are two of them, and no change of directory.
  split
  · rename_i hlength _
    simp at hlength
  · rename_i moved hmoved _
    cases hchanged.symm.trans hmoved
  · rfl

variable {inner : State → List Char → Ran} {s : State} {out err : List UInt8} {code : Nat}

/-- The commands that write the bytes to the two streams and exit with the code. -/
def reporter (out err : List UInt8) (code : Nat) : List PlainCommand :=
  [{ words := ["printf".toList, "--".toList, Format.octalFormat out] },
    { words := ["printf".toList, "--".toList, Format.octalFormat err], toErrors := true },
    { words := ["exit".toList, (Text.decimal code).toList] }]

/-- The script of these commands. -/
def reporterScript (out err : List UInt8) (code : Nat) : List Char :=
  (reporter out err code).flatMap PlainCommand.text

theorem runCommand_printf (bytes : List UInt8) :
    runCommand inner s ["printf", "--", String.ofList (Format.octalFormat bytes)] [] =
      { out := bytes } := by
  show ({ out := Format.write {} (String.ofList (Format.octalFormat bytes)) [] } : Ran) = _
  rw [Format.write_octalFormat rfl]

theorem runCommand_exit (hcode : code < 256) :
    runCommand inner s ["exit", Text.decimal code] [] = { code := code, last := true } := by
  have hread : (Text.decimal code).toInt? = some (code : Int) := by
    rw [Text.decimal, ← Nat.repr, Nat.toInt?_repr]
  show ({ code := (Text.decimal code).toInt?.getD 0 % 256, last := true } : Ran) = _
  rw [hread, Option.getD_some, Int.emod_eq_of_lt (by omega) (by omega)]

/-- Only a few characters stand in the words of these commands. -/
theorem notMem_words {d : Char} (hletter : d ∉ "printf--exit\\".toList)
    (hdigit : d.isDigit = false) :
    ∀ c ∈ reporter out err code, ∀ word ∈ c.words, d ∉ word := by
  have hletters : ∀ word ∈ ["printf".toList, "--".toList, "exit".toList], d ∉ word := by
    have hall : ∀ word ∈ ["printf".toList, "--".toList, "exit".toList],
        ∀ d ∈ word, d ∈ "printf--exit\\".toList := by simp
    exact fun word hword hd => hletter (hall word hword d hd)
  have hformat (bytes : List UInt8) : d ∉ Format.octalFormat bytes := by
    refine Format.notMem_octalFormat ?_ hdigit bytes
    rintro rfl
    exact hletter (by decide)
  have hnumber : d ∉ (Text.decimal code).toList := by
    intro hd
    rw [Text.decimal, String.toList_ofList] at hd
    rw [Nat.isDigit_of_mem_toDigits (by decide) (by decide) hd] at hdigit
    cases hdigit
  simp only [List.forall_mem_cons] at hletters
  obtain ⟨hprintf, hdashes, hexit, -⟩ := hletters
  simp only [reporter, List.forall_mem_cons]
  exact ⟨⟨hprintf, hdashes, hformat out, nofun⟩, ⟨hprintf, hdashes, hformat err, nofun⟩,
    ⟨hexit, hnumber, nofun⟩, nofun⟩

/-- Nor do others stand in the script. -/
theorem notMem_reporterScript {d : Char} (hletter : d ∉ "printf--exit\\".toList)
    (hdigit : d.isDigit = false) (hsign : d ∉ [singleQuote, ' ', '>', '&', '2', ';']) :
    d ∉ reporterScript out err code := by
  intro hd
  obtain ⟨c, hc, hd⟩ := List.mem_flatMap.mp hd
  simp only [List.mem_cons, List.not_mem_nil, or_false, not_or] at hsign
  obtain ⟨hquote, hblank, hmore, hand, htwo, hend⟩ := hsign
  rw [PlainCommand.text, List.mem_append, List.mem_append] at hd
  rcases hd with hd | hd | hd
  · obtain ⟨word, hword, hd⟩ := List.mem_flatMap.mp hd
    rw [PlainCommand.wordText, List.cons_append, List.mem_cons, List.mem_append] at hd
    rcases hd with hd | hd | hd
    · exact hquote hd
    · exact notMem_words hletter hdigit c hc word hword hd
    · simp [hquote, hblank] at hd
  · split at hd
    · simp [hmore, hand, htwo] at hd
    · cases hd
  · exact hend (List.mem_singleton.mp hd)

/-- The script writes the bytes to the two streams and exits with the code. -/
theorem runScript_report (hcode : code < 256) (depth : Nat) :
    runScript (depth + 1) s (reporterScript out err code) =
      { out, err, code := code, last := true } := by
  have hread : ScriptCommand.ofScript (reporterScript out err code) =
      .ok ((reporter out err code).map fun c => (";", c.command)) := by
    refine ScriptCommand.ofScript_script ?_ (notMem_words (by decide) (by decide))
    simp [reporter]
  have hwords : ∀ (bytes : List UInt8) (toErrors : Bool),
      (PlainCommand.mk ["printf".toList, "--".toList, Format.octalFormat bytes] toErrors).words.map
        String.ofList = ["printf", "--", String.ofList (Format.octalFormat bytes)] :=
    fun _ _ => rfl
  have hexit : (PlainCommand.mk ["exit".toList, (Text.decimal code).toList] false).words.map
      String.ofList = ["exit", Text.decimal code] := by
    simp
  rw [runScript, hread]
  simp only [reporter, List.map_cons, List.map_nil]
  rw [runCommands_cons _ _ rfl (hwords out false) (by decide), runCommand_printf,
    runCommands_cons _ _ rfl (hwords err true) (by decide), runCommand_printf,
    runCommands_cons _ _ rfl hexit (by decide), runCommand_exit hcode, runCommands]
  simp [PlainCommand.command, route]

/-- **A command can come to whatever a tool can come to that exits in time**: on the machine there
is one that writes the bytes to the two streams and exits with the code. -/
theorem launch_reporter {seconds : Int} (hseconds : 0 < seconds) (hcode : code < 256)
    (out err : List UInt8) :
    launch seconds "/T" ["sh", "-c", String.ofList (reporterScript out err code)] =
      .ok (.ofBytes code out err) := by
  have hnul : '\x00' ∉ reporterScript out err code :=
    notMem_reporterScript (by decide) (by decide) (by decide)
  have hplain : (["/T", "sh", "-c", String.ofList (reporterScript out err code)].any
      (·.toList.contains '\x00')) = false := by
    simp [hnul]
  have hplace : machine.locate (.ofString "/T") = .ok (["T"], .directory) := by
    rfl
  have hprogram : find "sh" = .ok () := by
    rfl
  have hname : (Path.ofString "sh").name = "sh" := by
    decide +kernel
  -- The shell carries out the script itself.
  have hran : run (Path.toString ⟨"/", ["T"]⟩)
      ["sh", "-c", String.ofList (reporterScript out err code)] =
        { out, err, code := code, last := true } := by
    unfold run
    simp only [List.headD_cons, hname]
    show runScript nesting _ (String.ofList (reporterScript out err code)).toList = _
    rw [String.toList_ofList, nesting, runScript_report hcode]
  unfold launch
  rw [hplain]
  simp only [List.headD_cons, Bool.false_eq_true, if_false, hplace, hprogram, hran]
  have hintime : (decide (seconds ≤ 0) || decide (Int.ofNat 0 > seconds * 1000)) = false := by
    simp
    omega
  rw [Ran.launch, hintime]
  rfl

/-- What the command comes to cannot be read if and only if the bytes are no text. -/
theorem launch_reporter_undecodable_iff {seconds : Int} (hseconds : 0 < seconds)
    (hcode : code < 256) (out err : List UInt8) :
    launch seconds "/T" ["sh", "-c", String.ofList (reporterScript out err code)] =
        .ok .undecodable ↔
      ¬ (Execution.exited code (some out) (some err)).Textual := by
  rw [launch_reporter hseconds hcode, Except.ok.injEq, Launch.ofBytes]
  exact Execution.launch_eq_undecodable_iff

end Shell

end PluginSweep.Rehearsal

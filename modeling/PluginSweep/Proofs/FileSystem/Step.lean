/-
PluginSweep/Proofs/FileSystem/Step.lean

Following one name.  From a directory, a name that is skipped leads nowhere else,
`..` leads to the directory above, and any other name leads to the entry of that
name, where a link is followed further.  `Leads` lists the ways in which a first
name can be followed without refusal; what is shown of a path name by name is
shown by going through them.
-/
import PluginSweep.FileSystem.Basic

namespace PluginSweep

/-- The name can be that of an entry of a directory. -/
def Proper (name : String) : Prop :=
  name ∉ ["", ".", ".."]

instance (name : String) : Decidable (Proper name) :=
  inferInstanceAs (Decidable (name ∉ ["", ".", ".."]))

theorem proper_iff {name : String} :
    Proper name ↔ ¬ (name == "" || name == ".") = true ∧ ¬ (name == "..") = true := by
  simp [Proper, and_assoc]

namespace FileSystem

variable {fs : FileSystem} {purpose : Purpose}
  {detour : Location → List String → Except OsCause Location} {here loc : Location}
  {name : String} {rest : List String}

/-- Nothing can be followed from where there is no directory. -/
theorem node?_of_follow (h : fs.follow purpose detour here (name :: rest) = .ok loc) :
    fs.node? here = some .directory := by
  rw [follow] at h
  split at h
  · assumption
  · cases h
  · cases h

theorem follow_skip (hhere : fs.node? here = some .directory)
    (hskip : (name == "" || name == ".") = true) :
    fs.follow purpose detour here (name :: rest) = fs.follow purpose detour here rest := by
  rw [follow, hhere]
  exact if_pos hskip

theorem follow_up (hhere : fs.node? here = some .directory) :
    fs.follow purpose detour here (".." :: rest) = fs.follow purpose detour here.dropLast rest := by
  rw [follow, hhere]
  rfl

/-- A slash is refused after a name: a file is to be made there, and only empty names follow. -/
def SlashRefused (purpose : Purpose) (rest : List String) : Prop :=
  purpose = .file ∧ rest ≠ [] ∧ ∀ name ∈ rest, name = ""

theorem not_slashRefused_of_ne (hpurpose : purpose ≠ .file) : ¬ SlashRefused purpose rest :=
  fun h => hpurpose h.1

theorem not_slashRefused_nil : ¬ SlashRefused purpose [] :=
  fun h => h.2.1 rfl

theorem slashRefused_iff : SlashRefused purpose rest ↔
    (decide (purpose = .file) && !rest.isEmpty && rest.all (· == "")) = true := by
  simp [SlashRefused, and_assoc]

/-- Following a name that can be that of an entry, where no slash is refused after it, and the name
is not too long. -/
theorem follow_entry (hhere : fs.node? here = some .directory) (hname : Proper name)
    (hslash : ¬ SlashRefused purpose rest) (hshort : ¬ name.utf8ByteSize > nameLimit) :
    fs.follow purpose detour here (name :: rest) =
      match fs.node? (here ++ [name]) with
      | some (.link target) =>
        if rest.isEmpty && purpose = .entry then .ok (here ++ [name])
        else detour (startOf target here) (Path.splitSlashes target ++ rest)
      | some _ => fs.follow purpose detour (here ++ [name]) rest
      | none => if rest.isEmpty then .ok (here ++ [name]) else .error .noEntry := by
  obtain ⟨hskip, hup⟩ := proper_iff.mp hname
  rw [follow, hhere]
  exact (if_neg hskip).trans ((if_neg hup).trans
    ((if_neg (mt slashRefused_iff.mpr hslash)).trans (if_neg hshort)))

/-- What a path is traced for makes no difference to a name with these names after it: links are
followed in any case, or a name comes after the last slash. -/
def Onward (purpose : Purpose) (rest : List String) : Prop :=
  purpose = .target ∨ ∃ name ∈ rest, name ≠ ""

theorem Onward.append {below : List String} (h : Onward purpose below) (names : List String) :
    Onward purpose (names ++ below) := by
  rcases h with rfl | ⟨name, hname, hne⟩
  · exact .inl rfl
  · exact .inr ⟨name, List.mem_append_right names hname, hne⟩

theorem Onward.not_slashRefused (h : Onward purpose rest) : ¬ SlashRefused purpose rest := by
  rcases h with rfl | ⟨name, hname, hne⟩
  · exact not_slashRefused_of_ne nofun
  · exact fun hslash => hne (hslash.2.2 name hname)

/-- Following a name that can be that of an entry, where more is to come. -/
theorem follow_onward (hhere : fs.node? here = some .directory) (hname : Proper name)
    (honward : Onward purpose rest) :
    fs.follow purpose detour here (name :: rest) =
      if name.utf8ByteSize > nameLimit then .error .nameTooLong
      else match fs.node? (here ++ [name]) with
      | some (.link target) => detour (startOf target here) (Path.splitSlashes target ++ rest)
      | some _ => fs.follow purpose detour (here ++ [name]) rest
      | none => if rest.isEmpty then .ok (here ++ [name]) else .error .noEntry := by
  obtain ⟨hskip, hup⟩ := proper_iff.mp hname
  have hslash := mt slashRefused_iff.mpr honward.not_slashRefused
  have hentry : ¬ (rest.isEmpty && decide (purpose = .entry)) = true := by
    rcases honward with rfl | ⟨other, hother, -⟩
    · simp
    · rw [List.isEmpty_eq_false_iff.mpr (List.ne_nil_of_mem hother)]
      exact Bool.false_ne_true
  rcases hthere : fs.node? (here ++ [name]) with - | (bytes | - | target) <;>
    simp only [follow, hhere, hthere, if_neg hskip, if_neg hup, if_neg hslash, if_neg hentry]

/-- Following a name that can be that of an entry, to what a link at the end leads to. -/
theorem follow_proper (hhere : fs.node? here = some .directory) (hname : Proper name) :
    fs.follow .target detour here (name :: rest) =
      if name.utf8ByteSize > nameLimit then .error .nameTooLong
      else match fs.node? (here ++ [name]) with
      | some (.link target) => detour (startOf target here) (Path.splitSlashes target ++ rest)
      | some _ => fs.follow .target detour (here ++ [name]) rest
      | none => if rest.isEmpty then .ok (here ++ [name]) else .error .noEntry :=
  follow_onward hhere hname (.inl rfl)

/-- A last name that is not that of a link leads to the entry of the name, or to its free place. -/
theorem follow_last (hhere : fs.node? here = some .directory) (hname : Proper name)
    (hlink : ∀ target, fs.node? (here ++ [name]) ≠ some (.link target)) :
    fs.follow purpose detour here [name] =
      if name.utf8ByteSize > nameLimit then .error .nameTooLong else .ok (here ++ [name]) := by
  by_cases hlong : name.utf8ByteSize > nameLimit
  · obtain ⟨hskip, hup⟩ := proper_iff.mp hname
    have hslash := mt slashRefused_iff.mpr (@not_slashRefused_nil purpose)
    rw [if_pos hlong, follow, hhere]
    simp only [if_neg hskip, if_neg hup, if_neg hslash, if_pos hlong]
  · rw [if_neg hlong, follow_entry hhere hname not_slashRefused_nil hlong]
    rcases hthere : fs.node? (here ++ [name]) with - | (bytes | - | target)
    · rfl
    · rfl
    · rfl
    · exact absurd hthere (hlink target)

/-! ### Following without refusal -/

/-- How a first name is followed without refusal, and what is then followed to the end. -/
inductive Leads (fs : FileSystem) (purpose : Purpose)
    (detour : Location → List String → Except OsCause Location) (here : Location) (name : String)
    (rest : List String) (loc : Location) : Prop
  /-- The name is skipped. -/
  | skip (hskip : (name == "" || name == ".") = true)
      (hrest : fs.follow purpose detour here rest = .ok loc)
  /-- The name leads to the directory above. -/
  | up (hup : name = "..") (hrest : fs.follow purpose detour here.dropLast rest = .ok loc)
  /-- The name is that of a file or of a directory. -/
  | enter {node : Node} (hname : Proper name) (hslash : ¬ SlashRefused purpose rest)
      (hshort : ¬ name.utf8ByteSize > nameLimit) (hthere : fs.node? (here ++ [name]) = some node)
      (hnode : ∀ target, node ≠ .link target)
      (hrest : fs.follow purpose detour (here ++ [name]) rest = .ok loc)
  /-- The name is that of a link, which is followed. -/
  | link {target : String} (hname : Proper name) (hslash : ¬ SlashRefused purpose rest)
      (hshort : ¬ name.utf8ByteSize > nameLimit)
      (hthere : fs.node? (here ++ [name]) = some (.link target))
      (hlast : purpose = .entry → rest ≠ [])
      (hrest : detour (startOf target here) (Path.splitSlashes target ++ rest) = .ok loc)
  /-- The last name is that of a link, and the link itself is asked for. -/
  | keep {target : String} (hname : Proper name) (hshort : ¬ name.utf8ByteSize > nameLimit)
      (hthere : fs.node? (here ++ [name]) = some (.link target)) (hpurpose : purpose = .entry)
      (hlast : rest = []) (hloc : here ++ [name] = loc)
  /-- The last name leads to a free place. -/
  | free (hname : Proper name) (hshort : ¬ name.utf8ByteSize > nameLimit)
      (hthere : fs.node? (here ++ [name]) = none) (hlast : rest = []) (hloc : here ++ [name] = loc)

/-- A first name that is followed without refusal is followed in one of these ways. -/
theorem leads_of_follow (h : fs.follow purpose detour here (name :: rest) = .ok loc) :
    fs.Leads purpose detour here name rest loc := by
  -- The splits follow the order of the checks.
  rw [follow, node?_of_follow h] at h
  dsimp only at h
  split at h
  · exact .skip ‹_› h
  · rename_i hskip
    split at h
    · exact .up (beq_iff_eq.mp ‹_›) h
    · rename_i hup
      have hname : Proper name := proper_iff.mpr ⟨hskip, hup⟩
      split at h
      · cases h
      · rename_i hslash
        rw [← slashRefused_iff] at hslash
        split at h
        · cases h
        · rename_i hshort
          split at h
          · rename_i target hthere
            split at h
            · rename_i hkeep
              obtain ⟨hlast, hpurpose⟩ := Bool.and_eq_true_iff.mp hkeep
              exact .keep hname hshort hthere (of_decide_eq_true hpurpose)
                (List.isEmpty_iff.mp hlast) (Except.ok.inj h)
            · rename_i hkeep
              refine .link hname hslash hshort hthere (fun hpurpose hlast => hkeep ?_) h
              simp [hpurpose, hlast]
          · rename_i node hlink hthere
            exact .enter hname hslash hshort hthere
              (fun target heq => hlink target heq) h
          · rename_i hthere
            split at h
            · exact .free hname hshort hthere (List.isEmpty_iff.mp ‹_›) (Except.ok.inj h)
            · cases h

/-- From a directory, a name that can be followed in one of these ways is followed. -/
theorem Leads.follow (hhere : fs.node? here = some .directory)
    (h : fs.Leads purpose detour here name rest loc) :
    fs.follow purpose detour here (name :: rest) = .ok loc := by
  cases h with
  | skip hskip hrest => rwa [follow_skip hhere hskip]
  | up hup hrest =>
    subst hup
    rwa [follow_up hhere]
  | enter hname hslash hshort hthere hnode hrest =>
    rw [follow_entry hhere hname hslash hshort, hthere]
    split
    · exact absurd (Option.some.inj ‹_›) (hnode _)
    · exact hrest
    · cases ‹some _ = none›
  | link hname hslash hshort hthere hlast hrest =>
    rw [follow_entry hhere hname hslash hshort, hthere]
    -- A link is kept only where it comes last and is asked for itself.
    refine (if_neg fun hkeep => ?_).trans hrest
    obtain ⟨hnil, hpurpose⟩ := Bool.and_eq_true_iff.mp hkeep
    exact hlast (of_decide_eq_true hpurpose) (List.isEmpty_iff.mp hnil)
  | keep hname hshort hthere hpurpose hlast hloc =>
    subst hpurpose hlast hloc
    rw [follow_entry hhere hname not_slashRefused_nil hshort, hthere]
    rfl
  | free hname hshort hthere hlast hloc =>
    subst hlast hloc
    rw [follow_entry hhere hname not_slashRefused_nil hshort, hthere]
    rfl

end FileSystem

end PluginSweep

/-
PluginSweep/Proofs/FileSystem/Links.lean

How many links a trace may lead through.  A trace that does not run out of
links leads to the same place when it may lead through more of them
(`traceFrom_mono`).  Where names have led somewhere, further names are traced
from there, through the links that are left (`exists_left_of_traceFrom`).  So a
name that leads somewhere from a directory leads there also from a path to the
directory, unless that path and the name together are refused for their links or
their length (`locate_concat`); and if the name is not that of a link, only for
their length (`trace_concat`).
-/
import PluginSweep.Proofs.FileSystem.Below

namespace PluginSweep.FileSystem

variable {fs : FileSystem} {purpose : Purpose} {here loc mid : Location} {names : List String}

/-! ### More links -/

theorem follow_mono {detour detour' : Location → List String → Except OsCause Location}
    (hdetour : ∀ here names, detour here names = .error .linkLoop ∨
      detour' here names = detour here names) (here : Location) (names : List String) :
    fs.follow purpose detour here names = .error .linkLoop ∨
      fs.follow purpose detour' here names = fs.follow purpose detour here names := by
  induction names generalizing here with
  | nil => exact .inr rfl
  | cons name rest ih =>
    rw [follow, follow]
    split
    · split
      · exact ih here
      · split
        · exact ih here.dropLast
        · split
          · exact .inr rfl
          · split
            · exact .inr rfl
            · dsimp only
              split
              · split
                · exact .inr rfl
                · exact hdetour _ _
              · exact ih _
              · exact .inr rfl
    · exact .inr rfl
    · exact .inr rfl

/-- With more links a trace leads to the same place, or the fewer were not enough. -/
theorem traceFrom_mono {fewer links : Nat} (hle : fewer ≤ links) (here : Location)
    (names : List String) : fs.traceFrom purpose fewer here names = .error .linkLoop ∨
      fs.traceFrom purpose links here names = fs.traceFrom purpose fewer here names := by
  induction fewer generalizing links here names with
  | zero =>
    cases links with
    | zero => exact .inr rfl
    | succ links => exact follow_mono (fun _ _ => .inl rfl) here names
  | succ fewer ih =>
    obtain ⟨links, rfl⟩ := Nat.exists_eq_add_one_of_ne_zero (Nat.ne_zero_of_lt hle)
    exact follow_mono (fun here names => ih (Nat.le_of_succ_le_succ hle) here names) here names

/-! ### The links that are left -/

variable {below : List String}

/-- Names that have led somewhere are followed further from there, or a detour has led there and
goes on. -/
theorem follow_append_of_ok {detour detour' : Location → List String → Except OsCause Location}
    (hbelow : Onward purpose below) (h : fs.follow .target detour here names = .ok mid) :
    fs.follow purpose detour' here (names ++ below) = fs.follow purpose detour' mid below ∨
    ∃ there onward, detour there onward = .ok mid ∧
      fs.follow purpose detour' here (names ++ below) = detour' there (onward ++ below) := by
  induction names generalizing here with
  | nil =>
    obtain rfl := Except.ok.inj h
    exact .inl rfl
  | cons name rest ih =>
    have hhere := node?_of_follow h
    rw [List.cons_append]
    cases leads_of_follow h with
    | skip hskip hrest =>
      rw [follow_skip hhere hskip]
      exact ih hrest
    | up hup hrest =>
      subst hup
      rw [follow_up hhere]
      exact ih hrest
    | @enter node hname _ hshort hthere hnode hrest =>
      rw [follow_onward hhere hname (hbelow.append rest), if_neg hshort, hthere]
      cases node with
      | file _ => exact ih hrest
      | directory => exact ih hrest
      | link target => exact absurd rfl (hnode target)
    | link hname _ hshort hthere _ hrest =>
      rw [follow_onward hhere hname (hbelow.append rest), if_neg hshort, hthere]
      exact .inr ⟨_, _, hrest, by rw [List.append_assoc]⟩
    | keep _ _ _ hpurpose _ _ => cases hpurpose
    | free hname hshort hthere hlast hloc =>
      -- Nothing is followed from a free place, whether it is met on the way or at the end.
      subst hlast hloc
      left
      rw [List.nil_append, follow_onward hhere hname hbelow, if_neg hshort, hthere]
      cases below with
      | nil => rfl
      | cons next below =>
        rw [follow, hthere]
        rfl

/-- Where names have led, further names are traced from, through the links that are left. -/
theorem exists_left_of_traceFrom {links : Nat} (hbelow : Onward purpose below)
    (h : fs.traceFrom .target links here names = .ok mid) :
    ∃ left ≤ links, fs.traceFrom purpose links here (names ++ below) =
      fs.traceFrom purpose left mid below := by
  induction links generalizing here names with
  | zero =>
    rcases follow_append_of_ok hbelow h with hrest | ⟨_, _, hdetour, -⟩
    · exact ⟨0, Nat.le_refl _, hrest⟩
    · cases hdetour
  | succ fewer ih =>
    rcases follow_append_of_ok hbelow h with hrest | ⟨there, onward, hdetour, hrest⟩
    · exact ⟨fewer + 1, Nat.le_refl _, hrest⟩
    · obtain ⟨left, hle, hleft⟩ := ih hdetour
      exact ⟨left, Nat.le_succ_of_le hle, hrest.trans hleft⟩

/-! ### One more name -/

/-- A trace of a path that is not too long. -/
theorem trace_of_short {p : Path} (h : fs.locate p ≠ .error .nameTooLong) :
    fs.trace .target p =
      fs.traceFrom .target linkLimit (if p.isAbsolute then [] else fs.cwd) p.names := by
  rw [trace]
  split
  · rename_i hlong
    refine absurd ?_ h
    rw [locate, trace, if_pos hlong]
  · rfl

variable {p : Path} {node : Node} {name : String}

/-- A path goes on with a name to where the name leads from the end of the path, unless the path
and the name together are refused. -/
theorem locate_concat {node' : Node} (h : fs.locate p = .ok (mid, node))
    (hname : fs.traceFrom .target linkLimit mid [name] = .ok loc)
    (hnode : fs.node? loc = some node')
    (hloop : fs.locate ⟨p.anchor, p.names ++ [name]⟩ ≠ .error .linkLoop)
    (hshort : fs.locate ⟨p.anchor, p.names ++ [name]⟩ ≠ .error .nameTooLong) :
    fs.locate ⟨p.anchor, p.names ++ [name]⟩ = .ok (loc, node') := by
  obtain ⟨left, hle, hleft⟩ := exists_left_of_traceFrom (.inl rfl) (trace_of_locate h)
  have htrace := (trace_of_short hshort).trans hleft
  rcases traceFrom_mono hle mid [name] with hfew | hsame
  · refine absurd ?_ hloop
    rw [locate, htrace, hfew]
  · rw [locate, htrace, ← hsame, hname]
    dsimp only
    rw [hnode]

/-- Where a path leads that goes on with a name, the name leads from the end of the path. -/
theorem traceFrom_of_locate_concat {node' : Node} (h : fs.locate p = .ok (mid, node))
    (hall : fs.locate ⟨p.anchor, p.names ++ [name]⟩ = .ok (loc, node')) :
    fs.traceFrom .target linkLimit mid [name] = .ok loc := by
  obtain ⟨left, hle, hleft⟩ := exists_left_of_traceFrom (.inl rfl) (trace_of_locate h)
  have htrace := hleft.symm.trans (trace_of_locate hall)
  rcases traceFrom_mono hle mid [name] with hfew | hsame
  · cases hfew.symm.trans htrace
  · exact hsame.trans htrace

theorem traceFrom_last {links : Nat} (hhere : fs.node? here = some .directory) (hname : Proper name)
    (hlink : ∀ target, fs.node? (here ++ [name]) ≠ some (.link target)) :
    fs.traceFrom purpose links here [name] =
      if name.utf8ByteSize > nameLimit then .error .nameTooLong else .ok (here ++ [name]) := by
  cases links with
  | zero => exact follow_last hhere hname hlink
  | succ fewer => exact follow_last hhere hname hlink

/-- A path to a directory and a name in it, that is not the name of a link, lead to the entry of
the name or to its free place, whatever the path is traced for, unless the path or the name is too
long. -/
theorem trace_concat (h : fs.locate p = .ok (mid, .directory)) (hname : Proper name)
    (hlink : ∀ target, fs.node? (mid ++ [name]) ≠ some (.link target)) :
    fs.trace purpose ⟨p.anchor, p.names ++ [name]⟩ =
      if (⟨p.anchor, p.names ++ [name]⟩ : Path).toString.utf8ByteSize > pathLimit ∨
          name.utf8ByteSize > nameLimit then .error .nameTooLong
      else .ok (mid ++ [name]) := by
  have hne : name ≠ "" := by
    rintro rfl
    exact absurd hname (by decide)
  have honward : Onward purpose [name] := .inr ⟨name, List.mem_cons_self, hne⟩
  obtain ⟨left, -, hleft⟩ := exists_left_of_traceFrom honward (trace_of_locate h)
  rw [trace]
  by_cases hlong : (⟨p.anchor, p.names ++ [name]⟩ : Path).toString.utf8ByteSize > pathLimit
  · rw [if_pos hlong, if_pos (.inl hlong)]
  · rw [if_neg hlong, show fs.traceFrom purpose linkLimit (if (⟨p.anchor, p.names ++ [name]⟩ :
      Path).isAbsolute then [] else fs.cwd) (p.names ++ [name]) = _ from hleft,
      traceFrom_last (node?_of_locate h) hname hlink]
    simp only [hlong, false_or]

/-- What such a path leads to is the entry of the name. -/
theorem locate_entry_iff (h : fs.locate p = .ok (mid, .directory)) (hname : Proper name)
    (hlink : ∀ target, fs.node? (mid ++ [name]) ≠ some (.link target)) :
    fs.locate ⟨p.anchor, p.names ++ [name]⟩ = .ok (loc, node) ↔
      ¬ ((⟨p.anchor, p.names ++ [name]⟩ : Path).toString.utf8ByteSize > pathLimit ∨
          name.utf8ByteSize > nameLimit) ∧
        loc = mid ++ [name] ∧ fs.node? (mid ++ [name]) = some node := by
  rw [locate_eq_ok_iff, trace_concat h hname hlink]
  by_cases hlong : (⟨p.anchor, p.names ++ [name]⟩ : Path).toString.utf8ByteSize > pathLimit ∨
      name.utf8ByteSize > nameLimit
  · simp [hlong]
  · rw [if_neg hlong, Except.ok.injEq]
    constructor
    · rintro ⟨rfl, hnode⟩
      exact ⟨hlong, rfl, hnode⟩
    · rintro ⟨-, rfl, hnode⟩
      exact ⟨rfl, hnode⟩

/-- Only the path or the name can be too long then. -/
theorem locate_entry_long_iff (h : fs.locate p = .ok (mid, .directory)) (hname : Proper name)
    (hlink : ∀ target, fs.node? (mid ++ [name]) ≠ some (.link target)) :
    fs.locate ⟨p.anchor, p.names ++ [name]⟩ = .error .nameTooLong ↔
      (⟨p.anchor, p.names ++ [name]⟩ : Path).toString.utf8ByteSize > pathLimit ∨
        name.utf8ByteSize > nameLimit := by
  rw [locate, trace_concat h hname hlink]
  by_cases hlong : (⟨p.anchor, p.names ++ [name]⟩ : Path).toString.utf8ByteSize > pathLimit ∨
      name.utf8ByteSize > nameLimit
  · simp [hlong]
  · rw [if_neg hlong]
    dsimp only
    cases fs.node? (mid ++ [name]) <;> simp [hlong]

theorem isFile_entry_iff (h : fs.locate p = .ok (mid, .directory)) (hname : Proper name)
    (hlink : ∀ target, fs.node? (mid ++ [name]) ≠ some (.link target)) :
    fs.isFile ⟨p.anchor, p.names ++ [name]⟩ = true ↔
      ¬ ((⟨p.anchor, p.names ++ [name]⟩ : Path).toString.utf8ByteSize > pathLimit ∨
          name.utf8ByteSize > nameLimit) ∧
        ∃ bytes, fs.node? (mid ++ [name]) = some (.file bytes) := by
  rw [isFile_iff]
  constructor
  · rintro ⟨loc, bytes, hlocate⟩
    obtain ⟨hshort, -, hnode⟩ := (locate_entry_iff h hname hlink).mp hlocate
    exact ⟨hshort, bytes, hnode⟩
  · rintro ⟨hshort, bytes, hnode⟩
    exact ⟨_, bytes, (locate_entry_iff h hname hlink).mpr ⟨hshort, rfl, hnode⟩⟩

/-- A path to a directory and the name of a file in it lead to the file, unless the path or the name
is too long. -/
theorem locate_file {bytes : List UInt8} (h : fs.locate p = .ok (mid, .directory))
    (hname : Proper name) (hfile : fs.node? (mid ++ [name]) = some (.file bytes)) :
    fs.locate ⟨p.anchor, p.names ++ [name]⟩ =
      if (⟨p.anchor, p.names ++ [name]⟩ : Path).toString.utf8ByteSize > pathLimit ∨
          name.utf8ByteSize > nameLimit then .error .nameTooLong
      else .ok (mid ++ [name], .file bytes) := by
  have hlink : ∀ target, fs.node? (mid ++ [name]) ≠ some (.link target) := by
    intro target hlink
    cases hfile.symm.trans hlink
  rw [locate, trace_concat h hname hlink]
  by_cases hlong : (⟨p.anchor, p.names ++ [name]⟩ : Path).toString.utf8ByteSize > pathLimit ∨
      name.utf8ByteSize > nameLimit
  · rw [if_pos hlong, if_pos hlong]
  · rw [if_neg hlong, if_neg hlong]
    dsimp only
    rw [hfile]

/-! ### Names of directories -/

variable {top : Location} {below : List String}

theorem follow_of_through {detour : Location → List String → Except OsCause Location}
    (hbelow : fs.Through here below) : fs.follow .target detour here below =
      if ∃ name ∈ below, name.utf8ByteSize > nameLimit then .error .nameTooLong
      else .ok (here ++ below) := by
  induction below generalizing here with
  | nil => simp [follow]
  | cons name rest ih =>
    obtain ⟨hproper, hdirectory⟩ := hbelow
    have hhere : fs.node? here = some .directory := by
      have hfirst := hdirectory [] (List.nil_prefix ..)
      rwa [List.append_nil] at hfirst
    have hthere : fs.node? (here ++ [name]) = some .directory :=
      hdirectory [name] (List.prefix_append [name] rest)
    rw [follow_proper hhere (hproper name List.mem_cons_self), hthere]
    dsimp only
    rw [ih (Through.tail ⟨hproper, hdirectory⟩), List.append_assoc, List.singleton_append]
    by_cases hlong : name.utf8ByteSize > nameLimit
    · simp [hlong]
    · simp [hlong]

/-- **A path that goes on through directories only leads through them**, unless it or one of the
names is too long. -/
theorem locate_through (htop : fs.locate p = .ok (top, .directory))
    (hbelow : fs.Through top below) : fs.locate ⟨p.anchor, p.names ++ below⟩ =
      if (⟨p.anchor, p.names ++ below⟩ : Path).toString.utf8ByteSize > pathLimit ∨
          ∃ name ∈ below, name.utf8ByteSize > nameLimit then .error .nameTooLong
      else .ok (top ++ below, .directory) := by
  have honward : Onward .target below := .inl rfl
  obtain ⟨left, -, hleft⟩ := exists_left_of_traceFrom honward (trace_of_locate htop)
  have hfrom : fs.traceFrom .target left top below =
      if ∃ name ∈ below, name.utf8ByteSize > nameLimit then .error .nameTooLong
      else .ok (top ++ below) := by
    cases left with
    | zero => exact follow_of_through hbelow
    | succ fewer => exact follow_of_through hbelow
  rw [locate, trace]
  by_cases hlong : (⟨p.anchor, p.names ++ below⟩ : Path).toString.utf8ByteSize > pathLimit
  · rw [if_pos hlong, if_pos (.inl hlong)]
  · rw [if_neg hlong, show fs.traceFrom .target linkLimit (if (⟨p.anchor, p.names ++ below⟩ :
      Path).isAbsolute then [] else fs.cwd) (p.names ++ below) = _ from hleft, hfrom]
    simp only [hlong, false_or]
    by_cases hname : ∃ name ∈ below, name.utf8ByteSize > nameLimit
    · rw [if_pos hname, if_pos hname]
    · rw [if_neg hname, if_neg hname]
      simp only [hbelow.2 below (List.prefix_refl _)]

end PluginSweep.FileSystem

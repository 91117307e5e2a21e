/-
PluginSweep/Proofs/FileSystem/Below.lean

Paths that go on below a directory.  To trace names and then further names is
to trace the first, and then to go on from where they lead
(`traceFrom_append`).  So a path that goes on through directories only leads
where its further names say (`locate_append`), whatever links there were on the
way to where it goes on.
-/
import PluginSweep.Proofs.FileSystem.Step

namespace PluginSweep

/-- What is there is a link. -/
def Node.isLink : Node → Bool
  | link _ => true
  | _ => false

namespace FileSystem

variable {fs : FileSystem} {detour : Location → List String → Except OsCause Location}
  {here loc : Location} {names below : List String}

/-! ### Names after names -/

theorem follow_append {purpose : Purpose}
    {detour' : Location → List String → Except OsCause Location} {P : Location → Prop}
    (hlast : purpose = .target ∨ below ≠ [])
    (hdetour : ∀ here names, detour here (names ++ below) = .ok loc →
      ∃ mid, detour' here names = .ok mid ∧ P mid)
    (h : fs.follow purpose detour here (names ++ below) = .ok loc) :
    ∃ mid, fs.follow .target detour' here names = .ok mid ∧
      (P mid ∨ fs.follow purpose detour mid below = .ok loc) := by
  induction names generalizing here with
  | nil => exact ⟨here, rfl, .inr h⟩
  | cons name rest ih =>
    rw [List.cons_append] at h
    have hhere := node?_of_follow h
    cases leads_of_follow h with
    | skip hskip hrest =>
      obtain ⟨mid, hmid, honward⟩ := ih hrest
      exact ⟨mid, Leads.follow hhere (.skip hskip hmid), honward⟩
    | up hup hrest =>
      obtain ⟨mid, hmid, honward⟩ := ih hrest
      exact ⟨mid, Leads.follow hhere (.up hup hmid), honward⟩
    | enter hname _ hshort hthere hnode hrest =>
      obtain ⟨mid, hmid, honward⟩ := ih hrest
      exact ⟨mid, Leads.follow hhere
        (.enter hname (not_slashRefused_of_ne nofun) hshort hthere hnode hmid), honward⟩
    | link hname _ hshort hthere _ hrest =>
      rw [← List.append_assoc] at hrest
      obtain ⟨mid, hmid, hP⟩ := hdetour _ _ hrest
      exact ⟨mid, Leads.follow hhere
        (.link hname (not_slashRefused_of_ne nofun) hshort hthere nofun hmid), .inl hP⟩
    | keep _ _ _ hpurpose hnil _ =>
      -- Only the last link may stay as it is, and more names come after this one.
      rcases hlast with rfl | hne
      · cases hpurpose
      · exact absurd (List.append_eq_nil_iff.mp hnil).2 hne
    | free hname hshort hthere hnil hloc =>
      obtain ⟨rfl, rfl⟩ := List.append_eq_nil_iff.mp hnil
      exact ⟨here ++ [name], Leads.follow hhere (.free hname hshort hthere rfl rfl),
        .inr (congrArg Except.ok hloc)⟩

/-- Names after names are traced from where those lead, perhaps through fewer links. -/
theorem traceFrom_append {purpose : Purpose} {links : Nat}
    (hlast : purpose = .target ∨ below ≠ [])
    (h : fs.traceFrom purpose links here (names ++ below) = .ok loc) :
    ∃ mid left, fs.traceFrom .target links here names = .ok mid ∧
      fs.traceFrom purpose left mid below = .ok loc := by
  induction links generalizing here names with
  | zero =>
    obtain ⟨mid, hmid, hP | hrest⟩ := follow_append (P := fun _ => False) hlast
      (fun _ _ hdetour => by cases hdetour) h
    · exact hP.elim
    · exact ⟨mid, 0, hmid, hrest⟩
  | succ fewer ih =>
    obtain ⟨mid, hmid, ⟨left, hrest⟩ | hrest⟩ := follow_append
      (P := fun mid => ∃ left, fs.traceFrom purpose left mid below = .ok loc) hlast
      (fun here names hdetour => by
        obtain ⟨mid, left, hmid, hrest⟩ := ih hdetour
        exact ⟨mid, hmid, left, hrest⟩) h
    · exact ⟨mid, left, hmid, hrest⟩
    · exact ⟨mid, fewer + 1, hmid, hrest⟩

/-- What is located is where the path leads. -/
theorem locate_eq_ok_iff {p : Path} {node : Node} :
    fs.locate p = .ok (loc, node) ↔ fs.trace .target p = .ok loc ∧ fs.node? loc = some node := by
  rw [locate]
  rcases fs.trace .target p with cause | loc'
  · simp
  · dsimp only
    rcases hnode : fs.node? loc' with - | node'
    · simp only [reduceCtorEq, Except.ok.injEq, false_iff, not_and]
      rintro rfl
      rw [hnode]
      exact Option.some_ne_none node |>.symm
    · simp only [Except.ok.injEq, Prod.mk.injEq]
      constructor
      · rintro ⟨rfl, rfl⟩
        exact ⟨rfl, hnode⟩
      · rintro ⟨rfl, hsome⟩
        exact ⟨rfl, Option.some.inj (hnode.symm.trans hsome)⟩

/-- A path leads to a file if and only if it is located at one. -/
theorem isFile_iff {p : Path} :
    fs.isFile p = true ↔ ∃ loc bytes, fs.locate p = .ok (loc, .file bytes) := by
  rw [isFile]
  rcases fs.locate p with cause | ⟨loc, bytes | - | target⟩ <;> simp

theorem node?_of_locate {p : Path} {node : Node} (h : fs.locate p = .ok (loc, node)) :
    fs.node? loc = some node :=
  (locate_eq_ok_iff.mp h).2

/-- What is located is what is traced. -/
theorem trace_of_locate {p : Path} {node : Node} (h : fs.locate p = .ok (loc, node)) :
    fs.traceFrom .target linkLimit (if p.isAbsolute then [] else fs.cwd) p.names = .ok loc := by
  have htrace := (locate_eq_ok_iff.mp h).1
  rw [trace] at htrace
  split at htrace
  · cases htrace
  · exact htrace

/-! ### Names in a directory -/

theorem getLast?_eq_some_iff_of_dropLast {l : Location} {name : String} (h : l.dropLast = loc) :
    l.getLast? = some name ↔ l = loc ++ [name] := by
  constructor
  · intro hlast
    obtain ⟨before, rfl⟩ := List.getLast?_eq_some_iff.mp hlast
    rw [List.dropLast_concat] at h
    rw [h]
  · rintro rfl
    exact List.getLast?_concat

/-- A directory lists the names of its entries. -/
theorem mem_namesIn {name : String} :
    name ∈ fs.namesIn loc ↔ ∃ node, (loc ++ [name], node) ∈ fs.entries := by
  rw [namesIn, List.mem_filterMap]
  constructor
  · rintro ⟨⟨l, node⟩, hentry, hlast⟩
    split at hlast
    · rename_i hloc
      exact ⟨node, (getLast?_eq_some_iff_of_dropLast hloc).mp hlast ▸ hentry⟩
    · cases hlast
  · rintro ⟨node, hentry⟩
    refine ⟨_, hentry, ?_⟩
    rw [if_pos List.dropLast_concat]
    exact List.getLast?_concat

/-! ### Going on through directories -/

/-- The names lead from one directory to the next. -/
def Through (fs : FileSystem) (top : Location) (below : List String) : Prop :=
  (∀ name ∈ below, Proper name) ∧
    ∀ before, before <+: below → fs.node? (top ++ before) = some .directory

theorem Through.append {name : String} (h : fs.Through here below) (hname : Proper name)
    (hnode : fs.node? (here ++ (below ++ [name])) = some .directory) :
    fs.Through here (below ++ [name]) := by
  refine ⟨fun other hother => ?_, fun before hbefore => ?_⟩
  · rcases List.mem_append.mp hother with hother | hother
    · exact h.1 other hother
    · rw [List.mem_singleton.mp hother]
      exact hname
  · rcases List.prefix_concat_iff.mp hbefore with rfl | hbefore
    · exact hnode
    · exact h.2 before hbefore

theorem Through.tail {name : String} {rest : List String} (h : fs.Through here (name :: rest)) :
    fs.Through (here ++ [name]) rest := by
  refine ⟨fun other hother => h.1 other (List.mem_cons_of_mem _ hother), fun before hbefore => ?_⟩
  rw [List.append_assoc]
  exact h.2 _ (List.cons_prefix_cons.mpr ⟨rfl, hbefore⟩)

theorem follow_eq_of_through (hbelow : fs.Through here below)
    (h : fs.follow .target detour here below = .ok loc) : loc = here ++ below := by
  induction below generalizing here with
  | nil =>
    rw [List.append_nil]
    exact (Except.ok.inj h).symm
  | cons name rest ih =>
    have hthere : fs.node? (here ++ [name]) = some .directory :=
      hbelow.2 [name] (List.cons_prefix_cons.mpr ⟨rfl, List.nil_prefix⟩)
    rw [follow_proper (node?_of_follow h) (hbelow.1 name (List.mem_cons_self ..)), hthere] at h
    split at h
    · cases h
    · rw [ih hbelow.tail h, List.append_assoc]
      rfl

/-- A path that goes on through directories only leads where its further names say. -/
theorem locate_append {p : Path} {top : Location} {node node' : Node}
    (htop : fs.locate p = .ok (top, node)) (hbelow : fs.Through top below)
    (h : fs.locate ⟨p.anchor, p.names ++ below⟩ = .ok (loc, node')) : loc = top ++ below := by
  have hfirst := trace_of_locate htop
  have hall := trace_of_locate h
  obtain ⟨mid, left, hmid, hrest⟩ := traceFrom_append (.inl rfl) hall
  obtain rfl : mid = top := Except.ok.inj (hmid.symm.trans hfirst)
  cases left with
  | zero => exact follow_eq_of_through hbelow hrest
  | succ fewer => exact follow_eq_of_through hbelow hrest

/-! ### Trees without links -/

/-- Below the location there are no links, and all names can be those of entries. -/
structure PlainBelow (fs : FileSystem) (top : Location) : Prop where
  noLink : ∀ e ∈ fs.entries, top <+: e.1.dropLast → e.2.isLink = false
  proper : ∀ e ∈ fs.entries, top <+: e.1.dropLast → ∀ name ∈ e.1.getLast?, Proper name

variable {top : Location}

theorem PlainBelow.node?_ne_link (h : fs.PlainBelow top) {name target : String} :
    fs.node? (top ++ below ++ [name]) ≠ some (.link target) := by
  intro hnode
  have hmem := mem_entries_of_node? (node?_link_ne_nil hnode) hnode
  have hlink := h.noLink _ hmem (by rw [List.dropLast_concat]; exact List.prefix_append _ _)
  cases hlink

theorem PlainBelow.proper_of_mem_namesIn (h : fs.PlainBelow top) {name : String}
    (hname : name ∈ fs.namesIn (top ++ below)) : Proper name := by
  obtain ⟨e, he, hlast⟩ := List.mem_filterMap.mp hname
  split at hlast
  · rename_i hloc
    exact h.proper e he (by rw [hloc]; exact List.prefix_append _ _) name hlast
  · cases hlast

end FileSystem

end PluginSweep

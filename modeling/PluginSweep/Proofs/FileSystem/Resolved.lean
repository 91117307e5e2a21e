/-
PluginSweep/Proofs/FileSystem/Resolved.lean

Names in resolved paths.  Texts are taken apart at their slashes, so the names that a path
is resolved to have none, if those of the working directory have none
(`slashless_of_resolve`).  Such a name leads from a directory to below it
(`child_of_slashless`), and where it leads to something, no loop of links is met on the way
(`locate_ne_linkLoop_of_child`).
-/
import PluginSweep.Proofs.FileSystem.Canonical
import PluginSweep.Proofs.FileSystem.Grounded

namespace PluginSweep

/-! ### Names without slashes -/

namespace Path

/-- No name has a slash in it. -/
def Slashless (names : List String) : Prop :=
  ∀ name ∈ names, '/' ∉ name.toList

variable {names names' : List String} {p : Path}

theorem slashless_nil : Slashless [] :=
  fun _ hname => absurd hname List.not_mem_nil

theorem Slashless.append (h : Slashless names) (h' : Slashless names') :
    Slashless (names ++ names') :=
  fun name hname => (List.mem_append.mp hname).elim (h name) (h' name)

theorem Slashless.subset (h : Slashless names) (hsub : names' ⊆ names) : Slashless names' :=
  fun name hname => h name (hsub hname)

/-- What a list is taken apart at is in none of the parts. -/
theorem not_mem_of_mem_splitOn {c : Char} {text part : List Char} (h : part ∈ text.splitOn c) :
    c ∉ part := by
  rw [List.splitOn] at h
  induction text generalizing part with
  | nil =>
    rw [List.splitOnP_nil, List.mem_singleton] at h
    rw [h]
    exact List.not_mem_nil
  | cons first rest ih =>
    rw [List.splitOnP_cons_eq_if_modifyHead] at h
    split at h
    · rcases List.mem_cons.mp h with rfl | h
      · exact List.not_mem_nil
      · exact ih h
    · rename_i hne
      rcases hparts : rest.splitOnP (· == c) with - | ⟨head, others⟩ <;> rw [hparts] at h ih
      · cases h
      · rcases List.mem_cons.mp h with rfl | h
        · refine List.not_mem_cons_of_ne_of_not_mem (fun heq => hne ?_) (ih List.mem_cons_self)
          exact beq_iff_eq.mpr heq.symm
        · exact ih (List.mem_cons_of_mem _ h)

theorem slashless_splitSlashes (s : String) : Slashless (splitSlashes s) := by
  intro name hname
  obtain ⟨part, hpart, rfl⟩ := List.mem_map.mp hname
  rw [String.toList_ofList]
  exact not_mem_of_mem_splitOn hpart

theorem slashless_ofString (s : String) : Slashless (ofString s).names :=
  (slashless_splitSlashes s).subset (List.filter_subset_self _)

theorem slashless_append {q : Path} (hp : Slashless p.names) (hq : Slashless q.names) :
    Slashless (p.append q).names := by
  rw [Path.append]
  split
  · exact hq
  · exact hp.append hq

theorem slashless_child (hp : Slashless p.names) (s : String) : Slashless (p.child s).names :=
  slashless_append hp (slashless_ofString s)

theorem slashless_name (hp : Slashless p.names) : '/' ∉ p.name.toList := by
  rw [name, List.getLastD_eq_getLast?]
  rcases hlast : p.names.getLast? with - | name
  · exact List.not_mem_nil
  · exact hp name (List.mem_of_getLast? hlast)

/-- A name without a slash leads to below a directory. -/
theorem child_of_slashless (p : Path) {s : String} (hs : '/' ∉ s.toList) :
    p.child s = ⟨p.anchor, p.names ++ (ofString s).names⟩ := by
  have hnone : s.toList.takeWhile (· == '/') = [] := by
    rcases htext : s.toList with - | ⟨first, rest⟩
    · rfl
    · rw [htext] at hs
      refine List.takeWhile_cons_of_neg fun hfirst => hs ?_
      rw [beq_iff_eq.mp hfirst]
      exact List.mem_cons_self
  have hanchor : anchorOf s = "" := by
    rw [anchorOf, hnone]
    rfl
  rw [child, Path.append, isAbsolute, ofString, hanchor]
  rfl

end Path

open PluginSweep.Path

namespace FileSystem

variable {fs : FileSystem} {p : Path} {loc : Location} {node : Node}

/-! ### Resolved paths -/

theorem slashless_joinLeft {depth : Nat} {names : List String} {todo : List (Step depth)}
    (hp : Slashless p.names) : Slashless (joinLeft p names todo).names := by
  induction todo generalizing p names with
  | nil => exact slashless_child hp _
  | cons step rest ih =>
    cases step with
    | name s => exact ih hp
    | settle link => exact ih (slashless_child hp _)

/-- Wherever a walk is, goes or has led, names have no slashes. -/
structure SlashlessWalk {depth : Nat} (seen : SeenLinks depth) (here : Waypoint depth)
    (todo : List (Step depth)) : Prop where
  here : Slashless here.location
  todo : ∀ s, .name s ∈ todo → '/' ∉ s.toList
  seen : ∀ link known, (link, some known) ∈ seen → Slashless known.location

theorem SlashlessWalk.rest {depth : Nat} {seen : SeenLinks depth} {here there : Waypoint depth}
    {step : Step depth} {todo : List (Step depth)} (h : SlashlessWalk seen here (step :: todo))
    (hthere : Slashless there.location) : SlashlessWalk seen there todo :=
  ⟨hthere, fun s hs => h.todo s (List.mem_cons_of_mem _ hs), h.seen⟩

theorem slashless_walkLinks {depth : Nat} {seen : SeenLinks depth} {here : Waypoint depth}
    {todo : List (Step depth)} (h : SlashlessWalk seen here todo) :
    Slashless (fs.walkLinks seen here todo).names := by
  have henter : ∀ {seen : SeenLinks depth} {here : Waypoint depth} {s : String}
      {rest : List (Step depth)}, SlashlessWalk seen here (.name s :: rest) →
      Slashless (here.enter s).location := fun hwalk =>
    hwalk.here.append fun name hname => by
      rw [List.mem_singleton.mp hname]
      exact hwalk.todo _ List.mem_cons_self
  fun_induction fs.walkLinks seen here todo with
  | case1 seen here => exact h.here
  | case2 seen here link rest ih =>
    refine ih ⟨h.here, fun s hs => h.todo s (List.mem_cons_of_mem _ hs), fun known place hmem => ?_⟩
    rcases List.mem_cons.mp hmem with heq | hmem
    · obtain ⟨-, hplace⟩ := Prod.mk.inj heq
      rw [Option.some.inj hplace]
      exact h.here
    · exact h.seen known place hmem
  | case3 seen here s rest hskip ih => exact ih (h.rest h.here)
  | case4 seen here s rest hskip hup ih =>
    exact ih (h.rest (h.here.subset (List.dropLast_subset _)))
  | case5 seen here s rest hskip hup there target hnode known hseen ih =>
    -- The walk goes on from where it was when it had followed the link before.
    obtain ⟨before, after, hsplit, -⟩ := List.lookup_eq_some_iff.mp hseen
    refine ih (h.rest (h.seen there known ?_))
    rw [hsplit]
    exact List.mem_append_right _ List.mem_cons_self
  | case6 seen here s rest hskip hup there target hnode hseen =>
    exact slashless_joinLeft (henter h)
  | case7 seen here s rest hskip hup there target hnode hseen ih =>
    -- The names in the link come first; they have no slashes, since it is split at these.
    refine ih ⟨?_, fun name hname => ?_, fun link known hmem => ?_⟩
    · rw [Waypoint.start]
      split
      · exact slashless_nil
      · exact h.here
    · rcases List.mem_append.mp hname with hname | hname
      · obtain ⟨other, hother, heq⟩ := List.mem_map.mp hname
        obtain rfl := Step.name.inj heq
        exact slashless_splitSlashes target other hother
      · rcases List.mem_cons.mp hname with heq | hname
        · cases heq
        · exact h.todo name (List.mem_cons_of_mem _ hname)
    · rcases List.mem_cons.mp hmem with heq | hmem
      · cases heq
      · exact h.seen link known hmem
  | case8 seen here s rest hskip hup there hnode ih => exact ih (h.rest (henter h))

/-- What holds of the names that can be those of entries holds of all that are kept. -/
theorem forall_mem_lexical {P : String → Prop} {names : List String}
    (h : ∀ name ∈ names, Proper name → P name) : ∀ name ∈ lexical names, P name := by
  have hfold : ∀ kept : List String, (∀ name ∈ kept, P name) →
      ∀ name ∈ names.foldl (fun kept s =>
        if s == "" || s == "." then kept else if s == ".." then kept.drop 1 else s :: kept) kept,
      P name := by
    induction names with
    | nil => exact fun kept hkept => hkept
    | cons first rest ih =>
      intro kept hkept
      refine ih (fun name hname => h name (List.mem_cons_of_mem _ hname)) _ fun name hname => ?_
      dsimp only at hname
      split at hname
      · exact hkept name hname
      · rename_i hskip
        split at hname
        · exact hkept name (List.mem_of_mem_drop hname)
        · rename_i hup
          rcases List.mem_cons.mp hname with rfl | hname
          · exact h name List.mem_cons_self (proper_iff.mpr ⟨hskip, hup⟩)
          · exact hkept name hname
  intro name hname
  exact hfold [] (fun _ hnone => absurd hnone List.not_mem_nil) name (List.mem_reverse.mp hname)

theorem slashless_realPath (hcwd : Slashless fs.cwd) (hp : Slashless p.names) :
    Slashless (fs.realPath p).names := by
  have hwalk : Slashless (fs.walkFrom fs.cwd p).names := by
    refine slashless_walkLinks ⟨?_, fun s hs => ?_, fun link known hmem => by cases hmem⟩
    · split
      · exact slashless_nil
      · exact hcwd
    · obtain ⟨name, hname, heq⟩ := List.mem_map.mp hs
      obtain rfl := Step.name.inj heq
      exact hp name hname
  exact forall_mem_lexical fun name hname _ => hwalk name hname

theorem slashless_expandHome {q : Path} (hp : Slashless p.names) (h : fs.expandHome p = .ok q) :
    Slashless q.names := by
  rw [expandHome] at h
  split at h
  · rename_i name rest hrelative hnames
    split at h
    · split at h
      · cases h
      · split at h
        · obtain rfl := Except.ok.inj h
          refine slashless_append (slashless_ofString _) ?_
          rw [hnames] at hp
          exact hp.subset (List.subset_cons_self _ _)
        · cases h
    · obtain rfl := Except.ok.inj h
      exact hp
  · obtain rfl := Except.ok.inj h
    exact hp

/-- **The names in a resolved path have no slashes.** -/
theorem slashless_of_resolve (hcwd : Slashless fs.cwd) {given : String}
    (h : fs.resolve given = .ok p) : Slashless p.names := by
  rw [resolve] at h
  rcases hexpand : fs.expandHome (Path.ofString given) with e | expanded <;> rw [hexpand] at h
  · cases h
  · obtain ⟨-, rfl, -⟩ := canonical_eq_ok_iff.mp h
    exact slashless_realPath hcwd (slashless_expandHome (slashless_ofString given) hexpand)

theorem WellFormed.slashless_cwd (h : fs.WellFormed) (hconnected : fs.Connected) :
    Slashless fs.cwd := by
  by_cases hcwd : fs.cwd = []
  · rw [hcwd]
    exact slashless_nil
  · have hentry := mem_entries_of_node? hcwd hconnected.cwd
    exact fun name hname => (h.joinable _ hentry name hname).2

/-! ### Loops of links -/

/-- Where a path leads on to something, no loop of links has been met. -/
theorem locate_ne_linkLoop_of_append {more : List String}
    (h : fs.locate ⟨p.anchor, p.names ++ more⟩ = .ok (loc, node)) :
    fs.locate p ≠ .error .linkLoop := by
  intro hloop
  obtain ⟨mid, left, hmid, -⟩ := traceFrom_append (.inl rfl) (trace_of_locate h)
  have htrace : fs.trace .target p = .error .linkLoop := locate_eq_linkLoop_iff.mp hloop
  rw [trace] at htrace
  split at htrace
  · cases htrace
  · cases htrace.symm.trans hmid

theorem locate_ne_linkLoop_of_child {name : String} (hname : '/' ∉ name.toList)
    (h : fs.locate (p.child name) = .ok (loc, node)) : fs.locate p ≠ .error .linkLoop := by
  rw [child_of_slashless p hname] at h
  exact locate_ne_linkLoop_of_append h

end FileSystem

end PluginSweep

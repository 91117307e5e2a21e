/-
PluginSweep/Proofs/FileSystem/Denotes.lean

The place that names denote.  Names are read one after the other, and a link is
replaced by what its own target denotes, in the directory in which the link is; `..`
is taken after links are followed (`Denotes`).  There is no limit on links here, and
names need not exist, but a link that is met again while its own target is read
denotes nothing.  So names denote at most one place, through a certain number of
links (`Denotes.unique`).

Where the operating system leads a path somewhere, that is the place which the path
denotes (`denotes_of_traceFrom`).  And where a path denotes a place, the walk for its
canonical form ends there (`walkLinks_of_denotes`): what the walk knows of links that
it has left is what they denote, and it never comes to a link that it has not left,
since that link denotes its place through more links than are still to be followed.
So the canonical form of the path is the path of that place (`realPath_of_denotes`).
-/
import PluginSweep.Proofs.FileSystem.Canonical
import PluginSweep.Proofs.FileSystem.Links

namespace PluginSweep.FileSystem

variable {fs : FileSystem} {links links' : Nat} {here mid there loc : Location}
  {names more rest : List String} {name target : String}

/-- From the directory `here`, the names denote `there`, through so many links in all. -/
inductive Denotes (fs : FileSystem) : Nat → Location → List String → Location → Prop
  | nil {here : Location} : Denotes fs 0 here [] here
  | skip {links : Nat} {here there : Location} {name : String} {rest : List String}
      (hskip : (name == "" || name == ".") = true) (h : Denotes fs links here rest there) :
      Denotes fs links here (name :: rest) there
  | up {links : Nat} {here there : Location} {rest : List String}
      (h : Denotes fs links here.dropLast rest there) : Denotes fs links here (".." :: rest) there
  | enter {links : Nat} {here there : Location} {name : String} {rest : List String}
      (hname : Proper name) (hlink : ∀ target, fs.node? (here ++ [name]) ≠ some (.link target))
      (h : Denotes fs links (here ++ [name]) rest there) :
      Denotes fs links here (name :: rest) there
  | link {inner links : Nat} {here mid there : Location} {name target : String}
      {rest : List String} (hname : Proper name)
      (hlink : fs.node? (here ++ [name]) = some (.link target))
      (hmid : Denotes fs inner (startOf target here) (Path.splitSlashes target) mid)
      (h : Denotes fs links mid rest there) :
      Denotes fs (inner + links + 1) here (name :: rest) there

namespace Denotes

/-! ### One name -/

theorem of_skip (h : fs.Denotes links here (name :: rest) there)
    (hskip : (name == "" || name == ".") = true) : fs.Denotes links here rest there := by
  cases h with
  | skip _ h => exact h
  | up h => exact absurd hskip (by decide)
  | enter hname _ _ => exact absurd hskip (proper_iff.mp hname).1
  | link hname _ _ _ => exact absurd hskip (proper_iff.mp hname).1

theorem of_up (h : fs.Denotes links here (".." :: rest) there) :
    fs.Denotes links here.dropLast rest there := by
  cases h with
  | skip hskip _ => exact absurd hskip (by decide)
  | up h => exact h
  | enter hname _ _ => exact absurd hname (by decide)
  | link hname _ _ _ => exact absurd hname (by decide)

theorem of_enter (h : fs.Denotes links here (name :: rest) there) (hname : Proper name)
    (hlink : ∀ target, fs.node? (here ++ [name]) ≠ some (.link target)) :
    fs.Denotes links (here ++ [name]) rest there := by
  cases h with
  | skip hskip _ => exact absurd hskip (proper_iff.mp hname).1
  | up _ => exact absurd hname (by decide)
  | enter _ _ h => exact h
  | link _ hnode _ _ => exact absurd hnode (hlink _)

theorem of_link (h : fs.Denotes links here (name :: rest) there) (hname : Proper name)
    (hlink : fs.node? (here ++ [name]) = some (.link target)) :
    ∃ inner outer mid, links = inner + outer + 1 ∧
      fs.Denotes inner (startOf target here) (Path.splitSlashes target) mid ∧
      fs.Denotes outer mid rest there := by
  cases h with
  | skip hskip _ => exact absurd hskip (proper_iff.mp hname).1
  | up _ => exact absurd hname (by decide)
  | enter _ hnode _ => exact absurd hlink (hnode _)
  | link _ hnode hmid h =>
    obtain rfl := Node.link.inj (Option.some.inj (hnode.symm.trans hlink))
    exact ⟨_, _, _, rfl, hmid, h⟩

/-! ### All names -/

/-- **Names denote at most one place**, through one number of links. -/
theorem unique (h : fs.Denotes links here names there) {there' : Location}
    (h' : fs.Denotes links' here names there') : links' = links ∧ there' = there := by
  induction h generalizing links' there' with
  | nil =>
    cases h'
    exact ⟨rfl, rfl⟩
  | skip hskip _ ih => exact ih (h'.of_skip hskip)
  | up _ ih => exact ih h'.of_up
  | enter hname hlink _ ih => exact ih (h'.of_enter hname hlink)
  | link hname hlink _ _ ihmid ih =>
    obtain ⟨inner', outer', mid', rfl, hmid', h'⟩ := h'.of_link hname hlink
    obtain ⟨rfl, rfl⟩ := ihmid hmid'
    obtain ⟨rfl, rfl⟩ := ih h'
    exact ⟨rfl, rfl⟩

/-- Names that are read in two parts. -/
theorem exists_of_append (h : fs.Denotes links here (names ++ more) there) :
    ∃ first second mid, fs.Denotes first here names mid ∧ fs.Denotes second mid more there := by
  induction names generalizing links here with
  | nil => exact ⟨0, links, here, .nil, h⟩
  | cons name rest ih =>
    by_cases hskip : (name == "" || name == ".") = true
    · obtain ⟨first, second, mid, hfirst, hsecond⟩ := ih (h.of_skip hskip)
      exact ⟨first, second, mid, .skip hskip hfirst, hsecond⟩
    · by_cases hup : (name == "..") = true
      · obtain rfl := beq_iff_eq.mp hup
        obtain ⟨first, second, mid, hfirst, hsecond⟩ := ih h.of_up
        exact ⟨first, second, mid, .up hfirst, hsecond⟩
      · have hname : Proper name := proper_iff.mpr ⟨hskip, hup⟩
        by_cases hlink : ∃ target, fs.node? (here ++ [name]) = some (.link target)
        · obtain ⟨target, hlink⟩ := hlink
          obtain ⟨inner, outer, place, -, hplace, hrest⟩ := h.of_link hname hlink
          obtain ⟨first, second, mid, hfirst, hsecond⟩ := ih hrest
          exact ⟨_, second, mid, .link hname hlink hplace hfirst, hsecond⟩
        · have hlink : ∀ target, fs.node? (here ++ [name]) ≠ some (.link target) :=
            fun target hnode => hlink ⟨target, hnode⟩
          obtain ⟨first, second, mid, hfirst, hsecond⟩ := ih (h.of_enter hname hlink)
          exact ⟨first, second, mid, .enter hname hlink hfirst, hsecond⟩

end Denotes

/-! ### Where paths lead -/

theorem denotes_of_follow {detour : Location → List String → Except OsCause Location}
    (hdetour : ∀ here names, detour here names = .ok loc → ∃ links, fs.Denotes links here names loc)
    (h : fs.follow .target detour here names = .ok loc) :
    ∃ links, fs.Denotes links here names loc := by
  induction names generalizing here with
  | nil =>
    obtain rfl := Except.ok.inj h
    exact ⟨0, .nil⟩
  | cons name rest ih =>
    cases leads_of_follow h with
    | skip hskip hrest => exact (ih hrest).imp fun _ hrest => .skip hskip hrest
    | up hup hrest => exact (ih hrest).imp fun _ hrest => hup ▸ .up hrest
    | enter hname _ _ hthere hnode hrest =>
      exact (ih hrest).imp fun _ hrest => .enter hname
        (fun target htarget => hnode target (Option.some.inj (hthere.symm.trans htarget))) hrest
    | link hname _ _ hthere _ hrest =>
      -- The detour goes on with the rest, so its way is that of the target and then of the rest.
      obtain ⟨links, hall⟩ := hdetour _ _ hrest
      obtain ⟨first, second, mid, hfirst, hsecond⟩ := hall.exists_of_append
      exact ⟨_, .link hname hthere hfirst hsecond⟩
    | keep _ _ _ hpurpose _ _ => cases hpurpose
    | free hname _ hthere hlast hloc =>
      subst hlast hloc
      refine ⟨0, .enter hname (fun target htarget => ?_) .nil⟩
      cases hthere.symm.trans htarget

/-- **Names denote the place to which they lead.** -/
theorem denotes_of_traceFrom {limit : Nat}
    (h : fs.traceFrom .target limit here names = .ok loc) :
    ∃ links, fs.Denotes links here names loc := by
  induction limit generalizing here names with
  | zero => exact denotes_of_follow (fun _ _ hloop => by cases hloop) h
  | succ fewer ih => exact denotes_of_follow (fun _ _ => ih) h

/-! ### Places without links -/

/-- Every name on the way to the place can be that of an entry, and none is that of a link. -/
structure Direct (fs : FileSystem) (loc : Location) : Prop where
  proper : ∀ name ∈ loc, Proper name
  linkless : ∀ init, init <+: loc → ∀ target, fs.node? init ≠ some (.link target)

theorem direct_nil : fs.Direct [] :=
  ⟨fun _ hname => absurd hname List.not_mem_nil, fun _ hinit _ hnode =>
    node?_link_ne_nil hnode (List.prefix_nil.mp hinit)⟩

theorem Direct.above {init : Location} (h : fs.Direct loc) (hinit : init <+: loc) :
    fs.Direct init :=
  ⟨fun name hname => h.proper name (hinit.subset hname),
    fun first hfirst => h.linkless first (hfirst.trans hinit)⟩

theorem Direct.concat (h : fs.Direct loc) (hname : Proper name)
    (hlink : ∀ target, fs.node? (loc ++ [name]) ≠ some (.link target)) :
    fs.Direct (loc ++ [name]) := by
  refine ⟨fun other hother => ?_, fun init hinit => ?_⟩
  · rcases List.mem_append.mp hother with hother | hother
    · exact h.proper other hother
    · rwa [List.mem_singleton.mp hother]
  · rcases List.prefix_concat_iff.mp hinit with rfl | hinit
    · exact hlink
    · exact h.linkless init hinit

theorem Direct.startOf (h : fs.Direct here) (target : String) :
    fs.Direct (FileSystem.startOf target here) := by
  rw [FileSystem.startOf]
  split
  · exact direct_nil
  · exact h

/-- From a place without links on its way, names denote such places. -/
theorem Denotes.direct (h : fs.Denotes links here names there) (hhere : fs.Direct here) :
    fs.Direct there := by
  induction h with
  | nil => exact hhere
  | skip _ _ ih => exact ih hhere
  | up _ ih => exact ih (hhere.above (List.dropLast_prefix _))
  | enter hname hlink _ ih => exact ih (hhere.concat hname hlink)
  | link _ _ _ _ ihmid ih => exact ih (ihmid (hhere.startOf _))

theorem Direct.denotes_from (here : Location) (h : fs.Direct (here ++ names)) :
    fs.Denotes 0 here names (here ++ names) := by
  induction names generalizing here with
  | nil =>
    rw [List.append_nil]
    exact .nil
  | cons name rest ih =>
    rw [List.append_cons] at h ⊢
    exact .enter (h.proper name (List.mem_append_left _ (List.mem_append_right _
      List.mem_cons_self))) (h.linkless _ (List.prefix_append _ _)) (ih _ h)

/-- The names of such a place denote it. -/
theorem Direct.denotes (h : fs.Direct loc) : fs.Denotes 0 [] loc loc :=
  denotes_from [] h

theorem lexical_of_proper (h : ∀ name ∈ names, Proper name) : lexical names = names := by
  have hfold : ∀ kept : List String, names.foldl (fun kept s =>
      if s == "" || s == "." then kept else if s == ".." then kept.drop 1 else s :: kept) kept =
      names.reverse ++ kept := by
    induction names with
    | nil => exact fun kept => rfl
    | cons name rest ih =>
      intro kept
      obtain ⟨hskip, hup⟩ := proper_iff.mp (h name List.mem_cons_self)
      rw [List.foldl_cons, if_neg hskip, if_neg hup,
        ih fun other hother => h other (List.mem_cons_of_mem _ hother), List.reverse_cons,
        List.append_assoc, List.singleton_append]
  rw [lexical, hfold, List.append_nil, List.reverse_reverse]

/-! ### The walk for the canonical form -/

variable {depth : Nat} {seen : SeenLinks depth}

/-- The link that is at the place denotes `mid`, through so many further links. -/
def LinkDenotes (fs : FileSystem) (links : Nat) (loc mid : Location) : Prop :=
  ∃ target, fs.node? loc = some (.link target) ∧
    fs.Denotes links (startOf target loc.dropLast) (Path.splitSlashes target) mid

theorem linkDenotes_concat_iff (hlink : fs.node? (here ++ [name]) = some (.link target)) :
    fs.LinkDenotes links (here ++ [name]) mid ↔
      fs.Denotes links (startOf target here) (Path.splitSlashes target) mid := by
  rw [LinkDenotes, hlink, List.dropLast_concat]
  exact ⟨fun ⟨_, heq, h⟩ => Node.link.inj (Option.some.inj heq) ▸ h, fun h => ⟨target, rfl, h⟩⟩

theorem LinkDenotes.unique {mid' : Location} (h : fs.LinkDenotes links loc mid)
    (h' : fs.LinkDenotes links' loc mid') : links' = links ∧ mid' = mid := by
  obtain ⟨target, hlink, hdenotes⟩ := h
  obtain ⟨target', hlink', hdenotes'⟩ := h'
  obtain rfl := Node.link.inj (Option.some.inj (hlink.symm.trans hlink'))
  exact hdenotes.unique hdenotes'

/-- What the walk knows of links that it has left is what they denote. -/
def Knows (fs : FileSystem) (seen : SeenLinks depth) : Prop :=
  ∀ w known, seen.lookup w = some (some known) →
    ∃ links, fs.LinkDenotes links w.location known.location

/-- Every link that the walk has entered and not left denotes its place, if it denotes one, through
at least so many links. -/
def Outlasts (fs : FileSystem) (seen : SeenLinks depth) (links : Nat) : Prop :=
  ∀ w, seen.lookup w = some none → ∀ n mid, fs.LinkDenotes n w.location mid → links ≤ n

theorem Outlasts.of_le (h : fs.Outlasts seen links') (hle : links ≤ links') :
    fs.Outlasts seen links :=
  fun w hw n mid hmid => Nat.le_trans hle (h w hw n mid hmid)

theorem lookup_cons_eq_some_iff {link w : Waypoint depth} {known found : Option (Waypoint depth)} :
    List.lookup w ((link, known) :: seen) = some found ↔
      (w = link ∧ known = found) ∨ (w ≠ link ∧ List.lookup w seen = some found) := by
  rw [List.lookup_cons]
  by_cases hw : w = link
  · simp [hw]
  · simp [hw, beq_eq_false_iff_ne.mpr hw]

theorem Knows.enter (h : fs.Knows seen) (link : Waypoint depth) :
    fs.Knows ((link, none) :: seen) := by
  intro w known hw
  rcases lookup_cons_eq_some_iff.mp hw with ⟨-, heq⟩ | ⟨-, hw⟩
  · cases heq
  · exact h w known hw

theorem Knows.settle (h : fs.Knows seen) {link known : Waypoint depth}
    (hlink : fs.LinkDenotes links link.location known.location) :
    fs.Knows ((link, some known) :: seen) := by
  intro w found hw
  rcases lookup_cons_eq_some_iff.mp hw with ⟨rfl, heq⟩ | ⟨-, hw⟩
  · obtain rfl := Option.some.inj heq
    exact ⟨links, hlink⟩
  · exact h w found hw

/-- A link that is entered outlasts its own target. -/
theorem Outlasts.enter (h : fs.Outlasts seen links) {link : Waypoint depth}
    (hlink : fs.LinkDenotes links link.location mid) :
    fs.Outlasts ((link, none) :: seen) links := by
  intro w hw n place hn
  rcases lookup_cons_eq_some_iff.mp hw with ⟨rfl, -⟩ | ⟨-, hw⟩
  · exact Nat.le_of_eq (hlink.unique hn).1.symm
  · exact h w hw n place hn

/-- **A walk reads names to the place that they denote.**  It then knows no wrong place of any
link, and has left every link that it has entered on the way. -/
theorem walkLinks_of_denotes (h : fs.Denotes links here names there) {w : Waypoint depth}
    (hw : w.location = here) (hknows : fs.Knows seen) (houtlasts : fs.Outlasts seen links)
    (todo : List (Step depth)) :
    ∃ seen' w', w'.location = there ∧ fs.Knows seen' ∧
      (∀ link, seen'.lookup link = some none → seen.lookup link = some none) ∧
      fs.walkLinks seen w (names.map .name ++ todo) = fs.walkLinks seen' w' todo := by
  induction h generalizing seen w todo with
  | nil => exact ⟨seen, w, hw, hknows, fun _ => id, rfl⟩
  | skip hskip _ ih =>
    -- A name that is skipped leads nowhere else.
    rw [List.map_cons, List.cons_append, walkLinks, if_pos hskip]
    exact ih hw hknows houtlasts todo
  | up _ ih =>
    -- The walk goes up as the way does.
    rw [List.map_cons, List.cons_append, walkLinks, if_neg (by decide), if_pos (by decide)]
    exact ih (congrArg List.dropLast hw) hknows houtlasts todo
  | @enter links here there name rest hname hlink _ ih =>
    -- There is no link: the name is entered.
    obtain ⟨hskip, hup⟩ := proper_iff.mp hname
    have hentry : (w.enter name).location = here ++ [name] := congrArg (· ++ [name]) hw
    rw [List.map_cons, List.cons_append, walkLinks_name hskip hup, hentry]
    split
    · rename_i target hnode
      exact absurd hnode (hlink target)
    · exact ih hentry hknows houtlasts todo
  | @link inner links here mid there name target rest hname hlink hmid _ ihmid ih =>
    -- There is a link.  What the walk does depends on whether it has come to the link before.
    obtain ⟨hskip, hup⟩ := proper_iff.mp hname
    have hentry : (w.enter name).location = here ++ [name] := congrArg (· ++ [name]) hw
    have hplace : fs.LinkDenotes inner (w.enter name).location mid := by
      rw [hentry]
      exact (linkDenotes_concat_iff hlink).mpr hmid
    have hrest : fs.Outlasts seen links := houtlasts.of_le (by omega)
    rw [List.map_cons, List.cons_append, walkLinks_name hskip hup, hentry, hlink]
    dsimp only
    rcases hseen : seen.lookup (w.enter name) with - | - | known
    · -- It has not: it walks through the target, then settles where the link leads, and goes on.
      dsimp only
      have hstart : (Waypoint.start target w).location = startOf target here := by
        rw [Waypoint.start, startOf]
        split
        · rfl
        · exact hw
      have hinner : fs.Outlasts seen inner := houtlasts.of_le (by omega)
      obtain ⟨seen₁, w₁, hw₁, hknows₁, hleft₁, heq₁⟩ := ihmid hstart (hknows.enter _)
        (hinner.enter hplace) (.settle (w.enter name) :: (rest.map .name ++ todo))
      -- At the end of its target the link is left, so that the others are open that were before.
      have hleft : ∀ link, List.lookup link ((w.enter name, some w₁) :: seen₁) = some none →
          seen.lookup link = some none := by
        intro link hlookup
        rcases lookup_cons_eq_some_iff.mp hlookup with ⟨-, heq⟩ | ⟨hne, hlookup⟩
        · cases heq
        · rcases lookup_cons_eq_some_iff.mp (hleft₁ link hlookup) with ⟨heq, -⟩ | ⟨-, hlookup⟩
          · exact absurd heq hne
          · exact hlookup
      obtain ⟨seen₂, w₂, hw₂, hknows₂, hleft₂, heq₂⟩ := ih hw₁
        (hknows₁.settle (hw₁ ▸ hplace)) (fun link hlookup => hrest link (hleft link hlookup)) todo
      refine ⟨seen₂, w₂, hw₂, hknows₂, fun link hlookup => hleft link (hleft₂ link hlookup), ?_⟩
      rw [heq₁, walkLinks]
      exact heq₂
    · -- It is still in the target of the link; but such a link takes more links than are left.
      have hopen := houtlasts _ hseen inner mid hplace
      omega
    · -- It has settled where the link leads.
      dsimp only
      obtain ⟨n, hn⟩ := hknows _ known hseen
      exact ih (hplace.unique hn).2 hknows hrest todo

/-- **The canonical form of a path is the path of the place that it denotes.** -/
theorem realPath_of_denotes {p : Path}
    (hhere : fs.Direct (if p.isAbsolute then [] else fs.cwd))
    (h : fs.Denotes links (if p.isAbsolute then [] else fs.cwd) p.names loc) :
    fs.realPath p = pathOf loc := by
  have hstart : (if p.isAbsolute then ⟨none, []⟩ else ⟨some 0, fs.cwd⟩ :
      Waypoint fs.cwd.length).location = if p.isAbsolute then [] else fs.cwd := by
    split <;> rfl
  have hknows : fs.Knows ([] : SeenLinks fs.cwd.length) := fun w known hw => by cases hw
  have houtlasts : fs.Outlasts ([] : SeenLinks fs.cwd.length) links := fun w hw => by cases hw
  obtain ⟨seen, w, hw, -, -, hwalk⟩ := walkLinks_of_denotes h hstart hknows houtlasts []
  have hend : fs.walkFrom fs.cwd p = pathOf loc := by
    rw [List.append_nil, walkLinks, hw] at hwalk
    exact hwalk
  show { fs.walkFrom fs.cwd p with names := lexical (fs.walkFrom fs.cwd p).names } = pathOf loc
  rw [hend]
  exact congrArg (Path.mk "/") (lexical_of_proper (h.direct hhere).proper)

end PluginSweep.FileSystem

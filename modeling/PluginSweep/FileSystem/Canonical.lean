/-
PluginSweep/FileSystem/Canonical.lean

Canonical paths.  `canonical` turns a path into the one without links, `.`
and `..` that leads to the same place; unlike a trace, it knows no limit on
links, it goes on through names that do not exist, taking `..` there to drop a
name, and it meets a loop of links only when it would enter a link that it is
still resolving.

A place on the way is told apart by how it is spelled, too: a walk that starts
at a relative path spells places from the working directory until it meets an
absolute link.  So one link may be entered once for each spelling of its
place, and no more often.  On a loop the walk ends where it is, and what is
left of the target of each open link is joined on as a text.

Each link on the way is looked at under the path as it is spelled so far.  Where that
path were longer than the operating system accepts, the look would be refused and the
link taken for a name like any other.  This is not in here: the walk goes through links
at any depth, as it does in every tree without such places.

The names still to be walked form a list in which `settle` marks where the
target of a link ends.  The walk ends: with every link entered, the spelled
places that are yet unseen become fewer, in exchange for a limited number of
names, and otherwise the list becomes shorter.
-/
import PluginSweep.FileSystem.Change

namespace PluginSweep

namespace FileSystem

/-! ### Places as a walk spells them -/

/-- A place on a walk that started in a directory of the given depth. -/
structure Waypoint (depth : Nat) where
  /-- By how many `..` the spelling of the place starts, where it does not start at the
  root. -/
  climbed : Option (Fin (depth + 1))
  location : Location
  deriving DecidableEq, Repr

namespace Waypoint

variable {depth : Nat}

/-- The place in which a path is read, when a relative one is read in `here`. -/
def start (target : String) (here : Waypoint depth) : Waypoint depth :=
  if target.startsWith "/" then ⟨none, []⟩ else here

/-- The place of the name in the directory. -/
def enter (here : Waypoint depth) (name : String) : Waypoint depth :=
  { here with location := here.location ++ [name] }

/-- The directory above; where no name is left in the spelling, one more `..` leads there. -/
def up (here : Waypoint depth) : Waypoint depth where
  climbed := here.climbed.map fun k =>
    if here.location.length + k.val ≤ depth then ⟨min (k.val + 1) depth, by omega⟩ else k
  location := here.location.dropLast

/-- The places that are spelled in every way and hold an entry of the tree. -/
def all (fs : FileSystem) (depth : Nat) : List (Waypoint depth) :=
  (none :: (List.finRange (depth + 1)).map some).flatMap fun climbed =>
    fs.entries.map fun e => ⟨climbed, e.1⟩

theorem mem_all {fs : FileSystem} {w : Waypoint depth} {node : Node}
    (h : (w.location, node) ∈ fs.entries) : w ∈ all fs depth := by
  refine List.mem_flatMap.mpr ⟨w.climbed, ?_, List.mem_map.mpr ⟨_, h, rfl⟩⟩
  cases w.climbed with
  | none => simp
  | some k => simp [List.mem_finRange]

end Waypoint

/-! ### Walking through links -/

/-- What is left of a walk: a name, or the end of a link's target. -/
inductive Step (depth : Nat)
  | name (s : String)
  | settle (link : Waypoint depth)
  deriving DecidableEq, Repr

/-- The path `p`, to which the texts that are left are joined one after the other: `names`, and
then what follows the end of each link's target. -/
def joinLeft {depth : Nat} (p : Path) (names : List String) : List (Step depth) → Path
  | [] => p.child ("/".intercalate names)
  | .name s :: rest => joinLeft p (names ++ [s]) rest
  | .settle _ :: rest => joinLeft (p.child ("/".intercalate names)) [] rest

/-- The links that a walk has entered, and to where they lead, as far as that is known. -/
abbrev SeenLinks (depth : Nat) := List (Waypoint depth × Option (Waypoint depth))

/-- The spelled places that have not been seen. -/
def unseen (fs : FileSystem) {depth : Nat} (seen : List (Waypoint depth)) : Nat :=
  ((Waypoint.all fs depth).filter (· ∉ seen)).length

theorem length_filter_lt {α : Type} {p q : α → Bool} {l : List α} {a : α} (ha : a ∈ l)
    (hp : p a = true) (hq : q a = false) (hqp : ∀ x, q x = true → p x = true) :
    (l.filter q).length < (l.filter p).length := by
  induction l with
  | nil => cases ha
  | cons b l ih =>
    have hle : (l.filter q).length ≤ (l.filter p).length := by
      simp only [← List.countP_eq_length_filter]
      exact List.countP_mono_left fun x _ => hqp x
    rcases List.mem_cons.mp ha with rfl | ha
    · simp [hp, hq]
      omega
    · have := ih ha
      by_cases hb : q b = true
      · simpa [hb, hqp b hb] using this
      · simp only [Bool.not_eq_true] at hb
        by_cases hb' : p b = true
        · simp [hb, hb']
          omega
        · simp only [Bool.not_eq_true] at hb'
          simpa [hb, hb'] using this

theorem unseen_cons_lt {fs : FileSystem} {depth : Nat} {seen : List (Waypoint depth)}
    {w : Waypoint depth} {node : Node} (hmem : (w.location, node) ∈ fs.entries)
    (hseen : w ∉ seen) : fs.unseen (w :: seen) < fs.unseen seen := by
  refine length_filter_lt (Waypoint.mem_all hmem) (by simpa using hseen) (by simp)
    fun x hx => ?_
  simp only [List.mem_cons, not_or, decide_eq_true_eq] at hx ⊢
  exact hx.2

theorem unseen_cons_le (fs : FileSystem) {depth : Nat} (w : Waypoint depth)
    (seen : List (Waypoint depth)) : fs.unseen (w :: seen) ≤ fs.unseen seen := by
  simp only [unseen, ← List.countP_eq_length_filter]
  refine List.countP_mono_left fun x _ hx => ?_
  simp only [List.mem_cons, not_or, decide_eq_true_eq] at hx ⊢
  exact hx.2

/-- As many steps as the target of any one link can add to a walk. -/
def detourLimit (fs : FileSystem) : Nat :=
  fs.entries.foldr (fun e limit => match e.2 with
    | .link target => (Path.splitSlashes target).length + 1 + limit
    | _ => limit) 0

theorem length_le_detourLimit {fs : FileSystem} {loc : Location} {target : String}
    (h : (loc, Node.link target) ∈ fs.entries) :
    (Path.splitSlashes target).length + 1 ≤ fs.detourLimit := by
  rw [detourLimit]
  generalize fs.entries = entries at h ⊢
  induction entries with
  | nil => exact absurd h List.not_mem_nil
  | cons e rest ih =>
    rw [List.foldr_cons]
    rcases List.mem_cons.mp h with rfl | h
    · exact Nat.le_add_right _ _
    · refine Nat.le_trans (ih h) ?_
      split
      · exact Nat.le_add_left _ _
      · exact Nat.le_refl _

/-- Walks on from `here`.  On a loop the texts that are left are joined as they are. -/
def walkLinks (fs : FileSystem) {depth : Nat} (seen : SeenLinks depth) (here : Waypoint depth)
    (todo : List (Step depth)) : Path :=
  match todo with
  | [] => ⟨"/", here.location⟩
  | .settle link :: rest => walkLinks fs ((link, some here) :: seen) here rest
  | .name s :: rest =>
    if s == "" || s == "." then walkLinks fs seen here rest
    else if s == ".." then walkLinks fs seen here.up rest
    else
      let there := here.enter s
      match _hnode : fs.node? there.location with
      | some (.link target) =>
        match _hseen : seen.lookup there with
        | some (some known) => walkLinks fs seen known rest
        | some none => joinLeft ⟨"/", there.location⟩ [] rest
        | none =>
          walkLinks fs ((there, none) :: seen) (.start target here)
            ((Path.splitSlashes target).map .name ++ .settle there :: rest)
      | _ => walkLinks fs seen there rest
termination_by fs.unseen (seen.map (·.1)) * (fs.detourLimit + 1) + todo.length
decreasing_by
  · have hle := Nat.mul_le_mul_right (fs.detourLimit + 1) (unseen_cons_le fs link (seen.map (·.1)))
    simp only [List.map_cons, List.length_cons]
    omega
  · exact Nat.add_lt_add_left (Nat.lt_succ_self _) _
  · exact Nat.add_lt_add_left (Nat.lt_succ_self _) _
  · exact Nat.add_lt_add_left (Nat.lt_succ_self _) _
  · have hentry := mem_entries_of_node? (node?_link_ne_nil _hnode) _hnode
    have hnew : there ∉ seen.map (·.1) := by
      intro hmem
      obtain ⟨e, he, heq⟩ := List.mem_map.mp hmem
      rw [List.lookup_eq_none_iff] at _hseen
      have hne := _hseen e he
      rw [heq] at hne
      exact absurd rfl (bne_iff_ne.mp hne)
    have hfewer : fs.unseen (here.enter s :: seen.map (·.1)) < fs.unseen (seen.map (·.1)) :=
      unseen_cons_lt hentry hnew
    have hmul := Nat.mul_le_mul_right (fs.detourLimit + 1) (Nat.succ_le_of_lt hfewer)
    have hlimit := length_le_detourLimit hentry
    simp only [Nat.succ_mul] at hmul
    simp only [List.map_cons, List.length_append, List.length_map, List.length_cons]
    omega
  · exact Nat.add_lt_add_left (Nat.lt_succ_self _) _

/-- The names without `.` and with each `..` taken to drop the name before it. -/
def lexical (names : List String) : Location :=
  (names.foldl (fun kept s =>
    if s == "" || s == "." then kept else if s == ".." then kept.drop 1 else s :: kept)
    []).reverse

/-- The path without links that a path stands for, missing names kept. -/
def realPath (fs : FileSystem) (p : Path) : Path :=
  let start : Waypoint fs.cwd.length :=
    if p.isAbsolute then ⟨none, []⟩ else ⟨some 0, fs.cwd⟩
  let walked := fs.walkLinks [] start (p.names.map .name)
  { walked with names := lexical walked.names }

/-! ### Canonical paths -/

/-- Why a path has no canonical form. -/
inductive PathError
  /-- The home directory of a user is not known. -/
  | unknownHome
  /-- A link leads back to itself. -/
  | linkLoop (path : String)
  /-- The operating system refuses. -/
  | refused (error : OsError)
  deriving DecidableEq, Repr

/-- The wording of a failure. -/
def PathError.message : PathError → String
  | unknownHome => "Could not determine home directory."
  | linkLoop path => "Symlink loop from " ++ Text.quoted path
  | refused error => error.message

/-- A first name that starts with a tilde stands for the home directory of the user named
after it. -/
def expandHome (fs : FileSystem) (p : Path) : Except PathError Path :=
  match p.isAbsolute, p.names with
  | false, name :: rest =>
    if name.startsWith "~" then
      if !admits p then .error (.refused .nulInPath)
      else match fs.homes.lookup ((name.drop 1).toString) with
        | some home => .ok ((Path.ofString home).append ⟨"", rest⟩)
        | none => .error .unknownHome
    else .ok p
  | _, _ => .ok p

/-- The path of a location. -/
def pathOf (loc : Location) : Path := ⟨"/", loc⟩

/-- The path without links, `.` and `..` that leads to where `p` leads. -/
def canonical (fs : FileSystem) (p : Path) : Except PathError Path :=
  if !admits p then .error (.refused .nulInPath)
  else
    let real := fs.realPath p
    match fs.locate real with
    | .error .linkLoop => .error (.linkLoop real.toString)
    | _ => .ok real

/-- The canonical form of a path that a user gives. -/
def resolve (fs : FileSystem) (given : String) : Except PathError Path := do
  fs.canonical (← fs.expandHome (Path.ofString given))

end FileSystem

end PluginSweep

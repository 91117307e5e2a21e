/-
PluginSweep/Proofs/FileSystem/Canonical.lean

Canonical paths and files.  To find the canonical form of a path only links matter, so
trees with the same links are walked through alike (`walkLinks_congr`).  A path has no
canonical form only where it runs into a loop of links, and trees with the same ways have
the same loops; so they have the same canonical paths (`SameWays.canonical_iff`).
-/
import PluginSweep.FileSystem.Canonical
import PluginSweep.Proofs.FileSystem.DeadEnd

namespace PluginSweep.FileSystem

variable {fs fs' : FileSystem} {other : Location} {bytes : List UInt8}

/-! ### The same links -/

/-- Walking on from a name that is neither skipped nor `..`. -/
theorem walkLinks_name {depth : Nat} {seen : SeenLinks depth} {here : Waypoint depth}
    {s : String} {rest : List (Step depth)} (hskip : ¬ (s == "" || s == ".") = true)
    (hup : ¬ (s == "..") = true) :
    fs.walkLinks seen here (.name s :: rest) =
      match fs.node? (here.enter s).location with
      | some (.link target) =>
        match seen.lookup (here.enter s) with
        | some (some known) => fs.walkLinks seen known rest
        | some none => joinLeft ⟨"/", (here.enter s).location⟩ [] rest
        | none => fs.walkLinks ((here.enter s, none) :: seen) (.start target here)
            ((Path.splitSlashes target).map .name ++ .settle (here.enter s) :: rest)
      | _ => fs.walkLinks seen (here.enter s) rest := by
  rw [walkLinks, if_neg hskip, if_neg hup]
  dsimp only
  split
  · rename_i target hnode
    rw [hnode]
    dsimp only
    split
    · rename_i hseen
      rw [hseen]
    · rename_i hseen
      rw [hseen]
    · rename_i hseen
      rw [hseen]
  · rename_i hnode
    split
    · rename_i target hlink
      exact absurd hlink (hnode target)
    · rfl

/-- Trees with the same links are walked through alike. -/
theorem walkLinks_congr
    (hlinks : ∀ loc target, fs'.node? loc = some (.link target) ↔
      fs.node? loc = some (.link target))
    {depth : Nat} (seen : SeenLinks depth) (here : Waypoint depth) (todo : List (Step depth)) :
    fs'.walkLinks seen here todo = fs.walkLinks seen here todo := by
  fun_induction fs.walkLinks seen here todo with
  | case1 seen here => rw [walkLinks]
  | case2 seen here link rest ih =>
    rw [walkLinks]
    exact ih
  | case3 seen here s rest hskip ih =>
    rw [walkLinks, if_pos hskip]
    exact ih
  | case4 seen here s rest hskip hup ih =>
    rw [walkLinks, if_neg hskip, if_pos hup]
    exact ih
  | case5 seen here s rest hskip hup there target hnode known hseen ih =>
    -- The link has been passed before.
    rw [walkLinks_name hskip hup, (hlinks _ _).mpr hnode, hseen]
    exact ih
  | case6 seen here s rest hskip hup there target hnode hseen =>
    -- It is being passed: a loop.
    rw [walkLinks_name hskip hup, (hlinks _ _).mpr hnode, hseen]
  | case7 seen here s rest hskip hup there target hnode hseen ih =>
    -- It is new.
    rw [walkLinks_name hskip hup, (hlinks _ _).mpr hnode, hseen]
    exact ih
  | case8 seen here s rest hskip hup there hnode ih =>
    -- There is no link.
    rw [walkLinks_name hskip hup]
    split
    · rename_i target hlink
      exact absurd ((hlinks _ _).mp hlink) (hnode target)
    · exact ih

/-- The walk of a path from the given working directory. -/
def walkFrom (fs : FileSystem) (cwd : Location) (p : Path) : Path :=
  fs.walkLinks [] (if p.isAbsolute then ⟨none, []⟩ else ⟨some 0, cwd⟩ : Waypoint cwd.length)
    (p.names.map .name)

theorem realPath_congr (hcwd : fs'.cwd = fs.cwd)
    (hlinks : ∀ loc target, fs'.node? loc = some (.link target) ↔
      fs.node? loc = some (.link target)) (p : Path) : fs'.realPath p = fs.realPath p := by
  have hwalk : fs'.walkFrom fs'.cwd p = fs.walkFrom fs.cwd p := by
    rw [hcwd]
    exact walkLinks_congr hlinks _ _ _
  show { fs'.walkFrom fs'.cwd p with names := lexical (fs'.walkFrom fs'.cwd p).names } =
    { fs.walkFrom fs.cwd p with names := lexical (fs.walkFrom fs.cwd p).names }
  rw [hwalk]

/-! ### Canonical paths -/

theorem locate_eq_linkLoop_iff {p : Path} :
    fs.locate p = .error .linkLoop ↔ fs.trace .target p = .error .linkLoop := by
  rw [locate]
  rcases fs.trace .target p with cause | loc
  · rw [Except.error.injEq, Except.error.injEq]
  · dsimp only
    rcases fs.node? loc with - | node <;> simp

/-- A path has the canonical form `key` if and only if it holds no NUL, that is its path without
links, and no loop of links is met there. -/
theorem canonical_eq_ok_iff {p key : Path} :
    fs.canonical p = .ok key ↔ admits p = true ∧ fs.realPath p = key ∧
      fs.trace .target key ≠ .error .linkLoop := by
  rw [canonical]
  cases admits p with
  | false => simp
  | true =>
    simp only [Bool.not_true, Bool.false_eq_true, if_false, true_and]
    split
    · rename_i hloop
      constructor
      · intro heq
        cases heq
      · rintro ⟨rfl, hno⟩
        exact absurd (locate_eq_linkLoop_iff.mp hloop) hno
    · rename_i hno
      constructor
      · intro heq
        obtain rfl := Except.ok.inj heq
        exact ⟨rfl, fun hloop => hno (locate_eq_linkLoop_iff.mpr hloop)⟩
      · rintro ⟨rfl, -⟩
        rfl

/-- **Trees with the same ways have the same canonical paths.** -/
theorem SameWays.canonical_iff (h : SameWays fs' fs) {p key : Path} :
    fs'.canonical p = .ok key ↔ fs.canonical p = .ok key := by
  have hloop : fs'.trace .target key = .error .linkLoop ↔ fs.trace .target key = .error .linkLoop :=
    (trace_alike h .target key).error_iff (by decide) (by decide)
  rw [canonical_eq_ok_iff, canonical_eq_ok_iff, realPath_congr h.cwd h.link, Ne, hloop]

/-- A canonical path stays canonical when a file is put where no trace goes on. -/
theorem canonical_put_of_deadEnd {p key : Path} (hend : fs.DeadEnd other)
    (h : fs.canonical p = .ok key) : (fs.put other (.file bytes)).canonical p = .ok key :=
  (sameWays_put hend bytes).canonical_iff.mpr h

end PluginSweep.FileSystem

/-
PluginSweep/Proofs/Target/Canonical.lean

One directory, one plugin.  What is resolved is an absolute path without `.` and `..`,
and its last name (`Formed`).  If the text that is given means a place, then the path is
that of the place, every name on it is that of a directory, and the same plugin comes
of each text that means the place, the text of the path itself among them (`Settled`).
So plugins are told apart by their directories alone, and the site, the reports and the
lock are the same for all spellings of one (`Alike`): even at different times, as long
as its directories stand (`resolve_canonical`).

A text need not mean a place in order to be resolved.  On a loop of links the rest of
the text is joined on and read as it stands, and so a link can come last
(`resolved_to_link`).
-/
import PluginSweep.Proofs.CommandLine.ReportBase
import PluginSweep.Proofs.FileSystem.Meaning

namespace PluginSweep

open PluginSweep.Path

namespace FileSystem

variable {fs : FileSystem} {p : Path} {names : List String}

/-! ### The form of a canonical path -/

theorem isAbsolute_child (h : p.isAbsolute = true) (s : String) :
    (p.child s).isAbsolute = true := by
  rw [child, Path.append]
  split
  · assumption
  · exact h

theorem isAbsolute_joinLeft {depth : Nat} {todo : List (Step depth)} (h : p.isAbsolute = true) :
    (joinLeft p names todo).isAbsolute = true := by
  induction todo generalizing p names with
  | nil => exact isAbsolute_child h _
  | cons step rest ih =>
    cases step with
    | name s => exact ih h
    | settle link => exact ih (isAbsolute_child h _)

/-- A walk ends at an absolute path, also on a loop. -/
theorem isAbsolute_walkLinks {depth : Nat} (seen : SeenLinks depth) (here : Waypoint depth)
    (todo : List (Step depth)) : (fs.walkLinks seen here todo).isAbsolute = true := by
  fun_induction fs.walkLinks seen here todo with
  | case1 seen here => exact isAbsolute_pathOf here.location
  | case2 seen here link rest ih => exact ih
  | case3 seen here s rest hskip ih => exact ih
  | case4 seen here s rest hskip hup ih => exact ih
  | case5 seen here s rest hskip hup there target hnode known hseen ih => exact ih
  | case6 seen here s rest hskip hup there target hnode hseen =>
    exact isAbsolute_joinLeft (isAbsolute_pathOf there.location)
  | case7 seen here s rest hskip hup there target hnode hseen ih => exact ih
  | case8 seen here s rest hskip hup there hnode ih => exact ih

end FileSystem

namespace Target

open FileSystem (pathOf)

variable {fs : FileSystem} {given given' : String} {t t' : Target} {loc loc' : Location}

theorem resolve_eq_ok_iff :
    resolve fs given = .ok t ↔ ∃ p top, fs.resolve given = .ok p ∧
      fs.locate p = .ok (top, .directory) ∧ t = ⟨p, p.name⟩ := by
  rw [resolve]
  rcases fs.resolve given with e | p
  · simp
  · dsimp only
    rcases hlocate : fs.locate p with cause | ⟨top, bytes | - | target⟩
    · cases cause <;> simp [hlocate]
    · simp [hlocate]
    · simp [hlocate, eq_comm]
    · simp [hlocate]

/-! ### The form of a plugin -/

/-- The root of the plugin is absolute, has no name that is skipped or leads up, and ends in the
name of the plugin. -/
structure Formed (t : Target) : Prop where
  absolute : t.root.isAbsolute = true
  proper : ∀ name ∈ t.root.names, Proper name
  name : (t.root.names = [] ∧ t.name = "") ∨ ∃ above, t.root.names = above ++ [t.name]

theorem formed_of_resolve (h : resolve fs given = .ok t) : t.Formed := by
  obtain ⟨p, top, hresolve, -, rfl⟩ := resolve_eq_ok_iff.mp h
  obtain ⟨expanded, -, hcanonical⟩ := CommandLine.Session.exists_of_bind_eq_ok hresolve
  obtain ⟨-, rfl, -⟩ := FileSystem.canonical_eq_ok_iff.mp hcanonical
  have hproper : ∀ name ∈ (fs.realPath expanded).names, Proper name :=
    FileSystem.forall_mem_lexical fun _ _ hname => hname
  refine ⟨FileSystem.isAbsolute_walkLinks _ _ _, hproper, ?_⟩
  show (_ ∧ (fs.realPath expanded).names.getLastD "" = "") ∨
    ∃ above, _ = above ++ [(fs.realPath expanded).names.getLastD ""]
  rcases List.eq_nil_or_concat (fs.realPath expanded).names with hnil | ⟨above, last, hconcat⟩
  · left
    rw [hnil]
    exact ⟨rfl, rfl⟩
  · right
    rw [hconcat, List.concat_eq_append, List.getLastD_concat]
    exact ⟨above, rfl⟩

/-! ### Plugins and places -/

/-- The root of the site of a plugin that is at the place. -/
def siteOf (loc : Location) : Path :=
  pathOf (loc.take (loc.length - siteDepth))

theorem repeat_parent (depth : Nat) (loc : Location) :
    depth.repeat Path.parent (pathOf loc) = pathOf (loc.take (loc.length - depth)) := by
  induction depth with
  | zero => rw [Nat.sub_zero, List.take_length]; rfl
  | succ depth ih =>
    show (depth.repeat Path.parent (pathOf loc)).parent = _
    rw [ih]
    show pathOf (loc.take (loc.length - depth)).dropLast = _
    rw [List.dropLast_eq_take, List.take_take, List.length_take]
    congr 2
    omega

theorem siteRoot_none (ht : t.root = pathOf loc) : siteRoot fs t none = .ok (siteOf loc) := by
  rw [siteRoot, ht, repeat_parent, siteOf]

/-- The plugin stands at the place: its root is the path of the place and leads there through
directories, and each text that means the place is resolved to it, also that of the root. -/
structure Settled (fs : FileSystem) (loc : Location) (t : Target) : Prop where
  root : t.root = pathOf loc
  stands : fs.Through [] loc
  again : resolve fs t.root.toString = .ok t
  spelled : ∀ given, fs.Means given loc → resolve fs given = .ok t

/-- A plugin is settled if no link is on the way of its root. -/
theorem settled_of_root (hfs : fs.Lawful) (h : resolve fs given = .ok t)
    (hroot : t.root = pathOf loc) (hdirect : fs.Direct loc) : Settled fs loc t := by
  obtain ⟨p, top, -, hlocate, rfl⟩ := resolve_eq_ok_iff.mp h
  obtain rfl : p = pathOf loc := hroot
  have hspelled : ∀ given, fs.Means given loc →
      resolve fs given = .ok ⟨pathOf loc, (pathOf loc).name⟩ := fun other hother =>
    resolve_eq_ok_iff.mpr
      ⟨_, top, FileSystem.resolve_of_means hfs.direct_cwd hother, hlocate, rfl⟩
  -- The path of the place leads to a directory, and so to the place itself.
  have htop : top = loc := by
    obtain ⟨links, hdenotes⟩ := FileSystem.denotes_of_traceFrom
      (FileSystem.trace_of_locate hlocate)
    rw [if_pos (FileSystem.isAbsolute_pathOf loc)] at hdenotes
    exact (hdirect.denotes.unique hdenotes).2
  have hdirectory : fs.node? loc = some .directory := htop ▸ FileSystem.node?_of_locate hlocate
  exact ⟨rfl, hfs.through hdirectory, hspelled _ (hfs.means_toString hdirectory), hspelled⟩

/-- The root of a plugin is the path of the place that is meant. -/
theorem root_of_means (hfs : fs.Lawful) (h : resolve fs given = .ok t)
    (hmeans : fs.Means given loc) : t.root = pathOf loc := by
  obtain ⟨p, top, hresolve, -, rfl⟩ := resolve_eq_ok_iff.mp h
  exact Except.ok.inj
    (hresolve.symm.trans (FileSystem.resolve_of_means hfs.direct_cwd hmeans))

/-- The sweeps of the two plugins take place in the same site, report into the same directory, and
exclude each other: the canonical form of the site, of which the key of the lock is made, is the
same at every time at which the directories that lead to the place stand. -/
structure Alike (fs : FileSystem) (loc : Location) (t t' : Target) : Prop where
  target : t' = t
  site : siteRoot fs t none = .ok (siteOf loc) ∧ siteRoot fs t' none = .ok (siteOf loc)
  reports : ∀ base, reportDirectory fs t' base = reportDirectory fs t base
  key : ∀ tree : FileSystem, tree.Through [] loc →
    tree.canonical (siteOf loc) = .ok (siteOf loc)

theorem alike_of_root (hfs : fs.Lawful) (hroot : t.root = pathOf loc)
    (hstands : fs.Through [] loc) (ht : t' = t) : Alike fs loc t t' := by
  subst ht
  refine ⟨rfl, ⟨siteRoot_none hroot, siteRoot_none hroot⟩, fun _ => rfl, fun tree htree => ?_⟩
  have hnul : NulFree loc := hfs.nulFree_of_node? (hstands.2 loc (List.prefix_refl _))
  refine FileSystem.Direct.canonical ?_ (hnul.subset (List.take_subset _ _))
  exact (FileSystem.Direct.of_through htree).above (List.take_prefix _ _)

/-- **One directory, one plugin.**  A plugin that is resolved has an absolute root without `.` and
`..`, and the last name of the root.  If the text that is given means a place, or no link is on
the way of the root, the root leads through directories to the place and is resolved to the same
plugin.  So is every text that means the place, in the same site, with the same reports and the
same lock, and none that means another place. -/
theorem resolve_canonical (hfs : fs.Lawful) (h : resolve fs given = .ok t) :
    t.Formed ∧ ∀ loc, (fs.Means given loc ∨ t.root = pathOf loc ∧ fs.Direct loc) →
      Settled fs loc t ∧
        ∀ given' t' loc', resolve fs given' = .ok t' → fs.Means given' loc' →
          (t' = t ↔ loc' = loc) ∧ (loc' = loc → Alike fs loc t t') := by
  refine ⟨formed_of_resolve h, fun loc hloc => ?_⟩
  have hsettled : Settled fs loc t := by
    rcases hloc with hmeans | ⟨hroot, hdirect⟩
    · exact settled_of_root hfs h (root_of_means hfs h hmeans) (hmeans.direct hfs.direct_cwd)
    · exact settled_of_root hfs h hroot hdirect
  refine ⟨hsettled, fun given' t' loc' h' hmeans' => ?_⟩
  have hsame : loc' = loc → t' = t := by
    rintro rfl
    exact Except.ok.inj (h'.symm.trans (hsettled.spelled given' hmeans'))
  refine ⟨⟨fun heq => ?_, hsame⟩, fun heq => ?_⟩
  · have hroot' := root_of_means hfs h' hmeans'
    rw [heq, hsettled.root] at hroot'
    exact (congrArg Path.names hroot').symm
  · exact alike_of_root hfs hsettled.root hsettled.stands (hsame heq)

/-! ### Spellings of one directory -/

/-- A directory with a link to it, and a link in it that leads to what is beneath by way of that
link. -/
def linkedTree : FileSystem where
  entries := [(["e"], .directory), (["e", "p"], .directory), (["d"], .link "e"),
    (["e", "q"], .link "../d/p")]
  cwd := ["e"]
  homes := []

theorem lawful_linkedTree : linkedTree.Lawful where
  distinct := by decide +kernel
  joinable := by
    simp only [Path.Joinable]
    decide +kernel
  short := by decide +kernel
  parent := by decide +kernel
  cwd := by decide +kernel
  nulFree := by
    simp only [Path.NulFree]
    decide +kernel

theorem means_linkedTree :
    linkedTree.Means "q/" ["e", "p"] ∧ linkedTree.Means "/d/.//p" ["e", "p"] :=
  ⟨FileSystem.means_of_traceFrom (by decide +kernel) (by decide +kernel) (by decide +kernel),
    FileSystem.means_of_traceFrom (by decide +kernel) (by decide +kernel) (by decide +kernel)⟩

theorem resolve_canonical_linkedTree :
    linkedTree.Lawful ∧ linkedTree.Means "q/" ["e", "p"] ∧ linkedTree.Means "/d/.//p" ["e", "p"] ∧
      ∃ t t', resolve linkedTree "q/" = .ok t ∧ resolve linkedTree "/d/.//p" = .ok t' ∧
        t.Formed ∧ Settled linkedTree ["e", "p"] t ∧ Alike linkedTree ["e", "p"] t t' := by
  obtain ⟨hmeans, hmeans'⟩ := means_linkedTree
  have h : resolve linkedTree "q/" = .ok ⟨pathOf ["e", "p"], "p"⟩ := by decide +kernel
  have h' : resolve linkedTree "/d/.//p" = .ok ⟨pathOf ["e", "p"], "p"⟩ := by decide +kernel
  obtain ⟨hformed, hplaces⟩ := resolve_canonical lawful_linkedTree h
  obtain ⟨hsettled, halike⟩ := hplaces _ (.inl hmeans)
  exact ⟨lawful_linkedTree, hmeans, hmeans', _, _, h, h', hformed, hsettled,
    (halike _ _ _ h' hmeans').2 rfl⟩

/-! ### A text that means no place -/

/-- A link that leads to itself, and one that leads to a directory. -/
def loopedTree : FileSystem where
  entries := [(["l"], .link "l"), (["e"], .directory), (["d"], .link "e")]
  cwd := []
  homes := []

theorem lawful_loopedTree : loopedTree.Lawful where
  distinct := by decide +kernel
  joinable := by
    simp only [Path.Joinable]
    decide +kernel
  short := by decide +kernel
  parent := by decide +kernel
  cwd := by decide +kernel
  nulFree := by
    simp only [Path.NulFree]
    decide +kernel

/-- Behind a loop a link is not followed: what is resolved is the link, and what that is resolved
to is the directory. -/
theorem resolved_to_link :
    loopedTree.Lawful ∧ resolve loopedTree "/l/../d" = .ok ⟨pathOf ["d"], "d"⟩ ∧
      loopedTree.node? ["d"] = some (.link "e") ∧
      resolve loopedTree (pathOf ["d"]).toString = .ok ⟨pathOf ["e"], "e"⟩ :=
  ⟨lawful_loopedTree, by decide +kernel⟩

end Target

end PluginSweep

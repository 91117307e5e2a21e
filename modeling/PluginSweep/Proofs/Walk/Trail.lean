/-
PluginSweep/Proofs/Walk/Trail.lean

Ways through directories and links.  An entry of a directory leads to a
directory when it is one, or a link to one (`LeadsTo`).  A trail goes from one
directory to the next by such entries, with no directory met twice
(`Trail`).  Where the path of a trail is never refused for its links or its
length (`Unhindered`), it leads to where the trail leads, and a walk that has
come there enters just the entries that lead to directories
(`entersDirectory_iff`).
-/
import PluginSweep.Proofs.FileSystem.Links
import PluginSweep.Proofs.Path
import PluginSweep.Proofs.Walk.Exclusion

namespace PluginSweep

namespace FileSystem

/-- What holds of the entries of every file system: no two are at one location, and their names
can be those of entries, have no slash in them, and are not too long. -/
structure WellFormed (fs : FileSystem) : Prop where
  distinct : (fs.entries.map (·.1)).Nodup
  joinable : ∀ e ∈ fs.entries, Path.Joinable e.1
  short : ∀ e ∈ fs.entries, ∀ name ∈ e.1, name.utf8ByteSize ≤ nameLimit

/-- The entry of that name is a directory or a link, and leads from the directory `loc` to the
directory `loc'`. -/
structure LeadsTo (fs : FileSystem) (loc : Location) (name : String) (loc' : Location) : Prop where
  listed : name ∈ fs.namesIn loc
  traced : fs.traceFrom .target linkLimit loc [name] = .ok loc'
  directory : fs.node? loc' = some .directory

/-- The directories to which names lead that are not excluded, one after the other. -/
inductive Reachable (fs : FileSystem) (exclusions : List String) (top : Location) :
    Location → Prop
  | top : Reachable fs exclusions top top
  | enter {loc loc' : Location} {name : String} (h : Reachable fs exclusions top loc)
      (hleads : fs.LeadsTo loc name loc') (hname : name ∉ exclusions) :
      Reachable fs exclusions top loc'

variable {fs : FileSystem} {loc loc' : Location} {name : String}

theorem LeadsTo.unique {other : Location} (h : fs.LeadsTo loc name loc')
    (h' : fs.LeadsTo loc name other) : loc' = other :=
  Except.ok.inj (h.traced.symm.trans h'.traced)

/-- The directory to which a name leads from the directory `loc`. -/
def leadsTo? (fs : FileSystem) (loc : Location) (name : String) : Option Location :=
  match fs.traceFrom .target linkLimit loc [name] with
  | .ok loc' => if fs.node? loc' = some .directory then some loc' else none
  | .error _ => none

theorem leadsTo?_eq_some :
    fs.leadsTo? loc name = some loc' ↔
      fs.traceFrom .target linkLimit loc [name] = .ok loc' ∧ fs.node? loc' = some .directory := by
  rw [leadsTo?]
  rcases fs.traceFrom .target linkLimit loc [name] with cause | there
  · simp
  · by_cases hthere : fs.node? there = some .directory
    · simp only [if_pos hthere, Option.some.injEq, Except.ok.injEq]
      exact ⟨fun heq => ⟨heq, heq ▸ hthere⟩, And.left⟩
    · simp only [if_neg hthere, Except.ok.injEq]
      exact iff_of_false nofun fun ⟨heq, hnode⟩ => hthere (heq ▸ hnode)

theorem LeadsTo.leadsTo? (h : fs.LeadsTo loc name loc') : fs.leadsTo? loc name = some loc' :=
  leadsTo?_eq_some.mpr ⟨h.traced, h.directory⟩

theorem leadsTo_of_leadsTo? (hname : name ∈ fs.namesIn loc)
    (h : fs.leadsTo? loc name = some loc') : fs.LeadsTo loc name loc' :=
  ⟨hname, (leadsTo?_eq_some.mp h).1, (leadsTo?_eq_some.mp h).2⟩

/-! ### The names in a directory -/

/-- No name is listed twice where no two entries are at one location. -/
theorem nodup_namesIn (h : (fs.entries.map (·.1)).Nodup) (loc : Location) :
    (fs.namesIn loc).Nodup := by
  refine List.Pairwise.filterMap _ (fun e e' hne name hname name' hname' heq => ?_)
    (List.pairwise_map.mp h)
  subst heq
  split at hname
  · split at hname'
    · rename_i hloc hloc'
      refine hne ?_
      rw [(getLast?_eq_some_iff_of_dropLast hloc).mp hname,
        (getLast?_eq_some_iff_of_dropLast hloc').mp hname']
    · cases hname'
  · cases hname

theorem WellFormed.nodup_namesIn (h : fs.WellFormed) (loc : Location) :
    (fs.namesIn loc).Nodup :=
  FileSystem.nodup_namesIn h.distinct loc

/-- A name that a directory lists is the name of an entry there, and not too long. -/
theorem WellFormed.of_mem_namesIn (h : fs.WellFormed) (hname : name ∈ fs.namesIn loc) :
    Path.Joinable [name] ∧ name.utf8ByteSize ≤ nameLimit ∧
      ∃ node, fs.node? (loc ++ [name]) = some node := by
  obtain ⟨node, hentry⟩ := mem_namesIn.mp hname
  have hlast : name ∈ loc ++ [name] := List.mem_append_right _ (List.mem_singleton_self _)
  refine ⟨fun other hother => ?_, h.short _ hentry name hlast, ?_⟩
  · rw [List.mem_singleton.mp hother]
    exact h.joinable _ hentry name hlast
  · rw [node?, if_neg (List.append_ne_nil_of_right_ne_nil _ (List.cons_ne_nil _ _))]
    have hsome : (fs.entryAt? (loc ++ [name])).isSome = true :=
      List.find?_isSome.mpr ⟨_, hentry, beq_self_eq_true _⟩
    obtain ⟨e, he⟩ := Option.isSome_iff_exists.mp hsome
    exact ⟨e.2, by rw [he]; rfl⟩

/-- The name of an entry that is no link leads to the entry. -/
theorem WellFormed.traceFrom_entry (h : fs.WellFormed) (hname : name ∈ fs.namesIn loc)
    (hloc : fs.node? loc = some .directory)
    (hlink : ∀ target, fs.node? (loc ++ [name]) ≠ some (.link target)) :
    fs.traceFrom .target linkLimit loc [name] = .ok (loc ++ [name]) := by
  obtain ⟨hjoin, hshort, node, hnode⟩ := h.of_mem_namesIn hname
  have hproper : Proper name := (hjoin name (List.mem_singleton_self _)).1
  show fs.follow .target (fs.traceFrom .target 39) loc [name] = _
  rw [follow_proper hloc hproper, if_neg (Nat.not_lt.mpr hshort), hnode]
  cases node with
  | link target => exact absurd hnode (hlink target)
  | directory => rfl
  | file bytes => rfl

end FileSystem

namespace Walk

variable {fs : FileSystem} {o : Options} {top loc loc' : Location} {passed : List Location}
  {below : List String} {name : String} {v : Visit}

/-! ### Trails -/

/-- Names that are not excluded lead to the directory, one after the other, and from each to one
that has not been passed before. -/
inductive Trail (fs : FileSystem) (o : Options) (top : Location) :
    (passed : List Location) → (below : List String) → Location → Prop
  | root : Trail fs o top [top] [] top
  | enter {passed : List Location} {below : List String} {loc loc' : Location} {name : String}
      (h : Trail fs o top passed below loc) (hleads : fs.LeadsTo loc name loc')
      (hname : name ∉ o.exclusions) (hnew : loc' ∉ passed) :
      Trail fs o top (loc' :: passed) (below ++ [name]) loc'

/-- The path to which the names lead from the root. -/
def Options.pathOf (o : Options) (below : List String) : Path :=
  ⟨o.root.anchor, o.root.names ++ below⟩

theorem Options.pathOf_concat (o : Options) (below : List String) (name : String) :
    o.pathOf (below ++ [name]) = ⟨(o.pathOf below).anchor, (o.pathOf below).names ++ [name]⟩ := by
  rw [pathOf, pathOf, List.append_assoc]

/-- From the end of a trail no path to a directory is refused because it leads through too many
links or is too long. -/
def Unhindered (fs : FileSystem) (o : Options) (top : Location) : Prop :=
  ∀ passed below loc name loc', Trail fs o top passed below loc → fs.LeadsTo loc name loc' →
    fs.locate (o.pathOf (below ++ [name])) ≠ .error .linkLoop ∧
      fs.locate (o.pathOf (below ++ [name])) ≠ .error .nameTooLong

theorem Trail.reachable (h : Trail fs o top passed below loc) :
    fs.Reachable o.exclusions top loc := by
  induction h with
  | root => exact .top
  | enter _ hleads hname _ ih => exact ih.enter hleads hname

theorem Trail.not_excluded (h : Trail fs o top passed below loc) :
    ∀ name ∈ below, name ∉ o.exclusions := by
  induction h with
  | root => exact fun name hname => absurd hname List.not_mem_nil
  | enter _ _ hname _ ih =>
    intro other hother
    rcases List.mem_append.mp hother with hother | hother
    · exact ih other hother
    · rwa [List.mem_singleton.mp hother]

theorem Trail.joinable (hfs : fs.WellFormed) (h : Trail fs o top passed below loc) :
    Path.Joinable below := by
  induction h with
  | root => exact fun name hname => absurd hname List.not_mem_nil
  | enter _ hleads _ _ ih => exact ih.append (hfs.of_mem_namesIn hleads.listed).1

/-- The path of a trail leads to where the trail leads. -/
theorem Trail.locate (htop : fs.locate o.root = .ok (top, .directory))
    (hfree : Unhindered fs o top) (h : Trail fs o top passed below loc) :
    fs.locate (o.pathOf below) = .ok (loc, .directory) := by
  induction h with
  | root =>
    rw [Options.pathOf, List.append_nil]
    exact htop
  | enter h hleads _ _ ih =>
    obtain ⟨hloop, hshort⟩ := hfree _ _ _ _ _ h hleads
    rw [Options.pathOf_concat] at hloop hshort ⊢
    exact FileSystem.locate_concat ih hleads.traced hleads.directory hloop hshort

/-- The path of a trail goes on with a name to where the name leads. -/
theorem Trail.locate_concat (htop : fs.locate o.root = .ok (top, .directory))
    (hfree : Unhindered fs o top) (h : Trail fs o top passed below loc)
    (hleads : fs.LeadsTo loc name loc') :
    fs.locate (o.pathOf (below ++ [name])) = .ok (loc', .directory) := by
  obtain ⟨hloop, hshort⟩ := hfree _ _ _ _ _ h hleads
  rw [Options.pathOf_concat] at hloop hshort ⊢
  exact FileSystem.locate_concat (h.locate htop hfree) hleads.traced hleads.directory hloop hshort

/-- A finite collection of trails from which names lead on within it, or along paths that are not
refused. -/
structure Closed (fs : FileSystem) (o : Options) (top : Location)
    (trails : List (List Location × List String × Location)) : Prop where
  root : ([top], [], top) ∈ trails
  enter : ∀ t ∈ trails, ∀ name ∈ fs.namesIn t.2.2, ∀ loc' ∈ fs.leadsTo? t.2.2 name,
    name ∈ o.exclusions ∨ loc' ∈ t.1 ∨ (loc' :: t.1, t.2.1 ++ [name], loc') ∈ trails
  free : ∀ t ∈ trails, ∀ name ∈ fs.namesIn t.2.2, ∀ loc' ∈ fs.leadsTo? t.2.2 name,
    fs.isDirectory (o.pathOf (t.2.1 ++ [name])) = true

theorem Closed.mem_of_trail {trails : List (List Location × List String × Location)}
    (h : Closed fs o top trails) (htrail : Trail fs o top passed below loc) :
    (passed, below, loc) ∈ trails := by
  induction htrail with
  | root => exact h.root
  | enter _ hleads hname hnew ih =>
    rcases h.enter _ ih _ hleads.listed _ hleads.leadsTo? with hexcluded | hpassed | hmem
    · exact absurd hexcluded hname
    · exact absurd hpassed hnew
    · exact hmem

/-- Whether the paths of trails are refused can be told from a collection of all trails. -/
theorem Closed.unhindered {trails : List (List Location × List String × Location)}
    (h : Closed fs o top trails) : Unhindered fs o top := by
  intro passed below loc name loc' htrail hleads
  have hdirectory := h.free _ (h.mem_of_trail htrail) _ hleads.listed _ hleads.leadsTo?
  rw [FileSystem.isDirectory] at hdirectory
  constructor <;> intro hrefused <;> rw [hrefused] at hdirectory <;> cases hdirectory

/-! ### What is entered -/

/-- At the end of a trail, the entries that are entered are those that lead to directories. -/
theorem entersDirectory_iff (hfs : fs.WellFormed)
    (htop : fs.locate o.root = .ok (top, .directory)) (hfree : Unhindered fs o top)
    (h : Trail fs o top passed v.below loc) (hname : name ∈ fs.namesIn loc) :
    entersDirectory fs o v loc name = true ↔ ∃ loc', fs.LeadsTo loc name loc' := by
  have hhere := h.locate htop hfree
  have hloc : fs.node? loc = some .directory := FileSystem.node?_of_locate hhere
  have hpath : (v.path o).append ⟨"", [name]⟩ = o.pathOf (v.below ++ [name]) :=
    v.append_path o name
  obtain ⟨-, -, node, hnode⟩ := hfs.of_mem_namesIn hname
  rw [entersDirectory, hnode]
  cases node with
  | directory =>
    have htrace := hfs.traceFrom_entry hname hloc (by rw [hnode]; simp)
    exact iff_of_true rfl ⟨_, hname, htrace, hnode⟩
  | file bytes =>
    have htrace := hfs.traceFrom_entry hname hloc (by rw [hnode]; simp)
    refine iff_of_false Bool.false_ne_true ?_
    rintro ⟨loc', hleads⟩
    obtain rfl := Except.ok.inj (htrace.symm.trans hleads.traced)
    cases hnode.symm.trans hleads.directory
  | link target =>
    -- A link is entered if its own path leads to a directory.
    dsimp only
    rw [hpath, FileSystem.isDirectory]
    constructor
    · intro hdirectory
      split at hdirectory
      · rename_i loc' hlocate
        rw [Options.pathOf_concat] at hlocate
        exact ⟨loc', hname, FileSystem.traceFrom_of_locate_concat hhere hlocate,
          FileSystem.node?_of_locate hlocate⟩
      · cases hdirectory
    · rintro ⟨loc', hleads⟩
      rw [h.locate_concat htop hfree hleads]

/-- From the end of a trail, a walk descends by the names that are not excluded and lead to
directories. -/
theorem mem_descend_iff (hfs : fs.WellFormed)
    (htop : fs.locate o.root = .ok (top, .directory)) (hfree : Unhindered fs o top)
    (h : Trail fs o top passed v.below loc) :
    name ∈ descend fs o v loc ↔ name ∉ o.exclusions ∧ ∃ loc', fs.LeadsTo loc name loc' := by
  rw [descend, mem_ordered, List.mem_filter, Bool.and_eq_true, Bool.not_eq_true',
    List.contains_eq_mem, decide_eq_false_iff_not]
  constructor
  · rintro ⟨hname, henters, hallowed⟩
    exact ⟨hallowed, (entersDirectory_iff hfs htop hfree h hname).mp henters⟩
  · rintro ⟨hallowed, loc', hleads⟩
    exact ⟨hleads.listed,
      (entersDirectory_iff hfs htop hfree h hleads.listed).mpr ⟨loc', hleads⟩, hallowed⟩

/-- From the end of a trail, a walk lists the entries that do not lead to directories and have a
wanted extension. -/
theorem mem_filesIn_iff (hfs : fs.WellFormed)
    (htop : fs.locate o.root = .ok (top, .directory)) (hfree : Unhindered fs o top)
    (h : Trail fs o top passed v.below loc) {file : Candidate} :
    file ∈ filesIn fs o v loc ↔ ∃ name ∈ fs.namesIn loc, (¬ ∃ loc', fs.LeadsTo loc name loc') ∧
      o.wants file.extension = true ∧ file = candidateAt o (v.below ++ [name]) := by
  simp only [filesIn, List.mem_filterMap, mem_ordered, List.mem_filter, Bool.not_eq_true']
  constructor
  · rintro ⟨name, ⟨hname, henters⟩, hcandidate⟩
    obtain ⟨heq, hwants⟩ := candidate?_eq_some hcandidate
    refine ⟨name, hname, fun hleads => ?_, hwants, heq⟩
    exact Bool.eq_false_iff.mp henters ((entersDirectory_iff hfs htop hfree h hname).mpr hleads)
  · rintro ⟨name, hname, hleads, hwants, rfl⟩
    refine ⟨name, ⟨hname, ?_⟩, candidate?_of_wants hwants⟩
    exact Bool.eq_false_iff.mpr fun henters =>
      hleads ((entersDirectory_iff hfs htop hfree h hname).mp henters)

end Walk

end PluginSweep

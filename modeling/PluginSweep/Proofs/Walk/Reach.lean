/-
PluginSweep/Proofs/Walk/Reach.lean

What a walk lists where links lead from directory to directory.  The directories
that a walk lists are followed beside the walk itself (`listings`, `visitAll_files`).
They are the directories that can be reached by names that are not excluded, each
once (`nodup_listings`, `mem_listings_iff`), and so the files that are listed
are the other entries of those directories.

What is pending in a walk leads on from the end of a trail through visited
directories (`Heads`); a directory that is then new ends a trail itself.  The
directories that have been visited lead to visited directories or to pending
ones, so once nothing is pending they lead to visited ones only.
-/
import PluginSweep.Proofs.Walk.Trail

namespace PluginSweep.Walk

variable {fs : FileSystem} {o : Options} {top loc loc' : Location}
  {visited visited' passed : List Location} {pending : List Visit} {walk : Walk} {v : Visit}

/-! ### The directories that are listed -/

/-- The directories that the walk lists from what is pending, and how it came to them. -/
def listings (fs : FileSystem) (o : Options) (visited : List Location) (pending : List Visit) :
    List (Visit × Location) :=
  match pending with
  | [] => []
  | v :: rest =>
    match _harrived : arrive fs o visited v with
    | .error _ => listings fs o visited rest
    | .ok loc =>
      (v, loc) :: listings fs o (loc :: visited) ((descend fs o v loc).map v.enter ++ rest)
termination_by unvisited fs visited * (fs.entries.length + 1) + pending.length
decreasing_by
  · exact Nat.add_lt_add_left (Nat.lt_succ_self _) _
  · exact measure_arrived_lt _harrived

/-- The directories that the walk below the root lists. -/
def Options.listings (o : Options) (fs : FileSystem) : List (Visit × Location) :=
  Walk.listings fs o [] [⟨[], o.root.toString⟩]

theorem listings_nil : listings fs o visited [] = [] := by
  rw [listings]

theorem listings_warned {rest : List Visit} {warning : Warning}
    (h : arrive fs o visited v = .error warning) :
    listings fs o visited (v :: rest) = listings fs o visited rest := by
  rw [listings]
  split
  · rfl
  · rename_i there hthere
    cases hthere.symm.trans h

theorem listings_arrived {rest : List Visit} (h : arrive fs o visited v = .ok loc) :
    listings fs o visited (v :: rest) =
      (v, loc) :: listings fs o (loc :: visited) ((descend fs o v loc).map v.enter ++ rest) := by
  rw [listings]
  split
  · rename_i warning hwarning
    cases hwarning.symm.trans h
  · rename_i other hother
    obtain rfl := Except.ok.inj (hother.symm.trans h)
    rfl

/-- A walk lists the files of the directories that it lists, in that order. -/
theorem visitAll_files : (visitAll fs o visited walk pending).files =
    walk.files ++ (listings fs o visited pending).flatMap fun l => filesIn fs o l.1 l.2 := by
  fun_induction listings fs o visited pending generalizing walk with
  | case1 visited => rw [visitAll, List.flatMap_nil, List.append_nil]
  | case2 visited v rest warning hwarned ih => rw [visitAll_warned hwarned, ih]
  | case3 visited v rest loc harrived ih =>
    rw [visitAll_arrived harrived, ih, List.flatMap_cons, List.append_assoc]

/-- What a walk lists, unless its root cannot be the path of anything. -/
theorem map_files_walk : (fs.walk o).map Walk.files =
    if FileSystem.admits o.root then .ok ((o.listings fs).flatMap fun l => filesIn fs o l.1 l.2)
    else .error .nulInPath := by
  rw [FileSystem.walk]
  split
  · exact congrArg Except.ok visitAll_files
  · rfl

theorem files_of_walk (h : fs.walk o = .ok walk) :
    walk.files = (o.listings fs).flatMap fun l => filesIn fs o l.1 l.2 := by
  have hfiles : (fs.walk o).map Walk.files = _ := map_files_walk
  rw [h] at hfiles
  split at hfiles
  · exact Except.ok.inj hfiles
  · cases hfiles

/-- What holds of all visits that are pending, and passes from a visit to those of the directories
in which the walk goes on, holds of all visits that list a directory. -/
theorem forall_mem_listings {P : Visit → Prop}
    (henter : ∀ v loc, P v → ∀ name ∈ descend fs o v loc, P (v.enter name))
    (hpending : ∀ v ∈ pending, P v) : ∀ l ∈ listings fs o visited pending, P l.1 := by
  fun_induction listings fs o visited pending with
  | case1 visited => exact fun l hl => absurd hl List.not_mem_nil
  | case2 visited v rest warning hwarned ih =>
    exact ih fun w hw => hpending w (List.mem_cons_of_mem _ hw)
  | case3 visited v rest loc harrived ih =>
    have hfirst := hpending v List.mem_cons_self
    intro l hl
    rcases List.mem_cons.mp hl with rfl | hl
    · exact hfirst
    · refine ih (fun w hw => ?_) l hl
      rcases List.mem_append.mp hw with hw | hw
      · obtain ⟨name, hname, rfl⟩ := List.mem_map.mp hw
        exact henter v loc hfirst name hname
      · exact hpending w (List.mem_cons_of_mem _ hw)

/-- No directory is listed twice, nor one that has been visited before. -/
theorem nodup_listings : ((listings fs o visited pending).map (·.2)).Nodup ∧
    ∀ loc ∈ (listings fs o visited pending).map (·.2), loc ∉ visited := by
  fun_induction listings fs o visited pending with
  | case1 visited => exact ⟨List.nodup_nil, fun loc hloc => absurd hloc List.not_mem_nil⟩
  | case2 visited v rest warning hwarned ih => exact ih
  | case3 visited v rest loc harrived ih =>
    obtain ⟨hnodup, hnew⟩ := ih
    refine ⟨List.nodup_cons.mpr ⟨fun hloc => ?_, hnodup⟩, fun other hother => ?_⟩
    · exact hnew loc hloc (List.mem_cons_self ..)
    · rcases List.mem_cons.mp hother with rfl | hother
      · exact (arrive_eq_ok harrived).2.2
      · exact fun hvisited => hnew other hother (List.mem_cons_of_mem _ hvisited)

/-! ### What is pending -/

/-- A visit whose path leads to a directory arrives there, unless it has been visited. -/
theorem arrive_of_locate (h : fs.locate (v.path o) = .ok (loc, .directory)) :
    arrive fs o visited v =
      if loc ∈ visited then .error (.directoryRevisited v.shown) else .ok loc := by
  rw [arrive, h]
  dsimp only
  rw [FileSystem.node?_of_locate h]

/-- The visit leads to the directory: it is that of the root, or an entry at the end of a trail
through visited directories leads there. -/
inductive Heads (fs : FileSystem) (o : Options) (top : Location) (visited : List Location) :
    (v : Visit) → Location → Prop
  | root {v : Visit} (hbelow : v.below = []) : Heads fs o top visited v top
  | enter {v : Visit} {passed : List Location} {below : List String} {loc loc' : Location}
      {name : String} (htrail : Trail fs o top passed below loc) (hpassed : passed ⊆ visited)
      (hleads : fs.LeadsTo loc name loc') (hname : name ∉ o.exclusions)
      (hbelow : v.below = below ++ [name]) : Heads fs o top visited v loc'

theorem Heads.mono (h : Heads fs o top visited v loc) (hvisited : visited ⊆ visited') :
    Heads fs o top visited' v loc := by
  cases h with
  | root hbelow => exact .root hbelow
  | enter htrail hpassed hleads hname hbelow =>
    exact .enter htrail (List.Subset.trans hpassed hvisited) hleads hname hbelow

/-- A visit that leads to a directory that has not been visited ends a trail there. -/
theorem Heads.trail (h : Heads fs o top visited v loc) (hnew : loc ∉ visited) :
    ∃ passed, Trail fs o top passed v.below loc ∧ passed ⊆ loc :: visited := by
  cases h with
  | root hbelow =>
    rw [hbelow]
    exact ⟨_, .root, List.cons_subset_cons _ (List.nil_subset _)⟩
  | enter htrail hpassed hleads hname hbelow =>
    rw [hbelow]
    exact ⟨_, htrail.enter hleads hname fun hmem => hnew (hpassed hmem),
      List.cons_subset_cons _ hpassed⟩

section Walking

variable (hfs : fs.WellFormed) (htop : fs.locate o.root = .ok (top, .directory))
  (hfree : Unhindered fs o top)

include htop hfree in
theorem Heads.locate (h : Heads fs o top visited v loc) :
    fs.locate (v.path o) = .ok (loc, .directory) := by
  show fs.locate (o.pathOf v.below) = _
  cases h with
  | root hbelow =>
    rw [hbelow, Options.pathOf, List.append_nil]
    exact htop
  | enter htrail _ hleads _ hbelow =>
    rw [hbelow]
    exact htrail.locate_concat htop hfree hleads

include htop hfree in
/-- A visit arrives where it leads. -/
theorem Heads.eq_of_arrive (h : Heads fs o top visited v loc)
    (harrived : arrive fs o visited v = .ok loc') : loc' = loc := by
  obtain ⟨⟨node, hlocate⟩, -, -⟩ := arrive_eq_ok harrived
  exact (Prod.mk.inj (Except.ok.inj (hlocate.symm.trans (h.locate htop hfree)))).1

include htop hfree in
/-- A visit that does not arrive leads to a directory that has been visited. -/
theorem Heads.mem_of_warned {warning : Warning} (h : Heads fs o top visited v loc)
    (hwarned : arrive fs o visited v = .error warning) : loc ∈ visited := by
  rw [arrive_of_locate (h.locate htop hfree)] at hwarned
  split at hwarned
  · assumption
  · cases hwarned

/-- Everything that is pending leads to a directory. -/
def Heading (fs : FileSystem) (o : Options) (top : Location) (visited : List Location)
    (pending : List Visit) : Prop :=
  ∀ v ∈ pending, ∃ loc, Heads fs o top visited v loc

theorem heading_root (fs : FileSystem) (o : Options) (top : Location) :
    Heading fs o top [] [⟨[], o.root.toString⟩] := by
  intro v hv
  rw [List.mem_singleton.mp hv]
  exact ⟨top, .root rfl⟩

include hfs htop hfree in
/-- The visits of the directories in which a walk goes on lead there. -/
theorem heads_enter {name : String} (htrail : Trail fs o top passed v.below loc)
    (hpassed : passed ⊆ visited) (hleads : fs.LeadsTo loc name loc')
    (hname : name ∉ o.exclusions) :
    v.enter name ∈ (descend fs o v loc).map v.enter ∧
      Heads fs o top visited (v.enter name) loc' := by
  refine ⟨List.mem_map_of_mem ?_, .enter htrail hpassed hleads hname rfl⟩
  exact (mem_descend_iff hfs htop hfree htrail).mpr ⟨hname, loc', hleads⟩

include hfs htop hfree in
/-- What is pending goes on to lead to directories. -/
theorem Heading.arrived {rest : List Visit} (h : Heading fs o top visited (v :: rest))
    (harrived : arrive fs o visited v = .ok loc) :
    Heading fs o top (loc :: visited) ((descend fs o v loc).map v.enter ++ rest) := by
  obtain ⟨there, hthere⟩ := h v (List.mem_cons_self ..)
  obtain rfl := hthere.eq_of_arrive htop hfree harrived
  obtain ⟨passed, htrail, hpassed⟩ := hthere.trail (arrive_eq_ok harrived).2.2
  intro w hw
  rcases List.mem_append.mp hw with hw | hw
  · obtain ⟨name, hname, rfl⟩ := List.mem_map.mp hw
    obtain ⟨hallowed, loc', hleads⟩ := (mem_descend_iff hfs htop hfree htrail).mp hname
    exact ⟨loc', (heads_enter hfs htop hfree htrail hpassed hleads hallowed).2⟩
  · obtain ⟨loc', hloc'⟩ := h w (List.mem_cons_of_mem _ hw)
    exact ⟨loc', hloc'.mono (List.subset_cons_self ..)⟩

include hfs htop hfree in
/-- Every directory that is listed is at the end of a trail. -/
theorem trail_of_mem_listings (h : Heading fs o top visited pending) :
    ∀ l ∈ listings fs o visited pending, ∃ passed, Trail fs o top passed l.1.below l.2 := by
  fun_induction listings fs o visited pending with
  | case1 visited => exact fun l hl => absurd hl List.not_mem_nil
  | case2 visited v rest warning hwarned ih =>
    exact ih fun w hw => h w (List.mem_cons_of_mem _ hw)
  | case3 visited v rest loc harrived ih =>
    intro l hl
    rcases List.mem_cons.mp hl with rfl | hl
    · obtain ⟨there, hthere⟩ := h v (List.mem_cons_self ..)
      obtain rfl := hthere.eq_of_arrive htop hfree harrived
      obtain ⟨passed, htrail, -⟩ := hthere.trail (arrive_eq_ok harrived).2.2
      exact ⟨passed, htrail⟩
    · exact ih (h.arrived hfs htop hfree harrived) l hl

/-! ### Nothing is missed -/

/-- From where `P` holds, names that are not excluded lead only to where `Q` holds. -/
def LeadOnly (fs : FileSystem) (o : Options) (P Q : Location → Prop) : Prop :=
  ∀ loc, P loc → ∀ name loc', fs.LeadsTo loc name loc' → name ∉ o.exclusions → Q loc'

/-- The location has been visited, or something that is pending leads there. -/
def Expected (fs : FileSystem) (o : Options) (top : Location) (visited : List Location)
    (pending : List Visit) (loc : Location) : Prop :=
  loc ∈ visited ∨ ∃ v ∈ pending, Heads fs o top visited v loc

/-- The location has been visited, or will be listed. -/
def Settled (fs : FileSystem) (o : Options) (visited : List Location) (pending : List Visit)
    (loc : Location) : Prop :=
  loc ∈ visited ∨ loc ∈ (listings fs o visited pending).map (·.2)

theorem settled_warned {rest : List Visit} {warning : Warning}
    (h : arrive fs o visited v = .error warning) :
    Settled fs o visited (v :: rest) = Settled fs o visited rest := by
  funext loc
  rw [Settled, Settled, listings_warned h]

theorem settled_arrived {rest : List Visit} {there : Location}
    (h : arrive fs o visited v = .ok there) :
    Settled fs o visited (v :: rest) =
      Settled fs o (there :: visited) ((descend fs o v there).map v.enter ++ rest) := by
  funext loc
  rw [Settled, Settled, listings_arrived h, List.map_cons, List.mem_cons, List.mem_cons, or_assoc]
  exact propext or_left_comm

include htop hfree in
/-- What was expected is expected still, when a visit has not arrived. -/
theorem Expected.warned {rest : List Visit} {warning : Warning}
    (h : Expected fs o top visited (v :: rest) loc)
    (hwarned : arrive fs o visited v = .error warning) : Expected fs o top visited rest loc := by
  rcases h with hvisited | ⟨w, hw, hheads⟩
  · exact .inl hvisited
  · rcases List.mem_cons.mp hw with rfl | hw
    · exact .inl (hheads.mem_of_warned htop hfree hwarned)
    · exact .inr ⟨w, hw, hheads⟩

include htop hfree in
/-- What was expected is expected still, when a visit has arrived. -/
theorem Expected.arrived {rest next : List Visit} {there : Location}
    (h : Expected fs o top visited (v :: rest) loc)
    (harrived : arrive fs o visited v = .ok there) :
    Expected fs o top (there :: visited) (next ++ rest) loc := by
  rcases h with hvisited | ⟨w, hw, hheads⟩
  · exact .inl (List.mem_cons_of_mem _ hvisited)
  · rcases List.mem_cons.mp hw with rfl | hw
    · obtain rfl := hheads.eq_of_arrive htop hfree harrived
      exact .inl (List.mem_cons_self ..)
    · exact .inr ⟨w, List.mem_append_right _ hw, hheads.mono (List.subset_cons_self ..)⟩

include hfs htop hfree in
/-- Where a visit has arrived, names lead to what is expected then. -/
theorem leadOnly_arrived {rest : List Visit} {there : Location}
    (hheading : Heading fs o top visited (v :: rest))
    (hvisited : LeadOnly fs o (· ∈ visited) (Expected fs o top visited (v :: rest)))
    (harrived : arrive fs o visited v = .ok there) :
    LeadOnly fs o (· ∈ there :: visited)
      (Expected fs o top (there :: visited) ((descend fs o v there).map v.enter ++ rest)) := by
  intro loc hloc name loc' hleads hname
  rcases List.mem_cons.mp hloc with rfl | hloc
  · obtain ⟨there, hthere⟩ := hheading v (List.mem_cons_self ..)
    obtain rfl := hthere.eq_of_arrive htop hfree harrived
    obtain ⟨passed, htrail, hpassed⟩ := hthere.trail (arrive_eq_ok harrived).2.2
    obtain ⟨hpending, hheads⟩ := heads_enter hfs htop hfree htrail hpassed hleads hname
    exact .inr ⟨_, List.mem_append_left _ hpending, hheads⟩
  · exact (hvisited loc hloc name loc' hleads hname).arrived htop hfree harrived

include hfs htop hfree in
/-- All that is expected is settled in the end, and names lead from there to nowhere else. -/
theorem listings_complete (hheading : Heading fs o top visited pending)
    (hvisited : LeadOnly fs o (· ∈ visited) (Expected fs o top visited pending)) :
    (∀ loc, Expected fs o top visited pending loc → Settled fs o visited pending loc) ∧
      LeadOnly fs o (Settled fs o visited pending) (Settled fs o visited pending) := by
  induction visited, pending using listings.induct fs o with
  | case1 visited =>
    have hnone : ∀ loc, Expected fs o top visited [] loc → loc ∈ visited := by
      rintro loc (hloc | ⟨v, hv, -⟩)
      · exact hloc
      · cases hv
    have hsettled : Settled fs o visited [] = (· ∈ visited) := by
      funext loc
      rw [Settled, listings_nil]
      exact propext (or_iff_left List.not_mem_nil)
    rw [hsettled]
    exact ⟨hnone, fun loc hloc name loc' hleads hname =>
      hnone loc' (hvisited loc hloc name loc' hleads hname)⟩
  | case2 visited v rest warning hwarned ih =>
    -- A visit that ends with a warning settles nothing and leaves nothing open.
    rw [settled_warned hwarned]
    obtain ⟨hexpected, hclosed⟩ := ih (fun w hw => hheading w (List.mem_cons_of_mem _ hw))
      fun loc hloc name loc' hleads hname =>
        (hvisited loc hloc name loc' hleads hname).warned htop hfree hwarned
    exact ⟨fun loc hloc => hexpected loc (hloc.warned htop hfree hwarned), hclosed⟩
  | case3 visited v rest there harrived ih =>
    -- A directory is settled, and what it leads to is pending then.
    rw [settled_arrived harrived]
    obtain ⟨hexpected, hclosed⟩ := ih (hheading.arrived hfs htop hfree harrived)
      (leadOnly_arrived hfs htop hfree hheading hvisited harrived)
    exact ⟨fun loc hloc => hexpected loc (hloc.arrived htop hfree harrived), hclosed⟩

include hfs htop hfree in
/-- The directories that are listed are those that can be reached. -/
theorem mem_listings_iff :
    loc ∈ (o.listings fs).map (·.2) ↔ fs.Reachable o.exclusions top loc := by
  have hroot : Heads fs o top [] ⟨[], o.root.toString⟩ top := .root rfl
  have hheading := heading_root fs o top
  constructor
  · intro hloc
    obtain ⟨l, hl, rfl⟩ := List.mem_map.mp hloc
    obtain ⟨passed, htrail⟩ := trail_of_mem_listings hfs htop hfree hheading l hl
    exact htrail.reachable
  · intro hreach
    obtain ⟨hexpected, hclosed⟩ := listings_complete hfs htop hfree hheading
      fun loc hloc => absurd hloc List.not_mem_nil
    have hsettled : Settled fs o [] [⟨[], o.root.toString⟩] loc := by
      induction hreach with
      | top => exact hexpected top (.inr ⟨_, List.mem_singleton_self _, hroot⟩)
      | enter _ hleads hname ih => exact hclosed _ ih _ _ hleads hname
    exact hsettled.resolve_left List.not_mem_nil

end Walking

end PluginSweep.Walk

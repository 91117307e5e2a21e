/-
PluginSweep/Proofs/Lock/LockFile.lean

Lock files and where they are.  The name of a lock file is one name of a path,
since a digest has no slash in it; so a trace of a lock file ends at a location
of that name, if it is not a link (`getLast?_of_trace_fileOf`).  The name tells
the digest (`nameOf_inj`), so that lock files of sites whose digests differ are
then at different locations.
-/
import PluginSweep.Lock.Table
import PluginSweep.Proofs.FileSystem.DeadEnd
import PluginSweep.Proofs.Path

namespace PluginSweep

/-! ### Digits have no slash in them -/

namespace Digest

theorem digitChar_ne_slash : ∀ n < 16, '/' ≠ n.digitChar := by
  decide

theorem slash_notMem_toDigits (n : Nat) : '/' ∉ Nat.toDigits 16 n := by
  induction n using Nat.strongRecOn with
  | ind n ih =>
    rw [Nat.toDigits_eq_if (by decide)]
    split
    · rename_i hsmall
      rw [List.mem_singleton]
      exact digitChar_ne_slash n hsmall
    · rename_i hlarge
      have hsmaller : n / 16 < n := Nat.div_lt_self (by omega) (by decide)
      rw [List.mem_append, List.mem_singleton, not_or]
      exact ⟨ih _ hsmaller, digitChar_ne_slash _ (Nat.mod_lt _ (by decide))⟩

theorem slash_notMem_hex (width n : Nat) : '/' ∉ (Text.hex width n).toList := by
  rw [Text.hex, String.toList_ofList, List.mem_append, not_or]
  refine ⟨fun hzero => ?_, slash_notMem_toDigits n⟩
  cases List.eq_of_mem_replicate hzero

theorem slash_notMem_short (text : String) : '/' ∉ (short text).toList := by
  intro hmem
  have htaken : (short text).toList = (hexDigest (Text.encode text)).toList.take 12 :=
    String.toList_copy_take
  rw [htaken] at hmem
  have hall := List.mem_of_mem_take hmem
  rw [hexDigest, String.toList_join, List.mem_flatMap] at hall
  obtain ⟨part, hpart, hslash⟩ := hall
  obtain ⟨word, -, rfl⟩ := List.mem_map.mp hpart
  exact slash_notMem_hex _ _ hslash

end Digest

/-! ### The end of a path -/

namespace FileSystem

variable {fs : FileSystem} {loc : Location} {last : String}

/-- Names of which the last can be that of an entry, and is not that of a link, lead to an entry
of that name. -/
theorem getLast?_of_follow {detour : Location → List String → Except OsCause Location}
    {purpose : Purpose} (hlast : Proper last)
    (hlinks : ∀ there target, fs.node? there = some (.link target) → there.getLast? ≠ some last)
    (hdetour : ∀ here names, detour here (names ++ [last]) = .ok loc → loc.getLast? = some last)
    {here : Location} {names : List String}
    (h : fs.follow purpose detour here (names ++ [last]) = .ok loc) :
    loc.getLast? = some last := by
  induction names generalizing here with
  | nil =>
    obtain ⟨hskip, hup⟩ := proper_iff.mp hlast
    cases leads_of_follow h with
    | skip hname _ => exact absurd hname hskip
    | up hname _ => exact absurd (beq_iff_eq.mpr hname) hup
    | enter _ _ _ _ _ hrest => exact Except.ok.inj hrest ▸ List.getLast?_concat
    -- The last name itself is not that of a link.
    | link _ _ _ hthere _ _ => exact absurd List.getLast?_concat (hlinks _ _ hthere)
    | keep _ _ _ _ _ hloc => exact hloc ▸ List.getLast?_concat
    | free _ _ _ _ hloc => exact hloc ▸ List.getLast?_concat
  | cons name rest ih =>
    rw [List.cons_append] at h
    have hmore : rest ++ [last] ≠ [] := List.concat_ne_nil _ _
    cases leads_of_follow h with
    | skip _ hrest => exact ih hrest
    | up _ hrest => exact ih hrest
    | enter _ _ _ _ _ hrest => exact ih hrest
    | link _ _ _ _ _ hrest =>
      rw [← List.append_assoc] at hrest
      exact hdetour _ _ hrest
    | keep _ _ _ _ hnil _ => exact absurd hnil hmore
    | free _ _ _ hnil _ => exact absurd hnil hmore

theorem getLast?_of_traceFrom {purpose : Purpose} (hlast : Proper last)
    (hlinks : ∀ there target, fs.node? there = some (.link target) → there.getLast? ≠ some last)
    {links : Nat} {here : Location} {names : List String}
    (h : fs.traceFrom purpose links here (names ++ [last]) = .ok loc) :
    loc.getLast? = some last := by
  induction links generalizing here names with
  | zero =>
    refine getLast?_of_follow hlast hlinks (fun _ _ heq => ?_) h
    cases heq
  | succ fewer ih => exact getLast?_of_follow hlast hlinks (fun _ _ => ih) h

end FileSystem

/-! ### Lock files -/

namespace Lock

variable {site : String}

theorem toList_nameOf (site : String) :
    (nameOf site).toList =
      "wpqa-probe-".toList ++ (Digest.short site).toList ++ ".lock".toList := by
  rw [nameOf, String.toList_append, String.toList_append]

/-- Lock files have the same name only if the digests of their sites are the same. -/
theorem nameOf_inj {other : String} (h : nameOf site = nameOf other) :
    Digest.short site = Digest.short other := by
  have hlist := congrArg String.toList h
  rw [toList_nameOf, toList_nameOf, List.append_assoc, List.append_assoc] at hlist
  exact String.toList_injective (List.append_cancel_right (List.append_cancel_left hlist))

theorem proper_nameOf (site : String) : Proper (nameOf site) := by
  have hlong : 16 ≤ (nameOf site).toList.length := by
    rw [toList_nameOf, List.length_append, List.length_append]
    have hfront : "wpqa-probe-".toList.length = 11 := rfl
    have hend : ".lock".toList.length = 5 := rfl
    omega
  intro hmem
  simp only [List.mem_cons, List.not_mem_nil, or_false] at hmem
  rcases hmem with heq | heq | heq <;> rw [heq] at hlong <;> exact absurd hlong (by decide)

/-- The path of a lock file is that of the directory and one name. -/
theorem fileOf_eq (dir : Path) (site : String) :
    fileOf dir site = ⟨dir.anchor, dir.names ++ [nameOf site]⟩ := by
  have hslash : '/' ∉ (nameOf site).toList := by
    rw [toList_nameOf]
    simp only [List.mem_append, not_or]
    exact ⟨⟨by decide, Digest.slash_notMem_short site⟩, by decide⟩
  have hname : Path.Joinable [nameOf site] := by
    intro name hmem
    rw [List.mem_singleton.mp hmem]
    exact ⟨proper_nameOf site, hslash⟩
  have hchild := Path.child_intercalate dir hname (List.cons_ne_nil _ _)
  rwa [String.intercalate_singleton] at hchild

variable {fs : FileSystem} {dir : Path} {loc : Location}

/-- A lock file that is no link is at a location of its name. -/
theorem getLast?_of_trace_fileOf
    (hlinks : ∀ there target, fs.node? there = some (.link target) →
      there.getLast? ≠ some (nameOf site))
    (h : fs.trace .file (fileOf dir site) = .ok loc) : loc.getLast? = some (nameOf site) := by
  rw [FileSystem.trace] at h
  split at h
  · cases h
  · rw [fileOf_eq] at h
    exact FileSystem.getLast?_of_traceFrom (proper_nameOf site) hlinks h

end Lock

end PluginSweep

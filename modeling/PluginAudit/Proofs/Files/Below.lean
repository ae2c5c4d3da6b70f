import Mathlib.Data.List.Basic
import PluginAudit.Proofs.Files.Roots

/-!
# Finding all below a directory

The pattern `**` with another one behind finds, at any depth below a directory, what has a name that
the other one fits, and nothing else, where all directories can be listed.
-/

namespace PluginAudit.Files

open Search FileSystem

namespace Glob

/-- A `*` and what is behind it fit if the rest fits some end. -/
theorem fits_run {gs : List Glob} {cs : List Char} :
    fits (.run :: gs) cs = true ↔ ∃ s, s <:+ cs ∧ fits gs s = true := by
  induction cs with
  | nil =>
    rw [fits]
    simp [isRun]
  | cons c cs ih =>
    rw [fits]
    simp only [isRun, if_true, Bool.or_eq_true, ih, List.suffix_cons_iff, or_and_right, exists_or,
      exists_eq_left]

end Glob

variable {fs : FileSystem} {mustBeDir : Bool} {n : Nat} {node : Node} {followLast : Bool}
  {dir s : Spot} {done others q : Path} {name : Name} {pattern : List Glob}
  {entries : List (Name × Node)}

theorem hits_directories (hne : pattern ≠ [.directories]) (hdir : dir.isDirectory = true)
    (hlist : fs.list dir.path = .ok entries) :
    hits fs mustBeDir (n + 1) [[.directories], pattern] dir = entries.flatMap fun e =>
      named fs mustBeDir n (entrySpot fs dir.path e.1 e.2) [pattern] ++
        below fs mustBeDir n [pattern] (entrySpot fs dir.path e.1 e.2) := by
  have hcollapse : collapse [[.directories], pattern] = [[.directories], pattern] := by
    unfold collapse
    split
    · next heq => exact absurd (List.cons.inj (List.cons.inj heq).2).1 hne
    · rfl
  have hliteral : Glob.literal? [.directories] = none := rfl
  rw [hits_wild hliteral hdir hlist]
  exact List.flatMap_congr fun e _ => follow_candidate_directories hcollapse

theorem mem_named_last (h : .found q ∈ named fs mustBeDir n s [pattern]) :
    q = s.path ∧ ∃ name, s.path.fileName? = some name ∧ Glob.fits pattern name = true := by
  obtain ⟨_, rest, name, heq, hname, hfits, hfound⟩ := mem_named h
  obtain ⟨rfl, rfl⟩ := List.cons.inj heq
  rcases mem_onward hfound with ⟨_, hq⟩ | hfound
  · exact ⟨Hit.found.inj hq, name, hname, hfits⟩
  · cases hfound

/-- What is found has a name that fits, behind names of directories. -/
theorem names_of_found (hfs : fs.root.WellFormed) (hne : pattern ≠ [.directories])
    (hdir : StandsFor dir.path done) (hdone : IsSpelled done)
    (h : .found q ∈ hits fs mustBeDir n [[.directories], pattern] dir) :
    ∃ others name, (∀ m ∈ others ++ [name], IsProper m) ∧ Glob.fits pattern name = true ∧
      q = done ++ (others ++ [name]) := by
  induction n generalizing dir done with
  | zero =>
    rw [hits_zero] at h
    cases h
  | succ n ih =>
    cases hisdir : dir.isDirectory with
    | false =>
      rw [hits_wild_none rfl hisdir] at h
      cases h
    | true =>
      cases hlist : fs.list dir.path with
      | error e =>
        rw [hits_wild_unlisted rfl hisdir hlist] at h
        cases List.mem_singleton.1 h
      | ok entries =>
        rw [hits_directories hne hisdir hlist] at h
        obtain ⟨⟨name, m⟩, hmem, h⟩ := List.mem_flatMap.1 h
        have hname : IsProper name := (names_of_list hfs hlist).2 _ hmem
        have hnext : (entrySpot fs dir.path name m).path = done ++ [name] := by
          rw [path_entrySpot, hdir.childPath hdone name]
        rcases List.mem_append.1 h with h | h
        · obtain ⟨rfl, name', hname', hfits⟩ := mem_named_last h
          rw [fileName?_entrySpot hname] at hname'
          obtain rfl := Option.some.inj hname'
          exact ⟨[], name, by simpa using hname, hfits, hnext⟩
        · have hnow : StandsFor (entrySpot fs dir.path name m).path (done ++ [name]) := by
            rw [hnext]
            exact StandsFor.itself (List.concat_ne_nil name done)
          obtain ⟨others, last, hproper, hfits, rfl⟩ :=
            ih hnow (hdone.append_proper hname) (mem_below h)
          refine ⟨name :: others, last, ?_, hfits, by simp⟩
          exact List.forall_mem_cons.2 ⟨hname, hproper⟩

/-- The entry that the listing of a directory has for a name on the way. -/
theorem exists_listed (hlists : ListsAll fs) (hdir : StandsFor dir.path done)
    (hknows : dir.Knows fs) (hdone : IsSpelled done)
    (hname : IsProper name) (h : fs.status followLast (done ++ [name]) = .ok node) :
    ∃ entries m, dir.isDirectory = true ∧ fs.list dir.path = .ok entries ∧ (name, m) ∈ entries ∧
      (entrySpot fs dir.path name m).path = done ++ [name] ∧
      (entrySpot fs dir.path name m).Knows fs := by
  obtain ⟨_, _, hstatus, _⟩ := hdir.status hdone h
  have hisdir : fs.isDirectory dir.path = true := isDirectory_iff.2 ⟨_, _, hstatus⟩
  obtain ⟨entries, hlist⟩ := hlists dir.path hisdir
  obtain ⟨m, hentry⟩ := hdir.entry hdone hname hlist h
  exact ⟨entries, m, hknows hisdir, hlist, hentry⟩

/-- Whatever has a name that fits is found behind names of directories. -/
theorem found_of_names (hne : pattern ≠ [.directories]) (hlists : ListsAll fs)
    (hdir : StandsFor dir.path done) (hknows : dir.Knows fs) (hdone : IsSpelled done)
    (hproper : ∀ m ∈ others ++ [name], IsProper m) (hfits : Glob.fits pattern name = true)
    (hn : others.length < n)
    (h : fs.status followLast (done ++ (others ++ [name])) = .ok node) :
    .found (done ++ (others ++ [name])) ∈ hits fs false n [[.directories], pattern] dir := by
  induction others generalizing dir done n with
  | nil =>
    obtain ⟨n, rfl⟩ : ∃ m, n = m + 1 := ⟨n - 1, by omega⟩
    have hname : IsProper name := hproper name (by simp)
    obtain ⟨entries, m, hisdir, hlist, hmem, hpath, _⟩ :=
      exists_listed hlists hdir hknows hdone hname h
    rw [hits_directories hne hisdir hlist]
    refine List.mem_flatMap.2 ⟨_, hmem, List.mem_append_left _ ?_⟩
    rw [named, fileName?_entrySpot hname]
    simp [hfits, onward, arrival, hpath]
  | cons first others ih =>
    obtain ⟨n, rfl⟩ : ∃ m, n = m + 1 := ⟨n - 1, by omega⟩
    obtain ⟨hfirst, hothers⟩ := List.forall_mem_cons.1 hproper
    have hnext : IsSpelled (done ++ [first]) := hdone.append_proper hfirst
    have htext := hnext.text_ne_nil (List.concat_ne_nil first done)
    rw [List.cons_append, List.append_cons] at h ⊢
    obtain ⟨_, _, hstep⟩ := status_of_append htext h
    obtain ⟨entries, m, hisdir, hlist, hmem, hpath, hknown⟩ :=
      exists_listed hlists hdir hknows hdone hfirst hstep
    have hnow : StandsFor (entrySpot fs dir.path first m).path (done ++ [first]) := by
      rw [hpath]
      exact StandsFor.itself (List.concat_ne_nil first done)
    have hdeeper : (entrySpot fs dir.path first m).isDirectory = true := by
      refine hknown ?_
      rw [hpath]
      exact isDirectory_of_status_append htext (List.concat_ne_nil name others) h
    rw [hits_directories hne hisdir hlist]
    refine List.mem_flatMap.2 ⟨_, hmem, List.mem_append_right _ ?_⟩
    rw [below, if_pos hdeeper]
    exact ih hnow hknown hnext hothers (by rw [List.length_cons] at hn; omega) h

end PluginAudit.Files

import Mathlib.Data.List.Induction
import PluginAudit.Files.Search

/-!
# Walking along paths

A walk along a path that goes on is a walk along its first part, to a directory, and one along the
rest. So what a path with several pieces names is in a directory, which the path without its last
piece names.
-/

namespace PluginAudit.Files

open Text

theorem Path.text_append_singleton {ps : Path} (h : ps ≠ []) (q : Name) :
    (ps ++ [q]).text = ps.text ++ '/' :: q := by
  induction ps with
  | nil => exact absurd rfl h
  | cons p ps ih =>
    cases ps with
    | nil => rfl
    | cons r ps =>
      have hrest := ih (List.cons_ne_nil r ps)
      simp only [List.cons_append] at hrest ⊢
      simp only [text, hrest, List.append_assoc, List.cons_append]

theorem Path.text_ne_nil {ps : Path} (h : ps ≠ []) (hempty : ps ≠ [[]]) : ps.text ≠ [] := by
  match ps with
  | [[]] => exact absurd rfl hempty
  | [c :: p] => exact List.cons_ne_nil c p
  | p :: r :: ps => simp [text]

theorem Path.ne_nil_of_text {ps : Path} (h : ps.text ≠ []) : ps ≠ [] := by
  rintro rfl
  exact h rfl

theorem Path.text_append_ne_nil {ps : Path} (h : ps.text ≠ []) (qs : Path) :
    (ps ++ qs).text ≠ [] := by
  refine text_ne_nil (List.append_ne_nil_of_left_ne_nil (ne_nil_of_text h) qs) fun heq => ?_
  rcases List.append_eq_singleton_iff.1 heq with ⟨rfl, _⟩ | ⟨rfl, _⟩ <;> exact h rfl

theorem Path.isAbsolute_append {ps : Path} (h : ps.text ≠ []) (qs : Path) :
    (ps ++ qs).isAbsolute = ps.isAbsolute := by
  match ps with
  | [] | [[]] => exact absurd rfl h
  | [c :: p] => rfl
  | [] :: r :: ps => rfl
  | (c :: p) :: r :: ps => rfl

namespace FileSystem

/-- Links are followed on the way, whether or not one at the end is. -/
theorem walk_append (root : Node) (links : Nat) (current ps : Path) :
    ∃ links', ∀ followLast qs, qs ≠ [] → walk root followLast links current (ps ++ qs) =
      (walk root true links current ps).bind fun place => walk root followLast links' place qs := by
  fun_induction walk root true links current ps with
  | case1 links current => exact ⟨links, fun _ _ _ => rfl⟩
  | case2 _ _ _ _ _ _ _ _ ih | case4 _ _ _ _ _ _ _ _ _ _ ih | case5 _ _ _ _ _ _ _ _ _ _ _ ih
  | case10 _ _ _ _ _ _ _ _ _ _ _ _ _ _ _ ih | case11 _ _ _ _ _ _ _ _ _ _ _ _ _ _ _ ih =>
    obtain ⟨links', ih⟩ := ih
    refine ⟨links', fun followLast qs hqs => ?_⟩
    rw [← ih followLast qs hqs, List.cons_append, walk]
    simp [*]
  | case3 | case6 | case7 | case9 | case12 =>
    refine ⟨0, fun followLast qs hqs => ?_⟩
    rw [List.cons_append, walk]
    simp [*, Except.bind]
  | case8 => simp at *

theorem walk_singleton {root : Node} {followLast : Bool} {links : Nat} {current place : Path}
    {q : Name} (h : walk root followLast links current [q] = .ok place) :
    ∃ entries access, root.at? current = some (.dir entries access) ∧
      (q ≠ [] → access.passing = none) := by
  rw [walk] at h
  split at h
  · next entries access hdir =>
    refine ⟨entries, access, hdir, fun hq => ?_⟩
    rw [if_neg (by simpa using hq)] at h
    split at h
    · cases h
    · next hpassing => exact hpassing
  · cases h

section

variable {root : Node} {followLast : Bool} {links : Nat} {current ps : Path}
  {entries : List (Name × Node)} {access : Access}

theorem walk_of_not_directory
    (h : ¬ ∃ entries access, root.at? current = some (.dir entries access)) (hps : ps ≠ []) :
    walk root followLast links current ps = .error .notDirectory := by
  obtain ⟨p, ps, rfl⟩ := List.exists_cons_of_ne_nil hps
  rw [walk]
  split
  · next entries access hdir => exact absurd ⟨entries, access, hdir⟩ h
  · rfl

/-- Empty pieces lead to where they are. -/
theorem walk_empty (hdir : root.at? current = some (.dir entries access)) :
    walk root followLast links current ([] :: ps) = walk root followLast links current ps := by
  rw [walk, hdir]
  rfl

/-- So does `.`, in a directory that can be passed. -/
theorem walk_here (hdir : root.at? current = some (.dir entries access))
    (hpassing : access.passing = none) :
    walk root followLast links current (['.'] :: ps) = walk root followLast links current ps := by
  rw [walk, hdir]
  simp [hpassing]

end

variable {fs : FileSystem} {followLast : Bool} {ps qs place : Path} {q : Name} {n : Node}

theorem place_append (fs : FileSystem) (hps : ps.text ≠ []) :
    ∃ links, ∀ followLast qs, qs ≠ [] → fs.place followLast (ps ++ qs) =
      (fs.place true ps).bind fun place => walk fs.root followLast links place qs := by
  obtain ⟨links, h⟩ := walk_append fs.root linkLimit (ps.origin fs.working) ps
  refine ⟨links, fun followLast qs hqs => ?_⟩
  have horigin : Path.origin (ps ++ qs) fs.working = ps.origin fs.working := by
    rw [Path.origin, Path.origin, Path.isAbsolute_append hps]
  rw [FileSystem.place, horigin]
  exact h followLast qs hqs

/-- What can be looked up at all: short enough, without NUL and not empty. -/
def Usable (path : Path) : Prop :=
  '\x00' ∉ path.text ∧ byteLength path.text < pathLimit ∧ path.text ≠ []

theorem resolve_eq_ok :
    fs.resolve followLast ps = .ok place ↔ Usable ps ∧ fs.place followLast ps = .ok place := by
  rw [resolve]
  constructor
  · intro h
    split at h
    · cases h
    · split at h
      · cases h
      · split at h
        · cases h
        · next hnul hlong hempty =>
          simp only [List.contains_iff_mem, Nat.not_le, List.isEmpty_iff] at hnul hlong hempty
          exact ⟨⟨hnul, hlong, hempty⟩, h⟩
  · rintro ⟨⟨hnul, hlong, hempty⟩, h⟩
    rw [if_neg (by simpa using hnul), if_neg (Nat.not_le.2 hlong), if_neg (by simpa using hempty)]
    exact h

theorem Usable.of_append_singleton (h : Usable (ps ++ [q])) (hps : ps.text ≠ []) : Usable ps := by
  obtain ⟨hnul, hlong, _⟩ := h
  rw [Path.text_append_singleton (Path.ne_nil_of_text hps)] at hnul hlong
  rw [byteLength_append] at hlong
  exact ⟨fun hmem => hnul (List.mem_append_left _ hmem), by omega, hps⟩

theorem Usable.slash (h : Usable (ps ++ [q])) (hps : ps ≠ []) : Usable (ps ++ [[]]) := by
  obtain ⟨hnul, hlong, _⟩ := h
  rw [Path.text_append_singleton hps] at hnul hlong
  rw [byteLength_append, byteLength_cons] at hlong
  refine ⟨?_, ?_, ?_⟩
  · rw [Path.text_append_singleton hps]
    intro hmem
    rcases List.mem_append.1 hmem with hmem | hmem
    · exact hnul (List.mem_append_left _ hmem)
    · cases List.mem_singleton.1 hmem
  · rw [Path.text_append_singleton hps, byteLength_append, byteLength_cons, byteLength_nil]
    omega
  · rw [Path.text_append_singleton hps]
    exact List.concat_ne_nil _ _

theorem status_eq_ok :
    fs.status followLast ps = .ok n ↔
      ∃ place, (Usable ps ∧ fs.place followLast ps = .ok place) ∧ fs.root.at? place = some n := by
  simp only [← resolve_eq_ok]
  rw [status]
  cases h : fs.resolve followLast ps with
  | error e => exact ⟨nofun, fun ⟨_, hresolve, _⟩ => nomatch hresolve⟩
  | ok place =>
    cases hnode : fs.root.at? place with
    | none =>
      refine ⟨fun h => ?_, fun ⟨place', hresolve, hnode'⟩ => ?_⟩
      · simp [bind, Except.bind, hnode, throw, throwThe, MonadExceptOf.throw] at h
      · cases hresolve
        rw [hnode] at hnode'
        cases hnode'
    | some m =>
      simp [bind, Except.bind, hnode, pure, Except.pure]

theorem Usable.of_status (h : fs.status followLast ps = .ok n) : Usable ps := by
  obtain ⟨_, ⟨husable, _⟩, _⟩ := status_eq_ok.1 h
  exact husable

/-- What is behind a path is in the directory that the path without its last piece names. -/
theorem status_append_singleton (h : fs.status followLast (ps ++ [q]) = .ok n)
    (hps : ps.text ≠ []) :
    ∃ entries access, fs.status true ps = .ok (.dir entries access) := by
  obtain ⟨place', ⟨husable, hplace⟩, _⟩ := status_eq_ok.1 h
  obtain ⟨links, happend⟩ := place_append fs hps
  rw [happend followLast [q] (List.cons_ne_nil q [])] at hplace
  cases hfirst : fs.place true ps with
  | error e =>
    rw [hfirst] at hplace
    cases hplace
  | ok dir =>
    rw [hfirst] at hplace
    obtain ⟨entries, access, hdir, _⟩ := walk_singleton hplace
    exact ⟨entries, access,
      status_eq_ok.2 ⟨dir, ⟨husable.of_append_singleton hps, hfirst⟩, hdir⟩⟩

theorem isDirectory_iff :
    fs.isDirectory ps = true ↔ ∃ entries access, fs.status true ps = .ok (.dir entries access) := by
  rw [isDirectory]
  cases fs.status true ps with
  | error e => simp
  | ok n => cases n <;> simp [Node.isDir]

/-- All paths on the way to something name directories. -/
theorem isDirectory_of_status_append (hps : ps.text ≠ []) (hqs : qs ≠ [])
    (h : fs.status followLast (ps ++ qs) = .ok n) : fs.isDirectory ps = true := by
  induction qs using List.reverseRecOn generalizing followLast n with
  | nil => exact absurd rfl hqs
  | append_singleton qs q ih =>
    rw [← List.append_assoc] at h
    have htext : (ps ++ qs).text ≠ [] := Path.text_append_ne_nil hps qs
    obtain ⟨entries, access, hdir⟩ := status_append_singleton h htext
    by_cases hlast : qs = []
    · rw [hlast, List.append_nil] at hdir
      exact isDirectory_iff.2 ⟨entries, access, hdir⟩
    · exact ih hlast hdir

theorem exists_of_status (h : fs.status followLast ps = .ok n) : fs.exists? ps = true := by
  cases followLast <;> simp [exists?, h, Except.toBool]

theorem list_eq_ok {entries : List (Name × Node)} :
    fs.list ps = .ok entries ↔
      ∃ passing, fs.status true ps = .ok (.dir entries ⟨none, passing⟩) := by
  rw [list]
  cases fs.status true ps with
  | error e => simp [Except.bind]
  | ok n =>
    match n with
    | .file .. | .link _ | .dir _ ⟨some _, _⟩ | .dir _ ⟨none, _⟩ => simp [Except.bind, Node.listed]

end FileSystem

end PluginAudit.Files

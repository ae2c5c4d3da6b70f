import PluginAudit.Proofs.Files.Prefixes
import PluginAudit.Proofs.Files.Spelled

/-!
# Searching below a root

A search with an escaped root in front goes along the pieces of the root as they are spelled, and
only there. A root that begins with an empty piece leads nowhere.
-/

namespace PluginAudit.Files

open Search

variable {fs : FileSystem} {mustBeDir : Bool} {n : Nat} {dir : Spot} {done todo pieces q : Path}
  {rest : List (List Glob)}

theorem hits_lost (hdir : dir.path = Path.here) :
    hits fs mustBeDir n (List.map Glob.itself [] :: rest) dir = [] := by
  cases n with
  | zero => exact hits_zero
  | succ n =>
    have hliteral : Glob.literal? [] = some [] := rfl
    have hnowhere : leadsTo fs dir [] = false := by
      rw [leadsTo, hdir]
      change fs.exists? [[]] = false
      simp [FileSystem.exists?, FileSystem.status, FileSystem.resolve, Path.text, pathLimit,
        bind, Except.bind, Except.toBool]
    rw [List.map_nil, hits_literal hliteral, hnowhere]
    rfl

/-- The pattern for a piece, and then others, finds paths from that piece on. -/
theorem onward_of_found (hfs : fs.root.WellFormed) {piece : Name}
    (h : .found q ∈ hits fs mustBeDir n (piece.map Glob.itself :: rest) dir) :
    ∃ m s, s.path = childPath dir.path piece ∧ .found q ∈ onward fs mustBeDir m rest s :=
  (onward_of_hit hfs h).resolve_right fun ⟨_, _, heq⟩ => nomatch heq

theorem standsFor_of_found (hfs : fs.root.WellFormed) (hdir : StandsFor dir.path done)
    (hdone : IsSpelled done)
    (hstart : done = [] → todo.head? ≠ some [] ∧ todo.head? ≠ some ['.'])
    (h : .found q ∈ onward fs mustBeDir n (todo.map (·.map Glob.itself) ++ rest) dir) :
    ∃ m s, StandsFor s.path (done ++ todo.filter (· ≠ [])) ∧
      .found q ∈ onward fs mustBeDir m rest s := by
  induction todo generalizing done dir n with
  | nil => exact ⟨n, dir, by simpa using hdir, h⟩
  | cons piece todo ih =>
    rw [List.map_cons, List.cons_append, onward_cons] at h
    obtain ⟨m, s, hs, hfound⟩ := onward_of_found hfs h
    rw [hdir.childPath hdone] at hs
    by_cases hempty : piece = []
    · subst hempty
      have hne : done ≠ [] := fun heq => (hstart heq).1 rfl
      have hnow : StandsFor s.path done := by
        rw [hs]
        exact StandsFor.slash hne
      rw [List.filter_cons_of_neg (by simp)]
      exact ih hnow hdone (fun heq => absurd heq hne) hfound
    · have hne : done ++ [piece] ≠ [] := List.concat_ne_nil piece done
      have hnext : IsSpelled (done ++ [piece]) := hdone.append_singleton hempty fun heq hhere =>
        (hstart heq).2 (congrArg some hhere)
      have hnow : StandsFor s.path (done ++ [piece]) := by
        rw [hs]
        exact StandsFor.itself hne
      rw [List.filter_cons_of_pos (by simpa using hempty), List.append_cons]
      exact ih hnow hnext (fun heq => absurd heq hne) hfound

/-- What is found behind the pieces of a root is found from the root on, which is not lost. -/
theorem spelled_of_found (hfs : fs.root.WellFormed) (hdir : dir.path = Path.here)
    (h : .found q ∈ onward fs mustBeDir n (pieces.map (·.map Glob.itself) ++ rest) dir) :
    ¬ pieces.IsLost ∧
      ∃ m s, StandsFor s.path pieces.spelled ∧ .found q ∈ onward fs mustBeDir m rest s := by
  induction pieces generalizing n dir with
  | nil => exact ⟨nofun, n, dir, .inl ⟨rfl, hdir⟩, h⟩
  | cons piece pieces ih =>
    by_cases hhere : piece = ['.']
    · subst hhere
      rw [List.map_cons, List.cons_append, onward_cons] at h
      obtain ⟨m, s, hs, hfound⟩ := onward_of_found hfs h
      rw [hdir] at hs
      exact ih hs hfound
    · have hempty : piece ≠ [] := by
        rintro rfl
        rw [List.map_cons, List.cons_append, onward_cons, hits_lost hdir] at h
        cases h
      have hstart : (piece :: pieces).head? ≠ some [] ∧ (piece :: pieces).head? ≠ some ['.'] :=
        ⟨by simpa using hempty, by simpa using hhere⟩
      have hbegin : StandsFor dir.path [] := .inl ⟨rfl, hdir⟩
      rw [Path.IsLost, Path.spelled, List.dropWhile_cons_of_neg (by simpa using hhere)]
      exact ⟨hstart.1, standsFor_of_found hfs hbegin IsSpelled.nil (fun _ => hstart) h⟩

end PluginAudit.Files

import PluginAudit.Proofs.Files.Entries
import PluginAudit.Proofs.Files.Escape
import PluginAudit.Proofs.Files.Hits

/-!
# Where hits lie

Each step of a search adds to the components of the path it is at. So the hits of a pattern with an
escaped path in front are below that path, but for a directory on the way that cannot be listed,
where a piece with special characters has to be looked for.
-/

namespace PluginAudit.Files

open Search

variable {fs : FileSystem} {mustBeDir : Bool} {n : Nat} {dir s : Spot} {hit : Hit}
  {patterns rest : List (List Glob)}

/-- A path names a link, wherever the link leads. -/
def FileSystem.isLink (fs : FileSystem) (p : Path) : Bool :=
  match fs.status false p with
  | .ok n => n.isLink
  | .error _ => false

theorem FileSystem.isLink_of_isRegularFile {p : Path} (h : fs.isRegularFile p = true) :
    fs.isLink p = false := by
  unfold isRegularFile at h
  unfold FileSystem.isLink
  cases hstatus : fs.status false p with
  | error e => rfl
  | ok n =>
    rw [hstatus] at h
    cases n with
    | link => cases h
    | file | dir => rfl

theorem prefix_of_hit {cs : List Path.Component} (n : Nat) :
    (∀ patterns dir hit, cs <+: dir.path.laterComponents →
      hit ∈ hits fs mustBeDir n patterns dir → cs <+: hit.path.laterComponents) ∧
    ∀ s patterns hit, cs <+: s.path.laterComponents →
      hit ∈ follow fs mustBeDir n (.candidate s patterns) → cs <+: hit.path.laterComponents := by
  have hchild : ∀ (dir : Path) name, cs <+: dir.laterComponents →
      cs <+: (childPath dir name).laterComponents := by
    intro dir name hdir
    rw [Path.laterComponents_childPath]
    exact hdir.trans (List.prefix_append _ _)
  have hasked : ∀ (dir : Spot) name, cs <+: dir.path.laterComponents →
      cs <+: (fs.spot (childPath dir.path name)).path.laterComponents ∧
        cs <+: (fs.spot (dir.path.join name)).path.laterComponents := by
    refine fun dir name hdir => ⟨hchild dir.path name hdir, ?_⟩
    change cs <+: (dir.path.join name).laterComponents
    rw [Path.laterComponents_join]
    exact hdir.trans (List.prefix_append _ _)
  have hlisted : ∀ (dir : Spot) entries (e : Name × Node), cs <+: dir.path.laterComponents →
      fs.list dir.path = .ok entries → e ∈ entries →
      cs <+: (entrySpot fs dir.path e.1 e.2).path.laterComponents := by
    intro dir entries e hdir _ _
    rw [path_entrySpot]
    exact hchild dir.path e.1 hdir
  constructor
  · intro patterns dir hit hdir h
    obtain ⟨t, ht, hhas⟩ := (hit_induction hasked hlisted n).1 patterns dir hit hdir h
    rwa [hhas.path_eq]
  · intro s patterns hit hs h
    obtain ⟨t, ht, hhas⟩ := (hit_induction hasked hlisted n).2 s patterns hit hs h
    rwa [hhas.path_eq]

/-- Hits are absolute exactly if the search begins at an absolute path. -/
theorem isAbsolute_of_hit (h : hit ∈ hits fs mustBeDir n patterns dir) :
    hit.path.isAbsolute = dir.path.isAbsolute := by
  obtain ⟨t, ht, hhas⟩ : ∃ t : Spot, t.path.isAbsolute = dir.path.isAbsolute ∧ HasHit fs t hit := by
    refine (hit_induction (P := (·.path.isAbsolute = dir.path.isAbsolute)) ?_ ?_ n).1
      patterns dir hit rfl h
    · exact fun s name hs => ⟨(Path.isAbsolute_childPath s.path name).trans hs,
        Path.isAbsolute_join.trans hs⟩
    · intro s entries e hs _ _
      rw [path_entrySpot, Path.isAbsolute_childPath, hs]
  rw [hhas.path_eq, ht]

/-- The pattern for a piece, and then others, has its hits from that piece on, unless the piece has
to be looked for in a directory that cannot be listed. -/
theorem onward_of_hit (hfs : fs.root.WellFormed) {piece : Name}
    (h : hit ∈ hits fs mustBeDir n (piece.map Glob.itself :: rest) dir) :
    (∃ m s, s.path = childPath dir.path piece ∧ hit ∈ onward fs mustBeDir m rest s) ∨
      piece.any Glob.isSpecial = true ∧ ∃ e, hit = .unlisted dir.path e := by
  cases n with
  | zero =>
    rw [hits_zero] at h
    cases h
  | succ n =>
    rcases mem_hits h with ⟨name, hname, h⟩ |
      ⟨hliteral, _, ⟨d, hd, _⟩ | ⟨entries, hlist, e, he, h⟩ | ⟨e, _, rfl⟩⟩
    · rw [Glob.literal?_itself hname] at h
      exact .inl ⟨_, _, rfl, h⟩
    · rw [← Glob.fits_itself.1 (fits_of_mem_fittingDots hd)] at hliteral
      rcases mem_fittingDots hd with rfl | rfl <;> cases hliteral
    · rw [follow_candidate_of_ne (Glob.itself_ne_directories piece)] at h
      obtain ⟨pattern, others, last, heq, hlast, hfits, hhit⟩ := mem_named h
      obtain ⟨rfl, rfl⟩ := List.cons.inj heq
      rw [fileName?_entrySpot ((names_of_list hfs hlist).2 e he)] at hlast
      obtain rfl := Option.some.inj hlast
      refine .inl ⟨_, _, ?_, hhit⟩
      rw [path_entrySpot, ← Glob.fits_itself.1 hfits]
    · exact .inr ⟨Glob.literal?_itself_eq_none hliteral, e, rfl⟩

/-- The hits of patterns for the pieces of a path, and then others, are below the path, but for a
directory before a piece with special characters. -/
theorem below_of_hit (hfs : fs.root.WellFormed) {pieces : Path}
    (h : hit ∈ onward fs mustBeDir n (pieces.map (·.map Glob.itself) ++ rest) dir) :
    dir.path.laterComponents ++ pieces.laterComponents <+: hit.path.laterComponents ∨
      ∃ before piece after e, pieces = before ++ piece :: after ∧
        piece.any Glob.isSpecial = true ∧ hit = .unlisted hit.path e ∧
        hit.path.laterComponents = dir.path.laterComponents ++ Path.laterComponents before := by
  induction pieces generalizing n dir with
  | nil =>
    have hnil : dir.path.laterComponents ++ Path.laterComponents [] = dir.path.laterComponents :=
      List.append_nil _
    rw [hnil]
    rcases mem_onward h with ⟨_, rfl⟩ | h
    · exact .inl (List.prefix_refl _)
    · exact .inl ((prefix_of_hit n).1 rest dir hit (List.prefix_refl _) h)
  | cons piece pieces ih =>
    rw [List.map_cons, List.cons_append, onward_cons] at h
    rcases onward_of_hit hfs h with ⟨m, s, hs, h⟩ | ⟨hspecial, e, rfl⟩
    · have hnext : s.path.laterComponents =
          dir.path.laterComponents ++ Path.laterComponents [piece] := by
        rw [hs, Path.laterComponents_childPath]
      rw [Path.laterComponents_cons piece pieces, ← List.append_assoc, ← hnext]
      rcases ih h with hbelow | ⟨before, other, after, e, rfl, hspecial, hhit, hpath⟩
      · exact .inl hbelow
      · refine .inr ⟨piece :: before, other, after, e, rfl, hspecial, hhit, ?_⟩
        rw [hpath, hnext, Path.laterComponents_cons piece before, List.append_assoc]
    · exact .inr ⟨[], piece, pieces, e, rfl, hspecial, rfl, (List.append_nil _).symm⟩

end PluginAudit.Files

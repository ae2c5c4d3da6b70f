import PluginAudit.Proofs.Plugin.Links

/-!
# Roots that look like patterns

A root stands for itself, whatever characters it has. It does not matter to whether a pattern can
be read, and what is found is below it and not below a directory that it would fit as a pattern. So
are the directories that a warning is about, but for those on the way to the root in which a piece
with special characters has to be looked for.
-/

namespace PluginAudit.Plugin

open Files Search

variable {fs : FileSystem} {root pattern : List Char} {d : Discovery} {p : Path}

theorem exists_discover_iff (fs : FileSystem) (root : List Char) :
    (∃ d, discover fs root pattern = .ok d) ↔ IsPattern (pattern.dropWhile (· == '/')) := by
  rw [← isPattern_escape_slash root, ← exists_search_iff fs]
  constructor
  · rintro ⟨d, hd⟩
    obtain ⟨hs, hsearch, -⟩ := files_of_discover hd
    exact ⟨hs, hsearch⟩
  · rintro ⟨hs, hsearch⟩
    exact ⟨_, discover_of_search hsearch⟩

/-- A path has the components of another one in front, whether or not with `.` before them. -/
def IsBelow (p dir : Path) : Prop :=
  dir.components.filter (· ≠ .here) <+: p.components.filter (· ≠ .here)

instance (p dir : Path) : Decidable (IsBelow p dir) := inferInstanceAs (Decidable (_ <+: _))

theorem BeginsAt.isBelow {pieces start ps : Path} (h : BeginsAt pieces start ps)
    (habsolute : p.isAbsolute = start.isAbsolute)
    (hunder : pieces.laterComponents <+: p.laterComponents) : IsBelow p pieces := by
  rw [IsBelow, Path.filter_components, Path.filter_components, habsolute]
  cases h with
  | @here q ps hq =>
    have hrelative : Path.isAbsolute (q :: ps) = false := by
      cases ps with
      | nil => exact Path.isAbsolute_singleton
      | cons r ps => exact Path.isAbsolute_cons_cons.trans (List.isEmpty_eq_false_iff.2 hq)
    rw [hrelative]
    exact hunder
  | @top ps =>
    cases ps with
    | nil => exact List.nil_prefix
    | cons r ps => exact (List.prefix_append_right_inj [.root]).2 hunder
  | slash => exact List.nil_prefix

/-- The pieces before one that is not empty are those of the path up to it. -/
theorem BeginsAt.exists_before {pieces start before after : Path} {piece : Name}
    (h : BeginsAt pieces start (before ++ piece :: after)) (hpiece : piece ≠ []) :
    ∃ before', pieces = before' ++ piece :: after ∧
      Path.laterComponents before' = Path.laterComponents before ∧
      Path.isAbsolute (before' ++ [[]]) = start.isAbsolute := by
  generalize hps : before ++ piece :: after = ps at h
  cases h with
  | @here p ps hp =>
    refine ⟨before, hps.symm, rfl, ?_⟩
    match before with
    | [] => rfl
    | q :: qs =>
      obtain rfl : q = p := (List.cons.inj hps).1
      cases qs <;> exact Path.isAbsolute_cons_cons.trans (List.isEmpty_eq_false_iff.2 hp)
  | top =>
    refine ⟨[] :: before, by rw [← hps]; rfl, rfl, ?_⟩
    cases before <;> rfl
  | slash =>
    rcases List.append_eq_singleton_iff.1 hps with ⟨_, heq⟩ | ⟨_, heq⟩
    · exact absurd (List.cons.inj heq).1 hpiece
    · cases heq

/-- A directory on the way to a root, before a piece with special characters. -/
def IsBeforeSpecial (p root : Path) : Prop :=
  ∃ before piece after, root = before ++ piece :: after ∧ piece.any Glob.isSpecial = true ∧
    p.components.filter (· ≠ .here) = (Path.components (before ++ [[]])).filter (· ≠ .here)

theorem isBelow_of_search {hs : List Hit} {hit : Hit} (hfs : fs.root.WellFormed)
    (hsearch : search fs (fullPattern root pattern) = .ok hs) (hhit : hit ∈ hs) :
    IsBelow hit.path (Path.split root) ∨
      IsBeforeSpecial hit.path (Path.split root) ∧ ∃ e, hit = .unlisted hit.path e := by
  obtain ⟨start, ps, hbegins, habsolute, hbelow⟩ := below_of_search hfs hsearch hhit
  rcases hbelow with hbelow | ⟨before, piece, after, e, rfl, hspecial, heq, hpath⟩
  · exact .inl (hbegins.isBelow habsolute hbelow)
  · have hpiece : piece ≠ [] := by
      rintro rfl
      cases hspecial
    obtain ⟨before', hsplit, hlater, hstart⟩ := hbegins.exists_before hpiece
    refine .inr ⟨⟨before', piece, after, hsplit, hspecial, ?_⟩, e, heq⟩
    rw [Path.filter_components, Path.filter_components, habsolute, hstart, hpath, ← hlater,
      Path.laterComponents_append]
    exact congrArg _ (List.append_nil _).symm

/-- Whether a pattern is refused depends on nothing but the pattern. If it is not, each path that
fits it begins with the components of the root. So does the path of each warning, or it is that of a
directory on the way to the root, before a piece with special characters. -/
theorem discover_literal_root (pattern : List Char) :
    (∀ fs root, (∃ e, discover fs root pattern = .error e) ↔
      ¬ IsPattern (pattern.dropWhile (· == '/'))) ∧
    ∀ fs root d, fs.root.WellFormed → discover fs root pattern = .ok d →
      (∀ p ∈ d.files ++ d.skipped, IsBelow p (Path.split root)) ∧
      ∀ w ∈ d.warnings, ∃ p e, warning? (.unlisted p e) = some w ∧ fs.list p = .error e ∧
        (IsBelow p (Path.split root) ∨ IsBeforeSpecial p (Path.split root)) := by
  refine ⟨fun fs root => ?_, fun fs root d hfs hd => ?_⟩
  · rw [← exists_discover_iff fs root]
    cases discover fs root pattern <;> simp
  · obtain ⟨hs, hsearch, _⟩ := files_of_discover hd
    constructor
    · intro p hp
      have hfound : .found p ∈ hs := (mem_discovery hsearch hd).1 hp
      exact (isBelow_of_search hfs hsearch hfound).resolve_right fun ⟨_, _, heq⟩ => nomatch heq
    · intro w hw
      obtain ⟨p, e, hunlisted, hwarning⟩ := mem_warnings hsearch hd hw
      obtain ⟨_, _, _, _, _, _, rfl⟩ := begins_of_search hsearch
      exact ⟨p, e, hwarning, list_of_unlisted hunlisted,
        (isBelow_of_search hfs hsearch hunlisted).imp_right And.left⟩

/-- A directory that cannot be listed, with a root in it that has a name like a pattern. -/
def lockedTree : FileSystem :=
  .ofWorkingDirectory <| .dir
    [("d".toList, .dir [("p*".toList, .dir [("a.js".toList, .file .empty)])]
      { reading := some .permissionDenied })]

/-- The root has to be looked for in the directory before it, and the warning is about that one. -/
theorem warning_before_root :
    discover lockedTree "d/p*".toList "*.js".toList =
      .ok ⟨[], [], [⟨"d", "cannot read directory entry: Permission denied (os error 13)"⟩]⟩ ∧
    ¬ IsBelow (.ofString "d") (.ofString "d/p*") := by
  refine ⟨?_, by decide⟩
  cbv

/-- A directory named like a pattern, with one in it that cannot be listed, and a directory that has
a name which fits. -/
def wildcardTree : FileSystem :=
  .ofWorkingDirectory <| .dir
    [("p*".toList, .dir [("b.js".toList, .file .empty)]),
      ("p[*]".toList, .dir [("a.js".toList, .file .empty),
        ("s".toList, .dir [("c.js".toList, .file .empty)] { reading := some .permissionDenied })])]

theorem wellFormed_wildcardTree : wildcardTree.root.WellFormed := by
  have hinner : (Node.dir [("a.js".toList, .file .empty), ("s".toList, .dir
      [("c.js".toList, .file .empty)] { reading := some .permissionDenied })]).WellFormed := by
    refine .dir (by decide) (by decide) ?_
    simp only [List.forall_mem_cons]
    exact ⟨.file, .singleton (by decide) .file, nofun⟩
  refine .singleton (by decide) (.dir (by decide) (by decide) ?_)
  simp only [List.forall_mem_cons]
  exact ⟨.singleton (by decide) .file, hinner, nofun⟩

theorem discover_literal_root_wildcard :
    wildcardTree.root.WellFormed ∧
      discover wildcardTree "./p[*]".toList "**/*.js".toList =
        .ok ⟨[.ofString "p[*]/a.js"], [],
          [⟨"p[*]/s", "cannot read directory entry: Permission denied (os error 13)"⟩]⟩ ∧
      IsBelow (.ofString "p[*]/a.js") (.ofString "./p[*]") ∧
      (∃ p e, warning? (.unlisted p e) =
          some ⟨"p[*]/s", "cannot read directory entry: Permission denied (os error 13)"⟩ ∧
        wildcardTree.list p = .error e ∧
        (IsBelow p (.ofString "./p[*]") ∨ IsBeforeSpecial p (.ofString "./p[*]"))) ∧
      ∃ e, discover wildcardTree "./p[*]".toList "[.js".toList = .error e := by
  have hd : discover wildcardTree "./p[*]".toList "**/*.js".toList =
      .ok ⟨[.ofString "p[*]/a.js"], [],
        [⟨"p[*]/s", "cannot read directory entry: Permission denied (os error 13)"⟩]⟩ := by cbv
  have hread : Glob.read ("[.js".toList.dropWhile (· == '/')) = .error ⟨.set, 0⟩ := by decide
  obtain ⟨hfiles, hwarnings⟩ :=
    (discover_literal_root _).2 _ _ _ wellFormed_wildcardTree hd
  refine ⟨wellFormed_wildcardTree, hd, hfiles _ (List.mem_singleton_self _),
    hwarnings _ (List.mem_singleton_self _), ((discover_literal_root _).1 _ _).2 ?_⟩
  rintro ⟨⟨gs, hgs⟩, -⟩
  rw [hread] at hgs
  cases hgs

end PluginAudit.Plugin

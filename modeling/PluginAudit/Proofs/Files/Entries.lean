import PluginAudit.Proofs.Files.Components

/-!
# Entries of directories

The path of a name in a directory names the entry with this name, if the directory can be passed and
the path can be looked up. So what a listing says of an entry is what the path of the entry names.
-/

namespace PluginAudit.Files

open Search Text

namespace FileSystem

section

variable {root node : Node} {followLast : Bool} {links : Nat} {current place ps : Path}
  {name : Name} {entries : List (Name × Node)} {access : Access}

theorem walk_here_of_ok (h : walk root followLast links current (['.'] :: ps) = .ok place) :
    walk root followLast links current ps = .ok place := by
  rw [walk] at h
  split at h
  · split at h
    · next hempty => cases hempty
    · split at h
      · cases h
      · exact h
  · cases h

theorem walk_empty_of_ok (h : walk root followLast links current ([] :: ps) = .ok place) :
    walk root followLast links current ps = .ok place := by
  rw [walk] at h
  split at h
  · exact h
  · cases h

/-- Pieces that are no components lead nowhere else. -/
theorem walk_stays (hps : Path.laterComponents ps = [])
    (h : walk root followLast links current ps = .ok place) : place = current := by
  induction ps with
  | nil =>
    rw [walk] at h
    exact (Except.ok.inj h).symm
  | cons p ps ih =>
    rw [Path.laterComponents_cons, List.append_eq_nil_iff] at hps
    have hp : p = [] ∨ p = ['.'] := by
      by_contra hne
      rw [not_or] at hne
      have hsome := hps.1
      by_cases hparent : p = ['.', '.'] <;> simp [Path.laterComponents, hne, hparent] at hsome
    rcases hp with rfl | rfl
    · exact ih hps.2 (walk_empty_of_ok h)
    · exact ih hps.2 (walk_here_of_ok h)

/-- A step to an entry that is no link. -/
theorem walk_entry (hname : IsProper name) (hdir : root.at? current = some (.dir entries access))
    (hlookup : entries.lookup name = some node) (hlink : node.isLink = false) :
    walk root followLast links current [name] = .ok place ↔
      access.passing = none ∧ byteLength name ≤ nameLimit ∧ place = current ++ [name] := by
  obtain ⟨hempty, hdots⟩ := hname
  rw [Search.isDots, Bool.or_eq_false_iff] at hdots
  rw [walk, hdir]
  simp only [List.isEmpty_iff, hempty, hdots.1, hdots.2, hlookup, Bool.false_eq_true, if_false]
  cases access.passing with
  | some e => simp
  | none =>
    by_cases hlong : nameLimit < byteLength name
    · simp [hlong, Nat.not_le.2 hlong]
    · cases node with
      | link => cases hlink
      | file | dir => simp [hlong, Nat.not_lt.1 hlong, walk, eq_comm]

theorem exists_entry_of_walk (hname : IsProper name)
    (hdir : root.at? current = some (.dir entries access))
    (h : walk root followLast links current [name] = .ok place) :
    ∃ node, entries.lookup name = some node := by
  obtain ⟨hempty, hdots⟩ := hname
  rw [Search.isDots, Bool.or_eq_false_iff] at hdots
  rw [walk, hdir] at h
  simp only [List.isEmpty_iff, hempty, hdots.1, hdots.2, Bool.false_eq_true, if_false] at h
  cases hlookup : entries.lookup name with
  | some node => exact ⟨node, rfl⟩
  | none =>
    rw [hlookup] at h
    split at h
    · cases h
    · split at h <;> cases h

end

variable {fs : FileSystem} {followLast : Bool} {dir at' : Path} {name : Name} {n node : Node}
  {entries : List (Name × Node)} {access : Access}

theorem place_append_singleton {ps : Path} (name : Name) (htext : ps.text ≠ [])
    (h : fs.place true ps = .ok at') :
    ∃ links, ∀ followLast, fs.place followLast (ps ++ [name]) =
      walk fs.root followLast links at' [name] := by
  obtain ⟨links, happend⟩ := place_append fs htext
  refine ⟨links, fun followLast => ?_⟩
  rw [happend followLast [name] (List.cons_ne_nil name []), h]
  rfl

/-- A slash behind a path leads nowhere else. -/
theorem place_of_slash {ps : Path} (htext : ps.text ≠ [])
    (h : fs.place true (ps ++ [[]]) = .ok at') : fs.place true ps = .ok at' := by
  obtain ⟨links, happend⟩ := place_append fs htext
  rw [happend true [[]] (List.cons_ne_nil [] [])] at h
  cases hplace : fs.place true ps with
  | error e =>
    rw [hplace] at h
    cases h
  | ok place =>
    rw [hplace] at h
    have hstays : walk fs.root true links place [] = .ok at' := walk_empty_of_ok h
    rwa [walk] at hstays

/-- The way to a name in the root is one step from it. -/
theorem place_below_root (name : Name) (h : fs.place true [[], []] = .ok at') (followLast : Bool) :
    fs.place followLast [[], name] = walk fs.root followLast linkLimit at' [name] := by
  have hplace : walk fs.root true linkLimit [] [[], []] = .ok at' := h
  have hstays : walk fs.root true linkLimit [] [] = .ok at' :=
    walk_empty_of_ok (walk_empty_of_ok hplace)
  rw [walk] at hstays
  obtain rfl := Except.ok.inj hstays
  obtain ⟨entries, access, hat, _⟩ := walk_singleton (walk_empty_of_ok hplace)
  exact walk_empty hat

/-- The way to a name in a directory is one step from the place of the directory. -/
theorem place_childPath (name : Name) (hdir : fs.place true dir = .ok at') (htext : dir.text ≠ []) :
    ∃ links, ∀ followLast, fs.place followLast (childPath dir name) =
      walk fs.root followLast links at' [name] := by
  rw [childPath]
  split
  · next hhere =>
    have hrelative : Path.isAbsolute dir = false := Path.isAbsolute_of_isHere hhere
    rw [place, Path.origin, hrelative, if_neg Bool.false_ne_true] at hdir
    obtain rfl := walk_stays (Path.laterComponents_of_isHere hhere) hdir
    refine ⟨linkLimit, fun followLast => ?_⟩
    rw [place, Path.origin, Path.isAbsolute_singleton, if_neg Bool.false_ne_true]
  · rcases Path.join_eq (n := name) (Path.ne_nil_of_text htext) with hjoin | ⟨ps, rfl, hjoin⟩
    · rw [hjoin]
      exact place_append_singleton name htext hdir
    · rw [hjoin]
      have hne : ps ≠ [] := fun hnil => htext (by rw [hnil]; rfl)
      by_cases hroot : ps = [[]]
      · subst hroot
        exact ⟨linkLimit, place_below_root name hdir⟩
      · have hps := Path.text_ne_nil hne hroot
        exact place_append_singleton name hps (place_of_slash hps hdir)

theorem status_childPath (hname : IsProper name)
    (hdir : fs.status true dir = .ok (.dir entries access))
    (hlookup : entries.lookup name = some node) (hlink : node.isLink = false) :
    fs.status followLast (childPath dir name) = .ok n ↔
      Usable (childPath dir name) ∧ access.passing = none ∧ byteLength name ≤ nameLimit ∧
        n = node := by
  obtain ⟨place, ⟨husable, hplace⟩, hat⟩ := status_eq_ok.1 hdir
  obtain ⟨links, hchild⟩ := place_childPath name hplace husable.2.2
  have hbelow : fs.root.at? (place ++ [name]) = some node := by
    rw [Node.at?_append, hat]
    simp [Node.at?, hlookup]
  simp only [status_eq_ok, hchild, walk_entry hname hat hlookup hlink]
  constructor
  · rintro ⟨_, ⟨husable, hpassing, hshort, rfl⟩, hn⟩
    exact ⟨husable, hpassing, hshort, Option.some.inj (hn.symm.trans hbelow)⟩
  · rintro ⟨husable, hpassing, hshort, rfl⟩
    exact ⟨_, ⟨husable, hpassing, hshort, rfl⟩, hbelow⟩

theorem exists_entry (hname : IsProper name)
    (hdir : fs.status true dir = .ok (.dir entries access))
    (h : fs.status followLast (childPath dir name) = .ok n) :
    ∃ node, entries.lookup name = some node := by
  obtain ⟨place, ⟨husable, hplace⟩, hat⟩ := status_eq_ok.1 hdir
  obtain ⟨links, hchild⟩ := place_childPath name hplace husable.2.2
  obtain ⟨place', ⟨_, hplace'⟩, _⟩ := status_eq_ok.1 h
  rw [hchild] at hplace'
  exact exists_entry_of_walk hname hat hplace'

end FileSystem

/-! ## Spots of entries -/

theorem path_entrySpot (fs : FileSystem) (dir : Path) (name : Name) (n : Node) :
    (entrySpot fs dir name n).path = childPath dir name := by
  rw [entrySpot]
  split <;> rfl

theorem fileName?_entrySpot {name : Name} (h : IsProper name) (fs : FileSystem) (dir : Path)
    (n : Node) : (entrySpot fs dir name n).path.fileName? = some name := by
  rw [path_entrySpot, fileName?_childPath h]

/-- A search takes the spot for a directory if it is one. -/
def Spot.Knows (fs : FileSystem) (s : Spot) : Prop :=
  fs.isDirectory s.path = true → s.isDirectory = true

theorem Spot.knows_spot (fs : FileSystem) (p : Path) : (fs.spot p).Knows fs := id

section

variable {fs : FileSystem} {dir : Path} {name : Name} {node : Node} {entries : List (Name × Node)}
  {access : Access}

/-- A listing tells which entries are directories. -/
theorem Spot.knows_entrySpot (hname : IsProper name)
    (hdir : fs.status true dir = .ok (.dir entries access))
    (hlookup : entries.lookup name = some node) : (entrySpot fs dir name node).Knows fs := by
  intro h
  rw [path_entrySpot] at h
  rw [entrySpot]
  split
  · exact h
  · next hlink =>
    obtain ⟨_, _, hstatus⟩ := FileSystem.isDirectory_iff.1 h
    obtain ⟨_, _, _, rfl⟩ :=
      (FileSystem.status_childPath hname hdir hlookup (by simpa using hlink)).1 hstatus
    rfl

end

/-- A name that comes once is looked up where it stands. -/
theorem lookup_of_mem {entries : List (Name × Node)} (hnodup : (entries.map (·.1)).Nodup)
    {e : Name × Node} (he : e ∈ entries) : entries.lookup e.1 = some e.2 := by
  obtain ⟨before, after, rfl⟩ := List.append_of_mem he
  refine List.lookup_eq_some_iff.2 ⟨before, after, rfl, fun other hother => ?_⟩
  rw [List.map_append, List.nodup_append] at hnodup
  have hne := hnodup.2.2 other.1 (List.mem_map_of_mem hother) e.1 (by simp)
  simpa using Ne.symm hne

end PluginAudit.Files

import PluginAudit.Proofs.Files.Walking

/-!
# Components of found paths

Going from a directory to something in it adds the components of the name, whatever the spelling of
the directory.
-/

namespace PluginAudit.Files

namespace Path

variable {p q dir : Path} {n : Name} {c : Component}

theorem laterComponents_append (p q : Path) :
    laterComponents (p ++ q) = p.laterComponents ++ q.laterComponents :=
  List.filterMap_append

theorem laterComponents_cons (n : Name) (p : Path) :
    laterComponents (n :: p) = laterComponents [n] ++ p.laterComponents :=
  laterComponents_append [n] p

theorem join_eq {n : Name} (h : dir ≠ []) :
    dir.join n = dir ++ [n] ∨ ∃ ps, dir = ps ++ [[]] ∧ dir.join n = ps ++ [n] := by
  fun_induction join dir n with
  | case1 => exact absurd rfl h
  | case2 n => exact .inr ⟨[], rfl, rfl⟩
  | case3 => exact .inl rfl
  | case4 p r ps n ih =>
    rcases ih (List.cons_ne_nil r ps) with heq | ⟨qs, heq, hjoin⟩
    · exact .inl (by rw [heq]; rfl)
    · exact .inr ⟨p :: qs, by rw [heq]; rfl, by rw [hjoin]; rfl⟩

theorem laterComponents_join (dir : Path) (n : Name) :
    (dir.join n).laterComponents = dir.laterComponents ++ laterComponents [n] := by
  fun_induction join dir n with
  | case1 n | case2 n => rfl
  | case3 p n hp => exact laterComponents_append [p] [n]
  | case4 p r ps n ih => rw [laterComponents_cons, ih, ← List.append_assoc, ← laterComponents_cons]

theorem components_of_ne {ps : Path} (hempty : n ≠ []) (hhere : n ≠ ['.']) :
    components (n :: ps) = laterComponents (n :: ps) := by
  obtain ⟨c, cs, rfl⟩ := List.exists_cons_of_ne_nil hempty
  rw [components, beq_false_of_ne hhere]
  · rfl
  · simp

/-- The components of a path but for a first one that says where it begins. -/
theorem components_cases (p : Path) :
    p.components = p.laterComponents ∨ p.components = .root :: p.laterComponents ∨
      p.components = .here :: p.laterComponents := by
  match p with
  | [] => exact .inl rfl
  | [[]] => exact .inl rfl
  | [] :: r :: ps => exact .inr (.inl rfl)
  | (a :: as) :: ps =>
    by_cases hdot : a :: as = ['.']
    · rw [hdot]
      exact .inr (.inr rfl)
    · exact .inl (components_of_ne (List.cons_ne_nil a as) hdot)

theorem here_notMem_laterComponents : .here ∉ p.laterComponents ∧ .root ∉ p.laterComponents := by
  simp only [laterComponents, List.mem_filterMap, not_exists, not_and]
  constructor <;>
  · intro n _ h
    split at h
    · cases h
    · split at h <;> cases h

theorem laterComponents_of_isHere (h : p.isHere = true) : p.laterComponents = [] := by
  have hcomponents : p.components = [.here] := beq_iff_eq.1 h
  obtain ⟨hhere, hroot⟩ := here_notMem_laterComponents (p := p)
  rcases components_cases p with heq | heq | heq
  · rw [← heq, hcomponents] at hhere
    exact absurd List.mem_cons_self hhere
  · rw [heq] at hcomponents
    cases hcomponents
  · rw [heq] at hcomponents
    exact (List.cons.inj hcomponents).2

theorem laterComponents_childPath (dir : Path) (n : Name) :
    (Search.childPath dir n).laterComponents = dir.laterComponents ++ laterComponents [n] := by
  rw [Search.childPath]
  split
  · next h => rw [laterComponents_of_isHere h, List.nil_append]
  · exact laterComponents_join dir n

theorem isAbsolute_singleton : isAbsolute [n] = false := by
  cases n <;> rfl

theorem isAbsolute_cons_cons {q : Name} {ps : Path} : isAbsolute (n :: q :: ps) = n.isEmpty := by
  cases n <;> rfl

theorem isAbsolute_of_notMem (h : [] ∉ p) : p.isAbsolute = false := by
  match p with
  | [] => rfl
  | [n] => exact isAbsolute_singleton
  | [] :: _ :: _ => exact absurd List.mem_cons_self h
  | (_ :: _) :: _ :: _ => rfl

theorem isAbsolute_join : (p.join n).isAbsolute = p.isAbsolute := by
  fun_cases join p n with
  | case1 | case2 => exact isAbsolute_singleton
  | case3 p n hp =>
    rw [isAbsolute_singleton, isAbsolute_cons_cons, List.isEmpty_eq_false_iff]
    rintro rfl
    exact hp rfl
  | case4 p q ps n =>
    obtain ⟨r, rs, hjoin⟩ : ∃ r rs, join (q :: ps) n = r :: rs := by
      fun_cases join (q :: ps) n <;> exact ⟨_, _, rfl⟩
    rw [hjoin, isAbsolute_cons_cons, isAbsolute_cons_cons]

theorem isAbsolute_of_isHere (h : p.isHere = true) : p.isAbsolute = false := by
  have hcomponents : p.components = [.here] := beq_iff_eq.1 h
  match p with
  | [] => rfl
  | [n] => exact isAbsolute_singleton
  | [] :: _ :: _ => cases hcomponents
  | (_ :: _) :: _ :: _ => rfl

theorem isAbsolute_childPath (dir : Path) (n : Name) :
    (Search.childPath dir n).isAbsolute = dir.isAbsolute := by
  rw [Search.childPath]
  split
  · next h => rw [isAbsolute_singleton, isAbsolute_of_isHere h]
  · exact isAbsolute_join

theorem filter_laterComponents (p : Path) :
    p.laterComponents.filter (· ≠ .here) = p.laterComponents := by
  rw [List.filter_eq_self]
  intro c hc
  have hne : c ≠ .here := by
    rintro rfl
    exact here_notMem_laterComponents.1 hc
  simpa using hne

/-- The components of a path, but for `.`. -/
theorem filter_components (p : Path) :
    p.components.filter (· ≠ .here) =
      (if p.isAbsolute then [.root] else []) ++ p.laterComponents := by
  match p with
  | [] | [[]] => rfl
  | [] :: r :: ps =>
    change List.filter _ (.root :: laterComponents (r :: ps)) = .root :: laterComponents (r :: ps)
    rw [List.filter_cons_of_pos (by simp), filter_laterComponents]
  | (c :: cs) :: ps =>
    have habsolute : isAbsolute ((c :: cs) :: ps) = false := by
      cases ps <;> rfl
    rw [habsolute, if_neg Bool.false_ne_true, List.nil_append]
    by_cases hdot : c :: cs = ['.']
    · rw [hdot]
      change List.filter _ (.here :: laterComponents ps) = laterComponents ps
      rw [List.filter_cons_of_neg (by simp), filter_laterComponents]
    · rw [components_of_ne (List.cons_ne_nil c cs) hdot, filter_laterComponents]

theorem laterComponents_eq_of_components_eq (h : p.components = q.components) :
    p.laterComponents = q.laterComponents := by
  have hfilter : ∀ r : Path, r.components.filter (2 ≤ ·.rank) = r.laterComponents := by
    intro r
    obtain ⟨hhere, hroot⟩ := here_notMem_laterComponents (p := r)
    have hall : r.laterComponents.filter (2 ≤ ·.rank) = r.laterComponents := by
      rw [List.filter_eq_self]
      rintro (_ | _ | _ | _) hc
      · exact absurd hc hroot
      · exact absurd hc hhere
      · rfl
      · rfl
    rcases components_cases r with heq | heq | heq <;> rw [heq]
    · exact hall
    · exact hall
    · exact hall
  rw [← hfilter p, h, hfilter q]

theorem fileName?_eq_some_iff :
    p.fileName? = some n ↔ p.laterComponents.getLast? = some (.name n) := by
  have hlast : p.components.getLast? = some (.name n) ↔
      p.laterComponents.getLast? = some (.name n) := by
    rcases components_cases p with heq | heq | heq <;> rw [heq]
    · cases p.laterComponents <;> simp [List.getLast?_cons]
    · cases p.laterComponents <;> simp [List.getLast?_cons]
  rw [← hlast, fileName?]
  split
  · next m hm => simp [hm]
  · next hnone => exact iff_of_false nofun (hnone n)

end Path

/-- A name that something in a directory can have. -/
def IsProper (n : Name) : Prop := n ≠ [] ∧ Search.isDots n = false

instance (n : Name) : Decidable (IsProper n) := inferInstanceAs (Decidable (_ ∧ _))

theorem laterComponents_of_isProper {n : Name} (h : IsProper n) :
    Path.laterComponents [n] = [.name n] := by
  obtain ⟨hempty, hdots⟩ := h
  rw [Search.isDots, Bool.or_eq_false_iff, beq_eq_false_iff_ne, beq_eq_false_iff_ne] at hdots
  simp [Path.laterComponents, hempty, hdots.1, hdots.2]

theorem fileName?_childPath {n : Name} (h : IsProper n) (dir : Path) :
    (Search.childPath dir n).fileName? = some n := by
  rw [Path.fileName?_eq_some_iff, Path.laterComponents_childPath, laterComponents_of_isProper h,
    List.getLast?_concat]

/-! ## Well-formed trees -/

/-- In each directory the names are proper and no two are the same. -/
inductive Node.WellFormed : Node → Prop
  | file {bytes : ByteArray} {access : Access} : WellFormed (.file bytes access)
  | link {target : Path} : WellFormed (.link target)
  | dir {entries : List (Name × Node)} {access : Access} (hnodup : (entries.map (·.1)).Nodup)
      (hproper : ∀ e ∈ entries, IsProper e.1) (h : ∀ e ∈ entries, WellFormed e.2) :
      WellFormed (.dir entries access)

theorem Node.WellFormed.singleton {name : Name} {n : Node} {access : Access}
    (hname : IsProper name) (h : n.WellFormed) : (Node.dir [(name, n)] access).WellFormed :=
  .dir (List.pairwise_singleton _ name) (List.forall_mem_singleton.2 hname)
    (List.forall_mem_singleton.2 h)

theorem Node.at?_append (n : Node) (ps qs : Path) :
    n.at? (ps ++ qs) = (n.at? ps).bind (·.at? qs) := by
  induction ps generalizing n with
  | nil => rfl
  | cons p ps ih =>
    cases n with
    | file | link => rfl
    | dir entries =>
      simp only [List.cons_append, Node.at?, Option.bind_assoc]
      exact Option.bind_congr fun next _ => ih next

/-- What a directory hands down to its entries holds of all nodes below. -/
theorem Node.at?_induction {P : Node → Prop} {n m : Node} {path : Path}
    (hentry : ∀ entries access, P (.dir entries access) → ∀ e ∈ entries, P e.2) (h : P n)
    (hat : n.at? path = some m) : P m := by
  induction path generalizing n with
  | nil =>
    obtain rfl := Option.some.inj hat
    exact h
  | cons p ps ih =>
    cases n with
    | file | link => cases hat
    | dir entries =>
      obtain ⟨next, hlookup, hbelow⟩ := Option.bind_eq_some_iff.1 hat
      obtain ⟨l₁, l₂, rfl, _⟩ := List.lookup_eq_some_iff.1 hlookup
      exact ih (hentry _ _ h (p, next) (by simp)) hbelow

theorem Node.WellFormed.entry {entries : List (Name × Node)} {access : Access}
    (h : (Node.dir entries access).WellFormed) : ∀ e ∈ entries, e.2.WellFormed := by
  cases h with
  | dir _ _ hentries => exact hentries

theorem Node.WellFormed.at? {n m : Node} (h : n.WellFormed) {path : Path}
    (hat : n.at? path = some m) : m.WellFormed :=
  Node.at?_induction (fun _ _ hdir => hdir.entry) h hat

theorem Node.WellFormed.proper_of_at? {n m : Node} (h : n.WellFormed) {path : Path}
    (hat : n.at? path = some m) : ∀ p ∈ path, IsProper p := by
  induction path generalizing n with
  | nil => exact nofun
  | cons p ps ih =>
    cases h with
    | file | link => cases hat
    | @dir entries _ _ hproper hentries =>
      obtain ⟨next, hlookup, hbelow⟩ := Option.bind_eq_some_iff.1 hat
      obtain ⟨l₁, l₂, rfl, _⟩ := List.lookup_eq_some_iff.1 hlookup
      have hmem : (p, next) ∈ l₁ ++ (p, next) :: l₂ := by simp
      exact List.forall_mem_cons.2 ⟨hproper _ hmem, ih (hentries _ hmem) hbelow⟩

/-- Directories list proper names, each once. -/
theorem names_of_list {fs : FileSystem} {dir : Path} {entries : List (Name × Node)}
    (hfs : fs.root.WellFormed) (h : fs.list dir = .ok entries) :
    (entries.map (·.1)).Nodup ∧ ∀ e ∈ entries, IsProper e.1 := by
  obtain ⟨passing, hstatus⟩ := FileSystem.list_eq_ok.1 h
  obtain ⟨place, _, hat⟩ := FileSystem.status_eq_ok.1 hstatus
  cases hfs.at? hat with
  | dir hnodup hproper _ => exact ⟨hnodup, hproper⟩

end PluginAudit.Files

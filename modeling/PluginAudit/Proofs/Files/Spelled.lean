import PluginAudit.Proofs.Files.Entries
import PluginAudit.Proofs.Files.Escape
import PluginAudit.Proofs.Files.Hits

/-!
# Finding a path that is spelled out

What a path names is found by the pattern that is the escaped path, whatever links are on the way,
if the directories can be listed in which a piece with special characters has to be looked for.
Going along the pieces the search drops empty ones, and any `.` before all others; but an empty
piece that comes first of all else leads nowhere.
-/

namespace PluginAudit.Files

open Search Text

variable {fs : FileSystem} {followLast mustBeDir : Bool} {n : Nat} {node : Node}
  {ps qs done todo p q : Path} {dir : Spot} {name : Name} {rest : List (List Glob)}

/-! ## Pieces that a search has gone along -/

/-- The pieces of a path as they stand in what is found: without empty ones and any `.` before all
others. -/
def Path.spelled (pieces : Path) : Path := (pieces.dropWhile (· == ['.'])).filter (· ≠ [])

/-- An empty piece comes before all others, but for any `.`. -/
def Path.IsLost (pieces : Path) : Prop := (pieces.dropWhile (· == ['.'])).head? = some []

instance (pieces : Path) : Decidable pieces.IsLost := inferInstanceAs (Decidable (_ = _))

structure IsSpelled (ps : Path) : Prop where
  empty_notMem : [] ∉ ps
  head_ne : ps.head? ≠ some ['.']

theorem IsSpelled.nil : IsSpelled [] := ⟨nofun, nofun⟩

theorem IsSpelled.append_singleton (h : IsSpelled done) (hname : name ≠ [])
    (hfirst : done = [] → name ≠ ['.']) : IsSpelled (done ++ [name]) := by
  constructor
  · rw [List.mem_append, List.mem_singleton, not_or]
    exact ⟨h.empty_notMem, Ne.symm hname⟩
  · cases done with
    | nil => simpa using hfirst rfl
    | cons p ps => exact h.head_ne

theorem IsSpelled.append_proper (h : IsSpelled done) (hname : IsProper name) :
    IsSpelled (done ++ [name]) := by
  refine h.append_singleton hname.1 fun _ hhere => ?_
  subst hhere
  exact absurd hname (by decide)

theorem Path.head?_dropWhile_here (ps : Path) :
    (ps.dropWhile (· == ['.'])).head? ≠ some ['.'] := by
  intro hhead
  have hnot := List.head?_dropWhile_not (· == ['.']) ps
  rw [hhead] at hnot
  simp at hnot

theorem Path.isSpelled_spelled (hlost : ¬ ps.IsLost) : IsSpelled ps.spelled := by
  refine ⟨by simp [Path.spelled], ?_⟩
  have hhead := Path.head?_dropWhile_here ps
  rw [Path.IsLost] at hlost
  rw [Path.spelled]
  cases hdrop : ps.dropWhile (· == ['.']) with
  | nil => exact nofun
  | cons p rest =>
    rw [hdrop] at hhead hlost
    have hp : p ≠ [] := fun heq => hlost (congrArg some heq)
    rw [List.filter_cons_of_pos (by simpa using hp)]
    exact hhead

/-- A name behind the pieces changes nothing about them. -/
theorem Path.spelled_append (ps : Path) (hname : IsProper name) :
    (ps ++ [name]).spelled = ps.spelled ++ [name] ∧ ((ps ++ [name]).IsLost ↔ ps.IsLost) := by
  have hhere : name ≠ ['.'] := by
    rintro rfl
    exact absurd hname (by decide)
  have hdrop : (ps ++ [name]).dropWhile (· == ['.']) = ps.dropWhile (· == ['.']) ++ [name] := by
    rw [List.dropWhile_append, List.dropWhile_cons_of_neg (by simpa using hhere)]
    split
    · next hempty => rw [List.isEmpty_iff.1 hempty, List.nil_append]
    · rfl
  rw [Path.spelled, Path.IsLost, hdrop, List.filter_append,
    List.filter_cons_of_pos (by simpa using hname.1), List.filter_nil, Path.IsLost, Path.spelled]
  refine ⟨rfl, ?_⟩
  cases ps.dropWhile (· == ['.']) with
  | nil => simpa using hname.1
  | cons p ps => rfl

theorem Path.spelled_of_proper (h : ∀ n ∈ ps, IsProper n) : ps.spelled = ps ∧ ¬ ps.IsLost := by
  have hdrop : ps.dropWhile (· == ['.']) = ps := by
    cases ps with
    | nil => rfl
    | cons p ps =>
      have hp : p ≠ ['.'] := by
        rintro rfl
        exact absurd (h _ List.mem_cons_self) (by decide)
      exact List.dropWhile_cons_of_neg (by simpa using hp)
  constructor
  · rw [Path.spelled, hdrop, List.filter_eq_self]
    exact fun n hn => by simpa using (h n hn).1
  · rw [Path.IsLost, hdrop]
    exact fun hhead => (h [] (List.mem_of_head? hhead)).1 rfl

/-- Where a search is that has gone along some pieces: at `.` if there are none, else at the path
with these pieces, perhaps with a slash behind. -/
def StandsFor (dir done : Path) : Prop :=
  done = [] ∧ dir = [['.']] ∨ done ≠ [] ∧ (dir = done ∨ dir = done ++ [[]])

theorem StandsFor.here : StandsFor [['.']] [] := .inl ⟨rfl, rfl⟩

theorem StandsFor.itself (h : done ≠ []) : StandsFor done done := .inr ⟨h, .inl rfl⟩

theorem StandsFor.slash (h : done ≠ []) : StandsFor (done ++ [[]]) done := .inr ⟨h, .inr rfl⟩

theorem IsSpelled.isHere_append (h : IsSpelled done) (hne : done ≠ []) (qs : Path) :
    Path.isHere (done ++ qs) = false := by
  obtain ⟨p, ps, rfl⟩ := List.exists_cons_of_ne_nil hne
  have hp : p ≠ [] := fun heq => h.empty_notMem (heq ▸ List.mem_cons_self)
  have hhere : p ≠ ['.'] := fun heq => h.head_ne (congrArg some heq)
  have hlater : .here ∉ Path.laterComponents (p :: (ps ++ qs)) :=
    Path.here_notMem_laterComponents.1
  refine Bool.eq_false_iff.2 fun hishere => hlater ?_
  have hcomponents : Path.components (p :: (ps ++ qs)) = [.here] := eq_of_beq hishere
  rw [← Path.components_of_ne hp hhere, hcomponents]
  exact List.mem_cons_self

theorem join_slash (done : Path) (name : Name) : (done ++ [[]]).join name = done ++ [name] := by
  induction done with
  | nil => rfl
  | cons p ps ih =>
    obtain ⟨r, rs, heq⟩ := List.exists_cons_of_ne_nil (List.concat_ne_nil [] ps)
    rw [List.cons_append, List.cons_append, ← ih, heq, Path.join]

theorem IsSpelled.join (h : IsSpelled done) (hne : done ≠ []) (name : Name) :
    done.join name = done ++ [name] := by
  rcases Path.join_eq hne with heq | ⟨qs, heq, _⟩
  · exact heq
  · exact absurd (by simp [heq]) h.empty_notMem

theorem StandsFor.childPath (hp : StandsFor p done) (hdone : IsSpelled done) (name : Name) :
    childPath p name = done ++ [name] := by
  rcases hp with ⟨rfl, rfl⟩ | ⟨hne, rfl | rfl⟩
  · rfl
  · have hhere := hdone.isHere_append hne []
    rw [List.append_nil] at hhere
    rw [Search.childPath, hhere, if_neg Bool.false_ne_true, hdone.join hne]
  · rw [Search.childPath, hdone.isHere_append hne, if_neg Bool.false_ne_true, join_slash]

theorem IsSpelled.text_ne_nil (h : IsSpelled done) (hne : done ≠ []) : done.text ≠ [] := by
  refine Path.text_ne_nil hne ?_
  rintro rfl
  exact h.empty_notMem List.mem_cons_self

open FileSystem

theorem status_of_append (hps : ps.text ≠ [])
    (h : fs.status followLast (ps ++ qs) = .ok node) :
    ∃ followLast' node', fs.status followLast' ps = .ok node' := by
  by_cases hqs : qs = []
  · rw [hqs, List.append_nil] at h
    exact ⟨_, _, h⟩
  · obtain ⟨entries, access, hdir⟩ := isDirectory_iff.1 (isDirectory_of_status_append hps hqs h)
    exact ⟨true, _, hdir⟩

theorem first_of_status (hqs : qs ≠ []) (hfirst : done ≠ [] ∨ qs.head? ≠ some [])
    (h : fs.status followLast (done ++ qs) = .ok node) :
    ∃ name followLast' node', fs.status followLast' (done ++ [name]) = .ok node' := by
  obtain ⟨name, others, rfl⟩ := List.exists_cons_of_ne_nil hqs
  rw [List.append_cons] at h
  refine ⟨name, status_of_append (Path.text_ne_nil (List.concat_ne_nil name done) ?_) h⟩
  intro heq
  obtain ⟨rfl, hname⟩ : done = [] ∧ name = [] := by
    rcases List.append_eq_singleton_iff.1 heq with ⟨hdone, hname⟩ | ⟨_, hname⟩
    · exact ⟨hdone, List.singleton_inj.1 hname⟩
    · cases hname
  rcases hfirst with hne | hhead
  · exact hne rfl
  · exact hhead (congrArg some hname)

/-- The path of the directory that these pieces lead to. -/
def Path.orHere (done : Path) : Path := if done = [] then here else done

/-- Where something is behind some pieces, they lead to a directory, with or without a slash. -/
theorem StandsFor.status (hdir : StandsFor p done) (hdone : IsSpelled done)
    (h : fs.status followLast (done ++ [name]) = .ok node) :
    ∃ entries access, fs.status true p = .ok (.dir entries access) ∧
      fs.status true done.orHere = .ok (.dir entries access) := by
  rcases hdir with ⟨rfl, rfl⟩ | ⟨hne, hdir⟩
  · obtain ⟨place, ⟨husable, hplace⟩, _⟩ := status_eq_ok.1 h
    rw [List.nil_append] at husable hplace
    rw [FileSystem.place, Path.origin, Path.isAbsolute_singleton] at hplace
    obtain ⟨entries, access, hat, hpassing⟩ := walk_singleton hplace
    have hstay : fs.place true Path.here = .ok fs.working := by
      rw [FileSystem.place]
      exact (walk_here hat (hpassing husable.2.2)).trans (walk.eq_1 ..)
    have hhere : Usable Path.here := ⟨by decide, by decide, by decide⟩
    have hstatus := status_eq_ok.2 ⟨_, ⟨hhere, hstay⟩, hat⟩
    exact ⟨entries, access, hstatus, hstatus⟩
  · have htext := hdone.text_ne_nil hne
    rw [Path.orHere, if_neg hne]
    obtain ⟨entries, access, hstatus⟩ := status_append_singleton h htext
    refine ⟨entries, access, ?_, hstatus⟩
    rcases hdir with rfl | rfl
    · exact hstatus
    · obtain ⟨at', ⟨_, hplace⟩, hat⟩ := status_eq_ok.1 hstatus
      obtain ⟨links, happend⟩ := place_append fs htext
      refine status_eq_ok.2 ⟨at', ⟨(Usable.of_status h).slash hne, ?_⟩, hat⟩
      rw [happend true [[]] (List.cons_ne_nil _ _), hplace]
      exact (walk_empty hat).trans (walk.eq_1 ..)

/-- What is behind some pieces is listed in the directory they lead to. -/
theorem StandsFor.entry {entries : List (Name × Node)} (hp : StandsFor p done)
    (hdone : IsSpelled done) (hname : IsProper name) (hlist : fs.list p = .ok entries)
    (h : fs.status followLast (done ++ [name]) = .ok node) :
    ∃ m, (name, m) ∈ entries ∧ (entrySpot fs p name m).path = done ++ [name] ∧
      (entrySpot fs p name m).Knows fs := by
  obtain ⟨passing, hstatus⟩ := list_eq_ok.1 hlist
  rw [← hp.childPath hdone] at h
  obtain ⟨m, hlookup⟩ := exists_entry hname hstatus h
  refine ⟨m, ?_, ?_, Spot.knows_entrySpot hname hstatus hlookup⟩
  · obtain ⟨before, after, rfl, _⟩ := List.lookup_eq_some_iff.1 hlookup
    simp
  · rw [path_entrySpot, hp.childPath hdone]

/-! ## Going along the pieces -/

/-- The directories can be listed in which a piece of a path with special characters is looked
for. -/
def Searchable (fs : FileSystem) (path : Path) : Prop :=
  ∀ before piece after, path = before ++ piece :: after → piece.any Glob.isSpecial = true →
    ∃ entries, fs.list (Path.orHere before) = .ok entries

theorem Searchable.of_append (h : Searchable fs (ps ++ qs)) : Searchable fs ps := by
  rintro before piece after rfl
  exact h before piece (after ++ qs) (by simp)

theorem IsSpelled.of_append (h : IsSpelled (ps ++ qs)) : IsSpelled ps := by
  refine ⟨fun hmem => h.empty_notMem (List.mem_append_left qs hmem), ?_⟩
  cases ps with
  | nil => exact nofun
  | cons p ps => exact h.head_ne

def ListsAll (fs : FileSystem) : Prop :=
  ∀ p, fs.isDirectory p = true → ∃ entries, fs.list p = .ok entries

/-- Where all directories can be listed, those on the way to something can be. -/
theorem searchable_of_listsAll (hlists : ListsAll fs)
    (hps : IsSpelled ps) (h : fs.status followLast (ps ++ qs) = .ok node) : Searchable fs ps := by
  rintro before piece after rfl hspecial
  have hpiece : (before ++ [piece]).text ≠ [] := by
    rw [List.append_cons] at hps
    exact hps.of_append.text_ne_nil (List.concat_ne_nil piece before)
  have hstands : StandsFor (Path.orHere before) before := by
    by_cases hbefore : before = []
    · rw [hbefore]
      exact StandsFor.here
    · rw [Path.orHere, if_neg hbefore]
      exact StandsFor.itself hbefore
  rw [List.append_assoc, List.cons_append, List.append_cons] at h
  obtain ⟨_, _, hstep⟩ := status_of_append hpiece h
  obtain ⟨entries, access, _, hdir⟩ := hstands.status hps.of_append hstep
  exact hlists _ (isDirectory_iff.2 ⟨entries, access, hdir⟩)

theorem searchable_of_plain (h : ∀ piece ∈ ps, piece.any Glob.isSpecial = false) :
    Searchable fs ps := by
  rintro before piece after rfl hspecial
  rw [h piece (by simp)] at hspecial
  cases hspecial

/-- An empty piece behind others leads to the same directory. -/
theorem hits_empty (hdir : StandsFor dir.path done) (hdone : IsSpelled done) (hne : done ≠ [])
    (h : fs.status followLast (done ++ [name]) = .ok node) :
    hits fs mustBeDir (n + 1) (List.map Glob.itself [] :: rest) dir =
      onward fs mustBeDir (n + 1) rest (fs.spot (done ++ [[]])) := by
  have hslash : Search.childPath dir.path [] = done ++ [[]] := hdir.childPath hdone []
  have hleads : leadsTo fs dir [] = true := by
    obtain ⟨entries, access, hstatus, _⟩ := (StandsFor.slash hne).status hdone h
    change fs.exists? (Search.childPath dir.path []) = true
    rw [hslash]
    exact exists_of_status hstatus
  have hliteral : Glob.literal? [] = some [] := rfl
  rw [List.map_nil, hits_literal hliteral, hleads, if_pos rfl, hslash]

/-- A piece behind others is found by its pattern, and the search goes on from there. -/
theorem found_step (hdir : StandsFor dir.path done) (hknows : dir.Knows fs)
    (hdone : IsSpelled done) (hname : name ≠ [])
    (h : fs.status followLast (done ++ [name]) = .ok node)
    (hsearchable : Searchable fs (done ++ [name]))
    (honward : ∀ m s, n ≤ m → s.path = done ++ [name] → s.Knows fs →
      .found q ∈ onward fs mustBeDir m rest s) :
    .found q ∈ hits fs mustBeDir (n + 1) (name.map Glob.itself :: rest) dir := by
  have hnext : Search.childPath dir.path name = done ++ [name] := hdir.childPath hdone name
  obtain ⟨entries, access, hstatus, hsame⟩ := hdir.status hdone h
  have hisdir : dir.isDirectory = true := hknows (isDirectory_iff.2 ⟨entries, access, hstatus⟩)
  cases hliteral : Glob.literal? (name.map Glob.itself) with
  | some text =>
    have hleads : leadsTo fs dir name = true := by
      rw [leadsTo, hnext, hisdir, exists_of_status h, ite_self]
    rw [hits_literal hliteral, Glob.literal?_itself hliteral, hleads, if_pos rfl, hnext]
    exact honward (n + 1) _ (Nat.le_succ n) rfl (Spot.knows_spot fs _)
  | none =>
    have hproper : IsProper name := by
      refine ⟨hname, Bool.eq_false_iff.2 fun hdots => ?_⟩
      rcases Bool.or_eq_true_iff.1 hdots with hdots | hdots <;>
      · rw [eq_of_beq hdots] at hliteral
        cases hliteral
    have hlist : fs.list dir.path = .ok entries := by
      obtain ⟨listed, hlisted⟩ :=
        hsearchable done name [] rfl (Glob.literal?_itself_eq_none hliteral)
      obtain ⟨passing, hopen⟩ := list_eq_ok.1 hlisted
      obtain ⟨rfl, rfl⟩ := Node.dir.inj (Except.ok.inj (hsame.symm.trans hopen))
      exact list_eq_ok.2 ⟨passing, hstatus⟩
    obtain ⟨entry, hmem, hpath, hknown⟩ := hdir.entry hdone hproper hlist h
    rw [hits_wild hliteral hisdir hlist]
    refine List.mem_append_right _ (List.mem_flatMap.2 ⟨(name, entry), hmem, ?_⟩)
    rw [follow_candidate_of_ne (Glob.itself_ne_directories name), named,
      fileName?_entrySpot hproper]
    simp only [Glob.fits_itself.2, if_true]
    exact honward n _ (Nat.le_refl n) hpath hknown

/-- The search for a path goes along its pieces as far as there is something behind them. -/
theorem found_pieces {tail : Path} {k : Nat} (hdir : StandsFor dir.path done)
    (hknows : dir.Knows fs) (hdone : IsSpelled done)
    (hstart : done = [] → todo.head? ≠ some [] ∧ todo.head? ≠ some ['.']) (htail : tail ≠ [])
    (h : fs.status followLast (done ++ todo.filter (· ≠ []) ++ tail) = .ok node)
    (hsearchable : Searchable fs (done ++ todo.filter (· ≠ [])))
    (hk : 0 < k) (hn : k + (todo.filter (· ≠ [])).length ≤ n)
    (hrest : ∀ m s, k ≤ m → StandsFor s.path (done ++ todo.filter (· ≠ [])) → s.Knows fs →
      .found q ∈ onward fs mustBeDir m rest s) :
    .found q ∈ onward fs mustBeDir n (todo.map (·.map Glob.itself) ++ rest) dir := by
  induction todo generalizing done dir n with
  | nil => exact hrest n dir (by simpa using hn) (by simpa using hdir) hknows
  | cons piece todo ih =>
    obtain ⟨n, rfl⟩ : ∃ m, n = m + 1 := ⟨n - 1, by omega⟩
    rw [List.map_cons, List.cons_append, onward_cons]
    by_cases hempty : piece = []
    · subst hempty
      have hne : done ≠ [] := fun heq => (hstart heq).1 rfl
      rw [List.filter_cons_of_neg (by simp)] at h hsearchable hn hrest
      have hbehind := h
      rw [List.append_assoc] at hbehind
      obtain ⟨name, _, _, hfirst⟩ := first_of_status
        (List.append_ne_nil_of_right_ne_nil _ htail) (.inl hne) hbehind
      rw [hits_empty hdir hdone hne hfirst]
      exact ih (StandsFor.slash hne) (Spot.knows_spot fs _) hdone (fun heq => absurd heq hne) h
        hsearchable hn hrest
    · rw [List.filter_cons_of_pos (by simpa using hempty)] at h hsearchable hn hrest
      rw [List.append_cons] at h hsearchable hrest
      have hne : done ++ [piece] ≠ [] := List.concat_ne_nil piece done
      have hnext : IsSpelled (done ++ [piece]) := hdone.append_singleton hempty fun heq hhere =>
        (hstart heq).2 (congrArg some hhere)
      have hbehind := h
      rw [List.append_assoc] at hbehind
      obtain ⟨_, _, hfirst⟩ := status_of_append (hnext.text_ne_nil hne) hbehind
      refine found_step hdir hknows hdone hempty hfirst hsearchable.of_append
        fun m s hm hpath hs => ?_
      have hnow : StandsFor s.path (done ++ [piece]) := by
        rw [hpath]
        exact StandsFor.itself hne
      rw [List.length_cons] at hn
      exact ih hnow hs hnext (fun heq => absurd heq hne) h hsearchable (by omega) hrest

theorem onward_here (hdir : fs.isDirectory Path.here = true) (pieces : Path) :
    onward fs mustBeDir (n + 1) (pieces.map (·.map Glob.itself) ++ rest) (fs.spot Path.here) =
      onward fs mustBeDir (n + 1)
        ((pieces.dropWhile (· == ['.'])).map (·.map Glob.itself) ++ rest) (fs.spot Path.here) := by
  induction pieces with
  | nil => rfl
  | cons piece pieces ih =>
    rw [List.dropWhile_cons]
    split
    · next hhere =>
      have hleads : leadsTo fs (fs.spot Path.here) ['.'] = true := hdir
      have hliteral : Glob.literal? (['.'].map Glob.itself) = some ['.'] := rfl
      rw [eq_of_beq hhere, List.map_cons, List.cons_append, onward_cons, hits_literal hliteral,
        hleads, if_pos rfl]
      exact ih
    · rfl

/-- So it does from the working directory, unless an empty piece comes first. -/
theorem found_spelled {pieces tail : Path} {k : Nat} (hlost : ¬ pieces.IsLost) (htail : tail ≠ [])
    (hfirst : tail.head? ≠ some [])
    (h : fs.status followLast (pieces.spelled ++ tail) = .ok node)
    (hsearchable : Searchable fs pieces.spelled)
    (hk : 0 < k) (hn : k + pieces.spelled.length ≤ n)
    (hrest : ∀ m s, k ≤ m → StandsFor s.path pieces.spelled → s.Knows fs →
      .found q ∈ onward fs mustBeDir m rest s) :
    .found q ∈ onward fs mustBeDir n (pieces.map (·.map Glob.itself) ++ rest)
      (fs.spot Path.here) := by
  obtain ⟨n, rfl⟩ : ∃ m, n = m + 1 := ⟨n - 1, by omega⟩
  have hhead : (pieces.spelled ++ tail).head? ≠ some [] := by
    cases hspelled : pieces.spelled with
    | nil => exact hfirst
    | cons p ps =>
      intro heq
      have hp : p ∈ pieces.spelled := by simp [hspelled]
      rw [Option.some.inj heq] at hp
      exact (Path.isSpelled_spelled hlost).empty_notMem hp
  obtain ⟨name, _, _, hstatus⟩ : ∃ name followLast' node',
      fs.status followLast' ([] ++ [name]) = .ok node' :=
    first_of_status (List.append_ne_nil_of_right_ne_nil _ htail) (.inr hhead) h
  obtain ⟨entries, access, hdir, _⟩ := StandsFor.here.status IsSpelled.nil hstatus
  rw [onward_here (isDirectory_iff.2 ⟨entries, access, hdir⟩)]
  exact found_pieces StandsFor.here (Spot.knows_spot fs _) IsSpelled.nil
    (fun _ => ⟨hlost, Path.head?_dropWhile_here pieces⟩) htail h hsearchable hk hn hrest

theorem length_le_byteLength_text (ps : Path) : ps.length ≤ byteLength ps.text + 1 := by
  induction ps with
  | nil => exact Nat.zero_le _
  | cons p ps ih =>
    cases ps with
    | nil => exact Nat.le_add_left 1 _
    | cons q ps =>
      have hslash : 0 < '/'.utf8Size := by decide
      rw [Path.text, byteLength_append, byteLength_cons, List.length_cons]
      omega

/-- The search for an escaped path, from the working directory. -/
theorem search_spelled {text : List Char} {pieces : Path}
    (hparts : parts (Glob.escape text) = pieces.map Glob.escape)
    (hslash : (Glob.escape text).getLast? ≠ some '/')
    (hrelative : (Path.split (Glob.escape text)).isAbsolute = false) :
    search fs (Glob.escape text) =
      .ok (hits fs false pathLimit (pieces.map (·.map Glob.itself)) (fs.spot Path.here)) := by
  rw [search, Glob.read_escape, hparts, mapM_read_escape, hrelative, beq_false_of_ne hslash]
  rfl

end PluginAudit.Files

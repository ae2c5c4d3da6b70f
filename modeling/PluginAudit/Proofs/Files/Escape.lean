import PluginAudit.Proofs.Files.Reading

/-!
# Escaped names

An escaped name, read as a pattern, fits the name and nothing else, so the parts of a pattern that
an escaped path was put in front of begin with a pattern for each piece of the path.
-/

namespace PluginAudit.Files

namespace Path

theorem split_append_slash (a b : List Char) : split (a ++ '/' :: b) = split a ++ split b := by
  induction a with
  | nil => rfl
  | cons c a ih =>
    rw [List.cons_append, split, split, ih]
    split
    · rfl
    · cases h : split a with
      | nil => exact absurd h (split_ne_nil a)
      | cons p ps => rfl

theorem split_append {w : List Char} (h : '/' ∉ w) (cs : List Char) :
    ∃ p ps, split cs = p :: ps ∧ split (w ++ cs) = (w ++ p) :: ps := by
  obtain ⟨p, ps, hps⟩ := List.exists_cons_of_ne_nil (split_ne_nil cs)
  refine ⟨p, ps, hps, ?_⟩
  induction w with
  | nil => exact hps
  | cons c w ih =>
    obtain ⟨hc, hw⟩ := not_or.1 (mt List.mem_cons.2 h)
    rw [List.cons_append, split, ih hw, if_neg (by simpa using fun heq => hc heq.symm)]
    rfl

theorem split_text {ps : Path} (hps : ps ≠ []) (h : ∀ p ∈ ps, '/' ∉ p) : split ps.text = ps := by
  induction ps with
  | nil => exact absurd rfl hps
  | cons p ps ih =>
    obtain ⟨hp, hrest⟩ := List.forall_mem_cons.1 h
    have hplain : split p = [p] := by
      obtain ⟨q, qs, hq, hsplit⟩ := split_append hp []
      obtain ⟨rfl, rfl⟩ := List.cons.inj hq
      rwa [List.append_nil] at hsplit
    cases ps with
    | nil => exact hplain
    | cons q ps =>
      rw [text, split_append_slash, hplain, ih (List.cons_ne_nil q ps) hrest]
      rfl

theorem isAbsolute_split {text : List Char} (h : text.head? ≠ some '/') :
    (split text).isAbsolute = false := by
  cases text with
  | nil => rfl
  | cons c cs =>
    have hc : (c == '/') = false := beq_eq_false_iff_ne.2 fun heq => h (congrArg some heq)
    rw [split, hc]
    cases split cs <;> rfl

theorem text_eq_append {ps : Path} (hps : ps ≠ []) :
    ∃ before, ps.text = before ++ ps.getLast hps := by
  induction ps with
  | nil => exact absurd rfl hps
  | cons p ps ih =>
    cases ps with
    | nil => exact ⟨[], rfl⟩
    | cons q ps =>
      obtain ⟨before, hbefore⟩ := ih (List.cons_ne_nil q ps)
      refine ⟨p ++ '/' :: before, ?_⟩
      rw [text, hbefore, List.getLast_cons (List.cons_ne_nil q ps), List.append_assoc]
      rfl

end Path

namespace Glob

/-- A character that means something else in a pattern. -/
def isSpecial (c : Char) : Bool := c == '?' || c == '*' || c == '[' || c == ']'

/-- The pattern for a character itself. -/
def itself (c : Char) : Glob := if isSpecial c then .within [.single c] else .char c

theorem escape_cons (c : Char) (name : Name) :
    escape (c :: name) = (if isSpecial c then ['[', c, ']'] else [c]) ++ escape name := rfl

theorem escape_append (a b : List Char) : escape (a ++ b) = escape a ++ escape b :=
  List.flatMap_append

theorem slash_notMem_escape {name : Name} (h : '/' ∉ name) : '/' ∉ escape name := by
  induction name with
  | nil => exact List.not_mem_nil
  | cons c name ih =>
    obtain ⟨hc, hname⟩ := not_or.1 (mt List.mem_cons.2 h)
    rw [escape_cons, List.mem_append, not_or]
    refine ⟨?_, ih hname⟩
    split <;> simpa using hc

theorem head?_escape {text : List Char} (hne : text ≠ []) (h : text.head? ≠ some '/')
    (cs : List Char) : (escape text ++ cs).head? ≠ some '/' := by
  obtain ⟨c, text, rfl⟩ := List.exists_cons_of_ne_nil hne
  rw [escape_cons]
  split
  · simp
  · exact h

theorem escape_ne_nil {name : Name} (h : name ≠ []) : escape name ≠ [] := by
  cases name with
  | nil => exact absurd rfl h
  | cons c name =>
    rw [escape_cons]
    split <;> exact List.cons_ne_nil _ _

theorem first_char {index : Nat} {before : Option Char} {c : Char} {cs : List Char}
    (hc : isSpecial c = false) : first index before c cs = .ok (.char c, cs) := by
  simp only [isSpecial, Bool.or_eq_false_iff] at hc
  simp [first, hc]

theorem first_bracket {index : Nat} {before : Option Char} {c : Char} {cs : List Char}
    (hc : isSpecial c = true) :
    first index before '[' (c :: ']' :: cs) = .ok (.within [.single c], cs) := by
  have hset : bracket? (c :: ']' :: cs) = some (.within [.single c], cs) := by
    have hinner : setAt? (c :: ']' :: cs) = some ([c], cs) := by simp [setAt?]
    have hnot : c ≠ '!' := by
      rintro rfl
      exact absurd hc (by decide)
    rw [bracket?]
    · rw [hinner]
      rfl
    · intro rest heq
      exact hnot (List.cons.inj heq).1
  simp [first, hset]

theorem readFrom_escape {m n index : Nat} {before : Option Char} {name : Name} {cs : List Char}
    {gs : List Glob} {P : List Glob → Prop}
    (hcs : ∀ n index before hs, m ≤ n → (readFrom n index before cs = .ok hs ↔ P hs))
    (h : (escape name).length + m ≤ n) :
    readFrom n index before (escape name ++ cs) = .ok gs ↔
      ∃ hs, P hs ∧ gs = name.map itself ++ hs := by
  induction name generalizing n index before gs with
  | nil =>
    have hm : m ≤ n := by simpa [escape] using h
    simpa [escape] using hcs n index before gs hm
  | cons c name ih =>
    rw [escape_cons, List.length_append] at h
    -- a character is read in one step, also in brackets
    have hstep : 0 < (if isSpecial c then ['[', c, ']'] else [c]).length := by split <;> simp
    obtain ⟨n, rfl⟩ : ∃ k, n = k + 1 := ⟨n - 1, by omega⟩
    have hname : ∀ index before hs, readFrom n index before (escape name ++ cs) = .ok hs ↔
        ∃ hs', P hs' ∧ hs = name.map itself ++ hs' := fun _ _ _ => ih (by omega)
    have hfirst : readFrom (n + 1) index before (escape (c :: name) ++ cs) = .ok gs ↔
        ∃ hs, (∃ hs', P hs' ∧ hs = name.map itself ++ hs') ∧ gs = itself c :: hs := by
      rw [escape_cons, itself]
      cases hc : isSpecial c with
      | false => exact readFrom_of_first (first_char hc) (hname _ _)
      | true => exact readFrom_of_first (first_bracket hc) (hname _ _)
    rw [hfirst]
    constructor
    · rintro ⟨_, ⟨hs, hP, rfl⟩, rfl⟩
      exact ⟨hs, hP, rfl⟩
    · rintro ⟨hs, hP, rfl⟩
      exact ⟨_, ⟨hs, hP, rfl⟩, rfl⟩

theorem read_escape (name : Name) : read (escape name) = .ok (name.map itself) := by
  have hnil : ∀ n index before hs, 0 ≤ n →
      (readFrom n index before [] = .ok hs ↔ hs = []) := by
    rintro (_ | n) _ _ hs _ <;> simp [readFrom, eq_comm]
  have hread : readFrom (escape name).length 0 none (escape name ++ []) =
      .ok (name.map itself ++ []) := (readFrom_escape hnil (Nat.le_refl _)).2 ⟨[], rfl, rfl⟩
  rwa [List.append_nil, List.append_nil] at hread

/-- A pattern behind an escaped text and a slash is read as on its own. -/
theorem read_escape_slash {text pattern : List Char} {gs : List Glob} :
    read (escape text ++ '/' :: pattern) = .ok gs ↔
      ∃ hs, read pattern = .ok hs ∧ gs = text.map itself ++ .char '/' :: hs := by
  have hslash : isSpecial '/' = false := by decide
  have hplace : opensPart (lastOf '/' pattern pattern) = opensPart none := by
    simp [lastOf, opensPart]
  have hpattern : ∀ n index before hs, pattern.length + 1 ≤ n →
      (readFrom n index before ('/' :: pattern) = .ok hs ↔
        ∃ hs', read pattern = .ok hs' ∧ hs = .char '/' :: hs') := by
    intro n index before hs hn
    obtain ⟨n, rfl⟩ : ∃ k, n = k + 1 := ⟨n - 1, by omega⟩
    refine readFrom_of_first (first_char hslash) fun hs' => ?_
    exact readFrom_congr (by omega) (Nat.le_refl _) hplace
  have hlength : (escape text ++ '/' :: pattern).length =
      (escape text).length + (pattern.length + 1) := List.length_append
  rw [read, readFrom_escape hpattern (Nat.le_of_eq hlength.symm)]
  constructor
  · rintro ⟨_, ⟨hs, hread, rfl⟩, rfl⟩
    exact ⟨hs, hread, rfl⟩
  · rintro ⟨hs, hread, rfl⟩
    exact ⟨_, ⟨hs, hread, rfl⟩, rfl⟩

theorem isRun_itself (c : Char) : (itself c).isRun = false := by
  rw [itself]
  split <;> rfl

theorem accepts_itself (c d : Char) : (itself c).accepts d = (d == c) := by
  rw [itself]
  split <;> simp [accepts, Range.holds]

theorem fits_itself {name text : Name} : fits (name.map itself) text = true ↔ text = name := by
  induction name generalizing text with
  | nil => rw [List.map_nil, fits]; simp
  | cons c name ih =>
    cases text with
    | nil => rw [List.map_cons, fits, isRun_itself]; simp
    | cons d text =>
      rw [List.map_cons, fits, isRun_itself, accepts_itself]
      simp [ih]

theorem literal?_itself {name text : Name} (h : literal? (name.map itself) = some text) :
    text = name := by
  induction name generalizing text with
  | nil => exact (Option.some.inj h).symm
  | cons c name ih =>
    rw [List.map_cons, itself] at h
    split at h
    · cases h
    · obtain ⟨text, htext, rfl⟩ := Option.map_eq_some_iff.1 h
      rw [ih htext]

theorem literal?_itself_eq_none {name : Name} (h : literal? (name.map itself) = none) :
    name.any isSpecial = true := by
  induction name with
  | nil => cases h
  | cons c name ih =>
    rw [List.any_cons, Bool.or_eq_true]
    cases hc : isSpecial c with
    | true => exact .inl rfl
    | false =>
      rw [List.map_cons, itself, hc, if_neg Bool.false_ne_true, literal?,
        Option.map_eq_none_iff] at h
      exact .inr (ih h)

theorem itself_ne_directories (name : Name) : name.map itself ≠ [.directories] := by
  intro h
  match name with
  | [] => cases h
  | c :: name =>
    have hc : itself c = .directories := (List.cons.inj h).1
    rw [itself] at hc
    split at hc <;> cases hc

theorem split_escape (cs : List Char) : Path.split (escape cs) = (Path.split cs).map escape := by
  induction cs with
  | nil => rfl
  | cons c cs ih =>
    by_cases hslash : c = '/'
    · subst hslash
      have hcons : escape ('/' :: cs) = '/' :: escape cs := rfl
      rw [hcons, Path.split, Path.split, ih]
      rfl
    · have hplain : '/' ∉ [c] := by simpa using Ne.symm hslash
      have hescaped : '/' ∉ (if isSpecial c then ['[', c, ']'] else [c]) := by
        split <;> simpa using Ne.symm hslash
      obtain ⟨p, ps, hps, hsplit⟩ := Path.split_append hplain cs
      obtain ⟨p', ps', hps', hsplit'⟩ := Path.split_append hescaped (escape cs)
      rw [ih, hps, List.map_cons] at hps'
      obtain ⟨rfl, rfl⟩ := List.cons.inj hps'
      rw [List.singleton_append] at hsplit
      rw [escape_cons, hsplit', hsplit]
      rfl

end Glob

namespace Search

theorem parts_escape (root text : List Char) :
    parts (Glob.escape root ++ '/' :: text) = (Path.split root).map Glob.escape ++ parts text := by
  rw [parts, parts, Path.split_append_slash, Glob.split_escape]
  obtain ⟨p, ps, hps⟩ := List.exists_cons_of_ne_nil (Path.split_ne_nil text)
  rw [hps, List.getLast?_append, List.dropLast_append_cons]
  simp only [List.getLast?_cons, Option.some_or]
  split <;> rfl

theorem mapM_read_escape (names : List Name) :
    (names.map Glob.escape).mapM Glob.read = .ok (names.map (·.map Glob.itself)) := by
  induction names with
  | nil => rfl
  | cons name names ih =>
    rw [List.map_cons, List.mapM_cons, Glob.read_escape, ih]
    rfl

theorem parts_escape_text {names : Path} (hnames : names ≠ [])
    (h : ∀ n ∈ names, n ≠ [] ∧ '/' ∉ n) :
    parts (Glob.escape names.text) = names.map Glob.escape := by
  have hlast : (names.map Glob.escape).getLast? ≠ some [] := by
    rw [List.getLast?_map]
    intro heq
    obtain ⟨n, hn, hempty⟩ := Option.map_eq_some_iff.1 heq
    exact Glob.escape_ne_nil (h n (List.mem_of_getLast? hn)).1 hempty
  rw [parts, Glob.split_escape, Path.split_text hnames fun n hn => (h n hn).2,
    beq_false_of_ne hlast]
  rfl

/-- A pattern behind an escaped path is read as a pattern for each piece of the path, and then as
itself. -/
theorem read_parts_escape {root text : List Char} {patterns : List (List Glob)}
    (h : (parts (Glob.escape root ++ '/' :: text)).mapM Glob.read = .ok patterns) :
    ∃ rest, (parts text).mapM Glob.read = .ok rest ∧
      patterns = (Path.split root).map (·.map Glob.itself) ++ rest := by
  rw [parts_escape] at h
  generalize Path.split root = pieces at h ⊢
  induction pieces generalizing patterns with
  | nil => exact ⟨patterns, h, rfl⟩
  | cons piece pieces ih =>
    rw [List.map_cons, List.cons_append, List.mapM_cons, Glob.read_escape] at h
    cases hrest : (pieces.map Glob.escape ++ parts text).mapM Glob.read with
    | error e =>
      rw [hrest] at h
      cases h
    | ok others =>
      rw [hrest] at h
      obtain ⟨rest, hread, rfl⟩ := ih hrest
      cases h
      exact ⟨rest, hread, rfl⟩

end Search

/-! ## Patterns that can be read -/

/-- The text can be read as a pattern, and so can each of its parts. -/
def IsPattern (text : List Char) : Prop :=
  (∃ gs, Glob.read text = .ok gs) ∧ ∀ part ∈ Search.parts text, ∃ gs, Glob.read part = .ok gs

theorem exists_mapM_read_iff {texts : List (List Char)} :
    (∃ patterns, texts.mapM Glob.read = .ok patterns) ↔
      ∀ text ∈ texts, ∃ gs, Glob.read text = .ok gs := by
  induction texts with
  | nil => exact iff_of_true ⟨[], rfl⟩ (List.forall_mem_nil _)
  | cons text texts ih =>
    rw [List.forall_mem_cons, ← ih, List.mapM_cons]
    cases Glob.read text with
    | error e => simp [bind, Except.bind]
    | ok gs => cases texts.mapM Glob.read <;> simp [bind, Except.bind, pure, Except.pure]

theorem isPattern_escape_slash (root pattern : List Char) :
    IsPattern (Glob.escape root ++ '/' :: pattern) ↔ IsPattern pattern := by
  have hwhole : (∃ gs, Glob.read (Glob.escape root ++ '/' :: pattern) = .ok gs) ↔
      ∃ gs, Glob.read pattern = .ok gs := by
    simp only [Glob.read_escape_slash]
    constructor
    · rintro ⟨_, gs, hread, -⟩
      exact ⟨gs, hread⟩
    · rintro ⟨gs, hread⟩
      exact ⟨_, gs, hread, rfl⟩
  have hroot : ∀ part ∈ (Path.split root).map Glob.escape, ∃ gs, Glob.read part = .ok gs :=
    List.forall_mem_map.2 fun name _ => ⟨_, Glob.read_escape name⟩
  rw [IsPattern, IsPattern, hwhole, Search.parts_escape, List.forall_mem_append]
  exact and_congr_right fun _ => and_iff_right hroot

theorem exists_search_iff (fs : FileSystem) (text : List Char) :
    (∃ hs, search fs text = .ok hs) ↔ IsPattern text := by
  rw [IsPattern, ← exists_mapM_read_iff, search]
  cases Glob.read text with
  | error e => simp [bind, Except.bind]
  | ok gs =>
    cases (Search.parts text).mapM Glob.read with
    | error e => simp [bind, Except.bind]
    | ok patterns =>
      refine iff_of_true ?_ ⟨⟨_, rfl⟩, _, rfl⟩
      simp only [bind, Except.bind]
      split <;> exact ⟨_, rfl⟩

end PluginAudit.Files

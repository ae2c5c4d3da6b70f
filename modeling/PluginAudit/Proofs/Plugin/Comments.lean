import PluginAudit.Proofs.Plugin.Header

/-!
# Comments of a header

The name and the description are what the first comments with these labels say. The blanks within
such a comment may be line ends. So a comment that says nothing on its own line says what the next
line does; if the first comment with a label ends on its line, the header is read line by line.
-/

namespace PluginAudit.Plugin

open Text

/-- The end of a text or of a line in it. -/
def EndsLine (rest : List Char) : Prop := rest.head?.any (· != '\n') = false

/-- What a comment may say: a part of a line, not empty and with no blanks around it. -/
structure IsValue (x : List Char) : Prop where
  ne_nil : x ≠ []
  one_line : '\n' ∉ x
  first : x.head?.any isBlank = false
  last : x.getLast?.any isBlank = false

/-- A word that may stand before a colon. -/
def IsLabel (label : String) : Prop := label.toList.head?.any (!isBlank ·) = true

instance (label : String) : Decidable (IsLabel label) := inferInstanceAs (Decidable (_ = _))

theorem IsLabel.exists_cons {label : String} (h : IsLabel label) :
    ∃ c cs, label.toList = c :: cs ∧ isBlank c = false := by
  rw [IsLabel] at h
  cases hlabel : label.toList with
  | nil =>
    rw [hlabel] at h
    cases h
  | cons c cs =>
    rw [hlabel] at h
    exact ⟨c, cs, rfl, by simpa using h⟩

/-- `// label:` with blanks between and behind, up to a value. -/
def IsMarker (label : String) (marker : List Char) : Prop :=
  ∃ b c d, AllBlank b ∧ AllBlank c ∧ AllBlank d ∧
    marker = "//".toList ++ b ++ label.toList ++ c ++ ':' :: d

/-- A marker, its value and nothing else up to the end of the line. -/
def BeginsComment (label : String) (marker value text : List Char) : Prop :=
  IsMarker label marker ∧ IsValue value ∧
    ∃ b rest, AllBlank b ∧ '\n' ∉ b ∧ EndsLine rest ∧ text = marker ++ value ++ b ++ rest

/-- A comment that begins on the first line of a text, with nothing before it. -/
def IsComment (label : String) (marker value text : List Char) : Prop :=
  ∃ b t, AllBlank b ∧ '\n' ∉ b ∧ BeginsComment label marker value t ∧ text = b ++ t

/-- The first of some texts with a comment has this one. -/
def FirstComment (label : String) (texts : List (List Char)) (marker value : List Char) : Prop :=
  ∃ before text after, texts = before ++ text :: after ∧ IsComment label marker value text ∧
    ∀ t ∈ before, ∀ m x, ¬ IsComment label m x t

variable {label : String} {text l k m x rest : List Char} {texts : List (List Char)}

/-! ## One comment -/

theorem endsLine_nil : EndsLine [] := rfl

theorem endsLine_newline (k : List Char) : EndsLine ('\n' :: k) := rfl

theorem EndsLine.eq_nil (h : EndsLine rest) (hline : '\n' ∉ rest) : rest = [] := by
  cases rest with
  | nil => rfl
  | cons c cs =>
    obtain rfl : c = '\n' := by simpa [EndsLine] using h
    exact absurd (List.mem_cons_self ..) hline

theorem line_iff : text.takeWhile (· != '\n') = l ∧ text.dropWhile (· != '\n') = rest ↔
    '\n' ∉ l ∧ EndsLine rest ∧ text = l ++ rest := by
  have hline : (∀ c ∈ l, (c != '\n') = true) ↔ '\n' ∉ l := by
    simp only [bne_iff_ne, ne_eq]
    exact ⟨fun h hmem => h _ hmem rfl, fun h c hc heq => h (heq ▸ hc)⟩
  rw [takeWhile_dropWhile_iff, hline, EndsLine]

theorem reverse_dropWhile_iff : (l.reverse.dropWhile isBlank).reverse = x ↔
    x.getLast?.any isBlank = false ∧ ∃ b, AllBlank b ∧ l = x ++ b := by
  have hsplit : ∀ b, (l.reverse.takeWhile isBlank = b ∧ l.reverse.dropWhile isBlank = x.reverse) ↔
      AllBlank b ∧ x.getLast?.any isBlank = false ∧ l = x ++ b.reverse := by
    intro b
    rw [takeWhile_dropWhile_iff, List.head?_reverse, List.reverse_eq_iff, List.reverse_append,
      List.reverse_reverse]
    rfl
  rw [List.reverse_eq_iff]
  constructor
  · intro h
    obtain ⟨hb, hlast, hl⟩ := (hsplit _).1 ⟨rfl, h⟩
    exact ⟨hlast, _, fun c hc => hb c (List.mem_reverse.1 hc), hl⟩
  · rintro ⟨hlast, b, hb, rfl⟩
    refine ((hsplit b.reverse).2 ⟨fun c hc => hb c (List.mem_reverse.1 hc), hlast, ?_⟩).2
    rw [List.reverse_reverse]

theorem trimmedLine_eq_iff : trimmedLine text = x ↔
    '\n' ∉ x ∧ x.getLast?.any isBlank = false ∧
      ∃ b rest, AllBlank b ∧ '\n' ∉ b ∧ EndsLine rest ∧ text = x ++ b ++ rest := by
  rw [trimmedLine, reverse_dropWhile_iff]
  constructor
  · rintro ⟨hlast, b, hb, htake⟩
    obtain ⟨hline, hrest, hsplit⟩ := line_iff.1 ⟨htake, rfl⟩
    rw [List.mem_append, not_or] at hline
    exact ⟨hline.1, hlast, b, _, hb, hline.2, hrest, hsplit⟩
  · rintro ⟨hx, hlast, b, rest, hb, hbline, hrest, hsplit⟩
    have hline : '\n' ∉ x ++ b := by
      rw [List.mem_append, not_or]
      exact ⟨hx, hbline⟩
    exact ⟨hlast, b, hb, (line_iff.2 ⟨hline, hrest, hsplit⟩).1⟩

theorem value_iff : rest ≠ [] ∧ rest.head?.any isBlank = false ∧ trimmedLine rest = x ↔
    IsValue x ∧ ∃ b r, AllBlank b ∧ '\n' ∉ b ∧ EndsLine r ∧ rest = x ++ b ++ r := by
  rw [trimmedLine_eq_iff]
  constructor
  · rintro ⟨hne, hfirst, hx, hlast, b, r, hb, hbline, hr, rfl⟩
    refine ⟨?_, b, r, hb, hbline, hr, rfl⟩
    cases x with
    | cons c cs => exact ⟨List.cons_ne_nil c cs, hx, hfirst, hlast⟩
    | nil =>
      -- what is left would be blanks and a line end
      cases b with
      | cons c cs =>
        have hc : isBlank c = true := hb c (List.mem_cons_self ..)
        exact absurd hc (Bool.eq_false_iff.1 hfirst)
      | nil =>
        cases r with
        | nil => exact absurd rfl hne
        | cons c cs =>
          obtain rfl : c = '\n' := by simpa [EndsLine] using hr
          have hblank : isBlank '\n' = true := by decide
          exact absurd hblank (Bool.eq_false_iff.1 hfirst)
  · rintro ⟨hx, b, r, hb, hbline, hr, rfl⟩
    obtain ⟨c, cs, rfl⟩ := List.exists_cons_of_ne_nil hx.ne_nil
    exact ⟨List.cons_ne_nil _ _, hx.first, hx.one_line, hx.last, b, r, hb, hbline, hr, rfl⟩

theorem marker_iff (hlabel : IsLabel label) :
    ((after? "//".toList text).bind fun t => labelled? label (skipBlanks t)) = some rest ↔
      ∃ m, IsMarker label m ∧ rest.head?.any isBlank = false ∧ text = m ++ rest := by
  rw [Option.bind_eq_some_iff]
  simp only [after?_eq_some, labelled?_eq_some]
  constructor
  · rintro ⟨t, rfl, c, d, hc, hd, hrest, hskip⟩
    obtain ⟨b, hb, -, rfl⟩ := skipBlanks_eq_iff.1 hskip
    exact ⟨_, ⟨b, c, d, hb, hc, hd, rfl⟩, hrest, by simp⟩
  · rintro ⟨_, ⟨b, c, d, hb, hc, hd, rfl⟩, hrest, rfl⟩
    have hword : (label.toList ++ c ++ ':' :: d ++ rest).head?.any isBlank = false := by
      obtain ⟨e, es, he, hblank⟩ := hlabel.exists_cons
      rw [he]
      exact hblank
    exact ⟨b ++ (label.toList ++ c ++ ':' :: d ++ rest), by simp, c, d, hc, hd, hrest,
      skipBlanks_eq_iff.2 ⟨b, hb, hword, rfl⟩⟩

theorem comment?_eq_some (hlabel : IsLabel label) :
    comment? label text = some x ↔ ∃ m, BeginsComment label m x (skipBlanks text) := by
  have hcomment : comment? label text =
      ((after? "//".toList (skipBlanks text)).bind fun t => labelled? label (skipBlanks t)).bind
        fun rest => if rest = [] then none else some (trimmedLine rest) := by
    simp only [comment?, Option.bind_eq_bind, Option.bind_assoc, List.isEmpty_iff, Option.pure_def,
      Option.bind_none]
  rw [hcomment, Option.bind_eq_some_iff]
  constructor
  · rintro ⟨rest, hrest, hx⟩
    obtain ⟨m, hm, hfirst, htext⟩ := (marker_iff hlabel).1 hrest
    split at hx
    · cases hx
    · next hrest_ne =>
      obtain ⟨hvalue, b, r, hb, hbline, hr, rfl⟩ :=
        value_iff.1 ⟨hrest_ne, hfirst, Option.some.inj hx⟩
      exact ⟨m, hm, hvalue, b, r, hb, hbline, hr, by simpa using htext⟩
  · rintro ⟨m, hm, hvalue, b, r, hb, hbline, hr, htext⟩
    obtain ⟨hrest_ne, hfirst, hx⟩ := value_iff.2 ⟨hvalue, b, r, hb, hbline, hr, rfl⟩
    refine ⟨x ++ b ++ r, (marker_iff hlabel).2 ⟨m, hm, hfirst, by simpa using htext⟩, ?_⟩
    rw [if_neg hrest_ne, hx]

theorem BeginsComment.first (h : BeginsComment label m x text) :
    text.head?.any isBlank = false := by
  obtain ⟨⟨b, c, d, -, -, -, rfl⟩, -, e, rest, -, -, -, rfl⟩ := h
  rfl

theorem isComment_iff : IsComment label m x text ↔
    '\n' ∉ text.takeWhile isBlank ∧ BeginsComment label m x (skipBlanks text) := by
  constructor
  · rintro ⟨b, t, hb, hbline, ht, hsplit⟩
    obtain ⟨htake, hdrop⟩ := takeWhile_dropWhile_iff.2 ⟨hb, ht.first, hsplit⟩
    rw [htake, skipBlanks, hdrop]
    exact ⟨hbline, ht⟩
  · rintro ⟨hline, hcomment⟩
    exact ⟨_, _, allBlank_takeWhile text, hline, hcomment, List.takeWhile_append_dropWhile.symm⟩

theorem comment?_iff_isComment (hlabel : IsLabel label) (hline : '\n' ∉ text.takeWhile isBlank) :
    comment? label text = some x ↔ ∃ m, IsComment label m x text := by
  rw [comment?_eq_some hlabel]
  simp only [isComment_iff, hline, not_false_eq_true, true_and]

theorem IsComment.value_eq (hlabel : IsLabel label) {m' x' : List Char}
    (h : IsComment label m x text) (h' : IsComment label m' x' text) : x = x' := by
  have hline : '\n' ∉ text.takeWhile isBlank := (isComment_iff.1 h).1
  have hx : comment? label text = some x := (comment?_iff_isComment hlabel hline).2 ⟨m, h⟩
  have hx' : comment? label text = some x' := (comment?_iff_isComment hlabel hline).2 ⟨m', h'⟩
  exact Option.some.inj (hx.symm.trans hx')

/-! ## The first comment -/

theorem firstComment_cons : FirstComment label (text :: texts) m x ↔
    IsComment label m x text ∨
      (∀ m x, ¬ IsComment label m x text) ∧ FirstComment label texts m x := by
  constructor
  · rintro ⟨before, t, after, htexts, hcomment, hnone⟩
    cases before with
    | nil =>
      obtain ⟨rfl, -⟩ := List.cons.inj htexts
      exact .inl hcomment
    | cons t' before =>
      obtain ⟨rfl, rfl⟩ := List.cons.inj htexts
      exact .inr ⟨hnone _ (List.mem_cons_self ..), before, t, after, rfl, hcomment,
        fun u hu => hnone u (List.mem_cons_of_mem _ hu)⟩
  · rintro (hcomment | ⟨hnone, before, t, after, rfl, hcomment, hbefore⟩)
    · exact ⟨[], text, texts, rfl, hcomment, fun _ ht => absurd ht List.not_mem_nil⟩
    · refine ⟨text :: before, t, after, rfl, hcomment, ?_⟩
      rw [List.forall_mem_cons]
      exact ⟨hnone, hbefore⟩

theorem firstComment_nil : ¬ FirstComment label [] m x := by
  rintro ⟨before, t, after, h, -⟩
  cases before <;> cases h

theorem FirstComment.value_eq (hlabel : IsLabel label) {m' x' : List Char}
    (h : FirstComment label texts m x) (h' : FirstComment label texts m' x') : x = x' := by
  induction texts with
  | nil => exact absurd h firstComment_nil
  | cons t ts ih =>
    rw [firstComment_cons] at h h'
    rcases h with h | ⟨hnone, h⟩
    · rcases h' with h' | ⟨hnone', -⟩
      · exact h.value_eq hlabel h'
      · exact absurd h (hnone' m x)
    · rcases h' with h' | ⟨-, h'⟩
      · exact absurd h' (hnone m' x')
      · exact ih h h'

/-- The search for the first comment goes text by text. -/
theorem findSome?_cons_iff (h : ∀ x, comment? label text = some x ↔ ∃ m, IsComment label m x text) :
    (text :: texts).findSome? (comment? label) = some x ↔
      (∃ m, IsComment label m x text) ∨
        (∀ m x, ¬ IsComment label m x text) ∧ texts.findSome? (comment? label) = some x := by
  rw [List.findSome?_cons]
  cases hcomment : comment? label text with
  | some y =>
    obtain ⟨m, hm⟩ := (h y).1 hcomment
    rw [← h, hcomment]
    constructor
    · exact .inl
    · rintro (hx | ⟨hnone, -⟩)
      · exact hx
      · exact absurd hm (hnone m y)
  | none =>
    have hnone : ∀ m x, ¬ IsComment label m x text := by
      intro m x hm
      rw [(h x).2 ⟨m, hm⟩] at hcomment
      cases hcomment
    simp [hnone]

/-- From a blank line on the same is found as from the next line on. -/
theorem findSome?_blank_line (hl : AllBlank l) (k : List Char) :
    ((l ++ '\n' :: k) :: lineRests k).findSome? (comment? label) =
      (lineRests k).findSome? (comment? label) := by
  have hskip : skipBlanks (l ++ '\n' :: k) = skipBlanks k := by
    rw [skipBlanks, List.dropWhile_append_of_pos hl]
    rfl
  have hcomment : comment? label (l ++ '\n' :: k) = comment? label k := by
    simp only [comment?, hskip]
  rw [List.findSome?_cons, hcomment, lineRests_eq k, List.findSome?_cons]
  cases comment? label k with
  | some y => rfl
  | none => rfl

theorem not_isComment_of_allBlank (hl : AllBlank l) (k : List Char) :
    ¬ IsComment label m x (l ++ '\n' :: k) := by
  rw [isComment_iff, List.takeWhile_append_of_pos hl]
  rintro ⟨hline, -⟩
  exact hline (List.mem_append_right l (List.mem_cons_self ..))

theorem not_mem_takeWhile_of_not_allBlank (hl : '\n' ∉ l) (hb : ¬ AllBlank l) (k : List Char) :
    '\n' ∉ (l ++ k).takeWhile isBlank := by
  intro hmem
  rw [List.takeWhile_append] at hmem
  split at hmem
  · next hall =>
    have hsame : l.takeWhile isBlank = l := (List.takeWhile_prefix isBlank).eq_of_length hall
    exact hb (hsame ▸ allBlank_takeWhile l)
  · exact hl (List.takeWhile_subset _ hmem)

theorem findSome?_lineRests (hlabel : IsLabel label) (text : List Char) :
    (lineRests text).findSome? (comment? label) = some x ↔
      ∃ m, FirstComment label (lineRests text) m x := by
  induction text using inductLines with
  | last l hl =>
    have hline : '\n' ∉ l.takeWhile isBlank := fun h => hl (List.takeWhile_subset _ h)
    rw [lineRests_of_not_mem hl, findSome?_cons_iff fun x => comment?_iff_isComment hlabel hline]
    simp [firstComment_cons, firstComment_nil]
  | more l k hl ih =>
    rw [lineRests_append_newline hl]
    simp only [firstComment_cons, exists_or, exists_and_left, ← ih]
    by_cases hb : AllBlank l
    · rw [findSome?_blank_line hb]
      simp [not_isComment_of_allBlank hb]
    · have hline : '\n' ∉ (l ++ '\n' :: k).takeWhile isBlank :=
        not_mem_takeWhile_of_not_allBlank hl hb _
      exact findSome?_cons_iff fun x => comment?_iff_isComment hlabel hline

/-! ## Line by line -/

theorem not_mem_of_isComment_line (h : IsComment label m x l) (hl : '\n' ∉ l) : '\n' ∉ m := by
  obtain ⟨b, t, -, -, ⟨-, -, c, rest, -, -, -, rfl⟩, rfl⟩ := h
  simp only [List.mem_append, not_or] at hl
  exact hl.2.1.1.1

/-- The comments of a line are those that end on it. -/
theorem isComment_line_iff (hl : '\n' ∉ l) (k : List Char) :
    IsComment label m x l ↔ IsComment label m x (l ++ '\n' :: k) ∧ '\n' ∉ m := by
  constructor
  · intro h
    refine ⟨?_, not_mem_of_isComment_line h hl⟩
    obtain ⟨b, t, hb, hbline, ⟨hm, hx, c, rest, hc, hcline, hrest, rfl⟩, rfl⟩ := h
    simp only [List.mem_append, not_or] at hl
    obtain rfl : rest = [] := hrest.eq_nil hl.2.2
    exact ⟨b, _, hb, hbline, ⟨hm, hx, c, _, hc, hcline, endsLine_newline k, rfl⟩, by simp⟩
  · rintro ⟨⟨b, t, hb, hbline, ⟨hm, hx, c, rest, hc, hcline, hrest, rfl⟩, hsplit⟩, hmline⟩
    have hown : '\n' ∉ b ++ m ++ x ++ c := by
      simp only [List.mem_append, not_or]
      exact ⟨⟨⟨hbline, hmline⟩, hx.one_line⟩, hcline⟩
    have hwhole : (l ++ '\n' :: k).takeWhile (· != '\n') = l :=
      (line_iff.2 ⟨hl, endsLine_newline k, rfl⟩).1
    have hcomment : (l ++ '\n' :: k).takeWhile (· != '\n') = b ++ m ++ x ++ c :=
      (line_iff.2 ⟨hown, hrest, hsplit.trans (by simp)⟩).1
    obtain rfl : l = b ++ m ++ x ++ c := hwhole.symm.trans hcomment
    exact ⟨b, _, hb, hbline, ⟨hm, hx, c, [], hc, hcline, endsLine_nil, rfl⟩, by simp⟩

theorem firstComment_lines (hm : '\n' ∉ m) (h : FirstComment label (lineRests text) m x) :
    FirstComment label (lines text) m x := by
  induction text using inductLines with
  | last l hl => rwa [lines_of_not_mem hl, ← lineRests_of_not_mem hl]
  | more l k hl ih =>
    rw [lineRests_append_newline hl, firstComment_cons] at h
    rw [lines_append_newline, lines_of_not_mem hl, List.singleton_append, firstComment_cons]
    rcases h with h | ⟨hnone, h⟩
    · exact .inl ((isComment_line_iff hl k).2 ⟨h, hm⟩)
    · exact .inr ⟨fun m x h => hnone m x ((isComment_line_iff hl k).1 h).1, ih h⟩

theorem exists_firstComment_lineRests (h : FirstComment label (lines text) m x) :
    ∃ m x, FirstComment label (lineRests text) m x := by
  induction text using inductLines with
  | last l hl =>
    rw [lines_of_not_mem hl, ← lineRests_of_not_mem hl] at h
    exact ⟨m, x, h⟩
  | more l k hl ih =>
    rw [lines_append_newline, lines_of_not_mem hl, List.singleton_append, firstComment_cons] at h
    rw [lineRests_append_newline hl]
    simp only [firstComment_cons]
    by_cases hnone : ∀ m x, ¬ IsComment label m x (l ++ '\n' :: k)
    · rcases h with h | ⟨-, h⟩
      · exact absurd ((isComment_line_iff hl k).1 h).1 (hnone m x)
      · obtain ⟨m, x, h⟩ := ih h
        exact ⟨m, x, .inr ⟨hnone, h⟩⟩
    · push Not at hnone
      obtain ⟨m, x, h⟩ := hnone
      exact ⟨m, x, .inl h⟩

/-! ## What a header says -/

/-- A value is what the first comment with a label says, on whatever line that ends. The lines of
the header, each read for itself, say the same exactly if they do so where the first comment runs
over the end of its line. -/
structure IsSaid (label : String) (text : List Char) (value : Option String) : Prop where
  eq_some_iff : ∀ x, value = some x ↔
    ∃ m, FirstComment label (lineRests (headerBlock text)) m x.toList
  by_line_iff : (∀ x, value = some x ↔
      ∃ m, FirstComment label ((lines text).take headerLines) m x.toList) ↔
    ∀ m x, FirstComment label (lineRests (headerBlock text)) m x → '\n' ∈ m →
      ∃ m', FirstComment label ((lines text).take headerLines) m' x

theorem isSaid_firstComment? (hlabel : IsLabel label) (text : List Char) :
    IsSaid label text (firstComment? label (headerBlock text)) := by
  have hfirst : ∀ x, firstComment? label (headerBlock text) = some x ↔
      ∃ m, FirstComment label (lineRests (headerBlock text)) m x.toList := by
    intro x
    rw [← findSome?_lineRests hlabel, firstComment?, Option.map_eq_some_iff]
    constructor
    · rintro ⟨l, hl, rfl⟩
      rwa [String.toList_ofList]
    · intro h
      exact ⟨_, h, String.ofList_toList⟩
  refine ⟨hfirst, ?_⟩
  rw [← lines_headerBlock]
  constructor
  · intro hline m x hm _
    have hvalue : firstComment? label (headerBlock text) = some (String.ofList x) :=
      (hfirst _).2 ⟨m, by rwa [String.toList_ofList]⟩
    simpa using (hline _).1 hvalue
  · intro hover x
    have hline : ∀ m x, FirstComment label (lineRests (headerBlock text)) m x →
        ∃ m', FirstComment label (lines (headerBlock text)) m' x := by
      intro m x hm
      by_cases hmline : '\n' ∈ m
      · exact hover m x hm hmline
      · exact ⟨m, firstComment_lines hmline hm⟩
    rw [hfirst]
    constructor
    · rintro ⟨m, hm⟩
      exact hline m _ hm
    · rintro ⟨m, hm⟩
      obtain ⟨m', x', hm'⟩ := exists_firstComment_lineRests hm
      obtain ⟨m'', hm''⟩ := hline m' x' hm'
      obtain rfl : x.toList = x' := hm.value_eq hlabel hm''
      exact ⟨m', hm'⟩

/-- The name and the description of a header are said by its comments. -/
theorem comments_said (text : List Char) :
    IsSaid "name" text (classify text).name ∧
      IsSaid "description" text (classify text).description := by
  constructor
  · exact isSaid_firstComment? (by decide) text
  · exact isSaid_firstComment? (by decide) text

/-- A comment without a name takes the next line for one. -/
theorem next_line_said :
    (classify "// name:\n// type: vdi_plugin".toList).name = some "// type: vdi_plugin" ∧
      ∀ m x, ¬ FirstComment "name" ((lines "// name:\n// type: vdi_plugin".toList).take headerLines)
        m x := by
  have hlines : (lines "// name:\n// type: vdi_plugin".toList).take headerLines =
      ["// name:".toList, "// type: vdi_plugin".toList] := by decide +kernel
  have hnone : ∀ t ∈ ["// name:".toList, "// type: vdi_plugin".toList],
      '\n' ∉ t.takeWhile isBlank ∧ comment? "name" t = none := by decide +kernel
  refine ⟨by decide +kernel, ?_⟩
  rintro m x ⟨before, t, after, htexts, hcomment, -⟩
  rw [hlines] at htexts
  have ht : t ∈ ["// name:".toList, "// type: vdi_plugin".toList] := by
    rw [htexts]
    exact List.mem_append_right _ (List.mem_cons_self ..)
  obtain ⟨hline, hno⟩ := hnone t ht
  have hsome : comment? "name" t = some x :=
    (comment?_iff_isComment (by decide) hline).2 ⟨m, hcomment⟩
  rw [hno] at hsome
  cases hsome

end PluginAudit.Plugin

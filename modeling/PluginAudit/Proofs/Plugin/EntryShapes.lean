import PluginAudit.Proofs.Plugin.Header
import PluginAudit.Proofs.Plugin.Wrapper
import PluginAudit.Proofs.Text.Packing

/-!
# Entry points by their written shape

The search takes the first shape with its shortest body. A body may run over other places where a
shape begins, and one may begin within the name or the parameters of another. Even so the count is
as large as it can be: an opening that begins later does not end before, and a call that closes a
shape cannot end behind one that begins within it.
-/

namespace PluginAudit.Plugin

open Text Script

variable {text rest o l r b t u w x y : List Char}

/-! ## Parts of the shape -/

/-- `return (function name (…) {` up to the brace, the name being optional. -/
def IsOpening (o : List Char) : Prop :=
  ∃ b₁ b₂ b₃ name b₄ parameters b₅, AllBlank b₁ ∧ AllBlank b₂ ∧ AllBlank b₃ ∧
    (∀ c ∈ name, isShapeNameCharacter c = true) ∧ AllBlank b₄ ∧ ')' ∉ parameters ∧ AllBlank b₅ ∧
    (b₃ ++ name ++ b₄ ++ ['(']).head?.any isWord = false ∧
    o = "return".toList ++ b₁ ++ '(' :: b₂ ++ "function".toList ++ b₃ ++ name ++ b₄ ++
      '(' :: parameters ++ ')' :: b₅ ++ ['\x7b']

/-- `) (…) ;`, what follows the brace at the end of the body. -/
def IsCall (r : List Char) : Prop :=
  ∃ b₁ b₂ arguments b₃, AllBlank b₁ ∧ AllBlank b₂ ∧ ')' ∉ arguments ∧ AllBlank b₃ ∧
    r = b₁ ++ ')' :: b₂ ++ '(' :: arguments ++ ')' :: b₃ ++ [';']

/-- `return (function name (…) { … }) (…);` with any text as the body. -/
def IsEntryShape (s : List Char) : Prop :=
  ∃ o body r, IsOpening o ∧ IsCall r ∧ s = o ++ body ++ '\x7d' :: r

theorem upTo?_eq_some {stop : Char} {taken : List Char} :
    upTo? stop text = some (taken, rest) ↔ stop ∉ taken ∧ text = taken ++ stop :: rest := by
  induction text generalizing taken with
  | nil => simp [upTo?]
  | cons c cs ih =>
    by_cases hc : c = stop
    · subst hc
      cases taken with
      | nil => simp [upTo?, eq_comm]
      | cons d ds =>
        have hne : c = d → c ∈ d :: ds := fun h => h ▸ List.mem_cons_self ..
        simp only [upTo?, BEq.rfl, if_true, Option.some.injEq, Prod.mk.injEq, List.cons_append,
          List.cons.injEq]
        exact iff_of_false (fun h => nomatch h.1) fun h => h.1 (hne h.2.1)
    · simp only [upTo?, beq_iff_eq, hc, if_false, Option.map_eq_some_iff, Prod.exists,
        Prod.mk.injEq]
      constructor
      · rintro ⟨ds, _, hds, rfl, rfl⟩
        obtain ⟨hstop, rfl⟩ := ih.1 hds
        exact ⟨by simp [hstop, Ne.symm hc], rfl⟩
      · rintro ⟨hstop, htext⟩
        cases taken with
        | nil => exact absurd (List.cons.inj htext).1 hc
        | cons d ds =>
          obtain ⟨rfl, hcs⟩ := List.cons.inj htext
          have hds : stop ∉ ds := fun h => hstop (List.mem_cons_of_mem c h)
          exact ⟨ds, rest, ih.2 ⟨hds, hcs⟩, rfl, rfl⟩

theorem afterParens?_eq_some : afterParens? text = some rest ↔
    ∃ b inner, AllBlank b ∧ ')' ∉ inner ∧ text = b ++ '(' :: inner ++ ')' :: rest := by
  have hparen : ['('].head?.any (!isBlank ·) = true := by decide
  simp only [afterParens?, Option.bind_eq_bind, Option.pure_def, Option.bind_eq_some_iff,
    afterBlanks?_eq_some hparen, Option.some.injEq, Prod.exists, upTo?_eq_some]
  constructor
  · rintro ⟨_, ⟨b, hb, rfl⟩, inner, _, ⟨hinner, rfl⟩, rfl⟩
    exact ⟨b, inner, hb, hinner, by simp⟩
  · rintro ⟨b, inner, hb, hinner, rfl⟩
    exact ⟨inner ++ ')' :: rest, ⟨b, hb, by simp⟩, inner, rest, ⟨hinner, rfl⟩, rfl⟩

theorem afterBody?_eq_some :
    afterBody? text = some rest ↔ ∃ r, IsCall r ∧ text = r ++ rest := by
  have hclose : [')'].head?.any (!isBlank ·) = true := by decide
  have hend : [';'].head?.any (!isBlank ·) = true := by decide
  simp only [afterBody?, Option.bind_eq_bind, Option.bind_eq_some_iff,
    afterBlanks?_eq_some hclose, afterParens?_eq_some, afterBlanks?_eq_some hend]
  constructor
  · rintro ⟨_, ⟨b₁, hb₁, rfl⟩, _, ⟨b₂, arguments, hb₂, harguments, rfl⟩, b₃, hb₃, rfl⟩
    exact ⟨_, ⟨b₁, b₂, arguments, b₃, hb₁, hb₂, harguments, hb₃, rfl⟩, by simp⟩
  · rintro ⟨_, ⟨b₁, b₂, arguments, b₃, hb₁, hb₂, harguments, hb₃, rfl⟩, rfl⟩
    exact ⟨b₂ ++ '(' :: arguments ++ ')' :: b₃ ++ ';' :: rest, ⟨b₁, hb₁, by simp⟩,
      b₃ ++ ';' :: rest, ⟨b₂, arguments, hb₂, harguments, by simp⟩, b₃, hb₃, by simp⟩

theorem afterFunctionWord?_eq_some : afterFunctionWord? text = some rest ↔
    rest.head?.any isWord = false ∧ ∃ b, AllBlank b ∧ text = b ++ "function".toList ++ rest := by
  have hword : "function".toList.head?.any (!isBlank ·) = true := by decide
  have hhead : ∀ t : List Char, (t.head?.map isWord).getD false = t.head?.any isWord := by
    intro t
    cases t <;> rfl
  simp only [afterFunctionWord?, Option.bind_eq_bind, Option.pure_def, Option.bind_eq_some_iff,
    afterBlanks?_eq_some hword, hhead]
  constructor
  · rintro ⟨t, hblank, h⟩
    cases ht : t.head?.any isWord with
    | true => simp [ht] at h
    | false =>
      simp only [ht, Bool.false_eq_true, if_false, Option.some.injEq] at h
      exact h ▸ ⟨ht, hblank⟩
  · rintro ⟨hrest, hblank⟩
    exact ⟨rest, hblank, by simp [hrest]⟩

theorem not_isBlank_of_isShapeNameCharacter {c : Char} (h : isShapeNameCharacter c = true) :
    isBlank c = false := by
  simp only [isShapeNameCharacter, Bool.or_eq_true, beq_iff_eq] at h
  rcases h with (h | rfl) | rfl
  · exact not_isBlank_of_isAlphanum h
  · rfl
  · rfl

/-- The name is read as far as it goes; whatever is before the parenthesis is no part of it. -/
theorem afterName_eq_some :
    afterParens? ((skipBlanks text).dropWhile isShapeNameCharacter) = some rest ↔
      ∃ b name c inner, AllBlank b ∧ (∀ d ∈ name, isShapeNameCharacter d = true) ∧ AllBlank c ∧
        ')' ∉ inner ∧ text = b ++ name ++ c ++ '(' :: inner ++ ')' :: rest := by
  rw [afterParens?_eq_some]
  constructor
  · rintro ⟨c, inner, hc, hinner, hdrop⟩
    generalize hrest : skipBlanks text = named at hdrop
    obtain ⟨b, hb, -, rfl⟩ := skipBlanks_eq_iff.1 hrest
    obtain ⟨hname, -, hsplit⟩ := takeWhile_dropWhile_iff.1 ⟨rfl, hdrop⟩
    refine ⟨b, _, c, inner, hb, hname, hc, hinner, ?_⟩
    rw [List.append_assoc b, List.append_assoc b, List.append_assoc b]
    exact congrArg (b ++ ·) (hsplit.trans (by simp))
  · rintro ⟨b, name, c, inner, hb, hname, hc, hinner, rfl⟩
    have hparen : isBlank '(' = false ∧ isShapeNameCharacter '(' = false := by decide
    cases name with
    | nil =>
      have hbc : AllBlank (b ++ c) := fun d hd => (List.mem_append.1 hd).elim (hb d) (hc d)
      have hskip : skipBlanks (b ++ [] ++ c ++ '(' :: inner ++ ')' :: rest) =
          '(' :: inner ++ ')' :: rest :=
        skipBlanks_eq_iff.2 ⟨b ++ c, hbc, hparen.1, by simp⟩
      rw [hskip]
      exact ⟨[], inner, nofun, hinner, List.dropWhile_cons_of_neg (by simp [hparen.2])⟩
    | cons d ds =>
      have hd : isBlank d = false :=
        not_isBlank_of_isShapeNameCharacter (hname d (List.mem_cons_self ..))
      have hskip : skipBlanks (b ++ d :: ds ++ c ++ '(' :: inner ++ ')' :: rest) =
          d :: ds ++ (c ++ '(' :: inner ++ ')' :: rest) :=
        skipBlanks_eq_iff.2 ⟨b, hb, hd, by simp⟩
      rw [hskip]
      refine ⟨c, inner, hc, hinner, (takeWhile_dropWhile_iff.2 ⟨hname, ?_, rfl⟩).2⟩
      cases c with
      | nil => exact hparen.2
      | cons e es =>
        exact Bool.eq_false_iff.2 fun he =>
          hc.not_mem (not_isBlank_of_isShapeNameCharacter he) (List.mem_cons_self ..)

theorem shortestBody?_sound (h : shortestBody? text = some rest) :
    ∃ body r, IsCall r ∧ text = body ++ '\x7d' :: r ++ rest := by
  induction text with
  | nil => cases h
  | cons c cs ih =>
    have hlater : shortestBody? cs = some rest →
        ∃ body r, IsCall r ∧ c :: cs = body ++ '\x7d' :: r ++ rest := by
      intro hcs
      obtain ⟨body, r, hr, rfl⟩ := ih hcs
      exact ⟨c :: body, r, hr, rfl⟩
    rw [shortestBody?] at h
    split at h
    · next hc =>
      cases hcall : afterBody? cs with
      | some found =>
        rw [hcall, Option.some_or, Option.some.injEq] at h
        obtain ⟨r, hr, rfl⟩ := afterBody?_eq_some.1 hcall
        rw [eq_of_beq hc, h]
        exact ⟨[], r, hr, rfl⟩
      | none =>
        rw [hcall, Option.none_or] at h
        exact hlater h
    · exact hlater h

theorem entryShape_eq_some {before : Option Char} {a : Unit} :
    entryShape before text = some (a, rest) ↔
      ∃ o t, IsOpening o ∧ text = o ++ t ∧ shortestBody? t = some rest := by
  have hparen : ['('].head?.any (!isBlank ·) = true := by decide
  have hbrace : ['\x7b'].head?.any (!isBlank ·) = true := by decide
  have hhead : ∀ n m k : List Char, (n ++ '(' :: m ++ k).head? = (n ++ ['(']).head? := by
    intro n m k
    cases n <;> rfl
  simp only [entryShape, Option.bind_eq_bind, Option.pure_def, Option.bind_eq_some_iff,
    after?_eq_some, afterBlanks?_eq_some hparen, afterFunctionWord?_eq_some, afterName_eq_some,
    afterBlanks?_eq_some hbrace, Option.some.injEq, Prod.mk.injEq]
  constructor
  · rintro ⟨_, rfl, _, ⟨b₁, hb₁, rfl⟩, _, ⟨hword, b₂, hb₂, rfl⟩, _,
      ⟨b₃, name, b₄, parameters, hb₃, hname, hb₄, hparameters, rfl⟩, t, ⟨b₅, hb₅, rfl⟩, _, hbody,
      _, rfl⟩
    rw [hhead] at hword
    exact ⟨_, t, ⟨b₁, b₂, b₃, name, b₄, parameters, b₅, hb₁, hb₂, hb₃, hname, hb₄, hparameters,
      hb₅, hword, rfl⟩, by simp, hbody⟩
  · rintro ⟨_, t, ⟨b₁, b₂, b₃, name, b₄, parameters, b₅, hb₁, hb₂, hb₃, hname, hb₄, hparameters,
      hb₅, hword, rfl⟩, rfl, hbody⟩
    let brace := b₅ ++ ['\x7b'] ++ t
    let function := b₃ ++ name ++ b₄ ++ '(' :: parameters ++ ')' :: brace
    have hfunction : function.head?.any isWord = false := (congrArg _ (hhead ..)).trans hword
    refine ⟨b₁ ++ ['('] ++ (b₂ ++ "function".toList ++ function), ?_,
      b₂ ++ "function".toList ++ function, ⟨b₁, hb₁, rfl⟩, function, ⟨hfunction, b₂, hb₂, rfl⟩,
      brace, ⟨b₃, name, b₄, parameters, hb₃, hname, hb₄, hparameters, rfl⟩, t, ⟨b₅, hb₅, rfl⟩,
      rest, hbody, trivial, rfl⟩
    simp [function, brace]

/-! ## Shapes that overlap -/

theorem exists_of_not_mem {c : Char} {m z : List Char} (hl : c ∉ l)
    (h : y ++ c :: z = l ++ m) : ∃ v, m = v ++ c :: z := by
  rcases List.append_eq_append_iff.1 h with ⟨v, rfl, hv⟩ | ⟨v, rfl, hv⟩
  · cases v with
    | nil => exact ⟨[], hv.symm⟩
    | cons d ds =>
      rw [(List.cons.inj hv).1] at hl
      exact absurd (List.mem_append_right y (List.mem_cons_self ..)) hl
  · exact ⟨v, hv⟩

/-- Behind a character that stands further on there is less left than behind the first one. -/
theorem suffix_of_first {c : Char} {a b p q : List Char} (ha : c ∉ a)
    (h : p ++ c :: q = a ++ c :: b) : q <:+ b := by
  obtain ⟨v, hv⟩ := exists_of_not_mem ha h
  cases v with
  | nil => exact (List.cons.inj hv).2 ▸ List.suffix_rfl
  | cons d ds => exact ⟨ds ++ [c], by simp [(List.cons.inj hv).2]⟩

theorem IsOpening.exists_split (ho : IsOpening o) :
    ∃ a b, ')' ∉ a ∧ AllBlank b ∧ o = a ++ ')' :: b ++ ['\x7b'] := by
  obtain ⟨b₁, b₂, b₃, name, b₄, parameters, b₅, hb₁, hb₂, hb₃, hname, hb₄, hparameters, hb₅, -,
    rfl⟩ := ho
  have hblank : isBlank ')' = false := by decide
  have hname' : ')' ∉ name := fun hmem => absurd (hname _ hmem) (by decide)
  have hwords : ')' ∉ "return".toList ∧ ')' ∉ "function".toList := by decide
  refine ⟨_, b₅, ?_, hb₅, rfl⟩
  simp only [List.mem_append, List.mem_cons, not_or]
  exact ⟨⟨⟨⟨⟨⟨⟨hwords.1, hb₁.not_mem hblank⟩, by decide, hb₂.not_mem hblank⟩, hwords.2⟩,
    hb₃.not_mem hblank⟩, hname'⟩, hb₄.not_mem hblank⟩, by decide, hparameters⟩

/-- An opening within another ends with it. -/
theorem IsOpening.ends_with {o' : List Char} (ho : IsOpening o) (ho' : IsOpening o')
    (h : l ++ o' ++ w = o) : w = [] := by
  obtain ⟨a, b, ha, hb, rfl⟩ := ho.exists_split
  obtain ⟨a', b', -, -, rfl⟩ := ho'.exists_split
  rcases List.eq_nil_or_concat w with hnil | ⟨v, d, rfl⟩
  · exact hnil
  · have hlast : (l ++ a') ++ ')' :: (b' ++ '\x7b' :: v) ++ [d] = a ++ ')' :: b ++ ['\x7b'] := by
      simpa using h
    have hsuffix : b' ++ '\x7b' :: v <:+ b :=
      suffix_of_first ha (List.append_inj' hlast rfl).1
    have hmem : '\x7b' ∈ b := hsuffix.mem (List.mem_append_right b' (List.mem_cons_self ..))
    exact absurd hmem (hb.not_mem (by decide))

/-- Only the arguments of a call may hold a brace. -/
theorem IsCall.behind_brace {z : List Char} (h : IsCall (y ++ '\x7d' :: z)) :
    ∃ a b, ')' ∉ a ∧ AllBlank b ∧ z = a ++ ')' :: b ++ [';'] := by
  obtain ⟨b₁, b₂, arguments, b₃, hb₁, hb₂, harguments, hb₃, hcall⟩ := h
  have hblank : isBlank '\x7d' = false := by decide
  have hstart : '\x7d' ∉ b₁ ++ ')' :: b₂ ++ ['('] := by
    simp [hb₁.not_mem hblank, hb₂.not_mem hblank]
  have hstop : '\x7d' ∉ ')' :: b₃ ++ [';'] := by
    simp [hb₃.not_mem hblank]
  obtain ⟨v, hv⟩ := exists_of_not_mem (m := arguments ++ (')' :: b₃ ++ [';'])) hstart
    (hcall.trans (by simp))
  rcases List.append_eq_append_iff.1 hv with ⟨u, rfl, hu⟩ | ⟨u, rfl, hu⟩
  · rw [hu] at hstop
    exact absurd (List.mem_append_right u (List.mem_cons_self ..)) hstop
  · cases u with
    | nil =>
      rw [← List.nil_append (')' :: b₃ ++ [';']), ← hu] at hstop
      exact absurd (List.mem_cons_self ..) hstop
    | cons d ds =>
      obtain ⟨-, hz⟩ := List.cons.inj hu
      refine ⟨ds, b₃, fun hmem => harguments ?_, hb₃, hz.trans (List.append_assoc ..).symm⟩
      exact List.mem_append_right v (List.mem_cons_of_mem d hmem)

/-- The first parenthesis of a call is followed by another, not by a semicolon. -/
theorem IsCall.ne_end {c a : List Char} (hc : IsCall c) (ha : ')' ∉ a) (hb : AllBlank b) :
    c ++ r ≠ a ++ ')' :: (b ++ ';' :: rest) := by
  obtain ⟨b₁, b₂, arguments, b₃, hb₁, hb₂, -, -, rfl⟩ := hc
  intro h
  have hcut : b ++ ';' :: rest = b₂ ++ '(' :: (arguments ++ ')' :: b₃ ++ ';' :: r) := by
    have hsame : a ++ ')' :: (b ++ ';' :: rest) =
        b₁ ++ ')' :: (b₂ ++ '(' :: (arguments ++ ')' :: b₃ ++ ';' :: r)) := by
      rw [← h]
      simp
    exact (suffix_of_first (hb₁.not_mem (by decide)) hsame).eq_of_length_le
      (suffix_of_first ha hsame.symm).length_le
  have hopen : skipBlanks (b ++ ';' :: rest) = '(' :: (arguments ++ ')' :: b₃ ++ ';' :: r) :=
    skipBlanks_eq_iff.2 ⟨b₂, hb₂, rfl, hcut⟩
  have hend : skipBlanks (b ++ ';' :: rest) = ';' :: rest := skipBlanks_eq_iff.2 ⟨b, hb, rfl, rfl⟩
  cases hopen.symm.trans hend

/-- A call behind a brace does not begin within another call, so it ends later. -/
theorem IsCall.suffix_of_brace {c c' : List Char} (hc : IsCall c) (hc' : IsCall c')
    (h : y ++ '\x7d' :: (c' ++ r) = c ++ rest) : r <:+ rest := by
  rcases List.append_eq_append_iff.1 h with ⟨z, rfl, hz⟩ | ⟨z, rfl, hz⟩
  · cases z with
    | nil =>
      have hrest : '\x7d' :: c' ++ r = rest := hz
      exact hrest ▸ List.suffix_append _ r
    | cons d ds =>
      obtain ⟨rfl, hbehind⟩ := List.cons.inj hz
      obtain ⟨a, b, ha, hb, rfl⟩ := hc.behind_brace
      have hwhole : c' ++ r = a ++ ')' :: (b ++ ';' :: rest) := hbehind.trans (by simp)
      exact absurd hwhole (hc'.ne_end ha hb)
  · rw [hz, ← List.cons_append, ← List.append_assoc]
    exact List.suffix_append _ r

/-- The shortest body leaves no less than any other. -/
theorem shortestBody?_first {c : List Char} (hc : IsCall c) (h : text = x ++ '\x7d' :: (c ++ r)) :
    ∃ rest, shortestBody? text = some rest ∧ r <:+ rest := by
  have hcall : afterBody? (c ++ r) = some r := afterBody?_eq_some.2 ⟨c, hc, rfl⟩
  induction text generalizing x with
  | nil => simp at h
  | cons d ds ih =>
    rw [shortestBody?]
    cases x with
    | nil =>
      obtain ⟨rfl, rfl⟩ := List.cons.inj h
      exact ⟨r, by simp [hcall], List.suffix_rfl⟩
    | cons e es =>
      obtain ⟨rfl, hds⟩ := List.cons.inj h
      split
      · cases hfound : afterBody? ds with
        | none => exact ih hds
        | some rest =>
          obtain ⟨c', hc', rfl⟩ := afterBody?_eq_some.1 hfound
          exact ⟨rest, rfl, hc'.suffix_of_brace hc hds.symm⟩
      · exact ih hds

theorem entryShape_findsFirst : Matcher.FindsFirst entryShape IsEntryShape where
  sound h := by
    obtain ⟨o, t, ho, rfl, hbody⟩ := entryShape_eq_some.1 h
    obtain ⟨body, r, hr, rfl⟩ := shortestBody?_sound hbody
    refine ⟨o ++ body ++ '\x7d' :: r, by simp, ⟨o, body, r, ho, hr, rfl⟩, by simp⟩
  complete := by
    rintro before s r ⟨o, body, c, ho, hc, rfl⟩ hnone
    obtain ⟨rest, hbody, -⟩ := shortestBody?_first (x := body) (r := r) hc rfl
    have hsome : entryShape before (o ++ body ++ '\x7d' :: c ++ r) = some ((), rest) :=
      entryShape_eq_some.2 ⟨o, _, ho, by simp, hbody⟩
    rw [hnone] at hsome
    cases hsome
  first := by
    rintro before text _ rest l s r h ⟨o', body, c, ho', hc, rfl⟩ rfl
    obtain ⟨o, t, ho, htext, hbody⟩ := entryShape_eq_some.1 h
    have hopen : l ++ o' ++ (body ++ '\x7d' :: (c ++ r)) = o ++ t := by
      simpa using htext
    -- The other opening ends with this one or behind it, so its body ends where this one may end.
    obtain ⟨z, rfl⟩ : ∃ z, t = z ++ (body ++ '\x7d' :: (c ++ r)) := by
      rcases List.append_eq_append_iff.1 hopen with ⟨w, hw, ht⟩ | ⟨z, _, hz⟩
      · rw [ho.ends_with ho' hw.symm, List.nil_append] at ht
        exact ⟨[], ht.symm⟩
      · exact ⟨z, hz⟩
    obtain ⟨rest', hbody', hsuffix⟩ := shortestBody?_first hc (List.append_assoc z body _).symm
    rw [hbody] at hbody'
    rwa [Option.some.inj hbody']

/-! ## The count -/

/-- The count for a text that is no script, even one that may return: as many shapes as the text
has room for without overlaps. -/
theorem scan_counts_shapes {text : List Char} (hbroken : IsBroken text) :
    let scan := scanEntryPoints text
    scan.method = .pattern ∧
    IsGreatest {k | Packing IsEntryShape text k} scan.count ∧
    (scan.count = 0 ↔ ∀ s, s <:+: text → ¬ IsEntryShape s) := by
  have hgreatest : IsGreatest {k | Packing IsEntryShape text k} (countShapes text) :=
    entryShape_findsFirst.isGreatest text
  rw [hbroken.scanEntryPoints]
  exact ⟨rfl, hgreatest, greatest_eq_zero_iff hgreatest⟩

/-- Of the first two shapes one begins in the name of the other. -/
theorem scan_counts_shapes_in_name :
    let text := "return(function return(function()\x7b\x7d)();return(function()\x7b\x7d)();".toList
    IsBroken text ∧ IsGreatest {k | Packing IsEntryShape text k} 2 := by
  intro text
  have hbroken : IsBroken text := not_read (by decide +kernel)
  have hcount : (scanEntryPoints text).count = 2 := by
    rw [hbroken.scanEntryPoints]
    decide +kernel
  have hgreatest := (scan_counts_shapes hbroken).2.1
  rw [hcount] at hgreatest
  exact ⟨hbroken, hgreatest⟩

end PluginAudit.Plugin

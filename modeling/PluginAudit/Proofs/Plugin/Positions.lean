import PluginAudit.Proofs.Plugin.Acceptance
import PluginAudit.Proofs.Text.Offsets

/-!
# Where problems are said to be

A text that is read as it stands is refused at a place of its own. In the wrapper a fault may be
found behind the text, where the wrapper closes, or before it, where it opens.
-/

namespace PluginAudit.Plugin

open Text Script

/-! ## The lines of the wrapper -/

def openingLine : List Char := "(function __plugin_entry__() \x7b".toList

def closingLine : List Char := "\x7d)();".toList

theorem wrapperOpening_eq : wrapperOpening = openingLine ++ ['\n'] := by decide

theorem wrapperClosing_eq : wrapperClosing = '\n' :: closingLine := by decide

theorem wrap_eq (text : List Char) :
    wrap text = openingLine ++ '\n' :: (text ++ '\n' :: closingLine) := by
  rw [wrap, wrapperOpening_eq, wrapperClosing_eq]
  simp

theorem byteLength_wrapperOpening : byteLength wrapperOpening = byteLength openingLine + 1 := by
  rw [wrapperOpening_eq, byteLength_append, byteLength_newline, byteLength_nil]

theorem byteLength_wrapperClosing : byteLength wrapperClosing = byteLength closingLine + 1 := by
  rw [wrapperClosing_eq, byteLength_newline]

theorem byteLength_wrap (text : List Char) :
    byteLength (wrap text) =
      byteLength wrapperOpening + byteLength text + byteLength wrapperClosing := by
  rw [wrap, byteLength_append, byteLength_append]

theorem not_mem_openingLine : '\n' ∉ openingLine := by decide

theorem not_mem_closingLine : '\n' ∉ closingLine := by decide

theorem byteLength_of_prefix_openingLine {l : List Char} (h : l <+: openingLine) :
    byteLength l = l.length := by
  have hsize : openingLine.all (fun c => c.utf8Size == 1) = true := by decide
  exact byteLength_eq_length fun c hc => eq_of_beq (List.all_eq_true.1 hsize c (h.subset hc))

/-! ## Places in the wrapper -/

variable {text : List Char} {o : Nat} {p : Position}

theorem locate_eq_some {full : List Char} {a : Attempt} :
    locate full o a = some p ↔
      ∃ l, l <+: full ∧ byteLength l = min o (byteLength full) ∧
        p = a.relocate (Position.after l) := by
  simp only [locate, Position.ofOffset?, Option.map_eq_some_iff, takeBytes?_eq_some]
  constructor
  · rintro ⟨_, ⟨l, ⟨hl, hlength⟩, rfl⟩, rfl⟩
    exact ⟨l, hl, hlength, rfl⟩
  · rintro ⟨l, hl, hlength, rfl⟩
    exact ⟨_, ⟨l, ⟨hl, hlength⟩, rfl⟩, rfl⟩

theorem isOf_of_locate_bare (h : locate text o .bare = some p) : p.IsOf text := by
  obtain ⟨l, ⟨m, rfl⟩, _, rfl⟩ := locate_eq_some.1 h
  exact Position.after_isOf l m

theorem relocate_opening {l : List Char} (h : l <+: openingLine) :
    Attempt.wrapped.relocate (Position.after l) = ⟨1, l.length + 1⟩ := by
  have hl : '\n' ∉ l := fun hmem => not_mem_openingLine (h.subset hmem)
  rw [Position.after_of_not_mem hl]
  rfl

theorem relocate_own (l : List Char) :
    Attempt.wrapped.relocate (Position.after (openingLine ++ '\n' :: l)) = Position.after l := by
  have hline : max (1 + (Position.after l).line - wrapperLines) 1 = (Position.after l).line := by
    have hpos : 1 ≤ (Position.after l).line := Nat.le_add_left 1 _
    rw [wrapperLines]
    omega
  rw [Position.after_append_newline, Position.after_of_not_mem not_mem_openingLine,
    Attempt.relocate, hline]

theorem relocate_closing {l : List Char} (h : l <+: closingLine) :
    (Attempt.wrapped.relocate (Position.after (openingLine ++ '\n' :: (text ++ '\n' :: l)))).line =
      (lines text).length + 1 := by
  have hl : '\n' ∉ l := fun hmem => not_mem_closingLine (h.subset hmem)
  rw [relocate_own, Position.after_append_newline, Position.after_of_not_mem hl,
    Position.line_after]

theorem takeBytes?_wrap (h : o ≤ byteLength text) :
    takeBytes? (byteLength wrapperOpening + o) (wrap text) =
      (takeBytes? o text).map (wrapperOpening ++ ·) := by
  rw [wrap, List.append_assoc, takeBytes?_append_left, takeBytes?_append_right h]

theorem locate_bare_eq (h : o ≤ byteLength text) :
    locate text o .bare = (takeBytes? o text).map Position.after := by
  rw [locate, Position.ofOffset?, Nat.min_eq_left h, Option.map_map]
  rfl

theorem locate_bare (text : List Char) (o : Nat) :
    locate text o .bare = Position.ofOffset? text o :=
  Option.map_id'

/-- The place of an offset says which offset it is. Between two characters every offset has a
place, the places come in the order of their offsets, and behind the text all offsets are at its
end. -/
theorem locate_bare_identifies (text : List Char) :
    (∀ o ≤ byteLength text,
      (¬ IsInsideCharacter text o → ∃ p, locate text o .bare = some p) ∧
      ∀ p, locate text o .bare = some p ↔ p.IsOf text ∧ p.offsetIn text = o) ∧
    (∀ o ≤ byteLength text, ∀ o' ≤ byteLength text, ∀ p p',
      locate text o .bare = some p → locate text o' .bare = some p' →
      (p = p' ↔ o = o') ∧ (p.Before p' ↔ o < o')) ∧
    ∀ o, byteLength text ≤ o → locate text o .bare =
      some ⟨(lines text).length, ((lines text).getLast (lines_ne_nil text)).length + 1⟩ := by
  simp only [locate_bare]
  refine ⟨fun o h => ⟨fun hbetween => ?_, fun p => Position.ofOffset?_eq_some h⟩, ?_, ?_⟩
  · rw [← Option.isSome_iff_exists, Option.isSome_iff_ne_none]
    exact fun hnone => hbetween ((Position.ofOffset?_eq_none h).1 hnone)
  · intro o h o' h' p p' ho ho'
    refine ⟨⟨?_, ?_⟩, Position.ofOffset?_before_iff ho ho' h h'⟩
    · rintro rfl
      exact Position.ofOffset?_inj ho ho' h h'
    · rintro rfl
      exact Option.some.inj (ho.symm.trans ho')
  · intro o h
    rw [Position.ofOffset?_past_end h, Position.after_text]

/-- A letter of two bytes, an empty line, and a `\n` at the end. -/
theorem locate_bare_identifies_four_lines :
    5 ≤ byteLength "ü\n\nb\n".toList ∧ ¬ IsInsideCharacter "ü\n\nb\n".toList 5 ∧
      locate "ü\n\nb\n".toList 5 .bare = some ⟨3, 2⟩ ∧
      Position.offsetIn "ü\n\nb\n".toList ⟨3, 2⟩ = 5 ∧
      locate "ü\n\nb\n".toList 2 .bare = some ⟨1, 2⟩ ∧
      Position.Before ⟨1, 2⟩ ⟨3, 2⟩ ∧
      locate "ü\n\nb\n".toList 9 .bare = some ⟨4, 1⟩ := by
  obtain ⟨hplace, horder, hend⟩ := locate_bare_identifies "ü\n\nb\n".toList
  have hlength : byteLength "ü\n\nb\n".toList = 6 := by decide +kernel
  have hfive : 5 ≤ byteLength "ü\n\nb\n".toList := by omega
  have htwo : 2 ≤ byteLength "ü\n\nb\n".toList := by omega
  have hbehind : locate "ü\n\nb\n".toList 5 .bare = some ⟨3, 2⟩ := by decide +kernel
  have hbefore : locate "ü\n\nb\n".toList 2 .bare = some ⟨1, 2⟩ := by decide +kernel
  have hbetween : ¬ IsInsideCharacter "ü\n\nb\n".toList 5 := by
    rw [← takeBytes?_eq_none hfive]
    decide +kernel
  have hoffset := (((hplace 5 hfive).2 ⟨3, 2⟩).1 hbehind).2
  have hfirst := ((horder 2 htwo 5 hfive _ _ hbefore hbehind).2).2 (by decide)
  refine ⟨hfive, hbetween, hbehind, hoffset, hbefore, hfirst, ?_⟩
  rw [hend 9 (by omega)]
  decide +kernel

/-- An offset of the text has in the wrapped text, behind the opening, the place it has in the
plugin, and no place inside a character. -/
theorem locate_wrap_own (h : o ≤ byteLength text) :
    locate (wrap text) (byteLength wrapperOpening + o) .wrapped = locate text o .bare ∧
    (locate text o .bare = none ↔ IsInsideCharacter text o) ∧
    ∀ edition cause, fullCheck (wrap text) edition =
        some (cause, some (byteLength wrapperOpening + o)) →
      acceptWrapped text edition = .error ⟨cause, locate text o .bare, edition, .wrapped⟩ := by
  have hsame : locate (wrap text) (byteLength wrapperOpening + o) .wrapped =
      locate text o .bare := by
    have hwithin : byteLength wrapperOpening + o ≤ byteLength (wrap text) := by
      rw [byteLength_wrap]
      omega
    have hrelocate : (Attempt.wrapped.relocate ∘ Position.after) ∘ (wrapperOpening ++ ·) =
        Position.after := by
      funext l
      simp only [Function.comp_apply, wrapperOpening_eq, List.append_assoc, List.singleton_append]
      exact relocate_own l
    rw [locate, Position.ofOffset?, Nat.min_eq_left hwithin, takeBytes?_wrap h, Option.map_map,
      Option.map_map, hrelocate, locate_bare_eq h]
  refine ⟨hsame, ?_, ?_⟩
  · rw [locate_bare_eq h, Option.map_eq_none_iff, takeBytes?_eq_none h]
  · intro edition cause hcheck
    rw [← hsame]
    exact attempt_eq_error.2 ⟨cause, some _, hcheck, rfl⟩

/-- Behind a letter of two bytes on the second line. -/
theorem locate_wrap_own_second_line :
    4 ≤ byteLength "a\nü;".toList ∧
      locate (wrap "a\nü;".toList) (byteLength wrapperOpening + 4) .wrapped = some ⟨2, 2⟩ ∧
      3 ≤ byteLength "a\nü;".toList ∧
      locate (wrap "a\nü;".toList) (byteLength wrapperOpening + 3) .wrapped = none := by
  have hbehind : 4 ≤ byteLength "a\nü;".toList := by decide +kernel
  have hinside : 3 ≤ byteLength "a\nü;".toList := by decide +kernel
  have hplace : locate "a\nü;".toList 4 .bare = some ⟨2, 2⟩ := by decide +kernel
  refine ⟨hbehind, (locate_wrap_own hbehind).1.trans hplace, hinside, ?_⟩
  rw [(locate_wrap_own hinside).1, (locate_wrap_own hinside).2.1]
  exact ⟨['a', '\n'], 'ü', [';'], by decide, by decide, by decide⟩

/-- An offset in the wrapped text that counts as one of the plugin's own: in it, or on the
opening line no further than the plugin's first line goes. -/
def PointsWithin (text : List Char) (o : Nat) : Prop :=
  o ≤ byteLength wrapperOpening + byteLength text ∧
    (o < byteLength wrapperOpening → ∀ l, (lines text).head? = some l → o ≤ l.length)

/-- What an offset in the wrapped text is reported as. Behind the plugin's text that is a line
the plugin does not have. -/
structure ReportedAs (text : List Char) (o : Nat) (p : Position) : Prop where
  opening : o < byteLength wrapperOpening → p = ⟨1, o + 1⟩
  own : byteLength wrapperOpening ≤ o → o ≤ byteLength wrapperOpening + byteLength text →
    locate text (o - byteLength wrapperOpening) .bare = some p
  closing : byteLength wrapperOpening + byteLength text < o → p.line = (lines text).length + 1

theorem reportedAs_of_locate (h : locate (wrap text) o .wrapped = some p) :
    ReportedAs text o p := by
  obtain ⟨l, hl, hlength, rfl⟩ := locate_eq_some.1 h
  rw [byteLength_wrap, byteLength_wrapperClosing] at hlength
  have hopening := byteLength_wrapperOpening
  rw [hopening] at hlength
  rw [wrap_eq] at hl
  rcases prefix_append_cons hl with hl | ⟨l, rfl, hrest⟩
  · have hwidth : byteLength l = l.length := byteLength_of_prefix_openingLine hl
    have hle : byteLength l ≤ byteLength openingLine := byteLength_le_of_prefix hl
    rw [relocate_opening hl, ← hwidth]
    obtain rfl : o = byteLength l := by omega
    constructor
    · intro _
      rfl
    · omega
    · omega
  rcases prefix_append_cons hrest with hl | ⟨l, rfl, hclosing⟩
  · have hle : byteLength l ≤ byteLength text := byteLength_le_of_prefix hl
    rw [byteLength_append, byteLength_newline] at hlength
    rw [relocate_own]
    constructor
    · omega
    · intro hfrom hto
      exact locate_eq_some.2 ⟨l, hl, by omega, rfl⟩
    · omega
  · rw [byteLength_append, byteLength_newline, byteLength_append, byteLength_newline] at hlength
    constructor
    · omega
    · omega
    · intro _
      exact relocate_closing hclosing

theorem ReportedAs.isOf_iff (h : ReportedAs text o p) :
    p.IsOf text ↔ PointsWithin text o := by
  obtain ⟨l, ls, hlines⟩ := List.exists_cons_of_ne_nil (lines_ne_nil text)
  rw [PointsWithin, hlines, List.head?_cons]
  by_cases hbefore : o < byteLength wrapperOpening
  · have hbehind : o ≤ byteLength wrapperOpening + byteLength text :=
      Nat.le_trans (Nat.le_of_lt hbefore) (Nat.le_add_right ..)
    rw [h.opening hbefore, Position.isOf_first_iff hlines (Nat.le_add_left 1 o)]
    constructor
    · intro hle
      refine ⟨hbehind, fun _ l' hl' => ?_⟩
      obtain rfl : l = l' := Option.some.inj hl'
      exact Nat.le_of_succ_le_succ hle
    · rintro ⟨_, hle⟩
      exact Nat.succ_le_succ (hle hbefore l rfl)
  by_cases hbehind : o ≤ byteLength wrapperOpening + byteLength text
  · have hisOf : p.IsOf text := isOf_of_locate_bare (h.own (Nat.le_of_not_lt hbefore) hbehind)
    exact ⟨fun _ => ⟨hbehind, fun h => absurd h hbefore⟩, fun _ => hisOf⟩
  · have hline : p.line = (lines text).length + 1 := h.closing (Nat.lt_of_not_le hbehind)
    constructor
    · intro hisOf
      have hle : p.line ≤ (lines text).length := hisOf.line_le
      rw [hline] at hle
      exact absurd hle (Nat.not_succ_le_self _)
    · rintro ⟨hle, _⟩
      exact absurd hle hbehind

/-! ## Refused texts -/

/-- A text is refused with a problem, by either way of accepting or by its verdict. -/
def Refuses (text : List Char) (q : SyntaxProblem) : Prop :=
  (∃ edition, accept text edition = .error q) ∨ (∃ edition, acceptWrapped text edition = .error q) ∨
    (validate text).verdict = .syntaxInvalid q

theorem exists_attempt_of_judge {header : Header} {q : SyntaxProblem}
    (h : judge header text = .syntaxInvalid q) :
    ∃ a, attempt text header.edition a = .error q := by
  rw [judge] at h
  split at h
  · split at h
    · cases h
    · exact ⟨.wrapped, ofAttempt_eq_syntaxInvalid.1 h⟩
  · exact exists_attempt_of_accept (ofAttempt_eq_syntaxInvalid.1 h)

theorem Refuses.exists_attempt {q : SyntaxProblem} (h : Refuses text q) :
    ∃ edition a, attempt text edition a = .error q := by
  rcases h with ⟨edition, h⟩ | ⟨edition, h⟩ | h
  · exact ⟨edition, exists_attempt_of_accept h⟩
  · exact ⟨edition, .wrapped, h⟩
  · exact ⟨_, exists_attempt_of_judge h⟩

theorem acceptWrapped_eq_error {edition : Edition} {cause : SyntaxCause}
    (hcheck : fullCheck (wrap text) edition = some (cause, some o))
    (hlocate : locate (wrap text) o .wrapped = some p) :
    acceptWrapped text edition = .error ⟨cause, some p, edition, .wrapped⟩ := by
  rw [← hlocate]
  exact attempt_eq_error.2 ⟨cause, some o, hcheck, rfl⟩

/-- A problem of a text as it stands is at a place of the text. In the wrapper it is, exactly if
what it is about counts as the plugin's own. -/
theorem refused_position {q : SyntaxProblem} (h : Refuses text q) (hp : q.position = some p) :
    (q.attempt = .bare → p.IsOf text) ∧
    (q.attempt = .wrapped → ∃ o, fullCheck (wrap text) q.edition = some (q.cause, some o) ∧
      ReportedAs text o p ∧ (p.IsOf text ↔ PointsWithin text o)) := by
  obtain ⟨edition, a, hattempt⟩ := h.exists_attempt
  obtain ⟨cause, offset, hcheck, rfl⟩ := attempt_eq_error.1 hattempt
  obtain ⟨o, rfl, hlocate⟩ := Option.bind_eq_some_iff.1 hp
  constructor
  · rintro rfl
    exact isOf_of_locate_bare hlocate
  · rintro rfl
    have hreported : ReportedAs text o p := reportedAs_of_locate hlocate
    exact ⟨o, hcheck, hreported, hreported.isOf_iff⟩

theorem missing_semicolon_position :
    acceptWrapped "var a b;".toList .es5 =
        .error ⟨.fault .missingSemicolon, some ⟨1, 6⟩, .es5, .wrapped⟩ ∧
      Position.IsOf ⟨1, 6⟩ "var a b;".toList := by
  have hcheck : fullCheck (wrap "var a b;".toList) .es5 =
      some (.fault .missingSemicolon, some 36) := by decide +kernel
  have hlocate : locate (wrap "var a b;".toList) 36 .wrapped = some ⟨1, 6⟩ := by decide +kernel
  have hrefused := acceptWrapped_eq_error hcheck hlocate
  obtain ⟨o, ho, _, hiff⟩ := (refused_position (.inr (.inl ⟨.es5, hrefused⟩)) rfl).2 rfl
  have hsame : some 36 = some o := congrArg Prod.snd (Option.some.inj (hcheck.symm.trans ho))
  obtain rfl : 36 = o := Option.some.inj hsame
  have hwithin : PointsWithin "var a b;".toList 36 := ⟨by decide +kernel, by decide +kernel⟩
  exact ⟨hrefused, hiff.2 hwithin⟩

/-- What is missing at the end of a text is missed where the wrapper closes. -/
theorem missing_value_position :
    acceptWrapped "a =".toList .es5 =
        .error ⟨.fault .unexpectedToken, some ⟨2, 1⟩, .es5, .wrapped⟩ ∧
      ¬ Position.IsOf ⟨2, 1⟩ "a =".toList := by
  have hcheck : fullCheck (wrap "a =".toList) .es5 = some (.fault .unexpectedToken, some 35) := by
    decide +kernel
  have hlocate : locate (wrap "a =".toList) 35 .wrapped = some ⟨2, 1⟩ := by decide +kernel
  refine ⟨acceptWrapped_eq_error hcheck hlocate, fun hisOf => ?_⟩
  have hline : (lines "a =".toList).length = 1 := by decide +kernel
  have hle : 2 ≤ (lines "a =".toList).length := hisOf.line_le
  rw [hline] at hle
  exact absurd hle (by decide)

end PluginAudit.Plugin

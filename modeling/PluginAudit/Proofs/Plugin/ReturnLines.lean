import Mathlib.Data.List.Forall2
import PluginAudit.Proofs.Plugin.Header

/-!
# Lines that begin with `return (`

The blanks in the pattern for such lines may be line ends. Those before the word belong to earlier
lines, so it comes down to a line that has nothing but blanks before the word.
-/

namespace PluginAudit.Plugin

open Text

/-- What is before a line: nothing, or lines with their ends. -/
def BeforeLine (before : List Char) : Prop := before = [] ∨ before.getLast? = some '\n'

/-- The first word of the line is `return`, and what comes next behind it is a parenthesis, on this
line or a later one. -/
def BeginsReturn (line : List Char) : Prop :=
  ∃ b c rest, AllBlank b ∧ '\n' ∉ b ∧ AllBlank c ∧
    line = b ++ "return".toList ++ c ++ '(' :: rest

def HasReturnLine (text : List Char) : Prop :=
  ∃ before line, BeforeLine before ∧ text = before ++ line ∧ BeginsReturn line

variable {text line before b : List Char}

theorem BeforeLine.append_newline (h : BeforeLine before) (l : List Char) :
    BeforeLine (l ++ '\n' :: before) := by
  right
  rcases h with rfl | h
  · exact List.getLast?_concat
  · rw [List.getLast?_append, List.getLast?_cons, h]
    rfl

theorem BeforeLine.append (hbefore : BeforeLine before) (hb : BeforeLine b) :
    BeforeLine (before ++ b) := by
  rcases hb with rfl | hb
  · rwa [List.append_nil]
  · right
    rw [List.getLast?_append, hb]
    rfl

theorem mem_lineRests :
    line ∈ lineRests text ↔ ∃ before, BeforeLine before ∧ text = before ++ line := by
  induction text using inductLines with
  | last l hl =>
    rw [lineRests_of_not_mem hl, List.mem_singleton]
    constructor
    · rintro rfl
      exact ⟨[], .inl rfl, rfl⟩
    · rintro ⟨before, rfl | hbefore, rfl⟩
      · rfl
      · exact absurd (List.mem_append_left line (List.mem_of_getLast? hbefore)) hl
  | more l m hl ih =>
    rw [lineRests_append_newline hl, List.mem_cons, ih]
    constructor
    · rintro (rfl | ⟨before, hbefore, rfl⟩)
      · exact ⟨[], .inl rfl, rfl⟩
      · exact ⟨l ++ '\n' :: before, hbefore.append_newline l, by simp⟩
    · rintro ⟨before, rfl | hbefore, htext⟩
      · exact .inl htext.symm
      · have hnewline : '\n' ∈ before := List.mem_of_getLast? hbefore
        rcases List.append_eq_append_iff.1 htext with ⟨z, rfl, hz⟩ | ⟨z, rfl, _⟩
        · cases z with
          | nil => exact absurd (by simpa using hnewline) hl
          | cons c z =>
            obtain ⟨rfl, rfl⟩ := List.cons.inj hz
            refine .inr ⟨z, ?_, rfl⟩
            cases z with
            | nil => exact .inl rfl
            | cons d z =>
              rw [List.getLast?_append, List.getLast?_cons_cons] at hbefore
              exact .inr (by simpa using hbefore)
        · exact absurd (List.mem_append_left z hnewline) hl

/-- Blanks up to the last line end, and the ones behind it. -/
theorem exists_beforeLine (b : List Char) : ∃ l r, BeforeLine l ∧ '\n' ∉ r ∧ b = l ++ r := by
  by_cases h : '\n' ∈ b
  · obtain ⟨r, l, hsplit, hr⟩ := List.eq_append_cons_of_mem (List.mem_reverse.2 h)
    refine ⟨l.reverse ++ ['\n'], r.reverse, .inr List.getLast?_concat, ?_, ?_⟩
    · rwa [List.mem_reverse]
    · rw [← List.reverse_reverse b, hsplit]
      simp
  · exact ⟨[], b, .inl rfl, h, rfl⟩

theorem hasReturnLine_iff : hasReturnLine text = true ↔ HasReturnLine text := by
  have hmatch : ∀ rest, ((afterBlanks? "return".toList rest).bind (afterBlanks? ['('])).isSome =
      true ↔ ∃ b c r, AllBlank b ∧ AllBlank c ∧ rest = b ++ "return".toList ++ c ++ '(' :: r := by
    intro rest
    have hword : "return".toList.head?.any (!isBlank ·) = true := by decide
    have hparen : ['('].head?.any (!isBlank ·) = true := by decide
    rw [Option.isSome_iff_exists]
    simp only [Option.bind_eq_some_iff, afterBlanks?_eq_some hword, afterBlanks?_eq_some hparen]
    constructor
    · rintro ⟨r, _, ⟨b, hb, rfl⟩, c, hc, rfl⟩
      exact ⟨b, c, r, hb, hc, by simp⟩
    · rintro ⟨b, c, r, hb, hc, rfl⟩
      exact ⟨r, c ++ '(' :: r, ⟨b, hb, by simp⟩, c, hc, by simp⟩
  rw [hasReturnLine, List.any_eq_true]
  simp only [mem_lineRests, hmatch]
  constructor
  · rintro ⟨_, ⟨before, hbefore, rfl⟩, b, c, r, hb, hc, rfl⟩
    obtain ⟨l, d, hl, hd, rfl⟩ := exists_beforeLine b
    refine ⟨before ++ l, d ++ "return".toList ++ c ++ '(' :: r, hbefore.append hl, by simp, ?_⟩
    exact ⟨d, c, r, fun e he => hb e (List.mem_append_right l he), hd, hc, rfl⟩
  · rintro ⟨before, _, hbefore, rfl, b, c, r, hb, _, hc, rfl⟩
    exact ⟨_, ⟨before, hbefore, rfl⟩, b, c, r, hb, hc, rfl⟩

/-! ## Line by line -/

/-- The line has `return` behind its indentation, and the next character that is no blank, on
this line or on one of those below, is a parenthesis. -/
def OpensReturn (line : List Char) (below : List (List Char)) : Prop :=
  ∃ indent rest, AllBlank indent ∧ line = indent ++ "return".toList ++ rest ∧
    (rest ++ below.flatMap ('\n' :: ·)).find? (!isBlank ·) = some '('

/-- Two lines that differ at most in the blanks they begin with. -/
def SameButIndent (line line' : List Char) : Prop :=
  ∃ indent indent' rest, AllBlank indent ∧ AllBlank indent' ∧
    line = indent ++ rest ∧ line' = indent' ++ rest

variable {line' : List Char} {above below below' : List (List Char)}

/-- Complete lines before a text add lines above its own. -/
theorem BeforeLine.exists_lines (h : BeforeLine before) :
    ∃ above, ∀ line, lines (before ++ line) = above ++ lines line := by
  rcases h with rfl | h
  · exact ⟨[], fun line => rfl⟩
  · obtain ⟨l, rfl⟩ := List.getLast?_eq_some_iff.1 h
    refine ⟨lines l, fun line => ?_⟩
    rw [List.append_assoc, List.singleton_append, lines_append_newline]

theorem exists_beforeLine_of_lines (h : lines text = above ++ line :: below) :
    ∃ before, BeforeLine before ∧ text = before ++ (line ++ below.flatMap ('\n' :: ·)) := by
  cases above with
  | nil => exact ⟨[], .inl rfl, eq_of_lines h⟩
  | cons l ls =>
    refine ⟨l ++ ls.flatMap ('\n' :: ·) ++ ['\n'], .inr List.getLast?_concat, ?_⟩
    rw [List.cons_append] at h
    rw [eq_of_lines h, List.flatMap_append, List.flatMap_cons]
    simp only [List.append_assoc, List.cons_append, List.nil_append]

theorem find?_not_isBlank_eq_some {l : List Char} {c : Char} :
    l.find? (!isBlank ·) = some c ↔
      isBlank c = false ∧ ∃ b rest, AllBlank b ∧ l = b ++ c :: rest := by
  simp only [List.find?_eq_some_iff_append, Bool.not_eq_true', Bool.not_not, AllBlank]
  grind

theorem hasReturnLine_iff_opensReturn : hasReturnLine text = true ↔
    ∃ above line below, lines text = above ++ line :: below ∧ OpensReturn line below := by
  rw [hasReturnLine_iff]
  constructor
  · rintro ⟨before, _, hbefore, rfl, b, c, rest, hb, hnewline, hc, rfl⟩
    obtain ⟨above, habove⟩ := hbefore.exists_lines
    -- what is behind the word up to the next line end is the rest of its line
    obtain ⟨l, below, hlines⟩ := List.exists_cons_of_ne_nil (lines_ne_nil (c ++ '(' :: rest))
    have hfirst : '\n' ∉ b ++ "return".toList := by
      rw [List.mem_append, not_or]
      exact ⟨hnewline, by decide⟩
    refine ⟨above, b ++ "return".toList ++ l, below, ?_, b, l, hb, rfl, ?_⟩
    · rw [habove, List.append_assoc (b ++ "return".toList), lines_append hfirst hlines]
    · rw [← eq_of_lines hlines]
      exact find?_not_isBlank_eq_some.2 ⟨by decide, c, rest, hc, rfl⟩
  · rintro ⟨above, _, below, hlines, indent, rest, hindent, rfl, hnext⟩
    obtain ⟨before, hbefore, rfl⟩ := exists_beforeLine_of_lines hlines
    obtain ⟨-, c, r, hc, hrest⟩ := find?_not_isBlank_eq_some.1 hnext
    have hnewline : '\n' ∉ indent := fun h =>
      not_mem_of_mem_lines (hlines ▸ List.mem_append_right above (List.mem_cons_self ..))
        (List.mem_append_left rest (List.mem_append_left _ h))
    refine ⟨before, _, hbefore, rfl, indent, c, r, hindent, hnewline, hc, ?_⟩
    rw [List.append_assoc _ rest, hrest, List.append_assoc _ c]

/-- A found line stays found under lines put above, and whatever is put behind the text. -/
theorem HasReturnLine.append (h : HasReturnLine text) (hbefore : BeforeLine before)
    (after : List Char) : HasReturnLine (before ++ text ++ after) := by
  obtain ⟨before', line, hbefore', rfl, b, c, rest, hb, hnewline, hc, rfl⟩ := h
  refine ⟨before ++ before', b ++ "return".toList ++ c ++ '(' :: (rest ++ after),
    hbefore.append hbefore', by simp, b, c, rest ++ after, hb, hnewline, hc, rfl⟩

/-! ## Indentation -/

theorem SameButIndent.symm (h : SameButIndent line line') : SameButIndent line' line := by
  obtain ⟨indent, indent', rest, hindent, hindent', hline, hline'⟩ := h
  exact ⟨indent', indent, rest, hindent', hindent, hline', hline⟩

theorem find?_append_of_allBlank {l : List Char} (hb : AllBlank b) :
    (b ++ l).find? (!isBlank ·) = l.find? (!isBlank ·) := by
  have hnone : b.find? (!isBlank ·) = none := by simpa [AllBlank] using hb
  rw [List.find?_append, hnone, Option.none_or]

theorem find?_flatMap_reindent (h : List.Forall₂ SameButIndent below below') :
    (below.flatMap ('\n' :: ·)).find? (!isBlank ·) =
      (below'.flatMap ('\n' :: ·)).find? (!isBlank ·) := by
  induction h with
  | nil => rfl
  | cons hline _ ih =>
    obtain ⟨indent, indent', rest, hindent, hindent', rfl, rfl⟩ := hline
    have hnewline : isBlank '\n' = true := by decide
    simp [hnewline, find?_append_of_allBlank hindent, find?_append_of_allBlank hindent',
      List.find?_append, ih]

/-- The blanks before `return` are the whole indentation. -/
theorem OpensReturn.reindent (h : OpensReturn line below) (hline : SameButIndent line line')
    (hbelow : List.Forall₂ SameButIndent below below') : OpensReturn line' below' := by
  obtain ⟨b, rest, hb, rfl, hnext⟩ := h
  obtain ⟨indent, indent', r, hindent, hindent', hsplit, rfl⟩ := hline
  have hrest : ∃ d, AllBlank d ∧ r = d ++ "return".toList ++ rest := by
    rw [List.append_assoc] at hsplit
    rcases List.append_eq_append_iff.1 hsplit with ⟨d, rfl, hword⟩ | ⟨d, rfl, rfl⟩
    · cases d with
      | nil => exact ⟨[], List.forall_mem_nil _, hword.symm⟩
      | cons c d =>
        -- the new indentation does not reach into the word
        have hletter : 'r' = c := (List.cons.inj hword).1
        exact absurd (hindent c (by simp)) (hletter ▸ by decide)
    · exact ⟨d, (List.forall_mem_append.1 hb).2, (List.append_assoc ..).symm⟩
  obtain ⟨d, hd, rfl⟩ := hrest
  refine ⟨indent' ++ d, rest, List.forall_mem_append.2 ⟨hindent', hd⟩, by simp, ?_⟩
  rw [List.find?_append, ← find?_flatMap_reindent hbelow, ← List.find?_append, hnext]

theorem hasReturnLine_reindent {text' : List Char}
    (hlines : List.Forall₂ SameButIndent (lines text) (lines text'))
    (h : hasReturnLine text = true) : hasReturnLine text' = true := by
  obtain ⟨above, line, below, htext, hline⟩ := hasReturnLine_iff_opensReturn.1 h
  have hbelow := List.forall₂_drop above.length hlines
  rw [htext, List.drop_left, List.forall₂_cons_left_iff] at hbelow
  obtain ⟨line', below', hsame, hbelow, htext'⟩ := hbelow
  refine hasReturnLine_iff_opensReturn.2 ⟨(lines text').take above.length, line', below', ?_, ?_⟩
  · rw [← htext', List.take_append_drop]
  · exact hline.reindent hsame hbelow

/-- A text has such a line just if one of its lines, read on into the lines below, opens with
`return` and a parenthesis. Neither what is put above and behind nor the indentation matters. -/
theorem hasReturnLine_by_lines (text : List Char) :
    (hasReturnLine text = true ↔ ∃ above line below,
      lines text = above ++ line :: below ∧ OpensReturn line below) ∧
    (hasReturnLine text = true → ∀ before after, BeforeLine before →
      hasReturnLine (before ++ text ++ after) = true) ∧
    ∀ text', List.Forall₂ SameButIndent (lines text) (lines text') →
      hasReturnLine text' = hasReturnLine text := by
  refine ⟨hasReturnLine_iff_opensReturn, fun h before after hbefore => ?_, fun text' hlines => ?_⟩
  · exact hasReturnLine_iff.2 ((hasReturnLine_iff.1 h).append hbefore after)
  · have hback : List.Forall₂ SameButIndent (lines text') (lines text) :=
      hlines.flip.imp fun _ _ => SameButIndent.symm
    exact Bool.eq_iff_iff.2 ⟨hasReturnLine_reindent hback, hasReturnLine_reindent hlines⟩

/-- The parenthesis is on the line below, behind the `\r` that ends the line of the word. -/
theorem hasReturnLine_by_lines_carriage_return :
    lines "x\n return\r\n\t(1)".toList = ["x".toList] ++ " return\r".toList :: ["\t(1)".toList] ∧
      OpensReturn " return\r".toList ["\t(1)".toList] ∧ BeforeLine "a\n".toList ∧
      hasReturnLine ("a\n".toList ++ "x\n return\r\n\t(1)".toList ++ "b".toList) = true ∧
      List.Forall₂ SameButIndent (lines "x\n return\r\n\t(1)".toList)
        (lines "\u2003x\nreturn\r\n  (1)".toList) ∧
      hasReturnLine "\u2003x\nreturn\r\n  (1)".toList = true := by
  obtain ⟨hread, hadd, hindent⟩ := hasReturnLine_by_lines "x\n return\r\n\t(1)".toList
  have hlines : lines "x\n return\r\n\t(1)".toList =
      ["x".toList] ++ " return\r".toList :: ["\t(1)".toList] := by decide +kernel
  have hlines' : lines "\u2003x\nreturn\r\n  (1)".toList =
      ["\u2003x".toList, "return\r".toList, "  (1)".toList] := by decide +kernel
  have hopens : OpensReturn " return\r".toList ["\t(1)".toList] :=
    ⟨[' '], ['\r'], by decide, by decide, by decide +kernel⟩
  have hfound : hasReturnLine "x\n return\r\n\t(1)".toList = true :=
    hread.2 ⟨_, _, _, hlines, hopens⟩
  have hbefore : BeforeLine "a\n".toList := .inr (by decide)
  have hsame : List.Forall₂ SameButIndent (lines "x\n return\r\n\t(1)".toList)
      (lines "\u2003x\nreturn\r\n  (1)".toList) := by
    rw [hlines, hlines']
    exact .cons ⟨[], ['\u2003'], ['x'], by decide, by decide, by decide, by decide⟩
      (.cons ⟨[' '], [], "return\r".toList, by decide, by decide, by decide, by decide⟩
        (.cons ⟨['\t'], "  ".toList, "(1)".toList, by decide, by decide, by decide, by decide⟩
          .nil))
  exact ⟨hlines, hopens, hbefore, hadd hfound _ _ hbefore, hsame, (hindent _ hsame).trans hfound⟩

end PluginAudit.Plugin

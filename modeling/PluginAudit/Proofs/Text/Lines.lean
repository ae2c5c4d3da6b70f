import Mathlib.Data.List.TakeWhile
import PluginAudit.Text.Position

/-!
# Lines and places

The place after a beginning of a text is a place of the text: its line is one of the lines that
`\n` separates, and its column is at most one more than the line has characters.
-/

namespace PluginAudit.Text

def lines (text : List Char) : List (List Char) := text.splitOn '\n'

theorem lines_of_not_mem {text : List Char} (h : '\n' ∉ text) : lines text = [text] :=
  List.splitOn_eq_singleton h

theorem lines_append_newline (l m : List Char) : lines (l ++ '\n' :: m) = lines l ++ lines m :=
  List.splitOn_append_cons_self l m

theorem lines_append_newline_of_not_mem {l : List Char} (hl : '\n' ∉ l) (m : List Char) :
    lines (l ++ '\n' :: m) = l :: lines m := by
  rw [lines_append_newline, lines_of_not_mem hl, List.singleton_append]

/-- Characters before a text lengthen its first line. -/
theorem lines_append {l m k : List Char} {ks : List (List Char)} (hl : '\n' ∉ l)
    (hm : lines m = k :: ks) : lines (l ++ m) = (l ++ k) :: ks := by
  induction l with
  | nil => exact hm
  | cons c cs ih =>
    have hne : (c == '\n') = false := by
      rw [beq_eq_false_iff_ne]
      rintro rfl
      exact hl (List.mem_cons_self ..)
    have hrest : lines (cs ++ m) = (cs ++ k) :: ks :=
      ih fun h => hl (List.mem_cons_of_mem _ h)
    rw [lines] at hrest
    rw [List.cons_append, lines, List.splitOn_cons_eq_if_modifyHead, hne, hrest]
    rfl

theorem lines_ne_nil (text : List Char) : lines text ≠ [] :=
  List.splitOn_ne_nil '\n' text

/-- Induction on a text line by line, from the last one up. -/
theorem inductLines {P : List Char → Prop} (last : ∀ l, '\n' ∉ l → P l)
    (more : ∀ l m, '\n' ∉ l → P m → P (l ++ '\n' :: m)) (text : List Char) : P text := by
  have hlength : ∀ n, ∀ t : List Char, t.length ≤ n → P t := by
    intro n
    induction n with
    | zero =>
      intro t ht
      obtain rfl : t = [] := List.eq_nil_of_length_eq_zero (by omega)
      exact last [] List.not_mem_nil
    | succ n ih =>
      intro t ht
      by_cases h : '\n' ∈ t
      · obtain ⟨l, m, rfl, hl⟩ := List.eq_append_cons_of_mem h
        have hm : m.length ≤ n := by
          simp only [List.length_append, List.length_cons] at ht
          omega
        exact more l m hl (ih m hm)
      · exact last t h
  exact hlength text.length text (Nat.le_refl _)

theorem not_mem_of_mem_lines {text l : List Char} (h : l ∈ lines text) : '\n' ∉ l := by
  induction text using inductLines with
  | last k hk =>
    rw [lines_of_not_mem hk, List.mem_singleton] at h
    rwa [h]
  | more k m hk ih =>
    rw [lines_append_newline_of_not_mem hk, List.mem_cons] at h
    rcases h with rfl | h
    · exact hk
    · exact ih h

/-- A text is its lines with `\n` between them. -/
theorem eq_of_lines {text l : List Char} {ls : List (List Char)} (h : lines text = l :: ls) :
    text = l ++ ls.flatMap ('\n' :: ·) := by
  induction text using inductLines generalizing l ls with
  | last k hk =>
    rw [lines_of_not_mem hk] at h
    cases h
    exact (List.append_nil k).symm
  | more k m hk ih =>
    rw [lines_append_newline_of_not_mem hk] at h
    obtain ⟨rfl, hm⟩ := List.cons.inj h
    obtain ⟨n, ns, hlines⟩ := List.exists_cons_of_ne_nil (lines_ne_nil m)
    rw [← hm, hlines, List.flatMap_cons, List.cons_append, ← ih hlines]

/-! ## Bytes -/

theorem byteLength_newline (l : List Char) : byteLength ('\n' :: l) = byteLength l + 1 :=
  Nat.add_comm 1 _

theorem byteLength_le_of_prefix {l m : List Char} (h : l <+: m) : byteLength l ≤ byteLength m := by
  obtain ⟨k, rfl⟩ := h
  rw [byteLength_append]
  exact Nat.le_add_right _ _

theorem byteLength_eq_length {l : List Char} (h : ∀ c ∈ l, c.utf8Size = 1) :
    byteLength l = l.length := by
  induction l with
  | nil => rfl
  | cons c cs ih =>
    have hc : c.utf8Size = 1 := h c (List.mem_cons_self ..)
    have hcs : byteLength cs = cs.length := ih fun d hd => h d (List.mem_cons_of_mem _ hd)
    rw [byteLength_cons, hc, hcs, List.length_cons, Nat.add_comm]

theorem takeBytes?_eq_some {n : Nat} {text l : List Char} :
    takeBytes? n text = some l ↔ l <+: text ∧ byteLength l = n := by
  constructor
  · intro h
    induction text generalizing n l with
    | nil =>
      cases n with
      | zero =>
        cases h
        exact ⟨List.prefix_rfl, rfl⟩
      | succ n => cases h
    | cons c cs ih =>
      cases n with
      | zero =>
        cases h
        exact ⟨List.nil_prefix, rfl⟩
      | succ n =>
        rw [takeBytes?] at h
        split at h
        · next hfits =>
          obtain ⟨m, hm, rfl⟩ := Option.map_eq_some_iff.1 h
          obtain ⟨hl, hlength⟩ := ih hm
          refine ⟨List.cons_prefix_cons.2 ⟨rfl, hl⟩, ?_⟩
          rw [byteLength_cons, hlength]
          omega
        · cases h
  · rintro ⟨⟨m, rfl⟩, rfl⟩
    exact takeBytes?_byteLength l m

theorem prefix_append_cons {l m p : List Char} {c : Char} (h : p <+: l ++ c :: m) :
    p <+: l ∨ ∃ q, p = l ++ c :: q ∧ q <+: m := by
  rcases List.prefix_or_prefix_of_prefix h (List.prefix_append l (c :: m)) with hp | ⟨q, rfl⟩
  · exact .inl hp
  · have hq : q <+: c :: m := (List.prefix_append_right_inj l).1 h
    cases q with
    | nil =>
      rw [List.append_nil]
      exact .inl List.prefix_rfl
    | cons d q =>
      obtain ⟨rfl, hm⟩ := List.cons_prefix_cons.1 hq
      exact .inr ⟨q, rfl, hm⟩

theorem takeBytes?_append_left (l m : List Char) (n : Nat) :
    takeBytes? (byteLength l + n) (l ++ m) = (takeBytes? n m).map (l ++ ·) := by
  induction l with
  | nil => simp
  | cons c cs ih =>
    have hpos : 0 < c.utf8Size := c.utf8Size_pos
    obtain ⟨k, hk⟩ : ∃ k, byteLength (c :: cs) + n = k + 1 :=
      ⟨byteLength (c :: cs) + n - 1, by rw [byteLength_cons]; omega⟩
    have hfits : c.utf8Size ≤ k + 1 := by rw [← hk, byteLength_cons]; omega
    have hrest : k + 1 - c.utf8Size = byteLength cs + n := by rw [← hk, byteLength_cons]; omega
    rw [hk, List.cons_append, takeBytes?, if_pos hfits, hrest, ih, Option.map_map]
    rfl

theorem takeBytes?_append_right {l : List Char} {n : Nat} (h : n ≤ byteLength l) (m : List Char) :
    takeBytes? n (l ++ m) = takeBytes? n l := by
  ext k
  rw [takeBytes?_eq_some, takeBytes?_eq_some]
  constructor
  · rintro ⟨hk, rfl⟩
    rcases List.prefix_or_prefix_of_prefix hk (List.prefix_append l m) with hkl | ⟨q, rfl⟩
    · exact ⟨hkl, rfl⟩
    · cases q with
      | nil => simp
      | cons c q =>
        have hpos : 0 < c.utf8Size := c.utf8Size_pos
        rw [byteLength_append, byteLength_cons] at h
        omega
  · rintro ⟨hk, hlength⟩
    exact ⟨hk.trans (List.prefix_append l m), hlength⟩

/-- An offset behind the first byte of a character and before its end. -/
def IsInsideCharacter (text : List Char) (n : Nat) : Prop :=
  ∃ l c m, text = l ++ c :: m ∧ byteLength l < n ∧ n < byteLength l + c.utf8Size

theorem takeBytes?_eq_none {text : List Char} {n : Nat} (h : n ≤ byteLength text) :
    takeBytes? n text = none ↔ IsInsideCharacter text n := by
  constructor
  · intro hnone
    induction text generalizing n with
    | nil =>
      obtain rfl : n = 0 := Nat.le_zero.1 h
      cases hnone
    | cons c cs ih =>
      cases n with
      | zero => cases hnone
      | succ n =>
        rw [byteLength_cons] at h
        by_cases hfits : c.utf8Size ≤ n + 1
        · rw [takeBytes?, if_pos hfits, Option.map_eq_none_iff] at hnone
          obtain ⟨l, d, m, rfl, hfrom, hto⟩ := ih (by omega) hnone
          refine ⟨c :: l, d, m, rfl, ?_, ?_⟩ <;> rw [byteLength_cons] <;> omega
        · exact ⟨[], c, cs, rfl, Nat.succ_pos n, by simpa using hfits⟩
  · rintro ⟨l, c, m, rfl, hfrom, hto⟩
    rw [Option.eq_none_iff_forall_ne_some]
    intro k hk
    obtain ⟨hbegins, rfl⟩ := takeBytes?_eq_some.1 hk
    rcases prefix_append_cons hbegins with hkl | ⟨q, rfl, -⟩
    · have hle : byteLength k ≤ byteLength l := byteLength_le_of_prefix hkl
      omega
    · rw [byteLength_append, byteLength_cons] at hto
      omega

namespace Position

/-! ## The place after a text -/

theorem after_of_not_mem {text : List Char} (h : '\n' ∉ text) :
    after text = ⟨1, text.length + 1⟩ := by
  have hall : ∀ c ∈ text.reverse, (c != '\n') = true := by
    intro c hc
    have hne : c ≠ '\n' := by
      rintro rfl
      exact h (List.mem_reverse.1 hc)
    simpa using hne
  have hcolumn : text.reverse.takeWhile (· != '\n') = text.reverse :=
    List.takeWhile_eq_self_iff.2 hall
  rw [after, List.count_eq_zero_of_not_mem h, hcolumn, List.length_reverse]

/-- Lines before a place move it down and leave its column. -/
theorem after_append_newline (l m : List Char) :
    after (l ++ '\n' :: m) = ⟨(after l).line + (after m).line, (after m).column⟩ := by
  have hreverse : (l ++ '\n' :: m).reverse = m.reverse ++ '\n' :: l.reverse := by simp
  have hcolumn : ((l ++ '\n' :: m).reverse.takeWhile (· != '\n')).length =
      (m.reverse.takeWhile (· != '\n')).length := by
    rw [hreverse, List.takeWhile_append]
    split <;> simp_all
  have hline : (l ++ '\n' :: m).count '\n' = l.count '\n' + (m.count '\n' + 1) := by
    rw [List.count_append, List.count_cons_self]
  simp only [after, hcolumn, hline, mk.injEq, and_true]
  omega

theorem line_after (text : List Char) : (after text).line = (lines text).length := by
  induction text using inductLines with
  | last l hl => rw [after_of_not_mem hl, lines_of_not_mem hl, List.length_singleton]
  | more l m hl ih =>
    rw [after_append_newline, lines_append_newline_of_not_mem hl, after_of_not_mem hl,
      List.length_cons, ih, Nat.add_comm]

/-! ## Places of a text -/

/-- A line of the text, and a column up to the one behind the last character of that line. -/
structure IsOf (p : Position) (text : List Char) : Prop where
  line_pos : 1 ≤ p.line
  line_le : p.line ≤ (lines text).length
  column_pos : 1 ≤ p.column
  column_le : ∀ l, (lines text)[p.line - 1]? = some l → p.column ≤ l.length + 1

theorem isOf_first_iff {column : Nat} {text l : List Char} {ls : List (List Char)}
    (hlines : lines text = l :: ls) (hcolumn : 1 ≤ column) :
    IsOf ⟨1, column⟩ text ↔ column ≤ l.length + 1 := by
  have hfirst : (lines text)[0]? = some l := by rw [hlines]; rfl
  constructor
  · intro h
    exact h.column_le l hfirst
  · intro h
    refine ⟨Nat.le_refl 1, ?_, hcolumn, ?_⟩
    · rw [hlines]
      exact Nat.le_add_left 1 ls.length
    · intro l' hl'
      obtain rfl : l = l' := Option.some.inj (hfirst.symm.trans hl')
      exact h

/-- A line before a text moves its places down. -/
theorem IsOf.append_newline {p : Position} {l text : List Char} (hl : '\n' ∉ l)
    (h : p.IsOf text) : IsOf ⟨1 + p.line, p.column⟩ (l ++ '\n' :: text) := by
  have hlines := lines_append_newline_of_not_mem hl text
  have hline : 1 ≤ p.line := h.line_pos
  refine ⟨Nat.le_add_right 1 _, ?_, h.column_pos, ?_⟩
  · rw [hlines, List.length_cons, Nat.add_comm 1]
    exact Nat.add_le_add_right h.line_le 1
  · intro l' hl'
    obtain ⟨k, hk⟩ : ∃ k, p.line = k + 1 := ⟨p.line - 1, by omega⟩
    have hsame : (lines text)[p.line - 1]? = some l' := by
      rw [← hl', hlines, hk, Nat.add_sub_cancel, Nat.add_sub_cancel_left, List.getElem?_cons_succ]
    exact h.column_le l' hsame

theorem after_isOf (l m : List Char) : (after l).IsOf (l ++ m) := by
  induction l using inductLines with
  | last l hl =>
    obtain ⟨k, ks, hlines⟩ := List.exists_cons_of_ne_nil (lines_ne_nil m)
    rw [after_of_not_mem hl, isOf_first_iff (lines_append hl hlines) (Nat.le_add_left 1 _),
      List.length_append]
    omega
  | more l l' hl ih =>
    rw [after_append_newline, after_of_not_mem hl, List.append_assoc, List.cons_append]
    exact ih.append_newline hl

end Position

end PluginAudit.Text

import PluginAudit.Proofs.Text.Lines

/-!
# Offsets of places

A place of a text stands for one byte offset: the bytes of the lines above it with the `\n` that
ends each, and those of the characters before it in its own line. Between characters an offset
has a place, and the places come in the order of the offsets.
-/

namespace PluginAudit.Text.Position

variable {p : Position} {text : List Char}

/-- The bytes in front of a place. -/
def offsetIn (text : List Char) (p : Position) : Nat :=
  byteLength (((lines text).take (p.line - 1)).flatMap (· ++ ['\n'])) +
    byteLength (((lines text).getD (p.line - 1) []).take (p.column - 1))

/-- Order in the text: by line, and in a line by column. -/
def Before (p q : Position) : Prop :=
  p.line < q.line ∨ p.line = q.line ∧ p.column < q.column

theorem Before.irrefl (p : Position) : ¬ p.Before p := by
  rintro (h | ⟨-, h⟩) <;> exact Nat.lt_irrefl _ h

theorem Before.asymm {q : Position} (h : p.Before q) : ¬ q.Before p := by
  simp only [Before] at *
  omega

/-! ## The place after a beginning -/

theorem one_le_line_after (l : List Char) : 1 ≤ (after l).line := Nat.le_add_left 1 _

theorem offsetIn_first {column : Nat} {l : List Char} {ls : List (List Char)}
    (hlines : lines text = l :: ls) :
    offsetIn text ⟨1, column⟩ = byteLength (l.take (column - 1)) := by
  simp [offsetIn, hlines]

/-- A line before a text moves its places behind the bytes of that line. -/
theorem offsetIn_append_newline {l : List Char} (hl : '\n' ∉ l) (hp : 1 ≤ p.line) :
    offsetIn (l ++ '\n' :: text) ⟨1 + p.line, p.column⟩ =
      byteLength l + 1 + p.offsetIn text := by
  obtain ⟨k, hk⟩ : ∃ k, p.line = k + 1 := ⟨p.line - 1, by omega⟩
  have hlines := lines_append_newline_of_not_mem hl text
  simp only [offsetIn, hlines, hk, Nat.add_sub_cancel_left, Nat.add_sub_cancel, List.take_succ_cons,
    List.flatMap_cons, List.getD_cons_succ, byteLength_append, byteLength_newline, byteLength_nil,
    Nat.zero_add, Nat.add_assoc]

theorem offsetIn_after (l m : List Char) : (after l).offsetIn (l ++ m) = byteLength l := by
  induction l using inductLines with
  | last l hl =>
    obtain ⟨k, ks, hlines⟩ := List.exists_cons_of_ne_nil (lines_ne_nil m)
    rw [after_of_not_mem hl, offsetIn_first (lines_append hl hlines), Nat.add_sub_cancel,
      List.take_left]
  | more l l' hl ih =>
    rw [after_append_newline, after_of_not_mem hl, List.append_assoc, List.cons_append,
      offsetIn_append_newline hl (one_le_line_after l'), ih, byteLength_append, byteLength_newline]
    omega

/-- A text has no places but those after its beginnings. -/
theorem IsOf.exists_prefix (h : p.IsOf text) : ∃ l, l <+: text ∧ after l = p := by
  obtain ⟨line, column⟩ := p
  obtain ⟨hline, hle, hcolumn, hwidth⟩ := h
  simp only at hline hle hcolumn hwidth
  -- a place on the first line is behind that many of its characters
  have hfirst : ∀ l m, '\n' ∉ l → column ≤ l.length + 1 →
      l.take (column - 1) <+: l ++ m ∧ after (l.take (column - 1)) = ⟨1, column⟩ := by
    intro l m hl hcl
    have hnot : '\n' ∉ l.take (column - 1) := fun hmem => hl (List.mem_of_mem_take hmem)
    have hlength : (l.take (column - 1)).length + 1 = column := by
      rw [List.length_take]
      omega
    exact ⟨(List.take_prefix _ l).trans (List.prefix_append l m),
      by rw [after_of_not_mem hnot, hlength]⟩
  induction text using inductLines generalizing line with
  | last l hl =>
    rw [lines_of_not_mem hl] at hle hwidth
    obtain rfl : line = 1 := Nat.le_antisymm hle hline
    have htake := hfirst l [] hl (hwidth l rfl)
    rw [List.append_nil] at htake
    exact ⟨_, htake⟩
  | more l m hl ih =>
    rw [lines_append_newline_of_not_mem hl] at hle hwidth
    obtain ⟨k, rfl⟩ : ∃ k, line = k + 1 := ⟨line - 1, by omega⟩
    rw [Nat.add_sub_cancel] at hwidth
    cases k with
    | zero => exact ⟨_, hfirst l ('\n' :: m) hl (hwidth l rfl)⟩
    | succ k =>
      obtain ⟨q, hq, hafter⟩ := ih (k + 1) (Nat.le_add_left 1 k) (Nat.le_of_succ_le_succ hle) hwidth
      refine ⟨l ++ '\n' :: q, ?_, ?_⟩
      · rw [List.prefix_append_right_inj, List.cons_prefix_cons]
        exact ⟨rfl, hq⟩
      · rw [after_append_newline, after_of_not_mem hl, hafter, Nat.add_comm 1]

theorem after_before_append (l : List Char) {k : List Char} (hk : k ≠ []) :
    (after l).Before (after (l ++ k)) := by
  induction l using inductLines with
  | last l hl =>
    rw [after_of_not_mem hl]
    by_cases hmem : '\n' ∈ k
    · obtain ⟨k, m, rfl, -⟩ := List.eq_append_cons_of_mem hmem
      have hline : 1 ≤ (after (l ++ k)).line := one_le_line_after _
      have hbelow : 1 ≤ (after m).line := one_le_line_after m
      rw [← List.append_assoc, after_append_newline]
      exact .inl (Nat.lt_of_lt_of_le Nat.one_lt_two (Nat.add_le_add hline hbelow))
    · have hnot : '\n' ∉ l ++ k := by simp [hl, hmem]
      have hlength : 0 < k.length := List.length_pos_iff.2 hk
      rw [after_of_not_mem hnot, List.length_append]
      exact .inr ⟨rfl, Nat.succ_lt_succ (Nat.lt_add_of_pos_right hlength)⟩
  | more l m hl ih =>
    rw [List.append_assoc, List.cons_append, after_append_newline, after_append_newline l]
    rcases ih with h | ⟨hline, hcolumn⟩
    · exact .inl (Nat.add_lt_add_left h _)
    · exact .inr ⟨congrArg ((after l).line + ·) hline, hcolumn⟩

/-- Of two beginnings of a text the one with fewer bytes ends first. -/
theorem after_before_after_iff {l l' : List Char} (hl : l <+: text) (hl' : l' <+: text) :
    (after l).Before (after l') ↔ byteLength l < byteLength l' := by
  have happend : ∀ m {k : List Char}, k ≠ [] → byteLength m < byteLength (m ++ k) := by
    intro m k hk
    obtain ⟨c, cs, rfl⟩ := List.exists_cons_of_ne_nil hk
    have hpos : 0 < c.utf8Size := c.utf8Size_pos
    rw [byteLength_append, byteLength_cons]
    omega
  by_cases heq : l = l'
  · subst heq
    exact iff_of_false (Before.irrefl _) (Nat.lt_irrefl _)
  rcases List.prefix_or_prefix_of_prefix hl hl' with ⟨k, rfl⟩ | ⟨k, rfl⟩
  · have hk : k ≠ [] := by
      rintro rfl
      exact heq (List.append_nil l).symm
    exact iff_of_true (after_before_append l hk) (happend l hk)
  · have hk : k ≠ [] := by
      rintro rfl
      exact heq (List.append_nil l')
    exact iff_of_false (after_before_append l' hk).asymm (Nat.lt_asymm (happend l' hk))

/-- The end of a text is behind the last character of its last line. -/
theorem after_text (text : List Char) :
    after text =
      ⟨(lines text).length, ((lines text).getLast (lines_ne_nil text)).length + 1⟩ := by
  induction text using inductLines with
  | last l hl =>
    simp only [after_of_not_mem hl, lines_of_not_mem hl, List.length_singleton,
      List.getLast_singleton]
  | more l m hl ih =>
    simp only [after_append_newline, after_of_not_mem hl, ih, lines_append_newline_of_not_mem hl,
      List.length_cons, List.getLast_cons (lines_ne_nil m), Nat.add_comm 1]

/-! ## Places and offsets -/

/-- A place is that of an offset just if the text has it and as many bytes are in front of it. -/
theorem ofOffset?_eq_some {o : Nat} (h : o ≤ byteLength text) :
    ofOffset? text o = some p ↔ p.IsOf text ∧ p.offsetIn text = o := by
  simp only [ofOffset?, Nat.min_eq_left h, Option.map_eq_some_iff, takeBytes?_eq_some]
  constructor
  · rintro ⟨l, ⟨⟨m, rfl⟩, rfl⟩, rfl⟩
    exact ⟨after_isOf l m, offsetIn_after l m⟩
  · rintro ⟨hp, rfl⟩
    obtain ⟨l, ⟨m, rfl⟩, rfl⟩ := hp.exists_prefix
    exact ⟨l, ⟨List.prefix_append l m, (offsetIn_after l m).symm⟩, rfl⟩

theorem ofOffset?_eq_none {o : Nat} (h : o ≤ byteLength text) :
    ofOffset? text o = none ↔ IsInsideCharacter text o := by
  rw [ofOffset?, Nat.min_eq_left h, Option.map_eq_none_iff, takeBytes?_eq_none h]

theorem ofOffset?_before_iff {o o' : Nat} {p' : Position} (ho : ofOffset? text o = some p)
    (ho' : ofOffset? text o' = some p') (h : o ≤ byteLength text) (h' : o' ≤ byteLength text) :
    p.Before p' ↔ o < o' := by
  simp only [ofOffset?, Nat.min_eq_left h, Option.map_eq_some_iff, takeBytes?_eq_some] at ho
  simp only [ofOffset?, Nat.min_eq_left h', Option.map_eq_some_iff, takeBytes?_eq_some] at ho'
  obtain ⟨l, ⟨hl, rfl⟩, rfl⟩ := ho
  obtain ⟨l', ⟨hl', rfl⟩, rfl⟩ := ho'
  exact after_before_after_iff hl hl'

/-- Different offsets do not share a place. -/
theorem ofOffset?_inj {o o' : Nat} (ho : ofOffset? text o = some p)
    (ho' : ofOffset? text o' = some p) (h : o ≤ byteLength text) (h' : o' ≤ byteLength text) :
    o = o' :=
  ((ofOffset?_eq_some h).1 ho).2.symm.trans ((ofOffset?_eq_some h').1 ho').2

theorem ofOffset?_past_end {o : Nat} (h : byteLength text ≤ o) :
    ofOffset? text o = some (after text) := by
  have hall : takeBytes? (byteLength text) text = some text :=
    takeBytes?_eq_some.2 ⟨List.prefix_rfl, rfl⟩
  rw [ofOffset?, Nat.min_eq_right h, hall, Option.map_some]

end PluginAudit.Text.Position

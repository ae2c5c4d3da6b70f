import PluginAudit.Plugin.Verdict
import PluginAudit.Proofs.Text.Lines
import PluginAudit.Proofs.Text.Search

/-!
# The block of a header

The block is the longest beginning of a text with at most four line ends, its first five lines.
Nothing behind it has a part in how a plugin is classified. Its words are read up to blanks, and
blanks may be line ends.
-/

namespace PluginAudit.Plugin

open Text

/-! ## Blanks and labels -/

def AllBlank (l : List Char) : Prop := ∀ c ∈ l, isBlank c = true

instance (l : List Char) : Decidable (AllBlank l) :=
  decidable_of_iff (l.all isBlank = true) List.all_eq_true

/-- Letters and digits as ranges of code points. -/
theorem isAlphanum_eq (c : Char) : c.isAlphanum =
    (decide (65 ≤ c.val ∧ c.val ≤ 90) || decide (97 ≤ c.val) && decide (c.val ≤ 122) ||
      decide (48 ≤ c.val) && decide (c.val ≤ 57)) := rfl

theorem not_isBlank_of_isAlphanum {c : Char} (h : c.isAlphanum = true) : isBlank c = false := by
  simp only [isAlphanum_eq, Bool.or_eq_true, Bool.and_eq_true, decide_eq_true_eq,
    UInt32.le_iff_toNat_le, UInt32.reduceToNat, Char.toNat_val] at h
  refine Bool.eq_false_iff.2 fun hblank => ?_
  simp only [isBlank, Bool.or_eq_true, Bool.and_eq_true, decide_eq_true_eq, beq_iff_eq] at hblank
  omega

theorem AllBlank.not_mem {b : List Char} {c : Char} (hb : AllBlank b) (hc : isBlank c = false) :
    c ∉ b := fun hmem => by
  rw [hb c hmem] at hc
  cases hc

theorem allBlank_takeWhile (text : List Char) : AllBlank (text.takeWhile isBlank) :=
  fun _ hc => List.mem_takeWhile_imp hc

theorem skipBlanks_eq_iff {text rest : List Char} :
    skipBlanks text = rest ↔
      ∃ b, AllBlank b ∧ rest.head?.any isBlank = false ∧ text = b ++ rest := by
  constructor
  · rintro rfl
    exact ⟨_, takeWhile_dropWhile_iff.1 ⟨rfl, rfl⟩⟩
  · rintro ⟨b, hb⟩
    exact (takeWhile_dropWhile_iff.2 hb).2

theorem labelled?_eq_some {label : String} {text rest : List Char} :
    labelled? label text = some rest ↔
      ∃ b c, AllBlank b ∧ AllBlank c ∧ rest.head?.any isBlank = false ∧
        text = label.toList ++ b ++ ':' :: c ++ rest := by
  simp only [labelled?, Option.bind_eq_bind, Option.pure_def, Option.bind_eq_some_iff,
    after?_eq_some, Option.some.injEq]
  constructor
  · rintro ⟨_, rfl, _, hcolon, hrest⟩
    obtain ⟨b, hb, -, rfl⟩ := skipBlanks_eq_iff.1 hcolon
    obtain ⟨c, hc, hhead, rfl⟩ := skipBlanks_eq_iff.1 hrest
    exact ⟨b, c, hb, hc, hhead, by simp⟩
  · rintro ⟨b, c, hb, hc, hhead, rfl⟩
    refine ⟨b ++ ':' :: c ++ rest, by simp, c ++ rest, ?_, ?_⟩
    · exact skipBlanks_eq_iff.2 ⟨b, hb, rfl, by simp⟩
    · exact skipBlanks_eq_iff.2 ⟨c, hc, hhead, rfl⟩

theorem afterBlanks?_eq_some {part text rest : List Char}
    (hpart : part.head?.any (!isBlank ·) = true) :
    afterBlanks? part text = some rest ↔ ∃ b, AllBlank b ∧ text = b ++ part ++ rest := by
  have hhead : (part ++ rest).head?.any isBlank = false := by
    cases part with
    | nil => cases hpart
    | cons c cs => simpa using hpart
  rw [afterBlanks?, after?_eq_some, skipBlanks_eq_iff]
  simp only [hhead, true_and, List.append_assoc]

/-! ## First lines -/

variable {text l m : List Char} {n : Nat}

theorem firstLines_begins (n : Nat) (text : List Char) : firstLines n text <+: text := by
  fun_induction firstLines n text with
  | case1 => exact List.nil_prefix
  | case2 => exact List.nil_prefix
  | case3 => exact List.nil_prefix
  | case4 n c cs _ _ ih => exact List.cons_prefix_cons.2 ⟨rfl, ih⟩
  | case5 n c cs _ ih => exact List.cons_prefix_cons.2 ⟨rfl, ih⟩

theorem count_firstLines_le (n : Nat) (text : List Char) :
    (firstLines (n + 1) text).count '\n' ≤ n := by
  induction text generalizing n with
  | nil => simp [firstLines]
  | cons c cs ih =>
    simp only [firstLines]
    split
    · next hc =>
      cases n with
      | zero => simp
      | succ n =>
        have hcount : (firstLines (n + 1) cs).count '\n' ≤ n := ih n
        rw [eq_of_beq hc]
        change ('\n' :: firstLines (n + 1) cs).count '\n' ≤ n + 1
        rw [List.count_cons_self]
        exact Nat.succ_le_succ hcount
    · next hc =>
      have hne : c ≠ '\n' := by simpa using hc
      rw [List.count_cons_of_ne hne]
      exact ih n

theorem begins_firstLines (hl : l <+: text) (hcount : l.count '\n' ≤ n) :
    l <+: firstLines (n + 1) text := by
  induction text generalizing n l with
  | nil =>
    rw [List.prefix_nil.1 hl]
    exact List.nil_prefix
  | cons c cs ih =>
    cases l with
    | nil => exact List.nil_prefix
    | cons d ds =>
      obtain ⟨rfl, hds⟩ := List.cons_prefix_cons.1 hl
      by_cases hc : d = '\n'
      · subst hc
        cases n with
        | zero => simp at hcount
        | succ n =>
          have hrest : ds <+: firstLines (n + 1) cs := ih hds (by simpa using hcount)
          exact List.cons_prefix_cons.2 ⟨rfl, hrest⟩
      · rw [List.count_cons_of_ne hc] at hcount
        have hstep : firstLines (n + 1) (d :: cs) = d :: firstLines (n + 1) cs := by
          simp [firstLines, hc]
        rw [hstep]
        exact List.cons_prefix_cons.2 ⟨rfl, ih hds hcount⟩

theorem firstLines_append (h : '\n' ∉ l) (m : List Char) :
    firstLines (n + 1) (l ++ m) = l ++ firstLines (n + 1) m := by
  induction l with
  | nil => rfl
  | cons c cs ih =>
    have hc : c ≠ '\n' := by
      rintro rfl
      exact h (List.mem_cons_self ..)
    have hcs : '\n' ∉ cs := fun hmem => h (List.mem_cons_of_mem _ hmem)
    simp [firstLines, hc, ih hcs]

theorem lines_firstLines (n : Nat) (text : List Char) :
    lines (firstLines (n + 1) text) = (lines text).take (n + 1) := by
  induction text using inductLines generalizing n with
  | last l hl =>
    have hwhole : firstLines (n + 1) l = l := by
      simpa [firstLines] using firstLines_append hl []
    rw [hwhole, lines_of_not_mem hl, List.take_succ_cons, List.take_nil]
  | more l m hl ih =>
    rw [firstLines_append hl, lines_append_newline, lines_of_not_mem hl, List.singleton_append,
      List.take_succ_cons]
    cases n with
    | zero =>
      have hnone : firstLines 1 ('\n' :: m) = [] := rfl
      rw [hnone, List.append_nil, lines_of_not_mem hl, List.take_zero]
    | succ n =>
      have hrest : firstLines (n + 1 + 1) ('\n' :: m) = '\n' :: firstLines (n + 1) m := rfl
      rw [hrest, lines_append_newline, lines_of_not_mem hl, ih, List.singleton_append]

theorem lines_headerBlock (text : List Char) :
    lines (headerBlock text) = (lines text).take headerLines :=
  lines_firstLines 4 text

/-! ## The block -/

/-- The longest beginning of a text with at most four line ends. -/
structure IsHeaderBlock (block text : List Char) : Prop where
  begins : block <+: text
  count_le : block.count '\n' ≤ 4
  longest : ∀ l, l <+: text → l.count '\n' ≤ 4 → l <+: block

theorem isHeaderBlock_headerBlock (text : List Char) : IsHeaderBlock (headerBlock text) text where
  begins := firstLines_begins 5 text
  count_le := count_firstLines_le 4 text
  longest _ hl hcount := begins_firstLines hl hcount

theorem IsHeaderBlock.eq_headerBlock {block : List Char} (h : IsHeaderBlock block text) :
    block = headerBlock text := by
  have hblock := isHeaderBlock_headerBlock text
  have hle : block <+: headerBlock text := hblock.longest block h.begins h.count_le
  have hge : headerBlock text <+: block := h.longest _ hblock.begins hblock.count_le
  exact hle.eq_of_length (Nat.le_antisymm hle.length_le hge.length_le)

theorem IsHeaderBlock.itself {block : List Char} (h : IsHeaderBlock block text) :
    IsHeaderBlock block block :=
  ⟨List.prefix_rfl, h.count_le, fun _ hl _ => hl⟩

theorem isHeaderBlock_of_newline (hcount : l.count '\n' = 4) (m : List Char) :
    IsHeaderBlock l (l ++ '\n' :: m) := by
  constructor
  · exact List.prefix_append l _
  · omega
  · intro k hk hle
    rcases prefix_append_cons hk with hkl | ⟨q, rfl, -⟩
    · exact hkl
    · rw [List.count_append, List.count_cons_self] at hle
      omega

theorem classify_eq_of_headerBlock {other : List Char} (h : headerBlock other = headerBlock text) :
    classify other = classify text := by
  simp only [classify, h]

/-- The header of a text is that of its block: whatever has the same block, say after a change
behind the fifth line end, has the same header and is judged by it. -/
theorem header_within_block (text : List Char) :
    (∀ block, IsHeaderBlock block text ↔ block = headerBlock text) ∧
    headerBlock (headerBlock text) = headerBlock text ∧
    (∀ block other, IsHeaderBlock block text → IsHeaderBlock block other →
      classify other = classify text ∧
      validate other = ⟨classify text, judge (classify text) other⟩) ∧
    (∀ l m, text = l ++ '\n' :: m → l.count '\n' = 4 → ∀ m',
      IsHeaderBlock l text ∧ IsHeaderBlock l (l ++ '\n' :: m')) := by
  have hblock := isHeaderBlock_headerBlock text
  have hclassify : ∀ block other, IsHeaderBlock block text → IsHeaderBlock block other →
      classify other = classify text := by
    intro block other htext hother
    exact classify_eq_of_headerBlock (hother.eq_headerBlock.symm.trans htext.eq_headerBlock)
  refine ⟨fun block => ⟨fun h => h.eq_headerBlock, ?_⟩, hblock.itself.eq_headerBlock.symm, ?_, ?_⟩
  · rintro rfl
    exact hblock
  · intro block other htext hother
    have hsame : classify other = classify text := hclassify block other htext hother
    rw [validate, hsame]
    exact ⟨rfl, rfl⟩
  · rintro l m rfl hcount m'
    exact ⟨isHeaderBlock_of_newline hcount m, isHeaderBlock_of_newline hcount m'⟩

end PluginAudit.Plugin

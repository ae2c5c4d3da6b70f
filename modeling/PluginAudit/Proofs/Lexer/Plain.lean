import PluginAudit.Proofs.Lexer.Names

/-!
# Plain tokens

Names, signs and templates without substitutions, as the lexer reads them behind blanks, wherever
they stand.
-/

namespace PluginAudit.Script

open Text

namespace Lexer

variable {w u r : List Char} {offset limit n : Nat} {faults : List FaultAt}
  {comment : Option FirstComment} {s : Scan} {newline newline' : Bool} {c : Char} {sign : String}

/-! ## Blanks -/

def isGap (c : Char) : Bool := isSpace c || isLineEnd c

/-- Neither a blank nor a comment begins here. -/
def BeginsToken (u : List Char) : Prop :=
  ∀ c ∈ u.head?, isGap c = false ∧ c ≠ '/' ∧ c ≠ '<' ∧ c ≠ '-'

theorem isGap_of_isNameStart (h : isNameStart c = true) : isGap c = false := by
  have hcodes : ∀ n ∈ [9, 10, 11, 12, 13, 32, 0x85, 0xA0, 0x1680, 0x2028, 0x2029, 0x202F, 0x205F,
      0x3000, 0xFEFF] ++ List.range' 0x2000 12, isNameStart (Char.ofNat n) = false := by
    decide +kernel
  rw [← Bool.not_eq_true]
  intro hgap
  rw [← Char.ofNat_toNat c, hcodes c.toNat ?_] at h
  · cases h
  · rw [List.mem_append, List.mem_range'_1]
    rcases Bool.or_eq_true_iff.1 hgap with hspace | hend
    · simp only [isSpace, Bool.or_eq_true, Bool.and_eq_true, beq_iff_eq,
        decide_eq_true_eq] at hspace
      simp only [List.mem_cons, List.not_mem_nil]
      omega
    · simp only [isLineEnd, Bool.or_eq_true, beq_iff_eq] at hend
      rcases hend with ((rfl | rfl) | hend) | hend
      · decide
      · decide
      · simp [hend]
      · simp [hend]

theorem beginsToken_cons (h : isGap c = false ∧ c ≠ '/' ∧ c ≠ '<' ∧ c ≠ '-') :
    BeginsToken (c :: u) := by
  rintro d hd
  obtain rfl := Option.some.inj hd
  exact h

theorem blanks_cons (h : c ≠ '/' ∧ c ≠ '<' ∧ c ≠ '-') :
    blanks (n + 1) newline ⟨c :: u, offset, faults, comment, limit⟩ =
      (bif isSpace c then do skip; blanks n newline
        else bif isLineEnd c then do skip; blanks n true
        else pure newline : ScanM Bool) ⟨c :: u, offset, faults, comment, limit⟩ := by
  obtain ⟨hslash, hangle, hdash⟩ := h
  rw [blanks, bind_apply, get_apply]
  refine congrFun ?_ _
  generalize (if newline = true then do let e ← lineComment; blanks n (newline || e)
    else pure newline : ScanM Bool) = behindDashes
  split
  · next heq => exact absurd (List.cons.inj heq).1 hslash
  · next heq => exact absurd (List.cons.inj heq).1 hslash
  · next heq => exact absurd (List.cons.inj heq).1 hangle
  · next heq => exact absurd (List.cons.inj heq).1 hdash
  · next heq =>
    obtain ⟨rfl, _⟩ := List.cons.inj heq
    cases isSpace c <;> cases isLineEnd c <;> rfl
  · next heq => cases heq

theorem blanks_stop (h : BeginsToken u) :
    blanks n newline ⟨u, offset, faults, comment, limit⟩ =
      (newline, ⟨u, offset, faults, comment, limit⟩) := by
  cases n with
  | zero => rfl
  | succ n =>
    cases u with
    | nil => rfl
    | cons c u =>
      obtain ⟨hgap, hothers⟩ := h c rfl
      obtain ⟨hspace, hend⟩ := Bool.or_eq_false_iff.1 hgap
      rw [blanks_cons hothers, hspace, hend]
      rfl

theorem blanks_gap (h : isGap c = true) : ∃ newline',
    blanks (n + 1) newline ⟨c :: u, offset, faults, comment, limit⟩ =
      blanks n newline' ⟨u, offset + c.utf8Size, faults, comment, limit⟩ := by
  have hothers : c ≠ '/' ∧ c ≠ '<' ∧ c ≠ '-' := by
    refine ⟨?_, ?_, ?_⟩ <;> rintro rfl <;> exact absurd h (by decide)
  have hskip : skip ⟨c :: u, offset, faults, comment, limit⟩ =
      ((), ⟨u, offset + c.utf8Size, faults, comment, limit⟩) := skip_cons rfl
  rw [blanks_cons hothers]
  cases hspace : isSpace c with
  | true => exact ⟨newline, by rw [cond_true, bind_apply, hskip]⟩
  | false =>
    rw [isGap, hspace, Bool.false_or] at h
    exact ⟨true, by rw [cond_false, h, cond_true, bind_apply, hskip]⟩

theorem blanks_run (hw : ∀ c ∈ w, isGap c = true) (hu : BeginsToken u) (hn : w.length ≤ n) :
    ∃ newline', blanks n newline ⟨w ++ u, offset, faults, comment, limit⟩ =
      (newline', ⟨u, offset + byteLength w, faults, comment, limit⟩) := by
  induction w generalizing n newline offset with
  | nil => exact ⟨newline, blanks_stop hu⟩
  | cons c w ih =>
    obtain ⟨m, rfl⟩ : ∃ m, n = m + 1 := ⟨n - 1, by grind⟩
    obtain ⟨newline', hgap⟩ := blanks_gap (hw c List.mem_cons_self)
    obtain ⟨newline'', hrest⟩ :=
      ih (fun d hd => hw d (List.mem_cons_of_mem c hd)) (Nat.le_of_succ_le_succ hn)
    refine ⟨newline'', ?_⟩
    rw [List.cons_append, hgap, hrest, byteLength_cons, Nat.add_assoc]

/-! ## Signs -/

theorem skipMany_run :
    skipMany w.length ⟨w ++ u, offset, faults, comment, limit⟩ =
      ((), ⟨u, offset + byteLength w, faults, comment, limit⟩) := by
  induction w generalizing offset with
  | nil => rfl
  | cons c w ih =>
    have hskip : skip ⟨c :: w ++ u, offset, faults, comment, limit⟩ =
        ((), ⟨w ++ u, offset + c.utf8Size, faults, comment, limit⟩) := skip_cons rfl
    rw [List.length_cons, skipMany, bind_apply, hskip, ih, byteLength_cons, Nat.add_assoc]

/-- No token but a sign begins with the character. -/
def beginsSign (c : Char) : Bool :=
  !(isNameStart c || c == '\\' || c.isDigit || c == '"' || c == '\'' || c == '`' || c == '#' ||
    c == '.')

theorem signAt?_eq_some (h : signAt? u = some sign) : sign ∈ signs ∧ sign.toList <+: u := by
  have hfound := List.find?_some h
  obtain ⟨hsign, _⟩ := Bool.and_eq_true_iff.1 hfound
  exact ⟨List.mem_of_find?_eq_some h, List.isPrefixOf_iff_prefix.1 hsign⟩

theorem token_sign (hc : beginsSign c = true)
    (hblanks : blanks s.limit newline s = (newline', ⟨c :: u, offset, faults, comment, limit⟩))
    (hsign : signAt? (c :: u) = some sign) (hsplit : c :: u = sign.toList ++ r) :
    token newline s =
      (⟨.sign sign, offset, offset + byteLength sign.toList, sign.toList, newline', false, none⟩,
        ⟨r, offset + byteLength sign.toList, faults, comment, limit⟩) := by
  have hskip : skipMany sign.length ⟨c :: u, offset, faults, comment, limit⟩ =
      ((), ⟨r, offset + byteLength sign.toList, faults, comment, limit⟩) := by
    rw [← String.length_toList, hsplit]
    exact skipMany_run
  have hraw : (c :: u).take ((c :: u).length - r.length) = sign.toList := by
    rw [hsplit, List.length_append, Nat.add_sub_cancel, List.take_left]
  simp only [beginsSign, Bool.not_eq_true', Bool.or_eq_false_iff] at hc
  rw [token, bind_apply, limit_apply, bind_apply, hblanks]
  simp only [bind_apply, get_apply, hc, Bool.or_self, Bool.false_and, Bool.false_eq_true, if_false,
    hsign, hskip, finish_apply, hraw]

/-! ## Templates and the end -/

/-- Template text that holds no substitution and no escape. -/
def IsVerbatim (w : List Char) : Prop :=
  ∀ c ∈ w, (c == '$' || c == '`' || c == '\\') = false

theorem templateText_run {start : Nat} (hw : IsVerbatim w) :
    templateText start (n + 1) true ⟨w ++ '`' :: u, offset, faults, comment, limit⟩ =
      (some (true, true), ⟨u, offset + byteLength w + 1, faults, comment, limit⟩) := by
  have hpart : ∀ c ∈ w, (!(c == '$' || c == '`' || c == '\\')) = true := fun c hc => by
    rw [hw c hc]
    rfl
  have htake : (w ++ '`' :: u).takeWhile (fun c => !(c == '$' || c == '`' || c == '\\')) = w := by
    rw [List.takeWhile_append_of_pos hpart]
    simp
  have hdrop : (w ++ '`' :: u).dropWhile (fun c => !(c == '$' || c == '`' || c == '\\')) =
      '`' :: u := by
    rw [List.dropWhile_append_of_pos hpart]
    simp
  rw [templateText, bind_apply, run_apply]
  simp only [htake, hdrop]
  rfl

theorem token_template (hw : IsVerbatim w)
    (hblanks : blanks s.limit newline s =
      (newline', ⟨'`' :: (w ++ '`' :: u), offset, faults, comment, limit + 1⟩)) :
    ∃ t, t.kind = .template .whole ∧ t.escaped = false ∧ t.value = some "" ∧
      token newline s = (t, ⟨u, offset + 1 + byteLength w + 1, faults, comment, limit + 1⟩) := by
  have hskip : skip ⟨'`' :: (w ++ '`' :: u), offset, faults, comment, limit + 1⟩ =
      ((), ⟨w ++ '`' :: u, offset + 1, faults, comment, limit + 1⟩) := by
    rw [skip_cons rfl]
    rfl
  have hname : (isNameStart '`' || '`' == '\\') = false := by decide
  have hquote : ('`' == '"' || '`' == '\'') = false := by decide
  have hdigit : '`'.isDigit = false := by decide
  rw [token, bind_apply, limit_apply, bind_apply, hblanks]
  simp only [bind_apply, get_apply, hname, hquote, hdigit, Bool.false_eq_true, if_false,
    beq_self_eq_true, if_true, hskip, limit_apply, templateText_run hw, finish_apply]
  exact ⟨_, rfl, rfl, rfl, rfl⟩

theorem token_end
    (hblanks : blanks s.limit newline s = (newline', ⟨[], offset, faults, comment, limit⟩)) :
    token newline s =
      (⟨.endOfText, offset, offset, [], newline', false, none⟩,
        ⟨[], offset, faults, comment, limit⟩) := by
  rw [token, bind_apply, limit_apply, bind_apply, hblanks]
  rfl

end Lexer

/-! ## Lexing behind blanks -/

/-- A token of the kind `k` without escapes, which is no operator. -/
structure IsPlain (k : TokenKind) (t : Token) : Prop where
  kind : t.kind = k
  plain : t.escaped = false
  await : t.value ≠ some "await"
  yield : t.value ≠ some "yield"
  template : k = .template .whole → t.value ≠ none

/-- The text begins with a plain token of the kind `k`, and `rest` is behind it. -/
structure Lexes (text : List Char) (k : TokenKind) (rest : List Char) : Prop where
  length_le : rest.length ≤ text.length
  token : ∀ newline offset limit, text.length < limit → ∃ t offset', IsPlain k t ∧
    Lexer.token newline ⟨text, offset, [], none, limit⟩ = (t, ⟨rest, offset', [], none, limit⟩)

section

variable {b w u rest : List Char} {c : Char} {sign : String} {k : TokenKind}
  (hb : ∀ d ∈ b, Lexer.isGap d = true)
include hb

theorem lexes_of_token (hu : Lexer.BeginsToken u) (hlength : rest.length ≤ u.length)
    (h : ∀ newline offset limit s, 0 < limit →
      (∃ newline', Lexer.blanks s.limit newline s =
        (newline', ⟨u, offset, [], none, limit⟩)) →
      ∃ t offset', IsPlain k t ∧
        Lexer.token newline s = (t, ⟨rest, offset', [], none, limit⟩)) :
    Lexes (b ++ u) k rest := by
  constructor
  · rw [List.length_append]
    exact Nat.le_trans hlength (Nat.le_add_left u.length b.length)
  · intro newline offset limit hlimit
    rw [List.length_append] at hlimit
    refine h newline (offset + byteLength b) limit _ (Nat.zero_lt_of_lt hlimit) ?_
    exact Lexer.blanks_run hb hu (by grind)

theorem lexes_sign (hc : Lexer.beginsSign c = true) (htoken : Lexer.BeginsToken (c :: u))
    (hsign : Lexer.signAt? (c :: u) = some sign) (hsplit : c :: u = sign.toList ++ rest) :
    Lexes (b ++ c :: u) (.sign sign) rest := by
  refine lexes_of_token hb htoken ?_ fun newline offset limit s _ ⟨newline', hblanks⟩ => ?_
  · rw [hsplit, List.length_append]
    exact Nat.le_add_left rest.length sign.toList.length
  · refine ⟨_, _, ?_, Lexer.token_sign hc hblanks hsign hsplit⟩
    exact ⟨rfl, rfl, nofun, nofun, nofun⟩

theorem lexes_name (hc : isNameStart c = true) (htoken : Lexer.BeginsToken (c :: w ++ u))
    (hw : ∀ d ∈ c :: w, isNamePart d = true) (hu : Lexer.EndsName u)
    (hawait : String.ofList (c :: w) ≠ "await") (hyield : String.ofList (c :: w) ≠ "yield") :
    Lexes (b ++ (c :: w ++ u)) (.ofName (String.ofList (c :: w))) u := by
  refine lexes_of_token hb htoken ?_ fun newline offset limit s hlimit ⟨newline', hblanks⟩ => ?_
  · rw [List.length_append]
    exact Nat.le_add_left u.length (c :: w).length
  · obtain ⟨limit, rfl⟩ := Nat.exists_eq_succ_of_ne_zero (Nat.ne_of_gt hlimit)
    have hkind : TokenKind.ofName (String.ofList (c :: w)) ≠ .template .whole := by
      rw [TokenKind.ofName]
      split <;> nofun
    refine ⟨_, _, ⟨rfl, rfl, by simpa using hawait, by simpa using hyield, ?_⟩,
      Lexer.token_name hc hblanks hw hu⟩
    exact fun h => absurd h hkind

theorem lexes_template (hw : Lexer.IsVerbatim w) :
    Lexes (b ++ '`' :: (w ++ '`' :: u)) (.template .whole) u := by
  refine lexes_of_token hb (Lexer.beginsToken_cons (by decide)) (by grind)
    fun newline offset limit s hlimit ⟨newline', hblanks⟩ => ?_
  obtain ⟨limit, rfl⟩ := Nat.exists_eq_succ_of_ne_zero (Nat.ne_of_gt hlimit)
  obtain ⟨t, hkind, hplain, hvalue, htoken⟩ := Lexer.token_template hw hblanks
  refine ⟨t, _, ⟨hkind, hplain, ?_, ?_, ?_⟩, htoken⟩
  · rw [hvalue]
    decide
  · rw [hvalue]
    decide
  · rw [hvalue]
    exact fun _ => Option.some_ne_none ""

theorem lexes_end : Lexes b .endOfText [] := by
  rw [← List.append_nil b]
  refine lexes_of_token hb nofun (Nat.le_refl 0)
    fun newline offset limit s _ ⟨newline', hblanks⟩ => ⟨_, _, ?_, Lexer.token_end hblanks⟩
  exact ⟨rfl, rfl, nofun, nofun, nofun⟩

end

end PluginAudit.Script

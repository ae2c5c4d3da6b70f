import Mathlib.Data.String.Basic
import PluginAudit.Json.Printer
import PluginAudit.Json.Reader

/-!
# Steps of the reader

What the reader takes from a text and where it comes to stand: blanks, words, strings as they are
quoted, and natural numbers.
-/

namespace PluginAudit.Json

open Text

/-- From before `text` the reader gives `a` and comes to stand before `rest`. -/
def Takes (m : ReadM α) (text : List Char) (a : α) (rest : List Char) : Prop :=
  ∀ offset, ∃ offset', m ⟨text, offset⟩ = .ok a ⟨rest, offset'⟩

theorem get_bind_apply {α : Type} {f : Cursor → ReadM α} {s : Cursor} :
    (get >>= f) s = f s s := rfl

theorem bind_apply_congr {α β : Type} {m : ReadM α} {f : α → ReadM β} {s t : Cursor}
    (h : m s = m t) : (m >>= f) s = (m >>= f) t := by
  change EStateM.bind m f s = EStateM.bind m f t
  rw [EStateM.bind, EStateM.bind, h]

theorem dropWhile_append {p : Char → Bool} {w text : List Char} (hw : ∀ c ∈ w, p c = true)
    (ht : ∀ c ∈ text.head?, p c = false) : (w ++ text).dropWhile p = text := by
  rw [List.dropWhile_append_of_pos hw]
  cases text with
  | nil => rfl
  | cons c text => simp [ht c rfl]

namespace Takes

variable {α β : Type} {m : ReadM α} {f : α → ReadM β} {a : α} {b : β}
  {c : Char} {text rest rest' w : List Char}

theorem pure : Takes (pure a) text a text := fun offset => ⟨offset, rfl⟩

theorem bind (hm : Takes m text a rest) (hf : Takes (f a) rest b rest') :
    Takes (m >>= f) text b rest' := by
  intro offset
  obtain ⟨offset₁, hm⟩ := hm offset
  obtain ⟨offset₂, hf⟩ := hf offset₁
  refine ⟨offset₂, ?_⟩
  change EStateM.bind m f ⟨text, offset⟩ = _
  rw [EStateM.bind, hm]
  exact hf

theorem peek : Takes Json.peek text text.head? text := fun offset => ⟨offset, rfl⟩

theorem skip : Takes Json.skip (c :: text) () text := fun _ => ⟨_, rfl⟩

theorem skipSpaces (hw : ∀ c ∈ w, isSpace c = true) (ht : ∀ c ∈ text.head?, isSpace c = false) :
    Takes Json.skipSpaces (w ++ text) text.head? text := by
  have hdrop : (w ++ text).dropWhile isSpace = text := dropWhile_append hw ht
  intro offset
  refine ⟨offset + byteLength ((w ++ text).takeWhile isSpace), ?_⟩
  change EStateM.Result.ok ((w ++ text).dropWhile isSpace).head?
    (⟨(w ++ text).dropWhile isSpace, _⟩ : Cursor) = _
  rw [hdrop]

theorem noSpaces (hc : isSpace c = false) :
    Takes Json.skipSpaces (c :: text) (some c) (c :: text) := by
  have hnone : ∀ d ∈ ([] : List Char), isSpace d = true := fun d hd => nomatch hd
  exact skipSpaces hnone (by simpa using hc)

theorem word : Takes (Json.word w) (w ++ text) () text := by
  induction w with
  | nil => exact pure
  | cons c w ih =>
    refine peek.bind ?_
    simpa using skip.bind ih

/-! ## Strings -/

theorem fourDigits {i j k l : Char} {p q r s : Nat} (hi : hexValue? i = some p)
    (hj : hexValue? j = some q) (hk : hexValue? k = some r) (hl : hexValue? l = some s) :
    Takes Json.fourDigits (i :: j :: k :: l :: text) (((p * 16 + q) * 16 + r) * 16 + s) text := by
  intro offset
  refine ⟨offset + 4, ?_⟩
  simp only [Json.fourDigits, get_bind_apply, hi, hj, hk, hl]
  rfl

theorem hexValue?_hexDigit : ∀ n < 16, hexValue? (hexDigit n) = some n := by decide

theorem controlEscape (hc : c.toNat < 32) :
    Takes Json.escape
      ('u' :: '0' :: '0' :: hexDigit (c.toNat / 16) :: hexDigit (c.toNat % 16) :: text) c text := by
  have hnumber : ((0 * 16 + 0) * 16 + c.toNat / 16) * 16 + c.toNat % 16 = c.toNat := by omega
  have hzero : hexValue? '0' = some 0 := hexValue?_hexDigit 0 (by decide)
  have hhigh := hexValue?_hexDigit (c.toNat / 16) (by omega)
  have hlowest := hexValue?_hexDigit (c.toNat % 16) (by omega)
  have hdigits : Takes Json.fourDigits
      ('0' :: '0' :: hexDigit (c.toNat / 16) :: hexDigit (c.toNat % 16) :: text) _ text :=
    fourDigits hzero hzero hhigh hlowest
  rw [hnumber] at hdigits
  refine peek.bind (skip.bind (hdigits.bind ?_))
  have hlow : (decide (0xDC00 ≤ c.toNat) && decide (c.toNat ≤ 0xDFFF)) = false := by
    rw [Bool.and_eq_false_iff]
    exact .inl (decide_eq_false (by omega))
  have hplain : (decide (c.toNat < 0xD800) || decide (0xDBFF < c.toNat)) = true := by
    rw [Bool.or_eq_true]
    exact .inl (decide_eq_true (by omega))
  simp only [hlow, hplain, Char.ofNat_toNat]
  exact pure

theorem escape (hc : escaped c = '\\' :: w) : Takes Json.escape (w ++ text) c text := by
  unfold escaped at hc
  split at hc
  case h_8 =>
    split at hc
    · next hcontrol =>
      obtain rfl := List.cons.inj hc |>.2
      exact controlEscape hcontrol
    · next hne _ =>
      exact absurd (List.cons.inj hc).1 (by rintro rfl; simp at *)
  all_goals
    obtain rfl := List.cons.inj hc |>.2
    exact peek.bind (skip.bind pure)

/-- A character is written as it is, or behind a backslash. -/
theorem escaped_cases (c : Char) :
    (∃ w, escaped c = '\\' :: w) ∨ (escaped c = [c] ∧ c ≠ '"' ∧ c ≠ '\\' ∧ ¬ c.toNat < 32) := by
  unfold escaped
  split
  case h_8 hquote hback _ _ _ _ _ =>
    split
    · exact .inl ⟨_, rfl⟩
    · exact .inr ⟨rfl, hquote, hback, by assumption⟩
  all_goals exact .inl ⟨_, rfl⟩

theorem length_le_flatMap_escaped (cs : List Char) : cs.length ≤ (cs.flatMap escaped).length := by
  induction cs with
  | nil => exact Nat.le_refl _
  | cons c cs ih =>
    have hpos : 0 < (escaped c).length := by
      rcases escaped_cases c with ⟨w, hw⟩ | ⟨hw, _⟩ <;> simp [hw]
    rw [List.flatMap_cons, List.length_append, List.length_cons]
    omega

theorem stringCharacter {n : Nat} {done : List Char} {s : String}
    (h : Takes (stringRest n (c :: done)) text s rest) :
    Takes (stringRest (n + 1) done) (escaped c ++ text) s rest := by
  rcases escaped_cases c with ⟨w, hw⟩ | ⟨hw, hquote, hback, hcontrol⟩
  · rw [hw]
    exact peek.bind (skip.bind ((escape hw).bind h))
  · rw [hw]
    refine peek.bind ?_
    simpa [hquote, hback, hcontrol] using skip.bind h

theorem stringRest {n : Nat} {cs done : List Char} (hn : cs.length < n) :
    Takes (Json.stringRest n done) (cs.flatMap escaped ++ '"' :: rest)
      (String.ofList (done.reverse ++ cs)) rest := by
  induction cs generalizing n done with
  | nil =>
    obtain ⟨n, rfl⟩ := Nat.exists_eq_succ_of_ne_zero (Nat.ne_of_gt hn)
    rw [List.append_nil]
    exact peek.bind (skip.bind pure)
  | cons c cs ih =>
    obtain ⟨n, rfl⟩ := Nat.exists_eq_succ_of_ne_zero (Nat.ne_of_gt (Nat.zero_lt_of_lt hn))
    have hrest : Takes (Json.stringRest n (c :: done)) _ (String.ofList ((c :: done).reverse ++ cs))
        rest := ih (Nat.lt_of_succ_lt_succ hn)
    rw [List.reverse_cons, List.append_assoc] at hrest
    rw [List.flatMap_cons, List.append_assoc]
    exact stringCharacter hrest

/-- A quoted string is read behind its first quote. -/
theorem string {n : Nat} {s : String} (hn : (s.toList.flatMap escaped).length < n) :
    Takes (Json.stringRest n []) (s.toList.flatMap escaped ++ '"' :: rest) s rest := by
  have h : Takes (Json.stringRest n []) _ (String.ofList ([].reverse ++ s.toList)) rest :=
    stringRest (Nat.lt_of_le_of_lt (length_le_flatMap_escaped _) hn)
  rwa [List.reverse_nil, List.nil_append, String.ofList_toList] at h

/-! ## Numbers -/

theorem digits (hw : ∀ c ∈ w, c.isDigit = true) (ht : ∀ c ∈ text.head?, c.isDigit = false) :
    Takes Json.digits (w ++ text) (w.map (·.toNat - 48)) text := by
  have htake : (w ++ text).takeWhile Char.isDigit = w := by
    rw [List.takeWhile_append_of_pos hw]
    cases text with
    | nil => simp
    | cons c text => simp [ht c rfl]
  have hdrop : (w ++ text).dropWhile Char.isDigit = text := dropWhile_append hw ht
  intro offset
  refine ⟨offset + w.length, ?_⟩
  simp only [Json.digits, get_bind_apply, htake, hdrop]
  rfl

end Takes

theorem le_ofDigitChars (w : List Char) (value : Nat) : value ≤ Nat.ofDigitChars 10 w value := by
  rw [Nat.ofDigitChars_eq_ofDigitChars_zero]
  exact Nat.le_add_right_of_le (Nat.le_mul_of_pos_left _ (Nat.pow_pos (by decide)))

theorem gather_eq {limit value : Nat} {w : List Char} (h : Nat.ofDigitChars 10 w value < limit) :
    gather limit value (w.map (·.toNat - 48)) = (Nat.ofDigitChars 10 w value, []) := by
  induction w generalizing value with
  | nil => simp [gather]
  | cons c w ih =>
    have hstep : 10 * value + (c.toNat - '0'.toNat) = value * 10 + (c.toNat - 48) := by
      rw [Nat.mul_comm]
      rfl
    rw [Nat.ofDigitChars_cons, hstep] at h ⊢
    have hlt : value * 10 + (c.toNat - 48) < limit := Nat.lt_of_le_of_lt (le_ofDigitChars w _) h
    rw [List.map_cons, gather, if_pos hlt, ih h]

theorem digitChar_ne_zero : ∀ n < 10, n ≠ 0 → n.digitChar ≠ '0' := by decide

theorem head_toDigits_ne {n : Nat} (hn : n ≠ 0) : (Nat.toDigits 10 n).head? ≠ some '0' := by
  induction n using Nat.strongRecOn with
  | ind n ih =>
    by_cases hlt : n < 10
    · rw [Nat.toDigits_of_lt_base hlt]
      simpa using digitChar_ne_zero n hlt hn
    · have hle : 10 ≤ n := Nat.le_of_not_lt hlt
      rw [Nat.toDigits_of_base_le (by decide) hle,
        List.head?_append_of_ne_nil _ Nat.toDigits_ne_nil]
      exact ih (n / 10) (by omega) (by omega)

/-- No number goes on where `text` begins. -/
def EndsNumber (text : List Char) : Prop :=
  ∀ c ∈ text.head?, c.isDigit = false ∧ c ≠ '.' ∧ c ≠ 'e' ∧ c ≠ 'E'

namespace Takes

variable {text : List Char}

theorem afterWhole {value : Nat} (ht : EndsNumber text) :
    Takes (Json.afterWhole false value 0) text (.int value) text := by
  refine peek.bind ?_
  split
  · next h => exact absurd rfl (ht '.' h).2.1
  · next h => exact absurd rfl (ht 'e' h).2.2.1
  · next h => exact absurd rfl (ht 'E' h).2.2.2
  · exact pure

theorem number {n : Nat} (hn : n < exactLimit) (ht : EndsNumber text) :
    Takes (Json.number false) (Nat.toDigits 10 n ++ text) (.int n) text := by
  have hends : ∀ c ∈ text.head?, c.isDigit = false := fun c hc => (ht c hc).1
  by_cases hzero : n = 0
  · subst hzero
    refine peek.bind (skip.bind (peek.bind ?_))
    split
    · next c hc =>
      rw [hends c hc]
      exact afterWhole ht
    · exact afterWhole ht
  · have hall : ∀ c ∈ Nat.toDigits 10 n, c.isDigit = true := fun c hc =>
      Nat.isDigit_of_mem_toDigits (by decide) (by decide) hc
    have hhead := head_toDigits_ne hzero
    have hvalue : Nat.ofDigitChars 10 (Nat.toDigits 10 n) 0 = n := Nat.ofDigitChars_ten_toDigits
    have hdigits := digits hall hends
    obtain ⟨c, w, hcw⟩ := List.exists_cons_of_ne_nil (Nat.toDigits_ne_nil (n := n) (b := 10))
    rw [hcw] at hall hhead hvalue hdigits ⊢
    refine peek.bind ?_
    simp only [List.cons_append, List.head?_cons]
    split
    · next h => cases h
    · next h => exact absurd h hhead
    · next d _ h =>
      obtain rfl := Option.some.inj h
      rw [hall c List.mem_cons_self, if_pos rfl]
      refine hdigits.bind ?_
      rw [gather_eq (by rw [hvalue]; exact hn), hvalue]
      exact afterWhole ht

end Takes

end PluginAudit.Json

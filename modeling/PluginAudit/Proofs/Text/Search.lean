import Mathlib.Data.List.TakeWhile
import Mathlib.Order.Iterate
import PluginAudit.Text.Search

/-!
# What a search finds

A search visits places of a text from left to right. From a place where the matcher fails it goes
on to the next one, from a match to its end. So it finds the matches at the places that it does
not skip, and it skips a place exactly if a match that it finds goes over it.
-/

namespace PluginAudit.Text

theorem after?_eq_some {part text rest : List Char} :
    after? part text = some rest ↔ text = part ++ rest := by
  rw [after?]
  constructor
  · intro h
    split at h
    · next hpart =>
      obtain ⟨k, rfl⟩ := List.isPrefixOf_iff_prefix.1 hpart
      rw [List.drop_left] at h
      rw [Option.some.inj h]
    · cases h
  · rintro rfl
    rw [if_pos (List.isPrefixOf_iff_prefix.2 (List.prefix_append part rest)), List.drop_left]

/-- A text is cut in one way only where characters of a kind end. -/
theorem takeWhile_dropWhile_iff {p : Char → Bool} {text l rest : List Char} :
    text.takeWhile p = l ∧ text.dropWhile p = rest ↔
      (∀ c ∈ l, p c = true) ∧ rest.head?.any p = false ∧ text = l ++ rest := by
  constructor
  · rintro ⟨rfl, rfl⟩
    refine ⟨fun c hc => List.mem_takeWhile_imp hc, ?_, List.takeWhile_append_dropWhile.symm⟩
    have hhead := List.head?_dropWhile_not p text
    cases hdrop : (text.dropWhile p).head? with
    | none => rfl
    | some c =>
      rw [hdrop] at hhead
      simpa using hhead
  · rintro ⟨hl, hrest, rfl⟩
    have hnone : rest.takeWhile p = [] ∧ rest.dropWhile p = rest := by
      cases rest with
      | nil => exact ⟨rfl, rfl⟩
      | cons c cs =>
        have hc : p c = false := hrest
        exact ⟨List.takeWhile_cons_of_neg (by simp [hc]), List.dropWhile_cons_of_neg (by simp [hc])⟩
    rw [List.takeWhile_append_of_pos hl, List.dropWhile_append_of_pos hl, hnone.1, hnone.2,
      List.append_nil]
    exact ⟨rfl, rfl⟩

variable {α : Type} {m : Matcher α} {text : List Char} {p q : Nat}

/-- Matches take at least one character, and what they leave is the end of the text. -/
def Matcher.Consumes (m : Matcher α) : Prop :=
  ∀ before text a rest, m before text = some (a, rest) → rest <:+ text ∧ rest.length < text.length

/-- What is found at a place of a text. -/
def matchAt (m : Matcher α) (text : List Char) (p : Nat) : Option (α × List Char) :=
  m (text.take p).getLast? (text.drop p)

/-- The place that is visited after another. -/
def nextPlace (m : Matcher α) (text : List Char) (p : Nat) : Nat :=
  match matchAt m text p with
  | some (_, rest) => text.length - rest.length
  | none => p + 1

def IsVisited (m : Matcher α) (text : List Char) (p : Nat) : Prop :=
  ∃ k, (nextPlace m text)^[k] 0 = p

theorem nextPlace_of_match {a : α} {rest : List Char}
    (h : matchAt m text p = some (a, rest)) : nextPlace m text p = text.length - rest.length := by
  rw [nextPlace, h]

theorem nextPlace_of_none (h : matchAt m text p = none) : nextPlace m text p = p + 1 := by
  rw [nextPlace, h]

theorem Matcher.Consumes.rest_eq (hm : m.Consumes) {a : α} {rest : List Char}
    (h : matchAt m text p = some (a, rest)) :
    p < text.length - rest.length ∧ rest = text.drop (text.length - rest.length) := by
  obtain ⟨hsuffix, hlength⟩ := hm _ _ _ _ h
  have hrest : rest = text.drop (text.length - rest.length) :=
    List.suffix_iff_eq_drop.1 (hsuffix.trans (List.drop_suffix p text))
  rw [List.length_drop] at hlength
  exact ⟨by omega, hrest⟩

theorem Matcher.Consumes.lt_nextPlace (hm : m.Consumes) (p : Nat) : p < nextPlace m text p := by
  cases hmatch : matchAt m text p with
  | none =>
    rw [nextPlace_of_none hmatch]
    exact Nat.lt_succ_self p
  | some found =>
    rw [nextPlace_of_match hmatch]
    exact (hm.rest_eq hmatch).1

theorem Matcher.Consumes.strictMono (hm : m.Consumes) :
    StrictMono fun k => (nextPlace m text)^[k] 0 := by
  refine strictMono_nat_of_lt_succ fun k => ?_
  rw [Function.iterate_succ_apply']
  exact hm.lt_nextPlace _

/-- Every place is one that the search visits or lies behind one and before the next. -/
theorem Matcher.Consumes.exists_le_lt (hm : m.Consumes) (p : Nat) :
    ∃ q, IsVisited m text q ∧ q ≤ p ∧ p < nextPlace m text q := by
  induction p with
  | zero => exact ⟨0, ⟨0, rfl⟩, Nat.le_refl 0, hm.lt_nextPlace 0⟩
  | succ p ih =>
    obtain ⟨q, ⟨k, rfl⟩, hle, hlt⟩ := ih
    by_cases hnext : p + 1 < nextPlace m text ((nextPlace m text)^[k] 0)
    · exact ⟨_, ⟨k, rfl⟩, Nat.le_succ_of_le hle, hnext⟩
    · refine ⟨p + 1, ⟨k + 1, ?_⟩, Nat.le_refl _, hm.lt_nextPlace _⟩
      rw [Function.iterate_succ_apply']
      omega

theorem Matcher.Consumes.nextPlace_le (hm : m.Consumes) (hp : IsVisited m text p)
    (hq : IsVisited m text q) (h : q < p) : nextPlace m text q ≤ p := by
  obtain ⟨i, rfl⟩ := hp
  obtain ⟨j, rfl⟩ := hq
  have hlt : j < i := hm.strictMono.lt_iff_lt.1 h
  have hle : (nextPlace m text)^[j + 1] 0 ≤ (nextPlace m text)^[i] 0 := hm.strictMono.monotone hlt
  rwa [Function.iterate_succ_apply'] at hle

/-- Only a match that is found keeps the search from visiting a place. -/
theorem Matcher.Consumes.isVisited_iff (hm : m.Consumes) :
    IsVisited m text p ↔ ∀ q a rest, IsVisited m text q → matchAt m text q = some (a, rest) →
      q < p → text.length - rest.length ≤ p := by
  constructor
  · intro hp q a rest hq hmatch hlt
    rw [← nextPlace_of_match hmatch]
    exact hm.nextPlace_le hp hq hlt
  · intro h
    obtain ⟨q, hq, hle, hlt⟩ : ∃ q, IsVisited m text q ∧ q ≤ p ∧ p < nextPlace m text q :=
      hm.exists_le_lt p
    rcases Nat.lt_or_eq_of_le hle with hbefore | rfl
    · cases hmatch : matchAt m text q with
      | none =>
        rw [nextPlace_of_none hmatch] at hlt
        omega
      | some found =>
        rw [nextPlace_of_match hmatch] at hlt
        exact absurd hlt (Nat.not_lt.2 (h q found.1 found.2 hq hmatch hbefore))
    · exact hq

/-! ## The list of what is found -/

theorem lastBefore_drop (hpq : p ≤ q) (hq : q ≤ text.length) :
    lastBefore (text.take p).getLast? (text.drop p) (text.drop q) = (text.take q).getLast? := by
  have hlength : (text.drop p).length - (text.drop q).length = q - p := by
    rw [List.length_drop, List.length_drop]
    omega
  have htake : text.take q = text.take p ++ (text.drop p).take (q - p) := by
    rw [← List.take_add, Nat.add_sub_cancel' hpq]
  rw [lastBefore, hlength, htake, List.getLast?_append]

theorem Matcher.Consumes.matchAt_eq_none (hm : m.Consumes) (hp : text.length ≤ p) :
    matchAt m text p = none := by
  rw [Option.eq_none_iff_forall_ne_some]
  rintro ⟨a, rest⟩ hmatch
  have hlt : p < text.length - rest.length := (hm.rest_eq hmatch).1
  omega

theorem allMatches_of_match {n : Nat} {a : α} {before : Option Char} {rest : List Char}
    (h : m before text = some (a, rest)) :
    allMatches m (n + 1) before text = a :: allMatches m n (lastBefore before text rest) rest := by
  simp only [allMatches, h]

theorem allMatches_of_none {n : Nat} {before : Option Char} {c : Char} {cs : List Char}
    (h : m before (c :: cs) = none) :
    allMatches m (n + 1) before (c :: cs) = allMatches m n (some c) cs := by
  simp only [allMatches, h]

theorem allMatches_nil {n : Nat} {before : Option Char} (h : m before [] = none) :
    allMatches m n before [] = [] := by
  cases n with
  | zero => rfl
  | succ n => simp only [allMatches, h]

/-- What is found from a place on. -/
def foundFrom (m : Matcher α) (text : List Char) (n p : Nat) : List α :=
  allMatches m n (text.take p).getLast? (text.drop p)

theorem Matcher.Consumes.foundFrom_of_match (hm : m.Consumes) {n : Nat} {a : α} {rest : List Char}
    (h : matchAt m text p = some (a, rest)) :
    foundFrom m text (n + 1) p = a :: foundFrom m text n (nextPlace m text p) := by
  obtain ⟨hlt, hrest⟩ := hm.rest_eq h
  have hnext : nextPlace m text p = text.length - rest.length := nextPlace_of_match h
  have hlast : lastBefore (text.take p).getLast? (text.drop p) rest =
      (text.take (nextPlace m text p)).getLast? := by
    rw [hrest, ← hnext]
    exact lastBefore_drop (by omega) (by omega)
  rw [foundFrom, allMatches_of_match h, hlast, foundFrom, hnext, ← hrest]

theorem foundFrom_of_none {n : Nat} (hp : p < text.length) (h : matchAt m text p = none) :
    foundFrom m text (n + 1) p = foundFrom m text n (nextPlace m text p) := by
  have hnext : nextPlace m text p = p + 1 := nextPlace_of_none h
  have hdrop : text.drop p = text[p] :: text.drop (p + 1) := List.drop_eq_getElem_cons hp
  have hlast : (text.take (p + 1)).getLast? = some text[p] := by
    rw [List.take_add_one, List.getElem?_eq_getElem hp]
    exact List.getLast?_concat ..
  rw [matchAt, hdrop] at h
  rw [foundFrom, hdrop, allMatches_of_none h, foundFrom, hnext, hlast]

theorem Matcher.Consumes.foundFrom_of_le (hm : m.Consumes) {n : Nat} (hp : text.length ≤ p) :
    foundFrom m text n p = [] := by
  have hnone : matchAt m text p = none := hm.matchAt_eq_none hp
  rw [matchAt, List.drop_eq_nil_of_le hp] at hnone
  rw [foundFrom, List.drop_eq_nil_of_le hp, allMatches_nil hnone]

theorem Matcher.Consumes.mem_foundFrom (hm : m.Consumes) {n : Nat} {a : α}
    (hn : text.length ≤ n + p) :
    a ∈ foundFrom m text n p ↔
      ∃ k rest, matchAt m text ((nextPlace m text)^[k] p) = some (a, rest) := by
  induction n generalizing p with
  | zero =>
    have hp : text.length ≤ p := by omega
    have hnone : ∀ k, matchAt m text ((nextPlace m text)^[k] p) = none := by
      intro k
      have hle : p ≤ (nextPlace m text)^[k] p :=
        Function.id_le_iterate_of_id_le (fun q => Nat.le_of_lt (hm.lt_nextPlace q)) k p
      exact hm.matchAt_eq_none (Nat.le_trans hp hle)
    simp [hm.foundFrom_of_le hp, hnone]
  | succ n ih =>
    have hlt : p < nextPlace m text p := hm.lt_nextPlace p
    have hlater : a ∈ foundFrom m text n (nextPlace m text p) ↔
        ∃ k rest, matchAt m text ((nextPlace m text)^[k + 1] p) = some (a, rest) := by
      simp only [Function.iterate_succ_apply]
      exact ih (by omega)
    rw [← Nat.or_exists_add_one, ← hlater, Function.iterate_zero_apply]
    cases hmatch : matchAt m text p with
    | some found =>
      rw [hm.foundFrom_of_match hmatch, List.mem_cons]
      constructor
      · rintro (rfl | hmem)
        · exact .inl ⟨found.2, rfl⟩
        · exact .inr hmem
      · rintro (⟨rest, hfound⟩ | hmem)
        · exact .inl (congrArg Prod.fst (Option.some.inj hfound)).symm
        · exact .inr hmem
    | none =>
      have hsame : foundFrom m text (n + 1) p = foundFrom m text n (nextPlace m text p) := by
        by_cases hp : p < text.length
        · exact foundFrom_of_none hp hmatch
        · rw [hm.foundFrom_of_le (by omega), hm.foundFrom_of_le (by omega)]
      simp [hsame]

/-- A search finds the matches at the places that it visits. -/
theorem Matcher.Consumes.mem_matchesIn (hm : m.Consumes) {a : α} :
    a ∈ matchesIn m text ↔
      ∃ p rest, IsVisited m text p ∧ matchAt m text p = some (a, rest) := by
  have hfound : a ∈ foundFrom m text (text.length + 1) 0 ↔
      ∃ k rest, matchAt m text ((nextPlace m text)^[k] 0) = some (a, rest) :=
    hm.mem_foundFrom (by omega)
  have hstart : matchesIn m text = foundFrom m text (text.length + 1) 0 := by
    rw [matchesIn, foundFrom, List.take_zero, List.drop_zero, List.getLast?_nil]
  rw [hstart, hfound]
  constructor
  · rintro ⟨k, rest, hmatch⟩
    exact ⟨_, rest, ⟨k, rfl⟩, hmatch⟩
  · rintro ⟨_, rest, ⟨k, rfl⟩, hmatch⟩
    exact ⟨k, rest, hmatch⟩

/-! ## The rests that begin lines -/

theorem lineRests_eq (text : List Char) : lineRests text = text :: lineRests.go text := by
  cases text with
  | nil => rfl
  | cons c cs => rfl

theorem lineRests_go_append {l : List Char} (hl : '\n' ∉ l) (k : List Char) :
    lineRests.go (l ++ k) = lineRests.go k := by
  induction l with
  | nil => rfl
  | cons c cs ih =>
    rw [List.mem_cons, not_or] at hl
    rw [List.cons_append, lineRests.go]
    · exact ih hl.2
    · exact fun h => hl.1 h.symm

theorem lineRests_append_newline {l : List Char} (hl : '\n' ∉ l) (k : List Char) :
    lineRests (l ++ '\n' :: k) = (l ++ '\n' :: k) :: lineRests k := by
  rw [lineRests_eq, lineRests_go_append hl, lineRests.go, ← lineRests_eq]

theorem lineRests_of_not_mem {l : List Char} (hl : '\n' ∉ l) : lineRests l = [l] := by
  have hgo : lineRests.go (l ++ []) = [] := lineRests_go_append hl []
  rw [List.append_nil] at hgo
  rw [lineRests_eq, hgo]

end PluginAudit.Text

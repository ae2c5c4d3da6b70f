import Mathlib.Order.Bounds.Defs
import PluginAudit.Text.Search

/-!
# Searches that find as much as there is

Of pieces of a shape that do not overlap, a text has room for some number. A search from left to
right finds that many if each match ends where no piece that begins at its start or behind it has
ended before: whatever pieces were chosen, the first one can give way to the match.
-/

namespace PluginAudit.Text

variable {α : Type} {m : Matcher α} {IsShape : List Char → Prop} {text rest l s r : List Char}
  {k : Nat}

/-- A choice of `k` pieces of the shape in a text that do not overlap, in the order in which they
stand. -/
inductive Packing (IsShape : List Char → Prop) : List Char → Nat → Prop
  | none (text : List Char) : Packing IsShape text 0
  | next (between : List Char) {s rest : List Char} {k : Nat} :
      IsShape s → Packing IsShape rest k → Packing IsShape (between ++ s ++ rest) (k + 1)

theorem Packing.prepend (h : Packing IsShape text k) (l : List Char) :
    Packing IsShape (l ++ text) k := by
  cases h with
  | none => exact .none _
  | next between hs hrest =>
    have hnext := Packing.next (l ++ between) hs hrest
    rwa [List.append_assoc, List.append_assoc, ← List.append_assoc between] at hnext

theorem greatest_eq_zero_iff (h : IsGreatest {k | Packing IsShape text k} k) :
    k = 0 ↔ ∀ s, s <:+: text → ¬ IsShape s := by
  constructor
  · rintro rfl s ⟨between, rest, rfl⟩ hs
    have hle : 1 ≤ 0 := h.2 (.next between hs (.none rest))
    cases hle
  · intro hnone
    rcases h.1 with _ | ⟨between, hs, _⟩
    · rfl
    · exact absurd hs (hnone _ ⟨between, _, rfl⟩)

/-- The matcher finds a piece wherever one begins, and it ends where no piece from there on has
ended before. -/
structure Matcher.FindsFirst (m : Matcher α) (IsShape : List Char → Prop) : Prop where
  sound : ∀ {before text a rest}, m before text = some (a, rest) →
    ∃ s, s ≠ [] ∧ IsShape s ∧ text = s ++ rest
  complete : ∀ {before s r}, IsShape s → m before (s ++ r) ≠ none
  first : ∀ {before text a rest l s r}, m before text = some (a, rest) → IsShape s →
    text = l ++ s ++ r → r <:+ rest

theorem Matcher.FindsFirst.packing_allMatches (hm : m.FindsFirst IsShape) (n : Nat)
    (before : Option Char) (text : List Char) :
    Packing IsShape text (allMatches m n before text).length := by
  induction n generalizing before text with
  | zero => exact .none text
  | succ n ih =>
    cases hmatch : m before text with
    | some found =>
      obtain ⟨a, rest⟩ := found
      obtain ⟨s, _, hs, rfl⟩ := hm.sound hmatch
      simp only [allMatches, hmatch, List.length_cons]
      exact .next [] hs (ih _ rest)
    | none =>
      cases text with
      | nil =>
        simp only [allMatches, hmatch]
        exact .none []
      | cons c cs =>
        simp only [allMatches, hmatch]
        exact (ih (some c) cs).prepend [c]

theorem Matcher.FindsFirst.le_length_allMatches (hm : m.FindsFirst IsShape) {n : Nat}
    {before : Option Char} (hpacking : Packing IsShape text k) (hn : text.length < n) :
    k ≤ (allMatches m n before text).length := by
  induction n generalizing before text k with
  | zero => omega
  | succ n ih =>
    cases hpacking with
    | none => exact Nat.zero_le _
    | @next between s rest k hs hrest =>
      cases hmatch : m before (between ++ s ++ rest) with
      | some found =>
        obtain ⟨a, left⟩ := found
        obtain ⟨y, hleft⟩ : rest <:+ left := hm.first hmatch hs rfl
        obtain ⟨s', hne, _, htext⟩ := hm.sound hmatch
        have hpos : 0 < s'.length := List.length_pos_iff.2 hne
        rw [htext, List.length_append] at hn
        simp only [allMatches, hmatch, List.length_cons]
        refine Nat.succ_le_succ (ih ?_ (by omega))
        rw [← hleft]
        exact hrest.prepend y
      | none =>
        cases between with
        | nil => exact absurd hmatch (hm.complete hs)
        | cons c between =>
          simp only [List.cons_append, List.length_cons] at hmatch hn
          simp only [allMatches, List.cons_append, hmatch]
          exact ih (.next between hs hrest) (by omega)

/-- The search finds as many pieces as fit. -/
theorem Matcher.FindsFirst.isGreatest (hm : m.FindsFirst IsShape) (text : List Char) :
    IsGreatest {k | Packing IsShape text k} (matchesIn m text).length :=
  ⟨hm.packing_allMatches _ none text, fun _ hk => hm.le_length_allMatches hk (Nat.lt_succ_self _)⟩

end PluginAudit.Text

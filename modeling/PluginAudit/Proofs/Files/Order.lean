import Mathlib.Data.Char
import Mathlib.Data.List.Lex
import PluginAudit.Files.Path

/-!
# The order of paths

Paths are compared component by component. The order is total and transitive, and paths that are
before each other have the same components.
-/

namespace PluginAudit.Files.Path

namespace Component

theorem lt_irrefl (a : Component) : a.lt a = false := by
  cases a <;> simp [lt, rank]

theorem lt_trans {a b c : Component} (hab : a.lt b = true) (hbc : b.lt c = true) :
    a.lt c = true := by
  cases a <;> cases b <;> cases c <;> simp [lt, rank] at hab hbc ⊢
  exact List.lt_trans hab hbc

theorem eq_of_not_lt {a b : Component} (hab : a.lt b = false) (hba : b.lt a = false) : a = b := by
  cases a <;> cases b <;> simp [lt, rank] at hab hba ⊢
  exact le_antisymm hba hab

end Component

theorem componentsLe_cons {a b : Component} {as bs : List Component} :
    componentsLe (a :: as) (b :: bs) = true ↔
      a.lt b = true ∨ a = b ∧ componentsLe as bs = true := by
  rw [componentsLe]
  constructor
  · intro h
    split at h
    · next hab => exact .inl hab
    · next hab =>
      split at h
      · cases h
      · next hba =>
        exact .inr ⟨Component.eq_of_not_lt (Bool.eq_false_iff.2 hab) (Bool.eq_false_iff.2 hba), h⟩
  · rintro (hab | ⟨rfl, h⟩)
    · rw [if_pos hab]
    · simpa [Component.lt_irrefl] using h

theorem componentsLe_total (as bs : List Component) :
    (componentsLe as bs || componentsLe bs as) = true := by
  induction as generalizing bs with
  | nil => rfl
  | cons a as ih =>
    cases bs with
    | nil => rfl
    | cons b bs =>
      rw [Bool.or_eq_true, componentsLe_cons, componentsLe_cons]
      by_cases hab : a.lt b = true
      · exact .inl (.inl hab)
      · by_cases hba : b.lt a = true
        · exact .inr (.inl hba)
        · obtain rfl := Component.eq_of_not_lt (Bool.eq_false_iff.2 hab) (Bool.eq_false_iff.2 hba)
          rcases Bool.or_eq_true_iff.1 (ih bs) with h | h
          · exact .inl (.inr ⟨rfl, h⟩)
          · exact .inr (.inr ⟨rfl, h⟩)

theorem componentsLe_trans {as bs cs : List Component} (hab : componentsLe as bs = true)
    (hbc : componentsLe bs cs = true) : componentsLe as cs = true := by
  induction as generalizing bs cs with
  | nil => rfl
  | cons a as ih =>
    cases bs with
    | nil => cases hab
    | cons b bs =>
      cases cs with
      | nil => cases hbc
      | cons c cs =>
        rw [componentsLe_cons] at hab hbc ⊢
        rcases hab with hab | ⟨rfl, hab⟩
        · rcases hbc with hbc | ⟨rfl, _⟩
          · exact .inl (Component.lt_trans hab hbc)
          · exact .inl hab
        · rcases hbc with hbc | ⟨rfl, hbc⟩
          · exact .inl hbc
          · exact .inr ⟨rfl, ih hab hbc⟩

theorem componentsLe_antisymm {as bs : List Component} (hab : componentsLe as bs = true)
    (hba : componentsLe bs as = true) : as = bs := by
  induction as generalizing bs with
  | nil =>
    cases bs with
    | nil => rfl
    | cons b bs => cases hba
  | cons a as ih =>
    cases bs with
    | nil => cases hab
    | cons b bs =>
      have hirrefl : ∀ {a b : Component}, a.lt b = true → b.lt a = true → False := by
        intro a b hab hba
        have hself := Component.lt_trans hab hba
        rw [Component.lt_irrefl] at hself
        cases hself
      rw [componentsLe_cons] at hab hba
      rcases hab with hab | ⟨rfl, hab⟩
      · rcases hba with hba | ⟨rfl, _⟩
        · exact (hirrefl hab hba).elim
        · exact (hirrefl hab hab).elim
      · rcases hba with hba | ⟨_, hba⟩
        · exact (hirrefl hba hba).elim
        · rw [ih hab hba]

theorem le_trans {p q r : Path} (hpq : p.le q = true) (hqr : q.le r = true) : p.le r = true :=
  componentsLe_trans hpq hqr

theorem le_total (p q : Path) : (p.le q || q.le p) = true := componentsLe_total _ _

/-- The order of sorted files: the path before another is not equal to it by components. -/
def Before (p q : Path) : Prop := p.le q = true ∧ q.le p = false

theorem pairwise_le_mergeSort (ps : List Path) :
    (ps.mergeSort le).Pairwise (fun p q => p.le q = true) :=
  @List.pairwise_mergeSort Path le (fun _ _ _ => le_trans) le_total ps

/-- Sorted paths with components of their own ascend strictly. -/
theorem pairwise_before_mergeSort {ps : List Path} (h : (ps.map components).Nodup) :
    (ps.mergeSort le).Pairwise Before := by
  have hdistinct : (ps.mergeSort le).Pairwise fun p q => p.components ≠ q.components := by
    rw [← List.pairwise_map]
    exact ((List.mergeSort_perm ps le).map components).nodup_iff.2 h
  refine (pairwise_le_mergeSort ps).and hdistinct |>.imp ?_
  rintro p q ⟨hle, hne⟩
  refine ⟨hle, Bool.eq_false_iff.2 fun hge => hne (componentsLe_antisymm hle hge)⟩

end PluginAudit.Files.Path

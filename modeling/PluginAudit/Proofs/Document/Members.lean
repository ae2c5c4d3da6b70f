import Mathlib.Data.String.Basic
import PluginAudit.Diagnostic

/-!
# Members of objects

Members stay sorted by key. An object built from fields with keys of their own has the fields that
have a value and no others.
-/

namespace PluginAudit.Value

variable {key other : String} {v w : Value} {m : String × Value} {ms all : List (String × Value)}

def Sorted (ms : List (String × Value)) : Prop := ms.Pairwise (·.1 < ·.1)

theorem mem_insert (h : m ∈ insert key v ms) : m = (key, v) ∨ m ∈ ms := by
  induction ms with
  | nil => exact .inl (List.mem_singleton.1 h)
  | cons a ms ih =>
    simp only [insert] at h
    split at h
    · exact List.mem_cons.1 h
    · split at h
      · exact (List.mem_cons.1 h).imp_right (List.mem_cons_of_mem _)
      · rcases List.mem_cons.1 h with rfl | h
        · exact .inr List.mem_cons_self
        · exact (ih h).imp_right (List.mem_cons_of_mem _)

theorem Sorted.insert (h : Sorted ms) (key : String) (v : Value) :
    Sorted (Value.insert key v ms) := by
  induction ms with
  | nil => exact List.pairwise_singleton _ _
  | cons a ms ih =>
    obtain ⟨hhead, htail⟩ := List.pairwise_cons.1 h
    simp only [Value.insert]
    split
    · next hlt =>
      refine List.pairwise_cons.2 ⟨fun m hm => ?_, h⟩
      rcases List.mem_cons.1 hm with rfl | hm
      · exact hlt
      · exact String.lt_trans hlt (hhead m hm)
    · next hnotLt =>
      split
      · next heq =>
        obtain rfl := eq_of_beq heq
        exact List.pairwise_cons.2 ⟨hhead, htail⟩
      · next hne =>
        have hlt : a.1 < key := by
          rcases lt_trichotomy a.1 key with hlt | heq | hlt
          · exact hlt
          · exact absurd (beq_iff_eq.2 heq.symm) hne
          · exact absurd hlt hnotLt
        refine List.pairwise_cons.2 ⟨fun m hm => ?_, ih htail⟩
        rcases mem_insert hm with rfl | hm
        · exact hlt
        · exact hhead m hm

theorem lookup_insert_of_ne (h : other ≠ key) (v : Value) (ms : List (String × Value)) :
    (insert key v ms).lookup other = ms.lookup other := by
  have hother : (other == key) = false := beq_false_of_ne h
  induction ms with
  | nil => simp [insert, List.lookup_cons, hother]
  | cons a ms ih =>
    obtain ⟨k, u⟩ := a
    simp only [insert]
    split
    · simp [List.lookup_cons, hother]
    · split
      · next heq =>
        obtain rfl := eq_of_beq heq
        simp [List.lookup_cons, hother]
      · simp only [List.lookup_cons, ih]

theorem lookup_eq_none {α : Type} {fs : List (String × α)} (h : key ∉ fs.map (·.1)) :
    fs.lookup key = none := by
  rw [List.lookup_eq_none_iff]
  intro f hf
  rw [bne_iff_ne]
  rintro rfl
  exact h (List.mem_map_of_mem hf)

theorem sorted_foldl_insert (h : Sorted all) :
    Sorted (ms.foldl (fun all m => insert m.1 m.2 all) all) := by
  induction ms generalizing all with
  | nil => exact h
  | cons m ms ih => exact ih (h.insert m.1 m.2)

theorem mem_foldl_insert (h : m ∈ ms.foldl (fun all m => insert m.1 m.2 all) all) :
    m ∈ ms ∨ m ∈ all := by
  induction ms generalizing all with
  | nil => exact .inr h
  | cons a ms ih =>
    rcases ih h with hms | hall
    · exact .inl (List.mem_cons_of_mem _ hms)
    · rcases mem_insert hall with rfl | hall
      · exact .inl List.mem_cons_self
      · exact .inr hall

theorem lookup_foldl_insert (h : (ms.map (·.1)).Nodup) (key : String) :
    (ms.foldl (fun all m => insert m.1 m.2 all) all).lookup key =
      (ms.lookup key).or (all.lookup key) := by
  induction ms generalizing all with
  | nil => rfl
  | cons m ms ih =>
    obtain ⟨k, u⟩ := m
    obtain ⟨hnew, hnodup⟩ := List.nodup_cons.1 h
    rw [List.foldl_cons, ih hnodup, List.lookup_cons]
    by_cases heq : key = k
    · subst heq
      simp [lookup_eq_none hnew, lookup_insert_self]
    · rw [lookup_insert_of_ne heq, beq_false_of_ne heq]

theorem sorted_ofMembers (ms : List (String × Value)) :
    ∃ all, ofMembers ms = object all ∧ Sorted all ∧ ∀ m ∈ all, m ∈ ms :=
  ⟨_, rfl, sorted_foldl_insert List.Pairwise.nil,
    fun _ hm => (mem_foldl_insert hm).resolve_right nofun⟩

/-! ## Fields -/

variable {fs : List (String × Option Value)}

/-- An object with these fields and no others; a field without a value is left out. -/
def HasFields (v : Value) (fs : List (String × Option Value)) : Prop :=
  ∃ all, v = object all ∧ ∀ key, all.lookup key = (fs.lookup key).join

theorem HasFields.get? (h : v.HasFields fs) (key : String) : v.get? key = (fs.lookup key).join := by
  obtain ⟨all, rfl, hall⟩ := h
  exact hall key

/-- The members that fields are written as. -/
def presentFields (fs : List (String × Option Value)) : List (String × Value) :=
  fs.flatMap fun f => Diagnostic.optional f.1 f.2

theorem mem_presentFields : m ∈ presentFields fs ↔ (m.1, some m.2) ∈ fs := by
  obtain ⟨key, v⟩ := m
  simp only [presentFields, List.mem_flatMap, Diagnostic.optional, Option.mem_toList,
    Option.map_eq_some_iff]
  constructor
  · rintro ⟨⟨_, _⟩, hf, _, rfl, heq⟩
    obtain ⟨rfl, rfl⟩ := Prod.mk.inj heq
    exact hf
  · intro hf
    exact ⟨_, hf, v, rfl, rfl⟩

theorem lookup_presentFields (h : (fs.map (·.1)).Nodup) (key : String) :
    (presentFields fs).lookup key = (fs.lookup key).join := by
  induction fs with
  | nil => rfl
  | cons f fs ih =>
    obtain ⟨k, v⟩ := f
    obtain ⟨hnew, hnodup⟩ := List.nodup_cons.1 h
    have hrest := ih hnodup
    have hcons : presentFields ((k, v) :: fs) = Diagnostic.optional k v ++ presentFields fs := rfl
    rw [hcons, List.lookup_append, hrest, List.lookup_cons]
    by_cases heq : key = k
    · subst heq
      cases v <;> simp [Diagnostic.optional, lookup_eq_none hnew]
    · have hne : (key == k) = false := beq_false_of_ne heq
      cases v <;> simp [Diagnostic.optional, List.lookup_cons, hne]

theorem nodup_presentFields (h : (fs.map (·.1)).Nodup) :
    ((presentFields fs).map (·.1)).Nodup := by
  refine h.sublist ?_
  induction fs with
  | nil => exact List.Sublist.slnil
  | cons f fs ih =>
    obtain ⟨k, v⟩ := f
    have hrest := ih (List.nodup_cons.1 h).2
    cases v with
    | none => exact hrest.cons k
    | some v => exact hrest.cons_cons k

theorem hasFields_ofMembers (h : (fs.map (·.1)).Nodup) :
    (ofMembers (presentFields fs)).HasFields fs := by
  refine ⟨_, rfl, fun key => ?_⟩
  rw [← lookup_presentFields h]
  exact (lookup_foldl_insert (nodup_presentFields h) key).trans Option.or_none

end PluginAudit.Value

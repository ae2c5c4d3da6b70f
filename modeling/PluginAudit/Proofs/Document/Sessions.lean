import PluginAudit.Proofs.Document.Sharing

/-!
# Sessions of a store

A store lives through changes of the files around it. What it says of a kind is what the schema file
of the kind said when it was first wanted and could be compiled; before that nothing is kept.
-/

namespace PluginAudit.Document

open Files Schema

inductive Step where
  /-- Files are written, removed or changed in any other way. -/
  | change (f : FileSystem → FileSystem)
  | schema (k : Kind)
  | document (v : Value)
  | file (path : Path)

inductive Answer where
  | changed
  | schema (r : Except SchemaError Compiled)
  | verdict (v : Verdict)

namespace Step

def files (fs : FileSystem) : Step → FileSystem
  | change f => f fs
  | _ => fs

def run (fs : FileSystem) (s : Store) : Step → Answer × Store
  | change _ => (.changed, s)
  | schema k => ((s.schema fs k).map .schema id)
  | document v => ((s.validate fs v).map .verdict id)
  | file path => ((s.validateFile fs path).map .verdict id)

end Step

/-- The kind whose schema a step wants, and the document it is wanted for. -/
structure Use where
  kind : Kind
  document : Option Value

namespace Use

def ofDocument? (v : Value) : Option Use :=
  (Kind.detect v).map (⟨·, some v⟩)

def answer (u : Use) (r : Except SchemaError Compiled) : Answer :=
  match u.document with
  | none => .schema r
  | some v => .verdict (Store.judge u.kind v r)

end Use

def Step.use? (fs : FileSystem) : Step → Option Use
  | change _ => none
  | schema k => some ⟨k, none⟩
  | document v => Use.ofDocument? v
  | file path => (load fs path).toOption.bind Use.ofDocument?

/-! ## One step -/

namespace Store

theorem validate_of_use {fs : FileSystem} {v : Value} {u : Use} (s : Store)
    (h : Use.ofDocument? v = some u) :
    ((s.validate fs v).map .verdict id) =
      (u.answer (s.schema fs u.kind).1, (s.schema fs u.kind).2) := by
  obtain ⟨k, hk, rfl⟩ := Option.map_eq_some_iff.1 h
  rw [validate, hk]
  rfl

theorem validate_of_no_use {fs : FileSystem} {v : Value} (s : Store)
    (h : Use.ofDocument? v = none) : (s.validate fs v).2 = s := by
  rw [validate, Option.map_eq_none_iff.1 h]

end Store

namespace Step

variable {fs : FileSystem} {st : Step}

theorem run_of_use {u : Use} (s : Store) (h : st.use? fs = some u) :
    st.run fs s = (u.answer (s.schema fs u.kind).1, (s.schema fs u.kind).2) := by
  cases st with
  | change f => cases h
  | schema k =>
    obtain rfl := Option.some.inj h
    rfl
  | document v => exact s.validate_of_use h
  | file path =>
    rw [run, Store.validateFile]
    cases hload : load fs path with
    | error e =>
      rw [use?, hload] at h
      cases h
    | ok v =>
      rw [use?, hload] at h
      exact s.validate_of_use h

/-- A document that cannot be read or is of no kind leaves the store alone. -/
theorem run_of_no_use (s : Store) (h : st.use? fs = none) : (st.run fs s).2 = s := by
  cases st with
  | change f => rfl
  | schema k => cases h
  | document v => exact s.validate_of_no_use h
  | file path =>
    rw [run, Store.validateFile]
    cases hload : load fs path with
    | error e => rfl
    | ok v =>
      rw [use?, hload] at h
      exact s.validate_of_no_use h

end Step

/-! ## Sessions -/

structure Session where
  files : FileSystem
  store : Store

namespace Session

def start (fs : FileSystem) (dir : Path) : Session := ⟨fs, .empty dir⟩

def next (w : Session) (st : Step) : Session :=
  ⟨st.files w.files, (st.run w.files w.store).2⟩

/-- The session before step `i`. -/
def before (w : Session) (steps : List Step) (i : Nat) : Session :=
  (steps.take i).foldl next w

def answers (w : Session) : List Step → List Answer
  | [] => []
  | st :: steps => (st.run w.files w.store).1 :: (w.next st).answers steps

def useAt? (w : Session) (steps : List Step) (i : Nat) : Option Use :=
  steps[i]?.bind fun st => st.use? (w.before steps i).files

/-- Step `i` wants the schema of `k` while its file can be compiled. -/
def Compiles (w : Session) (steps : List Step) (k : Kind) (i : Nat) (c : Compiled) : Prop :=
  (∃ u, w.useAt? steps i = some u ∧ u.kind = k) ∧
    readSchema (w.before steps i).files w.store.dir k = .ok c

def FirstCompiles (w : Session) (steps : List Step) (k : Kind) (i : Nat) (c : Compiled) : Prop :=
  w.Compiles steps k i c ∧ ∀ j < i, ∀ c', ¬ w.Compiles steps k j c'

variable {w : Session} {steps : List Step} {i : Nat}

theorem before_succ {st : Step} (h : steps[i]? = some st) :
    w.before steps (i + 1) = (w.before steps i).next st := by
  rw [before, List.take_add_one, h, List.foldl_append]
  rfl

theorem before_succ_of_none (h : steps[i]? = none) :
    w.before steps (i + 1) = w.before steps i := by
  rw [before, List.take_add_one, h, List.foldl_append]
  rfl

theorem dir_next (w : Session) (st : Step) : (w.next st).store.dir = w.store.dir := by
  rw [next]
  cases h : st.use? w.files with
  | none => rw [Step.run_of_no_use _ h]
  | some u => rw [Step.run_of_use _ h, Store.dir_schema]

theorem dir_before (w : Session) (steps : List Step) (i : Nat) :
    (w.before steps i).store.dir = w.store.dir := by
  induction i with
  | zero => rfl
  | succ i ih =>
    cases h : steps[i]? with
    | none => rw [before_succ_of_none h, ih]
    | some st => rw [before_succ h, dir_next, ih]

theorem getElem?_answers (w : Session) (steps : List Step) (i : Nat) :
    (w.answers steps)[i]? =
      steps[i]?.map fun st => (st.run (w.before steps i).files (w.before steps i).store).1 := by
  induction steps generalizing w i with
  | nil => rfl
  | cons st steps ih =>
    cases i with
    | zero => rfl
    | succ i => exact ih (w.next st) i

theorem answer_of_use {u : Use} (h : w.useAt? steps i = some u) :
    (w.answers steps)[i]? =
      some (u.answer ((w.before steps i).store.schema (w.before steps i).files u.kind).1) := by
  obtain ⟨st, hst, huse⟩ := Option.bind_eq_some_iff.1 h
  rw [getElem?_answers, hst, Option.map_some, Step.run_of_use _ huse]

/-- What one step adds to what is kept. -/
theorem kept_succ (w : Session) (steps : List Step) (i : Nat) (k : Kind) (c : Compiled) :
    (w.before steps (i + 1)).store.kept k = some c ↔
      (w.before steps i).store.kept k = some c ∨
        (w.before steps i).store.kept k = none ∧ w.Compiles steps k i c := by
  cases hst : steps[i]? with
  | none =>
    have hunused : w.useAt? steps i = none := by rw [useAt?, hst]; rfl
    simp [before_succ_of_none hst, Compiles, hunused]
  | some st =>
    rw [before_succ hst, next]
    cases huse : st.use? (w.before steps i).files with
    | none =>
      have hunused : w.useAt? steps i = none := by rw [useAt?, hst]; exact huse
      simp [Step.run_of_no_use _ huse, Compiles, hunused]
    | some u =>
      have hused : w.useAt? steps i = some u := by rw [useAt?, hst]; exact huse
      rw [Step.run_of_use _ huse, Store.kept_schema, dir_before, Option.or_eq_some_iff]
      refine or_congr_right (and_congr_right fun _ => ?_)
      simp only [Compiles, hused, Option.some.injEq, exists_eq_left']
      split
      · next h => simp [h, toOption_eq_some]
      · next h => simp [Ne.symm h]

theorem exists_first {k : Kind} {j : Nat} {c : Compiled} (h : w.Compiles steps k j c) :
    ∃ i ≤ j, ∃ c', w.FirstCompiles steps k i c' := by
  induction j using Nat.strongRecOn generalizing c with
  | ind j ih =>
    by_cases hearlier : ∃ i < j, ∃ c', w.Compiles steps k i c'
    · obtain ⟨i, hi, c', hc'⟩ := hearlier
      obtain ⟨i', hi', hfirst⟩ := ih i hi hc'
      exact ⟨i', Nat.le_trans hi' (Nat.le_of_lt hi), hfirst⟩
    · refine ⟨j, Nat.le_refl j, c, h, fun i hi c' hc' => hearlier ⟨i, hi, c', hc'⟩⟩

/-- A store that starts empty keeps what was compiled first. -/
theorem kept_before (fs : FileSystem) (dir : Path) (steps : List Step) (i : Nat) (k : Kind)
    (c : Compiled) : ((start fs dir).before steps i).store.kept k = some c ↔
      ∃ j < i, (start fs dir).FirstCompiles steps k j c := by
  induction i generalizing c with
  | zero => simp [before, start]
  | succ i ih =>
    have hnone : ((start fs dir).before steps i).store.kept k = none ↔
        ∀ j < i, ∀ c', ¬ (start fs dir).Compiles steps k j c' := by
      rw [Option.eq_none_iff_forall_ne_some]
      constructor
      · intro h j hj c' hc'
        obtain ⟨i', hi', c'', hfirst⟩ := exists_first hc'
        exact h c'' ((ih c'').2 ⟨i', Nat.lt_of_le_of_lt hi' hj, hfirst⟩)
      · intro h c' hc'
        obtain ⟨j, hj, hfirst⟩ := (ih c').1 hc'
        exact h j hj c' hfirst.1
    rw [kept_succ, ih, hnone]
    constructor
    · rintro (⟨j, hj, hfirst⟩ | ⟨hnot, hc⟩)
      · exact ⟨j, Nat.lt_succ_of_lt hj, hfirst⟩
      · exact ⟨i, Nat.lt_succ_self i, hc, hnot⟩
    · rintro ⟨j, hj, hfirst⟩
      rcases Nat.lt_succ_iff_lt_or_eq.1 hj with hj | rfl
      · exact .inl ⟨j, hj, hfirst⟩
      · exact .inr ⟨hfirst.2, hfirst.1⟩

end Session

open Session

/-- Until a schema can be compiled, whoever wants it gets the error of its file as it is then. From
the first time on it is what the file said at that time, and nothing else changes what is kept. -/
theorem session_keeps_first (fs : FileSystem) (dir : Path) (steps : List Step) (k : Kind) :
    let w := start fs dir
    (∀ j u, w.useAt? steps j = some u → u.kind = k →
      (∀ i ≤ j, ∀ c, ¬ w.FirstCompiles steps k i c) →
      ∃ e, readSchema (w.before steps j).files dir k = .error e ∧
        (w.answers steps)[j]? = some (u.answer (.error e))) ∧
    (∀ i c, w.FirstCompiles steps k i c → ∀ j u, i ≤ j →
      w.useAt? steps j = some u → u.kind = k →
      (w.answers steps)[j]? = some (u.answer (.ok c))) ∧
    (∀ j, (w.before steps (j + 1)).store.kept k ≠ (w.before steps j).store.kept k →
      (w.before steps j).store.kept k = none ∧ ∃ c, w.FirstCompiles steps k j c ∧
        (w.before steps (j + 1)).store.kept k = some c) := by
  intro w
  have hkept : ∀ j c, (w.before steps j).store.kept k = some c ↔
      ∃ i < j, w.FirstCompiles steps k i c := fun j => kept_before fs dir steps j k
  have hfresh : ∀ j, (∀ i < j, ∀ c, ¬ w.FirstCompiles steps k i c) →
      ((w.before steps j).store.schema (w.before steps j).files k).1 =
        readSchema (w.before steps j).files dir k := by
    intro j hnot
    rw [Store.schema_of_not_kept, dir_before]
    · rfl
    · refine Option.eq_none_iff_forall_ne_some.2 fun c hc => ?_
      obtain ⟨i, hi, hfirst⟩ := (hkept j c).1 hc
      exact hnot i hi c hfirst
  refine ⟨fun j u hu hk hnot => ?_, fun i c hfirst j u hij hu hk => ?_, fun j hne => ?_⟩
  · have hschema := hfresh j fun i hi => hnot i (Nat.le_of_lt hi)
    rw [answer_of_use hu, hk, hschema]
    cases hread : readSchema (w.before steps j).files dir k with
    | error e => exact ⟨e, rfl, rfl⟩
    | ok c =>
      obtain ⟨i, hi, c', hfirst⟩ := exists_first (c := c) ⟨⟨u, hu, hk⟩, hread⟩
      exact absurd hfirst (hnot i hi c')
  · rw [answer_of_use hu, hk]
    rcases Nat.lt_or_eq_of_le hij with hij | rfl
    · rw [Store.schema_of_kept ((hkept j c).2 ⟨i, hij, hfirst⟩)]
    · rw [hfresh i fun i' hi' c' h => hfirst.2 i' hi' c' h.1]
      exact congrArg (fun r => some (u.answer r)) hfirst.1.2
  · cases hj : (w.before steps j).store.kept k with
    | some c =>
      rw [hj, (kept_succ w steps j k c).2 (.inl hj)] at hne
      exact absurd rfl hne
    | none =>
      obtain ⟨c, hc⟩ := Option.ne_none_iff_exists'.1 (hj ▸ hne)
      refine ⟨rfl, c, ?_, hc⟩
      obtain ⟨i, hi, hfirst⟩ := (hkept (j + 1) c).1 hc
      rcases Nat.lt_succ_iff_lt_or_eq.1 hi with hi | rfl
      · rw [(hkept j c).2 ⟨i, hi, hfirst⟩] at hj
        cases hj
      · exact hfirst

end PluginAudit.Document

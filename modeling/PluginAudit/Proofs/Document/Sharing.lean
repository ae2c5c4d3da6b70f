import PluginAudit.Document.Store

/-!
# Sharing a store

While files do not change, what a store keeps is what it would read again. A store shared by many
documents therefore judges each as a store of its own would.
-/

namespace PluginAudit.Document

open Files Schema

theorem toOption_eq_some {ε α : Type} {r : Except ε α} {a : α} :
    r.toOption = some a ↔ r = .ok a := by
  cases r <;> simp [Except.toOption]

namespace Store

def kept (s : Store) (k : Kind) : Option Compiled := s.compiled.lookup k

@[simp] theorem kept_empty (dir : Path) (k : Kind) : (empty dir).kept k = none := rfl

theorem kept_insert (k k' : Kind) (c : Compiled) (s : Store) :
    (s.insert k' c).kept k = if k = k' then some c else s.kept k := by
  simp only [kept, insert, List.lookup_cons]
  split <;> simp_all

theorem schema_of_kept {fs : FileSystem} {k : Kind} {s : Store} {c : Compiled}
    (h : s.kept k = some c) : s.schema fs k = (.ok c, s) :=
  schema_of_lookup h

theorem schema_of_not_kept {fs : FileSystem} {k : Kind} {s : Store} (h : s.kept k = none) :
    (s.schema fs k).1 = readSchema fs s.dir k := by
  cases hread : readSchema fs s.dir k with
  | ok c => rw [schema_of_ok h hread]
  | error e => rw [schema_of_error h hread]

/-- Only a kind that is wanted and not kept may come to be kept. -/
theorem kept_schema (fs : FileSystem) (k k' : Kind) (s : Store) :
    (s.schema fs k').2.kept k =
      (s.kept k).or (if k = k' then (readSchema fs s.dir k).toOption else none) := by
  cases hk' : s.kept k' with
  | some c =>
    rw [schema_of_kept hk']
    by_cases h : k = k' <;> simp [h, hk']
  | none =>
    cases hread : readSchema fs s.dir k' with
    | error e =>
      rw [schema_of_error hk' hread]
      by_cases h : k = k' <;> simp [h, hk', hread, Except.toOption]
    | ok c =>
      rw [schema_of_ok hk' hread, kept_insert]
      by_cases h : k = k' <;> simp [h, hk', hread, Except.toOption]

/-! ## Stores that agree with the files -/

def Agrees (fs : FileSystem) (s : Store) : Prop :=
  ∀ k c, s.kept k = some c → readSchema fs s.dir k = .ok c

theorem agrees_empty (fs : FileSystem) (dir : Path) : (empty dir).Agrees fs := by
  intro k c h
  cases h

variable {fs : FileSystem} {s : Store}

theorem Agrees.schema_eq (h : s.Agrees fs) (k : Kind) :
    (s.schema fs k).1 = readSchema fs s.dir k := by
  cases hk : s.kept k with
  | none => exact schema_of_not_kept hk
  | some c => rw [schema_of_kept hk, h k c hk]

theorem Agrees.schema (h : s.Agrees fs) (k : Kind) : (s.schema fs k).2.Agrees fs := by
  intro k' c hc
  rw [kept_schema, Option.or_eq_some_iff] at hc
  rw [dir_schema]
  rcases hc with hc | ⟨_, hc⟩
  · exact h k' c hc
  · split at hc
    · exact toOption_eq_some.1 hc
    · cases hc

/-- The verdict on a value by the files alone. -/
def verdictOf (fs : FileSystem) (dir : Path) (v : Value) : Verdict :=
  match Kind.detect v with
  | none => .undetected
  | some k => judge k v (readSchema fs dir k)

theorem Agrees.validate (h : s.Agrees fs) (v : Value) :
    (s.validate fs v).1 = verdictOf fs s.dir v ∧ (s.validate fs v).2.Agrees fs ∧
      (s.validate fs v).2.dir = s.dir := by
  simp only [Store.validate, verdictOf]
  cases Kind.detect v with
  | none => exact ⟨rfl, h, rfl⟩
  | some k => exact ⟨congrArg (judge k v) (h.schema_eq k), h.schema k, dir_schema fs k s⟩

def verdictAt (fs : FileSystem) (dir : Path) (path : Path) : Verdict :=
  match load fs path with
  | .ok v => verdictOf fs dir v
  | .error e => .unreadable e

theorem Agrees.validateFile (h : s.Agrees fs) (path : Path) :
    (s.validateFile fs path).1 = verdictAt fs s.dir path ∧
      (s.validateFile fs path).2.Agrees fs ∧ (s.validateFile fs path).2.dir = s.dir := by
  simp only [Store.validateFile, verdictAt]
  cases load fs path with
  | ok v => exact h.validate v
  | error e => exact ⟨rfl, h, rfl⟩

end Store

open Store

theorem validateAll_eq_map {fs : FileSystem} {s : Store} (h : s.Agrees fs) (paths : List Path) :
    validateAll fs paths s = paths.map fun p => ⟨p, verdictAt fs s.dir p⟩ := by
  induction paths generalizing s with
  | nil => rfl
  | cons p ps ih =>
    obtain ⟨hverdict, hagrees, hdir⟩ := h.validateFile p
    simp only [validateAll, List.map_cons]
    rw [ih hagrees, hdir, hverdict]

/-- The report on a document by a store that has seen no other. -/
def aloneReport (fs : FileSystem) (dir : Path) (p : Path) : Report :=
  ⟨p, ((Store.empty dir).validateFile fs p).1⟩

/-- Documents are judged as if each had a store of its own, so equal paths have equal reports and
another order of the paths only reorders the reports. -/
theorem validateDocuments_alone (fs : FileSystem) (paths : List Path) (dir : Path) :
    validateDocuments fs paths dir = paths.map (aloneReport fs dir) ∧
    (∀ i j : Nat, paths[i]? = paths[j]? →
      (validateDocuments fs paths dir)[i]? = (validateDocuments fs paths dir)[j]?) ∧
    ∀ paths', paths.Perm paths' →
      (validateDocuments fs paths dir).Perm (validateDocuments fs paths' dir) := by
  have halone : ∀ ps, validateDocuments fs ps dir = ps.map (aloneReport fs dir) := by
    intro ps
    have hempty := agrees_empty fs dir
    rw [validateDocuments, validateAll_eq_map hempty]
    refine List.map_congr_left fun p _ => ?_
    rw [aloneReport, (hempty.validateFile p).1]
  refine ⟨halone paths, fun i j hij => ?_, fun paths' hperm => ?_⟩
  · rw [halone, List.getElem?_map, List.getElem?_map, hij]
  · rw [halone, halone]
    exact hperm.map _

/-- Paths may be absolute. -/
example :
    let fs : FileSystem := .ofWorkingDirectory (.dir [("a.json".toList, .file ⟨#[123, 125]⟩)])
    validateDocuments fs [.ofString "/work/a.json", .ofString "/a.json"] (.ofString "/work") =
      [⟨.ofString "/work/a.json", .undetected⟩,
        ⟨.ofString "/a.json", .unreadable (.unreadable .notFound)⟩] := by
  cbv

end PluginAudit.Document

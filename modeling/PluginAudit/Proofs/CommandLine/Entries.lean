import PluginAudit.CommandLine.Listing
import PluginAudit.Proofs.Document.Members
import PluginAudit.Proofs.Json.RoundTrip

/-!
# Entries of a listing

What a report is told as: an object with a field for each part, parts of a verdict or a diagnostic
that are not there left out.
-/

namespace PluginAudit

open Json Value

/-! ## Objects that are read back -/

namespace Json.Writable

variable {k : Nat} {v : Value} {ms : List (String × Value)} {fs : List (String × Option Value)}

theorem ofMembers (h : ∀ m ∈ ms, Writable k m.2) : Writable (k + 1) (.ofMembers ms) := by
  obtain ⟨all, heq, hsorted, hall⟩ := sorted_ofMembers ms
  rw [heq]
  exact .object hsorted fun m hm => h m (hall m hm)

theorem ofFields (h : ∀ f ∈ fs, ∀ v ∈ f.2, Writable k v) :
    Writable (k + 1) (.ofMembers (presentFields fs)) :=
  ofMembers fun m hm => h _ (mem_presentFields.1 hm) m.2 rfl

theorem arrayOf {α : Type} {as : List α} {f : α → Value} (h : ∀ a ∈ as, Writable k (f a)) :
    Writable (k + 1) (.array (as.map f)) :=
  .array (List.forall_mem_map.2 h)

theorem ofSome (h : Writable k v) : ∀ w ∈ some v, Writable k w := by
  rintro w ⟨⟩
  exact h

theorem ofStrings (o : Option String) : ∀ v ∈ o.map .string, Writable k v := by
  rintro v hv
  obtain ⟨s, _, rfl⟩ := Option.map_eq_some_iff.1 hv
  exact .string

theorem ofNumbers {o : Option Nat} (h : ∀ n ∈ o, n < exactLimit) :
    ∀ v ∈ o.map .ofNat, Writable k v := by
  rintro v hv
  obtain ⟨n, hn, rfl⟩ := Option.map_eq_some_iff.1 hv
  exact .ofNat (h n hn)

end Json.Writable

/-! ## Diagnostics -/

namespace Diagnostic

def fields (d : Diagnostic) : List (String × Option Value) :=
  [("severity", some (.string d.severity.name)), ("code", some (.string d.code)),
    ("message", some (.string d.message)), ("line", d.line.map .ofNat),
    ("column", d.column.map .ofNat), ("suggestion", d.suggestion.map .string)]

theorem toValue_eq (d : Diagnostic) : d.toValue = .ofMembers (presentFields d.fields) := by
  simp [toValue, fields, presentFields, optional]

theorem hasFields (d : Diagnostic) : d.toValue.HasFields d.fields := by
  rw [toValue_eq]
  exact hasFields_ofMembers (by simp [fields])

def numbers (d : Diagnostic) : List Nat := d.line.toList ++ d.column.toList

theorem writable {d : Diagnostic} {k : Nat} (h : ∀ n ∈ d.numbers, n < exactLimit) :
    Writable (k + 1) d.toValue := by
  rw [toValue_eq]
  simp only [numbers, List.mem_append, Option.mem_toList, or_imp, forall_and] at h
  refine .ofFields ?_
  simp only [fields, List.forall_mem_cons]
  exact ⟨.ofSome .string, .ofSome .string, .ofSome .string, .ofNumbers h.1, .ofNumbers h.2,
    .ofStrings _, nofun⟩

end Diagnostic

/-! ## Plugins -/

namespace Plugin

namespace Header

def fields (h : Header) : List (String × Option Value) :=
  [("category", some (.string h.category.name)), ("version", some (.string h.edition.name)),
    ("type", h.declaredType.map .string), ("name", h.name.map .string),
    ("description", h.description.map .string)]

theorem toValue_eq (h : Header) : h.toValue = .ofMembers (presentFields h.fields) := by
  simp [toValue, fields, presentFields, Diagnostic.optional]

theorem hasFields (h : Header) : h.toValue.HasFields h.fields := by
  rw [toValue_eq]
  exact hasFields_ofMembers (by simp [fields])

theorem writable (h : Header) {k : Nat} : Writable (k + 1) h.toValue := by
  rw [toValue_eq]
  refine .ofFields ?_
  simp only [fields, List.forall_mem_cons]
  exact ⟨.ofSome .string, .ofSome .string, .ofStrings _, .ofStrings _, .ofStrings _, nofun⟩

end Header

namespace Verdict

def fields : Verdict → List (String × Option Value)
  | valid a =>
    [("status", some (.string "valid")), ("version", some (.string a.edition.name)),
      ("wrapped", some (.bool a.wrapped))]
  | syntaxInvalid p =>
    [("status", some (.string "syntax_invalid")), ("kind", some (.string (causeName p.cause))),
      ("message", some (.string p.cause.message)), ("line", p.position.map (.ofNat ·.line)),
      ("column", p.position.map (.ofNat ·.column))]
  | structuralInvalid .missing =>
    [("status", some (.string "structural_invalid")),
      ("message", some (.string EntryProblem.missing.message)),
      ("problem", some (.string "missing_entry_point"))]
  | structuralInvalid (.several n) =>
    [("status", some (.string "structural_invalid")),
      ("message", some (.string (EntryProblem.several n).message)),
      ("problem", some (.string "multiple_entry_points")), ("count", some (.ofNat n))]
  | unreadable message =>
    [("status", some (.string "unreadable")), ("message", some (.string message))]

theorem toValue_eq (v : Verdict) : v.toValue = .ofMembers (presentFields v.fields) := by
  rcases v with a | p | (_ | n) | m <;>
    simp [toValue, fields, presentFields, Diagnostic.optional, problemMembers]

theorem hasFields (v : Verdict) : v.toValue.HasFields v.fields := by
  rw [toValue_eq]
  refine hasFields_ofMembers ?_
  rcases v with a | p | (_ | n) | m <;> simp [fields]

/-- The place of a problem, or the number of entry points. -/
def numbers : Verdict → List Nat
  | syntaxInvalid p => p.position.toList.flatMap fun p => [p.line, p.column]
  | structuralInvalid (.several n) => [n]
  | _ => []

/-- Places and counts are words of 64 bits. -/
def InWords (v : Verdict) : Prop := ∀ n ∈ v.numbers, n < exactLimit

theorem writable {v : Verdict} {k : Nat} (h : v.InWords) : Writable (k + 1) v.toValue := by
  rw [toValue_eq]
  refine .ofFields ?_
  rcases v with a | ⟨cause, _ | p, _, _⟩ | (_ | n) | m <;> simp only [fields, List.forall_mem_cons]
  · exact ⟨.ofSome .string, .ofSome .string, .ofSome .bool, nofun⟩
  · exact ⟨.ofSome .string, .ofSome .string, .ofSome .string, nofun, nofun, nofun⟩
  · exact ⟨.ofSome .string, .ofSome .string, .ofSome .string,
      .ofSome (.ofNat (h p.line (by simp [numbers]))),
      .ofSome (.ofNat (h p.column (by simp [numbers]))), nofun⟩
  · exact ⟨.ofSome .string, .ofSome .string, .ofSome .string, nofun⟩
  · exact ⟨.ofSome .string, .ofSome .string, .ofSome .string,
      .ofSome (.ofNat (h n List.mem_cons_self)), nofun⟩
  · exact ⟨.ofSome .string, .ofSome .string, nofun⟩

theorem numbers_of_mem_diagnostics {v : Verdict} {d : Diagnostic} (h : d ∈ v.diagnostics) :
    ∀ n ∈ d.numbers, n ∈ v.numbers := by
  rcases v with ⟨_, _ | _⟩ | ⟨_, _ | p, _, _⟩ | (_ | _) | _ <;>
    first
    | exact absurd h List.not_mem_nil
    | obtain rfl := List.mem_singleton.1 h
      simp [Diagnostic.numbers, Diagnostic.error, Diagnostic.at_, numbers]

end Verdict

namespace FileReport

def fields (r : FileReport) : List (String × Option Value) :=
  [("path", some (.string r.path.toString)),
    ("header", some ((r.header.map Header.toValue).getD .null)),
    ("verdict", some r.verdict.toValue),
    ("diagnostics", some (.array (r.verdict.diagnostics.map Diagnostic.toValue)))]

theorem toValue_eq (r : FileReport) : r.toValue = .ofMembers (presentFields r.fields) := rfl

theorem hasFields (r : FileReport) : r.toValue.HasFields r.fields := by
  rw [toValue_eq]
  exact hasFields_ofMembers (by simp [fields])

theorem writable {r : FileReport} {k : Nat} (h : r.verdict.InWords) :
    Writable (k + 3) r.toValue := by
  have hheader : Writable (k + 2) ((r.header.map Header.toValue).getD .null) := by
    cases r.header with
    | none => exact .null
    | some header => exact header.writable
  have hdiagnostics : Writable (k + 2) (.array (r.verdict.diagnostics.map Diagnostic.toValue)) :=
    .arrayOf fun d hd => d.writable fun n hn => h n (Verdict.numbers_of_mem_diagnostics hd n hn)
  rw [toValue_eq]
  refine .ofFields ?_
  simp only [fields, List.forall_mem_cons]
  exact ⟨.ofSome .string, .ofSome hheader, .ofSome (Verdict.writable h), .ofSome hdiagnostics,
    nofun⟩

end FileReport

end Plugin

/-! ## Documents -/

namespace Document

namespace Verdict

def violationFields (v : Schema.Violation) : List (String × Option Value) :=
  [("pointer", some (.string v.pointer)), ("message", some (.string v.message))]

theorem violationValue_hasFields (v : Schema.Violation) :
    (violationValue v).HasFields (violationFields v) := by
  have h : violationValue v = .ofMembers (presentFields (violationFields v)) := rfl
  rw [h]
  exact hasFields_ofMembers (by simp [violationFields])

theorem violationValue_writable (v : Schema.Violation) {k : Nat} :
    Writable (k + 1) (violationValue v) := by
  refine .ofMembers ?_
  simp only [List.forall_mem_cons]
  exact ⟨.string, .string, nofun⟩

def fields : Verdict → List (String × Option Value)
  | valid k => [("status", some (.string "valid")), ("kind", some (.string k.name))]
  | invalid k vs =>
    [("status", some (.string "invalid")), ("kind", some (.string k.name)),
      ("violations", some (.array (vs.map violationValue)))]
  | undetected => [("status", some (.string "undetected"))]
  | schemaUnavailable k e =>
    [("status", some (.string "schema_unavailable")), ("kind", some (.string k.name)),
      ("message", some (.string e.message))]
  | unreadable e =>
    [("status", some (.string "unreadable")), ("message", some (.string e.message))]

theorem toValue_eq (v : Verdict) : v.toValue = .ofMembers (presentFields v.fields) := by
  cases v <;> rfl

theorem hasFields (v : Verdict) : v.toValue.HasFields v.fields := by
  rw [toValue_eq]
  refine hasFields_ofMembers ?_
  cases v <;> simp [fields]

theorem writable (v : Verdict) {k : Nat} : Writable (k + 3) v.toValue := by
  rw [toValue_eq]
  refine .ofFields ?_
  cases v <;> simp only [fields, List.forall_mem_cons]
  case valid => exact ⟨.ofSome .string, .ofSome .string, nofun⟩
  case invalid =>
    exact ⟨.ofSome .string, .ofSome .string,
      .ofSome (.arrayOf fun v _ => violationValue_writable v), nofun⟩
  case undetected => exact ⟨.ofSome .string, nofun⟩
  case schemaUnavailable => exact ⟨.ofSome .string, .ofSome .string, .ofSome .string, nofun⟩
  case unreadable => exact ⟨.ofSome .string, .ofSome .string, nofun⟩

theorem numbers_of_mem_diagnostics {v : Verdict} {d : Diagnostic} (h : d ∈ v.diagnostics) :
    d.numbers = [] := by
  cases v with
  | valid => cases h
  | invalid k vs =>
    obtain ⟨v, _, rfl⟩ := List.mem_map.1 h
    rfl
  | undetected | schemaUnavailable | unreadable =>
    obtain rfl := List.mem_singleton.1 h
    rfl

end Verdict

namespace Report

def fields (r : Report) : List (String × Option Value) :=
  [("path", some (.string r.path.toString)), ("verdict", some r.verdict.toValue),
    ("diagnostics", some (.array (r.verdict.diagnostics.map Diagnostic.toValue)))]

theorem toValue_eq (r : Report) : r.toValue = .ofMembers (presentFields r.fields) := rfl

theorem hasFields (r : Report) : r.toValue.HasFields r.fields := by
  rw [toValue_eq]
  exact hasFields_ofMembers (by simp [fields])

theorem writable (r : Report) {k : Nat} : Writable (k + 4) r.toValue := by
  have hdiagnostics : Writable (k + 3) (.array (r.verdict.diagnostics.map Diagnostic.toValue)) := by
    refine .arrayOf fun d hd => d.writable ?_
    rw [Verdict.numbers_of_mem_diagnostics hd]
    nofun
  rw [toValue_eq]
  refine .ofFields ?_
  simp only [fields, List.forall_mem_cons]
  exact ⟨.ofSome .string, .ofSome r.verdict.writable, .ofSome hdiagnostics, nofun⟩

end Report

end Document

end PluginAudit

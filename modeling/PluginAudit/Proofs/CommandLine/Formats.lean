import PluginAudit.CommandLine.Run
import PluginAudit.Proofs.CommandLine.Entries
import PluginAudit.Proofs.Document.Sharing

/-!
# The two formats of a listing

The lines of a text listing can be told from the entries of the JSON listing of the same run, and
both runs have the same exit code.
-/

namespace PluginAudit.CommandLine

open Files

/-! ## Reading entries -/

namespace Entry

def text (key : String) (v : Value) : String :=
  match v.get? key with
  | some (.string s) => s
  | _ => ""

def number? (key : String) (v : Value) : Option Nat :=
  match v.get? key with
  | some (.number (.int n)) => some n.toNat
  | _ => none

def flag (key : String) (v : Value) : Bool :=
  match v.get? key with
  | some (.bool b) => b
  | _ => false

def list (key : String) (v : Value) : List Value :=
  match v.get? key with
  | some (.array vs) => vs
  | _ => []

def verdict (v : Value) : Value := (v.get? "verdict").getD .null

def isValid (v : Value) : Bool := text "status" (verdict v) == "valid"

/-- The diagnostics that tell of errors. -/
def errors (v : Value) : List Value :=
  (list "diagnostics" v).filter (text "severity" · == "error")

def errorLine (v d : Value) : Print :=
  .err ("error: " ++ text "path" v ++ ": " ++ ("[" ++ text "code" d ++ "] " ++ text "message" d ++
    Diagnostic.placeText (number? "line" d) (number? "column" d)))

def errorLines (v : Value) : List Print := (errors v).map (errorLine v)

def pluginNote (v : Value) : String :=
  text "version" (verdict v) ++
    if flag "wrapped" (verdict v) then " (inside runtime wrapper)" else ""

def documentNote (v : Value) : String := text "kind" (verdict v) ++ " document"

def okLine (note : Value → String) (v : Value) : Print :=
  .out ("ok: " ++ text "path" v ++ " - valid " ++ note v)

end Entry

/-! ## Lines of a run -/

/-- The lines on a stream that begin with some text. -/
def linesOf (s : Stream) (lead : String) (ps : List Print) : List Print :=
  ps.filter fun p => p.stream == s && lead.toList.isPrefixOf p.text.toList

def okLines (ps : List Print) : List Print := linesOf .output "ok: " ps

def errorLines (ps : List Print) : List Print := linesOf .error "error: " ps

theorem okLines_append (ps qs : List Print) : okLines (ps ++ qs) = okLines ps ++ okLines qs :=
  List.filter_append ..

theorem errorLines_append (ps qs : List Print) :
    errorLines (ps ++ qs) = errorLines ps ++ errorLines qs :=
  List.filter_append ..

section

variable {path : Path} {note : String} {d : Diagnostic} {what : String} {ok failed : Nat}

theorem okLines_ok : okLines [.ok path note] = [.ok path note] := by
  simp [okLines, linesOf, Print.ok, Print.out]

theorem okLines_problems (path : Path) (ds : List Diagnostic) :
    okLines (ds.map (.problem path)) = [] := by
  simp [okLines, linesOf, Print.problem, Print.err]

theorem okLines_summary : okLines [.summary what ok failed] = [] := by
  rw [Print.summary]
  split <;> simp [okLines, linesOf, Print.out, Print.err]

theorem errorLines_ok : errorLines [.ok path note] = [] := rfl

theorem errorLines_problems (path : Path) (ds : List Diagnostic) :
    errorLines (ds.map (.problem path)) = ds.map (.problem path) := by
  simp [errorLines, linesOf, Print.problem, Print.err]

theorem errorLines_summary : errorLines [.summary what ok failed] = [] := by
  rw [Print.summary]
  split <;> simp [errorLines, linesOf, Print.out, Print.err]

theorem linesOf_warnings (ws : List Plugin.Warning) :
    okLines (ws.map fun w => .err w.diagnostic.display) = [] ∧
      errorLines (ws.map fun w => .err w.diagnostic.display) = [] := by
  simp [okLines, errorLines, linesOf, Print.err, Diagnostic.display, Plugin.Warning.diagnostic,
    Diagnostic.severityText]

end

/-! ## Reports -/

section

variable (d : Diagnostic) (v : Value)

theorem text_severity : Entry.text "severity" d.toValue = d.severity.name := by
  simp [Entry.text, d.hasFields.get?, Diagnostic.fields]

theorem text_code : Entry.text "code" d.toValue = d.code := by
  simp [Entry.text, d.hasFields.get?, Diagnostic.fields, List.lookup_cons]

theorem text_message : Entry.text "message" d.toValue = d.message := by
  simp [Entry.text, d.hasFields.get?, Diagnostic.fields, List.lookup_cons]

theorem number?_line : Entry.number? "line" d.toValue = d.line := by
  cases h : d.line <;>
    simp [Entry.number?, d.hasFields.get?, Diagnostic.fields, List.lookup_cons, h, Value.ofNat]

theorem number?_column : Entry.number? "column" d.toValue = d.column := by
  cases h : d.column <;>
    simp [Entry.number?, d.hasFields.get?, Diagnostic.fields, List.lookup_cons, h, Value.ofNat]

end

theorem severity_eq_error (d : Diagnostic) : (d.severity.name == "error") = d.isError := by
  obtain ⟨_ | _ | _, _, _, _, _, _⟩ := d <;> rfl

/-- How the lines of a report are told from its entry. -/
structure ToldIn (note : Value → String) (lines : List Print) (v : Value) : Prop where
  ok : okLines lines = if Entry.isValid v then [Entry.okLine note v] else []
  errors : errorLines lines = Entry.errorLines v
  valid_iff : Entry.isValid v = true ↔ Entry.errors v = []

theorem toldIn_ok {note : Value → String} {v : Value} {path : Path} {text : String}
    (hvalid : Entry.isValid v = true) (hpath : Entry.text "path" v = path.toString)
    (hnote : note v = text) (herrors : Entry.errors v = []) : ToldIn note [.ok path text] v where
  ok := by
    rw [okLines_ok, if_pos hvalid, Entry.okLine, hpath, hnote]
    rfl
  errors := by rw [errorLines_ok, Entry.errorLines, herrors]; rfl
  valid_iff := iff_of_true hvalid herrors

theorem toldIn_problems {note : Value → String} {v : Value} {path : Path} {ds : List Diagnostic}
    (hvalid : Entry.isValid v = false) (hpath : Entry.text "path" v = path.toString)
    (hlist : Entry.list "diagnostics" v = ds.map Diagnostic.toValue)
    (hall : ∀ d ∈ ds, d.isError = true) (hsome : ds ≠ []) :
    ToldIn note (ds.map (.problem path)) v := by
  have herrors : Entry.errors v = ds.map Diagnostic.toValue := by
    rw [Entry.errors, hlist, List.filter_eq_self]
    simp only [List.forall_mem_map, text_severity, severity_eq_error]
    exact hall
  refine ⟨?_, ?_, ?_⟩
  · rw [okLines_problems, hvalid]
    rfl
  · rw [errorLines_problems, Entry.errorLines, herrors, List.map_map]
    refine List.map_congr_left fun d hd => ?_
    have hseverity : d.severity = .error := by simpa [Diagnostic.isError] using hall d hd
    simp only [Function.comp_apply, Entry.errorLine, hpath, text_code, text_message, number?_line,
      number?_column, Print.problem, Diagnostic.display, hseverity, Diagnostic.severityText,
      String.empty_append]
  · rw [herrors, hvalid]
    simpa using hsome

section

variable (r : Plugin.FileReport)

theorem plugin_path : Entry.text "path" r.toValue = r.path.toString := by
  simp [Entry.text, r.hasFields.get?, Plugin.FileReport.fields]

theorem plugin_verdict : Entry.verdict r.toValue = r.verdict.toValue := by
  simp [Entry.verdict, r.hasFields.get?, Plugin.FileReport.fields, List.lookup_cons]

theorem plugin_diagnostics :
    Entry.list "diagnostics" r.toValue = r.verdict.diagnostics.map Diagnostic.toValue := by
  simp [Entry.list, r.hasFields.get?, Plugin.FileReport.fields, List.lookup_cons]

theorem plugin_isValid : Entry.isValid r.toValue = r.isValid := by
  rw [Entry.isValid, plugin_verdict, Entry.text, r.verdict.hasFields.get?,
    Plugin.FileReport.isValid]
  rcases r.verdict with a | p | (_ | n) | m <;>
    simp [Plugin.Verdict.fields, Plugin.Verdict.isValid]

theorem pluginNote_of_valid {a : Plugin.Accepted} (h : r.verdict = .valid a) :
    Entry.pluginNote r.toValue = Listing.validNote a := by
  rw [Entry.pluginNote, plugin_verdict, Entry.text, Entry.flag, r.verdict.hasFields.get?,
    r.verdict.hasFields.get?, h]
  simp [Plugin.Verdict.fields, List.lookup_cons, Listing.validNote]

/-- A wrapped plugin has a diagnostic too, which is no error. -/
theorem errors_of_valid (h : r.isValid = true) : Entry.errors r.toValue = [] := by
  rw [Entry.errors, plugin_diagnostics, List.filter_eq_nil_iff]
  simp only [List.forall_mem_map, text_severity, severity_eq_error]
  obtain ⟨path, header, ⟨_, _ | _⟩ | _ | _ | _⟩ := r
  · nofun
  · intro d hd
    rw [List.mem_singleton.1 hd]
    nofun
  all_goals cases h

theorem problems_of_not_valid {v : Plugin.Verdict} (h : v.isValid = false) :
    v.diagnostics ≠ [] ∧ ∀ d ∈ v.diagnostics, d.isError = true := by
  cases v with
  | valid a => cases h
  | syntaxInvalid p | structuralInvalid p | unreadable p =>
    refine ⟨List.cons_ne_nil _ _, fun d hd => ?_⟩
    rw [List.mem_singleton.1 hd]
    rfl

theorem pluginLines_of_not_valid (h : r.isValid = false) :
    Listing.pluginLines r = r.verdict.diagnostics.map (.problem r.path) := by
  have hlines : Listing.pluginLines r = r.verdict.diagnostics.map fun d =>
      if d.isError then .problem r.path d else .remark r.path d := by
    obtain ⟨path, header, _ | _ | _ | _⟩ := r
    · cases h
    all_goals rfl
  rw [hlines]
  exact List.map_congr_left fun d hd => if_pos ((problems_of_not_valid h).2 d hd)

theorem pluginLines_told : ToldIn Entry.pluginNote (Listing.pluginLines r) r.toValue := by
  cases hvalid : r.isValid with
  | true =>
    obtain ⟨a, ha⟩ : ∃ a, r.verdict = .valid a := by
      obtain ⟨path, header, a | _ | _ | _⟩ := r
      · exact ⟨a, rfl⟩
      all_goals cases hvalid
    have hlines : Listing.pluginLines r = [.ok r.path (Listing.validNote a)] := by
      rw [Listing.pluginLines, ha]
    rw [hlines]
    exact toldIn_ok ((plugin_isValid r).trans hvalid) (plugin_path r) (pluginNote_of_valid r ha)
      (errors_of_valid r hvalid)
  | false =>
    rw [pluginLines_of_not_valid r hvalid]
    obtain ⟨hsome, hall⟩ := problems_of_not_valid hvalid
    exact toldIn_problems ((plugin_isValid r).trans hvalid) (plugin_path r) (plugin_diagnostics r)
      hall hsome

end

section

variable (r : Document.Report)

theorem document_path : Entry.text "path" r.toValue = r.path.toString := by
  simp [Entry.text, r.hasFields.get?, Document.Report.fields]

theorem document_verdict : Entry.verdict r.toValue = r.verdict.toValue := by
  simp [Entry.verdict, r.hasFields.get?, Document.Report.fields, List.lookup_cons]

theorem document_diagnostics :
    Entry.list "diagnostics" r.toValue = r.verdict.diagnostics.map Diagnostic.toValue := by
  simp [Entry.list, r.hasFields.get?, Document.Report.fields, List.lookup_cons]

theorem document_isValid : Entry.isValid r.toValue = r.isValid := by
  rw [Entry.isValid, document_verdict, Entry.text, r.verdict.hasFields.get?,
    Document.Report.isValid]
  cases r.verdict <;> simp [Document.Verdict.fields, Document.Verdict.isValid]

theorem violations_of_not_valid {v : Document.Verdict} (h : v.isValid = false)
    (hviolated : ∀ k, v ≠ .invalid k []) :
    v.diagnostics ≠ [] ∧ ∀ d ∈ v.diagnostics, d.isError = true := by
  cases v with
  | valid k => cases h
  | invalid k vs =>
    refine ⟨fun hnone => hviolated k (congrArg _ (List.map_eq_nil_iff.1 hnone)), fun d hd => ?_⟩
    obtain ⟨v, _, rfl⟩ := List.mem_map.1 hd
    rfl
  | undetected | schemaUnavailable | unreadable =>
    refine ⟨List.cons_ne_nil _ _, fun d hd => ?_⟩
    rw [List.mem_singleton.1 hd]
    rfl

theorem documentLines_told (hviolated : ∀ k, r.verdict ≠ .invalid k []) :
    ToldIn Entry.documentNote (Listing.documentLines r) r.toValue := by
  have hisValid := document_isValid r
  have hlist := document_diagnostics r
  cases hvalid : r.isValid with
  | true =>
    obtain ⟨k, hk⟩ : ∃ k, r.verdict = .valid k := by
      obtain ⟨path, k | _ | _ | _ | _⟩ := r
      · exact ⟨k, rfl⟩
      all_goals cases hvalid
    have hlines : Listing.documentLines r = [.ok r.path (k.name ++ " document")] := by
      rw [Listing.documentLines, hk]
    have hnote : Entry.documentNote r.toValue = k.name ++ " document" := by
      rw [Entry.documentNote, document_verdict, Entry.text, r.verdict.hasFields.get?, hk]
      simp [Document.Verdict.fields, List.lookup_cons]
    have herrors : Entry.errors r.toValue = [] := by
      rw [Entry.errors, hlist, hk]
      rfl
    rw [hlines]
    exact toldIn_ok (hisValid.trans hvalid) (document_path r) hnote herrors
  | false =>
    have hlines : Listing.documentLines r = r.verdict.diagnostics.map (.problem r.path) := by
      obtain ⟨path, _ | _ | _ | _ | _⟩ := r
      · cases hvalid
      all_goals rfl
    rw [hlines]
    obtain ⟨hsome, hall⟩ := violations_of_not_valid hvalid hviolated
    exact toldIn_problems (hisValid.trans hvalid) (document_path r) hlist hall hsome

theorem judge_ne_invalid_nil {k k' : Document.Kind} {v : Value}
    {c : Except Document.SchemaError Schema.Compiled} :
    Document.Store.judge k v c ≠ .invalid k' [] := by
  cases c with
  | error e => nofun
  | ok c =>
    rw [Document.Store.judge]
    cases c.violations v <;> nofun

/-- A document is invalid for some reason. -/
theorem violations_ne_nil {fs : FileSystem} {paths : List Path} {dir : Path} {r : Document.Report}
    (h : r ∈ Document.validateDocuments fs paths dir) (k : Document.Kind) :
    r.verdict ≠ .invalid k [] := by
  rw [Document.validateDocuments,
    Document.validateAll_eq_map (Document.Store.agrees_empty fs dir)] at h
  obtain ⟨p, _, rfl⟩ := List.mem_map.1 h
  intro hinvalid
  simp only [Document.Store.verdictAt, Document.Store.verdictOf] at hinvalid
  split at hinvalid
  · split at hinvalid
    · cases hinvalid
    · exact judge_ne_invalid_nil hinvalid
  · cases hinvalid

end

/-! ## Listings -/

section

variable {ρ : Type} {rs : List ρ} {lines : ρ → List Print} {entry : ρ → Value}
  {note : Value → String}

theorem okLines_flatMap (h : ∀ r ∈ rs, ToldIn note (lines r) (entry r)) :
    okLines (rs.flatMap lines) = ((rs.map entry).filter Entry.isValid).map (Entry.okLine note) := by
  induction rs with
  | nil => rfl
  | cons r rs ih =>
    obtain ⟨hr, hrs⟩ := List.forall_mem_cons.1 h
    rw [List.flatMap_cons, okLines_append, hr.ok, ih hrs, List.map_cons, List.filter_cons]
    split <;> rfl

theorem errorLines_flatMap (h : ∀ r ∈ rs, ToldIn note (lines r) (entry r)) :
    errorLines (rs.flatMap lines) = (rs.map entry).flatMap Entry.errorLines := by
  induction rs with
  | nil => rfl
  | cons r rs ih =>
    obtain ⟨hr, hrs⟩ := List.forall_mem_cons.1 h
    rw [List.flatMap_cons, errorLines_append, hr.errors, ih hrs, List.map_cons, List.flatMap_cons]

end

/-- What a text run and a JSON run with these entries have in common. -/
structure SameStory (what : String) (note : Value → String) (entries : List Value)
    (text json : Outcome) : Prop where
  /-- The JSON run prints the entries, and nothing else on standard output. -/
  listed : ∃ before, json.prints = before ++ [.json (.array entries)] ∧
    ∀ p ∈ before, p.stream = .error
  ok : okLines text.prints = (entries.filter Entry.isValid).map (Entry.okLine note)
  errors : errorLines text.prints = entries.flatMap Entry.errorLines
  /-- An entry has errors if and only if it is not valid. -/
  valid_iff : ∀ v ∈ entries, Entry.isValid v = true ↔ Entry.errors v = []
  /-- The text run ends with the counts, unless there are no files. -/
  summary : ∃ ok failed, ok = (entries.filter Entry.isValid).length ∧
    ok + failed = entries.length ∧
    (entries = [] ∨ text.prints.getLast? = some (.summary what ok failed)) ∧
    text.code = if failed = 0 then 0 else 1

variable {fs : FileSystem} {o : Options}

theorem logged_off (events : List LogEvent) : logged (.read "off") events = [] := by
  have hread : LogFilter.read "off" = [([], 0)] := by decide
  have hnone : ∀ e : LogEvent, LogFilter.allows [([], 0)] e = false := by
    rintro ⟨_ | _ | _ | _ | _, _, _, _⟩ <;> rfl
  rw [logged, hread, List.filter_eq_nil_iff.2 fun e _ => by simp [hnone e], List.map_nil]

theorem count_entries {ρ : Type} {rs : List ρ} {entry : ρ → Value} {valid : ρ → Bool}
    (h : ∀ r ∈ rs, Entry.isValid (entry r) = valid r) :
    rs.countP valid = ((rs.map entry).filter Entry.isValid).length := by
  rw [← List.countP_eq_length_filter, List.countP_map]
  exact List.countP_congr fun r hr => by simp [h r hr]

theorem exitCode_eq {n : Nat} {success : Bool} (h : success = true ↔ n = 0) :
    exitCode success = if n = 0 then 0 else 1 := by
  cases success <;> simp [exitCode] at h ⊢ <;> simp [h]

theorem lines_plugins (rs : List Plugin.FileReport) :
    okLines (Listing.plugins rs) = okLines (rs.flatMap Listing.pluginLines) ∧
      errorLines (Listing.plugins rs) = errorLines (rs.flatMap Listing.pluginLines) := by
  cases rs with
  | nil => decide
  | cons r rs =>
    rw [Listing.plugins, List.isEmpty_cons, if_neg Bool.false_ne_true, okLines_append,
      errorLines_append, okLines_summary, errorLines_summary, List.append_nil, List.append_nil]
    exact ⟨rfl, rfl⟩

theorem getLast?_plugins {rs : List Plugin.FileReport} (ps : List Print) (h : rs ≠ []) :
    (ps ++ Listing.plugins rs).getLast? =
      some (.summary "plugins" (Plugin.validCount rs) (Plugin.failedCount rs)) := by
  rw [Listing.plugins, if_neg (by simpa using h), ← List.append_assoc, List.getLast?_concat]

theorem runPlugins_story {d : Plugin.Discovery}
    (h : Plugin.discover fs o.root.toList o.pattern.toList = .ok d) :
    SameStory "plugins" Entry.pluginNote
      ((Plugin.validateFiles fs d.files).map (·.toValue))
      (runPlugins fs (.read "off") { o with format := .text })
      (runPlugins fs (.read "off") { o with format := .json }) := by
  simp only [runPlugins, h, logged_off, List.nil_append, List.append_nil]
  generalize Plugin.validateFiles fs d.files = rs
  obtain ⟨hok, herrors⟩ := linesOf_warnings d.warnings
  have htold : ∀ r ∈ rs, ToldIn Entry.pluginNote (Listing.pluginLines r) r.toValue :=
    fun r _ => pluginLines_told r
  have hle : Plugin.validCount rs ≤ rs.length := List.countP_le_length
  refine ⟨⟨_, rfl, by simp [Print.err]⟩, ?_, ?_, ?_, ?_⟩
  · rw [okLines_append, hok, List.nil_append, (lines_plugins rs).1, okLines_flatMap htold]
  · rw [errorLines_append, herrors, List.nil_append, (lines_plugins rs).2, errorLines_flatMap htold]
  · simp only [List.forall_mem_map]
    exact fun r hr => (htold r hr).valid_iff
  · refine ⟨Plugin.validCount rs, Plugin.failedCount rs, count_entries fun r _ => plugin_isValid r,
      ?_, ?_, exitCode_eq Plugin.isSuccess_iff_failedCount⟩
    · rw [List.length_map, Plugin.failedCount, Nat.add_sub_cancel' hle]
    · by_cases hrs : rs = []
      · exact .inl (by rw [hrs]; rfl)
      · exact .inr (getLast?_plugins _ hrs)

theorem isSuccess_iff_failedCount {rs : List Document.Report} :
    Document.isSuccess rs = true ↔ Document.failedCount rs = 0 := by
  rw [Document.isSuccess, List.all_eq_true, ← List.countP_eq_length, Document.failedCount,
    Nat.sub_eq_zero_iff_le]
  exact ⟨fun h => Nat.le_of_eq h.symm, fun h => Nat.le_antisymm List.countP_le_length h⟩

theorem runDocuments_story :
    SameStory "documents" Entry.documentNote
      ((Document.validateDocuments fs (o.configs.map Path.ofString)
        (Path.ofString o.schemaDir)).map (·.toValue))
      (runDocuments fs (.read "off") { o with format := .text })
      (runDocuments fs (.read "off") { o with format := .json }) := by
  simp only [runDocuments, logged_off, List.nil_append]
  have hviolated : ∀ r ∈ Document.validateDocuments fs (o.configs.map Path.ofString)
      (Path.ofString o.schemaDir), ∀ k, r.verdict ≠ .invalid k [] :=
    fun r hr => violations_ne_nil hr
  generalize Document.validateDocuments fs (o.configs.map Path.ofString)
    (Path.ofString o.schemaDir) = rs at hviolated ⊢
  have htold : ∀ r ∈ rs, ToldIn Entry.documentNote (Listing.documentLines r) r.toValue :=
    fun r hr => documentLines_told r (hviolated r hr)
  have hle : Document.validCount rs ≤ rs.length := List.countP_le_length
  refine ⟨⟨[], rfl, nofun⟩, ?_, ?_, ?_, ?_⟩
  · rw [Listing.documents, okLines_append, okLines_summary, List.append_nil, okLines_flatMap htold]
  · rw [Listing.documents, errorLines_append, errorLines_summary, List.append_nil,
      errorLines_flatMap htold]
  · simp only [List.forall_mem_map]
    exact fun r hr => (htold r hr).valid_iff
  · refine ⟨Document.validCount rs, Document.failedCount rs,
      count_entries fun r _ => document_isValid r, ?_, .inr ?_,
      exitCode_eq isSuccess_iff_failedCount⟩
    · rw [List.length_map, Document.failedCount, Nat.add_sub_cancel' hle]
    · rw [Listing.documents, List.getLast?_concat]

theorem exitCode_ne_two (success : Bool) : exitCode success ≠ 2 := by
  cases success <;> decide

theorem runOptions_of_no_configs {fs : FileSystem} {filter : LogFilter} {o : Options}
    (habout : o.about = false) (h : o.configs = []) :
    runOptions fs filter o = runPlugins fs filter o := by
  simp [runOptions, habout, h]

theorem runOptions_of_configs {fs : FileSystem} {filter : LogFilter} {o : Options}
    (habout : o.about = false) (h : o.configs ≠ []) :
    runOptions fs filter o = runDocuments fs filter o := by
  simp [runOptions, habout, h]

theorem code_runPlugins_of_error {fs : FileSystem} {filter : LogFilter} {o : Options}
    {e : PatternError} (h : Plugin.discover fs o.root.toList o.pattern.toList = .error e) :
    (runPlugins fs filter o).code = 2 := by
  simp only [runPlugins, h]

theorem code_runPlugins_of_ok {fs : FileSystem} {filter : LogFilter} {o : Options}
    {d : Plugin.Discovery} (h : Plugin.discover fs o.root.toList o.pattern.toList = .ok d) :
    (runPlugins fs filter o).code =
      exitCode (Plugin.isSuccess (Plugin.validateFiles fs d.files)) := by
  simp only [runPlugins, h]

/-- The two formats tell the same story. Either the pattern is rejected, which is when the exit code
is 2, or the JSON run lists entries from which the lines of the text run, its counts and the exit
code of both can be told. -/
theorem formats_tell_the_same (fs : FileSystem) (o : Options) :
    let text := runOptions fs (.read "off") { o with about := false, format := .text }
    let json := runOptions fs (.read "off") { o with about := false, format := .json }
    let rejected := o.configs = [] ∧
      ∃ e, Plugin.discover fs o.root.toList o.pattern.toList = .error e
    text.code = json.code ∧ (text.code = 2 ↔ rejected) ∧
      (rejected ∨ ∃ entries,
        if o.configs = [] then SameStory "plugins" Entry.pluginNote entries text json
        else SameStory "documents" Entry.documentNote entries text json) := by
  intro text json rejected
  by_cases hconfigs : o.configs = []
  · have htext : text = runPlugins fs (.read "off") _ := runOptions_of_no_configs rfl hconfigs
    have hjson : json = runPlugins fs (.read "off") _ := runOptions_of_no_configs rfl hconfigs
    cases hd : Plugin.discover fs o.root.toList o.pattern.toList with
    | error e =>
      have hrejected : rejected := ⟨hconfigs, e, hd⟩
      have hcode : text.code = 2 :=
        (congrArg Outcome.code htext).trans (code_runPlugins_of_error hd)
      have hcode' : json.code = 2 :=
        (congrArg Outcome.code hjson).trans (code_runPlugins_of_error hd)
      exact ⟨hcode.trans hcode'.symm, iff_of_true hcode hrejected, .inl hrejected⟩
    | ok d =>
      have haccepted : ¬ rejected := by
        rintro ⟨_, e, he⟩
        cases hd.symm.trans he
      have hcode : text.code = _ :=
        (congrArg Outcome.code htext).trans (code_runPlugins_of_ok hd)
      have hcode' : json.code = _ :=
        (congrArg Outcome.code hjson).trans (code_runPlugins_of_ok hd)
      have hstory := runPlugins_story (o := { o with about := false }) hd
      refine ⟨hcode.trans hcode'.symm, ?_, .inr ?_⟩
      · rw [hcode]
        exact iff_of_false (exitCode_ne_two _) haccepted
      · simp only [if_pos hconfigs, htext, hjson]
        exact ⟨_, hstory⟩
  · have htext : text = runDocuments fs (.read "off") _ := runOptions_of_configs rfl hconfigs
    have hjson : json = runDocuments fs (.read "off") _ := runOptions_of_configs rfl hconfigs
    have hcode : text.code = json.code := by
      rw [htext, hjson]
      rfl
    have hstory := @runDocuments_story fs { o with about := false }
    refine ⟨hcode, ?_, .inr ?_⟩
    · rw [htext]
      exact iff_of_false (exitCode_ne_two _) fun h => hconfigs h.1
    · simp only [if_neg hconfigs, htext, hjson]
      exact ⟨_, hstory⟩

end PluginAudit.CommandLine

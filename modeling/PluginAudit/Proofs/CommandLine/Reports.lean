import Mathlib.Data.List.Forall2
import PluginAudit.CommandLine.Run
import PluginAudit.Proofs.CommandLine.Entries
import PluginAudit.Proofs.Plugin.Acceptance

/-!
# Reading a listing

The JSON text of a run is read back as an array with an entry for each report, which tells all of
the report and nothing else.
-/

namespace PluginAudit

open Files Json Value

theorem Diagnostic.told (ds : List Diagnostic) :
    List.Forall₂ (fun d w => HasFields w d.fields) ds (ds.map Diagnostic.toValue) :=
  List.forall₂_map_right_iff.2 (List.forall₂_same.2 fun d _ => d.hasFields)

namespace Plugin

/-- What an entry tells of a plugin file. -/
def FileReport.ToldBy (r : FileReport) (v : Value) : Prop :=
  ∃ header verdict diagnostics,
    v.HasFields [("path", some (.string r.path.toString)), ("header", some header),
      ("verdict", some verdict), ("diagnostics", some (.array diagnostics))] ∧
    (r.header = none → header = .null) ∧ (∀ h ∈ r.header, header.HasFields h.fields) ∧
    verdict.HasFields r.verdict.fields ∧
    List.Forall₂ (fun d w => HasFields w d.fields) r.verdict.diagnostics diagnostics

theorem FileReport.toldBy_toValue (r : FileReport) : r.ToldBy r.toValue := by
  refine ⟨_, _, _, r.hasFields, fun h => ?_, fun h hh => ?_, r.verdict.hasFields,
    Diagnostic.told _⟩
  · rw [h]
    rfl
  · rw [hh]
    exact h.hasFields

theorem FileReport.header_eq_null_iff (r : FileReport) :
    r.toValue.get? "header" = some .null ↔ r.header = none := by
  rw [r.hasFields.get?]
  simp only [fields, List.lookup_cons]
  cases r.header with
  | none => simp
  | some h => simp [Header.toValue, Value.ofMembers]

/-- A header is missing only where the file cannot be read. -/
theorem header_validateFile (fs : FileSystem) (path : Path) :
    (validateFile fs path).header = none ↔
      ∃ message, (validateFile fs path).verdict = .unreadable message := by
  rw [validateFile]
  split
  · exact ⟨fun _ => ⟨_, rfl⟩, fun _ => rfl⟩
  · next text _ =>
    refine ⟨nofun, fun ⟨message, h⟩ => ?_⟩
    exact absurd h (judge_ne_unreadable (classify text) text message)

end Plugin

namespace Document

/-- What an entry tells of a document. -/
def Report.ToldBy (r : Report) (v : Value) : Prop :=
  ∃ verdict diagnostics,
    v.HasFields [("path", some (.string r.path.toString)), ("verdict", some verdict),
      ("diagnostics", some (.array diagnostics))] ∧
    verdict.HasFields r.verdict.fields ∧
    (∀ k vs, r.verdict = .invalid k vs → ∃ ws, verdict.get? "violations" = some (.array ws) ∧
      List.Forall₂ (fun v w => HasFields w (Verdict.violationFields v)) vs ws) ∧
    List.Forall₂ (fun d w => HasFields w d.fields) r.verdict.diagnostics diagnostics

theorem Report.toldBy_toValue (r : Report) : r.ToldBy r.toValue := by
  refine ⟨_, _, r.hasFields, r.verdict.hasFields, fun k vs h => ?_, Diagnostic.told _⟩
  refine ⟨vs.map Verdict.violationValue, ?_, ?_⟩
  · rw [r.verdict.hasFields.get?, h]
    simp [Verdict.fields, List.lookup_cons]
  · exact List.forall₂_map_right_iff.2
      (List.forall₂_same.2 fun v _ => Verdict.violationValue_hasFields v)

end Document

namespace CommandLine

/-- The text of what is printed. -/
def printed (ps : List Print) : List Char := (String.join (ps.map (·.text))).toList

theorem read_printed_json {v : Value} {k : Nat} (h : Writable k v) (hk : k < depthLimit) :
    Json.read (printed [.json v]) = .ok v := by
  have hprinted : printed [.json v] = (pretty v).toList ++ ['\n'] := by
    simp [printed, Print.json, Print.out]
  rw [hprinted]
  exact read_pretty h hk (by simp [isSpace])

theorem read_pluginsJson {rs : List Plugin.FileReport} (h : ∀ r ∈ rs, r.verdict.InWords) :
    Json.read (printed (Listing.pluginsJson rs)) = .ok (.array (rs.map (·.toValue))) :=
  read_printed_json (k := 4) (.arrayOf fun r hr => Plugin.FileReport.writable (h r hr)) (by decide)

theorem read_documentsJson (rs : List Document.Report) :
    Json.read (printed (Listing.documentsJson rs)) = .ok (.array (rs.map (·.toValue))) :=
  read_printed_json (k := 5) (.arrayOf fun r _ => r.writable) (by decide)

/-! ## Standard output -/

theorem output_after_errors {code : Nat} {before after : List Print}
    (hbefore : ∀ p ∈ before, p.stream = .error) (hafter : ∀ p ∈ after, p.stream = .output) :
    (Outcome.mk code (before ++ after)).output.toList = printed after := by
  have hnone : before.filter (·.stream == .output) = [] :=
    List.filter_eq_nil_iff.2 fun p hp => by simp [hbefore p hp]
  have hall : after.filter (·.stream == .output) = after :=
    List.filter_eq_self.2 fun p hp => by simp [hafter p hp]
  rw [Outcome.output, Outcome.textOf, List.filter_append, hnone, hall, List.nil_append]
  rfl

theorem stream_of_mem_logged {filter : LogFilter} {events : List LogEvent} {p : Print}
    (h : p ∈ logged filter events) : p.stream = .error := by
  obtain ⟨e, _, rfl⟩ := List.mem_map.1 h
  rfl

variable {fs : FileSystem} {filter : LogFilter} {o : Options}

theorem output_runPlugins_json {d : Plugin.Discovery}
    (h : Plugin.discover fs o.root.toList o.pattern.toList = .ok d) :
    (runPlugins fs filter { o with format := .json }).output.toList =
      printed (Listing.pluginsJson (Plugin.validateFiles fs d.files)) := by
  simp only [runPlugins, h]
  refine output_after_errors ?_ (by simp [Listing.pluginsJson, Print.json, Print.out])
  simp only [List.mem_append, List.mem_map]
  rintro p ((hp | ⟨w, _, rfl⟩) | hp)
  · exact stream_of_mem_logged hp
  · rfl
  · exact stream_of_mem_logged hp

theorem output_runDocuments_json :
    (runDocuments fs filter { o with format := .json }).output.toList =
      printed (Listing.documentsJson (Document.validateDocuments fs
        (o.configs.map Path.ofString) (Path.ofString o.schemaDir))) :=
  output_after_errors (fun _ hp => stream_of_mem_logged hp)
    (by simp [Listing.documentsJson, Print.json, Print.out])

/-- The JSON text of any reports is read back as an array that has for each report, in order, the
object built for it, and this tells the report field by field; places and counts are words of 64
bits. On standard output a run prints this text and nothing else. Of the plugin files of a run
exactly the unreadable ones have no header. -/
theorem json_listing_reads_back (rs : List Plugin.FileReport) (ds : List Document.Report)
    (h : ∀ r ∈ rs, r.verdict.InWords) :
    (∃ vs, Json.read (printed (Listing.pluginsJson rs)) = .ok (.array vs) ∧
      vs = rs.map (·.toValue) ∧ List.Forall₂ Plugin.FileReport.ToldBy rs vs) ∧
    (∃ vs, Json.read (printed (Listing.documentsJson ds)) = .ok (.array vs) ∧
      vs = ds.map (·.toValue) ∧ List.Forall₂ Document.Report.ToldBy ds vs) ∧
    (∀ (fs : FileSystem) (filter : LogFilter) (o : Options) (d : Plugin.Discovery),
      Plugin.discover fs o.root.toList o.pattern.toList = .ok d →
      (runPlugins fs filter { o with format := .json }).output.toList =
        printed (Listing.pluginsJson (Plugin.validateFiles fs d.files)) ∧
      ∀ r ∈ Plugin.validateFiles fs d.files,
        r.toValue.get? "header" = some .null ↔ ∃ message, r.verdict = .unreadable message) ∧
    ∀ (fs : FileSystem) (filter : LogFilter) (o : Options),
      (runDocuments fs filter { o with format := .json }).output.toList =
        printed (Listing.documentsJson (Document.validateDocuments fs
          (o.configs.map Path.ofString) (Path.ofString o.schemaDir))) := by
  refine ⟨⟨_, read_pluginsJson h, rfl, ?_⟩, ⟨_, read_documentsJson ds, rfl, ?_⟩, ?_,
    fun fs filter o => output_runDocuments_json⟩
  · exact List.forall₂_map_right_iff.2 (List.forall₂_same.2 fun r _ => r.toldBy_toValue)
  · exact List.forall₂_map_right_iff.2 (List.forall₂_same.2 fun r _ => r.toldBy_toValue)
  · intro fs filter o d hd
    refine ⟨output_runPlugins_json hd, fun r hr => ?_⟩
    obtain ⟨path, _, rfl⟩ := List.mem_map.1 hr
    rw [Plugin.FileReport.header_eq_null_iff]
    exact Plugin.header_validateFile fs path

/-- Plugins with an entry point too many, with an error at a place, and without a text. -/
def mixedPlugins : List Plugin.FileReport :=
  [⟨.ofString "a \"b\".js", some ⟨.domExecuting, .es5, some "vdi_plugin", some "\u00e4\t", none⟩,
      .structuralInvalid (.several 2)⟩,
    ⟨.ofString "b.js", some ⟨.unclassified, .es2015, none, none, none⟩,
      .syntaxInvalid ⟨.unfinished, some ⟨2, 7⟩, .es2015, .bare⟩⟩,
    ⟨.ofString "c.js", none, .unreadable FileError.permissionDenied.report⟩]

def mixedDocuments : List Document.Report :=
  [⟨.ofString "d.json", .undetected⟩, ⟨.ofString "e.yaml", .unreadable (.unreadable .notText)⟩,
    ⟨.ofString "f.json", .valid .event⟩]

theorem json_listing_reads_back_of_count :
    (∀ r ∈ mixedPlugins, r.verdict.InWords) ∧
      (∃ vs, Json.read (printed (Listing.pluginsJson mixedPlugins)) = .ok (.array vs) ∧
        vs = mixedPlugins.map (·.toValue) ∧
        List.Forall₂ Plugin.FileReport.ToldBy mixedPlugins vs) ∧
      ∃ vs, Json.read (printed (Listing.documentsJson mixedDocuments)) = .ok (.array vs) ∧
        vs = mixedDocuments.map (·.toValue) ∧
        List.Forall₂ Document.Report.ToldBy mixedDocuments vs := by
  have h : ∀ r ∈ mixedPlugins, r.verdict.InWords := by
    simp only [mixedPlugins, Plugin.Verdict.InWords]
    decide
  obtain ⟨hplugins, hdocuments, -⟩ := json_listing_reads_back mixedPlugins mixedDocuments h
  exact ⟨h, hplugins, hdocuments⟩

end CommandLine

end PluginAudit

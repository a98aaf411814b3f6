import IntentLint.Proofs.Command.Formats
import IntentLint.Proofs.Json.RoundTrip
import IntentLint.Proofs.Report
import Mathlib.Data.List.Nodup

/-!
# `Proofs.Command.Payload` — the output in JSON format, decoded

In JSON format a run writes the document of its reports to standard output. The document holds texts from files
that may hold anything, counts, and names that are distinct: those of locales, since every locale has one report,
and those of codes, since every code is counted once. So the output is JSON to the letter, and decoding it gives
back the reports with everything in them.
-/

namespace IntentLint

/-- Codes are told apart by their names. -/
theorem Code.name_injective : Function.Injective Code.name := by
  have hfound : ∀ code : Code, Code.ofName? code.name = some code := by
    intro code
    cases code <;> decide
  intro code code' h
  have hsome := hfound code
  rw [h, hfound code'] at hsome
  exact (Option.some.inj hsome).symm

namespace Json

theorem plain_map_text (t? : Option Text) : ((t?.map Json.text).getD .null).Plain := by
  cases t? with
  | none => exact .null
  | some t => exact .text t

/-- An object that lists its members by name is plain if they are. -/
theorem plain_object {members : List (Text × Json)} (names : (Entries.keys members).Nodup)
    (values : ∀ v ∈ Entries.values members, Plain v) : (Json.object members).Plain :=
  .object names fun m hm => values m.2 (List.mem_map_of_mem hm)

end Json

theorem Finding.plain_toJson (f : Finding) : f.toJson.Plain := by
  have hnames : (["code", "locale", "message", "text", "intent", "entity_type"] : List Text).Nodup := by decide
  refine Json.plain_object hnames ?_
  simp only [Entries.values, List.map_cons, List.map_nil, List.forall_mem_cons]
  exact ⟨.text _, .text _, .text _, .text _, Json.plain_map_text _, Json.plain_map_text _,
    fun _ hmem => absurd hmem List.not_mem_nil⟩

theorem Report.plain_summaryJson {summary : List (Code × Nat)} (h : (Entries.keys summary).Nodup) :
    (summaryJson summary).Plain := by
  have hnames : Entries.keys (summary.map fun entry => (entry.1.name, Json.number (.integer entry.2))) =
      (Entries.keys summary).map Code.name := by
    simp only [Entries.keys, List.map_map, Function.comp_def]
  refine .object ?_ ?_
  · exact hnames ▸ List.Nodup.map Code.name_injective h
  · intro m hm
    obtain ⟨entry, -, rfl⟩ := List.mem_map.mp hm
    exact .integer _

theorem Report.plain_toJson {r : Report} (h : (Entries.keys r.summary).Nodup) : r.toJson.Plain := by
  have hnames : (["locale", "passed", "summary", "warnings", "failed_validators", "error"] : List Text).Nodup := by
    decide
  refine Json.plain_object hnames ?_
  simp only [Entries.values, List.map_cons, List.map_nil, List.forall_mem_cons]
  refine ⟨.text _, .bool _, plain_summaryJson h, .array ?_, .array ?_, Json.plain_map_text _,
    fun _ hmem => absurd hmem List.not_mem_nil⟩
  · intro v hv
    obtain ⟨f, -, rfl⟩ := List.mem_map.mp hv
    exact f.plain_toJson
  · intro v hv
    obtain ⟨name, -, rfl⟩ := List.mem_map.mp hv
    exact .text name

namespace Command

variable {linter : Linter} {read : Reader} {around : Surroundings} {time : Text} {argv : List Text}
  {options : Options} {settings : Settings} {reports : Entries Text Report}

theorem plain_document (hlocales : (Entries.keys reports).Nodup)
    (hsummaries : ∀ e ∈ reports, (Entries.keys e.2.summary).Nodup) : (document reports).Plain := by
  have hnames : Entries.keys (reports.map fun e => (e.1, e.2.toJson)) = Entries.keys reports := by
    simp only [Entries.keys, List.map_map, Function.comp_def]
  refine .object (hnames ▸ hlocales) ?_
  intro m hm
  obtain ⟨e, he, rfl⟩ := List.mem_map.mp hm
  exact Report.plain_toJson (hsummaries e he)

/-- Every code is counted once in a report of a run. -/
theorem nodup_summary_of_reports (h : Reports linter read around options settings reports)
    {e : Text × Report} (he : e ∈ reports) : (Entries.keys e.2.summary).Nodup := by
  obtain ⟨dir, -, hreport⟩ := reportOf_of_reports h he
  rcases Batch.reportOf_eq_ok hreport with ⟨m, -, hmodel⟩ | ⟨error, -, hfailed⟩
  · rw [hmodel]
    show (Entries.keys (Report.summarize _)).Nodup
    rw [Report.keys_summarize]
    exact Entries.nodup_eraseDups _
  · rw [hfailed]
    exact List.nodup_nil

/-- **The output in JSON format reads back as the reports.** A run in JSON format that completes has reports, one
for every locale listed, and what it writes to standard output is JSON to the letter for an object with them: under
each locale everything in its report, with its findings and their number by code, and nothing else. The decoder
reads the same, unless a number has too many digits for it. -/
theorem run_json_decode {code : ExitCode} (hparse : Options.parse argv = .ok options)
    (hjson : options.format = .json) (hcode : (run linter read around time argv).outcome = .ok code) :
    ∃ settings reports, ∃ listed : List Text, Reports linter read around options settings reports ∧
      options.namesUnder settings = listed.map some ∧ Entries.keys reports = listed.eraseDups ∧
      Json.Strict.decode? (run linter read around time argv).stdout = some (document reports) ∧
      document reports = .object (reports.map fun e => (e.1, .object
        [("locale", .text e.2.locale), ("passed", .bool e.2.passed),
          ("summary", .object (e.2.summary.map fun s => (s.1.name, .number (.integer s.2)))),
          ("warnings", .array (e.2.findings.map fun f => .object
            [("code", .text f.code.name), ("locale", .text f.locale), ("message", .text f.message),
              ("text", .text f.text), ("intent", (f.intent.map .text).getD .null),
              ("entity_type", (f.entityType.map .text).getD .null)])),
          ("failed_validators", .array (e.2.failedChecks.map .text)),
          ("error", (e.2.error.map .text).getD .null)])) ∧
      (Json.decode (run linter read around time argv).stdout = .ok (document reports) ∨
        ∃ n, Json.maxIntegerDigits < n ∧
          Json.decode (run linter read around time argv).stdout = .error (.oversizedInteger n)) := by
  obtain ⟨settings, reports, hreports, -⟩ := (outcome_run_eq_ok_iff hparse).mp hcode
  obtain ⟨threshold, hlevel⟩ := hreports.2.1
  obtain ⟨listed, hlisted, hkeys⟩ := keys_of_reports hreports
  have hplain : (document reports).Plain := by
    apply plain_document
    · rw [hkeys]
      exact Entries.nodup_eraseDups listed
    · exact fun e he => nodup_summary_of_reports hreports he
  have hstdout : (run linter read around time argv).stdout = (Json.render .block (document reports)).line := by
    rw [run_of_reports hparse hreports hlevel, if_pos hjson]
  have hdecode := Json.Strict.decode?_render hplain
  refine ⟨settings, reports, listed, hreports, hlisted, hkeys, ?_, rfl, ?_⟩
  · rw [hstdout]
    exact hdecode
  · rw [hstdout]
    exact Json.Strict.decode_of_decode? hdecode

/-- A run in JSON format with one finding. -/
theorem run_json_decode_blankModel :
    Options.parse asJson = .ok { Options.default with format := .json } ∧
      (run Linter.standard blankFiles ⟨[], none⟩ [] asJson).outcome = .ok .ok ∧
      ∃ reports, Entries.keys reports = [("en" : Text)] ∧
        Json.Strict.decode? (run Linter.standard blankFiles ⟨[], none⟩ [] asJson).stdout =
          some (document reports) := by
  have hparse : Options.parse asJson = .ok { Options.default with format := .json } := rfl
  have hcode : (run Linter.standard blankFiles ⟨[], none⟩ [] asJson).outcome = .ok .ok := by
    decide +kernel
  obtain ⟨settings, reports, listed, ⟨hload, -⟩, hlisted, hkeys, hdecode, -⟩ := run_json_decode hparse rfl hcode
  have hone : listed = [("en" : Text)] := by
    cases hload
    exact (List.map_inj_right fun _ _ => Option.some.inj).mp hlisted.symm
  refine ⟨hparse, hcode, reports, ?_, hdecode⟩
  rw [hkeys, hone]
  rfl

end Command
end IntentLint

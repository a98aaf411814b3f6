import IntentLint.Proofs.Batch.Loading
import IntentLint.Proofs.Model.Problems

/-!
# `Proofs.Batch.Sources` — a text from a file, and the same text linted at once

A text can be linted at once, and it can be the content of a model file and be linted with the batch. The two
ways should say the same, but the file is decoded once more when its document is itself a text: the document
that is quoted in it is linted in its place. So they agree on a file exactly when there is nothing in the
quotes that could be taken for a model, that is when what is quoted is a document and no object.
-/

namespace IntentLint

/-! ## Agreement -/

/-- What a batch stores for a locale agrees with what linting its text at once comes to. -/
structure AgreesWith (direct : Except Failure Report) (stored : Report) : Prop where
  report : ∀ r, direct = .ok r → stored = r
  unfit : ∀ locale problems, direct = .error (.lint ⟨locale, .unfit problems⟩) →
    stored.error = some (LintError.message ⟨locale, .unfit problems⟩)
  lintError : ∀ error, direct = .error (.lint error) → stored.error ≠ none

/-- The failure of a run is that of one locale, if it fails. -/
def StaysWithLocale (direct : Except Failure Report) : Prop :=
  ∀ failure, direct = .error failure → ∃ error, failure = .lint error

/-- Linting at once and the report of a locale agree: the report says the same, and there is one when the
failure at once, if any, is the locale's own. -/
structure Agree (direct stored : Except Failure Report) : Prop where
  report : ∀ r, stored = .ok r → AgreesWith direct r
  returns : StaysWithLocale direct → ∃ r, stored = .ok r

/-- Nothing is promised where linting at once fails beyond the locale. -/
theorem agree_of_failure {failure : Failure} (hne : ∀ error, failure ≠ .lint error)
    (stored : Except Failure Report) : Agree (.error failure) stored where
  report := by
    intro r _
    refine ⟨fun r' h => ?_, fun locale problems h => ?_, fun error h => ?_⟩
    · cases h
    · cases h
      exact absurd rfl (hne _)
    · cases h
      exact absurd rfl (hne _)
  returns := by
    intro hstays
    obtain ⟨error, rfl⟩ := hstays failure rfl
    exact absurd rfl (hne error)

/-- A lint error about the structure must be stored with its message, any other with some message. -/
theorem agree_of_lintError {direct error : LintError} (locale : Text)
    (h : ∀ problems, direct.cause = .unfit problems → error.message = direct.message) :
    Agree (.error (.lint direct)) (.ok (Report.failed locale (some error.message))) where
  report := by
    intro r hr
    cases hr
    refine ⟨fun r' h' => ?_, fun locale' problems h' => ?_, fun error' _ => by simp [Report.failed]⟩
    · cases h'
    · cases h'
      exact congrArg some (h problems rfl)
  returns := fun _ => ⟨_, rfl⟩

namespace Batch

variable {batch : Batch} {locale t : Text}

/-- **The same model, or the same failure to get one, gives agreement.** -/
theorem agree_of_modelOf {outcome : Except Failure LanguageModel} (h : batch.modelOf locale = outcome) :
    Agree (outcome.map fun m => batch.linter.report m locale) (batch.reportOf locale) := by
  cases outcome with
  | ok m =>
    rw [reportOf_of_model h]
    refine ⟨fun r hr => ?_, fun _ => ⟨_, rfl⟩⟩
    cases hr
    refine ⟨fun r' h' => ?_, fun locale' problems h' => ?_, fun error h' => ?_⟩
    · cases h'
      rfl
    · cases h'
    · cases h'
  | error failure =>
    by_cases hlint : ∃ error, failure = .lint error
    · obtain ⟨error, rfl⟩ := hlint
      rw [reportOf_of_lintError h]
      exact agree_of_lintError locale fun _ _ => rfl
    · exact agree_of_failure (fun error he => hlint ⟨error, he⟩) _

/-- To lint a text at once is to decode it, to read its document and to report on the model. -/
theorem outcome_lint_text (linter : Linter) (locale t : Text) :
    (linter.lint none [] (.text t) locale).outcome =
      ((decodeAs locale .malformedText t).bind (Source.readDocument locale)).map
        fun m => linter.report m locale := by
  unfold Linter.lint
  rw [Run.outcome_bind, Run.outcome_ofExcept, read_text_eq]
  cases (decodeAs locale .malformedText t).bind (Source.readDocument locale) with
  | ok m => exact Linter.outcome_lintModel Sink.willing_none linter []
  | error failure => rfl

theorem readDocument_of_not_object {v : Json} (h : ∀ members, v ≠ .object members) :
    Source.readDocument locale v = .error (.lint ⟨locale, .unfit [LanguageModel.rootProblem]⟩) := by
  unfold Source.readDocument
  rw [LanguageModel.ofJson_of_not_object h]
  rfl

/-- A message about the structure at the root is written for no other fault, and for no object. -/
theorem eq_root_of_message {s : Text} {error : LintError}
    (h : (decodeAs locale .malformedText s).bind (Source.readDocument locale) = .error (.lint error))
    (hmessage : error.message = LintError.message ⟨locale, .unfit [LanguageModel.rootProblem]⟩) :
    ∃ v, Json.decode s = .ok v ∧ ∀ members, v ≠ .object members := by
  unfold decodeAs at h
  cases hs : Json.decode s with
  | error decodeError =>
    rw [hs] at h
    cases decodeError with
    | malformed fault position =>
      cases h
      have hhead := congrArg List.head? hmessage
      cases hhead
    | oversizedInteger digits => cases h
  | ok v =>
    rw [hs] at h
    refine ⟨v, rfl, fun members hv => ?_⟩
    subst hv
    cases hread : LanguageModel.ofJson (.object members) with
    | ok m =>
      simp only [Except.bind, Source.readDocument, hread] at h
      cases h
    | error problems =>
      simp only [Except.bind, Source.readDocument, hread] at h
      cases h
      exact Problem.list_of_object_ne hread (List.append_cancel_left hmessage)

/-- **Agreement about one file.** The text of the file and the text linted at once agree unless the document
is a text, and then exactly when that text writes a document that is no object. -/
theorem agree_iff (husable : Path.Usable (batch.pathOf locale))
    (hread : batch.read.text (batch.pathOf locale) = .ok t) :
    Agree (batch.linter.lint none [] (.text t) locale).outcome (batch.reportOf locale) ↔
      ∀ s, Json.decode t = .ok (.text s) →
        ∃ v, Json.decode s = .ok v ∧ ∀ members, v ≠ .object members := by
  have hmodel := modelOf_eq batch locale
  rw [textOf_of_text husable hread] at hmodel
  rw [outcome_lint_text]
  cases ht : Json.decode t with
  | error error =>
    refine ⟨fun _ s hs => (by cases hs), fun _ => ?_⟩
    cases error with
    | malformed fault position =>
      -- both ways end in a lint error, but each blames what it decoded
      simp only [decodeAs, ht, Except.bind, Except.map] at hmodel ⊢
      rw [reportOf_of_lintError hmodel]
      exact agree_of_lintError locale fun problems h => by cases h
    | oversizedInteger digits =>
      simp only [decodeAs, ht, Except.bind, Except.map]
      exact agree_of_failure (by simp) _
  | ok v =>
    rw [decodeAs_of_ok ht]
    simp only [Except.bind, decodeAs_of_ok ht] at hmodel ⊢
    by_cases hplain : ∀ s, v ≠ .text s
    · refine ⟨fun _ s hs => absurd (Except.ok.inj hs) (hplain s), fun _ => ?_⟩
      rw [unquote_of_not_text hplain] at hmodel
      exact agree_of_modelOf hmodel
    · obtain ⟨s, rfl⟩ := Classical.not_forall_not.mp hplain
      have hroot : Source.readDocument locale (.text s) =
          .error (.lint ⟨locale, .unfit [LanguageModel.rootProblem]⟩) :=
        readDocument_of_not_object fun members h => by cases h
      rw [hroot]
      constructor
      · rintro hagree s' ⟨⟩
        obtain ⟨r, hr⟩ := hagree.returns fun failure h => by cases h; exact ⟨_, rfl⟩
        have hstored := (hagree.report r hr).unfit locale _ rfl
        rcases reportOf_eq_ok hr with ⟨m, -, rfl⟩ | ⟨error, herror, rfl⟩
        · cases hstored
        · exact eq_root_of_message (hmodel.symm.trans herror) (Option.some.inj hstored)
      · intro hquoted
        obtain ⟨v, hv, hobject⟩ := hquoted s rfl
        have hsame : batch.modelOf locale =
            .error (.lint ⟨locale, .unfit [LanguageModel.rootProblem]⟩) := by
          rw [hmodel, unquote, decodeAs_of_ok hv]
          exact readDocument_of_not_object hobject
        exact agree_of_modelOf hsame

/-! ## Agreement of a file with its text -/

/-- A batch and linting at once agree on the text of a locale: what any batch with the locale stores for it
agrees, and the batch of this locale alone does store a report when the failure at once, if any, is the
locale's own. -/
structure FileAgrees (around : Surroundings) (read : Reader) (linter : Linter) (sink? : Option Sink)
    (modelsDir locale t : Text) : Prop where
  stored : ∀ locales reports, locale ∈ locales →
    (lintIn around read linter sink? ⟨some locales, some modelsDir⟩).outcome = .ok reports →
    ∃ r, Entries.get? locale reports = some r ∧
      AgreesWith (linter.lint none [] (.text t) locale).outcome r
  returns : StaysWithLocale (linter.lint none [] (.text t) locale).outcome →
    ∃ reports, (lintIn around read linter sink? ⟨some [locale], some modelsDir⟩).outcome = .ok reports

/-- Agreement is a matter of the report of the locale, whatever else is on the list. -/
theorem fileAgrees_iff {around : Surroundings} {settings : Settings} {sink? : Option Sink}
    (hload : Settings.load around = .ok settings) (hs : Sink.Willing sink?) (read : Reader)
    (linter : Linter) (modelsDir locale t : Text) :
    FileAgrees around read linter sink? modelsDir locale t ↔
      Agree (linter.lint none [] (.text t) locale).outcome
        ((Batch.mk read modelsDir linter sink?).reportOf locale) := by
  have hrun : ∀ locales, (lintIn around read linter sink? ⟨some locales, some modelsDir⟩).outcome =
      ((Batch.mk read modelsDir linter sink?).lintAll locales).outcome :=
    fun locales => outcome_lintIn hload read linter sink? _
  have halone : (∃ reports, (lintIn around read linter sink? ⟨some [locale], some modelsDir⟩).outcome =
      .ok reports) ↔ ∃ r, (Batch.mk read modelsDir linter sink?).reportOf locale = .ok r := by
    rw [hrun, lintAll_eq_ok_iff hs]
    simp
  constructor
  · intro h
    refine ⟨fun r hr => ?_, fun hstays => halone.mp (h.returns hstays)⟩
    obtain ⟨reports, hreports⟩ := halone.mpr ⟨r, hr⟩
    obtain ⟨r', hget, hagrees⟩ := h.stored [locale] reports (List.mem_singleton.mpr rfl) hreports
    rw [hrun] at hreports
    obtain ⟨r'', hget', hr'⟩ := get?_of_lintAll hs hreports (List.mem_singleton.mpr rfl)
    rw [hget] at hget'
    cases hget'
    rw [hr] at hr'
    cases hr'
    exact hagrees
  · intro h
    refine ⟨fun locales reports hl hreports => ?_, fun hstays => halone.mpr (h.returns hstays)⟩
    rw [hrun] at hreports
    obtain ⟨r, hget, hr⟩ := get?_of_lintAll hs hreports hl
    exact ⟨r, hget, h.report r hr⟩

/-- **When a file agrees with its text.** The content of the file is a text without surrogates and carriage
returns. Linting the file and linting the text say the same exactly when the document of the text is not
itself a text, or is one that writes a document other than an object. -/
theorem fileAgrees_iff_quotes_no_object {around : Surroundings} {settings : Settings}
    {sink? : Option Sink} {read : Reader} {modelsDir locale t : Text}
    (hload : Settings.load around = .ok settings) (hs : Sink.Willing sink?)
    (husable : Path.Usable (Path.ofModel modelsDir locale).text)
    (hread : read (Path.ofModel modelsDir locale).text = .ok (Utf8.encode t))
    (ht : Utf8.Scalar t) (hr : CodePoint.ofChar '\r' ∉ t) (linter : Linter) :
    FileAgrees around read linter sink? modelsDir locale t ↔
      ∀ s, Json.decode t = .ok (.text s) →
        ∃ v, Json.decode s = .ok v ∧ ∀ members, v ≠ .object members := by
  rw [fileAgrees_iff hload hs]
  have hagree : Agree _ ((Batch.mk read modelsDir linter sink?).reportOf locale) ↔ _ :=
    agree_iff husable (Reader.text_of_octets hread ht hr)
  exact hagree

/-- The text of a document that is a text, with the model in quotes. -/
def quotedModel : Text := "\"\x7b\\\"intents\\\": \x7b\x7d\x7d\""

theorem decode_quotedModel : Json.decode quotedModel = .ok (.text plainModel) := by
  have hread : ((Json.decode quotedModel).toOption.bind fun v => (Reading.text v).toOption) =
      some plainModel := by decide +kernel
  obtain ⟨v, hv, htext⟩ := exists_of_readAs hread
  cases v with
  | text s =>
    cases htext
    exact hv
  | _ => cases htext

/-- A file with a plain model agrees with its text. -/
theorem fileAgrees_plainModel :
    Settings.load ⟨[], none⟩ = .ok Settings.default ∧ Sink.Willing none ∧
      Path.Usable (Path.ofModel "models" "en").text ∧ Utf8.Scalar plainModel ∧
      CodePoint.ofChar '\r' ∉ plainModel ∧
      FileAgrees ⟨[], none⟩ (fun _ => .ok (Utf8.encode plainModel)) Linter.standard none "models" "en"
        plainModel := by
  have hload : Settings.load ⟨[], none⟩ = .ok Settings.default := rfl
  have hfeeds : CodePoint.ofChar '\r' ∉ plainModel := by decide
  refine ⟨hload, Sink.willing_none, usable_default, scalar_plainModel, hfeeds, ?_⟩
  refine (fileAgrees_iff_quotes_no_object hload Sink.willing_none usable_default rfl scalar_plainModel hfeeds
    Linter.standard).mpr fun s hs => ?_
  obtain ⟨v, hdecode, hmodel⟩ := exists_decode_plainModel
  rw [hdecode] at hs
  cases hs
  cases hmodel

/-- **A quoted model passes in a file and is refused at once.** Linted at once the document is no object; from
the file the model in the quotes is linted in its place. -/
theorem lintIn_quotedModel :
    (Linter.standard.lint none [] (.text quotedModel) "en").outcome =
        .error (.lint ⟨"en", .unfit [LanguageModel.rootProblem]⟩) ∧
      ∃ reports, (lintIn ⟨[], none⟩ (fun _ => .ok (Utf8.encode quotedModel)) Linter.standard none
          ⟨some [("en" : Text)], some "models"⟩).outcome = .ok reports ∧
        ∃ r, Entries.get? ("en" : Text) reports = some r ∧ r.passed = true ∧ r.error = none := by
  constructor
  · rw [outcome_lint_text, decodeAs_of_ok decode_quotedModel]
    rfl
  · have hload : Settings.load ⟨[], none⟩ = .ok Settings.default := rfl
    have hfile : Reader.text (fun _ => .ok (Utf8.encode quotedModel)) (Path.ofModel "models" "en").text =
        .ok quotedModel := by
      refine Reader.text_of_octets rfl ?_ (by decide)
      unfold Utf8.Scalar
      decide
    let batch := ofScope (fun _ => .ok (Utf8.encode quotedModel)) Linter.standard none
      ⟨some [("en" : Text)], some "models"⟩ Settings.default
    have htext : batch.textOf "en" = .ok quotedModel := textOf_of_text usable_default hfile
    have hmodel : batch.modelOf "en" = .ok ⟨[], none⟩ := by
      -- the document of the file is a text, and it is the text in it that holds the model
      obtain ⟨v, hdecode, hread⟩ := exists_decode_plainModel
      rw [modelOf_eq, htext]
      simp only [Except.bind, decodeAs_of_ok decode_quotedModel, unquote, decodeAs_of_ok hdecode,
        Source.readDocument, hread]
      rfl
    have hreport := reportOf_of_model hmodel
    rw [outcome_lintIn hload]
    exact ⟨_, outcome_lintAll_singleton Sink.willing_none hreport, _, Entries.get?_cons_self _ _ _, rfl, rfl⟩

end Batch
end IntentLint

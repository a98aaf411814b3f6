import IntentLint.Proofs.Batch.Loading
import IntentLint.Proofs.Json.Digits
import IntentLint.Proofs.Text.Utf8

/-!
# `Proofs.Batch.Containment` — which failures of a model file stay with its locale

A model file may be absent, unreadable, malformed or of the wrong structure; each of these becomes the report
of its locale. Two things do not: a path that the file system cannot take, and an integer with too many
digits, in the document of the file or in a document that is quoted in it. Files without these are
*contained*, and a batch over contained files returns a report for every locale on its list. A single file
that is not contained ends the batch, and all reports are lost.

What a report then says is put without the loading steps: either the file holds a model, and the report is
that of linting the model, or it holds none, and the report has an error.
-/

namespace IntentLint

/-! ## Steps that fail in two ways

A step of loading gives what its input holds. When that holds nothing, the step ends with a lint error; when
its input is not contained, it ends with another failure. -/

/-- A step of loading, by what its input holds and whether that is contained. -/
inductive Gives {α : Type} (contained : Prop) (holds : α → Prop) : Except Failure α → Prop where
  | value {a : α} (hc : contained) (ha : holds a) : Gives contained holds (.ok a)
  | lintError {error : LintError} (hc : contained) (hnone : ∀ a, ¬ holds a) :
      Gives contained holds (.error (.lint error))
  | failure {failure : Failure} (hc : ¬ contained) (hne : ∀ error, failure ≠ .lint error) :
      Gives contained holds (.error failure)

namespace Gives

variable {α β : Type} {contained : Prop} {holds : α → Prop}

/-- **Steps in a row.** The input of a step is what the step before it gives, and there is at most one. -/
theorem bind {contained' : α → Prop} {holds' : α → β → Prop} {step : Except Failure α}
    {next : α → Except Failure β} (hstep : Gives contained holds step)
    (hunique : ∀ a b, holds a → holds b → a = b) (hnext : ∀ a, Gives (contained' a) (holds' a) (next a)) :
    Gives (contained ∧ ∀ a, holds a → contained' a) (fun b => ∃ a, holds a ∧ holds' a b)
      (step.bind next) := by
  cases hstep with
  | @value a hc ha =>
    -- `a` is all that the first step holds, so the next step is contained for each such value or for none
    have hall : contained' a → contained ∧ ∀ a, holds a → contained' a := by
      intro hc'
      refine ⟨hc, fun b hb => ?_⟩
      rw [hunique b a hb ha]
      exact hc'
    have hgives := hnext a
    show Gives _ _ (next a)
    generalize next a = outcome at hgives ⊢
    cases hgives with
    | value hc' hb => exact .value (hall hc') ⟨a, ha, hb⟩
    | lintError hc' hnone =>
      refine .lintError (hall hc') ?_
      rintro b ⟨a', ha', hb⟩
      rw [hunique a' a ha' ha] at hb
      exact hnone b hb
    | failure hc' hne => exact .failure (fun h => hc' (h.2 a ha)) hne
  | lintError hc hnone =>
    refine .lintError ⟨hc, fun a ha => absurd ha (hnone a)⟩ ?_
    rintro b ⟨a, ha, -⟩
    exact hnone a ha
  | failure hc hne => exact .failure (fun h => hc h.1) hne

theorem congr {contained' : Prop} {step : Except Failure α} (h : Gives contained holds step)
    (hc : contained ↔ contained') : Gives contained' holds step := by
  rw [← propext hc]
  exact h

end Gives

/-! ## What a file holds -/

/-- Decoding stops at an integer with too many digits. -/
def Json.Oversized (t : Text) : Prop := ∃ digits, Json.decode t = .error (.oversizedInteger digits)

/-- A document stands for the one that is quoted in it, if it is a text, and else for itself. -/
inductive Json.Unquotes : Json → Json → Prop where
  | quoted {s : Text} {v : Json} (h : Json.decode s = .ok v) : Unquotes (.text s) v
  | plain {v : Json} (h : ∀ s, v ≠ .text s) : Unquotes v v

namespace Reader

/-- The file at a path holds a model: its text writes a document, which stands for one with the structure of
the model. -/
def HoldsModel (read : Reader) (path : Text) (m : LanguageModel) : Prop :=
  ∃ t, read.text path = .ok t ∧
    ∃ v, Json.decode t = .ok v ∧ ∃ w, v.Unquotes w ∧ LanguageModel.ofJson w = .ok m

/-- Whatever is wrong with a file stays with it: its path is usable, and no decoding stops at an integer with
too many digits. -/
structure Contained (read : Reader) (path : Text) : Prop where
  usable : Path.Usable path
  sized : ∀ t, read.text path = .ok t → ¬ Json.Oversized t
  quoted_sized : ∀ t s, read.text path = .ok t → Json.decode t = .ok (.text s) → ¬ Json.Oversized s

end Reader

theorem Json.Unquotes.unique {v w w' : Json} (h : v.Unquotes w) (h' : v.Unquotes w') : w = w' := by
  cases h with
  | quoted h =>
    cases h' with
    | quoted h' => exact Except.ok.inj (h.symm.trans h')
    | plain h' => exact absurd rfl (h' _)
  | plain h =>
    cases h' with
    | quoted h' => exact absurd rfl (h _)
    | plain h' => rfl

theorem Json.Oversized.hasDigits {t : Text} (h : Json.Oversized t) :
    ∃ n, Json.maxIntegerDigits < n ∧ Json.HasDigits n t := by
  obtain ⟨n, hn⟩ := h
  exact ⟨n, Json.decode_oversized hn⟩

/-- **A usable path is enough where digits stand in short rows**, in the text of the file and in the text that
its document may be. In particular a file that gives no text is contained. -/
theorem Reader.contained_of_short_rows {read : Reader} {path : Text} (husable : Path.Usable path)
    (hrows : ∀ t n, read.text path = .ok t → Json.HasDigits n t → n ≤ Json.maxIntegerDigits)
    (hquoted : ∀ t s n, read.text path = .ok t → Json.decode t = .ok (.text s) → Json.HasDigits n s →
      n ≤ Json.maxIntegerDigits) :
    read.Contained path where
  usable := husable
  sized := by
    intro t ht hover
    obtain ⟨n, hlong, hn⟩ := hover.hasDigits
    exact absurd (hrows t n ht hn) (Nat.not_le_of_lt hlong)
  quoted_sized := by
    intro t s ht hs hover
    obtain ⟨n, hlong, hn⟩ := hover.hasDigits
    exact absurd (hquoted t s n ht hs hn) (Nat.not_le_of_lt hlong)

/-! ## The steps of loading -/

namespace Batch

variable {batch : Batch} {locale : Text}

theorem gives_textOf (batch : Batch) (locale : Text) :
    Gives (Path.Usable (batch.pathOf locale))
      (fun t => batch.read.text (batch.pathOf locale) = .ok t) (batch.textOf locale) := by
  unfold textOf
  cases hpath : PathFault.ofText? (batch.pathOf locale) with
  | some fault =>
    refine .failure (fun husable => ?_) (by simp)
    rw [PathFault.ofText?_eq_none_iff.mpr husable] at hpath
    cases hpath
  | none =>
    have husable := PathFault.ofText?_eq_none_iff.mp hpath
    cases batch.read.text (batch.pathOf locale) with
    | error fault => exact .lintError husable (by simp)
    | ok t => exact .value husable rfl

theorem gives_decodeAs (locale : Text) (cause : Json.Fault → Position → LintCause) (t : Text) :
    Gives (¬ Json.Oversized t) (fun v => Json.decode t = .ok v) (decodeAs locale cause t) := by
  unfold decodeAs Json.Oversized
  cases Json.decode t with
  | ok v => exact .value (by simp) rfl
  | error error =>
    cases error with
    | malformed fault position => exact .lintError (by simp) (by simp)
    | oversizedInteger digits => exact .failure (by simp) (by simp)

theorem gives_unquote (locale : Text) (v : Json) :
    Gives (∀ s, v = .text s → ¬ Json.Oversized s) v.Unquotes (unquote locale v) := by
  by_cases hplain : ∀ s, v ≠ .text s
  · rw [unquote_of_not_text hplain]
    exact .value (fun s h => absurd h (hplain s)) (.plain hplain)
  · obtain ⟨s, rfl⟩ := Classical.not_forall_not.mp hplain
    have hdecode := gives_decodeAs locale .malformedText s
    show Gives _ _ (decodeAs locale .malformedText s)
    generalize decodeAs locale .malformedText s = outcome at hdecode ⊢
    cases hdecode with
    | value hc hv =>
      refine .value ?_ (.quoted hv)
      rintro s' ⟨⟩
      exact hc
    | lintError hc hnone =>
      refine .lintError ?_ ?_
      · rintro s' ⟨⟩
        exact hc
      · intro v hv
        cases hv with
        | quoted h => exact hnone v h
        | plain h => exact h s rfl
    | failure hc hne => exact .failure (fun h => hc (h s rfl)) hne

theorem gives_readDocument (locale : Text) (v : Json) :
    Gives True (fun m => LanguageModel.ofJson v = .ok m) (Source.readDocument locale v) := by
  unfold Source.readDocument
  cases LanguageModel.ofJson v with
  | ok m => exact .value trivial rfl
  | error problems => exact .lintError trivial (by simp)

/-- **Loading gives the model that the file holds**, a lint error when a contained file holds none, and another
failure when the file is not contained. -/
theorem gives_modelOf (batch : Batch) (locale : Text) :
    Gives (batch.read.Contained (batch.pathOf locale)) (batch.read.HoldsModel (batch.pathOf locale))
      (batch.modelOf locale) := by
  rw [modelOf_eq]
  have hsteps := (gives_textOf batch locale).bind (fun t t' h h' => Except.ok.inj (h.symm.trans h'))
    fun t => (gives_decodeAs locale (.malformedFile (batch.pathOf locale)) t).bind
      (fun v v' h h' => Except.ok.inj (h.symm.trans h'))
      fun v => (gives_unquote locale v).bind (fun w w' => Json.Unquotes.unique)
        fun w => gives_readDocument locale w
  -- the steps nest what they ask for; only the order in which it is asked is left to compare
  refine hsteps.congr ⟨fun h => ?_, fun h => ?_⟩
  · refine ⟨h.1, fun t ht => (h.2 t ht).1, fun t s ht hs => ?_⟩
    exact ((h.2 t ht).2 _ hs).1 s rfl
  · refine ⟨h.usable, fun t ht => ⟨h.sized t ht, fun v hv => ⟨?_, fun _ _ => trivial⟩⟩⟩
    rintro s rfl
    exact h.quoted_sized t s ht hv

/-- A locale has a report exactly when its file is contained. -/
theorem reportOf_eq_ok_iff :
    (∃ r, batch.reportOf locale = .ok r) ↔ batch.read.Contained (batch.pathOf locale) := by
  have hgives := gives_modelOf batch locale
  cases hm : batch.modelOf locale with
  | ok m =>
    rw [hm] at hgives
    cases hgives with
    | value hc _ => exact ⟨fun _ => hc, fun _ => ⟨_, reportOf_of_model hm⟩⟩
  | error failure =>
    rw [hm] at hgives
    cases hgives with
    | lintError hc _ => exact ⟨fun _ => hc, fun _ => ⟨_, reportOf_of_lintError hm⟩⟩
    | failure hc hne =>
      rw [reportOf_of_failure hm hne]
      refine ⟨?_, fun h => absurd h hc⟩
      rintro ⟨r, hr⟩
      cases hr

/-- What the report of a locale says about its file. -/
theorem reportOf_spec {r : Report} (h : batch.reportOf locale = .ok r) :
    (∃ m, batch.read.HoldsModel (batch.pathOf locale) m ∧ r = batch.linter.report m locale) ∨
      ((∀ m, ¬ batch.read.HoldsModel (batch.pathOf locale) m) ∧
        ∃ error : LintError, r = Report.failed locale (some error.message)) := by
  have hgives := gives_modelOf batch locale
  rcases reportOf_eq_ok h with ⟨m, hm, hr⟩ | ⟨error, hm, hr⟩
  · rw [hm] at hgives
    cases hgives with
    | value _ hholds => exact Or.inl ⟨m, hholds, hr⟩
  · rw [hm] at hgives
    cases hgives with
    | lintError _ hnone => exact Or.inr ⟨hnone, error, hr⟩
    | failure _ hne => exact absurd rfl (hne error)

/-- A text that stops decoding stops the batch: the failure is no lint error. -/
theorem reportOf_of_oversized {t : Text} {n : Nat} (husable : Path.Usable (batch.pathOf locale))
    (hread : batch.read.text (batch.pathOf locale) = .ok t)
    (hover : Json.decode t = .error (.oversizedInteger n)) :
    batch.reportOf locale = .error (.oversizedInteger n) := by
  refine reportOf_of_failure ?_ (by simp)
  rw [modelOf_eq, textOf_of_text husable hread]
  simp only [decodeAs, hover, Except.bind]

/-- **What a batch contains.** Under valid settings and with a willing sink, the batch of a scope returns
exactly when the file of every locale on its list is contained. Then every locale on the list has a
report: that of the model in its file, or one with an error when the file holds no model. -/
theorem lintIn_returns_iff_contained {around : Surroundings} {settings : Settings} {sink? : Option Sink}
    (hload : Settings.load around = .ok settings) (hs : Sink.Willing sink?) (read : Reader)
    (linter : Linter) (scope : Scope) :
    ((∃ reports, (lintIn around read linter sink? scope).outcome = .ok reports) ↔
      ∀ locale ∈ scope.localesUnder settings,
        read.Contained (Path.ofModel (scope.modelsDirUnder settings) locale).text) ∧
    ∀ reports, (lintIn around read linter sink? scope).outcome = .ok reports →
      ∀ locale ∈ scope.localesUnder settings, ∃ r, Entries.get? locale reports = some r ∧
        ((∃ m, read.HoldsModel (Path.ofModel (scope.modelsDirUnder settings) locale).text m ∧
            (linter.lint none [] (.model m) locale).outcome = .ok r ∧ r.error = none) ∨
          ((∀ m, ¬ read.HoldsModel (Path.ofModel (scope.modelsDirUnder settings) locale).text m) ∧
            r.passed = false ∧ ∃ message, r.error = some message ∧ message ≠ [])) := by
  rw [outcome_lintIn hload]
  refine ⟨?_, fun reports h locale hl => ?_⟩
  · rw [lintAll_eq_ok_iff hs]
    simp only [reportOf_eq_ok_iff]
    rfl
  · obtain ⟨r, hget, hr⟩ := get?_of_lintAll hs h hl
    refine ⟨r, hget, ?_⟩
    rcases reportOf_spec hr with ⟨m, hholds, rfl⟩ | ⟨hnone, error, rfl⟩
    · refine Or.inl ⟨m, hholds, ?_, rfl⟩
      rw [Linter.lint_model]
      exact Linter.outcome_lintModel Sink.willing_none linter []
    · exact Or.inr ⟨hnone, rfl, error.message, rfl, error.message_ne_nil⟩

/-- A file that is not there is contained, and its locale has a report with an error. -/
theorem lintIn_missing_file :
    Settings.load ⟨[], none⟩ = .ok Settings.default ∧ Sink.Willing none ∧
      ∃ reports r, (lintIn ⟨[], none⟩ (fun _ => .error .notFound) Linter.standard none
          Scope.unnamed).outcome = .ok reports ∧
        Entries.get? ("en" : Text) reports = some r ∧ r.passed = false := by
  have hload : Settings.load ⟨[], none⟩ = .ok Settings.default := rfl
  have htext : ∀ path : Text, Reader.text (fun _ => .error .notFound) path =
      .error (.unopened .notFound) := fun _ => rfl
  have hspec := lintIn_returns_iff_contained hload Sink.willing_none (fun _ => .error .notFound)
    Linter.standard Scope.unnamed
  obtain ⟨reports, hreports⟩ := hspec.1.mpr fun locale hl => by
    cases List.mem_singleton.mp hl
    refine Reader.contained_of_short_rows usable_default ?_ ?_
    · intro t n ht
      rw [htext] at ht
      cases ht
    · intro t s n ht
      rw [htext] at ht
      cases ht
  obtain ⟨r, hget, hr⟩ := hspec.2 reports hreports ("en" : Text) (List.mem_singleton.mpr rfl)
  refine ⟨hload, Sink.willing_none, reports, r, hreports, hget, ?_⟩
  rcases hr with ⟨m, ⟨t, ht, -⟩, -, -⟩ | ⟨-, hpassed, -⟩
  · rw [htext] at ht
    cases ht
  · exact hpassed

/-- **One file can take the reports of all locales with it.** Its content is a row of digits; the file of the
other locale holds a model without intents. -/
theorem lintIn_oversized_file :
    Settings.load ⟨[], none⟩ = .ok Settings.default ∧
      (lintIn ⟨[], none⟩
        (fun path => .ok (Utf8.encode
          (if path = ("models/en.json" : Text) then List.replicate 4301 (CodePoint.ofChar '1')
            else plainModel)))
        Linter.standard none ⟨some [("en" : Text), ("de" : Text)], none⟩).outcome =
      .error (.oversizedInteger 4301) := by
  have hload : Settings.load ⟨[], none⟩ = .ok Settings.default := rfl
  refine ⟨hload, ?_⟩
  rw [outcome_lintIn hload]
  -- the content of the file stays a variable: nothing below should count its digits one by one
  have hfails : ∀ t : Text, Utf8.Scalar t → CodePoint.ofChar '\r' ∉ t →
      Json.decode t = .error (.oversizedInteger 4301) →
      ((ofScope (fun path => .ok (Utf8.encode (if path = ("models/en.json" : Text) then t
          else plainModel)))
        Linter.standard none ⟨some [("en" : Text), ("de" : Text)], none⟩ Settings.default).lintAll
          [("en" : Text), ("de" : Text)]).outcome = .error (.oversizedInteger 4301) := by
    intro t ht hr hover
    refine lintAll_eq_error Sink.willing_none [] [("de" : Text)]
      (fun l hl => absurd hl List.not_mem_nil) ?_
    have hfile : (Path.ofModel Settings.default.modelsDir ("en" : Text)).text =
        ("models/en.json" : Text) := by decide
    refine reportOf_of_oversized usable_default (Reader.text_of_octets ?_ ht hr) hover
    exact congrArg (fun content => Except.ok (Utf8.encode content)) (if_pos hfile)
  refine hfails (List.replicate 4301 (CodePoint.ofChar '1')) ?_ ?_ (Json.decode_replicate_one (by decide))
  · intro c hc
    rw [List.eq_of_mem_replicate hc]
    rfl
  · intro hc
    exact absurd (List.eq_of_mem_replicate hc) (by decide)

end Batch
end IntentLint

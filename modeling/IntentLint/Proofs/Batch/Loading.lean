import IntentLint.Proofs.Batch.Reports
import IntentLint.Proofs.Json.LineEnds
import IntentLint.Proofs.Text.Utf8

/-!
# `Proofs.Batch.Loading` — from a model file to a model, step by step

The model of a locale is reached in four steps: the text of its file, the document that the text writes, the
document that is quoted when the first one is itself a text, and the model in it. `modelOf_eq` puts them in a
row. The two steps that decode are one function, `decodeAs`, and differ in what they blame for a malformed
text; lint a text without a file and only the second of them is left (`read_text_eq`).

The first two steps together decode the text that was written to the file, whatever its line ends
(`loadModel_decodes`).
-/

namespace IntentLint

/-! ## Paths -/

/-- A text that can be handed to the file system: it has no null, and every surrogate in it stands for an
octet. -/
def Path.Usable (path : Text) : Prop :=
  ∀ c ∈ path, c.val ≠ 0 ∧ (c.isSurrogate = true → c.isRawOctet = true)

theorem PathFault.surrogatesFrom?_eq_none_iff {position : Nat} {t : Text} :
    surrogatesFrom? position t = none ↔ ∀ c ∈ t, c.isSurrogate = true → c.isRawOctet = true := by
  induction t generalizing position with
  | nil => simp [surrogatesFrom?]
  | cons c rest ih =>
    unfold surrogatesFrom?
    by_cases hc : c.isSurrogate = true → c.isRawOctet = true
    · have hnot : (c.isSurrogate && !c.isRawOctet) = false := by
        cases hs : c.isSurrogate with
        | false => rfl
        | true => rw [hc hs]; rfl
      rw [hnot, if_neg Bool.false_ne_true, ih]
      exact ⟨fun h d hd => (List.mem_cons.mp hd).elim (fun he => he ▸ hc) (h d),
        fun h d hd => h d (List.mem_cons_of_mem _ hd)⟩
    · have hyes : (c.isSurrogate && !c.isRawOctet) = true := by
        cases hs : c.isSurrogate with
        | false => exact absurd (fun h => absurd (hs ▸ h) Bool.false_ne_true) hc
        | true =>
          cases hr : c.isRawOctet with
          | false => rfl
          | true => exact absurd (fun _ => hr) hc
      rw [if_pos hyes]
      refine ⟨fun h => ?_, fun h => absurd (h c List.mem_cons_self) hc⟩
      cases h

/-- A path has no fault exactly when it is usable. -/
theorem PathFault.ofText?_eq_none_iff {path : Text} : ofText? path = none ↔ Path.Usable path := by
  unfold ofText? Path.Usable
  rw [Option.or_eq_none_iff, surrogatesFrom?_eq_none_iff]
  have hnull : (if path.any (·.val = 0) then some PathFault.embeddedNull else none) = none ↔
      ∀ c ∈ path, c.val ≠ 0 := by
    simp
  rw [hnull]
  exact ⟨fun h c hc => ⟨h.2 c hc, h.1 c hc⟩, fun h => ⟨fun c hc => (h c hc).2, fun c hc => (h c hc).1⟩⟩

/-! ## Steps -/

namespace Batch

variable {batch : Batch} {locale : Text}

/-- The path of the model file of a locale. -/
def pathOf (batch : Batch) (locale : Text) : Text := (Path.ofModel batch.modelsDir locale).text

/-- The text of the model file of a locale. -/
def textOf (batch : Batch) (locale : Text) : Except Failure Text :=
  match PathFault.ofText? (batch.pathOf locale) with
  | some fault => .error (.unusablePath fault)
  | none =>
    match batch.read.text (batch.pathOf locale) with
    | .error fault => .error (.lint ⟨locale, .unreadableFile (batch.pathOf locale) fault⟩)
    | .ok t => .ok t

/-- The document that a text writes; `cause` says what a malformed text is blamed for. -/
def decodeAs (locale : Text) (cause : Json.Fault → Position → LintCause) (t : Text) :
    Except Failure Json :=
  match Json.decode t with
  | .ok v => .ok v
  | .error (.malformed fault position) => .error (.lint ⟨locale, cause fault position⟩)
  | .error (.oversizedInteger digits) => .error (.oversizedInteger digits)

/-- A document, or the one that is quoted in it when it is a text. -/
def unquote (locale : Text) : Json → Except Failure Json
  | .text s => decodeAs locale .malformedText s
  | v => .ok v

theorem unquote_of_not_text {v : Json} (h : ∀ s, v ≠ .text s) : unquote locale v = .ok v := by
  cases v with
  | text s => exact absurd rfl (h s)
  | _ => rfl

/-- To read the text of a document is to decode it once and to read the document. -/
theorem read_text_eq (locale t : Text) :
    (Source.text t).read locale = (decodeAs locale .malformedText t).bind (Source.readDocument locale) := by
  cases h : Json.decode t with
  | ok v => simp only [Source.read, decodeAs, h, Except.bind]
  | error error => cases error <;> simp only [Source.read, decodeAs, h, Except.bind]

/-- To read a document as a source is to unquote it first. -/
theorem read_ofJson_eq (locale : Text) (v : Json) :
    (Source.ofJson v).read locale = (unquote locale v).bind (Source.readDocument locale) := by
  cases v with
  | text s => exact read_text_eq locale s
  | _ => rfl

theorem loadModel_eq (batch : Batch) (locale : Text) :
    loadModel batch.read batch.modelsDir locale =
      (batch.textOf locale).bind (decodeAs locale (.malformedFile (batch.pathOf locale))) := by
  simp only [loadModel, textOf, pathOf]
  cases PathFault.ofText? (Path.ofModel batch.modelsDir locale).text with
  | some fault => rfl
  | none =>
    cases batch.read.text (Path.ofModel batch.modelsDir locale).text with
    | error fault => rfl
    | ok t => rfl

/-- **The steps from a file to its model.** -/
theorem modelOf_eq (batch : Batch) (locale : Text) :
    batch.modelOf locale =
      (batch.textOf locale).bind fun t =>
        (decodeAs locale (.malformedFile (batch.pathOf locale)) t).bind fun v =>
          (unquote locale v).bind (Source.readDocument locale) := by
  show (loadModel batch.read batch.modelsDir locale).bind (fun v => (Source.ofJson v).read locale) = _
  rw [loadModel_eq]
  cases batch.textOf locale with
  | error failure => rfl
  | ok t => exact congrArg _ (funext fun v => read_ofJson_eq locale v)

theorem textOf_of_text {t : Text} (hpath : Path.Usable (batch.pathOf locale))
    (hread : batch.read.text (batch.pathOf locale) = .ok t) : batch.textOf locale = .ok t := by
  unfold textOf
  rw [PathFault.ofText?_eq_none_iff.mpr hpath, hread]

theorem decodeAs_of_ok {cause : Json.Fault → Position → LintCause} {t : Text} {v : Json}
    (h : Json.decode t = .ok v) : decodeAs locale cause t = .ok v := by
  unfold decodeAs
  rw [h]

section Outcomes

variable {cause : Json.Fault → Position → LintCause} {t : Text}

theorem decodeAs_eq_ok_iff {v : Json} : decodeAs locale cause t = .ok v ↔ Json.decode t = .ok v := by
  refine ⟨fun h => ?_, decodeAs_of_ok⟩
  unfold decodeAs at h
  split at h
  · next w hw =>
    cases h
    exact hw
  · cases h
  · cases h

/-- A lint error tells of a malformed text, and of nothing else. -/
theorem decodeAs_eq_lintError_iff {error : LintError} :
    decodeAs locale cause t = .error (.lint error) ↔
      ∃ fault position, Json.decode t = .error (.malformed fault position) ∧
        error = ⟨locale, cause fault position⟩ := by
  constructor
  · intro h
    unfold decodeAs at h
    split at h
    · cases h
    · next fault position hdecode =>
      cases h
      exact ⟨fault, position, hdecode, rfl⟩
    · cases h
  · rintro ⟨fault, position, hdecode, rfl⟩
    unfold decodeAs
    rw [hdecode]

theorem decodeAs_eq_oversized_iff {digits : Nat} :
    decodeAs locale cause t = .error (.oversizedInteger digits) ↔
      Json.decode t = .error (.oversizedInteger digits) := by
  constructor
  · intro h
    unfold decodeAs at h
    split at h
    · cases h
    · cases h
    · next hdecode =>
      cases h
      exact hdecode
  · intro h
    unfold decodeAs
    rw [h]

end Outcomes

/-! ## A small file -/

/-- The path of the first model under the default settings. -/
theorem usable_default : Path.Usable (Path.ofModel Settings.default.modelsDir "en").text :=
  PathFault.ofText?_eq_none_iff.mp (by decide)

/-- The text of a model without intents. -/
def plainModel : Text := "\x7b\"intents\": \x7b\x7d\x7d"

theorem scalar_plainModel : Utf8.Scalar plainModel := by
  unfold Utf8.Scalar
  decide

/-- What a text is read as can be computed, although documents have no decidable equality. -/
theorem exists_of_readAs {α : Type} {read : Json → Reading α} {t : Text} {a : α}
    (h : ((Json.decode t).toOption.bind fun v => (read v).toOption) = some a) :
    ∃ v, Json.decode t = .ok v ∧ read v = .ok a := by
  obtain ⟨v, hv, ha⟩ := Option.bind_eq_some_iff.mp h
  refine ⟨v, ?_, ?_⟩
  · cases hdecode : Json.decode t with
    | ok w =>
      rw [hdecode] at hv
      cases hv
      rfl
    | error error =>
      rw [hdecode] at hv
      cases hv
  · cases hread : read v with
    | ok b =>
      rw [hread] at ha
      cases ha
      rfl
    | error problems =>
      rw [hread] at ha
      cases ha

theorem exists_decode_plainModel :
    ∃ v, Json.decode plainModel = .ok v ∧ LanguageModel.ofJson v = .ok ⟨[], none⟩ :=
  exists_of_readAs (by decide +kernel)

theorem modelOf_plainModel (husable : Path.Usable (batch.pathOf locale))
    (hread : batch.read (batch.pathOf locale) = .ok (Utf8.encode plainModel)) :
    batch.modelOf locale = .ok ⟨[], none⟩ := by
  obtain ⟨v, hdecode, hmodel⟩ := exists_decode_plainModel
  have htext := Reader.text_of_octets hread scalar_plainModel (by decide)
  have hplain : ∀ s, v ≠ .text s := by
    rintro s rfl
    cases hmodel
  rw [modelOf_eq, textOf_of_text husable htext]
  simp only [Except.bind, decodeAs_of_ok hdecode, unquote_of_not_text hplain, Source.readDocument, hmodel]
  rfl

/-- Files of which only the English one is there. Its model has one phrase, which starts with a blank. -/
def blankEnglish : Reader := fun path =>
  if path = (Path.ofModel Settings.default.modelsDir "en").text then
    .ok (Utf8.encode "\x7b\"intents\": \x7b\"A\": \x7b\"phrases\": [\" x\"]\x7d\x7d\x7d")
  else .error .notFound

/-! ## Line ends -/

section LineEnds

variable {read : Reader} {modelsDir : Text} {t : Text}

theorem loadModel_of_encode (husable : Path.Usable (Path.ofModel modelsDir locale).text)
    (hread : read (Path.ofModel modelsDir locale).text = .ok (Utf8.encode t)) (ht : Utf8.Scalar t) :
    loadModel read modelsDir locale =
      decodeAs locale (.malformedFile (Path.ofModel modelsDir locale).text) t.unixLines := by
  simp only [loadModel, PathFault.ofText?_eq_none_iff.mpr husable, Reader.text_of_encode hread ht]
  rfl

/-- The message for a malformed file starts like this whatever the fault. -/
theorem cannotParse_prefix_message (locale path : Text) (fault : Json.Fault) (position : Position) :
    ("Cannot parse '" : Text) <+: LintError.message ⟨locale, .malformedFile path fault position⟩ := by
  show ("Cannot parse '" : Text) <+:
    "Cannot parse '" ++ locale ++ "' model at " ++ path ++ ": " ++ fault.message position
  simp only [List.append_assoc]
  exact List.prefix_append _ _

/-- **Reading through a file does not change what is decoded**, whatever the line ends. A file with the octets of a
text gives the document that the text writes. It cannot be parsed just when the text is malformed, for the same
fault, and it has an integer with too many digits just when the text has it. -/
theorem loadModel_decodes (husable : Path.Usable (Path.ofModel modelsDir locale).text)
    (hread : read (Path.ofModel modelsDir locale).text = .ok (Utf8.encode t)) (ht : Utf8.Scalar t) :
    (∀ v, loadModel read modelsDir locale = .ok v ↔ Json.decode t = .ok v) ∧
      ((∃ error, loadModel read modelsDir locale = .error (.lint error) ∧
          ("Cannot parse '" : Text) <+: error.message) ↔
        ∃ fault position, Json.decode t = .error (.malformed fault position)) ∧
      (∀ fault,
        (∃ position, loadModel read modelsDir locale =
          .error (.lint ⟨locale, .malformedFile (Path.ofModel modelsDir locale).text fault position⟩)) ↔
        ∃ position, Json.decode t = .error (.malformed fault position)) ∧
      ∀ digits, loadModel read modelsDir locale = .error (.oversizedInteger digits) ↔
        Json.decode t = .error (.oversizedInteger digits) := by
  have hsame := Json.decode_unixLines t
  rw [loadModel_of_encode husable hread ht]
  refine ⟨fun v => ?_, ?_, fun fault => ?_, fun digits => ?_⟩
  · exact decodeAs_eq_ok_iff.trans (hsame.eq_ok_iff v)
  · constructor
    · rintro ⟨error, herror, -⟩
      obtain ⟨fault, position, hdecode, -⟩ := decodeAs_eq_lintError_iff.mp herror
      exact ⟨fault, (hsame.exists_malformed_iff fault).mp ⟨position, hdecode⟩⟩
    · rintro ⟨fault, hfault⟩
      obtain ⟨position, hdecode⟩ := (hsame.exists_malformed_iff fault).mpr hfault
      exact ⟨_, decodeAs_eq_lintError_iff.mpr ⟨fault, position, hdecode, rfl⟩, cannotParse_prefix_message ..⟩
  · rw [← hsame.exists_malformed_iff fault]
    constructor
    · rintro ⟨position, herror⟩
      obtain ⟨fault', position', hdecode, heq⟩ := decodeAs_eq_lintError_iff.mp herror
      cases heq
      exact ⟨position, hdecode⟩
    · rintro ⟨position, hdecode⟩
      exact ⟨position, decodeAs_eq_lintError_iff.mpr ⟨fault, position, hdecode, rfl⟩⟩
  · exact decodeAs_eq_oversized_iff.trans (hsame.eq_oversized_iff digits)

/-- The text of a model without intents, over four lines. Two of them end with a carriage return alone. -/
def returnedModel : Text := "\x7b\r\n\"intents\":\r\x7b\x7d\r\x7d"

theorem loadModel_decodes_returnedModel :
    ∃ v, loadModel (fun _ => .ok (Utf8.encode returnedModel)) Settings.default.modelsDir "en" = .ok v ∧
      LanguageModel.ofJson v = .ok ⟨[], none⟩ := by
  let read : Reader := fun _ => .ok (Utf8.encode returnedModel)
  have hread : read (Path.ofModel Settings.default.modelsDir "en").text = .ok (Utf8.encode returnedModel) := rfl
  have hscalar : Utf8.Scalar returnedModel := by
    unfold Utf8.Scalar
    decide
  obtain ⟨v, hdecode, hmodel⟩ : ∃ v, Json.decode returnedModel = .ok v ∧ LanguageModel.ofJson v = .ok ⟨[], none⟩ :=
    exists_of_readAs (by decide +kernel)
  exact ⟨v, ((loadModel_decodes usable_default hread hscalar).1 v).mpr hdecode, hmodel⟩

end LineEnds

end Batch
end IntentLint

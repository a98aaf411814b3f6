import IntentLint.Problem

/-!
# `Finding` — what a check has found

A finding names its kind by a code, says in a sentence what is wrong, and carries the text that is wrong and
the intent or entity type it belongs to.
-/

namespace IntentLint

/-- The kinds of findings. -/
inductive Code where
  | duplicatePhrase
  | duplicateEntityValue
  | duplicateEntitySynonym
  | whitespacePhrase
  | whitespaceEntityValue
  | whitespaceEntitySynonym
  | bracketMissingClosing
  | bracketMissingOpening
deriving DecidableEq

namespace Code

/-- Every code, in the order in which messages list them. -/
def all : List Code :=
  [.duplicatePhrase, .duplicateEntityValue, .duplicateEntitySynonym, .whitespacePhrase,
   .whitespaceEntityValue, .whitespaceEntitySynonym, .bracketMissingClosing, .bracketMissingOpening]

/-- The name of a code in reports. -/
def name : Code → Text
  | .duplicatePhrase => "DUPLICATE_PHRASE"
  | .duplicateEntityValue => "DUPLICATE_ENTITY_VALUE"
  | .duplicateEntitySynonym => "DUPLICATE_ENTITY_SYNONYM"
  | .whitespacePhrase => "WHITESPACE_PHRASE"
  | .whitespaceEntityValue => "WHITESPACE_ENTITY_VALUE"
  | .whitespaceEntitySynonym => "WHITESPACE_ENTITY_SYNONYM"
  | .bracketMissingClosing => "BRACKET_MISSING_CLOSING"
  | .bracketMissingOpening => "BRACKET_MISSING_OPENING"

/-- The code with a name. -/
def ofName? (name : Text) : Option Code := all.find? fun code => code.name = name

/-- Reads a code. -/
def ofJson (v : Json) : Reading Code :=
  match v with
  | .text t =>
    match ofName? t with
    | some code => .ok code
    | none => Reading.refuse (.notOneOf (all.map name))
  | _ => Reading.refuse (.notOneOf (all.map name))

end Code

/-- One thing that a check has found in a model. -/
structure Finding where
  code : Code
  locale : Text
  /-- The sentence, without the mark that starts a line. -/
  message : Text
  /-- The phrase, value or synonym. -/
  text : Text
  intent : Option Text
  entityType : Option Text
deriving DecidableEq

namespace Finding

/-- The mark at the start of a finding's line. -/
def mark : Text := "🔺 Warning: "

/-- The line of a finding. -/
def line (f : Finding) : Text := mark ++ f.message

/-- The message about a finding whose locale is an empty list in place of a name. -/
def unnamedMessage : Text :=
  "1 validation error for " ++ RecordKind.finding.name ++ "\nlocale\n  " ++ Defect.notText.words ++
  " [type=string_type, input_value=[], input_type=list]\n    For further information visit " ++
  Text.join "/" ["https:", "", "errors.pydantic.dev", "2.14", "v", "string_type"]

/-- The document of a finding. -/
def toJson (f : Finding) : Json :=
  .object [("code", .text f.code.name), ("locale", .text f.locale), ("message", .text f.message),
    ("text", .text f.text), ("intent", (f.intent.map Json.text).getD .null),
    ("entity_type", (f.entityType.map Json.text).getD .null)]

/-- Reads a finding. -/
def ofJson : Json → Reading Finding
  | .object members =>
    (Reading.both (Reading.required "code" Code.ofJson members)
      (Reading.both (Reading.required "locale" Reading.text members)
        (Reading.both (Reading.required "message" Reading.text members)
          (Reading.both (Reading.required "text" Reading.text members)
            (Reading.both (Reading.possible "intent" Reading.text members)
              (Reading.possible "entity_type" Reading.text members)))))).map
      fun (code, locale, message, text, intent, entityType) =>
        ⟨code, locale, message, text, intent, entityType⟩
  | _ => Reading.refuse (.notRecord .finding)

end Finding
end IntentLint

import IntentLint.Finding

/-!
# `Report` — what a run over one locale comes to

A report passes when nothing was found and every check ran. Its summary counts the findings by code, codes in
the order of their first finding. A locale whose model could not be linted has a report with an error and
nothing else.
-/

namespace IntentLint

/-- The report of one locale. -/
structure Report where
  locale : Text
  passed : Bool
  summary : List (Code × Nat)
  findings : List Finding
  /-- The names of the checks that broke down. -/
  failedChecks : List Text
  error : Option Text
deriving DecidableEq

namespace Report

/-- The number of findings of each code, codes in the order of their first finding. -/
def summarize (findings : List Finding) : List (Code × Nat) :=
  findings.foldl (fun counts f => Entries.put f.code ((Entries.get? f.code counts).getD 0 + 1) counts) []

/-- The report of a run. -/
def build (locale : Text) (findings : List Finding) (failedChecks : List Text) : Report :=
  { locale := locale
    passed := findings.isEmpty && failedChecks.isEmpty
    summary := summarize findings
    findings := findings
    failedChecks := failedChecks
    error := none }

/-- The report of a locale whose model could not be linted; `none` leaves the reason open. -/
def failed (locale : Text) (error : Option Text) : Report :=
  { locale := locale, passed := false, summary := [], findings := [], failedChecks := [], error := error }

/-- The report has an error with a message. -/
def hasError (r : Report) : Bool :=
  match r.error with
  | none => false
  | some message => !message.isEmpty

/-- The lines of the findings. -/
def lines (r : Report) : List Text := r.findings.map Finding.line

/-! ## Documents -/

/-- The counts of a summary as an object. -/
def summaryJson (summary : List (Code × Nat)) : Json :=
  .object (summary.map fun (code, n) => (code.name, .number (.integer n)))

/-- The document of a report. -/
def toJson (r : Report) : Json :=
  .object [("locale", .text r.locale), ("passed", .bool r.passed), ("summary", summaryJson r.summary),
    ("warnings", .array (r.findings.map Finding.toJson)),
    ("failed_validators", .array (r.failedChecks.map Json.text)),
    ("error", (r.error.map Json.text).getD .null)]

/-- What has no items. -/
inductive Itemless where
  | boolean
  | integer
  | decimal
deriving DecidableEq

/-- The message about what has no items. -/
def Itemless.message (kind : Itemless) : Text :=
  "'" ++ (match kind with
    | .boolean => "bool"
    | .integer => "int"
    | .decimal => "float") ++ "' object is not iterable"

/-- The items of a document. Null, no and zero have none; those of a text are its code points, and those of an
object its names. -/
def items : Json → Except Itemless (List Json)
  | .null => .ok []
  | .bool value => if value then .error .boolean else .ok []
  | .number (.integer n) => if Number.isZero (.integer n) then .ok [] else .error .integer
  | .number n => if n.isZero then .ok [] else .error .decimal
  | .text t => .ok (t.map fun c => .text [c])
  | .array vs => .ok vs
  | .object members => .ok (members.map fun (name, _) => .text name)

/-- Builds a report from parts that are still documents. -/
def buildFrom (locale : Json) (findings : List Finding) (failedChecks : List Json) : Reading Report :=
  (Reading.both ((Reading.text locale).under (.member "locale"))
    ((Reading.list Reading.text (.array failedChecks)).under (.member "failed_validators"))).map
    fun (locale, failedChecks) => build locale findings failedChecks

/-- Builds the report of a failure from parts that are still documents. -/
def failedFrom (locale error : Json) : Reading Report :=
  (Reading.both ((Reading.text locale).under (.member "locale"))
    ((Reading.optional Reading.text error).under (.member "error"))).map
    fun (locale, error) => failed locale error

end Report
end IntentLint

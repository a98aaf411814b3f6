import IntentLint.Check.Basic

/-!
# `Check.Bracket` — variables in phrases

A phrase marks a variable by an opening and a closing brace. Variables do not nest, so going through a phrase
one is either inside a variable or outside.
-/

namespace IntentLint

/-- Which brace of a variable is missing. -/
inductive BracketFault where
  | missingClosing
  | missingOpening
deriving DecidableEq

namespace BracketFault

/-- The code of a fault. -/
def code : BracketFault → Code
  | .missingClosing => .bracketMissingClosing
  | .missingOpening => .bracketMissingOpening

/-- What the missing brace does. -/
def words : BracketFault → Text
  | .missingClosing => "closing"
  | .missingOpening => "opening"

end BracketFault

/-- The first fault in the rest of a phrase, which starts inside a variable or outside. -/
def bracketFaultFrom (inside : Bool) : Text → Option BracketFault
  | [] => if inside then some .missingClosing else none
  | c :: rest =>
    if c = '{' then (if inside then some .missingClosing else bracketFaultFrom true rest)
    else if c = '}' then (if inside then bracketFaultFrom false rest else some .missingOpening)
    else bracketFaultFrom inside rest

/-- The first fault in a phrase. -/
def bracketFault? (phrase : Text) : Option BracketFault := bracketFaultFrom false phrase

/-- The finding of a phrase with a fault. -/
def LanguageModel.Phrase.bracket (locale : Text) (p : Phrase) (fault : BracketFault) : Finding :=
  { code := fault.code
    locale := locale
    message := "missing " ++ fault.words ++ " bracket in phrase '" ++ p.text ++ "' in intent '" ++
      p.intent ++ "' in '" ++ locale ++ "' model. "
    text := p.text
    intent := some p.intent
    entityType := none }

/-- The phrases with a fault. -/
def bracketFaults (m : LanguageModel) (locale : Text) : List Finding :=
  m.phrases.filterMap fun p => (bracketFault? p.text).map (p.bracket locale)

/-- The braces of every phrase must pair up. -/
def Check.bracket : Check := .ofFindings "BracketValidator" bracketFaults

end IntentLint

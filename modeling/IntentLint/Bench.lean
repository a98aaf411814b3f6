import IntentLint.Linter

/-!
# `Bench` — a linter that is used again and again

Between two runs a linter may be given one more check or be relieved of some. Its sink keeps the findings that
it accepted, from run to run. A run adds to what the sink holds, also when it ends half way; the checks stay
as they are.
-/

namespace IntentLint

/-- A linter in use, and the findings that its sink holds. -/
structure Bench where
  linter : Linter
  held : List Finding

/-- What a linter in use is asked for. -/
inductive Request where
  | add (check : Check)
  | remove (name : Text)
  | lint (sink? : Option Sink) (source : Source) (locale : Text)

namespace Bench

/-- The run that a request leads to, if it asks for one. -/
def run? (bench : Bench) : Request → Option (Run Report)
  | .lint sink? source locale => some (bench.linter.lint sink? bench.held source locale)
  | _ => none

/-- The bench after a request. -/
def after (bench : Bench) : Request → Bench
  | .add check => { bench with linter := bench.linter.add check }
  | .remove name => { bench with linter := bench.linter.remove name }
  | .lint sink? source locale =>
    { bench with
      held := bench.held ++ (bench.linter.lint sink? bench.held source locale).delivered }

/-- The runs that requests lead to, one after the other. -/
def runs (bench : Bench) : List Request → List (Run Report)
  | [] => []
  | request :: rest => (bench.run? request).toList ++ (bench.after request).runs rest

end Bench
end IntentLint

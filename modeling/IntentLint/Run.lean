import IntentLint.Failure
import IntentLint.Log.Entry

/-!
# `Run` — what happens in a run, and how it ends

A run delivers findings, logs entries and notes what it passes over in the settings file, in one order, and
ends with a result or with a failure. What follows a failure does not happen; what came before it stays.

A sink accepts findings one by one or refuses one. What it does may depend on the findings it already holds.
-/

namespace IntentLint

/-- Something that happens in a run. -/
inductive Event where
  | delivered (finding : Finding)
  | logged (entry : LogEntry)
  /-- The statement that starts in a line of the settings file cannot be read. -/
  | skipped (line : Nat)
deriving DecidableEq

/-- What happens in a run, and how it ends. -/
structure Run (α : Type) where
  events : List Event
  outcome : Except Failure α

namespace Run

/-- The run in which nothing happens. -/
def done (a : α) : Run α := ⟨[], .ok a⟩

/-- The run that fails at once. -/
def fail (failure : Failure) : Run α := ⟨[], .error failure⟩

/-- The run that has a result or fails at once. -/
def ofExcept (outcome : Except Failure α) : Run α := ⟨[], outcome⟩

/-- The run that logs an entry. -/
def log (entry : LogEntry) : Run Unit := ⟨[.logged entry], .ok ()⟩

/-- The run that notes unreadable statements of the settings file. -/
def skip (lines : List Nat) : Run Unit := ⟨lines.map .skipped, .ok ()⟩

/-- One run, and then another with its result. -/
def andThen (r : Run α) (next : α → Run β) : Run β :=
  match r.outcome with
  | .ok a => ⟨r.events ++ (next a).events, (next a).outcome⟩
  | .error failure => ⟨r.events, .error failure⟩

instance : Monad Run where
  pure := done
  bind := andThen

/-- A run that answers a lint error with another run. -/
def catchLint (r : Run α) (handle : LintError → Run α) : Run α :=
  match r.outcome with
  | .error (.lint error) => ⟨r.events ++ (handle error).events, (handle error).outcome⟩
  | _ => r

/-- The findings delivered in a run. -/
def delivered (r : Run α) : List Finding :=
  r.events.filterMap fun
    | .delivered finding => some finding
    | _ => none

/-- The text of a stream to which each finding is written as a line when it is delivered. -/
def streamed (r : Run α) : Text := r.delivered.flatMap fun f => f.line.line

/-- The entries logged in a run. -/
def logged (r : Run α) : List LogEntry :=
  r.events.filterMap fun
    | .logged entry => some entry
    | _ => none

end Run

/-! ## Sinks -/

/-- Accepts or refuses a finding, given the findings held so far. -/
abbrev Sink := List Finding → Finding → Except Failure Unit

namespace Sink

/-- The sink that accepts every finding. -/
def accepting : Sink := fun _ _ => .ok ()

/-- The sink that is full with a number of findings. -/
def holding (limit : Nat) (message : Text) : Sink := fun held _ =>
  if held.length < limit then .ok () else .error (.refused message)

/-- Delivers findings one by one to a sink that holds some already, up to the first refusal. -/
def deliver (sink : Sink) (held : List Finding) : List Finding → Run Unit
  | [] => .done ()
  | f :: rest =>
    match sink held f with
    | .error failure => .fail failure
    | .ok () => (Run.mk [.delivered f] (.ok ())).andThen fun _ => deliver sink (held ++ [f]) rest

/-- Delivers findings to a sink, if there is one. -/
def deliverTo (sink? : Option Sink) (held findings : List Finding) : Run Unit :=
  match sink? with
  | some sink => sink.deliver held findings
  | none => .done ()

end Sink
end IntentLint

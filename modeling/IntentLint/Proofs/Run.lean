import IntentLint.Run

/-!
# `Proofs.Run` — how runs compose

A run followed by another ends as the first does when that one fails, and else as the second. So the outcome
of a composed run is read off the outcomes of its parts, without its events; and a run whose events are known
is followed by the events of the next one, or by nothing.

A sink *takes* findings when it accepts each of them, after those before it. Delivery then hands over every
finding (`deliverTo_of_takes`), and else the findings before the first refusal (`deliver_of_refusal`). One of
the two is the case (`takes_or_refuses`). A sink is *willing* when it refuses nothing at all; one that does
refuse ends a run, unless it passes its refusal off as a lint error (`NoLintError`).
-/

namespace IntentLint

variable {α β : Type}

namespace Run

/-! ## Outcomes -/

/-- **The outcome of a composed run.** Events play no part in it. -/
@[simp] theorem outcome_bind (r : Run α) (next : α → Run β) :
    (r >>= next).outcome = r.outcome.bind fun a => (next a).outcome := by
  show (r.andThen next).outcome = _
  unfold andThen
  cases r.outcome <;> rfl

theorem andThen_eq_bind (r : Run α) (next : α → Run β) : r.andThen next = r >>= next := rfl

@[simp] theorem outcome_pure (a : α) : (pure a : Run α).outcome = .ok a := rfl

@[simp] theorem outcome_ofExcept (outcome : Except Failure α) : (ofExcept outcome).outcome = outcome := rfl

@[simp] theorem outcome_log (entry : LogEntry) : (log entry).outcome = .ok () := rfl

@[simp] theorem outcome_skip (lines : List Nat) : (skip lines).outcome = .ok () := rfl

/-- A composed run succeeds when its first part does and then the second. -/
theorem outcome_bind_eq_ok {r : Run α} {next : α → Run β} {b : β} :
    (r >>= next).outcome = .ok b ↔ ∃ a, r.outcome = .ok a ∧ (next a).outcome = .ok b := by
  rw [outcome_bind]
  cases h : r.outcome with
  | ok a => simp [Except.bind]
  | error failure => simp [Except.bind]

/-- A run that does not end with a lint error has nothing to answer. -/
theorem catchLint_of_ne {r : Run α} (h : ∀ error, r.outcome ≠ .error (.lint error))
    (handle : LintError → Run α) : r.catchLint handle = r := by
  unfold catchLint
  split
  · next error hr => exact absurd hr (h error)
  · rfl

/-! ## Events -/

/-- What follows a run that succeeds is added to its events. -/
theorem ok_bind (events : List Event) (a : α) (next : α → Run β) :
    (Run.mk events (.ok a) >>= next) = ⟨events ++ (next a).events, (next a).outcome⟩ := rfl

/-- Nothing follows a run that fails. -/
theorem error_bind (events : List Event) (failure : Failure) (next : α → Run β) :
    (Run.mk events (.error failure) >>= next) = ⟨events, .error failure⟩ := rfl

theorem ofExcept_ok_bind (a : α) (next : α → Run β) : (ofExcept (.ok a) >>= next) = next a := rfl

theorem ofExcept_error_bind (failure : Failure) (next : α → Run β) :
    (ofExcept (.error failure) >>= next) = fail failure := rfl

end Run

/-- The finding that an event delivers. -/
def Event.finding? : Event → Option Finding
  | .delivered finding => some finding
  | _ => none

/-- The entry that an event logs. -/
def Event.entry? : Event → Option LogEntry
  | .logged entry => some entry
  | _ => none

namespace Run

theorem delivered_eq (r : Run α) : r.delivered = r.events.filterMap Event.finding? := rfl

theorem logged_eq (r : Run α) : r.logged = r.events.filterMap Event.entry? := rfl

theorem events_bind_of_ok {r : Run α} {a : α} (h : r.outcome = .ok a) (next : α → Run β) :
    (r >>= next).events = r.events ++ (next a).events := by
  obtain ⟨events, outcome⟩ := r
  cases h
  rfl

theorem events_bind_of_error {r : Run α} {failure : Failure} (h : r.outcome = .error failure)
    (next : α → Run β) : (r >>= next).events = r.events := by
  obtain ⟨events, outcome⟩ := r
  cases h
  rfl

/-- What follows a run that succeeds delivers on top of it. -/
theorem delivered_bind_of_ok {r : Run α} {a : α} (h : r.outcome = .ok a) (next : α → Run β) :
    (r >>= next).delivered = r.delivered ++ (next a).delivered := by
  rw [delivered_eq, events_bind_of_ok h]
  exact List.filterMap_append

@[simp] theorem delivered_log (entry : LogEntry) : (log entry).delivered = [] := rfl

@[simp] theorem delivered_pure (a : α) : (pure a : Run α).delivered = [] := rfl

/-- The run ends with a result, and has delivered some findings. -/
structure Yields (r : Run α) (a : α) (findings : List Finding) : Prop where
  outcome : r.outcome = .ok a
  delivered : r.delivered = findings

end Run

/-! ## Sinks -/

namespace Sink

/-- The sink, if there is one, refuses nothing. -/
def Willing (sink? : Option Sink) : Prop :=
  ∀ sink ∈ sink?, ∀ held finding, sink held finding = .ok ()

theorem willing_none : Willing none := by
  intro sink h
  cases h

theorem willing_accepting : Willing (some accepting) := by
  intro sink h held finding
  cases h
  rfl

/-- The sink, if there is one, refuses no finding with a lint error. -/
def NoLintError (sink? : Option Sink) : Prop :=
  ∀ sink ∈ sink?, ∀ held finding error, sink held finding ≠ .error (.lint error)

/-- The sink, if there is one, accepts findings one after the other, on top of those that it holds. -/
def Takes (sink? : Option Sink) (held findings : List Finding) : Prop :=
  ∀ sink ∈ sink?, ∀ accepted f later, findings = accepted ++ f :: later →
    sink (held ++ accepted) f = .ok ()

variable {sink? : Option Sink} {sink : Sink} {held : List Finding}

theorem Willing.takes (hs : Willing sink?) (held findings : List Finding) : Takes sink? held findings :=
  fun sink hsink accepted f _ _ => hs sink hsink (held ++ accepted) f

theorem Willing.noLintError (hs : Willing sink?) : NoLintError sink? := by
  intro sink hsink held finding error h
  rw [hs sink hsink held finding] at h
  cases h

theorem takes_nil : Takes sink? held [] := by
  intro sink _ accepted f later h
  simp at h

/-- What is accepted in two parts is accepted as a whole, and the other way round. -/
theorem takes_append_iff {first second : List Finding} :
    Takes sink? held (first ++ second) ↔ Takes sink? held first ∧ Takes sink? (held ++ first) second := by
  constructor
  · intro h
    constructor
    · rintro sink hsink accepted f later rfl
      exact h sink hsink accepted f (later ++ second) (by simp)
    · rintro sink hsink accepted f later rfl
      rw [List.append_assoc]
      exact h sink hsink (first ++ accepted) f later (by simp)
  · rintro ⟨hfirst, hsecond⟩ sink hsink accepted f later h
    -- a finding of the whole stands in the second part or in the first
    rcases List.append_eq_append_iff.mp h with ⟨gap, rfl, hgap⟩ | ⟨gap, rfl, hgap⟩
    · rw [← List.append_assoc]
      exact hsecond sink hsink gap f later hgap
    · cases gap with
      | nil =>
        have := hsecond sink hsink [] f later hgap.symm
        simpa using this
      | cons g gap =>
        obtain ⟨rfl, -⟩ := List.cons_eq_cons.mp hgap
        exact hfirst sink hsink accepted f gap rfl

theorem takes_cons_iff {f : Finding} {rest : List Finding} :
    Takes (some sink) held (f :: rest) ↔ sink held f = .ok () ∧ Takes (some sink) (held ++ [f]) rest := by
  have hone : Takes (some sink) held [f] ↔ sink held f = .ok () := by
    constructor
    · intro h
      simpa using h sink rfl [] f [] rfl
    · rintro h sink' hsink accepted g later heq
      cases hsink
      obtain ⟨rfl, hg⟩ : accepted = [] ∧ g = f ∧ later = [] := by
        cases accepted with
        | nil => simpa [eq_comm] using heq
        | cons a rest => simp at heq
      rw [hg.1, List.append_nil, h]
  rw [← List.singleton_append, takes_append_iff, hone]

/-- **A sink takes findings, or there is a first one that it refuses.** -/
theorem takes_or_refuses (sink : Sink) (held findings : List Finding) :
    Takes (some sink) held findings ∨
      ∃ accepted f later failure, findings = accepted ++ f :: later ∧
        Takes (some sink) held accepted ∧ sink (held ++ accepted) f = .error failure := by
  induction findings generalizing held with
  | nil => exact Or.inl takes_nil
  | cons f rest ih =>
    cases hf : sink held f with
    | error failure => exact Or.inr ⟨[], f, rest, failure, rfl, takes_nil, by rw [List.append_nil, hf]⟩
    | ok u =>
      rcases ih (held ++ [f]) with hrest | ⟨accepted, g, later, failure, rfl, htakes, hg⟩
      · exact Or.inl (takes_cons_iff.mpr ⟨hf, hrest⟩)
      · refine Or.inr ⟨f :: accepted, g, later, failure, rfl, takes_cons_iff.mpr ⟨hf, htakes⟩, ?_⟩
        rw [← hg, List.append_assoc, List.singleton_append]

/-! ## Delivery -/

/-- The events of findings that are handed to the sink, if there is one. -/
def handed (sink? : Option Sink) (findings : List Finding) : List Event :=
  if sink?.isSome then findings.map .delivered else []

theorem finding?_handed (findings : List Finding) :
    (handed sink? findings).filterMap Event.finding? = if sink?.isSome then findings else [] := by
  unfold handed
  cases sink?.isSome <;> simp [Event.finding?, Function.comp_def]

theorem entry?_handed (findings : List Finding) : (handed sink? findings).filterMap Event.entry? = [] := by
  unfold handed
  cases sink?.isSome <;> simp [Event.entry?, Function.comp_def]

/-- **Delivery of findings that the sink takes hands over all of them.** -/
theorem deliverTo_of_takes {findings : List Finding} (h : Takes sink? held findings) :
    deliverTo sink? held findings = ⟨handed sink? findings, .ok ()⟩ := by
  cases sink? with
  | none => rfl
  | some sink =>
    show sink.deliver held findings = ⟨findings.map .delivered, .ok ()⟩
    induction findings generalizing held with
    | nil => rfl
    | cons f rest ih =>
      obtain ⟨hf, hrest⟩ := takes_cons_iff.mp h
      unfold deliver
      simp only [hf, ih hrest]
      rfl

/-- **Delivery up to the first refusal.** What was accepted before it stays delivered. -/
theorem deliver_of_refusal {accepted later : List Finding} {f : Finding} {failure : Failure}
    (h : Takes (some sink) held accepted) (hf : sink (held ++ accepted) f = .error failure) :
    sink.deliver held (accepted ++ f :: later) = ⟨accepted.map .delivered, .error failure⟩ := by
  induction accepted generalizing held with
  | nil =>
    rw [List.append_nil] at hf
    rw [List.nil_append]
    unfold deliver
    simp only [hf]
    rfl
  | cons g rest ih =>
    obtain ⟨hg, hrest⟩ := takes_cons_iff.mp h
    rw [List.cons_append]
    unfold deliver
    rw [← List.singleton_append, ← List.append_assoc] at hf
    simp only [hg, ih hrest hf]
    rfl

end Sink
end IntentLint

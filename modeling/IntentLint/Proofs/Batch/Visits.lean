import IntentLint.Proofs.Batch.Reports
import Mathlib.Data.List.Basic

/-!
# `Proofs.Batch.Visits` — a batch, place by place on its list

A batch visits the locales on its list one after the other, up to the first visit that fails. What happens in a
batch is what happens in its visits (`events_lintEach`), and the reports that it returns are those of its visits
(`visits_of_lintAll`). It hands over the findings of a locale while it is at that locale, and keeps one report for
each locale: its deliveries follow the list, repetitions included, and its reports do not (`delivered_lintAll`).

A visit comes to the report of its locale (`reportOf_of_mem_visits`), whatever was delivered before it, as long as
the sink does not pass its refusals off as lint errors.
-/

namespace IntentLint
namespace Batch

/-- What happens at each place of a list of locales, up to the first place at which the run fails. -/
def visits (batch : Batch) (held : List Finding) : List Text → List (Text × Run Report)
  | [] => []
  | locale :: rest =>
    let visit := batch.lintLocale held locale
    (locale, visit) ::
      match visit.outcome with
      | .ok _ => visits batch (held ++ visit.delivered) rest
      | .error _ => []

variable {batch : Batch} {held : List Finding} {locale : Text} {locales : List Text}

/-! ## One visit -/

/-- A visit is a run over its locale, on top of what was delivered before. -/
theorem exists_held_of_mem_visits {visit : Run Report} (h : (locale, visit) ∈ batch.visits held locales) :
    ∃ held', visit = batch.lintLocale held' locale := by
  induction locales generalizing held with
  | nil => cases h
  | cons first rest ih =>
    unfold visits at h
    rcases List.mem_cons.mp h with hfirst | hrest
    · cases hfirst
      exact ⟨held, rfl⟩
    · cases hvisit : (batch.lintLocale held first).outcome with
      | ok r =>
        rw [hvisit] at hrest
        exact ih hrest
      | error failure =>
        rw [hvisit] at hrest
        cases hrest

/-- A visit that comes to a report comes to the report of its locale. -/
theorem reportOf_of_mem_visits (hs : Sink.NoLintError batch.sink?) {v : Text × Run Report} {r : Report}
    (hv : v ∈ batch.visits held locales) (h : v.2.outcome = .ok r) : batch.reportOf v.1 = .ok r := by
  obtain ⟨held', hrun⟩ := exists_held_of_mem_visits hv
  rw [hrun] at h
  exact reportOf_of_lintLocale hs h

/-! ## All visits -/

/-- **What happens on a list of locales is what happens in its visits.** -/
theorem events_lintEach (batch : Batch) (held : List Finding) (locales : List Text) :
    (batch.lintEach held locales).events = (batch.visits held locales).flatMap (·.2.events) := by
  induction locales generalizing held with
  | nil => rfl
  | cons locale rest ih =>
    unfold lintEach visits
    simp only [Run.andThen_eq_bind, List.flatMap_cons]
    cases hvisit : (batch.lintLocale held locale).outcome with
    | error failure =>
      rw [Run.events_bind_of_error hvisit]
      simp
    | ok r =>
      rw [Run.events_bind_of_ok hvisit, ← ih]
      -- what is left to do is to put the reports in a list, and nothing happens in that
      cases hrest : (batch.lintEach (held ++ (batch.lintLocale held locale).delivered) rest).outcome with
      | error failure => rw [Run.events_bind_of_error hrest]
      | ok reports =>
        rw [Run.events_bind_of_ok hrest]
        exact congrArg _ (List.append_nil _)

/-- What a batch delivers is what its visits deliver. -/
theorem delivered_lintAll_eq_visits (batch : Batch) (locales : List Text) :
    (batch.lintAll locales).delivered = (batch.visits [] locales).flatMap (·.2.delivered) := by
  have hvisits : (batch.lintEach [] locales).delivered = (batch.visits [] locales).flatMap (·.2.delivered) := by
    rw [Run.delivered_eq, events_lintEach, List.filterMap_flatMap]
    rfl
  rw [← hvisits]
  unfold lintAll
  rw [Run.delivered_bind_of_ok (Run.outcome_log _)]
  -- the last entry of the log is written only when every visit came to a report, and delivers nothing
  cases heach : (batch.lintEach [] locales).outcome with
  | ok pairs =>
    rw [Run.delivered_bind_of_ok heach, Run.delivered_bind_of_ok (Run.outcome_log _)]
    simp
  | error failure =>
    rw [Run.delivered_eq, Run.delivered_eq, Run.delivered_eq, Run.events_bind_of_error heach]
    rfl

/-- A batch that completes logs its launch, what its visits log, and the entry at its end. -/
theorem logged_lintAll {reports : Entries Text Report} (h : (batch.lintAll locales).outcome = .ok reports) :
    (batch.lintAll locales).logged =
      .launching locales batch.modelsDir ::
        ((batch.visits [] locales).flatMap (·.2.logged) ++ [completion reports]) := by
  obtain ⟨pairs, hpairs, rfl⟩ := lintAll_eq_ok h
  unfold lintAll
  rw [Run.logged_eq, Run.events_bind_of_ok (Run.outcome_log _), Run.events_bind_of_ok hpairs,
    Run.events_bind_of_ok (Run.outcome_log _), events_lintEach, List.filterMap_append, List.filterMap_append,
    List.filterMap_flatMap]
  rfl

/-- A list of locales that succeeds has a visit for each place, and each visit comes to a report. -/
theorem visits_of_lintEach {pairs : List (Text × Report)}
    (h : (batch.lintEach held locales).outcome = .ok pairs) :
    (batch.visits held locales).map (·.1) = locales ∧
      ∀ v ∈ batch.visits held locales, ∃ r, v.2.outcome = .ok r := by
  induction locales generalizing held pairs with
  | nil => exact ⟨rfl, fun v hv => absurd hv List.not_mem_nil⟩
  | cons locale rest ih =>
    unfold lintEach at h
    unfold visits
    obtain ⟨r, hr, h⟩ := Run.outcome_bind_eq_ok.mp h
    obtain ⟨later, hlater, -⟩ := Run.outcome_bind_eq_ok.mp h
    obtain ⟨hlocales, hreports⟩ := ih hlater
    simp only [hr]
    refine ⟨by rw [List.map_cons, hlocales], fun v hv => ?_⟩
    rcases List.mem_cons.mp hv with rfl | hv
    · exact ⟨r, hr⟩
    · exact hreports v hv

/-- **The reports of a batch are those of its visits.** Every locale on the list is visited, in the order of the
list, and each visit comes to the report that is kept for its locale. -/
theorem visits_of_lintAll (hs : Sink.NoLintError batch.sink?) {reports : Entries Text Report}
    (h : (batch.lintAll locales).outcome = .ok reports) :
    (batch.visits [] locales).map (·.1) = locales ∧ Entries.keys reports = locales.eraseDups ∧
      ∀ v ∈ batch.visits [] locales, ∃ r, v.2.outcome = .ok r ∧ Entries.get? v.1 reports = some r := by
  obtain ⟨pairs, hpairs, rfl⟩ := lintAll_eq_ok h
  obtain ⟨hkeys, hreports⟩ := lintEach_eq_ok hs hpairs
  obtain ⟨hlocales, hvisits⟩ := visits_of_lintEach hpairs
  refine ⟨hlocales, by rw [Entries.keys_ofList, hkeys], fun v hv => ?_⟩
  obtain ⟨r, hr⟩ := hvisits v hv
  have hlisted : v.1 ∈ pairs.map (·.1) := by
    rw [hkeys, ← hlocales]
    exact List.mem_map_of_mem hv
  -- the report that is kept may be that of another visit to the locale, and comes to the same
  obtain ⟨kept, hget, hkept⟩ := Entries.exists_get?_ofList hlisted
  have hsame : batch.reportOf v.1 = .ok kept := hreports (v.1, kept) hkept
  rw [reportOf_of_mem_visits hs hv hr] at hsame
  rw [← Except.ok.inj hsame] at hget
  exact ⟨r, hr, hget⟩

/-- **A batch delivers the findings of each report as often as its locale is listed**, in the order of the
list. -/
theorem delivered_lintAll (hs : Sink.Willing batch.sink?) {reports : Entries Text Report}
    (h : (batch.lintAll locales).outcome = .ok reports) :
    (batch.lintAll locales).delivered =
      if batch.sink?.isSome then
        locales.flatMap fun locale => ((Entries.get? locale reports).map Report.findings).getD []
      else [] := by
  obtain ⟨hlocales, -, hkept⟩ := visits_of_lintAll hs.noLintError h
  have hvisits : ∀ v ∈ batch.visits [] locales, v.2.delivered =
      if batch.sink?.isSome then ((Entries.get? v.1 reports).map Report.findings).getD [] else [] := by
    intro v hv
    obtain ⟨r, hr, hget⟩ := hkept v hv
    obtain ⟨held', hrun⟩ := exists_held_of_mem_visits hv
    rw [hget, hrun, delivered_lintLocale hs (reportOf_of_mem_visits hs.noLintError hv hr)]
    rfl
  rw [delivered_lintAll_eq_visits, List.flatMap_congr hvisits]
  cases batch.sink?.isSome with
  | false => simp
  | true =>
    -- the visits go over the list, place by place
    have hlist := congrArg
      (List.flatMap fun locale => ((Entries.get? locale reports).map Report.findings).getD []) hlocales
    rw [List.flatMap_map] at hlist
    exact hlist

end Batch
end IntentLint

import IntentLint.Report
import IntentLint.Proofs.Entries

/-!
# `Proofs.Report` — the summary of a report, without the way it is built

The summary is kept up finding by finding. What it comes to is said here from the list of findings as a whole:
its codes are those of the findings, in the order in which they first come up, and each stands with the number
of findings that have it. So summaries of lists that stand one after the other add up.

A report says some things twice: that it passed, and its counts. `Report.Coherent` is that it says the same both
times, and says nothing else when it has an error; the reports of runs and those of failures do
(`coherent_build`, `coherent_failed`).
-/

namespace IntentLint
namespace Report

/-- The number of findings of a code, as the summary has it; a code that is not there counts for zero. -/
def count (r : Report) (code : Code) : Nat := (Entries.get? code r.summary).getD 0

/-- One more finding counts once more for its code. -/
theorem summarize_concat (findings : List Finding) (f : Finding) :
    summarize (findings ++ [f]) =
      Entries.put f.code ((Entries.get? f.code (summarize findings)).getD 0 + 1) (summarize findings) := by
  simp only [summarize, List.foldl_append, List.foldl_cons, List.foldl_nil]

/-- The codes of a summary are those of the findings, in the order in which they first come up. -/
theorem keys_summarize (findings : List Finding) :
    Entries.keys (summarize findings) = (findings.map (·.code)).eraseDups := by
  induction findings using List.reverseRecOn with
  | nil => rfl
  | append_singleton findings f ih =>
    rw [summarize_concat, List.map_append]
    exact Entries.keys_put_of_eraseDups ih f.code _

/-- A summary counts the findings of each code. -/
theorem get?_summarize (findings : List Finding) (code : Code) :
    (Entries.get? code (summarize findings)).getD 0 = (findings.map (·.code)).count code := by
  induction findings using List.reverseRecOn with
  | nil => rfl
  | append_singleton findings f ih =>
    rw [summarize_concat, List.map_append, List.count_append]
    by_cases h : f.code = code
    · subst h
      rw [Entries.get?_put_self, Option.getD_some, ih]
      simp
    · rw [Entries.get?_put_ne h, ih]
      simp [h]

/-- **What a summary says.** -/
theorem summarize_eq (findings : List Finding) :
    summarize findings =
      ((findings.map (·.code)).eraseDups).map fun code => (code, (findings.map (·.code)).count code) := by
  have hnodup : (Entries.keys (summarize findings)).Nodup := by
    rw [keys_summarize]
    exact Entries.nodup_eraseDups _
  rw [Entries.eq_map_get? hnodup 0, keys_summarize]
  exact List.map_congr_left fun code _ => by rw [get?_summarize]

/-! ## What a report says twice -/

/-- The counts of a summary taken together. -/
def sumOfCounts (summary : List (Code × Nat)) : Nat := summary.foldr (fun e n => e.2 + n) 0

/-- To count once more for a code is to count once more. -/
theorem sumOfCounts_put_succ (code : Code) (summary : List (Code × Nat)) :
    sumOfCounts (Entries.put code ((Entries.get? code summary).getD 0 + 1) summary) = sumOfCounts summary + 1 := by
  induction summary with
  | nil => rfl
  | cons e rest ih =>
    obtain ⟨c, n⟩ := e
    by_cases hc : c = code
    · rw [hc, Entries.get?_cons_self, Option.getD_some, Entries.put, if_pos rfl]
      show n + 1 + sumOfCounts rest = n + sumOfCounts rest + 1
      omega
    · rw [Entries.get?_cons_ne hc, Entries.put, if_neg hc]
      show n + sumOfCounts _ = n + sumOfCounts rest + 1
      rw [ih]
      omega

/-- **A summary counts every finding once.** -/
theorem sumOfCounts_summarize (findings : List Finding) : sumOfCounts (summarize findings) = findings.length := by
  induction findings using List.reverseRecOn with
  | nil => rfl
  | append_singleton findings f ih =>
    rw [summarize_concat, sumOfCounts_put_succ, ih, List.length_append, List.length_singleton]

/-- The parts of a report agree with each other. -/
structure Coherent (r : Report) : Prop where
  passed : r.passed = true ↔ r.findings = [] ∧ r.failedChecks = [] ∧ r.error = none
  /-- The codes of the summary are those of the findings, in the order in which they first come up. -/
  codes : Entries.keys r.summary = (r.findings.map (·.code)).eraseDups
  counts : ∀ e ∈ r.summary, e.2 = (r.findings.map (·.code)).count e.1 ∧ 0 < e.2
  total : sumOfCounts r.summary = r.findings.length
  /-- A report with an error says why, and nothing else. -/
  failed : ∀ message, r.error = some message →
    message ≠ [] ∧ r.findings = [] ∧ r.summary = [] ∧ r.failedChecks = []

/-- **The report of a run is coherent**, whatever was found and whatever broke down. -/
theorem coherent_build (locale : Text) (findings : List Finding) (failedChecks : List Text) :
    (build locale findings failedChecks).Coherent where
  passed := by simp [build]
  codes := keys_summarize findings
  counts := by
    intro e he
    change e ∈ summarize findings at he
    rw [summarize_eq] at he
    obtain ⟨code, hcode, rfl⟩ := List.mem_map.mp he
    exact ⟨rfl, List.count_pos_iff.mpr (List.mem_eraseDups.mp hcode)⟩
  total := sumOfCounts_summarize findings
  failed := by
    intro message h
    cases h

/-- **The report of a failure is coherent** when it says why. -/
theorem coherent_failed (locale : Text) {message : Text} (h : message ≠ []) :
    (failed locale (some message)).Coherent where
  passed := by simp [failed]
  codes := rfl
  counts := by
    intro e he
    cases he
  total := rfl
  failed := by
    intro message' h'
    cases h'
    exact ⟨h, rfl, rfl, rfl⟩

end Report
end IntentLint

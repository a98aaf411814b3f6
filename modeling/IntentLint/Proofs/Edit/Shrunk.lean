import IntentLint.Proofs.Linter.Counts

/-!
# `Proofs.Edit.Shrunk` — models with parts left out

When parts of a model are left out, the first use of a key may be among them, and then another use is no longer
reported, or a use is reported against another owner or under another code. The findings are not a part of what
they were; but there are no more of them, because a key that is used less often is reported less often.
-/

namespace IntentLint

/-- **A model with parts left out.** Intents, phrases, entity types, values and synonyms are missing, and what is
left stands in the order in which it stood. -/
def LanguageModel.Shrunk (new old : LanguageModel) : Prop := new.Rearranged (fun _ => List.Sublist) old

/-- **A report that finds no more than another.** It has no more findings of any code, where duplicate values and
duplicate synonyms are counted together, and passes if the other does. -/
structure Report.NoMoreThan (r r' : Report) : Prop where
  counts : ∀ code, code ≠ .duplicateEntityValue → code ≠ .duplicateEntitySynonym →
    r.count code ≤ r'.count code
  entity_counts : r.count .duplicateEntityValue + r.count .duplicateEntitySynonym ≤
    r'.count .duplicateEntityValue + r'.count .duplicateEntitySynonym
  total : r.findings.length ≤ r'.findings.length
  passed : r'.passed = true → r.passed = true

namespace Linter

variable {m m' : LanguageModel} {sink? : Option Sink}

/-- The reports of a model and of a part of it. -/
theorem noMoreThan_standard (h : m'.Shrunk m) (locale : Text) :
    (standard.report m' locale).NoMoreThan (standard.report m locale) := by
  have hphrases : (clashes (·.text.key) (·.intent) m'.phrases).length ≤
      (clashes (·.text.key) (·.intent) m.phrases).length :=
    length_clashes_le _ _ (h.phrases rearranging_sublist)
  have hslots : (clashes (·.text.key) Slot.owner m'.slots).length ≤
      (clashes (·.text.key) Slot.owner m.slots).length :=
    length_clashes_le _ _ (h.slots rearranging_sublist)
  have hlone : (m'.loneFindings locale).Sublist (m.loneFindings locale) :=
    h.loneFindings rearranging_sublist locale
  have htotal : (standard.report m' locale).findings.length ≤
      (standard.report m locale).findings.length := by
    have hlength := hlone.length_le
    rw [length_findings_standard, length_findings_standard]
    omega
  refine ⟨?_, ?_, htotal, ?_⟩
  · intro code hvalue hsynonym
    by_cases hphrase : code = .duplicatePhrase
    · rw [hphrase, count_duplicatePhrase, count_duplicatePhrase]
      exact hphrases
    · have hcode := Code.mem_lone_of_ne hphrase hvalue hsynonym
      rw [count_lone hcode, count_lone hcode]
      exact (hlone.filter _).length_le
  · rw [count_duplicateEntity, count_duplicateEntity]
    exact hslots
  · rw [passed_standard_iff_findings, passed_standard_iff_findings]
    omega

/-- **To leave parts of a model out adds no findings.** With a willing sink the standard linter reports on the
model and on what is left of it, and finds no more in what is left. -/
theorem lint_shrunk (h : m'.Shrunk m) (hs : Sink.Willing sink?) (held : List Finding) (locale : Text) :
    ∃ r r', (standard.lint sink? held (.model m) locale).outcome = .ok r ∧
      (standard.lint sink? held (.model m') locale).outcome = .ok r' ∧ r'.NoMoreThan r := by
  have hr : (standard.lint sink? held (.model m) locale).outcome = .ok (standard.report m locale) :=
    outcome_lintModel hs standard held
  have hr' : (standard.lint sink? held (.model m') locale).outcome = .ok (standard.report m' locale) :=
    outcome_lintModel hs standard held
  exact ⟨_, _, hr, hr', noMoreThan_standard h locale⟩

/-- A model in which a colour, a gem and a stone go by one name. -/
def threeRubies : LanguageModel :=
  ⟨[("Greeting", ⟨some ["hello", " hello", "Hello"]⟩), ("Farewell", ⟨some ["bye"]⟩)],
    some [("color", ⟨some [.structured "red" (some ["ruby"])]⟩), ("gem", ⟨some [.bare "ruby"]⟩),
      ("stone", ⟨some [.structured "jewel" (some ["Ruby"])]⟩)]⟩

/-- The model without the name of the colour, the first phrase and one of the intents. -/
def twoRubies : LanguageModel :=
  ⟨[("Greeting", ⟨some [" hello", "Hello"]⟩)],
    some [("color", ⟨some [.structured "red" (some [])]⟩), ("gem", ⟨some [.bare "ruby"]⟩),
      ("stone", ⟨some [.structured "jewel" (some ["Ruby"])]⟩)]⟩

theorem shrunk_twoRubies : twoRubies.Shrunk threeRubies where
  intents := by
    refine ⟨[("Greeting", ⟨some ["hello", " hello", "Hello"]⟩)], by simp [threeRubies], ?_⟩
    exact .cons ⟨rfl, List.sublist_cons_self _ _⟩ .nil
  entityTypes := by
    refine ⟨_, List.Sublist.refl _, ?_⟩
    have hcolor : PartsRearranged (fun _ => List.Sublist) (EntityValue.Rearranged fun _ => List.Sublist)
        [.structured "red" (some [])] [.structured "red" (some ["ruby"])] :=
      ⟨_, List.Sublist.refl _, .cons (.structured _ (List.nil_sublist _)) .nil⟩
    have hgem : PartsRearranged (fun _ => List.Sublist) (EntityValue.Rearranged fun _ => List.Sublist)
        [.bare "ruby"] [.bare "ruby"] := ⟨_, List.Sublist.refl _, .cons (.bare _) .nil⟩
    have hstone : PartsRearranged (fun _ => List.Sublist) (EntityValue.Rearranged fun _ => List.Sublist)
        [.structured "jewel" (some ["Ruby"])] [.structured "jewel" (some ["Ruby"])] :=
      ⟨_, List.Sublist.refl _, .cons (.structured _ (List.Sublist.refl _)) .nil⟩
    exact .cons ⟨rfl, hcolor⟩ (.cons ⟨rfl, hgem⟩ (.cons ⟨rfl, hstone⟩ .nil))

/-- Without the first uses other uses come first, and one duplicate of each kind is left. -/
theorem lint_shrunk_twoRubies :
    twoRubies.Shrunk threeRubies ∧ Sink.Willing none ∧
      ∃ r r', (standard.lint none [] (.model threeRubies) "en").outcome = .ok r ∧
        (standard.lint none [] (.model twoRubies) "en").outcome = .ok r' ∧ r'.NoMoreThan r ∧
        r.summary = [(.duplicatePhrase, 2), (.duplicateEntityValue, 1), (.duplicateEntitySynonym, 1),
          (.whitespacePhrase, 1)] ∧
        r'.summary = [(.duplicatePhrase, 1), (.duplicateEntitySynonym, 1), (.whitespacePhrase, 1)] := by
  obtain ⟨r, r', hr, hr', hless⟩ :=
    lint_shrunk shrunk_twoRubies Sink.willing_none [] "en"
  have hreport : r = standard.report threeRubies "en" := lintModel_eq_ok hr
  have hreport' : r' = standard.report twoRubies "en" := lintModel_eq_ok hr'
  have hthree : r.summary = [(.duplicatePhrase, 2), (.duplicateEntityValue, 1), (.duplicateEntitySynonym, 1),
      (.whitespacePhrase, 1)] := by
    rw [hreport]
    decide +kernel
  have htwo : r'.summary = [(.duplicatePhrase, 1), (.duplicateEntitySynonym, 1), (.whitespacePhrase, 1)] := by
    rw [hreport']
    decide +kernel
  exact ⟨shrunk_twoRubies, Sink.willing_none, r, r', hr, hr', hless, hthree, htwo⟩

end Linter
end IntentLint

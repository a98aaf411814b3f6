import IntentLint.Proofs.Linter.Counts

/-!
# `Proofs.Edit.Reordered` — models written in another order

The order in which a model is written decides which use of a key comes first, and so which uses are reported as
duplicates, against which owner and, for values and synonyms, under which code. What does not depend on it are
the numbers: how often a key is reported is one less than how often it is used.
-/

namespace IntentLint

/-- **A model written in another order.** Its intents and entity types are permuted, and so are the phrases of an
intent, the values of an entity type and the synonyms of a value. -/
def LanguageModel.Reordered (new old : LanguageModel) : Prop := new.Rearranged (fun _ => List.Perm) old

/-- **Reports that differ in order only.** They have the same verdict and the same counts, where duplicate values
and duplicate synonyms are counted together, and the same duplicate texts as often. -/
structure Report.SameUpToOrder (r r' : Report) : Prop where
  passed : r.passed = r'.passed
  counts : ∀ code, code ≠ .duplicateEntityValue → code ≠ .duplicateEntitySynonym →
    r.count code = r'.count code
  entity_counts : r.count .duplicateEntityValue + r.count .duplicateEntitySynonym =
    r'.count .duplicateEntityValue + r'.count .duplicateEntitySynonym
  phrase_texts : (r.textsOf [.duplicatePhrase]).Perm (r'.textsOf [.duplicatePhrase])
  entity_texts : (r.textsOf [.duplicateEntityValue, .duplicateEntitySynonym]).Perm
    (r'.textsOf [.duplicateEntityValue, .duplicateEntitySynonym])

namespace Linter

variable {m m' : LanguageModel} {sink? : Option Sink}

/-- The reports of a model in two orders. -/
theorem sameUpToOrder_standard (h : m'.Reordered m) (locale : Text) :
    (standard.report m' locale).SameUpToOrder (standard.report m locale) := by
  have hphrases : ((standard.report m' locale).textsOf [.duplicatePhrase]).Perm
      ((standard.report m locale).textsOf [.duplicatePhrase]) := by
    rw [textsOf_duplicatePhrase, textsOf_duplicatePhrase]
    exact clashes_perm (fun p => p.text.key) _ (h.phrases rearranging_perm)
  have hslots : ((standard.report m' locale).textsOf Code.duplicateEntity).Perm
      ((standard.report m locale).textsOf Code.duplicateEntity) := by
    rw [textsOf_duplicateEntity, textsOf_duplicateEntity]
    exact clashes_perm (fun s => s.text.key) _ (h.slots rearranging_perm)
  have hlone : (m'.loneFindings locale).Perm (m.loneFindings locale) :=
    h.loneFindings rearranging_perm locale
  have hcounts : ∀ code, code ≠ .duplicateEntityValue → code ≠ .duplicateEntitySynonym →
      (standard.report m' locale).count code = (standard.report m locale).count code := by
    intro code hvalue hsynonym
    by_cases hphrase : code = .duplicatePhrase
    · rw [hphrase, count_report, count_report, hphrases.length_eq]
    · have hcode := Code.mem_lone_of_ne hphrase hvalue hsynonym
      rw [count_lone hcode, count_lone hcode, (hlone.filter _).length_eq]
  have hentity : (standard.report m' locale).count .duplicateEntityValue +
      (standard.report m' locale).count .duplicateEntitySynonym =
        (standard.report m locale).count .duplicateEntityValue +
          (standard.report m locale).count .duplicateEntitySynonym := by
    rw [count_report_add standard (by decide), count_report_add standard (by decide)]
    exact hslots.length_eq
  refine ⟨?_, hcounts, hentity, hphrases, hslots⟩
  -- there are as many findings of each kind, so there are none in the one order exactly if in the other
  have htotal : (standard.report m' locale).findings.length = (standard.report m locale).findings.length := by
    have hphrase := hcounts .duplicatePhrase (by decide) (by decide)
    rw [count_duplicatePhrase, count_duplicatePhrase] at hphrase
    rw [count_duplicateEntity, count_duplicateEntity] at hentity
    rw [length_findings_standard, length_findings_standard, hphrase, hentity, hlone.length_eq]
  rw [Bool.eq_iff_iff, passed_standard_iff_findings, passed_standard_iff_findings, htotal]

/-- **The order in which a model is written does not change what is counted.** With a willing sink the standard
linter reports on a model in two orders, and the reports differ in order only. The duplicates are counted by
the keys of the model alone: of the phrases, and of the values and synonyms, all but one for each key. -/
theorem lint_reordered (h : m'.Reordered m) (hs : Sink.Willing sink?) (held : List Finding) (locale : Text) :
    ∃ r r', (standard.lint sink? held (.model m) locale).outcome = .ok r ∧
      (standard.lint sink? held (.model m') locale).outcome = .ok r' ∧
      r'.SameUpToOrder r ∧ r.CountsDuplicates m ∧ r'.CountsDuplicates m' := by
  have hr : (standard.lint sink? held (.model m) locale).outcome = .ok (standard.report m locale) :=
    outcome_lintModel hs standard held
  have hr' : (standard.lint sink? held (.model m') locale).outcome = .ok (standard.report m' locale) :=
    outcome_lintModel hs standard held
  refine ⟨_, _, hr, hr', sameUpToOrder_standard h locale, ?_, ?_⟩
  · exact countsDuplicates_standard
  · exact countsDuplicates_standard

/-- A model in which a gem has the name that is a synonym of a colour. -/
def colorFirst : LanguageModel :=
  ⟨[("Greeting", ⟨some ["hello", "Hello "]⟩), ("Farewell", ⟨some ["bye"]⟩)],
    some [("color", ⟨some [.bare "blue", .structured "red" (some ["ruby", "scarlet"])]⟩),
      ("gem", ⟨some [.bare "ruby"]⟩)]⟩

/-- The same model from the end to the start. -/
def gemFirst : LanguageModel :=
  ⟨[("Farewell", ⟨some ["bye"]⟩), ("Greeting", ⟨some ["Hello ", "hello"]⟩)],
    some [("gem", ⟨some [.bare "ruby"]⟩),
      ("color", ⟨some [.structured "red" (some ["scarlet", "ruby"]), .bare "blue"]⟩)]⟩

theorem reordered_gemFirst : gemFirst.Reordered colorFirst where
  intents := by
    refine ⟨[("Farewell", ⟨some ["bye"]⟩), ("Greeting", ⟨some ["hello", "Hello "]⟩)], List.Perm.swap _ _ _, ?_⟩
    exact .cons ⟨rfl, List.Perm.refl _⟩ (.cons ⟨rfl, List.Perm.swap _ _ _⟩ .nil)
  entityTypes := by
    refine ⟨[("gem", ⟨some [.bare "ruby"]⟩),
      ("color", ⟨some [.bare "blue", .structured "red" (some ["ruby", "scarlet"])]⟩)],
      List.Perm.swap _ _ _, ?_⟩
    have hgem : PartsRearranged (fun _ => List.Perm) (EntityValue.Rearranged fun _ => List.Perm)
        [.bare "ruby"] [.bare "ruby"] := ⟨_, List.Perm.refl _, .cons (.bare _) .nil⟩
    have hcolor : PartsRearranged (fun _ => List.Perm) (EntityValue.Rearranged fun _ => List.Perm)
        [.structured "red" (some ["scarlet", "ruby"]), .bare "blue"]
        [.bare "blue", .structured "red" (some ["ruby", "scarlet"])] :=
      ⟨_, List.Perm.swap _ _ _, .cons (.structured _ (List.Perm.swap _ _ _)) (.cons (.bare _) .nil)⟩
    exact .cons ⟨rfl, hgem⟩ (.cons ⟨rfl, hcolor⟩ .nil)

/-- The duplicate is a value in the one order and a synonym in the other, and it is one duplicate in both. -/
theorem lint_reordered_gemFirst :
    gemFirst.Reordered colorFirst ∧ Sink.Willing none ∧
      ∃ r r', (standard.lint none [] (.model colorFirst) "en").outcome = .ok r ∧
        (standard.lint none [] (.model gemFirst) "en").outcome = .ok r' ∧
        r'.SameUpToOrder r ∧ r.CountsDuplicates colorFirst ∧
        r.count .duplicateEntityValue = 1 ∧ r.count .duplicateEntitySynonym = 0 ∧
        r'.count .duplicateEntityValue = 0 ∧ r'.count .duplicateEntitySynonym = 1 := by
  obtain ⟨r, r', hr, hr', hsame, hcounts, -⟩ :=
    lint_reordered reordered_gemFirst Sink.willing_none [] "en"
  have hreport : r = standard.report colorFirst "en" := lintModel_eq_ok hr
  have hreport' : r' = standard.report gemFirst "en" := lintModel_eq_ok hr'
  have hcolor : r.count .duplicateEntityValue = 1 ∧ r.count .duplicateEntitySynonym = 0 := by
    rw [hreport]
    decide +kernel
  have hgem : r'.count .duplicateEntityValue = 0 ∧ r'.count .duplicateEntitySynonym = 1 := by
    rw [hreport']
    decide +kernel
  exact ⟨reordered_gemFirst, Sink.willing_none, r, r', hr, hr', hsame, hcounts, hcolor.1, hcolor.2, hgem.1,
    hgem.2⟩

end Linter
end IntentLint

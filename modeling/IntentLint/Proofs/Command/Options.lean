import IntentLint.Command.Unnamed

/-!
# `Proofs.Command.Options` — command lines that say more, and what they ask for

A command line that asks for something has used all its words, so what is written behind it is followed after
it (`parse_append`). When no name was left out, the scope of the options is what they ask for.
-/

namespace IntentLint
namespace Options

/-! ## Longer command lines -/

section Words

variable {options options' : Options} {extra argv more : List Text} {words later : List Word}

/-- Words that are followed to the end leave nothing over. -/
theorem extra_of_follow (h : follow options extra words = .ok options') : extra = [] := by
  -- what is left over is only ever added to, and refused at the end
  fun_induction follow options extra words <;> simp_all

/-- Words that are followed to the end do not contain two dashes alone. -/
theorem terminator_not_mem_of_follow (h : follow options extra words = .ok options') :
    Word.terminator ∉ words := by
  fun_induction follow options extra words with
  | case5 options extra rest ih =>
    -- the two dashes would be left over
    have hextra := extra_of_follow h
    simp at hextra
  | _ => simp_all

/-- Words behind others that are followed to the end are followed after them. -/
theorem follow_append (h : follow options extra words = .ok options') (later : List Word) :
    follow options extra (words ++ later) = follow options' [] later := by
  fun_induction follow options extra words <;> simp_all [follow]

/-- Words are recognised one by one, up to two dashes alone. -/
theorem recognizeAll_append (h : recognizeAll argv = .ok words) (hno : Word.terminator ∉ words)
    (hmore : recognizeAll more = .ok later) : recognizeAll (argv ++ more) = .ok (words ++ later) := by
  induction argv generalizing words with
  | nil =>
    cases h
    exact hmore
  | cons word rest ih =>
    rw [List.cons_append]
    unfold recognizeAll at h ⊢
    split at h
    · cases h
      exact absurd List.mem_cons_self hno
    · next hword =>
      rw [if_neg hword]
      cases hfound : recognize word with
      | error fault => simp [hfound] at h
      | ok found =>
        simp only [hfound] at h ⊢
        cases hrest : recognizeAll rest with
        | error fault =>
          rw [hrest] at h
          cases h
        | ok between =>
          rw [hrest] at h
          cases h
          rw [ih hrest fun hl => hno (List.mem_cons_of_mem _ hl)]
          rfl

/-- **What stands behind a command line that asks for something is followed after it.** -/
theorem parse_append (h : parse argv = .ok options) (hmore : recognizeAll more = .ok later) :
    parse (argv ++ more) = follow options [] later := by
  unfold parse at h ⊢
  cases hwords : recognizeAll argv with
  | error fault => simp [hwords] at h
  | ok words =>
    simp only [hwords] at h
    simp only [recognizeAll_append hwords (terminator_not_mem_of_follow h) hmore]
    exact follow_append h later

end Words

/-! ## Scopes -/

/-- A list in which no name is missing. -/
theorem eq_map_some_of_mapM_id {names : List (Option Text)} {locales : List Text}
    (h : names.mapM id = some locales) : names = locales.map some := by
  induction names generalizing locales with
  | nil =>
    cases h
    rfl
  | cons name rest ih =>
    rw [List.mapM_cons] at h
    obtain ⟨locale, hname, h⟩ := Option.bind_eq_some_iff.mp h
    obtain ⟨later, hlater, h⟩ := Option.bind_eq_some_iff.mp h
    cases h
    rw [List.map_cons, ← ih hlater, ← hname]
    rfl

theorem none_mem_of_mapM_id {names : List (Option Text)} (h : names.mapM id = none) : none ∈ names := by
  induction names with
  | nil => cases h
  | cons name rest ih =>
    cases name with
    | none => exact List.mem_cons_self
    | some locale =>
      refine List.mem_cons_of_mem _ (ih ?_)
      cases hrest : rest.mapM id with
      | none => rfl
      | some later =>
        rw [List.mapM_cons, hrest] at h
        cases h

/-- A scope without a missing name has the locales that the options ask for. -/
theorem namesUnder_of_scope? {options : Options} {scope : Scope} (h : options.scope? = some scope)
    (settings : Settings) : options.namesUnder settings = (scope.localesUnder settings).map some := by
  unfold scope? at h
  obtain ⟨locales, hlocales, h⟩ := Option.bind_eq_some_iff.mp h
  obtain ⟨modelsDir, -, h⟩ := Option.map_eq_some_iff.mp h
  cases h
  unfold namesUnder Scope.localesUnder
  cases hoption : options.locales with
  | none =>
    rw [hoption] at hlocales
    cases hlocales
    rfl
  | some names =>
    rw [hoption] at hlocales
    obtain ⟨listed, hlisted, hsome⟩ := Option.map_eq_some_iff.mp hlocales
    cases hsome
    exact eq_map_some_of_mapM_id hlisted

/-- A scope without a missing name has the directory that the options ask for. -/
theorem dirUnder_of_scope? {options : Options} {scope : Scope} (h : options.scope? = some scope)
    (settings : Settings) : options.dirUnder settings = some (scope.modelsDirUnder settings) := by
  unfold scope? at h
  obtain ⟨locales, -, h⟩ := Option.bind_eq_some_iff.mp h
  obtain ⟨modelsDir, hdir, h⟩ := Option.map_eq_some_iff.mp h
  cases h
  unfold dirUnder Scope.modelsDirUnder
  cases hoption : options.modelsDir with
  | none =>
    rw [hoption] at hdir
    cases hdir
    rfl
  | some dir? =>
    rw [hoption] at hdir
    cases dir? with
    | none => cases hdir
    | some dir =>
      cases hdir
      rfl

/-- Without a scope the name of the directory is missing, or that of a locale. -/
theorem missing_of_scope?_eq_none {options : Options} (h : options.scope? = none) (settings : Settings) :
    options.dirUnder settings = none ∨ none ∈ options.namesUnder settings := by
  unfold scope? at h
  unfold dirUnder namesUnder
  cases hlocales : options.locales with
  | none =>
    -- the locales are those of the settings, so it is the directory that has no name
    rw [hlocales] at h
    cases hdir : options.modelsDir with
    | none => simp [hdir] at h
    | some dir? =>
      cases dir? with
      | none => exact Or.inl rfl
      | some dir => simp [hdir] at h
  | some names =>
    rw [hlocales] at h
    cases hnames : names.mapM id with
    | none => exact Or.inr (none_mem_of_mapM_id hnames)
    | some locales =>
      cases hdir : options.modelsDir with
      | none => simp [hnames, hdir] at h
      | some dir? =>
        cases dir? with
        | none => exact Or.inl rfl
        | some dir => simp [hnames, hdir] at h

end Options
end IntentLint

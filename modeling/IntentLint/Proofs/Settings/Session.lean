import IntentLint.Settings.Session
import Mathlib.Data.List.Basic
import Mathlib.Data.List.Induction

/-!
# `Proofs.Settings.Session` — what a session answers after any history

In the life of a session variables change, files are written, settings are forgotten and settings are asked for,
in any order. Its answers are put here without what it keeps. Take the steps since it last forgot, and the
surroundings in which they begin. As long as every time of asking failed, the session has read nothing
(`Unread`) and an answer is about the surroundings as they are. The first time of asking that succeeds decides
(`FirstRead`): every later answer is the same, until the settings are forgotten, whatever changes in between.

What a session keeps is determined by that: the settings of the first read, or nothing (`kept_eq_some_iff`,
`kept_eq_none_iff`). The induction is on the steps since the last forgetting, with one lemma for the steps before
the first read and one for those behind it.
-/

namespace IntentLint
namespace Session

/-! ## Histories -/

/-- What may happen to a session. -/
inductive Step where
  /-- The environment has these variables from now on. -/
  | setVariables (environment : List (Text × Text))
  /-- Files are written. This is then in the settings file, if there is one. -/
  | writeFiles (settingsFile : Option Bytes)
  | forget
  | get

/-- The surroundings after a step. -/
def Step.surroundings (around : Surroundings) : Step → Surroundings
  | .setVariables environment => { around with environment := environment }
  | .writeFiles settingsFile => { around with settingsFile := settingsFile }
  | .forget => around
  | .get => around

/-- The surroundings after some steps. -/
def surroundingsAfter (around : Surroundings) (steps : List Step) : Surroundings :=
  steps.foldl Step.surroundings around

/-- The session after a step. -/
def after (session : Session) : Step → Session
  | .forget => session.forget
  | .get => session.get.2
  | change => session.move (change.surroundings session.around)

/-- The session after some steps. -/
def afterAll (session : Session) (steps : List Step) : Session := steps.foldl after session

/-- These are the steps of a history since the settings were last forgotten, or since the start, and the
surroundings in which they begin. -/
def Since (around : Surroundings) (history : List Step) (base : Surroundings) (since : List Step) : Prop :=
  ∃ old, history = old ++ since ∧ (old = [] ∨ ∃ older, old = older ++ [.forget]) ∧ .forget ∉ since ∧
    base = surroundingsAfter around old

/-- Every time the settings are asked for, they cannot be read in the surroundings of that time. -/
def Unread (base : Surroundings) (steps : List Step) : Prop :=
  ∀ before later, steps = before ++ .get :: later →
    ∃ error, Settings.load (surroundingsAfter base before) = .error error

/-- The first time that the settings are asked for and can be read, these are the settings. -/
def FirstRead (base : Surroundings) (steps : List Step) (settings : Settings) : Prop :=
  ∃ before later, steps = before ++ .get :: later ∧ Unread base before ∧
    Settings.load (surroundingsAfter base before) = .ok settings

variable {around base : Surroundings} {session : Session} {settings : Settings} {error : SettingsError}
  {steps later : List Step}

theorem surroundingsAfter_append (around : Surroundings) (steps later : List Step) :
    surroundingsAfter around (steps ++ later) = surroundingsAfter (surroundingsAfter around steps) later :=
  List.foldl_append

theorem afterAll_append (session : Session) (steps later : List Step) :
    session.afterAll (steps ++ later) = (session.afterAll steps).afterAll later :=
  List.foldl_append

theorem FirstRead.append (h : FirstRead base steps settings) (later : List Step) :
    FirstRead base (steps ++ later) settings := by
  obtain ⟨before, between, rfl, hunread, hload⟩ := h
  exact ⟨before, between ++ later, by simp, hunread, hload⟩

/-- Where nothing was read, one more step reads nothing either, or it is the first to read. -/
theorem Unread.concat (h : Unread base steps) {step : Step}
    (hstep : step = .get → ∃ error, Settings.load (surroundingsAfter base steps) = .error error) :
    Unread base (steps ++ [step]) := by
  intro before later hsplit
  rcases List.eq_nil_or_concat' later with rfl | ⟨between, last, rfl⟩
  · obtain ⟨rfl, hlast⟩ := List.append_inj' hsplit rfl
    cases hlast
    exact hstep rfl
  · rw [← List.cons_append, ← List.append_assoc] at hsplit
    obtain ⟨rfl, -⟩ := List.append_inj' hsplit rfl
    exact h before between rfl

/-- **Either nothing was read, or there is a first read.** -/
theorem unread_or_firstRead (base : Surroundings) (steps : List Step) :
    Unread base steps ∨ ∃ settings, FirstRead base steps settings := by
  induction steps using List.reverseRecOn with
  | nil => exact Or.inl fun before later h => by simp at h
  | append_singleton steps step ih =>
    rcases ih with hunread | ⟨settings, hread⟩
    · cases hload : Settings.load (surroundingsAfter base steps) with
      | error error => exact Or.inl (hunread.concat fun _ => ⟨error, hload⟩)
      | ok settings =>
        cases step with
        | get => exact Or.inr ⟨settings, steps, [], rfl, hunread, hload⟩
        | _ => exact Or.inl (hunread.concat fun h => by cases h)
    · exact Or.inr ⟨settings, hread.append [step]⟩

/-- Every history has steps since the last forgetting. -/
theorem exists_since (around : Surroundings) (history : List Step) :
    ∃ base since, Since around history base since := by
  induction history using List.reverseRecOn with
  | nil => exact ⟨around, [], [], rfl, Or.inl rfl, List.not_mem_nil, rfl⟩
  | append_singleton history step ih =>
    obtain ⟨base, since, old, rfl, hold, hquiet, hbase⟩ := ih
    cases step with
    | forget =>
      exact ⟨_, [], old ++ since ++ [.forget], (List.append_nil _).symm, Or.inr ⟨_, rfl⟩, List.not_mem_nil, rfl⟩
    | _ => exact ⟨base, since ++ [_], old, List.append_assoc .., hold, by simpa using hquiet, hbase⟩

/-! ## What a session keeps -/

/-- What happens to a session that has settings does not reach them. -/
theorem afterAll_of_kept (hquiet : .forget ∉ steps) :
    (Session.mk base (some settings)).afterAll steps = ⟨surroundingsAfter base steps, some settings⟩ := by
  induction steps generalizing base with
  | nil => rfl
  | cons step rest ih =>
    obtain ⟨hstep, hrest⟩ := not_or.mp (mt List.mem_cons.mpr hquiet)
    cases step with
    | forget => exact absurd rfl hstep
    | _ => exact ih hrest

/-- A session that has read nothing has nothing. -/
theorem afterAll_of_unread (hquiet : .forget ∉ steps) (h : Unread base steps) :
    (Session.mk base none).afterAll steps = ⟨surroundingsAfter base steps, none⟩ := by
  induction steps generalizing base with
  | nil => rfl
  | cons step rest ih =>
    obtain ⟨hstep, hrest⟩ := not_or.mp (mt List.mem_cons.mpr hquiet)
    have hunread : Unread (step.surroundings base) rest := by
      rintro before later rfl
      exact h (step :: before) later rfl
    cases step with
    | forget => exact absurd rfl hstep
    | get =>
      -- asking fails, and a failure is not kept
      obtain ⟨error, hload⟩ := h [] rest rfl
      have hget : (Session.mk base none).after .get = ⟨base, none⟩ := by
        have hbase : Settings.load base = .error error := hload
        simp only [after, get, hbase]
      show ((Session.mk base none).after .get).afterAll rest = _
      rw [hget]
      exact ih hrest hunread
    | _ => exact ih hrest hunread

/-- **A session has the settings of the first read.** -/
theorem afterAll_of_firstRead (hquiet : .forget ∉ steps) (h : FirstRead base steps settings) :
    (Session.mk base none).afterAll steps = ⟨surroundingsAfter base steps, some settings⟩ := by
  obtain ⟨before, later, rfl, hunread, hload⟩ := h
  simp only [List.mem_append, List.mem_cons, reduceCtorEq, false_or, not_or] at hquiet
  have hget : (Session.mk (surroundingsAfter base before) none).after .get =
      ⟨surroundingsAfter base before, some settings⟩ := by
    simp only [after, get, hload]
  rw [afterAll_append, afterAll_of_unread hquiet.1 hunread, surroundingsAfter_append]
  show ((Session.mk (surroundingsAfter base before) none).after .get).afterAll later = _
  rw [hget]
  exact afterAll_of_kept hquiet.2

theorem kept_eq_some_iff (hquiet : .forget ∉ steps) :
    ((Session.mk base none).afterAll steps).kept = some settings ↔ FirstRead base steps settings := by
  rcases unread_or_firstRead base steps with hunread | ⟨first, hread⟩
  · have hnone := afterAll_of_unread hquiet hunread
    constructor
    · intro h
      rw [hnone] at h
      cases h
    · intro h
      -- the first read would have been kept
      cases congrArg kept (hnone.symm.trans (afterAll_of_firstRead hquiet h))
  · have hfirst := afterAll_of_firstRead hquiet hread
    constructor
    · intro h
      rw [hfirst] at h
      cases h
      exact hread
    · intro h
      rw [afterAll_of_firstRead hquiet h]

theorem kept_eq_none_iff (hquiet : .forget ∉ steps) :
    ((Session.mk base none).afterAll steps).kept = none ↔ Unread base steps := by
  constructor
  · intro h
    refine (unread_or_firstRead base steps).resolve_right ?_
    rintro ⟨settings, hread⟩
    rw [(kept_eq_some_iff hquiet).mpr hread] at h
    cases h
  · intro h
    rw [afterAll_of_unread hquiet h]

/-- What a session keeps has no influence on its surroundings. -/
theorem around_afterAll (session : Session) (steps : List Step) :
    (session.afterAll steps).around = surroundingsAfter session.around steps := by
  induction steps generalizing session with
  | nil => rfl
  | cons step rest ih =>
    have hstep : (session.after step).around = step.surroundings session.around := by
      cases step with
      | get =>
        simp only [after, get]
        split
        · rfl
        · split <;> rfl
      | _ => rfl
    exact (ih (session.after step)).trans (congrArg (surroundingsAfter · rest) hstep)

/-- Nothing before the last forgetting is left of a history but the surroundings. -/
theorem afterAll_of_since {history since : List Step} (h : Since around history base since) :
    (start around).afterAll history = (Session.mk base none).afterAll since := by
  obtain ⟨old, rfl, hold, -, rfl⟩ := h
  have hkept : ((start around).afterAll old).kept = none := by
    rcases hold with rfl | ⟨older, rfl⟩
    · rfl
    · rw [afterAll_append]
      rfl
  have hold : (start around).afterAll old = ⟨surroundingsAfter around old, none⟩ := by
    rw [← hkept]
    exact congrArg (Session.mk · _) (around_afterAll (start around) old)
  rw [afterAll_append, hold]

/-! ## What a session answers -/

/-- What a session answers with, it keeps. -/
theorem get_eq_ok_iff : session.get.1 = .ok settings ↔ session.get.2.kept = some settings := by
  obtain ⟨around, _ | kept⟩ := session
  · cases hload : Settings.load around <;> simp [get, hload]
  · simp [get]

/-- A session answers with a failure when it keeps nothing and nothing can be read. -/
theorem get_eq_error_iff :
    session.get.1 = .error error ↔ session.kept = none ∧ Settings.load session.around = .error error := by
  obtain ⟨around, _ | kept⟩ := session
  · cases hload : Settings.load around <;> simp [get, hload]
  · simp [get]

/-- **What a session answers after any history.** It answers with the settings that the first successful time of
asking has read since they were last forgotten, this time included. It fails exactly when every time of asking has
failed since then and the settings cannot be read now, and then it keeps nothing. Once they have been read, no
change of the surroundings is seen in an answer until they are forgotten. -/
theorem get_exact (around : Surroundings) (history : List Step) :
    ∃ base since, Since around history base since ∧
      (∀ settings, ((start around).afterAll history).get.1 = .ok settings ↔
        FirstRead base (since ++ [.get]) settings) ∧
      (∀ error, ((start around).afterAll history).get.1 = .error error ↔
        Unread base since ∧ Settings.load (surroundingsAfter base since) = .error error) ∧
      (∀ error, ((start around).afterAll history).get.1 = .error error →
        ((start around).afterAll history).get.2.kept = none) ∧
      ∀ settings, FirstRead base since settings → ∀ later, .forget ∉ later →
        ((start around).afterAll (history ++ later)).get.1 = .ok settings := by
  obtain ⟨base, since, hsince⟩ := exists_since around history
  have hsession := afterAll_of_since hsince
  obtain ⟨old, -, -, hquiet, -⟩ := id hsince
  refine ⟨base, since, hsince, fun settings => ?_, fun error => ?_, fun error herror => ?_, ?_⟩
  · -- to ask is one more step since the last forgetting
    have hasked : .forget ∉ since ++ [Step.get] := by simpa using hquiet
    rw [hsession, get_eq_ok_iff, ← kept_eq_some_iff hasked, afterAll_append]
    rfl
  · rw [hsession, get_eq_error_iff, kept_eq_none_iff hquiet]
    refine and_congr_right fun hunread => ?_
    rw [afterAll_of_unread hquiet hunread]
  · cases hkept : ((start around).afterAll history).get.2.kept with
    | none => rfl
    | some settings =>
      rw [get_eq_ok_iff.mpr hkept] at herror
      cases herror
  · intro settings hread later hlater
    have hread' : ((start around).afterAll (history ++ later)).kept = some settings := by
      rw [afterAll_append, hsession, afterAll_of_firstRead hquiet hread, afterAll_of_kept hlater]
    simp only [get, hread']

/-- The first answer fails, the second one stays, and the variables that are set behind it are not seen. -/
example :
    let session := (start ⟨[("LOCALES", "en")], none⟩).afterAll
      [.get, .setVariables [("MODELS_DIR", "a")], .get, .setVariables [("MODELS_DIR", "b")]]
    session.get.1.toOption = some { Settings.default with modelsDir := "a" } ∧
      session.forget.get.1.toOption = some { Settings.default with modelsDir := "b" } := by
  decide +kernel

end Session
end IntentLint

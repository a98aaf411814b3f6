import IntentLint.Proofs.Entries
import IntentLint.Settings.Basic

/-!
# `Proofs.Settings.Logging` — the settings of the log beside the others

Two settings are about the log: whether it is written for a terminal, and its threshold. The others are the
directory of the models and the locales, and they have values of their own in the environment and in the settings
file (`otherValues`). Where the settings of the log are fit (`ChoosesLog`), these values alone decide whether
settings can be read, and which directory and which locales they name (`exists_load_eq`).

So two surroundings that differ in variables of the log only have the same settings but for those of the log
(`SameButLog.exists_load_eq`). What the settings file says is compared after the references in its values are
expanded: a reference may name a variable of the log, and then this variable is not about the log alone. Where
nothing is referred to, it is enough to compare the statements (`sameButLog_of_plain`).
-/

namespace IntentLint

/-- Two readings before two that succeed. -/
theorem Reading.both_both_ok {α β γ δ : Type} (a : Reading α) (b : Reading β) (c : γ) (d : δ) :
    both a (both b (both (.ok c) (.ok d))) = (both a b).map fun (x, y) => (x, y, c, d) := by
  cases a <;> cases b <;> rfl

/-- Every level has a name. -/
theorem Level.ofName_name (level : Level) : ofName level.name = .ok level := by
  cases level <;> rfl

namespace Settings

/-! ## Variables besides those of the log -/

/-- The names of the variables that are about the log, in small letters. -/
def logNames : List Text := ["debug", "log_level"]

/-- The variables that are not about the log. -/
def besides {α : Type} (vars : List (Text × α)) : List (Text × α) :=
  vars.filter fun v => !logNames.contains v.1.lower

/-- The variables of an environment, all of which have a value. -/
def given (environment : List (Text × Text)) : List (Text × Option Text) :=
  environment.map fun (k, v) => (k, some v)

theorem given_besides (environment : List (Text × Text)) :
    given (besides environment) = besides (given environment) := by
  unfold given besides
  rw [List.filter_map]
  rfl

/-- A setting that is not about the log has its value among the other variables. -/
theorem find?_besides {name : Text} (h : name ∉ logNames) (vars : List (Text × Option Text)) :
    find? name (besides vars) = find? name vars := by
  have hfilter : (besides vars).filter (fun v => v.1.lower = name) = vars.filter fun v => v.1.lower = name := by
    unfold besides
    rw [List.filter_filter]
    refine List.filter_congr fun v _ => ?_
    by_cases hk : v.1.lower = name
    · simp [hk, h]
    · simp [hk]
  exact congrArg (fun vars => vars.getLast?.bind (·.2)) hfilter

theorem get?_besides {α : Type} {name : Text} (h : name.lower ∉ logNames) (vars : List (Text × α)) :
    Entries.get? name (besides vars) = Entries.get? name vars := by
  induction vars with
  | nil => rfl
  | cons e rest ih =>
    obtain ⟨k, v⟩ := e
    unfold besides at ih ⊢
    rw [List.filter_cons]
    by_cases hk : k.lower ∈ logNames
    · have hne : k ≠ name := by
        rintro rfl
        exact h hk
      rw [if_neg (by simpa using hk), Entries.get?_cons_ne hne, ih]
    · rw [if_pos (by simpa using hk), Entries.get?, Entries.get?, ih]

/-! ## Settings besides those of the log -/

/-- The variables that the settings file sets, with their references expanded. -/
def valuesInFile (around : Surroundings) : Except SettingsError (Entries Text (Option Text)) :=
  (fileText around).map (EnvFile.values around.environment)

/-- What variables say about the directory and about the locales. -/
def otherValues (vars : List (Text × Option Text)) : Option Text × Option Text :=
  (find? "models_dir" vars, find? "locales" vars)

theorem otherValues_besides (vars : List (Text × Option Text)) : otherValues (besides vars) = otherValues vars := by
  have hdir : ("models_dir" : Text) ∉ logNames := by decide
  have hlocales : ("locales" : Text) ∉ logNames := by decide
  unfold otherValues
  rw [find?_besides hdir, find?_besides hlocales]

/-- The directory and the locales of settings, by what the environment and the settings file say about them. -/
def loadOthers (inEnvironment : Option Text × Option Text)
    (inFile : Except SettingsError (Option Text × Option Text)) : Except SettingsError (Text × List Text) := do
  let inFile ← inFile
  let locales ← decodeLocales false inEnvironment.2
  let fileLocales ← decodeLocales true inFile.2
  (Reading.both (setting "MODELS_DIR" .ok default.modelsDir (inEnvironment.1.or inFile.1))
    (setting "LOCALES" (Reading.list Reading.text) default.locales (locales.or fileLocales))).mapError .unfit

/-- The value of a setting: that of the environment, else that of the settings file. -/
def valueOf (environment : List (Text × Text)) (inFile : Entries Text (Option Text)) (name : Text) : Option Text :=
  (find? name (given environment)).or (find? name inFile)

/-- What surroundings make of the log, as far as their settings file can be read: whether it is written for a
terminal, and its threshold. -/
def ChoosesLog (around : Surroundings) (debug : Bool) (threshold : Level) : Prop :=
  ∀ inFile, valuesInFile around = .ok inFile →
    setting "DEBUG" readBoolean default.debug (valueOf around.environment inFile "debug") = .ok debug ∧
    Level.ofName ((valueOf around.environment inFile "log_level").getD default.logLevel) = .ok threshold

variable {around around' : Surroundings} {debug debug' : Bool} {threshold threshold' : Level}

theorem setting_eq_ok {α : Type} (name : Text) (default : α) (value : Option α) :
    setting name .ok default value = .ok (value.getD default) := by
  cases value <;> rfl

/-- **Fit settings of the log are added to the others.** They make no settings unreadable. -/
theorem exists_load_eq (h : ChoosesLog around debug threshold) :
    ∃ level, Level.ofName level = .ok threshold ∧
      load around =
        (loadOthers (otherValues (given around.environment)) ((valuesInFile around).map otherValues)).map
          fun (modelsDir, locales) => ⟨modelsDir, locales, debug, level⟩ := by
  unfold ChoosesLog valuesInFile at h
  unfold load loadOthers valuesInFile
  cases hfile : fileText around with
  | error error => exact ⟨threshold.name, Level.ofName_name threshold, rfl⟩
  | ok t =>
    rw [hfile] at h
    obtain ⟨hdebug, hlevel⟩ := h _ rfl
    refine ⟨_, hlevel, ?_⟩
    unfold valueOf given at hdebug
    simp only [bind, Except.bind, Except.map, otherValues, valueOf, given]
    cases decodeLocales false (find? "locales" (around.environment.map fun (k, v) => (k, some v))) with
    | error error => rfl
    | ok locales =>
      cases decodeLocales true (find? "locales" (EnvFile.values around.environment t)) with
      | error error => rfl
      | ok fileLocales =>
        simp only [hdebug, setting_eq_ok, Reading.both_both_ok]
        cases setting "LOCALES" (Reading.list Reading.text) default.locales (locales.or fileLocales) <;> rfl

/-- The settings have the settings of the log that the surroundings choose. -/
theorem ChoosesLog.of_load {settings : Settings} (h : ChoosesLog around debug threshold)
    (hload : load around = .ok settings) :
    settings.debug = debug ∧ Level.ofName settings.logLevel = .ok threshold := by
  obtain ⟨level, hlevel, heq⟩ := exists_load_eq h
  rw [hload] at heq
  cases hothers : loadOthers (otherValues (given around.environment)) ((valuesInFile around).map otherValues) with
  | error error =>
    rw [hothers] at heq
    cases heq
  | ok others =>
    rw [hothers] at heq
    cases heq
    exact ⟨rfl, hlevel⟩

/-! ## Two surroundings -/

/-- Two surroundings differ in the variables of the log only: the environments have the same other variables, and
the settings files say the same about the directory and the locales. -/
structure SameButLog (around around' : Surroundings) : Prop where
  environment : besides around.environment = besides around'.environment
  settingsFile : (valuesInFile around).map otherValues = (valuesInFile around').map otherValues

/-- **Surroundings that differ in the variables of the log only** have the same settings but for those of the log,
or their settings are unreadable for the same reason. -/
theorem SameButLog.exists_load_eq (h : SameButLog around around') (hlog : ChoosesLog around debug threshold)
    (hlog' : ChoosesLog around' debug' threshold') :
    ∃ (others : Except SettingsError (Text × List Text)) (level level' : Text),
      Level.ofName level = .ok threshold ∧ Level.ofName level' = .ok threshold' ∧
      load around = others.map (fun (modelsDir, locales) => ⟨modelsDir, locales, debug, level⟩) ∧
      load around' = others.map (fun (modelsDir, locales) => ⟨modelsDir, locales, debug', level'⟩) := by
  obtain ⟨level, hlevel, hload⟩ := Settings.exists_load_eq hlog
  obtain ⟨level', hlevel', hload'⟩ := Settings.exists_load_eq hlog'
  have henvironment : otherValues (given around'.environment) = otherValues (given around.environment) := by
    rw [← otherValues_besides, ← given_besides, ← h.environment, given_besides, otherValues_besides]
  refine ⟨_, level, level', hlevel, hlevel', hload, ?_⟩
  rw [hload', henvironment, h.settingsFile]

/-! ### Statements without references -/

/-- The variables that statements set, as they are written. -/
def assignments (bindings : List EnvFile.Binding) : List (Text × Option Text) :=
  bindings.map fun b => (b.name, b.value)

/-- No value in these statements refers to a variable. -/
def Plain (bindings : List EnvFile.Binding) : Prop :=
  ∀ b ∈ bindings, ∀ v ∈ b.value, CodePoint.ofChar '$' ∉ v

instance (bindings : List EnvFile.Binding) : Decidable (Plain bindings) :=
  inferInstanceAs (Decidable (∀ b ∈ bindings, ∀ v ∈ b.value, CodePoint.ofChar '$' ∉ v))

theorem expandUpTo_of_plain (lookUp : Text → Option (Option Text)) {v : Text} (h : CodePoint.ofChar '$' ∉ v)
    (bound : Nat) : EnvFile.expandUpTo lookUp bound v = v := by
  induction v generalizing bound with
  | nil => cases bound <;> rfl
  | cons c rest ih =>
    obtain ⟨hc, hrest⟩ := not_or.mp (mt List.mem_cons.mpr h)
    cases bound with
    | zero => rfl
    | succ bound =>
      have hno : ¬ (c = '$' ∧ rest.head? = some (CodePoint.ofChar '{')) := fun hc' => hc hc'.1.symm
      rw [EnvFile.expandUpTo, if_neg hno, ih hrest]

/-- Statements without references set what they say. -/
theorem resolve_of_plain (environment : List (Text × Text)) {bindings : List EnvFile.Binding}
    (h : Plain bindings) : EnvFile.resolve environment bindings = Entries.ofList (assignments bindings) := by
  unfold EnvFile.resolve Entries.ofList
  generalize ([] : Entries Text (Option Text)) = known
  induction bindings generalizing known with
  | nil => rfl
  | cons b rest ih =>
    have hvalue : ∀ lookUp, (b.value.map fun v => EnvFile.expandUpTo lookUp (v.length + 1) v) = b.value := by
      intro lookUp
      cases hv : b.value with
      | none => rfl
      | some v => exact congrArg some (expandUpTo_of_plain lookUp (h b List.mem_cons_self v hv) _)
    simp only [List.foldl_cons, hvalue]
    exact ih (fun b' hb' => h b' (List.mem_cons_of_mem _ hb')) _

/-- What is put under a name is besides the log when the name is. -/
theorem besides_put {α : Type} (k : Text) (v : α) (vars : Entries Text α) :
    besides (Entries.put k v vars) = if k.lower ∈ logNames then besides vars else Entries.put k v (besides vars) := by
  induction vars with
  | nil => by_cases hk : k.lower ∈ logNames <;> simp [besides, Entries.put, hk]
  | cons e rest ih =>
    obtain ⟨k', v'⟩ := e
    unfold besides at ih ⊢
    by_cases heq : k' = k
    · subst heq
      by_cases hk : k'.lower ∈ logNames <;> simp [Entries.put, hk]
    · by_cases hk : k.lower ∈ logNames <;> by_cases hk' : k'.lower ∈ logNames <;> simp_all [Entries.put]

theorem besides_putAll {α : Type} (vars : Entries Text α) (more : List (Text × α)) :
    besides (Entries.putAll vars more) = Entries.putAll (besides vars) (besides more) := by
  induction more generalizing vars with
  | nil => rfl
  | cons e rest ih =>
    rw [Entries.putAll_cons, ih, besides_put]
    by_cases hk : e.1.lower ∈ logNames
    · simp [besides, hk]
    · simp [besides, hk, Entries.putAll_cons]

/-- **Where nothing is referred to, it is enough that the statements are the same** but for those about variables of
the log. -/
theorem sameButLog_of_plain {t t' : Text} (henvironment : besides around.environment = besides around'.environment)
    (hfile : fileText around = .ok t) (hfile' : fileText around' = .ok t')
    (hplain : Plain (EnvFile.bindings t)) (hplain' : Plain (EnvFile.bindings t'))
    (hsame : besides (assignments (EnvFile.bindings t)) = besides (assignments (EnvFile.bindings t'))) :
    SameButLog around around' := by
  have hothers : ∀ (environment : List (Text × Text)) {bindings : List EnvFile.Binding}, Plain bindings →
      otherValues (EnvFile.resolve environment bindings) =
        otherValues (Entries.ofList (besides (assignments bindings))) := by
    intro environment bindings hplain
    rw [resolve_of_plain environment hplain, ← otherValues_besides, Entries.ofList, besides_putAll]
    rfl
  refine ⟨henvironment, ?_⟩
  unfold valuesInFile
  rw [hfile, hfile']
  exact congrArg Except.ok ((hothers _ hplain).trans (hsame ▸ (hothers _ hplain').symm))

end Settings
end IntentLint

import BlogOperator.Proofs.Loading

/-!
# Configurations from settings and from the environment

A setting is made by one of four setters. A configuration `Config.Bears` a setting if what it sets
is as the setting has it: this holds once the setting is made, and settings by other setters keep it
(`Config.bears_set`, `Config.Bears.set`). So at the end of a list of settings the configuration
bears the `Setting.LastOf` each setter (`Config.bears_foldl_set`), and if all four setters are in
the list, nothing else has a part in it (`Config.build_of_given`).

An environment can spell the same values. What is checked of a configuration does not look at the
namespace, so the two are refused alike. But an empty namespace that is set in the environment
stands for all namespaces, and one that is set by a setter is kept: `ways_agree_iff` says that the
two ways to a configuration agree exactly up to this.
-/

set_option autoImplicit false

namespace BlogOperator

open BlogOperator.Number BlogOperator.Text BlogOperator.Time

namespace Config

/-! ### The last setting of each setter -/

/-- One of the four ways to set something. -/
inductive Setter where
  | controllerName
  | resyncInterval
  | backoff
  | watchNamespace
  deriving DecidableEq

/-- The setter that makes a setting. -/
def Setting.setter : Setting → Setter
  | .controllerName _ => .controllerName
  | .resyncInterval _ => .resyncInterval
  | .backoff _ _ => .backoff
  | .watchNamespace _ => .watchNamespace

/-- A setting is the last one that its setter makes. -/
def Setting.LastOf (settings : List Setting) (setting : Setting) : Prop :=
  ∃ before after, settings = before ++ setting :: after ∧
    ∀ later ∈ after, later.setter ≠ setting.setter

/-- What a setting sets is as the setting has it. -/
def Bears (config : Config) : Setting → Prop
  | .controllerName value => config.controllerName = value
  | .resyncInterval value => config.resyncInterval = value
  | .backoff initial max => config.backoffInitial = initial ∧ config.backoffMax = max
  | .watchNamespace value => config.watchNamespace = some value

theorem bears_set (config : Config) (setting : Setting) : (config.set setting).Bears setting := by
  cases setting with
  | controllerName value => rfl
  | resyncInterval value => rfl
  | backoff initial max => exact ⟨rfl, rfl⟩
  | watchNamespace value => rfl

/-- A setting is not undone by another setter. -/
theorem Bears.set {config : Config} {setting later : Setting} (hbears : config.Bears setting)
    (hother : later.setter ≠ setting.setter) : (config.set later).Bears setting := by
  cases setting <;> cases later <;> first | exact hbears | exact absurd rfl hother

theorem Bears.foldl_set {config : Config} {setting : Setting} (hbears : config.Bears setting)
    {settings : List Setting} (hothers : ∀ later ∈ settings, later.setter ≠ setting.setter) :
    (settings.foldl Config.set config).Bears setting := by
  induction settings generalizing config with
  | nil => exact hbears
  | cons later rest ih =>
    obtain ⟨hlater, hrest⟩ := List.forall_mem_cons.1 hothers
    rw [List.foldl_cons]
    exact ih (hbears.set hlater) hrest

/-- Whatever is set before it and by other setters after it, the last setting of a setter counts. -/
theorem bears_foldl_set (config : Config) {settings : List Setting} {setting : Setting}
    (hlast : setting.LastOf settings) : (settings.foldl Config.set config).Bears setting := by
  obtain ⟨before, after, rfl, hothers⟩ := hlast
  rw [List.foldl_append, List.foldl_cons]
  exact (bears_set _ setting).foldl_set hothers

/-! ### The same values in both ways -/

/-- All four setters are used, each for the last time with these values. -/
structure Given (settings : List Setting) (name : String) (resync initial max : UInt64)
    (watched : String) : Prop where
  name : (Setting.controllerName name).LastOf settings
  resync : (Setting.resyncInterval (.ofSeconds resync)).LastOf settings
  backoff : (Setting.backoff (.ofSeconds initial) (.ofSeconds max)).LastOf settings
  watched : (Setting.watchNamespace watched).LastOf settings

/-- All five variables are set, and spell these values. -/
structure Spelled (lookup : String → Option String) (name : String) (resync initial max : UInt64)
    (watched : String) : Prop where
  name : lookup controllerNameVariable = some name
  resync : ∃ text, lookup resyncVariable = some text ∧ Spells (trim text.toList) resync.toNat
  initial : ∃ text, lookup backoffInitialVariable = some text ∧
    Spells (trim text.toList) initial.toNat
  max : ∃ text, lookup backoffMaxVariable = some text ∧ Spells (trim text.toList) max.toNat
  watched : lookup watchNamespaceVariable = some watched

/-- The environment that spells values in decimal digits. -/
def inDigits (name : String) (resync initial max : UInt64) (watched asked : String) :
    Option String :=
  if asked = controllerNameVariable then some name
  else if asked = resyncVariable then some (toString resync)
  else if asked = backoffInitialVariable then some (toString initial)
  else if asked = backoffMaxVariable then some (toString max)
  else if asked = watchNamespaceVariable then some watched
  else none

theorem spells_toString (count : UInt64) : Spells (trim (toString count).toList) count.toNat := by
  have hdigits : (toString count).toList = Nat.toDigits 10 count.toNat := Nat.toList_repr
  have hspells := spells_padded (.inl rfl) 0 count.toNat
  have htrim : trim ([] ++ _ ++ []) = _ := hspells.trim_eq (by simp) (by simp)
  simp only [List.nil_append, List.append_nil, List.replicate_zero] at hspells htrim
  rw [hdigits, htrim]
  exact hspells

theorem spelled_inDigits (name : String) (resync initial max : UInt64) (watched : String) :
    Spelled (inDigits name resync initial max watched) name resync initial max watched where
  name := rfl
  resync := ⟨_, rfl, spells_toString resync⟩
  initial := ⟨_, rfl, spells_toString initial⟩
  max := ⟨_, rfl, spells_toString max⟩
  watched := rfl

variable {settings : List Setting} {lookup : String → Option String} {name watched : String}
  {resync initial max : UInt64}

theorem build_of_given (hgiven : Given settings name resync initial max watched) :
    build settings = checked {
      controllerName := name
      resyncInterval := .ofSeconds resync
      backoffInitial := .ofSeconds initial
      backoffMax := .ofSeconds max
      watchNamespace := some watched } := by
  have hname := bears_foldl_set {} hgiven.name
  have hresync := bears_foldl_set {} hgiven.resync
  obtain ⟨hinitial, hmax⟩ := bears_foldl_set {} hgiven.backoff
  have hwatched := bears_foldl_set {} hgiven.watched
  unfold build
  generalize settings.foldl Config.set {} = config at *
  obtain ⟨_, _, _, _, _⟩ := config
  cases hname
  cases hresync
  cases hinitial
  cases hmax
  cases hwatched
  rfl

theorem load_of_spelled (hspelled : Spelled lookup name resync initial max watched) :
    load lookup = checked {
      controllerName := name
      resyncInterval := .ofSeconds resync
      backoffInitial := .ofSeconds initial
      backoffMax := .ofSeconds max
      watchNamespace := if watched = "" then none else some watched } := by
  rw [load_of_gives (.inr hspelled.resync) (.inr hspelled.initial) (.inr hspelled.max), configured,
    hspelled.name, hspelled.watched]
  by_cases hwatched : watched = ""
  · simp [Option.filter, hwatched]
  · simp [Option.filter, hwatched]

/-- The namespace is not looked at when a configuration is checked. -/
theorem checked_watching (config : Config) (watched : Option String) :
    { config with watchNamespace := watched }.checked =
      config.checked.map fun accepted ↦ { accepted with watchNamespace := watched } := by
  have hcheck : { config with watchNamespace := watched }.check = config.check := rfl
  rw [checked_eq, checked_eq, hcheck]
  cases config.check with
  | error fault => rfl
  | ok _ => rfl

theorem eq_of_checked {config accepted : Config} (hchecked : config.checked = .ok accepted) :
    accepted = config := by
  rw [checked_eq] at hchecked
  cases hcheck : config.check with
  | error fault =>
    rw [hcheck] at hchecked
    cases hchecked
  | ok _ =>
    rw [hcheck] at hchecked
    cases hchecked
    rfl

/-- What settings make is what the environment makes, watching the namespace whatever it is. -/
theorem build_eq_map_load (hspelled : Spelled lookup name resync initial max watched)
    (hgiven : Given settings name resync initial max watched) :
    build settings =
      (load lookup).map fun config ↦ { config with watchNamespace := some watched } := by
  rw [build_of_given hgiven, load_of_spelled hspelled, ← checked_watching]

theorem watchNamespace_of_load (hspelled : Spelled lookup name resync initial max watched)
    {config : Config} (hload : load lookup = .ok config) :
    config.watchNamespace = if watched = "" then none else some watched := by
  rw [load_of_spelled hspelled] at hload
  rw [eq_of_checked hload]

end Config

open Config

/-- Assumes: all five variables of an environment are set, and the four setters are used in any
order, any number of times and with any values, the last time of each with the values that the
environment spells. Then the two ways to a configuration agree exactly if the namespace is not empty
or the values are refused. They are refused for the same fault. If they are accepted, settings make
the configuration of the environment, but for an empty namespace: it is watched as it is, where the
environment has all namespaces watched. -/
theorem ways_agree_iff {settings : List Setting} {lookup : String → Option String}
    {name watched : String} {resync initial max : UInt64}
    (hspelled : Spelled lookup name resync initial max watched)
    (hgiven : Given settings name resync initial max watched) :
    (load lookup = build settings ↔ watched ≠ "" ∨ ∃ fault, build settings = .error fault) ∧
      (∀ fault, load lookup = .error fault ↔ build settings = .error fault) ∧
      ∀ config, load lookup = .ok config →
        build settings = .ok { config with watchNamespace := some watched } ∧
          config.watchNamespace = if watched = "" then none else some watched := by
  have hbuild := build_eq_map_load hspelled hgiven
  cases hload : load lookup with
  | error fault =>
    rw [hload] at hbuild
    rw [hbuild]
    refine ⟨⟨fun _ ↦ .inr ⟨fault, rfl⟩, fun _ ↦ rfl⟩, fun _ ↦ Iff.rfl, ?_⟩
    rintro config ⟨⟩
  | ok config =>
    have hwatched := watchNamespace_of_load hspelled hload
    rw [hload] at hbuild
    rw [hbuild]
    refine ⟨⟨fun hagree ↦ .inl ?_, ?_⟩, fun fault ↦ ⟨nofun, nofun⟩, ?_⟩
    · have hsame : config.watchNamespace = some watched :=
        congrArg watchNamespace (Except.ok.inj hagree)
      rintro rfl
      cases hwatched.symm.trans hsame
    · rintro (hsome | ⟨fault, ⟨⟩⟩)
      rw [if_neg hsome] at hwatched
      rw [← hwatched]
      rfl
    · rintro other ⟨⟩
      exact ⟨rfl, hwatched⟩

/-- Settings are made in another order than the variables stand in, some of them more than once. -/
theorem ways_agree_iff_marketing :
    let lookup := inDigits "blog-operator" 60 1 10 "marketing"
    let settings : List Setting :=
      [.watchNamespace "", .backoff (.ofSeconds 20) (.ofSeconds 10), .controllerName "",
        .backoff (.ofSeconds 1) (.ofSeconds 10), .watchNamespace "marketing",
        .resyncInterval (.ofSeconds 60), .controllerName "blog-operator"]
    Spelled lookup "blog-operator" 60 1 10 "marketing" ∧
      Given settings "blog-operator" 60 1 10 "marketing" ∧ load lookup = build settings := by
  intro lookup settings
  have hspelled : Spelled lookup "blog-operator" 60 1 10 "marketing" := spelled_inDigits ..
  have hgiven : Given settings "blog-operator" 60 1 10 "marketing" :=
    { name := ⟨settings.take 6, [], rfl, by decide⟩
      resync := ⟨settings.take 5, settings.drop 6, rfl, by decide⟩
      backoff := ⟨settings.take 3, settings.drop 4, rfl, by decide⟩
      watched := ⟨settings.take 4, settings.drop 5, rfl, by decide⟩ }
  exact ⟨hspelled, hgiven, (ways_agree_iff hspelled hgiven).1.2 (.inl (by decide))⟩

/-- The same values in both ways, the namespace empty: one way has all namespaces watched, and the
other one the namespace without a name. -/
theorem ways_part_at_empty_namespace :
    let lookup := inDigits "ghost-controller" 300 5 300 ""
    let settings : List Setting :=
      [.controllerName "ghost-controller", .resyncInterval (.ofSeconds 300),
        .backoff (.ofSeconds 5) (.ofSeconds 300), .watchNamespace ""]
    Spelled lookup "ghost-controller" 300 5 300 "" ∧
      Given settings "ghost-controller" 300 5 300 "" ∧
      load lookup = .ok { watchNamespace := none } ∧
      build settings = .ok { watchNamespace := some "" } ∧ load lookup ≠ build settings := by
  intro lookup settings
  have hgiven : Given settings "ghost-controller" 300 5 300 "" :=
    { name := ⟨[], settings.drop 1, rfl, by decide⟩
      resync := ⟨settings.take 1, settings.drop 2, rfl, by decide⟩
      backoff := ⟨settings.take 2, settings.drop 3, rfl, by decide⟩
      watched := ⟨settings.take 3, [], rfl, by decide⟩ }
  have hload : load lookup = .ok { watchNamespace := none } := rfl
  have hbuild : build settings = .ok { watchNamespace := some "" } := rfl
  refine ⟨spelled_inDigits .., hgiven, hload, hbuild, ?_⟩
  rw [hload, hbuild]
  decide

end BlogOperator

import BlogOperator.Proofs.SecondCounts

/-!
# Configurations from the environment

An environment `Config.Gives` each of its three counts: the standard one if the variable is not set,
and otherwise the one that its text spells. It is `Config.Meaningful` when it gives all three, none
of them is out of bounds, and the name, if it is set, is not empty.

`Config.Check` lists what is checked of an environment, and `Check.Violated` says of each check by
itself, without regard to the others, when an environment violates it and what is then reported. An
environment either is meaningful, or there is a first check that it violates
(`Config.load_cases`); so `loads_meaningful` states both which environments are accepted and what
the others are refused for.
-/

set_option autoImplicit false

namespace BlogOperator

open BlogOperator.Number BlogOperator.Text BlogOperator.Time

namespace Time.Duration

theorem nanoseconds_ofSeconds_eq_zero {count : UInt64} :
    (ofSeconds count).nanoseconds = 0 ↔ count = 0 := by
  rw [← UInt64.toNat_inj]
  change count.toNat * 1000000000 = 0 ↔ count.toNat = 0
  omega

theorem ofSeconds_lt_ofSeconds {count other : UInt64} :
    ofSeconds count < ofSeconds other ↔ count < other := by
  rw [lt_def, UInt64.lt_iff_toNat_lt]
  exact Nat.mul_lt_mul_right (by decide)

end Time.Duration

namespace Config

variable (lookup : String → Option String)

/-- The count that an environment gives for a variable: the standard one if the variable is not
set, and otherwise the one that its text spells. -/
def Gives (name : String) (standard count : UInt64) : Prop :=
  (lookup name = none ∧ count = standard) ∨
    ∃ text, lookup name = some text ∧ Spells (trim text.toList) count.toNat

/-- An environment gives these three counts, none of which is out of bounds, and no empty name. -/
structure Meaningful (resync initial max : UInt64) : Prop where
  gives_resync : Gives lookup resyncVariable 300 resync
  gives_initial : Gives lookup backoffInitialVariable 5 initial
  gives_max : Gives lookup backoffMaxVariable 300 max
  resync_pos : 0 < resync
  initial_pos : 0 < initial
  initial_le_max : initial ≤ max
  name_ne_empty : lookup controllerNameVariable ≠ some ""

/-- One thing that is checked of an environment. -/
inductive Check where
  /-- The text of a variable that is set spells a number. -/
  | number (name : String)
  | emptyName
  | zeroResync
  | zeroInitial
  | inverted

/-- The checks in the order in which they are made. -/
def Check.order : List Check :=
  [.number resyncVariable, .number backoffInitialVariable, .number backoffMaxVariable,
    .emptyName, .zeroResync, .zeroInitial, .inverted]

/-- What an environment is refused for if a check is the only one that it violates. -/
inductive Check.Violated : Check → ConfigFault → Prop
  | number {name text : String} {cause : CountFault} (hset : lookup name = some text)
      (hmisspells : Misspells UInt64.size (trim text.toList) cause) :
      Violated (.number name) (.number name text cause)
  | emptyName (hname : lookup controllerNameVariable = some "") : Violated .emptyName .emptyName
  | zeroResync (hresync : Gives lookup resyncVariable 300 0) : Violated .zeroResync .zeroResync
  | zeroInitial (hinitial : Gives lookup backoffInitialVariable 5 0) :
      Violated .zeroInitial .zeroInitial
  | inverted {initial max : UInt64} (hinitial : Gives lookup backoffInitialVariable 5 initial)
      (hmax : Gives lookup backoffMaxVariable 300 max) (hless : max < initial) :
      Violated .inverted (.inverted (.ofSeconds initial) (.ofSeconds max))

/-- An environment does not violate a check. -/
def Check.Passed (check : Check) : Prop :=
  ∀ fault, ¬check.Violated lookup fault

/-- What the first of some checks that an environment violates reports. -/
inductive FirstViolated : List Check → ConfigFault → Prop
  | here {check : Check} {later : List Check} {fault : ConfigFault}
      (hviolated : check.Violated lookup fault) : FirstViolated (check :: later) fault
  | later {check : Check} {later : List Check} {fault : ConfigFault}
      (hpassed : check.Passed lookup) (hlater : FirstViolated later fault) :
      FirstViolated (check :: later) fault

variable {lookup}

/-! ### What an environment gives -/

section Gives

variable {name : String} {standard count other : UInt64}

theorem Gives.unique (hcount : Gives lookup name standard count)
    (hother : Gives lookup name standard other) : count = other := by
  rcases hcount with ⟨hunset, rfl⟩ | ⟨text, hset, hspells⟩
  · rcases hother with ⟨-, rfl⟩ | ⟨text, hset, -⟩
    · rfl
    · cases hunset.symm.trans hset
  · rcases hother with ⟨hunset, -⟩ | ⟨again, hagain, hspells'⟩
    · cases hunset.symm.trans hset
    · obtain rfl : text = again := Option.some.inj (hset.symm.trans hagain)
      exact UInt64.toNat_inj.1 (hspells.unique hspells')

theorem secondsFrom_of_gives (hgives : Gives lookup name standard count) :
    secondsFrom lookup name (.ofSeconds standard) = .ok (.ofSeconds count) := by
  rcases hgives with ⟨hunset, rfl⟩ | ⟨text, hset, hspells⟩
  · exact secondsFrom_of_none hunset
  · exact (secondsFrom_eq_ok_iff hset).2 ⟨count, hspells, rfl⟩

theorem Check.Violated.secondsFrom_eq {fault : ConfigFault}
    (hviolated : (Check.number name).Violated lookup fault) (standard : Duration) :
    secondsFrom lookup name standard = .error fault := by
  cases hviolated with
  | number hset hmisspells => exact secondsFrom_eq_error_iff.2 ⟨_, _, hset, rfl, hmisspells⟩

theorem Gives.passed (hgives : Gives lookup name standard count) :
    (Check.number name).Passed lookup := by
  intro fault hviolated
  cases (secondsFrom_of_gives hgives).symm.trans (hviolated.secondsFrom_eq _)

/-- An environment gives a count for a variable unless the check of its number is violated. -/
theorem violated_or_gives (lookup : String → Option String) (name : String) (standard : UInt64) :
    (∃ fault, (Check.number name).Violated lookup fault) ∨
      ∃ count, Gives lookup name standard count := by
  cases hset : lookup name with
  | none => exact .inr ⟨standard, .inl ⟨hset, rfl⟩⟩
  | some text =>
    cases hread : readSeconds text with
    | error cause => exact .inl ⟨_, .number hset (readSeconds_eq_error_iff.1 hread)⟩
    | ok duration =>
      obtain ⟨count, hspells, -⟩ := readSeconds_eq_ok_iff.1 hread
      exact .inr ⟨count, .inr ⟨text, hset, hspells⟩⟩

end Gives

/-! ### Checks that are passed -/

section Checks

variable {resync initial max : UInt64}

theorem passed_emptyName (hname : lookup controllerNameVariable ≠ some "") :
    Check.emptyName.Passed lookup := by
  intro fault hviolated
  cases hviolated with
  | emptyName hempty => exact hname hempty

theorem passed_zeroResync (hresync : Gives lookup resyncVariable 300 resync)
    (hpositive : resync ≠ 0) : Check.zeroResync.Passed lookup := by
  intro fault hviolated
  cases hviolated with
  | zeroResync hzero => exact hpositive (hresync.unique hzero)

theorem passed_zeroInitial (hinitial : Gives lookup backoffInitialVariable 5 initial)
    (hpositive : initial ≠ 0) : Check.zeroInitial.Passed lookup := by
  intro fault hviolated
  cases hviolated with
  | zeroInitial hzero => exact hpositive (hinitial.unique hzero)

theorem passed_inverted (hinitial : Gives lookup backoffInitialVariable 5 initial)
    (hmax : Gives lookup backoffMaxVariable 300 max) (hle : ¬max < initial) :
    Check.inverted.Passed lookup := by
  intro fault hviolated
  cases hviolated with
  | inverted hinitial' hmax' hless =>
    rw [hinitial'.unique hinitial, hmax'.unique hmax] at hless
    exact hle hless

theorem Meaningful.passed (hmeaningful : Meaningful lookup resync initial max) :
    ∀ check ∈ Check.order, check.Passed lookup := by
  simp only [Check.order, List.forall_mem_cons, List.not_mem_nil, false_implies, implies_true,
    and_true]
  refine ⟨hmeaningful.gives_resync.passed, hmeaningful.gives_initial.passed,
    hmeaningful.gives_max.passed, passed_emptyName hmeaningful.name_ne_empty,
    passed_zeroResync hmeaningful.gives_resync ?_,
    passed_zeroInitial hmeaningful.gives_initial ?_,
    passed_inverted hmeaningful.gives_initial hmeaningful.gives_max ?_⟩
  · exact UInt64.pos_iff_ne_zero.1 hmeaningful.resync_pos
  · exact UInt64.pos_iff_ne_zero.1 hmeaningful.initial_pos
  · exact UInt64.not_lt.2 hmeaningful.initial_le_max

/-! ### The first check that is violated -/

/-- A check reports one thing only. -/
theorem Check.Violated.unique {check : Check} {fault other : ConfigFault}
    (hfault : check.Violated lookup fault) (hother : check.Violated lookup other) :
    fault = other := by
  cases hfault with
  | number hset hmisspells =>
    have hfirst := (Check.Violated.number hset hmisspells).secondsFrom_eq default
    exact Except.error.inj (hfirst.symm.trans (hother.secondsFrom_eq default))
  | emptyName => cases hother; rfl
  | zeroResync => cases hother; rfl
  | zeroInitial => cases hother; rfl
  | inverted hinitial hmax =>
    cases hother with
    | inverted hinitial' hmax' => rw [hinitial.unique hinitial', hmax.unique hmax']

theorem FirstViolated.unique {checks : List Check} {fault other : ConfigFault}
    (hfault : FirstViolated lookup checks fault) (hother : FirstViolated lookup checks other) :
    fault = other := by
  induction hfault with
  | here hviolated =>
    cases hother with
    | here hviolated' => exact hviolated.unique hviolated'
    | later hpassed => exact absurd hviolated (hpassed _)
  | later hpassed _ ih =>
    cases hother with
    | here hviolated => exact absurd hviolated (hpassed _)
    | later _ hlater => exact ih hlater

theorem FirstViolated.exists_violated {checks : List Check} {fault : ConfigFault}
    (hfault : FirstViolated lookup checks fault) :
    ∃ check ∈ checks, check.Violated lookup fault := by
  induction hfault with
  | here hviolated => exact ⟨_, List.mem_cons_self, hviolated⟩
  | later _ _ ih =>
    obtain ⟨check, hmem, hviolated⟩ := ih
    exact ⟨check, List.mem_cons_of_mem _ hmem, hviolated⟩

/-! ### Loading -/

variable (lookup) in
/-- The configuration of an environment that gives these counts. -/
def configured (resync initial max : UInt64) : Config where
  controllerName := (lookup controllerNameVariable).getD "ghost-controller"
  resyncInterval := .ofSeconds resync
  backoffInitial := .ofSeconds initial
  backoffMax := .ofSeconds max
  watchNamespace := (lookup watchNamespaceVariable).filter fun value ↦ value ≠ ""

/-- Once the counts are read, the configuration that they make is checked. -/
theorem load_of_gives (hresync : Gives lookup resyncVariable 300 resync)
    (hinitial : Gives lookup backoffInitialVariable 5 initial)
    (hmax : Gives lookup backoffMaxVariable 300 max) :
    load lookup = (configured lookup resync initial max).checked := by
  have hresync' := secondsFrom_of_gives hresync
  have hinitial' := secondsFrom_of_gives hinitial
  have hmax' := secondsFrom_of_gives hmax
  simp only [load, hresync', hinitial', hmax', bind, Except.bind]
  rfl

theorem controllerName_configured_eq_empty :
    (configured lookup resync initial max).controllerName = "" ↔
      lookup controllerNameVariable = some "" := by
  change (lookup controllerNameVariable).getD "ghost-controller" = "" ↔ _
  cases lookup controllerNameVariable with
  | none => simp
  | some name => simp

/-- What is checked of a configuration, said of the environment that it comes from. -/
theorem check_configured : (configured lookup resync initial max).check =
    if lookup controllerNameVariable = some "" then .error .emptyName
    else if resync = 0 then .error .zeroResync
    else if initial = 0 then .error .zeroInitial
    else if max < initial then .error (.inverted (.ofSeconds initial) (.ofSeconds max))
    else .ok () := by
  rw [check_eq]
  simp only [controllerName_configured_eq_empty]
  simp only [configured, Duration.nanoseconds_ofSeconds_eq_zero, Duration.ofSeconds_lt_ofSeconds]

theorem Meaningful.load_eq (hmeaningful : Meaningful lookup resync initial max) :
    load lookup = .ok (configured lookup resync initial max) := by
  rw [load_of_gives hmeaningful.gives_resync hmeaningful.gives_initial hmeaningful.gives_max,
    checked_eq, check_configured, if_neg hmeaningful.name_ne_empty,
    if_neg (UInt64.pos_iff_ne_zero.1 hmeaningful.resync_pos),
    if_neg (UInt64.pos_iff_ne_zero.1 hmeaningful.initial_pos),
    if_neg (UInt64.not_lt.2 hmeaningful.initial_le_max)]
  rfl

/-- Once the counts are read, the environment is meaningful or violates one of the other checks. -/
theorem meaningful_or_firstViolated (hresync : Gives lookup resyncVariable 300 resync)
    (hinitial : Gives lookup backoffInitialVariable 5 initial)
    (hmax : Gives lookup backoffMaxVariable 300 max) :
    Meaningful lookup resync initial max ∨
      ∃ fault, FirstViolated lookup [.emptyName, .zeroResync, .zeroInitial, .inverted] fault ∧
        (configured lookup resync initial max).check = .error fault := by
  rw [check_configured]
  by_cases hname : lookup controllerNameVariable = some ""
  · rw [if_pos hname]
    exact .inr ⟨_, .here (.emptyName hname), rfl⟩
  rw [if_neg hname]
  have hpassedName := passed_emptyName hname
  by_cases hresync₀ : resync = 0
  · rw [if_pos hresync₀]
    exact .inr ⟨_, .later hpassedName (.here (.zeroResync (hresync₀ ▸ hresync))), rfl⟩
  rw [if_neg hresync₀]
  have hpassedResync := passed_zeroResync hresync hresync₀
  by_cases hinitial₀ : initial = 0
  · rw [if_pos hinitial₀]
    exact .inr ⟨_, .later hpassedName (.later hpassedResync
      (.here (.zeroInitial (hinitial₀ ▸ hinitial)))), rfl⟩
  rw [if_neg hinitial₀]
  have hpassedInitial := passed_zeroInitial hinitial hinitial₀
  by_cases hinverted : max < initial
  · rw [if_pos hinverted]
    exact .inr ⟨_, .later hpassedName (.later hpassedResync (.later hpassedInitial
      (.here (.inverted hinitial hmax hinverted)))), rfl⟩
  · exact .inl ⟨hresync, hinitial, hmax, UInt64.pos_iff_ne_zero.2 hresync₀,
      UInt64.pos_iff_ne_zero.2 hinitial₀, UInt64.not_lt.1 hinverted, hname⟩

/-- An environment is meaningful, or it is refused for the first check that it violates. -/
theorem load_cases (lookup : String → Option String) :
    (∃ resync initial max, Meaningful lookup resync initial max) ∨
      ∃ fault, FirstViolated lookup Check.order fault ∧ load lookup = .error fault := by
  rcases violated_or_gives lookup resyncVariable 300 with ⟨fault, hviolated⟩ | ⟨resync, hresync⟩
  · refine .inr ⟨fault, .here hviolated, ?_⟩
    have hread : secondsFrom lookup resyncVariable (.ofSeconds 300) = .error fault :=
      hviolated.secondsFrom_eq _
    simp only [load, hread, bind, Except.bind]
  rcases violated_or_gives lookup backoffInitialVariable 5 with
    ⟨fault, hviolated⟩ | ⟨initial, hinitial⟩
  · refine .inr ⟨fault, .later hresync.passed (.here hviolated), ?_⟩
    have hread : secondsFrom lookup backoffInitialVariable (.ofSeconds 5) = .error fault :=
      hviolated.secondsFrom_eq _
    simp only [load, secondsFrom_of_gives hresync, hread, bind, Except.bind]
  rcases violated_or_gives lookup backoffMaxVariable 300 with ⟨fault, hviolated⟩ | ⟨max, hmax⟩
  · refine .inr ⟨fault, .later hresync.passed (.later hinitial.passed (.here hviolated)), ?_⟩
    have hread : secondsFrom lookup backoffMaxVariable (.ofSeconds 300) = .error fault :=
      hviolated.secondsFrom_eq _
    simp only [load, secondsFrom_of_gives hresync, secondsFrom_of_gives hinitial, hread, bind,
      Except.bind]
  rcases meaningful_or_firstViolated hresync hinitial hmax with
    hmeaningful | ⟨fault, hfirst, herror⟩
  · exact .inl ⟨resync, initial, max, hmeaningful⟩
  · refine .inr ⟨fault, .later hresync.passed (.later hinitial.passed
      (.later hmax.passed hfirst)), ?_⟩
    rw [load_of_gives hresync hinitial hmax, checked_eq, herror]
    rfl

/-- No environment that is meaningful violates a check. -/
theorem Meaningful.not_firstViolated (hmeaningful : Meaningful lookup resync initial max)
    {fault : ConfigFault} : ¬FirstViolated lookup Check.order fault := by
  intro hfirst
  obtain ⟨check, hmem, hviolated⟩ := hfirst.exists_violated
  exact hmeaningful.passed check hmem fault hviolated

theorem load_eq_error_iff {fault : ConfigFault} :
    load lookup = .error fault ↔ FirstViolated lookup Check.order fault := by
  rcases load_cases lookup with ⟨resync, initial, max, hmeaningful⟩ | ⟨other, hfirst, herror⟩
  · rw [hmeaningful.load_eq]
    constructor
    · rintro ⟨⟩
    · intro hfirst
      exact absurd hfirst hmeaningful.not_firstViolated
  · rw [herror, Except.error.injEq]
    constructor
    · rintro rfl
      exact hfirst
    · exact hfirst.unique

end Checks

end Config

open Config

/-- Whatever an environment holds, it is loaded exactly if it is meaningful: every count that is set
is the spelling of a number of 64 bits, and with the standard ones for those that are not set, the
resync interval and the first wait are not zero, the first wait is not longer than the longest, and
the name is not empty if it is set. The configuration then has these values, the name that is set or
the standard one, and the namespace that is set if it is not empty. Every other environment is
refused for the first check that it violates. -/
theorem loads_meaningful (lookup : String → Option String) :
    ((∃ config, load lookup = .ok config) ↔
      ∃ resync initial max, Meaningful lookup resync initial max) ∧
    (∀ resync initial max, Meaningful lookup resync initial max →
      ∃ config, load lookup = .ok config ∧
        config.controllerName = (lookup controllerNameVariable).getD "ghost-controller" ∧
        config.resyncInterval = .ofSeconds resync ∧
        config.backoffInitial = .ofSeconds initial ∧
        config.backoffMax = .ofSeconds max ∧
        ∀ watched, config.watchNamespace = some watched ↔
          lookup watchNamespaceVariable = some watched ∧ watched ≠ "") ∧
    ∀ fault, load lookup = .error fault ↔ FirstViolated lookup Check.order fault := by
  refine ⟨⟨?_, ?_⟩, ?_, fun _ ↦ load_eq_error_iff⟩
  · rintro ⟨config, hload⟩
    rcases load_cases lookup with hmeaningful | ⟨fault, -, herror⟩
    · exact hmeaningful
    · cases hload.symm.trans herror
  · rintro ⟨resync, initial, max, hmeaningful⟩
    exact ⟨_, hmeaningful.load_eq⟩
  · intro resync initial max hmeaningful
    refine ⟨_, hmeaningful.load_eq, rfl, rfl, rfl, rfl, fun watched ↦ ?_⟩
    simp [configured, Option.filter_eq_some_iff]

/-- A first wait of ten minutes is longer than the standard longest wait, and is accepted with a
longest wait of a quarter of an hour. A longest wait that is misspelt is reported before that the
name is empty. -/
theorem loads_meaningful_first_wait :
    let lookup (called max : Option String) (name : String) : Option String :=
      if name = controllerNameVariable then called
      else if name = backoffInitialVariable then some "600"
      else if name = backoffMaxVariable then max
      else if name = watchNamespaceVariable then some "" else none
    load (lookup none none) = .error (.inverted (.ofSeconds 600) (.ofSeconds 300)) ∧
      load (lookup (some "") (some "1h")) =
        .error (.number backoffMaxVariable "1h" .invalidDigit) ∧
      Meaningful (lookup none (some " 900 ")) 300 600 900 ∧
      ∃ config, load (lookup none (some " 900 ")) = .ok config ∧
        config.backoffMax = .ofSeconds 900 ∧ config.controllerName = "ghost-controller" := by
  intro lookup
  have hresync (called max : Option String) :
      Gives (lookup called max) resyncVariable 300 300 := .inl ⟨rfl, rfl⟩
  have hinitial (called max : Option String) :
      Gives (lookup called max) backoffInitialVariable 5 600 :=
    .inr ⟨"600", rfl, spells_iff.2 (by decide)⟩
  have hmeaningful : Meaningful (lookup none (some " 900 ")) 300 600 900 :=
    { gives_resync := hresync _ _
      gives_initial := hinitial _ _
      gives_max := .inr ⟨" 900 ", rfl, spells_iff.2 (by decide)⟩
      resync_pos := by decide
      initial_pos := by decide
      initial_le_max := by decide
      name_ne_empty := by decide }
  refine ⟨?_, ?_, hmeaningful, ?_⟩
  · have hmax : Gives (lookup none none) backoffMaxVariable 300 300 := .inl ⟨rfl, rfl⟩
    refine ((loads_meaningful _).2.2 _).2 ?_
    exact .later (hresync _ _).passed <| .later (hinitial _ _).passed <| .later hmax.passed <|
      .later (passed_emptyName (by decide)) <|
      .later (passed_zeroResync (hresync _ _) (by decide)) <|
      .later (passed_zeroInitial (hinitial _ _) (by decide)) <|
      .here (.inverted (hinitial _ _) hmax (by decide))
  · refine ((loads_meaningful _).2.2 _).2 ?_
    exact .later (hresync _ _).passed <| .later (hinitial _ _).passed <|
      .here (.number rfl (readSeconds_eq_error_iff.1 rfl))
  · obtain ⟨config, hload, hname, -, -, hmax, -⟩ := (loads_meaningful _).2.1 _ _ _ hmeaningful
    exact ⟨config, hload, hmax, hname⟩

end BlogOperator

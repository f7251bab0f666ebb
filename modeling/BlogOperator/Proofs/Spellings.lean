import BlogOperator.Config.Wire
import BlogOperator.Ghost.Wire
import BlogOperator.Proofs.Readings

/-!
# Spellings of what is declared

A specification, a condition, a status and a configuration can each be spelled in many ways:
`Spelt` says in which. What is written for a value is one of its spellings, all of them are read as
the value (`Codec.Lossless`), and so nothing is lost between the library and whoever writes or
rewrites an object in between: a member that is renamed on one side only, a default that differs
from what is left out, or a number that is cut on its way would show here. A duration is spelled by
whole seconds and the nanoseconds beyond them, and has no other members.

`declared_lossless` states this for the four kinds of values. It also says what is refused: a number
of pods that is not a whole number of 32 bits, a status of a condition that is not one of the three
verdicts, and an object in which a member is missing that has no default.
-/

set_option autoImplicit false

namespace BlogOperator

open BlogOperator.Json BlogOperator.Time

/-! ### Scalars and lists -/

namespace Json

variable {α β : Type}

namespace Form

theorem refuses_of_forall {form : Form α} {json : Json}
    (hnone : ∀ value, form.value json ≠ .ok value) : form.Refuses json := by
  unfold Refuses
  cases hread : form.value json with
  | ok value => exact absurd hread (hnone value)
  | error fault => exact ⟨fault, rfl⟩

/-- Whole numbers within bounds are read, and nothing else. -/
theorem value_integer {expected : String} {low high : Int} {json : Json} {value : Int} :
    (integer expected low high).value json = .ok value ↔
      json = Json.integer value ∧ low ≤ value ∧ value ≤ high := by
  constructor
  · intro hread
    cases json with
    | number number =>
      cases number with
      | integer other =>
        change (if low ≤ other ∧ other ≤ high then Except.ok other else .error _) = _ at hread
        by_cases hbounds : low ≤ other ∧ other ≤ high
        · rw [if_pos hbounds] at hread
          cases hread
          exact ⟨rfl, hbounds⟩
        · rw [if_neg hbounds] at hread
          cases hread
      | decimal other => cases hread
    | null => cases hread
    | bool other => cases hread
    | text other => cases hread
    | list items => cases hread
    | object members => cases hread
  · rintro ⟨rfl, hbounds⟩
    exact if_pos hbounds

theorem reading?_integer {expected : String} {low high value : Int} (hlow : low ≤ value)
    (hhigh : value ≤ high) (change : Int → α) :
    ((integer expected low high).map change).reading? (Json.integer value) =
      some (change value) := by
  have hread : (integer expected low high).reading? (Json.integer value) = some value :=
    reading?_eq_some.2 (value_integer.2 ⟨rfl, hlow, hhigh⟩)
  rw [reading?_map, hread, Option.map_some]

/-- A value that is no whole number within the bounds is refused. -/
theorem refuses_integer {expected : String} {low high : Int} {change : Int → α} {json : Json}
    (hother : ∀ number : Int, low ≤ number → number ≤ high → json ≠ Json.integer number) :
    ((integer expected low high).map change).Refuses json := by
  rw [← reading?_eq_none, reading?_map, Option.map_eq_none_iff, reading?_eq_none]
  refine refuses_of_forall fun value hread ↦ ?_
  obtain ⟨hjson, hlow, hhigh⟩ := value_integer.1 hread
  exact hother value hlow hhigh hjson

theorem reading?_int32 (count : Int32) :
    int32.reading? (Json.integer count.toInt) = some count := by
  have hlow : -2147483648 ≤ count.toInt := count.le_toInt
  have hhigh : count.toInt < 2147483648 := count.toInt_lt
  unfold int32
  rw [reading?_integer hlow (Int.le_of_lt_add_one hhigh), Int32.ofInt_toInt]

theorem reading?_uint64 {value : Nat} (hvalue : value < UInt64.size) :
    uint64.reading? (Json.integer value) = some (UInt64.ofNat value) := by
  have hhigh : (value : Int) ≤ 18446744073709551615 :=
    Int.le_of_lt_add_one (Int.ofNat_lt.2 hvalue)
  unfold uint64
  rw [reading?_integer (Int.natCast_nonneg value) hhigh, Int.toNat_natCast]

theorem reading?_uint32 {value : Nat} (hvalue : value < UInt32.size) :
    uint32.reading? (Json.integer value) = some (UInt32.ofNat value) := by
  have hhigh : (value : Int) ≤ 4294967295 :=
    Int.le_of_lt_add_one (Int.ofNat_lt.2 hvalue)
  unfold uint32
  rw [reading?_integer (Int.natCast_nonneg value) hhigh, Int.toNat_natCast]

/-- A list is read item by item. -/
theorem reading?_list {form : Form α} {spelt : α → Json → Prop}
    (hread : ∀ value json, spelt value json → form.value json = .ok value) {values : List α}
    {jsons : List Json} (hspelt : List.Forall₂ spelt values jsons) :
    (list form).reading? (.list jsons) = some values := by
  rw [reading?_eq_some]
  change jsons.mapM form.value = .ok values
  induction hspelt with
  | nil => rfl
  | cons hfirst hrest ih =>
    rw [List.mapM_cons, hread _ _ hfirst, ih]
    rfl

/-- A list with an item that is refused is refused. -/
theorem refuses_list {form : Form α} {json : Json} {jsons : List Json} (hmem : json ∈ jsons)
    (hrefused : form.Refuses json) : (list form).Refuses (.list jsons) := by
  change ∃ fault, jsons.mapM form.value = .error fault
  induction jsons with
  | nil => cases hmem
  | cons first rest ih =>
    rw [List.mapM_cons]
    cases hfirst : form.value first with
    | error fault => exact ⟨fault, rfl⟩
    | ok value =>
      rcases List.mem_cons.1 hmem with rfl | hlater
      · obtain ⟨fault, hfault⟩ := hrefused
        rw [hfirst] at hfault
        cases hfault
      · obtain ⟨fault, hfault⟩ := ih hlater
        rw [hfault]
        exact ⟨fault, rfl⟩

end Form

/-- All spellings of the fields of a value are read as the value. -/
theorem Codec.value_ofRecord {record : Record α} (hnodup : record.names.Nodup)
    {manner : Record.Manner} {build : α → β} {parts : β → α} {values : α} {fields : Members}
    (hfields : record.Fields values fields) {json : Json}
    (hspelt : Spelling fields manner.strict json) :
    (Codec.ofRecord record manner build parts).value json = .ok (build values) := by
  have hread := hfields.reading? hnodup Except.ok hspelt
  change (record.form manner).reading? json = some values at hread
  have hbuilt := Form.reading?_map (record.form manner) build json
  rw [hread] at hbuilt
  exact Form.reading?_eq_some.1 hbuilt

theorem Codec.refuses_ofRecord {record : Record α} {manner : Record.Manner} {build : α → β}
    {parts : β → α} {json : Json} (hrefused : (record.form manner).Refuses json) :
    (Codec.ofRecord record manner build parts).Refuses json := by
  rw [← Form.reading?_eq_none] at hrefused ⊢
  have hbuilt := Form.reading?_map (record.form manner) build json
  rw [hrefused] at hbuilt
  exact hbuilt

/-- Nothing is lost when values are written and read: what is written for a value is one of its
spellings, and comes back as the value when it is read; so does every other spelling; and what has
been read from anything at all comes back when it is written and read again. -/
structure Codec.Lossless (codec : Codec α) (spelt : α → Json → Prop) : Prop where
  written : ∀ value, spelt value (codec.write value)
  returned : ∀ value, codec.value (codec.write value) = .ok value
  read : ∀ value json, spelt value json → codec.value json = .ok value
  stable : ∀ json value, codec.value json = .ok value →
    codec.value (codec.write value) = .ok value

theorem Codec.Lossless.of_spelt {codec : Codec α} {spelt : α → Json → Prop}
    (hwritten : ∀ value, spelt value (codec.write value))
    (hread : ∀ value json, spelt value json → codec.value json = .ok value) :
    codec.Lossless spelt where
  written := hwritten
  returned := fun value ↦ hread value _ (hwritten value)
  read := hread
  stable := fun _ value _ ↦ hread value _ (hwritten value)

end Json

/-! ### Durations -/

namespace Time.Duration

/-- The ways to write a duration. -/
def Spelt (duration : Duration) : Json → Prop :=
  Spelling [("secs", .integer duration.seconds), ("nanos", .integer duration.nanos)] true

theorem nodup_names : record.names.Nodup := by decide

theorem fields (duration : Duration) :
    record.Fields (UInt64.ofNat duration.seconds, UInt32.ofNat duration.nanos, ())
      [("secs", .integer duration.seconds), ("nanos", .integer duration.nanos)] :=
  .cons (Form.reading?_uint64 duration.seconds_lt)
    (.cons (Form.reading?_uint32 duration.nanos_lt_size) .done)

/-- The seconds and nanoseconds of a duration make up the duration. -/
theorem ofWritten_parts (duration : Duration) :
    ofWritten (UInt64.ofNat duration.seconds, UInt32.ofNat duration.nanos, ()) =
      .ok duration := by
  have hparts : ofParts? (UInt64.ofNat duration.seconds) (UInt32.ofNat duration.nanos) =
      some duration := by
    unfold ofParts?
    rw [toNat_seconds, toNat_nanos, ofNanoseconds?_eq_some]
    exact duration.nanoseconds_eq
  unfold ofWritten
  dsimp only
  rw [hparts]
  rfl

theorem lossless : codec.Lossless Spelt := by
  refine .of_spelt ?_ ?_
  · intro duration
    have hwritten : codec.write duration =
        Json.record [("secs", .integer duration.seconds), ("nanos", .integer duration.nanos)] := by
      change Json.record [("secs", .integer (UInt64.ofNat duration.seconds).toNat),
        ("nanos", .integer (UInt32.ofNat duration.nanos).toNat)] = _
      rw [toNat_seconds, toNat_nanos]
    rw [hwritten]
    exact Spelling.record [("secs", .integer duration.seconds),
      ("nanos", .integer duration.nanos)] nodup_names true
  · intro duration json hspelt
    rw [← Form.reading?_eq_some]
    have hread : codec.reading? json = _ :=
      duration.fields.reading? nodup_names ofWritten hspelt
    rw [ofWritten_parts] at hread
    exact hread

end Time.Duration

/-! ### Specifications -/

namespace GhostSpec

/-- The ways to write a specification. -/
def Spelt (spec : GhostSpec) : Json → Prop :=
  Spelling [("imageTag", .text spec.imageTag), ("replicas", .integer spec.replicas.toInt),
    ("enableIngress", .bool spec.enableIngress)] false

theorem nodup_names : record.names.Nodup := by decide

theorem fields (spec : GhostSpec) :
    record.Fields (spec.imageTag, spec.replicas, spec.enableIngress, ())
      [("imageTag", .text spec.imageTag), ("replicas", .integer spec.replicas.toInt),
        ("enableIngress", .bool spec.enableIngress)] :=
  .cons rfl (.cons (Form.reading?_int32 spec.replicas) (.cons rfl .done))

theorem lossless : codec.Lossless Spelt := by
  refine .of_spelt ?_ ?_
  · intro spec
    exact Spelling.record (record.members (spec.imageTag, spec.replicas, spec.enableIngress, ()))
      nodup_names false
  · intro spec json hspelt
    exact Codec.value_ofRecord nodup_names spec.fields hspelt

end GhostSpec

/-! ### Conditions -/

namespace Verdict

theorem reading?_codec (verdict : Verdict) :
    codec.reading? (.text verdict.name) = some verdict := by
  cases verdict with
  | holds => rfl
  | fails => rfl
  | undetermined => rfl

/-- A verdict is found under its name only. -/
theorem name_of_variant {name : String} {verdict : Verdict}
    (hvariant : Form.variant names name = .ok verdict) : name = verdict.name := by
  by_cases hholds : name = "True"
  · subst hholds
    cases hvariant
    rfl
  by_cases hfails : name = "False"
  · subst hfails
    cases hvariant
    rfl
  by_cases hundetermined : name = "Unknown"
  · subst hundetermined
    cases hvariant
    rfl
  have hnone : names.lookup name = none := by
    simp [names, List.lookup_cons, beq_false_of_ne hholds, beq_false_of_ne hfails,
      beq_false_of_ne hundetermined]
  unfold Form.variant at hvariant
  rw [hnone] at hvariant
  cases hvariant

/-- Anything but a verdict by its name is refused as one. -/
theorem refuses_codec {json : Json} (hother : ∀ verdict : Verdict,
    json ≠ .text verdict.name ∧ json ≠ .object [(verdict.name, .null)]) : codec.Refuses json := by
  refine Form.refuses_of_forall fun verdict hread ↦ ?_
  obtain ⟨htext, hobject⟩ := hother verdict
  cases json with
  | text name => exact htext (congrArg _ (name_of_variant hread))
  | object members =>
    match members with
    | [(name, inner)] =>
      change (Form.variant names name >>= _ : Except Fault Verdict) = _ at hread
      cases hvariant : Form.variant names name with
      | error fault =>
        rw [hvariant] at hread
        cases hread
      | ok found =>
        rw [hvariant] at hread
        change (Form.nothing.value inner >>= fun _ ↦ Except.ok found) = _ at hread
        cases inner with
        | null =>
          cases hread
          exact hobject (name_of_variant hvariant ▸ rfl)
        | bool value => cases hread
        | number value => cases hread
        | text value => cases hread
        | list items => cases hread
        | object members => cases hread
    | [] => cases hread
    | _ :: _ :: _ => cases hread
  | null => cases hread
  | bool value => cases hread
  | number value => cases hread
  | list items => cases hread

end Verdict

namespace Condition

/-- The ways to write a condition. -/
def Spelt (condition : Condition) : Json → Prop :=
  Spelling [("type", .text condition.type), ("status", .text condition.status.name),
    ("reason", .text condition.reason), ("message", .text condition.message),
    ("lastTransitionTime", .text condition.lastTransitionTime)] false

theorem nodup_names : record.names.Nodup := by decide

theorem fields (condition : Condition) :
    record.Fields
      (condition.type, condition.status, condition.reason, condition.message,
        condition.lastTransitionTime, ())
      [("type", .text condition.type), ("status", .text condition.status.name),
        ("reason", .text condition.reason), ("message", .text condition.message),
        ("lastTransitionTime", .text condition.lastTransitionTime)] :=
  .cons rfl (.cons condition.status.reading?_codec (.cons rfl (.cons rfl (.cons rfl .done))))

theorem lossless : codec.Lossless Spelt := by
  refine .of_spelt ?_ ?_
  · intro condition
    exact Spelling.record
      (record.members (condition.type, condition.status, condition.reason, condition.message,
        condition.lastTransitionTime, ())) nodup_names false
  · intro condition json hspelt
    exact Codec.value_ofRecord nodup_names condition.fields hspelt

end Condition

/-! ### Statuses -/

namespace GhostStatus

/-- The ways to write a status. -/
def Spelt (status : GhostStatus) (json : Json) : Prop :=
  ∃ conditions, List.Forall₂ Condition.Spelt status.conditions conditions ∧
    Spelling [("conditions", .list conditions)] false json

theorem nodup_names : record.names.Nodup := by decide

theorem lossless : codec.Lossless Spelt := by
  refine .of_spelt ?_ ?_
  · intro status
    refine ⟨status.conditions.map Condition.codec.write, ?_, ?_⟩
    · rw [List.forall₂_map_right_iff]
      exact List.forall₂_same.2 fun condition _ ↦ Condition.lossless.written condition
    · exact Spelling.record (record.members (status.conditions, ())) nodup_names false
  · rintro status json ⟨conditions, hconditions, hspelt⟩
    have hread := Form.reading?_list Condition.lossless.read hconditions
    have hfields : record.Fields (status.conditions, ()) [("conditions", .list conditions)] :=
      .cons hread .done
    exact Codec.value_ofRecord nodup_names hfields hspelt

end GhostStatus

/-! ### Configurations -/

namespace Config

/-- The ways to write a configuration. -/
def Spelt (config : Config) (json : Json) : Prop :=
  ∃ resync initial max, config.resyncInterval.Spelt resync ∧ config.backoffInitial.Spelt initial ∧
    config.backoffMax.Spelt max ∧
    Spelling [("controller_name", .text config.controllerName), ("resync_interval", resync),
      ("backoff_initial", initial), ("backoff_max", max),
      ("watch_namespace", (config.watchNamespace.map Json.text).getD .null)] false json

theorem nodup_names : record.names.Nodup := by decide

theorem lossless : codec.Lossless Spelt := by
  refine .of_spelt ?_ ?_
  · intro config
    refine ⟨Duration.codec.write config.resyncInterval, Duration.codec.write config.backoffInitial,
      Duration.codec.write config.backoffMax, Duration.lossless.written _,
      Duration.lossless.written _, Duration.lossless.written _, ?_⟩
    exact Spelling.record
      (record.members (config.controllerName, config.resyncInterval, config.backoffInitial,
        config.backoffMax, config.watchNamespace, ())) nodup_names false
  · rintro config json ⟨resync, initial, max, hresync, hinitial, hmax, hspelt⟩
    have hwatched : Codec.string.toForm.nullable.reading?
        ((config.watchNamespace.map Json.text).getD .null) = some config.watchNamespace := by
      cases config.watchNamespace with
      | none => rfl
      | some watched => rfl
    have hfields : record.Fields
        (config.controllerName, config.resyncInterval, config.backoffInitial, config.backoffMax,
          config.watchNamespace, ())
        [("controller_name", .text config.controllerName), ("resync_interval", resync),
          ("backoff_initial", initial), ("backoff_max", max),
          ("watch_namespace", (config.watchNamespace.map Json.text).getD .null)] :=
      .cons rfl (.cons (Form.reading?_eq_some.2 (Duration.lossless.read _ _ hresync))
        (.cons (Form.reading?_eq_some.2 (Duration.lossless.read _ _ hinitial))
          (.cons (Form.reading?_eq_some.2 (Duration.lossless.read _ _ hmax))
            (.cons hwatched .done))))
    exact Codec.value_ofRecord nodup_names hfields hspelt

end Config

/-! ### Refusals -/

/-- A specification with a number of pods that is not a whole number of 32 bits is refused. -/
theorem GhostSpec.refuses_of_replicas {count json : Json}
    (hother : ∀ number : Int, -2147483648 ≤ number → number ≤ 2147483647 →
      count ≠ Json.integer number)
    (hfield : HasField ["imageTag", "replicas", "enableIngress"] "replicas" count json) :
    codec.Refuses json :=
  Codec.refuses_ofRecord
    (Record.refuses_of_hasField nodup_names (.inr (.inl ⟨rfl, Form.refuses_integer hother⟩)) hfield)

/-- A condition with a status that is not a verdict is refused. -/
theorem Condition.refuses_of_status {status json : Json}
    (hother : ∀ verdict : Verdict,
      status ≠ .text verdict.name ∧ status ≠ .object [(verdict.name, .null)])
    (hfield : HasField ["type", "status", "reason", "message", "lastTransitionTime"] "status"
      status json) : codec.Refuses json :=
  Codec.refuses_ofRecord
    (Record.refuses_of_hasField nodup_names (.inr (.inl ⟨rfl, Verdict.refuses_codec hother⟩))
      hfield)

/-- A status with a condition that is refused is refused. -/
theorem GhostStatus.refuses_of_condition {condition json : Json} {conditions : List Json}
    (hrefused : Condition.codec.Refuses condition) (hmem : condition ∈ conditions)
    (hfield : HasField ["conditions"] "conditions" (.list conditions) json) :
    codec.Refuses json :=
  Codec.refuses_ofRecord
    (Record.refuses_of_hasField nodup_names (.inl ⟨rfl, Form.refuses_list hmem hrefused⟩) hfield)

/-- A configuration with a duration that is refused is refused. -/
theorem Config.refuses_of_duration {name : String} {duration json : Json}
    (hrefused : Duration.codec.Refuses duration)
    (hname : name ∈ ["resync_interval", "backoff_initial", "backoff_max"])
    (hfield : HasField ["controller_name", "resync_interval", "backoff_initial", "backoff_max",
      "watch_namespace"] name duration json) : codec.Refuses json := by
  have hrefuses : record.RefusesAs name duration := by
    rcases List.mem_cons.1 hname with rfl | hlater
    · exact .inr (.inl ⟨rfl, hrefused⟩)
    rcases List.mem_cons.1 hlater with rfl | hlast
    · exact .inr (.inr (.inl ⟨rfl, hrefused⟩))
    cases List.mem_singleton.1 hlast
    exact .inr (.inr (.inr (.inl ⟨rfl, hrefused⟩)))
  exact Codec.refuses_ofRecord (Record.refuses_of_hasField nodup_names hrefuses hfield)

/-- Specifications, conditions, statuses and configurations come back when what is written for them
is read, in whatever spelling, and writing and reading what was read of anything at all changes
nothing. Refused is a specification in which the number of pods is not a whole number of 32 bits,
a condition in which the status is not a verdict, a status with a condition that is refused, a
configuration with a duration that is refused, and an object without a member that has no
default. -/
theorem declared_lossless :
    (GhostSpec.codec.Lossless GhostSpec.Spelt ∧ Condition.codec.Lossless Condition.Spelt ∧
      GhostStatus.codec.Lossless GhostStatus.Spelt ∧ Config.codec.Lossless Config.Spelt) ∧
    (∀ count json, (∀ number : Int, -2147483648 ≤ number → number ≤ 2147483647 →
        count ≠ Json.integer number) →
      HasField ["imageTag", "replicas", "enableIngress"] "replicas" count json →
        GhostSpec.codec.Refuses json) ∧
    (∀ status json, (∀ verdict : Verdict,
        status ≠ .text verdict.name ∧ status ≠ .object [(verdict.name, .null)]) →
      HasField ["type", "status", "reason", "message", "lastTransitionTime"] "status" status json →
        Condition.codec.Refuses json) ∧
    (∀ condition conditions json, Condition.codec.Refuses condition → condition ∈ conditions →
      HasField ["conditions"] "conditions" (.list conditions) json →
        GhostStatus.codec.Refuses json) ∧
    (∀ duration json, Duration.codec.Refuses duration →
      ∀ name ∈ ["resync_interval", "backoff_initial", "backoff_max"],
        HasField ["controller_name", "resync_interval", "backoff_initial", "backoff_max",
          "watch_namespace"] name duration json → Config.codec.Refuses json) ∧
    ∀ (members : Members) (name : String), name ∉ members.map Prod.fst →
      (name ∈ ["imageTag", "replicas"] → GhostSpec.codec.Refuses (.object members)) ∧
      (name ∈ ["type", "status", "reason", "message", "lastTransitionTime"] →
        Condition.codec.Refuses (.object members)) ∧
      (name ∈ ["controller_name", "resync_interval", "backoff_initial", "backoff_max"] →
        Config.codec.Refuses (.object members)) ∧
      (name ∈ ["secs", "nanos"] → Duration.codec.Refuses (.object members)) := by
  refine ⟨⟨GhostSpec.lossless, Condition.lossless, GhostStatus.lossless, Config.lossless⟩,
    ?_, ?_, ?_, ?_, ?_⟩
  · intro count json hother hfield
    exact GhostSpec.refuses_of_replicas hother hfield
  · intro status json hother hfield
    exact Condition.refuses_of_status hother hfield
  · intro condition conditions json hrefused hmem hfield
    exact GhostStatus.refuses_of_condition hrefused hmem hfield
  · intro duration json hrefused name hname hfield
    exact Config.refuses_of_duration hrefused hname hfield
  · intro members name hmissing
    refine ⟨?_, ?_, ?_, ?_⟩
    · intro hname
      exact Codec.refuses_ofRecord
        (Record.refuses_of_missing GhostSpec.nodup_names hname hmissing)
    · intro hname
      exact Codec.refuses_ofRecord
        (Record.refuses_of_missing Condition.nodup_names hname hmissing)
    · intro hname
      exact Codec.refuses_ofRecord
        (Record.refuses_of_missing Config.nodup_names hname hmissing)
    · intro hname
      exact Record.refuses_of_missing Duration.nodup_names hname hmissing

/-- A status whose one condition has its members in another order and one more among them is read
as what it says. A count beyond 32 bits is refused, and so are a status that is no verdict, the list
of conditions with such a status in it, and a configuration in which a wait has no nanoseconds. -/
theorem declared_lossless_marketing :
    let ready : Condition :=
      ⟨"GhostReady", .holds, "AllSubresourcesReady", "All subresources are ready", "now"⟩
    let respelled : Json := .object [
      ("status", .text "True"), ("type", .text "GhostReady"),
      ("reason", .text "AllSubresourcesReady"), ("message", .text "All subresources are ready"),
      ("lastTransitionTime", .text "now"), ("note", .bool true)]
    let unclear : Json := .list [.text "GhostReady", .text "Maybe", .text "", .text "", .text "now"]
    let short : Json := .object [("secs", .integer 5)]
    GhostStatus.codec.value (.object [("observed", .null), ("conditions", .list [respelled])]) =
        .ok ⟨[ready]⟩ ∧
      GhostSpec.codec.Refuses
        (.object [("replicas", .integer 2147483648), ("imageTag", .text "5")]) ∧
      Condition.codec.Refuses unclear ∧
      GhostStatus.codec.Refuses (.object [("conditions", .list [respelled, unclear])]) ∧
      Config.codec.Refuses (.list [.text "operator", short, short, short]) := by
  intro ready respelled unclear short
  obtain ⟨⟨-, -, hstatus, -⟩, hcount, hverdict, hcondition, hduration, hmissing⟩ :=
    declared_lossless
  have hrespelled : ready.Spelt respelled := by
    refine .object (.swap _ _ _) ?_ (fun hstrict ↦ nomatch hstrict)
    intro member hmem
    cases List.mem_singleton.1 hmem
    decide
  have hspelt : GhostStatus.Spelt ⟨[ready]⟩
      (.object [("observed", .null), ("conditions", .list [respelled])]) := by
    refine ⟨[respelled], .cons hrespelled .nil, .object (.swap _ _ _) ?_
      (fun hstrict ↦ nomatch hstrict)⟩
    intro member hmem
    cases List.mem_singleton.1 hmem
    decide
  have hunclear : Condition.codec.Refuses unclear := by
    refine hverdict (.text "Maybe") _ ?_ (.list 1 rfl rfl)
    intro verdict
    cases verdict with
    | holds => simp [Verdict.name]
    | fails => simp [Verdict.name]
    | undetermined => simp [Verdict.name]
  have hlarge : ∀ number : Int, -2147483648 ≤ number → number ≤ 2147483647 →
      Json.integer 2147483648 ≠ Json.integer number := by
    intro number hlow hhigh hsame
    injection hsame with hnumber
    injection hnumber with hvalue
    omega
  have hshort : Duration.codec.Refuses short :=
    (hmissing [("secs", .integer 5)] "nanos" (by decide)).2.2.2 (by decide)
  refine ⟨hstatus.read _ _ hspelt, ?_, hunclear, ?_, ?_⟩
  · exact hcount (.integer 2147483648) _ hlarge (.object (by simp))
  · exact hcondition unclear _ _ hunclear (by simp) (.object (List.mem_singleton.2 rfl))
  · exact hduration short _ hshort "backoff_max" (by decide) (.list 3 rfl rfl)

end BlogOperator

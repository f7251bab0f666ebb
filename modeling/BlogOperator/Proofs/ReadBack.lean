import BlogOperator.Http.Event
import BlogOperator.Proofs.FaithfulRecord
import BlogOperator.Proofs.FaithfulSchema
import BlogOperator.Proofs.Spellings

/-!
# What is written is read back

Everything that this library reads from a text it reads by forms that are faithful: the four kinds
of children, blogs, configurations, and what the cluster answers besides. Each of these forms is put
together from parts that are, so that there is nothing to prove of it but what its parts are; a port
reference alone has a reader of its own.

Values of the declared types are written without loss (`Codec.Lossless`), and what is written for
them can be held by a text: members are put in order when they are written, whatever order they come
in (`Textual.record`). So such a value comes back when its text is read (`written_and_read`).
-/

set_option autoImplicit false

namespace BlogOperator

open BlogOperator.Json BlogOperator.Json.Scan BlogOperator.Time

/-! ### Parts of many objects -/

namespace Kubernetes

/-- A reference to a port begins like a number or like a text. -/
instance faithful_portReference : PortReference.form.Faithful where
  reads levels json hjson rest hrest := by
    cases json with
    | number value =>
      have hread : (Scan.number >>= fun value ↦
          Scan.ofExcept (PortReference.ofNumber value)).Reads levels
            ((Json.number value).characters ++ rest) rest (PortReference.ofNumber value) :=
        Form.reads_accepted hjson hrest _
      obtain ⟨mark, more, hcharacters, hmark⟩ := hjson.exists_mark
      have hother := Marks.not_mem_of_number hmark
      have hnumber : (decide (mark = '-') || mark.isDigit) = true := by simpa [Marks] using hmark
      rw [hcharacters] at hread ⊢
      refine Form.reads_begins hmark.isSpace_eq_false ?_ hread
      split
      iterate 3 exact absurd (by decide) hother
      exact if_pos hnumber
    | text value =>
      have hread : (PortReference.name <$> Scan.text).Reads levels
          ((Json.text value).characters ++ rest) rest (.ok (.name value)) :=
        (Scan.reads_text value).map PortReference.name
      rw [characters_text] at hread ⊢
      exact Form.reads_begins (by decide) rfl hread
    | list items =>
      rw [characters_list, List.cons_append]
      exact Form.reads_begins (by decide) rfl ((refuses_refuse _).enclosed _).reads
    | object members =>
      rw [characters_object, List.cons_append]
      exact Form.reads_begins (by decide) rfl ((refuses_refuse _).enclosed _).reads
    | _ =>
      refine Form.reads_begins_other hjson ?_ _
      intro mark hmark
      split
      · obtain ⟨_, ⟨⟩⟩ := hmark.exists_text
      · obtain ⟨_, ⟨⟩⟩ := hmark.exists_list
      · obtain ⟨_, ⟨⟩⟩ := hmark.exists_object
      · refine if_neg fun hnumber ↦ ?_
        obtain ⟨_, ⟨⟩⟩ := hmark.exists_number (by simpa using hnumber)

instance faithful_portProperty (name : String) : (portProperty name).form.Faithful :=
  Form.faithful_map _ _

instance faithful_requiredPort (name : String) : (requiredPort name).form.Faithful :=
  Property.faithful_required _ _

instance faithful_instant : instantForm.Faithful :=
  Form.faithful_parsed _ _

instance faithful_second : secondForm.Faithful :=
  Form.faithful_map _ _

instance faithful_micro : microForm.Faithful :=
  Form.faithful_map _ _

instance faithful_timeProperty (name : String) : (timeProperty name).form.Faithful :=
  faithful_second

instance faithful_ownerReference : OwnerReference.form.Faithful := by
  unfold OwnerReference.form
  infer_instance

instance faithful_metadata : Metadata.form.Faithful := by
  unfold Metadata.form Metadata.otherSlots Metadata.otherProperties Metadata.managedFields
  infer_instance

instance faithful_metadataCodec : Metadata.codec.toForm.Faithful :=
  faithful_metadata

instance faithful_objectReference : ObjectReference.form.Faithful := by
  unfold ObjectReference.form
  infer_instance

/-! ### Parts of schemas -/

namespace Schema

instance faithful_matchExpressions : matchExpressions.form.Faithful := by
  unfold matchExpressions labelRequirement
  infer_instance

instance faithful_labelSelector (name : String) : (labelSelector name).form.Faithful := by
  unfold labelSelector
  infer_instance

instance faithful_localReference (name : String) : (localReference name).form.Faithful := by
  unfold localReference
  infer_instance

instance faithful_keySelector (name expected : String) :
    (keySelector name expected).form.Faithful := by
  unfold keySelector
  infer_instance

instance faithful_fieldSelector : fieldSelector.form.Faithful := by
  unfold fieldSelector
  infer_instance

instance faithful_resourceFieldSelector : resourceFieldSelector.form.Faithful := by
  unfold resourceFieldSelector
  infer_instance

instance faithful_lifecycleHandler (name : String) : (lifecycleHandler name).form.Faithful := by
  unfold lifecycleHandler execAction httpGetAction tcpSocketAction
  infer_instance

instance faithful_probe (name : String) : (probe name).form.Faithful := by
  unfold probe execAction httpGetAction tcpSocketAction
  infer_instance

instance faithful_resources : resources.form.Faithful := by
  unfold resources
  infer_instance

instance faithful_securityContext : securityContext.form.Faithful := by
  unfold securityContext profile seLinuxOptions windowsOptions
  infer_instance

instance faithful_variableSource : variableSource.form.Faithful := by
  unfold variableSource
  infer_instance

instance allFaithful_container : Property.AllFaithful container := by
  unfold container variablesSource
  infer_instance

instance faithful_nodeAffinity : nodeAffinity.form.Faithful := by
  unfold nodeAffinity nodeSelectorTerm labelRequirement
  infer_instance

instance faithful_podAffinity (name expected : String) :
    (podAffinity name expected).form.Faithful := by
  unfold podAffinity podAffinityTerm
  infer_instance

instance faithful_podSecurityContext : podSecurityContext.form.Faithful := by
  unfold podSecurityContext profile seLinuxOptions windowsOptions
  infer_instance

-- A pod and a volume have more properties than an instance is built of by default.
set_option synthInstance.maxSize 400 in
instance allFaithful_pod : Property.AllFaithful pod := by
  unfold pod
  dsimp only
  infer_instance

instance faithful_keyItems : keyItems.form.Faithful := by
  unfold keyItems
  infer_instance

instance faithful_downwardItems : downwardItems.form.Faithful := by
  unfold downwardItems
  infer_instance

instance allFaithful_projection : Property.AllFaithful projection := by
  unfold projection
  infer_instance

instance allFaithful_claim : Property.AllFaithful claim := by
  unfold claim typedLocalReference
  infer_instance

instance faithful_claimTemplate : claimTemplate.form.Faithful := by
  unfold claimTemplate volumeResources
  infer_instance

set_option synthInstance.maxSize 400 in
instance allFaithful_volume : Property.AllFaithful volume := by
  unfold volume
  infer_instance

instance faithful_deploymentStatus : deploymentStatus.form.Faithful := by
  unfold deploymentStatus
  infer_instance

instance faithful_claimStatus : claimStatus.form.Faithful := by
  unfold claimStatus
  infer_instance

instance faithful_generalCondition : generalCondition.Faithful := by
  unfold generalCondition
  infer_instance

instance faithful_serviceStatus : serviceStatus.form.Faithful := by
  unfold serviceStatus loadBalancer
  infer_instance

instance faithful_ingressStatus : ingressStatus.form.Faithful := by
  unfold ingressStatus loadBalancer
  infer_instance

end Schema

/-! ### Children -/

instance faithful_environmentVariable : EnvironmentVariable.form.Faithful := by
  unfold EnvironmentVariable.form
  infer_instance

instance faithful_containerPort : ContainerPort.form.Faithful := by
  unfold ContainerPort.form ContainerPort.otherProperties
  infer_instance

instance faithful_volumeMount : VolumeMount.form.Faithful := by
  unfold VolumeMount.form VolumeMount.otherProperties
  infer_instance

instance faithful_container : Container.form.Faithful := by
  unfold Container.form Container.slots
  infer_instance

instance faithful_ephemeralContainer : Container.ephemeralForm.Faithful := by
  unfold Container.ephemeralForm Container.slots
  infer_instance

instance faithful_volume : Volume.form.Faithful := by
  unfold Volume.form ClaimSource.form
  infer_instance

instance faithful_podSpec : PodSpec.form.Faithful := by
  unfold PodSpec.form PodSpec.otherProperties
  infer_instance

instance faithful_podTemplate : PodTemplate.form.Faithful := by
  unfold PodTemplate.form
  infer_instance

instance faithful_labelSelector : LabelSelector.form.Faithful := by
  unfold LabelSelector.form
  infer_instance

instance faithful_deploymentSpec : DeploymentSpec.form.Faithful := by
  unfold DeploymentSpec.form DeploymentSpec.otherProperties
  infer_instance

instance faithful_deployment : Deployment.form.Faithful := by
  unfold Deployment.form
  infer_instance

instance faithful_servicePort : ServicePort.form.Faithful := by
  unfold ServicePort.form ServicePort.otherProperties
  infer_instance

instance faithful_serviceSpec : ServiceSpec.form.Faithful := by
  unfold ServiceSpec.form ServiceSpec.otherProperties
  infer_instance

instance faithful_service : Service.form.Faithful := by
  unfold Service.form
  infer_instance

instance faithful_backend : Backend.form.Faithful := by
  unfold Backend.form BackendService.form BackendPort.form Schema.typedLocalReference
  infer_instance

instance faithful_ingressRule : IngressRule.form.Faithful := by
  unfold IngressRule.form IngressRule.pathsForm IngressPath.form
  infer_instance

instance faithful_ingressSpec : IngressSpec.form.Faithful := by
  unfold IngressSpec.form IngressSpec.otherProperties
  infer_instance

instance faithful_ingress : Ingress.form.Faithful := by
  unfold Ingress.form
  infer_instance

instance faithful_volumeClaimSpec : VolumeClaimSpec.form.Faithful := by
  unfold VolumeClaimSpec.form VolumeResources.form
  infer_instance

instance faithful_volumeClaim : VolumeClaim.form.Faithful := by
  unfold VolumeClaim.form
  infer_instance

end Kubernetes

/-- Children of every kind are read alike from texts and from values. -/
instance ChildKind.faithful_form (kind : ChildKind) : kind.form.Faithful :=
  match kind with
  | .volumeClaim => Kubernetes.faithful_volumeClaim
  | .deployment => Kubernetes.faithful_deployment
  | .service => Kubernetes.faithful_service
  | .ingress => Kubernetes.faithful_ingress

/-! ### Blogs and configurations -/

instance Verdict.faithful_codec : Verdict.codec.toForm.Faithful := by
  unfold Verdict.codec
  infer_instance

instance Condition.faithful_codec : Condition.codec.toForm.Faithful := by
  unfold Condition.codec Condition.record
  infer_instance

instance GhostSpec.faithful_codec : GhostSpec.codec.toForm.Faithful := by
  unfold GhostSpec.codec GhostSpec.record
  infer_instance

instance GhostStatus.faithful_codec : GhostStatus.codec.toForm.Faithful := by
  unfold GhostStatus.codec GhostStatus.record
  infer_instance

instance Ghost.faithful_form : Ghost.form.Faithful := by
  unfold Ghost.form Ghost.record
  infer_instance

instance Time.Duration.faithful_codec : Duration.codec.toForm.Faithful := by
  unfold Duration.codec Duration.record
  infer_instance

instance Config.faithful_codec : Config.codec.toForm.Faithful := by
  unfold Config.codec Config.record
  infer_instance

/-! ### Answers of the cluster -/

namespace Http

instance faithful_error : errorForm.Faithful := by
  unfold errorForm errorRecord
  infer_instance

instance faithful_cause : causeForm.Faithful := by
  unfold causeForm looseText
  infer_instance

instance faithful_details : detailsForm.Faithful := by
  unfold detailsForm looseText
  infer_instance

instance faithful_status : statusForm.Faithful := by
  unfold statusForm looseText looseValue
  infer_instance

instance faithful_series : Recorder.seriesForm.Faithful := by
  unfold Recorder.seriesForm
  infer_instance

instance faithful_event : Recorder.eventForm.Faithful := by
  unfold Recorder.eventForm
  infer_instance

end Http

/-! ### Declared values in texts -/

namespace Json

theorem textual_int32 {levels : Nat} (count : Int32) :
    Textual (levels + 1) (Json.integer count.toInt) := by
  have hlow : -2147483648 ≤ count.toInt := count.le_toInt
  have hhigh : count.toInt < 2147483648 := count.toInt_lt
  exact .integer (by omega) (by omega)

theorem textual_uint64 {levels : Nat} (count : UInt64) :
    Textual (levels + 1) (Json.integer count.toNat) := by
  have hhigh : count.toNat < 18446744073709551616 := count.toNat_lt
  exact .integer (by omega) (by omega)

theorem textual_uint32 {levels : Nat} (count : UInt32) :
    Textual (levels + 1) (Json.integer count.toNat) := by
  have hhigh : count.toNat < 4294967296 := count.toNat_lt
  exact .integer (by omega) (by omega)

/-- What is written without loss comes back when its text is read. -/
theorem Codec.Lossless.parse_write {α : Type} {codec : Codec α} {spelt : α → Json → Prop}
    (hlossless : codec.Lossless spelt) [codec.toForm.Faithful] {value : α}
    (hwritten : Textual nestingLimit (codec.write value)) :
    codec.parse (codec.write value).compact = .ok value :=
  Form.parse_compact_of_value (hlossless.returned value) hwritten

end Json

theorem GhostSpec.textual {levels : Nat} (spec : GhostSpec) :
    Textual (levels + 2) (codec.write spec) := by
  have hmembers : ∀ member ∈ record.members (spec.imageTag, spec.replicas, spec.enableIngress, ()),
      Textual (levels + 1) member.2 := by
    rintro member (_ | ⟨_, _ | ⟨_, _ | ⟨_, ⟨⟩⟩⟩⟩)
    · exact .text spec.imageTag
    · exact textual_int32 spec.replicas
    · exact .bool spec.enableIngress
  exact .record hmembers

theorem Condition.textual {levels : Nat} (condition : Condition) :
    Textual (levels + 2) (codec.write condition) := by
  have hmembers : ∀ member ∈ record.members (condition.type, condition.status, condition.reason,
      condition.message, condition.lastTransitionTime, ()), Textual (levels + 1) member.2 := by
    rintro member (_ | ⟨_, _ | ⟨_, _ | ⟨_, _ | ⟨_, _ | ⟨_, ⟨⟩⟩⟩⟩⟩⟩)
    · exact .text condition.type
    · exact .text condition.status.name
    · exact .text condition.reason
    · exact .text condition.message
    · exact .text condition.lastTransitionTime
  exact .record hmembers

theorem GhostStatus.textual {levels : Nat} (status : GhostStatus) :
    Textual (levels + 4) (codec.write status) := by
  have hconditions :
      Textual (levels + 3) (.list (status.conditions.map Condition.codec.write)) := by
    refine .list fun json hjson ↦ ?_
    obtain ⟨condition, -, rfl⟩ := List.mem_map.1 hjson
    exact condition.textual
  have hmembers : ∀ member ∈ record.members (status.conditions, ()),
      Textual (levels + 3) member.2 := by
    rintro member (_ | ⟨_, ⟨⟩⟩)
    exact hconditions
  exact .record hmembers

theorem Time.Duration.textual {levels : Nat} (duration : Duration) :
    Textual (levels + 2) (codec.write duration) := by
  have hmembers : ∀ member ∈ record.members (UInt64.ofNat duration.seconds,
      UInt32.ofNat duration.nanos, ()), Textual (levels + 1) member.2 := by
    rintro member (_ | ⟨_, _ | ⟨_, ⟨⟩⟩⟩)
    · exact textual_uint64 _
    · exact textual_uint32 _
  exact .record hmembers

theorem Config.textual {levels : Nat} (config : Config) :
    Textual (levels + 3) (codec.write config) := by
  have hwatched : Textual (levels + 2)
      ((config.watchNamespace.map Codec.string.write).getD .null) := by
    cases config.watchNamespace with
    | none => exact .null
    | some watched => exact .text watched
  have hmembers : ∀ member ∈ record.members (config.controllerName, config.resyncInterval,
      config.backoffInitial, config.backoffMax, config.watchNamespace, ()),
      Textual (levels + 2) member.2 := by
    rintro member (_ | ⟨_, _ | ⟨_, _ | ⟨_, _ | ⟨_, _ | ⟨_, ⟨⟩⟩⟩⟩⟩⟩)
    · exact .text config.controllerName
    · exact config.resyncInterval.textual
    · exact config.backoffInitial.textual
    · exact config.backoffMax.textual
    · exact hwatched
  exact .record hmembers

/-- A specification, a condition, a status or a configuration that is written to a text comes back
when the text is read. -/
theorem written_and_read :
    (∀ spec, GhostSpec.codec.parse (GhostSpec.codec.write spec).compact = .ok spec) ∧
    (∀ condition,
      Condition.codec.parse (Condition.codec.write condition).compact = .ok condition) ∧
    (∀ status, GhostStatus.codec.parse (GhostStatus.codec.write status).compact = .ok status) ∧
    ∀ config, Config.codec.parse (Config.codec.write config).compact = .ok config := by
  refine ⟨?_, ?_, ?_, ?_⟩
  · intro spec
    exact GhostSpec.lossless.parse_write spec.textual
  · intro condition
    exact Condition.lossless.parse_write condition.textual
  · intro status
    exact GhostStatus.lossless.parse_write status.textual
  · intro config
    exact Config.lossless.parse_write config.textual

end BlogOperator

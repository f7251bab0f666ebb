import BlogOperator.Json.Schema
import BlogOperator.Proofs.Faithful

/-!
# Schemas that are read alike

An object of an open schema is read alike from a text and from a value if each of its slots is
(`Form.faithful_schema`). A slot is made of a form and a change, so that it is read alike if its
form is, and a property is a slot of its own. Lists of slots and of properties are read alike if
each entry is (`Slot.AllFaithful`, `Property.AllFaithful`), and a schema that is given as such a list
is found to be faithful entry by entry.
-/

set_option autoImplicit false

namespace BlogOperator.Json

open Scan Form

variable {α β : Type} {levels : Nat} {rest : List Char}

/-- Slots each of which is read alike from a text and from a value. -/
class Slot.AllFaithful (slots : List (Slot α)) : Prop where
  all : ∀ slot ∈ slots, slot.form.Faithful

/-- Properties each of which is read alike from a text and from a value. -/
class Property.AllFaithful (properties : List Property) : Prop where
  all : ∀ property ∈ properties, property.form.Faithful

/-! ### Objects of an open schema -/

namespace Form

/-- One member of an object is put alike where its slot says. -/
theorem reads_putText (slots : List (Slot α)) [hslots : Slot.AllFaithful slots] (target : α)
    {member : String × Json} (hmember : Textual levels member.2) (hrest : Ends rest) :
    (putText slots target).Reads levels (memberCharacters member ++ rest) rest
      (putValue slots target member) := by
  unfold putText putValue
  refine (reads_name member).bind (reads_colon.bind ?_)
  cases hslot : slots.find? fun slot ↦ slot.name = member.1 with
  | none => exact (hmember.reads_skipValue hrest).bind (reads_pure target)
  | some slot =>
    have hform := hslots.all slot (List.mem_of_find?_eq_some hslot)
    exact (slot.form.reads_text hmember hrest).then fun _ _ ↦ reads_ofExcept _

instance faithful_schema (expected : String) (slots : List (Slot α)) [Slot.AllFaithful slots]
    (start : α) : (schema expected slots start).Faithful where
  reads levels json hjson rest hrest := by
    cases json with
    | list items =>
      rw [characters_list, List.cons_append]
      exact reads_begins (by decide) rfl ((refuses_refuse _).enclosed _).reads
    | object members =>
      cases hjson with
      | @object levels _ hmembers hordered =>
        have hread : (enclosed (repeated hasMember (putText slots) start) endObject).Reads
            (levels + 2) ((Json.object members).characters ++ rest) rest
            (members.foldlM (putValue slots) start) := by
          refine reads_object (reads_members ?_ start)
          intro member hmember target rest hrest
          exact reads_putText slots target (hmembers member hmember) hrest
        rw [characters_object] at hread ⊢
        exact reads_begins (by decide) rfl hread
    | _ =>
      refine reads_begins_other hjson ?_ _
      intro mark hmark
      split
      · obtain ⟨_, ⟨⟩⟩ := hmark.exists_list
      · obtain ⟨_, ⟨⟩⟩ := hmark.exists_object
      · rfl

end Form

/-! ### Slots -/

namespace Slot

instance faithful_optional (name : String) (form : Form β) [form.Faithful]
    (put : Option β → α → α) : (optional name form put).form.Faithful :=
  faithful_map _ _

instance faithful_filled (name : String) (form : Form β) [form.Faithful] (blank : β)
    (put : β → α → α) : (filled name form blank put).form.Faithful :=
  faithful_optional name form _

instance faithful_constant (name text : String) :
    (constant name text : Slot α).form.Faithful :=
  faithful_map _ _

instance allFaithful_nil : AllFaithful ([] : List (Slot α)) :=
  ⟨nofun⟩

instance allFaithful_cons (slot : Slot α) (slots : List (Slot α)) [slot.form.Faithful]
    [hslots : AllFaithful slots] : AllFaithful (slot :: slots) :=
  ⟨List.forall_mem_cons.2 ⟨inferInstance, hslots.all⟩⟩

instance allFaithful_append (former later : List (Slot α)) [hformer : AllFaithful former]
    [hlater : AllFaithful later] : AllFaithful (former ++ later) :=
  ⟨List.forall_mem_append.2 ⟨hformer.all, hlater.all⟩⟩

instance allFaithful_map (change : (Members → Members) → α → α) (properties : List Property)
    [hproperties : Property.AllFaithful properties] :
    AllFaithful (properties.map (Property.slot change)) where
  all slot hslot := by
    obtain ⟨property, hproperty, rfl⟩ := List.mem_map.1 hslot
    have hform := hproperties.all property hproperty
    exact faithful_optional property.name property.form _

end Slot

/-! ### Properties -/

instance Form.faithful_shape (expected : String) (properties : List Property)
    [Property.AllFaithful properties] : (shape expected properties).Faithful :=
  faithful_map _ _

instance Form.faithful_firmShape (expected : String) (firm : Property)
    (properties : List Property) [firm.form.Faithful] [Property.AllFaithful properties] :
    (firmShape expected firm properties).Faithful := by
  have hfirm : firm.firmSlot.form.Faithful := faithful_map _ _
  exact faithful_refine _ _

namespace Property

instance allFaithful_nil : AllFaithful [] :=
  ⟨nofun⟩

instance allFaithful_cons (property : Property) (properties : List Property)
    [property.form.Faithful] [hproperties : AllFaithful properties] :
    AllFaithful (property :: properties) :=
  ⟨List.forall_mem_cons.2 ⟨inferInstance, hproperties.all⟩⟩

instance allFaithful_append (former later : List Property) [hformer : AllFaithful former]
    [hlater : AllFaithful later] : AllFaithful (former ++ later) :=
  ⟨List.forall_mem_append.2 ⟨hformer.all, hlater.all⟩⟩

section Kinds

variable (name : String)

instance faithful_text : (text name).form.Faithful :=
  faithful_map _ _

instance faithful_flag : (flag name).form.Faithful :=
  faithful_map _ _

instance faithful_count : (count name).form.Faithful :=
  faithful_map _ _

instance faithful_longCount : (longCount name).form.Faithful :=
  faithful_map _ _

instance faithful_texts : (texts name).form.Faithful :=
  faithful_map _ _

instance faithful_labels : (labels name).form.Faithful :=
  faithful_map _ _

instance faithful_one (form : Form Json) [form.Faithful] : (one name form).form.Faithful :=
  inferInstanceAs form.Faithful

instance faithful_many (form : Form Json) [form.Faithful] : (many name form).form.Faithful :=
  faithful_map _ _

instance faithful_required (blank : Json) (property : Property) [property.form.Faithful] :
    (property.required blank).form.Faithful :=
  inferInstanceAs property.form.Faithful

instance faithful_requiredText : (requiredText name).form.Faithful :=
  faithful_required _ _

instance faithful_requiredCount : (requiredCount name).form.Faithful :=
  faithful_required _ _

instance faithful_requiredTexts : (requiredTexts name).form.Faithful :=
  faithful_required _ _

instance faithful_requiredMany (form : Form Json) [form.Faithful] :
    (requiredMany name form).form.Faithful :=
  faithful_required _ _

variable (expected : String) (properties : List Property) [AllFaithful properties]

instance faithful_shape : (shape name expected properties).form.Faithful :=
  faithful_one _ _

instance faithful_shapes : (shapes name expected properties).form.Faithful :=
  faithful_many _ _

instance faithful_requiredShape : (requiredShape name expected properties).form.Faithful :=
  faithful_required _ _

end Kinds

end Property

end BlogOperator.Json

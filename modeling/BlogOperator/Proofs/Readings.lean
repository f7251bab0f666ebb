import BlogOperator.Json.Record
import Mathlib.Data.Option.NAry
import Mathlib.Data.List.Nodup

/-!
# What records read

For which fault a form refuses a value does not matter here: `Form.reading?` is what the form reads,
if it reads anything. For a record this comes to two equations. From an object, a member is read
from the one value under its name, or is what it means to leave it out where there is none; two
values under one name are refused, and so are other members, if the manner is strict
(`Record.reading?_object`). From a list, the members are read from the items one after another
(`Record.reading?_list`).

Much follows from them. `Spelling` says in what ways an object with certain fields can be written:
with the fields in any order, with other members among them, or as the list of what is in the
fields. A record reads all spellings of its fields alike (`Record.Fields.reading?`). It refuses an
object or a list in which the value of a member is refused (`Record.refuses_of_hasField`), and an
object without a member that must be there (`Record.refuses_of_missing`).
-/

set_option autoImplicit false

namespace BlogOperator.Json

variable {α β τ : Type}

/-! ### Readings of forms -/

namespace Form

/-- What a form reads, whatever the fault if it reads nothing. -/
def reading? (form : Form α) (json : Json) : Option α :=
  (form.value json).toOption

/-- A form refuses a value if there is a fault in it. -/
def Refuses (form : Form α) (json : Json) : Prop :=
  ∃ fault, form.value json = .error fault

theorem reading?_eq_some {form : Form α} {json : Json} {value : α} :
    form.reading? json = some value ↔ form.value json = .ok value := by
  unfold reading?
  cases form.value json with
  | ok other => simp [Except.toOption]
  | error fault => simp [Except.toOption]

theorem reading?_eq_none {form : Form α} {json : Json} :
    form.reading? json = none ↔ form.Refuses json := by
  unfold reading? Refuses
  cases form.value json with
  | ok value => simp [Except.toOption]
  | error fault => simp [Except.toOption]

@[simp] theorem reading?_map (form : Form α) (change : α → β) (json : Json) :
    (form.map change).reading? json = (form.reading? json).map change := by
  change ((form.value json).map change).toOption = (form.value json).toOption.map change
  cases form.value json with
  | ok value => rfl
  | error fault => rfl

end Form

theorem toOption_bind {ε : Type} (first : Except ε α) (next : α → Except ε β) :
    (first >>= next).toOption = first.toOption.bind fun value ↦ (next value).toOption := by
  cases first with
  | ok value => rfl
  | error fault => rfl

/-! ### Objects -/

/-- The values that stand under a name among the members of an object. -/
def valuesUnder (name : String) (members : Members) : List Json :=
  (members.filter fun member ↦ member.1 = name).map Prod.snd

@[simp] theorem valuesUnder_nil (name : String) : valuesUnder name [] = [] := rfl

theorem valuesUnder_cons_self (name : String) (json : Json) (members : Members) :
    valuesUnder name ((name, json) :: members) = json :: valuesUnder name members := by
  simp [valuesUnder]

theorem valuesUnder_cons_of_ne {name other : String} (hother : other ≠ name) (json : Json)
    (members : Members) :
    valuesUnder name ((other, json) :: members) = valuesUnder name members := by
  simp [valuesUnder, hother]

theorem mem_valuesUnder {name : String} {json : Json} {members : Members} :
    json ∈ valuesUnder name members ↔ (name, json) ∈ members := by
  simp [valuesUnder]

/-- What an object gives for a member, from the values under the name of the member. -/
def Member.ofObject? (member : Member α) : List Json → Option α
  | [] => member.ifAbsent
  | [json] => member.form.reading? json
  | _ :: _ :: _ => none

/-- What an object gives for a member that may have been seen before. -/
def Member.continued? (member : Member α) : Option α → List Json → Option α
  | none, jsons => member.ofObject? jsons
  | some value, [] => some value
  | some _, _ :: _ => none

theorem Member.continued?_nil (member : Member α) (seen : Option α) :
    member.continued? seen [] = seen.or member.ifAbsent := by
  cases seen with
  | none => rfl
  | some value => rfl

/-- The first of several values is read, and stands in the way of the others. -/
theorem Member.ofObject?_cons (member : Member α) (json : Json) (jsons : List Json) :
    member.ofObject? (json :: jsons) =
      (member.form.reading? json).bind fun value ↦ member.continued? (some value) jsons := by
  cases hread : member.form.reading? json with
  | none =>
    cases jsons with
    | nil => exact hread
    | cons second rest => rfl
  | some value =>
    cases jsons with
    | nil => exact hread
    | cons second rest => rfl

namespace Record

/-- What an object gives for the members of a record. -/
def ofObject? : {τ : Type} → Record τ → Members → Option τ
  | _, .done, _ => some ()
  | _, .cons member rest, members =>
    Option.map₂ Prod.mk (member.ofObject? (valuesUnder member.name members))
      (ofObject? rest members)

/-- What the rest of an object gives for the members of a record that is partly read. -/
def continued? : {τ : Type} → (record : Record τ) → record.Draft → Members → Option τ
  | _, .done, _, _ => some ()
  | _, .cons member rest, draft, members =>
    match draft with
    | (seen, others) =>
      Option.map₂ Prod.mk (member.continued? seen (valuesUnder member.name members))
        (continued? rest others members)

theorem continued?_cons (member : Member α) (rest : Record τ) (seen : Option α)
    (others : rest.Draft) (members : Members) :
    (cons member rest).continued? (seen, others) members =
      Option.map₂ Prod.mk (member.continued? seen (valuesUnder member.name members))
        (rest.continued? others members) := rfl

theorem continued?_blank (record : Record τ) (members : Members) :
    record.continued? record.blank members = record.ofObject? members := by
  induction record with
  | done => rfl
  | cons member rest ih =>
    change (cons member rest).continued? (none, rest.blank) members = _
    rw [continued?_cons, ih]
    rfl

theorem toOption_finish (record : Record τ) (draft : record.Draft) :
    (record.finish draft).toOption = record.continued? draft [] := by
  induction record with
  | done => rfl
  | cons member rest ih =>
    obtain ⟨seen, others⟩ := draft
    rw [continued?_cons, ← ih others, finish, valuesUnder_nil, Member.continued?_nil]
    cases seen.or member.ifAbsent with
    | none => rfl
    | some value =>
      cases rest.finish others with
      | ok values => rfl
      | error fault => rfl

/-- Members of other names make no difference. -/
theorem continued?_cons_of_not_mem {record : Record τ} {name : String}
    (hname : name ∉ record.names) (draft : record.Draft) (json : Json) (members : Members) :
    record.continued? draft ((name, json) :: members) = record.continued? draft members := by
  induction record with
  | done => rfl
  | cons member rest ih =>
    obtain ⟨seen, others⟩ := draft
    have hmember : name ≠ member.name := fun hsame ↦ hname (hsame ▸ List.mem_cons_self)
    have hrest : name ∉ rest.names := fun hlater ↦ hname (List.mem_cons_of_mem _ hlater)
    rw [continued?_cons, continued?_cons, valuesUnder_cons_of_ne hmember, ih hrest]

section Take

variable (member : Member α) (rest : Record τ) (json : Json) (seen : Option α)
  (others : rest.Draft)

theorem takeValue_cons_self :
    (cons member rest).takeValue member.name json (seen, others) =
      some do
        once member.name seen
        return (some (← member.form.value json), others) :=
  if_pos rfl

theorem takeValue_cons_of_ne {name : String} (hother : member.name ≠ name) :
    (cons member rest).takeValue name json (seen, others) =
      (rest.takeValue name json others).map fun read ↦ return (seen, ← read) :=
  if_neg hother

/-- A member that is read into a draft gives what it would give among the members to come. -/
theorem continued?_once (members : Members) :
    ((do
        once member.name seen
        return (some (← member.form.value json), others) :
        Except Fault (cons member rest).Draft).toOption.bind fun later ↦
          (cons member rest).continued? later members) =
      Option.map₂ Prod.mk (member.continued? seen (json :: valuesUnder member.name members))
        (rest.continued? others members) := by
  cases seen with
  -- The member is there twice, which both sides refuse.
  | some value => rfl
  | none =>
    change _ = Option.map₂ Prod.mk (member.ofObject? _) _
    rw [Member.ofObject?_cons]
    unfold Form.reading?
    cases member.form.value json with
    | error fault => rfl
    | ok value => rfl

end Take

/-- Nothing is read from a member that the record does not have. -/
theorem takeValue_of_not_mem {record : Record τ} {name : String} (hname : name ∉ record.names)
    (json : Json) (draft : record.Draft) : record.takeValue name json draft = none := by
  induction record with
  | done => rfl
  | cons member rest ih =>
    obtain ⟨seen, others⟩ := draft
    have hmember : member.name ≠ name := fun hsame ↦ hname (hsame ▸ List.mem_cons_self)
    have hrest : name ∉ rest.names := fun hlater ↦ hname (List.mem_cons_of_mem _ hlater)
    rw [takeValue_cons_of_ne member rest json seen others hmember, ih hrest]
    rfl

/-- A member that the record has is read into the draft, and what comes of it is the same as if it
were among the members still to come. -/
theorem takeValue_of_mem {record : Record τ} (hnodup : record.names.Nodup) {name : String}
    (hname : name ∈ record.names) (json : Json) (draft : record.Draft) (members : Members) :
    ∃ read, record.takeValue name json draft = some read ∧
      (read.toOption.bind fun later ↦ record.continued? later members) =
        record.continued? draft ((name, json) :: members) := by
  induction record with
  | done => cases hname
  | cons member rest ih =>
    obtain ⟨seen, others⟩ := draft
    obtain ⟨hfresh, hrest⟩ := List.nodup_cons.1 hnodup
    by_cases hmember : member.name = name
    · subst hmember
      refine ⟨_, takeValue_cons_self member rest json seen others,
        (continued?_once member rest json seen others members).trans ?_⟩
      rw [continued?_cons, valuesUnder_cons_self, continued?_cons_of_not_mem hfresh]
    · have hlater : name ∈ rest.names :=
        (List.mem_cons.1 hname).resolve_left (Ne.symm hmember)
      obtain ⟨read, hread, hcontinued⟩ := ih hrest hlater others
      refine ⟨read >>= fun later ↦ .ok (seen, later), ?_, ?_⟩
      · rw [takeValue_cons_of_ne member rest json seen others hmember, hread]
        rfl
      · rw [continued?_cons, valuesUnder_cons_of_ne (Ne.symm hmember), ← hcontinued]
        cases read with
        | ok later => rfl
        | error fault => exact (Option.map₂_none_right _ _).symm

/-- Whether the names of the members of an object are acceptable. -/
def admits (record : Record τ) (manner : Manner) (members : Members) : Bool :=
  !manner.strict || members.all fun member ↦ member.1 ∈ record.names

theorem admits_cons (record : Record τ) (manner : Manner) (member : String × Json)
    (members : Members) :
    record.admits manner (member :: members) =
      ((!manner.strict || member.1 ∈ record.names) && record.admits manner members) := by
  unfold admits
  rw [List.all_cons, ← Bool.or_and_distrib_left]

/-- The members of an object are read into a draft one after another, and this comes to reading
them all at once. -/
theorem toOption_foldlM {record : Record τ} (hnodup : record.names.Nodup) (manner : Manner)
    (draft : record.Draft) (members : Members) :
    ((members.foldlM (record.stepValue manner) draft).toOption.bind fun last ↦
        record.continued? last []) =
      if record.admits manner members then record.continued? draft members else none := by
  -- By induction on what is left of the object; the draft holds what has been read of it.
  induction members generalizing draft with
  | nil =>
    have hadmits : record.admits manner [] = true := Bool.or_true _
    rw [if_pos hadmits]
    rfl
  | cons member members ih =>
    obtain ⟨name, json⟩ := member
    rw [List.foldlM_cons, toOption_bind, admits_cons]
    by_cases hname : name ∈ record.names
    · obtain ⟨read, hread, hcontinued⟩ := takeValue_of_mem hnodup hname json draft members
      have hstep : record.stepValue manner draft (name, json) = read := by
        unfold stepValue
        rw [hread]
      rw [hstep, ← hcontinued, decide_eq_true hname, Bool.or_true, Bool.true_and]
      cases read with
      | ok later => exact ih later
      | error fault => exact (ite_self none).symm
    · have hstep : record.stepValue manner draft (name, json) =
          (record.unknown manner name >>= fun _ ↦ .ok draft) := by
        unfold stepValue
        rw [takeValue_of_not_mem hname]
        rfl
      rw [hstep, continued?_cons_of_not_mem hname, decide_eq_false hname, Bool.or_false]
      unfold unknown
      cases manner.strict with
      | true => rfl
      | false => exact ih draft

/-- What a record reads from an object. -/
theorem reading?_object {record : Record τ} (hnodup : record.names.Nodup) (manner : Manner)
    (build : τ → Except Fault β) (members : Members) :
    (record.built manner build).reading? (.object members) =
      if record.admits manner members then
        (record.ofObject? members).bind fun values ↦ (build values).toOption
      else none := by
  have hfold := toOption_foldlM hnodup manner record.blank members
  rw [continued?_blank] at hfold
  change ((members.foldlM (record.stepValue manner) record.blank) >>= fun last ↦
    record.finish last >>= build).toOption = _
  rw [toOption_bind]
  calc (members.foldlM (record.stepValue manner) record.blank).toOption.bind fun last ↦
        (record.finish last >>= build).toOption
    _ = ((members.foldlM (record.stepValue manner) record.blank).toOption.bind fun last ↦
          record.continued? last []).bind fun values ↦ (build values).toOption := by
        rw [Option.bind_assoc]
        refine Option.bind_congr fun last _ ↦ ?_
        rw [toOption_bind, toOption_finish]
    _ = _ := by
        rw [hfold]
        split
        · rfl
        · rfl

/-! ### Lists -/

/-- What a list gives for the members of a record. -/
def ofList? : {τ : Type} → Record τ → List Json → Option τ
  | _, .done, [] => some ()
  | _, .done, _ :: _ => none
  | _, .cons member rest, [] => Option.map₂ Prod.mk member.ifListEnds (ofList? rest [])
  | _, .cons member rest, json :: jsons =>
    Option.map₂ Prod.mk (member.form.reading? json) (ofList? rest jsons)

/-- What has been taken from a list in which nothing is left. -/
def allTaken? (taken : τ × List Json) : Option τ :=
  if taken.2.isEmpty then some taken.1 else none

theorem allTaken?_after (value : α) (taken : Except Fault (τ × List Json)) :
    ((taken >>= fun others ↦ .ok ((value, others.1), others.2)).toOption.bind allTaken?) =
      Option.map₂ Prod.mk (some value) (taken.toOption.bind allTaken?) := by
  rcases taken with fault | ⟨others, left⟩
  · rfl
  · cases left with
    | nil => rfl
    | cons json jsons => rfl

/-- The members of a record are taken from the front of a list, of which nothing may be left. -/
theorem toOption_takeItems (record : Record τ) (length : String) (index : Nat)
    (items : List Json) :
    (record.takeItems length index items).toOption.bind allTaken? = record.ofList? items := by
  induction record generalizing index items with
  | done =>
    cases items with
    | nil => rfl
    | cons json jsons => rfl
  | cons member rest ih =>
    cases items with
    | nil =>
      change _ = Option.map₂ Prod.mk member.ifListEnds _
      rw [← ih (index + 1) []]
      cases hends : member.ifListEnds with
      | none =>
        have htaken : (cons member rest).takeItems length index [] =
            .error (.wrongLength index length) := by
          simp [takeItems, hends, bind, Except.bind]
        rw [htaken]
        rfl
      | some value =>
        have htaken : (cons member rest).takeItems length index [] =
            (rest.takeItems length (index + 1) [] >>= fun others ↦
              .ok ((value, others.1), others.2)) := by
          simp [takeItems, hends, pure, Except.pure, bind, Except.bind]
        rw [htaken, allTaken?_after]
    | cons json jsons =>
      change _ = Option.map₂ Prod.mk (member.form.reading? json) _
      rw [← ih (index + 1) jsons]
      unfold Form.reading?
      cases hvalue : member.form.value json with
      | error fault =>
        have htaken : (cons member rest).takeItems length index (json :: jsons) =
            .error fault := by
          simp [takeItems, hvalue, bind, Except.bind]
        rw [htaken]
        rfl
      | ok value =>
        have htaken : (cons member rest).takeItems length index (json :: jsons) =
            (rest.takeItems length (index + 1) jsons >>= fun others ↦
              .ok ((value, others.1), others.2)) := by
          simp [takeItems, hvalue, pure, Except.pure, bind, Except.bind]
        rw [htaken, allTaken?_after]
        rfl

/-- What a record reads from a list. -/
theorem reading?_list (record : Record τ) (manner : Manner) (build : τ → Except Fault β)
    (items : List Json) :
    (record.built manner build).reading? (.list items) =
      (record.ofList? items).bind fun values ↦ (build values).toOption := by
  rw [← toOption_takeItems record manner.length 0 items]
  change (record.takeItems manner.length 0 items >>= _).toOption = _
  rw [toOption_bind, Option.bind_assoc]
  refine Option.bind_congr fun taken _ ↦ ?_
  obtain ⟨values, left⟩ := taken
  change (build values >>= _).toOption = _
  rw [toOption_bind]
  cases left with
  | nil => exact Option.bind_fun_some _
  | cons json jsons => exact Option.bind_fun_none _

end Record

/-! ### Spellings -/

/-- The ways to write an object with certain fields: as an object with the fields in any order, and
with members of other names among them unless it is strict, or as the list of what is in the
fields. -/
inductive Spelling (fields : Members) (strict : Bool) : Json → Prop
  | object {members others : Members} (hpermuted : members.Perm (fields ++ others))
      (hothers : ∀ member ∈ others, member.1 ∉ fields.map Prod.fst)
      (hstrict : strict = true → others = []) : Spelling fields strict (.object members)
  | list : Spelling fields strict (.list (fields.map Prod.snd))

theorem insertMember_perm {name : String} {members : List (String × α)}
    (hname : name ∉ members.map Prod.fst) (value : α) :
    (insertMember name value members).Perm ((name, value) :: members) := by
  induction members with
  | nil => exact .refl _
  | cons member members ih =>
    obtain ⟨other, existing⟩ := member
    have hother : name ≠ other := fun hsame ↦ hname (hsame ▸ List.mem_cons_self)
    have hrest : name ∉ members.map Prod.fst := fun hlater ↦ hname (List.mem_cons_of_mem _ hlater)
    by_cases hbefore : name < other
    · rw [insertMember, if_pos hbefore]
    · rw [insertMember, if_neg hbefore, if_neg hother]
      exact ((ih hrest).cons _).trans (.swap _ _ _)

theorem foldl_insertMember_perm (members known : List (String × α))
    (hnodup : ((known ++ members).map Prod.fst).Nodup) :
    (members.foldl (fun known member ↦ insertMember member.1 member.2 known) known).Perm
      (known ++ members) := by
  induction members generalizing known with
  | nil =>
    rw [List.append_nil]
    exact .refl _
  | cons member members ih =>
    obtain ⟨name, value⟩ := member
    have hmiddle : (known ++ (name, value) :: members).Perm ((name, value) :: known ++ members) :=
      List.perm_middle
    have hmoved := (hmiddle.map Prod.fst).nodup_iff.1 hnodup
    have hfresh : name ∉ known.map Prod.fst := by
      intro hmem
      obtain ⟨member, hmember, hname⟩ := List.mem_map.1 hmem
      refine (List.nodup_cons.1 hmoved).1 (List.mem_map.2 ⟨member, ?_, hname⟩)
      exact List.mem_append_left _ hmember
    have hinserted := (insertMember_perm hfresh value).append_right members
    have hlater := ih (insertMember name value known)
      ((hinserted.map Prod.fst).nodup_iff.2 hmoved)
    exact (hlater.trans hinserted).trans hmiddle.symm

/-- Putting members of different names in order leaves them what they are. -/
theorem ordered_perm {members : List (String × α)} (hnodup : (members.map Prod.fst).Nodup) :
    (ordered members).Perm members :=
  foldl_insertMember_perm members [] hnodup

/-- The object that is written for certain fields is one of their spellings. -/
theorem Spelling.record (fields : Members) (hnodup : (fields.map Prod.fst).Nodup)
    (strict : Bool) : Spelling fields strict (Json.record fields) := by
  have hpermuted : (ordered fields).Perm (fields ++ []) := by
    rw [List.append_nil]
    exact ordered_perm hnodup
  exact .object hpermuted (fun _ hmem ↦ absurd hmem List.not_mem_nil) fun _ ↦ rfl

theorem valuesUnder_of_not_mem {name : String} {members : Members}
    (hname : name ∉ members.map Prod.fst) : valuesUnder name members = [] := by
  refine List.eq_nil_iff_forall_not_mem.2 fun json hmem ↦ hname ?_
  exact List.mem_map.2 ⟨_, mem_valuesUnder.1 hmem, rfl⟩

theorem valuesUnder_of_nodup {fields : Members} (hnodup : (fields.map Prod.fst).Nodup)
    {name : String} {json : Json} (hfield : (name, json) ∈ fields) :
    valuesUnder name fields = [json] := by
  induction fields with
  | nil => cases hfield
  | cons field fields ih =>
    obtain ⟨other, first⟩ := field
    obtain ⟨hfresh, hrest⟩ := List.nodup_cons.1 hnodup
    rcases List.mem_cons.1 hfield with hsame | hlater
    · cases hsame
      rw [valuesUnder_cons_self, valuesUnder_of_not_mem hfresh]
    · have hother : other ≠ name := by
        rintro rfl
        exact hfresh (List.mem_map.2 ⟨_, hlater, rfl⟩)
      rw [valuesUnder_cons_of_ne hother, ih hrest hlater]

/-- In a spelling as an object a field stands alone under its name. -/
theorem valuesUnder_of_perm {fields others members : Members}
    (hnodup : (fields.map Prod.fst).Nodup) (hpermuted : members.Perm (fields ++ others))
    (hothers : ∀ member ∈ others, member.1 ∉ fields.map Prod.fst) {name : String} {json : Json}
    (hfield : (name, json) ∈ fields) : valuesUnder name members = [json] := by
  have hname : name ∉ others.map Prod.fst := by
    intro hmem
    obtain ⟨member, hmember, rfl⟩ := List.mem_map.1 hmem
    exact hothers member hmember (List.mem_map.2 ⟨_, hfield, rfl⟩)
  have hsame : (valuesUnder name members).Perm (valuesUnder name (fields ++ others)) :=
    (hpermuted.filter _).map _
  have hsplit : valuesUnder name (fields ++ others) =
      valuesUnder name fields ++ valuesUnder name others := by
    unfold valuesUnder
    rw [List.filter_append, List.map_append]
  rw [hsplit, valuesUnder_of_nodup hnodup hfield, valuesUnder_of_not_mem hname,
    List.append_nil] at hsame
  exact List.perm_singleton.1 hsame

namespace Record

/-- The values of a record and what is in its fields, from which they are read. -/
inductive Fields : {τ : Type} → Record τ → τ → Members → Prop
  | done : Fields .done () []
  | cons {α τ : Type} {member : Member α} {rest : Record τ} {value : α} {values : τ} {json : Json}
      {fields : Members} (hread : member.form.reading? json = some value)
      (hrest : Fields rest values fields) :
      Fields (.cons member rest) (value, values) ((member.name, json) :: fields)

theorem Fields.names_eq {record : Record τ} {values : τ} {fields : Members}
    (hfields : record.Fields values fields) : record.names = fields.map Prod.fst := by
  induction hfields with
  | done => rfl
  | cons hread hrest ih => exact congrArg _ ih

theorem Fields.ofObject? {record : Record τ} {values : τ} {fields members : Members}
    (hfields : record.Fields values fields)
    (halone : ∀ name json, (name, json) ∈ fields → valuesUnder name members = [json]) :
    record.ofObject? members = some values := by
  induction hfields with
  | done => rfl
  | @cons _ _ member rest value values json fields hread hrest ih =>
    have hvalues := ih fun name json hmem ↦ halone name json (List.mem_cons_of_mem _ hmem)
    unfold Record.ofObject?
    rw [halone member.name json List.mem_cons_self, hvalues]
    change Option.map₂ Prod.mk (member.form.reading? json) _ = _
    rw [hread]
    rfl

theorem Fields.ofList? {record : Record τ} {values : τ} {fields : Members}
    (hfields : record.Fields values fields) :
    record.ofList? (fields.map Prod.snd) = some values := by
  induction hfields with
  | done => rfl
  | cons hread hrest ih =>
    rw [List.map_cons]
    unfold Record.ofList?
    rw [hread, ih]
    rfl

/-- All spellings of its fields are read alike by a record. -/
theorem Fields.reading? {record : Record τ} {values : τ} {fields : Members}
    (hfields : record.Fields values fields) (hnodup : record.names.Nodup) {manner : Manner}
    (build : τ → Except Fault β) {json : Json} (hspelt : Spelling fields manner.strict json) :
    (record.built manner build).reading? json = (build values).toOption := by
  cases hspelt with
  | @object members others hpermuted hothers hstrict =>
    have hnames := hfields.names_eq
    rw [hnames] at hnodup
    have hadmits : record.admits manner members = true := by
      unfold admits
      cases hmanner : manner.strict with
      | false => rfl
      | true =>
        rw [hstrict hmanner, List.append_nil] at hpermuted
        rw [hnames]
        refine List.all_eq_true.2 fun member hmember ↦ decide_eq_true ?_
        exact List.mem_map_of_mem (hpermuted.mem_iff.1 hmember)
    rw [reading?_object (hnames ▸ hnodup), if_pos hadmits, hfields.ofObject? ?_]
    · rfl
    · intro name json hfield
      exact valuesUnder_of_perm hnodup hpermuted hothers hfield
  | list =>
    rw [reading?_list, hfields.ofList?]
    rfl

end Record

/-! ### Refusals -/

/-- A value has something in a field: in an object under the name of the field, in a list in the
place that the field has among `names`. -/
inductive HasField (names : List String) (name : String) (value : Json) : Json → Prop
  | object {members : Members} (hmem : (name, value) ∈ members) :
      HasField names name value (.object members)
  | list {items : List Json} (index : Nat) (hname : names[index]? = some name)
      (hvalue : items[index]? = some value) : HasField names name value (.list items)

/-- An object gives nothing for a member if one of the values under its name is refused. -/
theorem Member.ofObject?_of_refuses {member : Member α} {value : Json} {jsons : List Json}
    (hmem : value ∈ jsons) (hrefused : member.form.Refuses value) :
    member.ofObject? jsons = none := by
  cases jsons with
  | nil => cases hmem
  | cons json jsons =>
    cases jsons with
    | nil =>
      cases List.mem_singleton.1 hmem
      exact Form.reading?_eq_none.2 hrefused
    | cons second rest => rfl

namespace Record

/-- Some member of a record has a property. -/
def Any (property : {α : Type} → Member α → Prop) : {τ : Type} → Record τ → Prop
  | _, .done => False
  | _, .cons member rest => property member ∨ Any property rest

theorem Any.imp {record : Record τ} {first second : {α : Type} → Member α → Prop}
    (himp : ∀ {α : Type} (member : Member α), first member → second member)
    (hany : record.Any first) : record.Any second := by
  induction record with
  | done => cases hany
  | cons member rest ih =>
    rcases hany with hmember | hlater
    · exact .inl (himp member hmember)
    · exact .inr (ih hlater)

theorem Any.mem_names {record : Record τ} {name : String}
    {property : {α : Type} → Member α → Prop}
    (hany : record.Any fun member ↦ member.name = name ∧ property member) :
    name ∈ record.names := by
  induction record with
  | done => cases hany
  | cons member rest ih =>
    rcases hany with ⟨hname, -⟩ | hlater
    · exact hname ▸ List.mem_cons_self
    · exact List.mem_cons_of_mem _ (ih hlater)

/-- An object gives nothing for a record if it gives nothing for one of the members. -/
theorem ofObject?_of_any {record : Record τ} {members : Members}
    (hany : record.Any fun member ↦
      member.ofObject? (valuesUnder member.name members) = none) :
    record.ofObject? members = none := by
  induction record with
  | done => cases hany
  | cons member rest ih =>
    unfold Record.ofObject?
    rcases hany with hnone | hlater
    · rw [hnone]
      rfl
    · rw [ih hlater]
      exact Option.map₂_none_right _ _

/-- A value is refused by the member of a record in whose field it is. -/
def RefusesAs (record : Record τ) (name : String) (value : Json) : Prop :=
  record.Any fun member ↦ member.name = name ∧ member.form.Refuses value

/-- The names of the members of a record that an object must have. -/
def required : {τ : Type} → Record τ → List String
  | _, .done => []
  | _, .cons member rest =>
    if member.ifAbsent.isNone then member.name :: required rest else required rest

theorem any_of_mem_required {record : Record τ} {name : String} (hname : name ∈ record.required) :
    record.Any fun member ↦ member.name = name ∧ member.ifAbsent = none := by
  induction record with
  | done => cases hname
  | cons member rest ih =>
    unfold required at hname
    cases habsent : member.ifAbsent with
    | some value =>
      rw [habsent] at hname
      exact .inr (ih hname)
    | none =>
      rw [habsent] at hname
      rcases List.mem_cons.1 hname with rfl | hlater
      · exact .inl ⟨rfl, habsent⟩
      · exact .inr (ih hlater)

/-- A list gives nothing for a record if one of its items is refused in its place. -/
theorem ofList?_of_refusesAs {record : Record τ} (hnodup : record.names.Nodup) {name : String}
    {value : Json} (hrefuses : record.RefusesAs name value) {items : List Json} {index : Nat}
    (hname : record.names[index]? = some name) (hvalue : items[index]? = some value) :
    record.ofList? items = none := by
  induction record generalizing items index with
  | done => cases hrefuses
  | cons member rest ih =>
    obtain ⟨hfresh, hrest⟩ := List.nodup_cons.1 hnodup
    cases items with
    | nil => simp at hvalue
    | cons json jsons =>
      unfold Record.ofList?
      cases index with
      | zero =>
        cases hname
        cases hvalue
        rcases hrefuses with ⟨-, hrefused⟩ | hlater
        · rw [Form.reading?_eq_none.2 hrefused]
          rfl
        · exact absurd (Any.mem_names hlater) hfresh
      | succ index =>
        have hlisted : name ∈ rest.names := List.mem_of_getElem? hname
        rcases hrefuses with ⟨rfl, -⟩ | hlater
        · exact absurd hlisted hfresh
        · rw [ih hrest hlater hname hvalue]
          exact Option.map₂_none_right _ _

/-- Where the value of a member is refused, so is all of the object or list. -/
theorem refuses_of_hasField {record : Record τ} (hnodup : record.names.Nodup) {manner : Manner}
    {build : τ → Except Fault β} {name : String} {value json : Json}
    (hrefuses : record.RefusesAs name value) (hfield : HasField record.names name value json) :
    (record.built manner build).Refuses json := by
  rw [← Form.reading?_eq_none]
  cases hfield with
  | @object members hmem =>
    have hnothing : record.ofObject? members = none := by
      refine ofObject?_of_any (hrefuses.imp fun member hmember ↦ ?_)
      obtain ⟨rfl, hrefused⟩ := hmember
      exact Member.ofObject?_of_refuses (mem_valuesUnder.2 hmem) hrefused
    rw [reading?_object hnodup, hnothing]
    exact ite_self none
  | list index hname hvalue =>
    rw [reading?_list, ofList?_of_refusesAs hnodup hrefuses hname hvalue]
    rfl

/-- An object without a member that must be there is refused. -/
theorem refuses_of_missing {record : Record τ} (hnodup : record.names.Nodup) {manner : Manner}
    {build : τ → Except Fault β} {name : String} {members : Members}
    (hname : name ∈ record.required) (hmissing : name ∉ members.map Prod.fst) :
    (record.built manner build).Refuses (.object members) := by
  have hnothing : record.ofObject? members = none := by
    refine ofObject?_of_any ((any_of_mem_required hname).imp fun member hmember ↦ ?_)
    obtain ⟨rfl, hneeded⟩ := hmember
    rw [valuesUnder_of_not_mem hmissing]
    exact hneeded
  rw [← Form.reading?_eq_none, reading?_object hnodup, hnothing]
  exact ite_self none

end Record

end BlogOperator.Json

import BlogOperator.Json.Record
import BlogOperator.Proofs.Faithful

/-!
# Records that are read alike

A record whose members are read alike from a text and from a value is read alike itself, whether it
is written as an object or as a list (`Record.faithful_built`).

One member of an object is put into a draft by its name, and what the record does not know is passed
over or refused (`Record.reads_stepText`); the members come one after another. Of a list the values
of a record are taken from the front. What is left of the items is then ahead of the scan, and the
list ends there, or does not (`Record.takes_takeListed`, `Record.reads_listed`).
-/

set_option autoImplicit false

namespace BlogOperator.Json

open Scan Form

variable {α β τ : Type} {levels : Nat} {json : Json} {rest : List Char}

namespace Record

/-- A record all of whose members are read alike. -/
class inductive Faithful : {τ : Type} → Record τ → Prop
  | done : Faithful .done
  | cons {α τ : Type} (member : Member α) (others : Record τ) (hmember : member.form.Faithful)
      (hothers : Faithful others) : Faithful (.cons member others)

instance faithful_done : Faithful .done :=
  .done

instance faithful_cons (member : Member α) (others : Record τ) [member.form.Faithful]
    [others.Faithful] : (cons member others).Faithful :=
  .cons member others inferInstance inferInstance

/-! ### Records that are written as objects -/

/-- The member that a name stands for is read alike from the text and from the value. -/
theorem reads_takeText (record : Record τ) [hrecord : record.Faithful] (name : String)
    (draft : record.Draft) (hjson : Textual levels json) (hrest : Ends rest) :
    Option.Rel (fun scan result ↦ scan.Reads levels (':' :: (json.characters ++ rest)) rest result)
      (record.takeText name draft) (record.takeValue name json draft) := by
  induction hrecord with
  | done => exact .none
  | cons member others hmember hothers ih =>
    obtain ⟨seen, left⟩ := draft
    rw [takeText, takeValue]
    by_cases hname : member.name = name
    · rw [if_pos hname, if_pos hname]
      refine .some ((reads_ofExcept _).then fun _ _ ↦ reads_colon.bind ?_)
      exact (member.form.reads_text hjson hrest).then fun value _ ↦ reads_pure _
    · rw [if_neg hname, if_neg hname]
      have hlater := ih left
      generalize others.takeText name left = scan at hlater
      generalize others.takeValue name json left = result at hlater
      cases hlater with
      | none => exact .none
      | some hread => exact .some (hread.then fun _ _ ↦ reads_pure _)

/-- One member of an object is read alike from the text and from the value. -/
theorem reads_stepText (record : Record τ) [record.Faithful] (manner : Manner)
    (draft : record.Draft) {member : String × Json} (hmember : Textual levels member.2)
    (hrest : Ends rest) :
    (record.stepText manner draft).Reads levels (memberCharacters member ++ rest) rest
      (record.stepValue manner draft member) := by
  have htake := record.reads_takeText member.1 draft hmember hrest
  unfold stepText stepValue
  refine (reads_name member).bind ?_
  generalize record.takeText member.1 draft = scan at htake
  generalize record.takeValue member.1 member.2 draft = result at htake
  cases htake with
  | none =>
    refine (reads_ofExcept _).then fun _ _ ↦ reads_colon.bind ?_
    exact (hmember.reads_skipValue hrest).bind (reads_pure draft)
  | some hread => exact hread

/-! ### Records that are written as lists -/

section Lists

variable {γ : Type} {scan : Scan α} {text start : List Char} {middle ahead : List Json → List Char}
  {items : List Json}

/-- What a scan takes from the front of a list: it gives a value and stops before the items that are
left, or it refuses. -/
inductive Takes (scan : Scan α) (levels : Nat) (text : List Char)
    (ahead : List Json → List Char) : Except Fault (α × List Json) → Prop
  | ok {value : α} {left : List Json} (hleft : ∀ item ∈ left, Textual levels item)
      (hread : scan.Reads levels text (ahead left) (.ok value)) :
      Takes scan levels text ahead (.ok (value, left))
  | error {fault : Fault} (hread : scan.Reads levels text [] (.error fault)) :
      Takes scan levels text ahead (.error fault)

theorem Takes.then {next : α → Scan γ} {result : Except Fault (α × List Json)}
    {follow : α × List Json → Except Fault (γ × List Json)}
    (hscan : Takes scan levels text middle result)
    (hnext : ∀ value left, (∀ item ∈ left, Textual levels item) →
      Takes (next value) levels (middle left) ahead (follow (value, left))) :
    Takes (scan >>= next) levels text ahead (result >>= follow) := by
  cases hscan with
  | error hread => exact .error (hread.bind_error _)
  | @ok value left hleft hread =>
    change Takes _ _ _ _ (follow (value, left))
    have hfollow := hnext value left hleft
    generalize follow (value, left) = last at hfollow
    cases hfollow with
    | ok hlater hlast => exact .ok hlater (hread.bind hlast)
    | error hlast => exact .error (hread.bind hlast)

theorem Takes.after {next : α → Scan γ} {value : α} {result : Except Fault (γ × List Json)}
    (hscan : scan.Reads levels text start (.ok value))
    (hnext : Takes (next value) levels start ahead result) :
    Takes (scan >>= next) levels text ahead result := by
  cases hnext with
  | ok hleft hread => exact .ok hleft (hscan.bind hread)
  | error hread => exact .error (hscan.bind hread)

/-- The items that are left of a list, and the end of the list. -/
def listed (first : Bool) (rest : List Char) (items : List Json) : List Char :=
  separated first (items.map characters) ++ ']' :: rest

/-- There is a further item, and it is ahead. -/
theorem reads_hasItem (first : Bool) {item : Json} (hitem : Textual levels item) :
    (hasItem first).Reads levels (listed first rest (item :: items))
      (item.characters ++ listed false rest items) (.ok true) := by
  obtain ⟨mark, more, hcharacters, hmark⟩ := hitem.exists_mark
  have hstarts := hitem.starts (listed false rest items)
  have hclosing : (item.characters ++ listed false rest items).head? ≠ some ']' := by
    rw [hcharacters]
    rintro ⟨⟩
    exact hmark.ne_closing rfl
  rw [listed, List.map_cons]
  cases first with
  | true =>
    rw [separated, List.append_assoc]
    exact reads_hasItem_first hstarts (by rw [hcharacters]; exact List.cons_ne_nil _ _) hclosing
  | false =>
    rw [separated, List.append_assoc]
    exact reads_hasItem_next hstarts hclosing

/-- A list does not end before a further item. -/
theorem reads_endList_item (first : Bool) {item : Json} (hitem : Textual levels item)
    {depth : Nat} {last : List Char} (fault : Fault) :
    endList.Reads depth (listed first rest (item :: items)) last (.error fault) := by
  rw [listed, List.map_cons]
  cases first with
  | true =>
    obtain ⟨mark, more, hcharacters, hmark⟩ := hitem.exists_mark
    rw [separated, List.append_assoc, hcharacters]
    refine (reads_skipSpace_cons hmark.isSpace_eq_false _).bind ?_
    split
    · rename_i hhead
      cases hhead
      exact absurd rfl hmark.ne_closing
    · rename_i hhead
      cases hhead
      exact absurd (by decide) hmark.not_mem
    · exact (refuses_malformedAhead _).reads
    · exact (refuses_malformedAhead _).reads
  | false =>
    rw [separated, List.append_assoc]
    exact reads_endList_comma fault

/-- The values of a record are taken alike from the items that are written and from the items. -/
theorem takes_takeListed (record : Record τ) [hrecord : record.Faithful] (length : String)
    (index : Nat) (hitems : ∀ item ∈ items, Textual levels item) (rest : List Char) :
    Takes (record.takeListed length index) levels (listed (index == 0) rest items)
      (listed (index + record.names.length == 0) rest) (record.takeItems length index items) := by
  induction hrecord generalizing index items with
  | done => exact .ok hitems (reads_pure ())
  | cons member others hmember hothers ih =>
    have hlater (left : List Json) (hleft : ∀ item ∈ left, Textual levels item) :
        Takes (others.takeListed length (index + 1)) levels (listed false rest left)
          (listed (index + (cons member others).names.length == 0) rest)
          (others.takeItems length (index + 1) left) := by
      have hlast : index + (cons member others).names.length =
          index + 1 + others.names.length := by
        rw [names, List.length_cons, Nat.add_assoc, Nat.add_comm 1]
      rw [hlast]
      exact ih (index + 1) hleft
    unfold takeListed takeItems
    cases items with
    | nil =>
      refine .after (reads_hasItem_end _) ?_
      rw [if_neg Bool.false_ne_true]
      cases member.ifListEnds with
      | none => exact .error (refuses_refuse _).bind.reads
      | some value =>
        refine .after (reads_pure value) ?_
        exact (hlater [] (List.forall_mem_nil _)).then fun _ _ hleft ↦ .ok hleft (reads_pure _)
    | cons item left =>
      have hends : Ends (listed false rest left) := ends_separated (.inl rfl)
      have hread := member.form.reads_text (hitems item List.mem_cons_self) hends
      refine .after (reads_hasItem _ (hitems item List.mem_cons_self)) ?_
      rw [if_pos rfl]
      dsimp only
      generalize member.form.value item = result at hread
      cases result with
      | error fault => exact .error (hread.bind_error fault)
      | ok value =>
        have hleft : ∀ item ∈ left, Textual levels item := fun item hitem ↦
          hitems item (List.mem_cons_of_mem _ hitem)
        refine .after hread ?_
        exact (hlater left hleft).then fun _ _ hleft ↦ .ok hleft (reads_pure _)

theorem characters_list_append (items : List Json) (rest : List Char) :
    (Json.list items).characters ++ rest = '[' :: listed true rest items := by
  rw [characters_list, List.cons_append, List.append_assoc]
  rfl

/-- A record that is written as a list is read alike from the text and from the items, and one that
is too long is refused: here for its length, there where it should end. -/
theorem reads_listed (record : Record τ) [record.Faithful] (manner : Manner)
    (build : τ → Except Fault β) (hitems : ∀ item ∈ items, Textual (levels + 1) item) :
    (enclosed (do
      let values ← record.takeListed manner.length 0
      Scan.ofExcept (build values)) endList).Reads (levels + 2) ('[' :: listed true rest items) rest
        ((record.built manner build).value (.list items)) := by
  have hopen : 1 < levels + 2 := Nat.lt_add_left levels Nat.one_lt_two
  have htakes := record.takes_takeListed manner.length 0 hitems rest
  change Reads _ _ _ _ (record.takeItems manner.length 0 items >>= _)
  generalize record.takeItems manner.length 0 items = result at htakes
  cases htakes with
  | @error fault hread =>
    have hbody : (record.takeListed manner.length 0 >>= fun values ↦ ofExcept (build values)).Reads
        (levels + 1) (listed true rest items) (']' :: rest) (.error fault) :=
      hread.bind_error fault
    exact hbody.enclosed hopen '[' reads_endList
  | @ok values left hleft hread =>
    have hbody : (record.takeListed manner.length 0 >>= fun values ↦ ofExcept (build values)).Reads
        (levels + 1) (listed true rest items) _ (build values) := hread.bind (reads_ofExcept _)
    cases left with
    | nil => exact hbody.enclosed hopen '[' reads_endList
    | cons item left =>
      exact hbody.enclosed hopen '[' (reads_endList_item _ (hleft item List.mem_cons_self) _)

end Lists

instance faithful_built (record : Record τ) [record.Faithful] (manner : Manner)
    (build : τ → Except Fault β) : (record.built manner build).Faithful where
  reads levels json hjson rest hrest := by
    cases json with
    | list items =>
      cases hjson with
      | list hitems =>
        rw [characters_list_append]
        exact reads_begins (by decide) rfl (record.reads_listed manner build hitems)
    | object members =>
      cases hjson with
      | @object levels _ hmembers hordered =>
        have hread : (enclosed (do
            let draft ← repeated hasMember (record.stepText manner) record.blank
            Scan.ofExcept (record.finish draft >>= build)) endObject).Reads (levels + 2)
              ((Json.object members).characters ++ rest) rest
              (members.foldlM (record.stepValue manner) record.blank >>= fun draft ↦
                record.finish draft >>= build) := by
          refine reads_object ((reads_members ?_ record.blank).then fun _ _ ↦ reads_ofExcept _)
          intro member hmember draft rest hrest
          exact record.reads_stepText manner draft (hmembers member hmember) hrest
        rw [characters_object] at hread ⊢
        exact reads_begins (by decide) rfl hread
    | _ =>
      refine reads_begins_other hjson ?_ _
      intro mark hmark
      split
      · obtain ⟨_, ⟨⟩⟩ := hmark.exists_list
      · obtain ⟨_, ⟨⟩⟩ := hmark.exists_object
      · rfl

instance faithful_form (record : Record τ) [record.Faithful] (manner : Manner) :
    (record.form manner).Faithful :=
  faithful_built record manner .ok

end Record

/-! ### Members and codecs -/

namespace Member

variable (name : String) (codec : Codec α) [codec.toForm.Faithful]

instance faithful_required : (required name codec).form.Faithful :=
  inferInstanceAs codec.toForm.Faithful

instance faithful_assumed (value : α) : (assumed name codec value).form.Faithful :=
  inferInstanceAs codec.toForm.Faithful

instance faithful_optional : (optional name codec).form.Faithful :=
  inferInstanceAs codec.toForm.nullable.Faithful

instance faithful_nullable : (nullable name codec).form.Faithful :=
  inferInstanceAs codec.toForm.nullable.Faithful

instance faithful_readOnly (form : Form α) [form.Faithful] (ifAbsent : Option α) :
    (readOnly name form ifAbsent).form.Faithful :=
  inferInstanceAs form.Faithful

end Member

namespace Codec

instance faithful_string : string.toForm.Faithful :=
  Form.faithful_string

instance faithful_bool : bool.toForm.Faithful :=
  Form.faithful_bool

instance faithful_int32 : int32.toForm.Faithful :=
  Form.faithful_int32

instance faithful_uint16 : uint16.toForm.Faithful :=
  Form.faithful_uint16

instance faithful_uint32 : uint32.toForm.Faithful :=
  Form.faithful_uint32

instance faithful_uint64 : uint64.toForm.Faithful :=
  Form.faithful_uint64

instance faithful_list (codec : Codec α) [codec.toForm.Faithful] : codec.list.toForm.Faithful :=
  Form.faithful_list codec.toForm

instance faithful_choice (names : List (String × α)) (name : α → String) :
    (choice names name).toForm.Faithful :=
  Form.faithful_choice names

instance faithful_ofRecord (record : Record α) [record.Faithful] (manner : Record.Manner)
    (build : α → β) (parts : β → α) : (ofRecord record manner build parts).toForm.Faithful :=
  Form.faithful_map _ _

end Codec

end BlogOperator.Json

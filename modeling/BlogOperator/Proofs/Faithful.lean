import BlogOperator.Proofs.Readings
import BlogOperator.Proofs.Textual

/-!
# Forms that read a text as they read its value

A `Form` has two readers, one for values and one for texts. They agree when the second takes from
the text that a value is written as what the first takes from the value, stops at the end of it, and
refuses where the first refuses (`Form.Faithful`). Nothing is said of the faults, which differ: a
list with too many items is a long list to the one reader and a comma too many to the other.

Every form here is made of others, and it is faithful if they are. That holds of forms with a check
or a change, of scalars, of lists and dictionaries, and of choices; each instance below is one of
them. A form that takes anything gives back the value that was written (`Form.reads_anyText`), by
induction on the value.

Of a whole text this says that reading and printing go together. `Form.reading?_compact`: a faithful
form makes of a printed value what it makes of the value. `Form.parse_compact`: a value that is
printed and read is what it was.
-/

set_option autoImplicit false

namespace BlogOperator.Json

open Scan

variable {α β γ : Type} {levels : Nat} {json : Json} {rest : List Char}

/-! ### Entries -/

section Entries

variable {items : List Json} {members : Members} {step : γ → Scan γ}

/-- The items of a list are read one after another. -/
theorem reads_items {follow : γ → Json → Except Fault γ}
    (hitems : ∀ item ∈ items, Textual levels item)
    (hstep : ∀ item ∈ items, ∀ value rest, Ends rest →
      (step value).Reads levels (item.characters ++ rest) rest (follow value item)) (start : γ) :
    (repeated hasItem step start).Reads levels
      (separated true (items.map characters) ++ ']' :: rest) (']' :: rest)
      (items.foldlM follow start) := by
  have hmark : ∀ item ∈ items, ∃ mark more, item.characters = mark :: more ∧ mark ≠ ']' := by
    intro item hitem
    obtain ⟨mark, more, hcharacters, hmark⟩ := (hitems item hitem).exists_mark
    exact ⟨mark, more, hcharacters, hmark.ne_closing⟩
  refine reads_repeated ?_ reads_hasItem_end ?_ ?_ ?_ start
  · intro item hitem
    obtain ⟨mark, more, hcharacters, -⟩ := hmark item hitem
    rw [hcharacters]
    exact List.cons_ne_nil _ _
  · intro item hitem tail
    obtain ⟨mark, more, hcharacters, hclosing⟩ := hmark item hitem
    have hstarts := (hitems item hitem).starts tail
    rw [hcharacters] at hstarts ⊢
    exact reads_hasItem_first hstarts (List.cons_ne_nil _ _) (by rintro ⟨⟩; exact hclosing rfl)
  · intro item hitem tail
    obtain ⟨mark, more, hcharacters, hclosing⟩ := hmark item hitem
    have hstarts := (hitems item hitem).starts tail
    rw [List.cons_append]
    rw [hcharacters] at hstarts ⊢
    exact reads_hasItem_next hstarts (by rintro ⟨⟩; exact hclosing rfl)
  · intro item hitem later value
    exact hstep item hitem value _ (ends_separated (.inl rfl))

/-- The members of an object are read one after another. -/
theorem reads_members {follow : γ → String × Json → Except Fault γ}
    (hstep : ∀ member ∈ members, ∀ value rest, Ends rest →
      (step value).Reads levels (memberCharacters member ++ rest) rest (follow value member))
    (start : γ) :
    (repeated hasMember step start).Reads levels
      (separated true (members.map memberCharacters) ++ '\x7d' :: rest) ('\x7d' :: rest)
      (members.foldlM follow start) := by
  refine reads_repeated ?_ reads_hasMember_end ?_ ?_ ?_ start
  · intro member _
    obtain ⟨more, hcharacters⟩ := exists_memberCharacters member
    rw [hcharacters]
    exact List.cons_ne_nil _ _
  · intro member _ tail
    obtain ⟨more, hcharacters⟩ := exists_memberCharacters member
    rw [hcharacters]
    exact reads_hasMember_first
  · intro member _ tail
    obtain ⟨more, hcharacters⟩ := exists_memberCharacters member
    rw [List.cons_append, hcharacters]
    exact reads_hasMember_next
  · intro member hmember later value
    exact hstep member hmember value _ (ends_separated (.inr rfl))

/-- The name of a member is read, up to the colon behind it. -/
theorem reads_name (member : String × Json) :
    Scan.text.Reads levels (memberCharacters member ++ rest)
      (':' :: (member.2.characters ++ rest)) (.ok member.1) := by
  rw [memberCharacters_append]
  exact Scan.reads_text member.1

theorem bind_closed (result : Except Fault γ) :
    (result >>= fun value ↦ (Except.ok () : Except Fault Unit).map fun _ ↦ value) = result :=
  bind_pure result

/-- A list is what is inside it. -/
theorem reads_list {body : Scan γ} {result : Except Fault γ}
    (hbody : body.Reads (levels + 1) (separated true (items.map characters) ++ ']' :: rest)
      (']' :: rest) result) :
    (enclosed body endList).Reads (levels + 2) ((Json.list items).characters ++ rest) rest
      result := by
  have henclosed := hbody.enclosed (Nat.lt_add_left levels Nat.one_lt_two) '[' reads_endList
  rw [bind_closed] at henclosed
  rw [characters_list, List.cons_append, List.append_assoc]
  exact henclosed

/-- An object is what is inside it. -/
theorem reads_object {body : Scan γ} {result : Except Fault γ}
    (hbody : body.Reads (levels + 1)
      (separated true (members.map memberCharacters) ++ '\x7d' :: rest) ('\x7d' :: rest) result) :
    (enclosed body endObject).Reads (levels + 2) ((Json.object members).characters ++ rest) rest
      result := by
  have henclosed := hbody.enclosed (Nat.lt_add_left levels Nat.one_lt_two) '\x7b' reads_endObject
  rw [bind_closed] at henclosed
  rw [characters_object, List.cons_append, List.append_assoc]
  exact henclosed

end Entries

/-! ### Members in order -/

/-- It is the same whether members are put in order as they are read or when all have been read. -/
theorem foldlM_insertMember (read : String × Json → Except Fault γ) (members : Members)
    (known : List (String × γ)) :
    (members.foldlM (fun known member ↦
      (read member).map fun value ↦ insertMember member.1 value known) known) =
    (members.mapM fun member ↦ (read member).map fun value ↦ (member.1, value)).map fun found ↦
      found.foldl (fun known member ↦ insertMember member.1 member.2 known) known := by
  induction members generalizing known with
  | nil => rfl
  | cons member members ih =>
    rw [List.foldlM_cons, List.mapM_cons]
    cases read member with
    | error fault => rfl
    | ok value =>
      change members.foldlM _ (insertMember member.1 value known) = _
      rw [ih]
      cases members.mapM fun member ↦ (read member).map fun value ↦ (member.1, value) with
      | error fault => rfl
      | ok found => rfl

namespace Form

/-! ### Faithful forms -/

/-- A form whose two readers agree: from the text that a value is written as it takes what it takes
from the value and stops at the end of it, or refuses where it refuses the value. -/
class Faithful (form : Form α) : Prop where
  reads : ∀ ⦃levels : Nat⦄ ⦃json : Json⦄, Textual levels json → ∀ ⦃rest : List Char⦄, Ends rest →
    form.text.Reads levels (json.characters ++ rest) rest (form.value json)

/-- The text of a value, read by a form that is faithful. -/
theorem reads_text (form : Form α) [form.Faithful] (hjson : Textual levels json)
    (hrest : Ends rest) :
    form.text.Reads levels (json.characters ++ rest) rest (form.value json) :=
  Faithful.reads hjson hrest

instance faithful_refine (form : Form α) [form.Faithful] (step : α → Except Fault β) :
    (form.refine step).Faithful where
  reads _ _ hjson _ hrest :=
    ((form.reads_text hjson hrest).then fun value _ ↦ reads_ofExcept (step value)).settled

instance faithful_map (form : Form α) [form.Faithful] (change : α → β) :
    (form.map change).Faithful where
  reads _ _ hjson _ hrest := (form.reads_text hjson hrest).map change

section Begins

variable {expected : String} {read : Char → Option (Scan α)}

/-- A form goes on to read what begins with a character that it knows. -/
theorem reads_begins {mark : Char} {more : List Char} {scan : Scan α} {result : Except Fault α}
    (hmark : isSpace mark = false) (hread : read mark = some scan)
    (hscan : scan.Reads levels (mark :: more) rest result) :
    (begins expected read).Reads levels (mark :: more) rest result := by
  unfold begins
  refine ((reads_skipSpace_cons hmark more).bind ?_).settled
  dsimp only
  rw [hread]
  exact hscan

/-- A form refuses a value that begins with none of the characters it knows. -/
theorem reads_begins_other (hjson : Textual levels json)
    (hread : ∀ mark, Marks json mark → read mark = none) (fault : Fault) :
    (begins expected read).Reads levels (json.characters ++ rest) rest (.error fault) := by
  have hmismatch : Scan.Refuses (mismatch expected : Scan α) :=
    refuses_bind fun _ ↦ refuses_refuse _
  obtain ⟨mark, more, hcharacters, hmark⟩ := hjson.exists_mark
  rw [hcharacters, List.cons_append]
  unfold begins
  refine ((reads_skipSpace_cons hmark.isSpace_eq_false _).bind ?_).settled
  dsimp only
  rw [hread mark hmark]
  exact hmismatch.reads

end Begins

/-! ### Scalars -/

instance faithful_parsed (expected : String) (parse : String → Except Fault α) :
    (parsed expected parse).Faithful where
  reads levels json hjson rest hrest := by
    cases json with
    | text value =>
      have hread : (Scan.text >>= fun value ↦ Scan.ofExcept (parse value)).Reads levels
          ((Json.text value).characters ++ rest) rest (parse value) :=
        (Scan.reads_text value).bind (reads_ofExcept (parse value))
      rw [characters_text] at hread ⊢
      exact reads_begins (by decide) rfl hread
    | _ =>
      refine reads_begins_other hjson ?_ _
      intro mark hmark
      split
      · obtain ⟨_, ⟨⟩⟩ := hmark.exists_text
      · rfl

instance faithful_string : string.Faithful :=
  faithful_parsed _ _

instance faithful_bool : bool.Faithful where
  reads levels json hjson rest hrest := by
    cases json with
    | bool value =>
      cases value with
      | false =>
        refine reads_begins (by decide) rfl ?_
        exact (reads_wholeWord 'f' ['a', 'l', 's', 'e'] rest).seqRight (reads_pure false)
      | true =>
        refine reads_begins (by decide) rfl ?_
        exact (reads_wholeWord 't' ['r', 'u', 'e'] rest).seqRight (reads_pure true)
    | _ =>
      refine reads_begins_other hjson ?_ _
      intro mark hmark
      split
      · cases hmark.eq_true
      · cases hmark.eq_false
      · rfl

instance faithful_nothing : nothing.Faithful where
  reads levels json hjson rest hrest := by
    cases json with
    | null =>
      exact reads_begins (by decide) rfl (reads_wholeWord 'n' ['u', 'l', 'l'] rest)
    | _ =>
      refine reads_begins_other hjson ?_ _
      intro mark hmark
      split
      · cases hmark.eq_null
      · rfl

/-- A number is read and then made sense of. -/
theorem reads_accepted {value : Number} (hvalue : Textual levels (.number value))
    (hrest : Ends rest) (accept : Number → Except Fault α) {depth : Nat} :
    (Scan.number >>= fun value ↦ Scan.ofExcept (accept value)).Reads depth
      ((Json.number value).characters ++ rest) rest (accept value) := by
  cases hvalue with
  | integer hlow hhigh => exact (reads_number hlow hhigh hrest).bind (reads_ofExcept _)

instance faithful_numeric (expected : String) (accept : Number → Except Fault α) :
    (numeric expected accept).Faithful where
  reads levels json hjson rest hrest := by
    cases json with
    | number value =>
      have hread : (Scan.number >>= fun value ↦ Scan.ofExcept (accept value)).Reads levels
          ((Json.number value).characters ++ rest) rest (accept value) :=
        reads_accepted hjson hrest accept
      obtain ⟨mark, more, hcharacters, hmark⟩ := hjson.exists_mark
      have hnumber : (decide (mark = '-') || mark.isDigit) = true := by simpa [Marks] using hmark
      rw [hcharacters] at hread ⊢
      exact reads_begins hmark.isSpace_eq_false (if_pos hnumber) hread
    | _ =>
      refine reads_begins_other hjson ?_ _
      intro mark hmark
      refine if_neg fun hnumber ↦ ?_
      obtain ⟨_, ⟨⟩⟩ := hmark.exists_number (by simpa using hnumber)

instance faithful_integer (expected : String) (low high : Int) :
    (integer expected low high).Faithful :=
  faithful_numeric _ _

instance faithful_int32 : int32.Faithful :=
  faithful_map _ _

instance faithful_int64 : int64.Faithful :=
  faithful_integer _ _ _

instance faithful_uint16 : uint16.Faithful :=
  faithful_map _ _

instance faithful_uint32 : uint32.Faithful :=
  faithful_map _ _

instance faithful_uint64 : uint64.Faithful :=
  faithful_map _ _

instance faithful_nullable (form : Form α) [form.Faithful] : form.nullable.Faithful where
  reads levels json hjson rest hrest := by
    have hother (hnull : json ≠ .null) : form.nullable.text.Reads levels
        (json.characters ++ rest) rest ((form.value json).map some) := by
      have hread := (form.reads_text hjson hrest).return some
      obtain ⟨mark, more, hcharacters, hmark⟩ := hjson.exists_mark
      have hword : ¬some mark = some 'n' := by
        rintro ⟨⟩
        exact hnull hmark.eq_null
      rw [hcharacters] at hread ⊢
      refine (reads_skipSpace_cons hmark.isSpace_eq_false _).bind ?_
      rw [if_neg hword]
      exact hread
    cases json with
    | null =>
      refine (reads_skipSpace_cons (by decide) _).bind ((reads_advance_one 'n').bind ?_)
      exact (reads_word ['u', 'l', 'l'] rest).bind (reads_pure none)
    | _ => exact hother nofun

/-! ### Lists and dictionaries -/

instance faithful_list (form : Form α) [form.Faithful] : form.list.Faithful where
  reads levels json hjson rest hrest := by
    cases json with
    | list items =>
      cases hjson with
      | @list levels _ hitems =>
        have hvalue : items.mapM form.value =
            (items.foldlM (fun read item ↦ (form.value item).map (· :: read)) []).map
              List.reverse :=
          List.mapM_eq_reverse_foldlM_cons
        have hread : (do
            let reversed ← enclosed
              (repeated hasItem (fun read ↦ return (← form.text) :: read) []) endList
            return reversed.reverse).Reads (levels + 2) ((Json.list items).characters ++ rest) rest
              (items.mapM form.value) := by
          rw [hvalue]
          refine (reads_list (reads_items hitems ?_ [])).return List.reverse
          intro item hitem read rest hrest
          exact (form.reads_text (hitems item hitem) hrest).return (· :: read)
        rw [characters_list] at hread ⊢
        exact reads_begins (by decide) rfl hread
    | _ =>
      refine reads_begins_other hjson ?_ _
      intro mark hmark
      split
      · obtain ⟨_, ⟨⟩⟩ := hmark.exists_list
      · rfl

instance faithful_dictionary (form : Form α) [form.Faithful] : form.dictionary.Faithful where
  reads levels json hjson rest hrest := by
    cases json with
    | object members =>
      cases hjson with
      | @object levels _ hmembers hordered =>
        have hread : (enclosed (repeated hasMember (fun read ↦ do
            let name ← Scan.text
            colon
            return insertMember name (← form.text) read) []) endObject).Reads (levels + 2)
              ((Json.object members).characters ++ rest) rest
              (members.foldlM (fun known member ↦
                (form.value member.2).map fun value ↦ insertMember member.1 value known) []) := by
          refine reads_object (reads_members ?_ [])
          intro member hmember known rest hrest
          refine (reads_name member).bind (reads_colon.bind ?_)
          exact (form.reads_text (hmembers member hmember) hrest).return fun value ↦
            insertMember member.1 value known
        rw [foldlM_insertMember] at hread
        rw [characters_object] at hread ⊢
        exact reads_begins (by decide) rfl hread
    | _ =>
      refine reads_begins_other hjson ?_ _
      intro mark hmark
      split
      · obtain ⟨_, ⟨⟩⟩ := hmark.exists_object
      · rfl

/-! ### Anything -/

/-- A scalar ahead is found to be what it was before it was written. -/
theorem reads_lookAhead (hjson : Textual levels json) (hrest : Ends rest) (hscalar : json.IsScalar)
    {depth : Nat} : lookAhead.Reads depth (json.characters ++ rest) rest (.ok json.found) := by
  cases hjson with
  | null =>
    refine reads_peek.bind ?_
    exact (reads_wholeWord 'n' ['u', 'l', 'l'] rest).seqRight (reads_pure _)
  | bool value =>
    cases value with
    | false =>
      refine reads_peek.bind ?_
      exact (reads_wholeWord 'f' ['a', 'l', 's', 'e'] rest).seqRight (reads_pure _)
    | true =>
      refine reads_peek.bind ?_
      exact (reads_wholeWord 't' ['r', 'u', 'e'] rest).seqRight (reads_pure _)
  | @integer levels value hlow hhigh =>
    have hread : (Found.number <$> Scan.number).Reads depth
        ((Json.number (.integer value)).characters ++ rest) rest
        (.ok (.number (.integer value))) :=
      (reads_number hlow hhigh hrest).map Found.number
    have hinteger : Textual (levels + 1) (.number (.integer value)) := .integer hlow hhigh
    obtain ⟨mark, more, hcharacters, hmark⟩ := hinteger.exists_mark
    have hother := Marks.not_mem_of_number hmark
    have hnumber : (decide (mark = '-') || mark.isDigit) = true := by simpa [Marks] using hmark
    rw [hcharacters] at hread ⊢
    refine reads_peek.bind ?_
    dsimp only [List.cons_append, List.head?]
    split
    all_goals
      rename_i hhead
      cases hhead
    iterate 6 exact absurd (by decide) hother
    rw [if_pos hnumber]
    exact hread
  | text value =>
    have hread : (Found.text <$> Scan.text).Reads depth ((Json.text value).characters ++ rest) rest
        (.ok (.text value)) :=
      (Scan.reads_text value).map Found.text
    rw [characters_text] at hread ⊢
    exact reads_peek.bind hread
  | list _ => exact hscalar.elim
  | object _ _ => exact hscalar.elim

theorem foldlM_readItems (items : List Json) :
    items.foldlM (fun read item ↦ (Except.ok item : Except Fault Json).map (· :: read)) [] =
      .ok items.reverse := by
  calc items.foldlM (fun read item ↦ (Except.ok item : Except Fault Json).map (· :: read)) []
      = pure (items.foldl (fun read item ↦ item :: read) []) := List.foldlM_pure
    _ = .ok items.reverse := by
        rw [List.foldl_flip_cons_eq_append', List.append_nil]
        rfl

theorem foldlM_readMembers {members : Members}
    (hordered : members.Pairwise fun former later ↦ former.1 < later.1) :
    members.foldlM (fun known member ↦ (Except.ok member.2 : Except Fault Json).map fun value ↦
      insertMember member.1 value known) [] = .ok members := by
  calc members.foldlM (fun known member ↦ (Except.ok member.2 : Except Fault Json).map fun value ↦
        insertMember member.1 value known) []
      = pure (members.foldl (fun known member ↦ insertMember member.1 member.2 known) []) :=
        List.foldlM_pure
    _ = .ok members := by
        rw [foldl_insertMember_of_pairwise hordered]
        rfl

theorem reads_anyText_scalar (hjson : Textual (levels + 1) json) (hrest : Ends rest)
    (hscalar : json.IsScalar) :
    (anyText (levels + 1)).Reads (levels + 1) (json.characters ++ rest) rest (.ok json) := by
  have hread : lookAhead.Reads (levels + 1) (json.characters ++ rest) rest (.ok json.found) :=
    reads_lookAhead hjson hrest hscalar
  obtain ⟨mark, more, hcharacters, hmark⟩ := hjson.exists_mark
  rw [hcharacters] at hread ⊢
  rw [anyText]
  refine ((reads_skipSpace_cons hmark.isSpace_eq_false _).bind ?_).settled
  split
  · contradiction
  · rename_i hhead
    cases hhead
    obtain ⟨items, rfl⟩ := hmark.exists_list
    exact hscalar.elim
  · rename_i hhead
    cases hhead
    obtain ⟨members, rfl⟩ := hmark.exists_object
    exact hscalar.elim
  · refine hread.bind ?_
    cases json with
    | list items => exact hscalar.elim
    | object members => exact hscalar.elim
    | _ => exact reads_pure _

/-- Any value is read as what it was before it was written. -/
theorem reads_anyText (hjson : Textual levels json) (hrest : Ends rest) :
    (anyText levels).Reads levels (json.characters ++ rest) rest (.ok json) := by
  induction hjson generalizing rest with
  | null => exact reads_anyText_scalar .null hrest trivial
  | bool value => exact reads_anyText_scalar (.bool value) hrest trivial
  | integer hlow hhigh => exact reads_anyText_scalar (.integer hlow hhigh) hrest trivial
  | text value => exact reads_anyText_scalar (.text value) hrest trivial
  | @list levels items hitems ih =>
    have hbody : (repeated hasItem (fun read ↦ return (← anyText (levels + 1)) :: read) []).Reads
        (levels + 1) (separated true (items.map characters) ++ ']' :: rest) (']' :: rest)
        (.ok items.reverse) := by
      rw [← foldlM_readItems]
      refine reads_items hitems ?_ []
      intro item hitem read rest hrest
      exact (ih item hitem hrest).return (· :: read)
    have hread := (reads_list hbody).return fun reversed ↦ Json.list reversed.reverse
    rw [Except.map, List.reverse_reverse] at hread
    rw [anyText]
    rw [characters_list] at hread ⊢
    exact ((reads_skipSpace_cons (by decide) _).bind hread).settled
  | @object levels members hmembers hordered ih =>
    have hbody : (repeated hasMember (fun read ↦ do
          let name ← Scan.text
          colon
          return insertMember name (← anyText (levels + 1)) read) []).Reads (levels + 1)
        (separated true (members.map memberCharacters) ++ '\x7d' :: rest) ('\x7d' :: rest)
        (.ok members) := by
      rw [← foldlM_readMembers hordered]
      refine reads_members ?_ []
      intro member hmember known rest hrest
      refine (reads_name member).bind (reads_colon.bind ?_)
      exact (ih member hmember hrest).return fun value ↦ insertMember member.1 value known
    have hread := (reads_object hbody).return Json.object
    rw [anyText]
    rw [characters_object] at hread ⊢
    exact ((reads_skipSpace_cons (by decide) _).bind hread).settled

instance faithful_anything : anything.Faithful where
  reads _ _ hjson _ hrest := reads_get fun _ ↦ reads_anyText hjson hrest

/-! ### Choices -/

section Choice

/-- What is inside a choice that is written as an object: a name, and no value for it. -/
theorem reads_chosen (names : List (String × α)) {member : String × Json}
    (hmember : Textual (levels + 1) member.2) (hrest : Ends rest) :
    (do advance 1
        if !(← hasMember true) then malformedAhead .valueExpected
        let value ← (parsed "variant identifier" (variant names)).text
        colon
        nothing.text
        return value : Scan α).Reads (levels + 1) ('\x7b' :: (memberCharacters member ++ rest)) rest
      (do let value ← variant names member.1
          nothing.value member.2
          return value) := by
  have hname : (parsed "variant identifier" (variant names)).text.Reads (levels + 1)
      (memberCharacters member ++ rest) (':' :: (member.2.characters ++ rest))
      (variant names member.1) := by
    have hcolon : Ends (':' :: (member.2.characters ++ rest)) := by
      rintro _ ⟨⟩
      decide
    rw [memberCharacters_append]
    exact (parsed "variant identifier" (variant names)).reads_text (.text member.1) hcolon
  obtain ⟨more, hcharacters⟩ := exists_memberCharacters member
  rw [hcharacters] at hname ⊢
  refine (reads_advance_one _).bind (reads_hasMember_first.bind ?_)
  refine hname.then fun value _ ↦ reads_colon.bind ?_
  exact (nothing.reads_text hmember hrest).then fun _ _ ↦ reads_pure value

/-- The end of a choice that is written as an object. -/
theorem reads_chosen_end (value : α) :
    (do match ← skipSpace with
        | some '\x7d' => advance 1
        | some _ => malformedHere .valueExpected
        | none => malformedHere .unfinishedObject
        return value : Scan α).Reads levels ('\x7d' :: rest) rest (.ok value) :=
  (reads_skipSpace_cons (by decide) rest).bind ((reads_advance_one _).bind (reads_pure value))

/-- A choice has no further member. -/
theorem reads_chosen_comma (value : α) {text : List Char} (fault : Fault) :
    (do match ← skipSpace with
        | some '\x7d' => advance 1
        | some _ => malformedHere .valueExpected
        | none => malformedHere .unfinishedObject
        return value : Scan α).Reads levels (',' :: text) rest (.error fault) :=
  (reads_skipSpace_cons (by decide) text).bind (refuses_malformedHere _).bind.reads

/-- A choice is written as a text or as an object. -/
theorem reads_choice_other (names : List (String × α)) (hjson : Textual levels json)
    (htext : ∀ value, json ≠ .text value) (hobject : ∀ members, json ≠ .object members)
    (fault : Fault) :
    (choice names).text.Reads levels (json.characters ++ rest) rest (.error fault) := by
  obtain ⟨mark, more, hcharacters, hmark⟩ := hjson.exists_mark
  rw [hcharacters]
  refine (reads_skipSpace_cons hmark.isSpace_eq_false _).bind ?_
  split
  · contradiction
  · rename_i hhead
    cases hhead
    obtain ⟨value, hvalue⟩ := hmark.exists_text
    exact absurd hvalue (htext value)
  · rename_i hhead
    cases hhead
    obtain ⟨members, hmembers⟩ := hmark.exists_object
    exact absurd hmembers (hobject members)
  · exact (refuses_malformedAhead _).reads

/-- A choice that is written as an object has one member. -/
theorem reads_choice_object (names : List (String × α)) {members : Members}
    (hmembers : ∀ member ∈ members, Textual (levels + 1) member.2) :
    (choice names).text.Reads (levels + 2) ((Json.object members).characters ++ rest) rest
      ((choice names).value (.object members)) := by
  have hopen : 1 < levels + 2 := Nat.lt_add_left levels Nat.one_lt_two
  rw [characters_object, List.cons_append, List.append_assoc]
  refine (reads_skipSpace_cons (by decide) _).bind ?_
  match members with
  | [] =>
    refine Reads.bind_error (?_ : Reads _ _ _ rest (.error (.wrongValue .object ""))) _
    refine Reads.nested hopen ?_
    refine (reads_advance_one _).bind ((reads_hasMember_end true).bind ?_)
    exact (refuses_malformedAhead _).bind.reads
  | [member] =>
    have hends : Ends ('\x7d' :: rest) := by
      rintro _ ⟨⟩
      decide
    have hchosen := (reads_chosen names (hmembers member List.mem_cons_self) hends).nested hopen
    rw [List.map_singleton, separated, separated, List.append_nil]
    exact hchosen.keep reads_chosen_end
  | member :: next :: members =>
    have hends : Ends (separated false ((next :: members).map memberCharacters) ++
        '\x7d' :: rest) := ends_separated (.inr rfl)
    have hchosen := (reads_chosen names (hmembers member List.mem_cons_self) hends).nested hopen
    rw [List.map_cons, separated, List.append_assoc]
    exact hchosen.reject fun value ↦ reads_chosen_comma value _

instance faithful_choice (names : List (String × α)) : (choice names).Faithful where
  reads levels json hjson rest hrest := by
    cases json with
    | text value =>
      have hread := (parsed "variant identifier" (variant names)).reads_text hjson hrest
      rw [characters_text] at hread ⊢
      exact (reads_skipSpace_cons (by decide) _).bind hread
    | object members =>
      cases hjson with
      | object hmembers hordered => exact reads_choice_object names hmembers
    | _ => exact reads_choice_other names hjson nofun nofun _

end Choice

/-! ### Whole texts -/

/-- A form makes of a printed value what it makes of the value. -/
theorem reading?_compact (form : Form α) [form.Faithful] (hjson : Textual nestingLimit json) :
    (form.parse json.compact).toOption = form.reading? json := by
  have hread := form.reads_text hjson ends_nil
  rw [List.append_nil] at hread
  exact (hread.keep fun value ↦
    (reads_skipSpace starts_nil).bind (reads_pure value)).toOption_run ⟨1, 0⟩

/-- What a form reads of a value it reads of the printed value. -/
theorem parse_compact_of_value {form : Form α} [form.Faithful] {value : α}
    (hvalue : form.value json = .ok value) (hjson : Textual nestingLimit json) :
    form.parse json.compact = .ok value := by
  have hread := form.reading?_compact hjson
  rw [reading?_eq_some.2 hvalue] at hread
  cases hparse : form.parse json.compact with
  | ok found =>
    rw [hparse] at hread
    cases hread
    rfl
  | error misreading =>
    rw [hparse] at hread
    cases hread

/-- A value that is printed and read is what it was. -/
theorem parse_compact (hjson : Textual nestingLimit json) :
    anything.parse json.compact = .ok json :=
  parse_compact_of_value rfl hjson

end Form

end BlogOperator.Json

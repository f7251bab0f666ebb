import BlogOperator.Proofs.Lexemes

/-!
# Written values

A value is `Textual` when a text can hold it: it is not nested too deeply, its numbers are whole and
of 64 bits, and the members of its objects are in order of their names. What is said here of such a
value is what the readers of texts have to know of the characters it is written as
(`Json.characters`). The first of them tells what kind of value it is (`Json.Marks`), and it is
neither a space nor a comma nor the end of anything.

A value that nobody asked for is passed over by one scan that keeps the brackets that are open
(`Scan.skipUntilClosed`). It takes fewer steps than twice the characters of the value
(`Textual.skips`), which is what `Scan.skipValue` allows for, so that it comes to the end of the
value and no further (`Textual.reads_skipValue`).
-/

set_option autoImplicit false

namespace BlogOperator.Json

open Scan

/-- A value that a text can hold, nested at most so many levels deep: its numbers are whole and of
64 bits, and the members of its objects are in order of their names. -/
inductive Textual : (levels : Nat) → Json → Prop
  | null {levels : Nat} : Textual (levels + 1) .null
  | bool {levels : Nat} (value : Bool) : Textual (levels + 1) (.bool value)
  | integer {levels : Nat} {value : Int} (hlow : -9223372036854775808 ≤ value)
      (hhigh : value ≤ 18446744073709551615) : Textual (levels + 1) (.number (.integer value))
  | text {levels : Nat} (value : String) : Textual (levels + 1) (.text value)
  | list {levels : Nat} {items : List Json} (hitems : ∀ item ∈ items, Textual (levels + 1) item) :
      Textual (levels + 2) (.list items)
  | object {levels : Nat} {members : Members}
      (hmembers : ∀ member ∈ members, Textual (levels + 1) member.2)
      (hordered : members.Pairwise fun former later ↦ former.1 < later.1) :
      Textual (levels + 2) (.object members)

/-- Neither a list nor an object. -/
def IsScalar : Json → Prop
  | .list _ => False
  | .object _ => False
  | _ => True

variable {levels depth : Nat} {json : Json} {rest : List Char}

/-! ### The characters of a value -/

/-- The characters that a value is written as. -/
def characters (json : Json) : List Char :=
  json.compact.toList

/-- The characters that a member is written as. -/
def memberCharacters (member : String × Json) : List Char :=
  (writtenText member.1).toList ++ ':' :: member.2.characters

theorem memberCharacters_append (member : String × Json) (rest : List Char) :
    memberCharacters member ++ rest =
      (Json.text member.1).characters ++ ':' :: (member.2.characters ++ rest) := by
  rw [memberCharacters, List.append_assoc]
  rfl

theorem compactItems_eq (items : List Json) : compactItems items = items.map compact := by
  induction items with
  | nil => rfl
  | cons item items ih => rw [compactItems, ih, List.map_cons]

theorem compactMembers_eq (members : Members) : compactMembers members =
    members.map fun member ↦ writtenText member.1 ++ ":" ++ member.2.compact := by
  induction members with
  | nil => rfl
  | cons member members ih =>
    obtain ⟨name, value⟩ := member
    rw [compactMembers, ih, List.map_cons]

theorem characters_text (value : String) :
    (Json.text value).characters = '"' :: inked value.toList ++ ['"'] :=
  toList_writtenText value

theorem characters_list (items : List Json) : (Json.list items).characters =
    '[' :: (separated true (items.map characters) ++ [']']) := by
  rw [characters, compact, compactItems_eq, separated_true_eq]
  simp only [String.toList_append, String.toList_intercalate, List.map_map]
  rfl

theorem characters_object (members : Members) : (Json.object members).characters =
    '\x7b' :: (separated true (members.map memberCharacters) ++ ['\x7d']) := by
  have hmember : String.toList ∘ (fun member : String × Json ↦
      writtenText member.1 ++ ":" ++ member.2.compact) = memberCharacters := by
    funext member
    simp [memberCharacters, characters, String.toList_append]
  rw [characters, compact, compactMembers_eq, separated_true_eq]
  simp only [String.toList_append, String.toList_intercalate, List.map_map, hmember]
  rfl

/-- A list or an object goes on with a comma or ends; no number goes on like that. -/
theorem ends_separated {entries : List (List Char)} {closing : Char}
    (hclosing : closing = ']' ∨ closing = '\x7d') :
    Ends (separated false entries ++ closing :: rest) := by
  cases entries with
  | nil =>
    rcases hclosing with rfl | rfl
    · rintro _ ⟨⟩
      decide
    · rintro _ ⟨⟩
      decide
  | cons entry entries =>
    rintro _ ⟨⟩
    decide

/-! ### What values begin with -/

/-- What a value of this kind begins with. -/
def Marks : Json → Char → Prop
  | .null, mark => mark = 'n'
  | .bool value, mark => mark = if value then 't' else 'f'
  | .number _, mark => mark = '-' ∨ mark.isDigit = true
  | .text _, mark => mark = '"'
  | .list _, mark => mark = '['
  | .object _, mark => mark = '\x7b'

theorem Textual.exists_mark (hjson : Textual levels json) :
    ∃ mark more, json.characters = mark :: more ∧ Marks json mark := by
  cases hjson with
  | null => exact ⟨_, _, rfl, rfl⟩
  | bool value =>
    cases value with
    | false => exact ⟨_, _, rfl, rfl⟩
    | true => exact ⟨_, _, rfl, rfl⟩
  | @integer _ value _ _ =>
    change ∃ mark more, (toString value).toList = mark :: more ∧ _
    cases value with
    | ofNat value =>
      obtain ⟨first, more, hdigits, hfirst⟩ := exists_digit value
      exact ⟨first, more, by rw [toList_ofNat, hdigits], .inr hfirst⟩
    | negSucc value => exact ⟨'-', _, toList_negSucc value, .inl rfl⟩
  | text value => exact ⟨'"', _, characters_text value, rfl⟩
  | list _ => exact ⟨'[', _, characters_list _, rfl⟩
  | object _ _ => exact ⟨'\x7b', _, characters_object _, rfl⟩

theorem exists_memberCharacters (member : String × Json) :
    ∃ more, memberCharacters member = '"' :: more := by
  rw [memberCharacters, toList_writtenText]
  exact ⟨_, rfl⟩

namespace Marks

theorem eq_null (hmark : Marks json 'n') : json = .null := by
  cases json with
  | null => rfl
  | bool value => cases value <;> simp [Marks] at hmark
  | _ => simp [Marks] at hmark

theorem eq_true (hmark : Marks json 't') : json = .bool true := by
  cases json with
  | bool value => cases value <;> simp [Marks] at hmark ⊢
  | _ => simp [Marks] at hmark

theorem eq_false (hmark : Marks json 'f') : json = .bool false := by
  cases json with
  | bool value => cases value <;> simp [Marks] at hmark ⊢
  | _ => simp [Marks] at hmark

theorem exists_text (hmark : Marks json '"') : ∃ value, json = .text value := by
  cases json with
  | text value => exact ⟨value, rfl⟩
  | bool value => cases value <;> simp [Marks] at hmark
  | _ => simp [Marks] at hmark

theorem exists_list (hmark : Marks json '[') : ∃ items, json = .list items := by
  cases json with
  | list items => exact ⟨items, rfl⟩
  | bool value => cases value <;> simp [Marks] at hmark
  | _ => simp [Marks] at hmark

theorem exists_object (hmark : Marks json '\x7b') : ∃ members, json = .object members := by
  cases json with
  | object members => exact ⟨members, rfl⟩
  | bool value => cases value <;> simp [Marks] at hmark
  | _ => simp [Marks] at hmark

variable {mark : Char}

/-- A number begins with none of the characters that other values begin with. -/
theorem not_mem_of_number (hmark : mark = '-' ∨ mark.isDigit = true) :
    mark ∉ ['n', 't', 'f', '"', '[', '\x7b'] := by
  intro hmem
  have hother : ∀ mark ∈ ['n', 't', 'f', '"', '[', '\x7b'],
      ¬(mark = '-' ∨ mark.isDigit = true) := by simp [Char.isDigit]
  exact hother mark hmem hmark

theorem exists_number (hmark : Marks json mark) (hnumber : mark = '-' ∨ mark.isDigit = true) :
    ∃ value, json = .number value := by
  have hother := not_mem_of_number hnumber
  cases json with
  | number value => exact ⟨value, rfl⟩
  | bool value => cases value <;> simp_all [Marks]
  | _ => simp_all [Marks]

/-- No value begins with a space, a separator or an end. -/
theorem not_mem (hmark : Marks json mark) :
    mark ∉ [' ', '\n', '\t', '\u000d', ',', ']', '\x7d'] := by
  have hknown : mark ∈ ['n', 't', 'f', '"', '[', '\x7b', '-'] ∨ mark.isDigit = true := by
    cases json with
    | bool value => cases value <;> simp_all [Marks]
    | number _ =>
      rcases hmark with rfl | hdigit
      · exact .inl (by decide)
      · exact .inr hdigit
    | _ => simp_all [Marks]
  intro hmem
  rcases hknown with hother | hdigit
  · have hnone : ∀ mark ∈ ['n', 't', 'f', '"', '[', '\x7b', '-'],
        mark ∉ [' ', '\n', '\t', '\u000d', ',', ']', '\x7d'] := by simp
    exact hnone mark hother hmem
  · have hdigits : ∀ mark ∈ [' ', '\n', '\t', '\u000d', ',', ']', '\x7d'],
        mark.isDigit = false := by simp [Char.isDigit]
    rw [hdigits mark hmem] at hdigit
    cases hdigit

theorem isSpace_eq_false (hmark : Marks json mark) : isSpace mark = false := by
  have hother := hmark.not_mem
  simp_all [isSpace]

theorem ne_closing (hmark : Marks json mark) : mark ≠ ']' := by
  rintro rfl
  exact hmark.not_mem (by decide)

end Marks

theorem Textual.starts (hjson : Textual levels json) (rest : List Char) :
    Starts (json.characters ++ rest) := by
  obtain ⟨mark, more, hcharacters, hmark⟩ := hjson.exists_mark
  rw [hcharacters]
  rintro _ ⟨⟩
  exact hmark.isSpace_eq_false

/-! ### Members in order -/

section Order

variable {γ : Type}

/-- A member that comes after all others is put behind them. -/
theorem insertMember_of_lt {name : String} {value : γ} {known : List (String × γ)}
    (hknown : ∀ member ∈ known, member.1 < name) :
    insertMember name value known = known ++ [(name, value)] := by
  induction known with
  | nil => rfl
  | cons member known ih =>
    obtain ⟨other, existing⟩ := member
    have hother : other < name := hknown _ List.mem_cons_self
    have hafter : ¬name < other := String.lt_asymm hother
    have hne : name ≠ other := by
      rintro rfl
      exact String.lt_irrefl name hother
    rw [insertMember, if_neg hafter, if_neg hne, List.cons_append,
      ih fun member hmember ↦ hknown member (List.mem_cons_of_mem _ hmember)]

theorem foldl_insertMember_of_pairwise {members known : List (String × γ)}
    (hordered : (known ++ members).Pairwise fun former later ↦ former.1 < later.1) :
    members.foldl (fun known member ↦ insertMember member.1 member.2 known) known =
      known ++ members := by
  induction members generalizing known with
  | nil => rw [List.foldl_nil, List.append_nil]
  | cons member members ih =>
    have hknown : ∀ former ∈ known, former.1 < member.1 := fun former hformer ↦
      (List.pairwise_append.1 hordered).2.2 former hformer member List.mem_cons_self
    rw [List.append_cons] at hordered
    rw [List.foldl_cons, insertMember_of_lt hknown, ih hordered, List.append_assoc,
      List.singleton_append]

theorem mem_of_mem_insertMember {name : String} {value : γ} {known : List (String × γ)}
    {member : String × γ} (hmember : member ∈ insertMember name value known) :
    member = (name, value) ∨ member ∈ known := by
  induction known with
  | nil => exact .inl (List.mem_singleton.1 hmember)
  | cons former known ih =>
    obtain ⟨other, existing⟩ := former
    rw [insertMember] at hmember
    split at hmember
    · exact List.mem_cons.1 hmember
    split at hmember
    · rcases List.mem_cons.1 hmember with rfl | hlater
      · exact .inl rfl
      · exact .inr (List.mem_cons_of_mem _ hlater)
    · rcases List.mem_cons.1 hmember with rfl | hlater
      · exact .inr List.mem_cons_self
      · exact (ih hlater).imp id (List.mem_cons_of_mem _)

/-- Members stay in order of their names when one is put among them. -/
theorem pairwise_insertMember {name : String} {value : γ} {known : List (String × γ)}
    (hordered : known.Pairwise fun former later ↦ former.1 < later.1) :
    (insertMember name value known).Pairwise fun former later ↦ former.1 < later.1 := by
  induction hordered with
  | nil => exact List.pairwise_singleton _ _
  | @cons former known hfirst hlater ih =>
    obtain ⟨other, existing⟩ := former
    rw [insertMember]
    split
    · rename_i hbefore
      refine .cons ?_ (.cons hfirst hlater)
      rintro member (_ | ⟨_, hmember⟩)
      · exact hbefore
      · exact String.lt_trans hbefore (hfirst member hmember)
    · rename_i hafter
      split
      · rename_i hsame
        subst hsame
        exact .cons hfirst hlater
      · rename_i hother
        refine .cons ?_ ih
        intro member hmember
        rcases mem_of_mem_insertMember hmember with rfl | hknown
        · exact Decidable.of_not_not fun hnot ↦
            hother (String.le_antisymm (String.not_lt.1 hnot) (String.not_lt.1 hafter))
        · exact hfirst member hknown

/-- What is written for members can be held by a text if their values can, whatever order they come
in. -/
theorem Textual.record {members : Members}
    (hmembers : ∀ member ∈ members, Textual (levels + 1) member.2) :
    Textual (levels + 2) (Json.record members) := by
  have hfold (known : Members) (hknown : ∀ member ∈ known, Textual (levels + 1) member.2)
      (hordered : known.Pairwise fun former later ↦ former.1 < later.1) :
      Textual (levels + 2) (.object
        (members.foldl (fun known member ↦ insertMember member.1 member.2 known) known)) := by
    induction members generalizing known with
    | nil => exact .object hknown hordered
    | cons member members ih =>
      refine ih (fun later hlater ↦ hmembers later (List.mem_cons_of_mem _ hlater)) _ ?_
        (pairwise_insertMember hordered)
      intro later hlater
      rcases mem_of_mem_insertMember hlater with rfl | hbefore
      · exact hmembers member List.mem_cons_self
      · exact hknown later hbefore
  exact hfold [] nofun .nil

end Order

/-! ### Values that nobody asked for -/

theorem Textual.reads_skipStart (hjson : Textual levels json) (hrest : Ends rest)
    (hscalar : json.IsScalar) :
    skipStart.Reads depth (json.characters ++ rest) rest (.ok none) := by
  unfold skipStart
  cases hjson with
  | null =>
    refine (reads_skipSpace_cons (by decide) _).bind ?_
    exact (reads_wholeWord 'n' ['u', 'l', 'l'] rest).seqRight (reads_pure none)
  | bool value =>
    cases value with
    | false =>
      refine (reads_skipSpace_cons (by decide) _).bind ?_
      exact (reads_wholeWord 'f' ['a', 'l', 's', 'e'] rest).seqRight (reads_pure none)
    | true =>
      refine (reads_skipSpace_cons (by decide) _).bind ?_
      exact (reads_wholeWord 't' ['r', 'u', 'e'] rest).seqRight (reads_pure none)
  | @integer levels value hlow hhigh =>
    have hskip : (skipNumber *> pure none : Scan (Option Bracket)).Reads depth
        ((Json.number (.integer value)).characters ++ rest) rest (.ok none) :=
      (reads_skipNumber value hrest).seqRight (reads_pure none)
    have hinteger : Textual (levels + 1) (.number (.integer value)) := .integer hlow hhigh
    obtain ⟨mark, more, hcharacters, hmark⟩ := hinteger.exists_mark
    have hother := Marks.not_mem_of_number hmark
    have hnumber : (decide (mark = '-') || mark.isDigit) = true := by simpa [Marks] using hmark
    rw [hcharacters] at hskip ⊢
    refine (reads_skipSpace_cons hmark.isSpace_eq_false _).bind ?_
    split
    · contradiction
    all_goals
      rename_i hhead
      cases hhead
    iterate 6 exact absurd (by decide) hother
    rw [if_pos hnumber]
    exact hskip
  | text value =>
    have hskip : (skipText *> pure none : Scan (Option Bracket)).Reads depth
        ((Json.text value).characters ++ rest) rest (.ok none) :=
      (reads_skipText value).seqRight (reads_pure none)
    rw [characters_text] at hskip ⊢
    exact (reads_skipSpace_cons (by decide) _).bind hskip
  | list _ => exact hscalar.elim
  | object _ _ => exact hscalar.elim

theorem reads_skipStart_list : skipStart.Reads depth ('[' :: rest) rest (.ok (some .list)) :=
  (reads_skipSpace_cons (by decide) _).bind ((reads_advance_one _).seqRight (reads_pure _))

theorem reads_skipStart_object :
    skipStart.Reads depth ('\x7b' :: rest) rest (.ok (some .object)) :=
  (reads_skipSpace_cons (by decide) _).bind ((reads_advance_one _).seqRight (reads_pure _))

/-- The name of a member is passed over, up to its value. -/
theorem reads_skipName (member : String × Json) :
    skipName.Reads depth (memberCharacters member ++ rest) (member.2.characters ++ rest)
      (.ok ()) := by
  have hname : skipText.Reads depth (memberCharacters member ++ rest)
      (':' :: (member.2.characters ++ rest)) (.ok ()) := by
    rw [memberCharacters_append]
    exact reads_skipText member.1
  obtain ⟨more, hcharacters⟩ := exists_memberCharacters member
  rw [hcharacters] at hname ⊢
  unfold skipName
  exact (reads_skipSpace_cons (by decide) _).bind (hname.bind reads_colon)

/-- A value that is passed over in so many steps, after which what is around it goes on. -/
def Skips (depth : Nat) (json : Json) (cost : Nat) : Prop :=
  ∀ (bound : Nat) (brackets : List Bracket) (rest last : List Char) (result : Except Fault Unit),
    Ends rest → (skipUntilClosed bound (.entry true) brackets).Reads depth rest last result →
    (skipUntilClosed (bound + cost) .value brackets).Reads depth (json.characters ++ rest) last
      result

section Entries

variable {bracket : Bracket} {brackets : List Bracket} {bound : Nat} {last : List Char}
  {result : Except Fault Unit}

/-- Where a bracket ends, what is around it goes on. -/
theorem skips_end (after : Bool)
    (hrest : (skipUntilClosed bound (.entry true) brackets).Reads depth rest last result) :
    (skipUntilClosed (bound + 1) (.entry after) (bracket :: brackets)).Reads depth
      (bracket.closing :: rest) last result := by
  have hspace : isSpace bracket.closing = false := by cases bracket <;> decide
  rw [skipUntilClosed]
  refine (reads_skipSpace_cons hspace _).bind ?_
  dsimp only
  rw [if_pos rfl]
  exact (reads_advance_one _).bind hrest

/-- An entry is entered, past the comma before it unless it is the first. -/
theorem skips_entry {mark : Char} {more : List Char} {entries : List (List Char)}
    (hclosing : mark ≠ bracket.closing) (hspace : isSpace mark = false) (after : Bool)
    (hentered : (enter bracket *> skipUntilClosed bound .value (bracket :: brackets)).Reads depth
      (mark :: more ++ (separated false entries ++ rest)) last result) :
    (skipUntilClosed (bound + 1) (.entry after) (bracket :: brackets)).Reads depth
      (separated (!after) ((mark :: more) :: entries) ++ rest) last result := by
  rw [skipUntilClosed]
  cases after with
  | false =>
    rw [Bool.not_false, separated, List.append_assoc]
    refine (reads_skipSpace_cons hspace _).bind ?_
    dsimp only
    rw [if_neg hclosing, if_neg Bool.false_ne_true]
    exact hentered
  | true =>
    have hcomma : ',' ≠ bracket.closing := by cases bracket <;> decide
    rw [Bool.not_true, separated, List.append_assoc]
    refine (reads_skipSpace_cons (by decide) _).bind ?_
    dsimp only
    rw [if_neg hcomma, if_pos rfl, if_pos rfl]
    exact (reads_advance_one ',').bind hentered

end Entries

/-- The entries of a bracket are passed over one after another, if each of them can be. -/
theorem skips_entries {γ : Type} {bracket : Bracket} {write : γ → List Char} {value : γ → Json}
    {entries : List γ}
    (henter : ∀ entry ∈ entries, ∀ tail, (enter bracket).Reads depth (write entry ++ tail)
      ((value entry).characters ++ tail) (.ok ()))
    (hmark : ∀ entry ∈ entries, ∃ mark more, write entry = mark :: more ∧
      mark ≠ bracket.closing ∧ isSpace mark = false)
    (hvalue : ∀ entry ∈ entries, ∃ cost, cost + 1 ≤ 2 * (write entry).length ∧
      Skips depth (value entry) cost) (after : Bool) :
    ∃ cost ≤ 2 * (separated (!after) (entries.map write)).length + 1,
      ∀ (bound : Nat) (brackets : List Bracket) (rest last : List Char)
        (result : Except Fault Unit),
        (skipUntilClosed bound (.entry true) brackets).Reads depth rest last result →
        (skipUntilClosed (bound + cost) (.entry after) (bracket :: brackets)).Reads depth
          (separated (!after) (entries.map write) ++ bracket.closing :: rest) last result := by
  induction entries generalizing after with
  | nil => exact ⟨1, Nat.le_add_left _ _, fun _ _ _ _ _ hrest ↦ skips_end after hrest⟩
  | cons entry entries ih =>
    obtain ⟨cost, hcost, hskips⟩ := hvalue entry List.mem_cons_self
    obtain ⟨mark, more, hwritten, hclosing, hspace⟩ := hmark entry List.mem_cons_self
    obtain ⟨others, hothers, hentries⟩ := ih
      (fun entry hentry ↦ henter entry (List.mem_cons_of_mem _ hentry))
      (fun entry hentry ↦ hmark entry (List.mem_cons_of_mem _ hentry))
      (fun entry hentry ↦ hvalue entry (List.mem_cons_of_mem _ hentry)) true
    refine ⟨others + cost + 1, ?_, ?_⟩
    · have hlength := le_length_separated_cons (write entry) (entries.map write) (!after)
      rw [Bool.not_true] at hothers
      rw [List.map_cons]
      omega
    · intro bound brackets rest last result hrest
      have hends : Ends (separated false (entries.map write) ++ bracket.closing :: rest) :=
        ends_separated (by cases bracket <;> simp [Bracket.closing])
      have hentered := (henter entry List.mem_cons_self _).seqRight
        (hskips (bound + others) (bracket :: brackets) _ last result hends
          (hentries bound brackets rest last result hrest))
      rw [hwritten] at hentered
      rw [← Nat.add_assoc, ← Nat.add_assoc, List.map_cons, hwritten]
      exact skips_entry hclosing hspace after hentered

theorem Textual.skips_scalar (hjson : Textual levels json) (hscalar : json.IsScalar) :
    ∃ cost, cost + 1 ≤ 2 * json.characters.length ∧ Skips depth json cost := by
  obtain ⟨mark, more, hcharacters, -⟩ := hjson.exists_mark
  refine ⟨1, ?_, ?_⟩
  · rw [hcharacters, List.length_cons]
    omega
  · intro bound brackets rest last result hends hrest
    rw [skipUntilClosed]
    exact (hjson.reads_skipStart hends hscalar).bind hrest

/-- A value is passed over in fewer steps than twice the characters it is written as: one for each
scalar, two for a bracket, and one more for every entry. -/
theorem Textual.skips (hjson : Textual levels json) :
    ∃ cost, cost + 1 ≤ 2 * json.characters.length ∧ Skips depth json cost := by
  induction hjson with
  | null => exact (.null : Textual 1 .null).skips_scalar trivial
  | bool value => exact (.bool value : Textual 1 _).skips_scalar trivial
  | integer hlow hhigh => exact (.integer hlow hhigh : Textual 1 _).skips_scalar trivial
  | text value => exact (.text value : Textual 1 _).skips_scalar trivial
  | @list _ items hitems ih =>
    have henter : ∀ item ∈ items, ∀ tail, (enter .list).Reads depth (item.characters ++ tail)
        (item.characters ++ tail) (.ok ()) := fun _ _ _ ↦ reads_pure ()
    have hmark : ∀ item ∈ items, ∃ mark more, item.characters = mark :: more ∧
        mark ≠ Bracket.list.closing ∧ isSpace mark = false := by
      intro item hitem
      obtain ⟨mark, more, hcharacters, hmark⟩ := (hitems item hitem).exists_mark
      exact ⟨mark, more, hcharacters, hmark.ne_closing, hmark.isSpace_eq_false⟩
    obtain ⟨cost, hcost, hskips⟩ := skips_entries henter hmark ih false
    rw [Bool.not_false] at hcost hskips
    refine ⟨cost + 1, ?_, ?_⟩
    · rw [characters_list, List.length_cons, List.length_append, List.length_singleton]
      omega
    · intro bound brackets rest last result hends hrest
      rw [← Nat.add_assoc, skipUntilClosed, characters_list, List.cons_append, List.append_assoc]
      exact reads_skipStart_list.bind (hskips bound brackets rest last result hrest)
  | @object _ members hmembers hordered ih =>
    have henter : ∀ member ∈ members, ∀ tail, (enter .object).Reads depth
        (memberCharacters member ++ tail) (member.2.characters ++ tail) (.ok ()) :=
      fun member _ _ ↦ reads_skipName member
    have hmark : ∀ member ∈ members, ∃ mark more, memberCharacters member = mark :: more ∧
        mark ≠ Bracket.object.closing ∧ isSpace mark = false := by
      intro member _
      obtain ⟨more, hcharacters⟩ := exists_memberCharacters member
      exact ⟨'"', more, hcharacters, by decide, by decide⟩
    have hvalue : ∀ member ∈ members, ∃ cost, cost + 1 ≤ 2 * (memberCharacters member).length ∧
        Skips depth member.2 cost := by
      intro member hmember
      obtain ⟨cost, hcost, hskips⟩ := ih member hmember
      refine ⟨cost, ?_, hskips⟩
      rw [memberCharacters, List.length_append, List.length_cons]
      omega
    obtain ⟨cost, hcost, hskips⟩ := skips_entries henter hmark hvalue false
    rw [Bool.not_false] at hcost hskips
    refine ⟨cost + 1, ?_, ?_⟩
    · rw [characters_object, List.length_cons, List.length_append, List.length_singleton]
      omega
    · intro bound brackets rest last result hends hrest
      rw [← Nat.add_assoc, skipUntilClosed, characters_object, List.cons_append, List.append_assoc]
      exact reads_skipStart_object.bind (hskips bound brackets rest last result hrest)

/-- A value that nobody asked for is passed over, up to its end. -/
theorem Textual.reads_skipValue (hjson : Textual levels json) (hrest : Ends rest) :
    skipValue.Reads depth (json.characters ++ rest) rest (.ok ()) := by
  obtain ⟨cost, hcost, hskips⟩ := hjson.skips
  unfold skipValue
  refine reads_get fun position ↦ ?_
  dsimp only
  have henough : cost ≤ 2 * (json.characters ++ rest).length + 2 := by
    rw [List.length_append]
    omega
  obtain ⟨bound, hbound⟩ := Nat.exists_eq_add_of_le' henough
  rw [hbound]
  refine hskips bound [] rest rest (.ok ()) hrest ?_
  cases bound with
  | zero => exact reads_pure ()
  | succ bound => exact reads_pure ()

end BlogOperator.Json

import BlogOperator.Proofs.Scanning
import BlogOperator.Proofs.SecondCounts
import BlogOperator.Json.Printer

/-!
# Written words

A whole number of 64 bits and a text are read as what they were before they were written, and are
passed over where nobody asks for them (`Scan.reads_number`, `Scan.reads_text`,
`Scan.reads_skipNumber`, `Scan.reads_skipText`).

A number is read as far as its digits go, so that what comes behind it must not go on with it
(`Scan.Ends`). It fits into 64 bits, and so do its leading digits; none of them is left over. A text
is read one character after another. A character stands for itself or is escaped
(`Scan.Inked`), and either way the scan of the text takes it off the characters ahead and goes on
behind it; the closing quote is behind the last of them.
-/

set_option autoImplicit false

namespace BlogOperator.Json.Scan

open BlogOperator.Number BlogOperator.Text BlogOperator.Time

variable {levels : Nat} {rest : List Char}

/-! ### Numbers -/

/-- What is ahead does not go on with a number. -/
def Ends (text : List Char) : Prop :=
  ∀ character ∈ text.head?, character.isDigit = false ∧ character ≠ '.' ∧ character ≠ 'e' ∧
    character ≠ 'E'

theorem ends_nil : Ends [] := by
  rintro _ ⟨⟩

theorem accumulate_eq {limit value : Nat} {digits : List Char}
    (hfits : Nat.ofDigitChars 10 digits value < limit) :
    accumulate limit value digits = (Nat.ofDigitChars 10 digits value, []) := by
  induction digits generalizing value with
  | nil => rfl
  | cons digit more ih =>
    rw [Nat.ofDigitChars_cons, Nat.mul_comm] at hfits ⊢
    have hlonger : value * 10 + digitValue digit < limit :=
      Nat.lt_of_le_of_lt (le_ofDigitChars _ more) hfits
    rw [accumulate, if_pos hlonger]
    exact ih hfits

theorem isDigit_of_mem_toDigits {number : Nat} {digit : Char}
    (hdigit : digit ∈ Nat.toDigits 10 number) : digit.isDigit = true :=
  Nat.isDigit_of_mem_toDigits (by decide) (by decide) hdigit

/-- A written number begins with a digit. -/
theorem exists_digit (number : Nat) :
    ∃ first more, Nat.toDigits 10 number = first :: more ∧ first.isDigit = true := by
  have hne : Nat.toDigits 10 number ≠ [] := Nat.toDigits_ne_nil
  obtain ⟨first, more, hdigits⟩ := List.exists_cons_of_ne_nil hne
  exact ⟨first, more, hdigits, isDigit_of_mem_toDigits (hdigits ▸ List.mem_cons_self)⟩

/-- A number other than zero is written without a zero in front. -/
theorem exists_toDigits {number : Nat} (hnumber : number ≠ 0) :
    ∃ first more, Nat.toDigits 10 number = first :: more ∧ first ≠ '0' := by
  induction number using Nat.strongRecOn with
  | ind number ih =>
    by_cases hsmall : number < 10
    · have hdigit : ∀ digit < 10, digit ≠ 0 → Nat.digitChar digit ≠ '0' := by decide
      rw [Nat.toDigits_of_lt_base hsmall]
      exact ⟨_, [], rfl, hdigit number hsmall hnumber⟩
    · obtain ⟨first, more, hdigits, hfirst⟩ := ih (number / 10) (by omega) (by omega)
      rw [Nat.toDigits_of_base_le (by decide) (Nat.le_of_not_lt hsmall), hdigits]
      exact ⟨first, _, List.cons_append, hfirst⟩

/-- The digits ahead are those of the number, and no more. -/
theorem takeWhile_toDigits (number : Nat) (hrest : Ends rest) :
    (Nat.toDigits 10 number ++ rest).takeWhile Char.isDigit = Nat.toDigits 10 number ∧
    (Nat.toDigits 10 number ++ rest).dropWhile Char.isDigit = rest := by
  have hnone : rest.takeWhile Char.isDigit = [] ∧ rest.dropWhile Char.isDigit = rest := by
    cases rest with
    | nil => exact ⟨rfl, rfl⟩
    | cons character more => simp [(hrest character rfl).1]
  rw [List.takeWhile_append_of_pos fun _ ↦ isDigit_of_mem_toDigits,
    List.dropWhile_append_of_pos fun _ ↦ isDigit_of_mem_toDigits, hnone.1, hnone.2,
    List.append_nil]
  exact ⟨rfl, rfl⟩

theorem not_isDigit_of_ends (hrest : Ends rest) :
    ¬(rest.head?.map Char.isDigit).getD false = true := by
  cases rest with
  | nil => exact Bool.false_ne_true
  | cons character more => simpa using (hrest character rfl).1

/-- A number that is at its end is not continued by a point or a power. -/
theorem reads_atEnd {α : Type} {point power power' plain : Scan α} {result : Except Fault α}
    (hrest : Ends rest) (hplain : plain.Reads levels rest rest result) :
    (do match ← peek with
        | some '.' => point
        | some 'e' => power
        | some 'E' => power'
        | _ => plain).Reads levels rest rest result := by
  refine reads_peek.bind ?_
  split
  · rename_i hhead
    exact absurd rfl (hrest '.' hhead).2.1
  · rename_i hhead
    exact absurd rfl (hrest 'e' hhead).2.2.1
  · rename_i hhead
    exact absurd rfl (hrest 'E' hhead).2.2.2
  · exact hplain

/-- The digits of a number of 64 bits are read as the number. -/
theorem reads_unsigned {negative : Bool} {number : Nat} {result : Except Fault Json.Number}
    (hnumber : number < UInt64.size) (hrest : Ends rest)
    (hwhole : (whole negative number).Reads levels rest rest result) :
    (unsigned negative).Reads levels (Nat.toDigits 10 number ++ rest) rest result := by
  unfold unsigned
  by_cases hzero : number = 0
  · subst hzero
    change Reads _ levels ('0' :: rest) rest result
    refine reads_peek.bind ?_
    dsimp only [List.head?]
    rw [if_neg (by decide), if_pos rfl]
    refine (reads_advance_one '0').bind (reads_peek.bind ?_)
    rw [if_neg (not_isDigit_of_ends hrest)]
    exact reads_atEnd hrest hwhole
  · obtain ⟨first, more, hdigits, hfirst⟩ := exists_toDigits hzero
    have hdigit : first.isDigit = true := isDigit_of_mem_toDigits (hdigits ▸ List.mem_cons_self)
    have hhead : (Nat.toDigits 10 number ++ rest).head? = some first := by
      rw [hdigits]
      rfl
    obtain ⟨htake, hdrop⟩ := takeWhile_toDigits number hrest
    have hvalue : accumulate UInt64.size 0 (Nat.toDigits 10 number) = (number, []) := by
      rw [accumulate_eq, Nat.ofDigitChars_ten_toDigits]
      rwa [Nat.ofDigitChars_ten_toDigits]
    refine reads_peek.bind ?_
    rw [hhead]
    dsimp only
    rw [hdigit, if_neg (by decide), if_neg hfirst]
    refine reads_digits.bind ?_
    rw [htake, hdrop, hvalue]
    exact reads_atEnd hrest hwhole

theorem toList_ofNat (value : Nat) :
    (toString (Int.ofNat value)).toList = Nat.toDigits 10 value := by
  simp [toString, Int.repr, Nat.repr]

theorem toList_negSucc (value : Nat) :
    (toString (Int.negSucc value)).toList = '-' :: Nat.toDigits 10 (value + 1) := by
  simp [toString, Int.repr, Nat.repr, String.toList_append]

/-- Digits have no sign in front. -/
theorem head?_toDigits_ne (number : Nat) :
    (Nat.toDigits 10 number ++ rest).head? ≠ some '-' := by
  obtain ⟨first, more, hdigits, hfirst⟩ := exists_digit number
  rw [hdigits]
  rintro ⟨⟩
  exact absurd hfirst (by decide)

/-- A whole number of 64 bits is read as it was before it was written. -/
theorem reads_number {value : Int} (hlow : -9223372036854775808 ≤ value)
    (hhigh : value ≤ 18446744073709551615) (hrest : Ends rest) :
    number.Reads levels ((toString value).toList ++ rest) rest (.ok (.integer value)) := by
  unfold number
  cases value with
  | ofNat value =>
    have hfits : value < UInt64.size := by
      have hvalue := Int.ofNat_eq_natCast value
      change value < 18446744073709551616
      omega
    rw [toList_ofNat]
    refine reads_peek.bind ?_
    rw [if_neg (head?_toDigits_ne value)]
    exact reads_unsigned hfits hrest (reads_pure _)
  | negSucc value =>
    have hfits : value + 1 ≤ 9223372036854775808 := by omega
    rw [toList_negSucc]
    refine reads_peek.bind ?_
    dsimp only [List.cons_append, List.head?]
    rw [if_pos rfl]
    refine (reads_advance_one '-').bind (reads_unsigned ?_ hrest ?_)
    · change value + 1 < 18446744073709551616
      omega
    · unfold whole
      rw [if_neg (by decide), if_neg (by simp; omega)]
      exact reads_pure _

theorem reads_skipAfterDigits (hrest : Ends rest) :
    skipAfterDigits.Reads levels rest rest (.ok ()) := by
  have hpower : ¬(decide (rest.head? = some 'e') || decide (rest.head? = some 'E')) = true := by
    intro hhead
    rw [Bool.or_eq_true, decide_eq_true_iff, decide_eq_true_iff] at hhead
    rcases hhead with hhead | hhead
    · exact (hrest 'e' hhead).2.2.1 rfl
    · exact (hrest 'E' hhead).2.2.2 rfl
  unfold skipAfterDigits
  refine reads_peek.bind (reads_peek.bind ?_)
  rw [if_neg hpower]
  exact reads_pure ()

/-- The digits of a number are passed over, and what comes next is at their end. -/
theorem reads_skipDigits (number : Nat) (hrest : Ends rest) {next : Scan Unit}
    (hnext : next.Reads levels rest rest (.ok ())) :
    (do match ← peek with
        | some '0' =>
          advance 1
          if ((← peek).map Char.isDigit).getD false then malformedAhead .invalidNumber
        | _ => if (← digits).isEmpty then malformedAhead .invalidNumber
        next : Scan Unit).Reads levels (Nat.toDigits 10 number ++ rest) rest (.ok ()) := by
  dsimp only
  by_cases hzero : number = 0
  · subst hzero
    refine reads_peek.bind ?_
    change Reads _ levels ('0' :: rest) rest _
    refine (reads_advance_one '0').bind (reads_peek.bind ?_)
    rw [if_neg (not_isDigit_of_ends hrest)]
    exact hnext
  · obtain ⟨first, more, hdigits, hfirst⟩ := exists_toDigits hzero
    have hhead : (Nat.toDigits 10 number ++ rest).head? = some first := by
      rw [hdigits]
      rfl
    obtain ⟨htake, hdrop⟩ := takeWhile_toDigits number hrest
    refine reads_peek.bind ?_
    rw [hhead]
    split
    · rename_i hzero
      cases hzero
      exact absurd rfl hfirst
    · refine reads_digits.bind ?_
      rw [htake, hdrop, if_neg (by simp [hdigits])]
      exact hnext

/-- A whole number is passed over, however large it is. -/
theorem reads_skipNumber (value : Int) (hrest : Ends rest) :
    skipNumber.Reads levels ((toString value).toList ++ rest) rest (.ok ()) := by
  have hpoint : rest.head? ≠ some '.' := fun hhead ↦ (hrest '.' hhead).2.1 rfl
  have hafter : (do
      if (← peek) = some '.' then
        advance 1
        if (← digits).isEmpty then malformedAhead .invalidNumber
      skipAfterDigits : Scan Unit).Reads levels rest rest (.ok ()) := by
    refine reads_peek.bind ?_
    rw [if_neg hpoint]
    exact reads_skipAfterDigits hrest
  unfold skipNumber
  cases value with
  | ofNat value =>
    rw [toList_ofNat]
    refine reads_peek.bind ?_
    rw [if_neg (head?_toDigits_ne value)]
    exact reads_skipDigits value hrest hafter
  | negSucc value =>
    rw [toList_negSucc]
    refine reads_peek.bind ?_
    dsimp only [List.cons_append, List.head?]
    rw [if_pos rfl]
    exact (reads_advance_one '-').bind (reads_skipDigits (value + 1) hrest hafter)

/-! ### Escapes -/

/-- The four digits that stand for a control character. -/
structure Digits (character : Char) (digits : List Char) : Prop where
  byteLength_eq : byteLength digits = 4
  length_eq : digits.length = 4
  value_eq : (digits.mapM (digit? 16)).map (List.foldl (fun value digit ↦ value * 16 + digit) 0) =
    some character.toNat
  isControl : character < ' '

/-- How a character is written behind a backslash. -/
inductive Escape (character : Char) : List Char → Prop
  | letter {letter : Char} (hletter : simpleEscape? letter = some character) :
      Escape character [letter]
  | number {digits : List Char} (hdigits : Digits character digits) :
      Escape character ('u' :: digits)

/-- How a character is written inside a text. -/
inductive Inked (character : Char) : List Char → Prop
  | escaped {written : List Char} (hescape : Escape character written) :
      Inked character ('\\' :: written)
  | plain (hquote : character ≠ '"') (hbackslash : character ≠ '\\')
      (hcontrol : ¬character < ' ') : Inked character [character]

theorem toNat_lt_of_isControl {character : Char} (hcontrol : character < ' ') :
    character.toNat < 32 := by
  simpa [Char.lt_def, UInt32.lt_iff_toNat_lt] using hcontrol

/-- The hexadecimal digits of a small number are read as the number when zeros fill them up. -/
theorem padded_toDigits (number : Nat) (hnumber : number < 32) :
    let digits := List.replicate (4 - (Nat.toDigits 16 number).length) '0' ++
      Nat.toDigits 16 number
    byteLength digits = 4 ∧ digits.length = 4 ∧
      (digits.mapM (digit? 16)).map (List.foldl (fun value digit ↦ value * 16 + digit) 0) =
        some number := by
  revert number
  decide +kernel

theorem inked_escaped (character : Char) : Inked character (escaped character).toList := by
  unfold escaped
  split
  iterate 7 exact .escaped (.letter rfl)
  · rename_i hquote hbackslash _ _ _ _ _
    split
    · rename_i hcontrol
      obtain ⟨hbytes, hlength, hvalue⟩ :=
        padded_toDigits character.toNat (toNat_lt_of_isControl hcontrol)
      simp only [hexadecimal, String.toList_append, String.toList_ofList]
      exact .escaped (.number ⟨hbytes, hlength, hvalue, hcontrol⟩)
    · rename_i hcontrol
      rw [Char.toString_eq_singleton, String.toList_singleton]
      exact .plain hquote hbackslash hcontrol

theorem Inked.ne_nil {character : Char} {written : List Char} (hinked : Inked character written) :
    written ≠ [] := by
  cases hinked with
  | escaped _ => exact List.cons_ne_nil _ _
  | plain _ _ _ => exact List.cons_ne_nil _ _

theorem reads_fourDigits {character : Char} {digits : List Char}
    (hdigits : Digits character digits) :
    fourDigits.Reads levels (digits ++ rest) rest (.ok character.toNat) := by
  obtain ⟨values, hvalues, hvalue⟩ := Option.map_eq_some_iff.1 hdigits.value_eq
  have htake : (digits ++ rest).take 4 = digits := by rw [← hdigits.length_eq, List.take_left]
  have hdrop : (digits ++ rest).drop 4 = rest := by rw [← hdigits.length_eq, List.drop_left]
  have hadvance : (advance 4).Reads levels (digits ++ rest) ((digits ++ rest).drop 4) (.ok ()) :=
    reads_advance 4 _
  rw [hdrop] at hadvance
  unfold fourDigits
  refine reads_get fun position ↦ ?_
  dsimp only
  rw [htake, hdigits.byteLength_eq, if_neg (Nat.lt_irrefl 4), hvalues]
  refine hadvance.bind ?_
  rw [hvalue]
  exact reads_pure _

/-- A control character is no half of a pair. -/
theorem reads_numericEscape {character : Char} {digits : List Char}
    (hdigits : Digits character digits) :
    numericEscape.Reads levels (digits ++ rest) rest (.ok character) := by
  have hnumber := toNat_lt_of_isControl hdigits.isControl
  unfold numericEscape
  refine (reads_fourDigits hdigits).bind ?_
  rw [if_neg (by simp; omega), if_neg (by simp; omega), Char.ofNat_toNat]
  exact reads_pure character

/-- What follows a backslash is read by the letter, or by what reads the digits. -/
theorem Escape.reads_escape {α : Type} {character : Char} {written : List Char} {numeric : Scan α}
    {simple : Char → α} (hescape : Escape character written)
    (hnumeric : ∀ digits, Digits character digits →
      numeric.Reads levels (digits ++ rest) rest (.ok (simple character))) :
    (escape numeric simple).Reads levels (written ++ rest) rest (.ok (simple character)) := by
  refine reads_peek.bind ?_
  cases hescape with
  | @letter letter hletter =>
    dsimp only [List.cons_append, List.nil_append, List.head?]
    split
    · contradiction
    · rename_i hhead
      cases hhead
      cases hletter
    · rename_i hhead
      cases hhead
      rw [hletter]
      exact (reads_advance_one letter).bind (reads_pure _)
  | number hdigits => exact (reads_advance_one 'u').bind (hnumeric _ hdigits)

/-! ### Texts -/

section Characters

variable {character : Char} {written last : List Char} {bound : Nat}

/-- A text goes on behind a character that is written in it. -/
theorem Inked.reads_textBody (hinked : Inked character written) {read : List Char}
    {result : Except Fault (List Char)}
    (hnext : (textBody bound (character :: read)).Reads levels rest last result) :
    (textBody (bound + 1) read).Reads levels (written ++ rest) last result := by
  rw [textBody]
  refine reads_peek.bind ?_
  cases hinked with
  | escaped hescape =>
    have hread : (escape numericEscape id).Reads levels _ rest (.ok character) :=
      hescape.reads_escape fun digits hdigits ↦ reads_numericEscape hdigits
    exact (reads_advance_one '\\').bind (hread.bind hnext)
  | plain hquote hbackslash hcontrol =>
    dsimp only [List.cons_append, List.nil_append, List.head?]
    split
    · contradiction
    · rename_i hhead
      cases hhead
      exact absurd rfl hquote
    · rename_i hhead
      cases hhead
      exact absurd rfl hbackslash
    · rename_i hhead
      cases hhead
      rw [if_neg hcontrol]
      exact (reads_advance_one character).bind hnext

theorem Inked.reads_skipTextBody (hinked : Inked character written) {result : Except Fault Unit}
    (hnext : (skipTextBody bound).Reads levels rest last result) :
    (skipTextBody (bound + 1)).Reads levels (written ++ rest) last result := by
  rw [skipTextBody]
  refine reads_peek.bind ?_
  cases hinked with
  | escaped hescape =>
    have hread : (escape (fourDigits *> pure ()) fun _ ↦ ()).Reads levels _ rest (.ok ()) :=
      hescape.reads_escape fun digits hdigits ↦ (reads_fourDigits hdigits).seqRight (reads_pure ())
    exact (reads_advance_one '\\').bind (hread.bind hnext)
  | plain hquote hbackslash hcontrol =>
    dsimp only [List.cons_append, List.nil_append, List.head?]
    split
    · contradiction
    · rename_i hhead
      cases hhead
      exact absurd rfl hquote
    · rename_i hhead
      cases hhead
      exact absurd rfl hbackslash
    · rename_i hhead
      cases hhead
      rw [if_neg hcontrol]
      exact (reads_advance_one character).bind hnext

end Characters

/-- The characters of a text as they are written between its quotes. -/
def inked (characters : List Char) : List Char :=
  characters.flatMap fun character ↦ (escaped character).toList

theorem inked_cons (character : Char) (more : List Char) :
    inked (character :: more) = (escaped character).toList ++ inked more :=
  List.flatMap_cons

theorem toList_writtenText (text : String) :
    (writtenText text).toList = '"' :: inked text.toList ++ ['"'] := by
  simp [writtenText, inked, String.toList_append, String.toList_join, List.flatMap_map]

theorem length_le_inked (characters : List Char) :
    characters.length ≤ (inked characters).length := by
  induction characters with
  | nil => exact Nat.le_refl 0
  | cons character more ih =>
    have hone : 0 < (escaped character).toList.length :=
      List.length_pos_iff.2 (inked_escaped character).ne_nil
    rw [inked_cons, List.length_append, List.length_cons]
    omega

theorem reads_textBody {characters : List Char} {bound : Nat} (hbound : characters.length < bound)
    (read : List Char) :
    (textBody bound read).Reads levels (inked characters ++ '"' :: rest) rest
      (.ok (characters.reverse ++ read)) := by
  obtain ⟨bound, rfl⟩ := Nat.exists_eq_succ_of_ne_zero (Nat.ne_zero_of_lt hbound)
  induction characters generalizing bound read with
  | nil =>
    rw [textBody]
    exact reads_peek.bind ((reads_advance_one '"').bind (reads_pure read))
  | cons character more ih =>
    have hmore := Nat.lt_of_succ_lt_succ hbound
    obtain ⟨bound, rfl⟩ := Nat.exists_eq_succ_of_ne_zero (Nat.ne_zero_of_lt hmore)
    rw [inked_cons, List.append_assoc, List.reverse_cons, List.append_assoc]
    exact (inked_escaped character).reads_textBody (ih (character :: read) bound hmore)

theorem reads_skipTextBody {characters : List Char} {bound : Nat}
    (hbound : characters.length < bound) :
    (skipTextBody bound).Reads levels (inked characters ++ '"' :: rest) rest (.ok ()) := by
  obtain ⟨bound, rfl⟩ := Nat.exists_eq_succ_of_ne_zero (Nat.ne_zero_of_lt hbound)
  induction characters generalizing bound with
  | nil =>
    rw [skipTextBody]
    exact reads_peek.bind (reads_advance_one '"')
  | cons character more ih =>
    have hmore := Nat.lt_of_succ_lt_succ hbound
    obtain ⟨bound, rfl⟩ := Nat.exists_eq_succ_of_ne_zero (Nat.ne_zero_of_lt hmore)
    rw [inked_cons, List.append_assoc]
    exact (inked_escaped character).reads_skipTextBody (ih bound hmore)

theorem length_lt_of_inked (characters : List Char) :
    characters.length < (inked characters ++ '"' :: rest).length + 1 := by
  have hlength := length_le_inked characters
  rw [List.length_append]
  omega

/-- A text is read as it was before it was written. -/
theorem reads_text (text : String) :
    Scan.text.Reads levels ((writtenText text).toList ++ rest) rest (.ok text) := by
  rw [toList_writtenText, List.append_assoc]
  refine (reads_advance_one '"').bind (reads_get fun position ↦ ?_)
  refine (reads_textBody (length_lt_of_inked text.toList) []).bind ?_
  rw [List.append_nil, List.reverse_reverse, String.ofList_toList]
  exact reads_pure text

theorem reads_skipText (text : String) :
    skipText.Reads levels ((writtenText text).toList ++ rest) rest (.ok ()) := by
  rw [toList_writtenText, List.append_assoc]
  refine (reads_advance_one '"').bind (reads_get fun position ↦ ?_)
  exact reads_skipTextBody (length_lt_of_inked text.toList)

end BlogOperator.Json.Scan

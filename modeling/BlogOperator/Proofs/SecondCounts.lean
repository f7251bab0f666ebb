import BlogOperator.Config.Environment
import Mathlib.Data.List.TakeWhile

/-!
# Counts of seconds

Which texts are counts of seconds is said here by a grammar. A text is `Text.Trimmed` to what is
left when no blank is at either end any more, and that is what `Text.trim` leaves
(`Text.trimmed_iff`). What is left `Number.Spells` a number when it is a row of digits, at least one
of them, after an optional plus sign.

Digits are appended to a number one by one, and the limit is looked at after each of them. So what
comes of it depends on the leading digits alone, and on whether anything follows them
(`Number.appendDigits_eq`): the number is too large once the leading digits are, whatever follows.
From this come the grammar of what is read (`Number.readCount_eq_ok_iff`) and the causes of what is
not (`Number.readCount_eq_error_iff`, by `Number.Misspells`).

`seconds_read_exactly` states both of variables, and that a number of 64 bits written in decimal
digits is read as itself, with whatever blanks around it and zeros before it.
-/

set_option autoImplicit false

namespace BlogOperator

open BlogOperator.Number BlogOperator.Text BlogOperator.Time

/-! ### Blanks around a text -/

namespace Text

/-- What is left of a text when blanks have been taken off both ends until none is there. -/
structure Trimmed (characters rest : List Char) : Prop where
  around : ∃ before after, characters = before ++ rest ++ after ∧
    (∀ character ∈ before, isBlank character = true) ∧
    ∀ character ∈ after, isBlank character = true
  head : ∀ character, rest.head? = some character → isBlank character = false
  last : ∀ character, rest.getLast? = some character → isBlank character = false

/-- Dropping blanks stops at the first character that is none. -/
theorem dropWhile_isBlank_append {blanks rest : List Char}
    (hblanks : ∀ character ∈ blanks, isBlank character = true)
    (hrest : ∀ character, rest.head? = some character → isBlank character = false) :
    (blanks ++ rest).dropWhile isBlank = rest := by
  rw [List.dropWhile_append_of_pos hblanks]
  cases rest with
  | nil => rfl
  | cons first others => simp [hrest first rfl]

theorem isBlank_of_head?_dropWhile (characters : List Char) {character : Char}
    (hhead : (characters.dropWhile isBlank).head? = some character) :
    isBlank character = false := by
  have hnot := List.head?_dropWhile_not isBlank characters
  rw [hhead] at hnot
  simpa using hnot

/-- The end of a text is made up of the blanks that are taken off it. -/
theorem exists_trimEnd (characters : List Char) :
    ∃ after, characters = trimEnd characters ++ after ∧
      ∀ character ∈ after, isBlank character = true := by
  refine ⟨(characters.reverse.takeWhile isBlank).reverse, ?_, fun character hmem ↦ ?_⟩
  · rw [trimEnd, ← List.reverse_append, List.takeWhile_append_dropWhile, List.reverse_reverse]
  · exact List.mem_takeWhile_imp (List.mem_reverse.1 hmem)

theorem trimmed_trim (characters : List Char) : Trimmed characters (trim characters) := by
  obtain ⟨after, hbegun, hafter⟩ := exists_trimEnd (characters.dropWhile isBlank)
  refine ⟨⟨characters.takeWhile isBlank, after, ?_, fun _ ↦ List.mem_takeWhile_imp, hafter⟩,
    fun character hhead ↦ ?_, fun character hlast ↦ ?_⟩
  · calc characters
        = characters.takeWhile isBlank ++ characters.dropWhile isBlank :=
          List.takeWhile_append_dropWhile.symm
      _ = characters.takeWhile isBlank ++ (trim characters ++ after) := congrArg _ hbegun
      _ = characters.takeWhile isBlank ++ trim characters ++ after :=
          (List.append_assoc ..).symm
  · -- The text is not shortened at its beginning any more once blanks are dropped there.
    refine isBlank_of_head?_dropWhile characters ?_
    rw [hbegun, List.head?_append]
    change (trim characters).head?.or _ = _
    rw [hhead, Option.some_or]
  · refine isBlank_of_head?_dropWhile (characters.dropWhile isBlank).reverse ?_
    rwa [trim, trimEnd, List.getLast?_reverse] at hlast

/-- What a text is trimmed to is determined by the text. -/
theorem Trimmed.eq_trim {characters rest : List Char} (htrimmed : Trimmed characters rest) :
    rest = trim characters := by
  obtain ⟨before, after, rfl, hbefore, hafter⟩ := htrimmed.around
  have hend : trimEnd (rest ++ after) = rest := by
    rw [trimEnd, List.reverse_append, dropWhile_isBlank_append, List.reverse_reverse]
    · simpa using hafter
    · simpa using htrimmed.last
  rw [trim, List.append_assoc]
  cases rest with
  | nil =>
    have hall : ∀ character ∈ before ++ after, isBlank character = true := by
      simpa [or_imp, forall_and] using ⟨hbefore, hafter⟩
    rw [List.nil_append, List.dropWhile_eq_nil_iff.2 hall]
    rfl
  | cons first others =>
    have hbegin : (before ++ (first :: others ++ after)).dropWhile isBlank =
        first :: others ++ after := dropWhile_isBlank_append hbefore htrimmed.head
    rw [hbegin, hend]

theorem trimmed_iff {characters rest : List Char} :
    Trimmed characters rest ↔ rest = trim characters :=
  ⟨Trimmed.eq_trim, fun hrest ↦ hrest ▸ trimmed_trim characters⟩

end Text

/-! ### Numbers in decimal digits -/

namespace Number

/-- Characters without a plus sign that they begin with. -/
def withoutPlus : List Char → List Char
  | '+' :: rest => rest
  | characters => characters

/-- The number that characters begin with: the value of the digits, after a plus sign if there is
one, up to the first character that is no digit. -/
def leadingNumber (characters : List Char) : Nat :=
  Nat.ofDigitChars 10 ((withoutPlus characters).takeWhile Char.isDigit) 0

/-- Characters spell a number: digits with that value, at least one of them, after an optional plus
sign. -/
def Spells (characters : List Char) (value : Nat) : Prop :=
  ∃ sign digits, characters = sign ++ digits ∧ (sign = [] ∨ sign = ['+']) ∧ digits ≠ [] ∧
    (∀ digit ∈ digits, digit.isDigit = true) ∧ value = Nat.ofDigitChars 10 digits 0

/-- What is wrong with characters that spell no number below a limit. -/
inductive Misspells (limit : Nat) : List Char → CountFault → Prop
  | empty : Misspells limit [] .empty
  /-- The leading number has outgrown the limit, and nothing else is looked at. -/
  | tooLarge {characters : List Char} (hlarge : limit ≤ leadingNumber characters) :
      Misspells limit characters .tooLarge
  | invalidDigit {characters : List Char} (hsome : characters ≠ [])
      (hsmall : leadingNumber characters < limit) (hnone : ∀ value, ¬Spells characters value) :
      Misspells limit characters .invalidDigit

section Misspells

variable {limit : Nat} {characters : List Char}

theorem misspells_empty_iff : Misspells limit characters .empty ↔ characters = [] := by
  constructor
  · rintro ⟨⟩
    rfl
  · rintro rfl
    exact .empty

theorem misspells_tooLarge_iff :
    Misspells limit characters .tooLarge ↔ limit ≤ leadingNumber characters := by
  constructor
  · rintro (_ | hlarge)
    exact hlarge
  · exact .tooLarge

theorem misspells_invalidDigit_iff :
    Misspells limit characters .invalidDigit ↔ characters ≠ [] ∧
      leadingNumber characters < limit ∧ ∀ value, ¬Spells characters value := by
  constructor
  · rintro (_ | _ | ⟨hsome, hsmall, hnone⟩)
    exact ⟨hsome, hsmall, hnone⟩
  · rintro ⟨hsome, hsmall, hnone⟩
    exact .invalidDigit hsome hsmall hnone

end Misspells

theorem withoutPlus_of_isDigit {digits : List Char}
    (hdigits : ∀ digit ∈ digits, digit.isDigit = true) : withoutPlus digits = digits := by
  unfold withoutPlus
  split
  · rename_i rest
    have hplus : '+'.isDigit = true := hdigits '+' List.mem_cons_self
    cases hplus
  · rfl

theorem spells_iff {characters : List Char} {value : Nat} :
    Spells characters value ↔ withoutPlus characters ≠ [] ∧
      (withoutPlus characters).all Char.isDigit = true ∧ value = leadingNumber characters := by
  have htake {digits : List Char} (hdigits : ∀ digit ∈ digits, digit.isDigit = true) :
      digits.takeWhile Char.isDigit = digits := List.takeWhile_eq_self_iff.2 hdigits
  constructor
  · rintro ⟨sign, digits, rfl, hsign, hne, hdigits, rfl⟩
    have hwithout : withoutPlus (sign ++ digits) = digits := by
      rcases hsign with rfl | rfl
      · exact withoutPlus_of_isDigit hdigits
      · rfl
    rw [leadingNumber, hwithout, htake hdigits]
    exact ⟨hne, List.all_eq_true.2 hdigits, rfl⟩
  · rintro ⟨hne, hall, rfl⟩
    have hdigits := List.all_eq_true.1 hall
    obtain ⟨sign, hsign, hcharacters⟩ : ∃ sign : List Char, (sign = [] ∨ sign = ['+']) ∧
        characters = sign ++ withoutPlus characters := by
      unfold withoutPlus
      split
      · exact ⟨['+'], .inr rfl, rfl⟩
      · exact ⟨[], .inl rfl, rfl⟩
    refine ⟨sign, _, hcharacters, hsign, hne, hdigits, ?_⟩
    rw [leadingNumber, htake hdigits]

theorem Spells.unique {characters : List Char} {value other : Nat}
    (hvalue : Spells characters value) (hother : Spells characters other) : value = other :=
  (spells_iff.1 hvalue).2.2.trans (spells_iff.1 hother).2.2.symm

/-! ### Counts below a limit -/

/-- Digits make a number no smaller. -/
theorem le_ofDigitChars (value : Nat) (digits : List Char) :
    value ≤ Nat.ofDigitChars 10 digits value := by
  rw [Nat.ofDigitChars_eq_ofDigitChars_zero]
  exact Nat.le_add_right_of_le (Nat.le_mul_of_pos_left _ (Nat.pow_pos (by decide)))

/-- What comes of appending characters to a number depends on the digits that lead them, and on
whether they are digits all through. -/
theorem appendDigits_eq {limit : Nat} (value : Count limit) (characters : List Char) :
    appendDigits value characters =
      if fits : Nat.ofDigitChars 10 (characters.takeWhile Char.isDigit) value.val < limit then
        if characters.all Char.isDigit then .ok ⟨_, fits⟩ else .error .invalidDigit
      else .error .tooLarge := by
  induction characters generalizing value with
  | nil => simp [appendDigits, value.property]
  | cons digit rest ih =>
    by_cases hdigit : digit.isDigit = true
    · have hlonger : 10 * value.val + (digit.toNat - '0'.toNat) =
          value.val * 10 + (digit.toNat - '0'.toNat) := by rw [Nat.mul_comm]
      simp only [appendDigits, hdigit, if_true, List.takeWhile_cons_of_pos, List.all_cons,
        Bool.true_and, Nat.ofDigitChars_cons, hlonger]
      by_cases hfits : value.val * 10 + (digit.toNat - '0'.toNat) < limit
      · rw [dif_pos hfits, ih]
      · have hlarge := le_ofDigitChars (value.val * 10 + (digit.toNat - '0'.toNat))
          (rest.takeWhile Char.isDigit)
        rw [dif_neg hfits, dif_neg (by omega)]
    · simp [appendDigits, hdigit, value.property]

theorem leadingNumber_of_nil {characters : List Char} (hnil : withoutPlus characters = []) :
    leadingNumber characters = 0 := by
  rw [leadingNumber, hnil]
  rfl

/-- A plus sign is passed over, unless it stands alone. -/
theorem readCount_eq_appendDigits {limit : Nat} {characters : List Char} (positive : 0 < limit)
    (hdigits : withoutPlus characters ≠ []) :
    readCount limit characters positive = appendDigits ⟨0, positive⟩ (withoutPlus characters) := by
  unfold readCount
  split
  · exact absurd rfl hdigits
  · exact absurd rfl hdigits
  · rfl
  · rename_i hsome hlone hplus
    have hwithout : withoutPlus characters = characters := by
      unfold withoutPlus
      split
      · exact absurd rfl (hplus _)
      · rfl
    rw [hwithout]

/-- What comes of reading a count depends on the leading number, and on whether the characters are
digits all through. -/
theorem readCount_eq (limit : Nat) (characters : List Char) (positive : 0 < limit) :
    readCount limit characters positive =
      if characters = [] then .error .empty
      else if fits : leadingNumber characters < limit then
        if withoutPlus characters ≠ [] ∧ (withoutPlus characters).all Char.isDigit = true then
          .ok ⟨leadingNumber characters, fits⟩
        else .error .invalidDigit
      else .error .tooLarge := by
  by_cases hdigits : withoutPlus characters = []
  · have hfits : leadingNumber characters < limit := by
      rwa [leadingNumber_of_nil hdigits]
    unfold withoutPlus at hdigits
    split at hdigits
    · subst hdigits
      rw [if_neg (List.cons_ne_nil _ _), dif_pos hfits]
      rfl
    · subst hdigits
      rfl
  · have hsome : characters ≠ [] := by
      rintro rfl
      exact hdigits rfl
    rw [if_neg hsome, readCount_eq_appendDigits positive hdigits, appendDigits_eq]
    change (if fits : leadingNumber characters < limit then _ else _) = _
    simp only [ne_eq, hdigits, not_false_eq_true, true_and]
    rfl

/-- A count is read exactly from what spells it. -/
theorem readCount_eq_ok_iff {limit : Nat} {characters : List Char} {positive : 0 < limit}
    {count : Count limit} :
    readCount limit characters positive = .ok count ↔ Spells characters count.val := by
  rw [readCount_eq, spells_iff]
  by_cases hsome : characters = []
  · subst hsome
    simp [withoutPlus]
  rw [if_neg hsome]
  by_cases hfits : leadingNumber characters < limit
  · rw [dif_pos hfits, ← and_assoc]
    by_cases hdigits : withoutPlus characters ≠ [] ∧
        (withoutPlus characters).all Char.isDigit = true
    · rw [if_pos hdigits, Except.ok.injEq, ← Subtype.val_inj, eq_comm]
      exact (and_iff_right hdigits).symm
    · rw [if_neg hdigits]
      constructor
      · rintro ⟨⟩
      · rintro ⟨hdigits', -⟩
        exact absurd hdigits' hdigits
  · rw [dif_neg hfits]
    constructor
    · rintro ⟨⟩
    · rintro ⟨-, -, hvalue⟩
      exact absurd (hvalue ▸ count.property) hfits

/-- A text that is no count is reported for what is wrong with it. -/
theorem readCount_eq_error_iff {limit : Nat} {characters : List Char} {positive : 0 < limit}
    {fault : CountFault} :
    readCount limit characters positive = .error fault ↔ Misspells limit characters fault := by
  rw [readCount_eq]
  constructor
  · intro hread
    by_cases hsome : characters = []
    · rw [if_pos hsome] at hread
      cases hread
      exact hsome ▸ .empty
    rw [if_neg hsome] at hread
    by_cases hfits : leadingNumber characters < limit
    · rw [dif_pos hfits] at hread
      split at hread
      · cases hread
      · rename_i hdigits
        cases hread
        refine .invalidDigit hsome hfits fun value hspells ↦ hdigits ?_
        obtain ⟨hne, hall, -⟩ := spells_iff.1 hspells
        exact ⟨hne, hall⟩
    · rw [dif_neg hfits] at hread
      cases hread
      exact .tooLarge (Nat.le_of_not_lt hfits)
  · intro hmisspells
    cases hmisspells with
    | empty => rfl
    | tooLarge hlarge =>
      have hsome : characters ≠ [] := by
        rintro rfl
        exact absurd hlarge (Nat.not_le_of_lt positive)
      rw [if_neg hsome, dif_neg (Nat.not_lt_of_le hlarge)]
    | invalidDigit hsome hsmall hnone =>
      have hdigits : ¬(withoutPlus characters ≠ [] ∧
          (withoutPlus characters).all Char.isDigit = true) := by
        rintro ⟨hne, hall⟩
        exact hnone _ (spells_iff.2 ⟨hne, hall, rfl⟩)
      rw [if_neg hsome, dif_pos hsmall, if_neg hdigits]

/-- Zeros before the digits of a number, and a plus sign before them, spell the same number. -/
theorem spells_padded {sign : List Char} (hsign : sign = [] ∨ sign = ['+']) (zeros value : Nat) :
    Spells (sign ++ (List.replicate zeros '0' ++ Nat.toDigits 10 value)) value := by
  refine ⟨sign, _, rfl, hsign, ?_, fun digit hmem ↦ ?_, ?_⟩
  · exact List.append_ne_nil_of_right_ne_nil _ Nat.toDigits_ne_nil
  · rcases List.mem_append.1 hmem with hzero | hdigit
    · rw [List.eq_of_mem_replicate hzero]
      rfl
    · exact Nat.isDigit_of_mem_toDigits (by decide) (by decide) hdigit
  · rw [Nat.ofDigitChars_append, Nat.ofDigitChars_replicate_zero, Nat.mul_zero,
      Nat.ofDigitChars_ten_toDigits]

theorem isBlank_of_isDigit {character : Char} (hdigit : character.isDigit = true) :
    isBlank character = false := by
  obtain ⟨hlow, hhigh⟩ : '0'.toNat ≤ character.toNat ∧ character.toNat ≤ '9'.toNat := by
    simpa [Char.isDigit, UInt32.le_iff_toNat_le] using hdigit
  change 48 ≤ character.toNat at hlow
  change character.toNat ≤ 57 at hhigh
  have htable : ∀ value : Fin 10, isBlank (Char.ofNat (48 + value.val)) = false := by decide
  have hentry := htable ⟨character.toNat - 48, by omega⟩
  rwa [Nat.add_sub_cancel' hlow, Char.ofNat_toNat] at hentry

/-- No part of what spells a number is blank. -/
theorem Spells.isBlank_of_mem {characters : List Char} {value : Nat}
    (hspells : Spells characters value) {character : Char} (hmem : character ∈ characters) :
    isBlank character = false := by
  obtain ⟨sign, digits, rfl, hsign, -, hdigits, -⟩ := hspells
  rcases List.mem_append.1 hmem with hplus | hdigit
  · rcases hsign with rfl | rfl
    · cases hplus
    · rw [List.mem_singleton.1 hplus]
      rfl
  · exact isBlank_of_isDigit (hdigits character hdigit)

/-- Blanks around what spells a number are trimmed, and nothing else. -/
theorem Spells.trim_eq {characters before after : List Char} {value : Nat}
    (hspells : Spells characters value)
    (hbefore : ∀ character ∈ before, isBlank character = true)
    (hafter : ∀ character ∈ after, isBlank character = true) :
    trim (before ++ characters ++ after) = characters := by
  refine (Trimmed.eq_trim ⟨⟨before, after, rfl, hbefore, hafter⟩, ?_, ?_⟩).symm
  · intro character hhead
    exact hspells.isBlank_of_mem (List.mem_of_mem_head? hhead)
  · intro character hlast
    exact hspells.isBlank_of_mem (List.mem_of_getLast? hlast)

end Number

/-! ### Counts of seconds -/

namespace Time.Duration

theorem seconds_ofSeconds (count : UInt64) : (ofSeconds count).seconds = count.toNat :=
  Nat.mul_div_cancel _ (by decide)

theorem nanos_ofSeconds (count : UInt64) : (ofSeconds count).nanos = 0 :=
  Nat.mul_mod_left _ _

end Time.Duration

namespace Config

variable {text : String}

theorem readSeconds_eq (text : String) :
    readSeconds text = (readCount UInt64.size (trim text.toList)).map fun count ↦
      .ofSeconds (UInt64.ofNatLT count.val count.property) := by
  unfold readSeconds
  cases readCount UInt64.size (trim text.toList) with
  | error fault => rfl
  | ok count => rfl

/-- A duration is read exactly from a count of 64 bits, and is that many whole seconds. -/
theorem readSeconds_eq_ok_iff {duration : Duration} :
    readSeconds text = .ok duration ↔
      ∃ count : UInt64, Spells (trim text.toList) count.toNat ∧ duration = .ofSeconds count := by
  rw [readSeconds_eq]
  constructor
  · intro hread
    cases hcount : readCount UInt64.size (trim text.toList) with
    | error fault =>
      rw [hcount] at hread
      cases hread
    | ok count =>
      rw [hcount] at hread
      cases hread
      refine ⟨UInt64.ofNatLT count.val count.property, ?_, rfl⟩
      rw [UInt64.toNat_ofNatLT]
      exact readCount_eq_ok_iff.1 hcount
  · rintro ⟨count, hspells, rfl⟩
    have hcount : readCount UInt64.size (trim text.toList) = .ok ⟨count.toNat, count.toNat_lt⟩ :=
      readCount_eq_ok_iff.2 hspells
    rw [hcount]
    rfl

/-- A text that is no count of 64 bits is reported for what is wrong with it once it is trimmed. -/
theorem readSeconds_eq_error_iff {fault : CountFault} :
    readSeconds text = .error fault ↔ Misspells UInt64.size (trim text.toList) fault := by
  have hcount : readCount UInt64.size (trim text.toList) = .error fault ↔
      Misspells UInt64.size (trim text.toList) fault := readCount_eq_error_iff
  rw [readSeconds_eq, ← hcount]
  cases readCount UInt64.size (trim text.toList) with
  | error other => simp [Except.map]
  | ok count => simp [Except.map]

section Variables

variable {lookup : String → Option String} {name : String} {standard : Duration}

theorem secondsFrom_of_some (hset : lookup name = some text) :
    secondsFrom lookup name standard = (readSeconds text).mapError (.number name text) := by
  simp only [secondsFrom, hset]

theorem secondsFrom_of_none (hunset : lookup name = none) :
    secondsFrom lookup name standard = .ok standard := by
  simp only [secondsFrom, hunset]

/-- A variable that is set is read when its text is. -/
theorem secondsFrom_eq_ok_iff (hset : lookup name = some text) {duration : Duration} :
    secondsFrom lookup name standard = .ok duration ↔
      ∃ count : UInt64, Spells (trim text.toList) count.toNat ∧ duration = .ofSeconds count := by
  rw [secondsFrom_of_some hset, ← readSeconds_eq_ok_iff]
  cases readSeconds text with
  | error cause => simp [Except.mapError]
  | ok other => simp [Except.mapError]

/-- A variable that is misread is set, and its whole text is reported with its name. -/
theorem secondsFrom_eq_error_iff {fault : ConfigFault} :
    secondsFrom lookup name standard = .error fault ↔
      ∃ text cause, lookup name = some text ∧ fault = .number name text cause ∧
        Misspells UInt64.size (trim text.toList) cause := by
  cases hset : lookup name with
  | none => simp [secondsFrom_of_none hset]
  | some text =>
    rw [secondsFrom_of_some hset]
    simp only [Option.some.injEq, exists_and_left, exists_eq_left', ← readSeconds_eq_error_iff]
    cases readSeconds text with
    | error cause => simp [Except.mapError, eq_comm]
    | ok duration => simp [Except.mapError]

end Variables

end Config

open Config

/-- Assumes: a variable that is set. Its text is read as a duration exactly if what is left of it
when it is trimmed spells a number of 64 bits, and the duration is that many seconds and no
nanoseconds. A number of 64 bits written in decimal digits is read as itself, with blanks around it,
a plus sign, and zeros before its digits. Otherwise the name and the whole text are reported with
the cause: nothing is left when the text is trimmed, or the digits that what is left begins with
are too large a number already, or else something there is no digit. -/
theorem seconds_read_exactly {lookup : String → Option String} {name text : String}
    (hset : lookup name = some text) (standard : Duration) :
    let read := secondsFrom lookup name standard
    let rest := trim text.toList
    Trimmed text.toList rest ∧
      ((∃ duration, read = .ok duration) ↔
        ∃ count ≤ 18446744073709551615, Spells rest count) ∧
      (∀ duration count, read = .ok duration → Spells rest count →
        duration.seconds = count ∧ duration.nanos = 0) ∧
      (∀ (count : UInt64) (before sign after : List Char) (zeros : Nat),
        (∀ character ∈ before, isBlank character = true) → (sign = [] ∨ sign = ['+']) →
        (∀ character ∈ after, isBlank character = true) →
        text.toList = before ++ (sign ++ (List.replicate zeros '0' ++ (toString count).toList)) ++
          after → read = .ok (.ofSeconds count)) ∧
      (∀ fault, read = .error fault → ∃ cause, fault = .number name text cause ∧
        fault.message = name ++ "=" ++ quoted text ++ ": " ++ cause.message) ∧
      (read = .error (.number name text .empty) ↔ rest = []) ∧
      (read = .error (.number name text .tooLarge) ↔
        18446744073709551615 < leadingNumber rest) ∧
      (read = .error (.number name text .invalidDigit) ↔
        rest ≠ [] ∧ leadingNumber rest ≤ 18446744073709551615 ∧ ∀ count, ¬Spells rest count) := by
  intro read rest
  have hread {duration : Duration} :
      read = .ok duration ↔
        ∃ count : UInt64, Spells rest count.toNat ∧ duration = .ofSeconds count :=
    secondsFrom_eq_ok_iff hset
  have hfault {cause : CountFault} :
      read = .error (.number name text cause) ↔ Misspells UInt64.size rest cause := by
    rw [secondsFrom_eq_error_iff]
    simp [hset, rest]
  refine ⟨trimmed_trim _, ⟨?_, ?_⟩, ?_, ?_, ?_, ?_, ?_, ?_⟩
  · rintro ⟨duration, hok⟩
    obtain ⟨count, hspells, -⟩ := hread.1 hok
    exact ⟨count.toNat, Nat.le_of_lt_succ count.toNat_lt, hspells⟩
  · rintro ⟨count, hcount, hspells⟩
    refine ⟨.ofSeconds (UInt64.ofNat count), hread.2 ⟨_, ?_, rfl⟩⟩
    rwa [UInt64.toNat_ofNat_of_lt' (Nat.lt_succ_of_le hcount)]
  · intro duration count hok hspells
    obtain ⟨number, hnumber, rfl⟩ := hread.1 hok
    rw [hspells.unique hnumber]
    exact ⟨Duration.seconds_ofSeconds number, Duration.nanos_ofSeconds number⟩
  · intro count before sign after zeros hbefore hsign hafter htext
    have hspells := spells_padded hsign zeros count.toNat
    have hdigits : (toString count).toList = Nat.toDigits 10 count.toNat := Nat.toList_repr
    rw [hdigits] at htext
    have hrest : rest = sign ++ (List.replicate zeros '0' ++ Nat.toDigits 10 count.toNat) := by
      rw [← hspells.trim_eq hbefore hafter]
      exact congrArg trim htext
    exact hread.2 ⟨count, hrest ▸ hspells, rfl⟩
  · intro fault herror
    obtain ⟨other, cause, hother, rfl, -⟩ := secondsFrom_eq_error_iff.1 herror
    obtain rfl : text = other := Option.some.inj (hset.symm.trans hother)
    exact ⟨cause, rfl, rfl⟩
  · rw [hfault, misspells_empty_iff]
  · rw [hfault, misspells_tooLarge_iff]
    exact Nat.lt_iff_add_one_le.symm
  · rw [hfault, misspells_invalidDigit_iff]
    exact and_congr_right fun _ ↦ and_congr_left fun _ ↦ Nat.lt_succ_iff

/-- One variable has an em space and a plus sign before its digits, a zero too many among them and a
line feed after them. Another one has twenty digits and then a letter: it is too large. -/
theorem seconds_read_exactly_resync :
    let lookup (name : String) : Option String :=
      if name = resyncVariable then some "\u2003+060\n"
      else if name = backoffMaxVariable then some "99999999999999999999s" else none
    lookup resyncVariable = some "\u2003+060\n" ∧
      lookup backoffMaxVariable = some "99999999999999999999s" ∧
      secondsFrom lookup resyncVariable (.ofSeconds 300) = .ok (.ofSeconds 60) ∧
      secondsFrom lookup backoffMaxVariable (.ofSeconds 300) =
        .error (.number backoffMaxVariable "99999999999999999999s" .tooLarge) := by
  intro lookup
  have hresync : lookup resyncVariable = some "\u2003+060\n" := by decide
  have hmax : lookup backoffMaxVariable = some "99999999999999999999s" := by decide
  obtain ⟨-, -, -, hpadded, -⟩ := seconds_read_exactly hresync (.ofSeconds 300)
  obtain ⟨-, -, -, -, -, -, htooLarge, -⟩ := seconds_read_exactly hmax (.ofSeconds 300)
  refine ⟨hresync, hmax, ?_, htooLarge.2 (by decide)⟩
  exact hpadded 60 ['\u2003'] ['+'] ['\n'] 1 (List.forall_mem_singleton.2 rfl) (.inr rfl)
    (List.forall_mem_singleton.2 rfl) rfl

end BlogOperator

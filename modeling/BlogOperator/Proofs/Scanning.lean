import BlogOperator.Json.Lexeme

/-!
# What scans come to

A scan moves through a text, and where it stands is of no account to what it finds: only the places
of its faults depend on it. So what a scan comes to is said of the characters ahead alone. Either it
gives a value and stops before a certain rest of them, with as many levels left as before, or it
refuses (`Scan.Reads`). The fault of a refusal is not said, because a fault in a value and one in a
text need not be the same.

What several scans come to one after another follows from what each of them does
(`Scan.Reads.then`), and so does what a scan comes to inside brackets (`Scan.Reads.enclosed`) and
what a row of entries does, with commas between them (`Scan.reads_repeated`): the entries are folded
into a value one by one, and the first that is refused has all of them refused.
-/

set_option autoImplicit false

namespace BlogOperator.Json.Scan

variable {α β : Type} {levels : Nat} {text middle rest : List Char}

/-- What a scan comes to on a text, wherever the text stands: it gives a value and stops before the
rest of the text, with as many levels left as before, or it refuses. -/
def Reads (scan : Scan α) (levels : Nat) (text rest : List Char) : Except Fault α → Prop
  | .ok value => ∀ position, ∃ later,
      scan.run ⟨text, position, levels⟩ = (.ok value, ⟨rest, later, levels⟩)
  | .error _ => ∀ position, ∃ misreading later,
      scan.run ⟨text, position, levels⟩ = (.error misreading, later)

/-- A scan that refuses every text. -/
def Refuses (scan : Scan α) : Prop :=
  ∀ cursor, ∃ misreading later, scan.run cursor = (.error misreading, later)

/-! ### One scan after another -/

theorem run_bind (scan : Scan α) (next : α → Scan β) (cursor : Cursor) :
    (scan >>= next).run cursor =
      match scan.run cursor with
      | (.ok value, later) => (next value).run later
      | (.error misreading, later) => (.error misreading, later) := by
  simp only [bind, ExceptT.bind, ExceptT.run, ExceptT.mk, StateT.bind, ExceptT.bindCont]
  rcases scan cursor with ⟨misreading | value, later⟩
  · rfl
  · rfl

section Sequence

variable {scan : Scan α} {next : α → Scan β} {value : α} {fault : Fault} {result : Except Fault α}

theorem reads_pure (value : α) : (pure value : Scan α).Reads levels text text (.ok value) :=
  fun position ↦ ⟨position, rfl⟩

theorem Reads.bind {last : Except Fault β} (hscan : scan.Reads levels text middle (.ok value))
    (hnext : (next value).Reads levels middle rest last) :
    (scan >>= next).Reads levels text rest last := by
  cases last with
  | ok _ =>
    intro position
    obtain ⟨later, hrun⟩ := hscan position
    obtain ⟨last, hlast⟩ := hnext later
    exact ⟨last, by rw [run_bind, hrun]; exact hlast⟩
  | error _ =>
    intro position
    obtain ⟨later, hrun⟩ := hscan position
    obtain ⟨misreading, last, hlast⟩ := hnext later
    exact ⟨misreading, last, by rw [run_bind, hrun]; exact hlast⟩

theorem Reads.bind_error (hscan : scan.Reads levels text middle (.error fault)) (other : Fault) :
    (scan >>= next).Reads levels text rest (.error other) := by
  intro position
  obtain ⟨misreading, later, hrun⟩ := hscan position
  exact ⟨misreading, later, by rw [run_bind, hrun]⟩

/-- What two scans come to is what their results come to. -/
theorem Reads.then {follow : α → Except Fault β} (hscan : scan.Reads levels text middle result)
    (hnext : ∀ value, result = .ok value → (next value).Reads levels middle rest (follow value)) :
    (scan >>= next).Reads levels text rest (result >>= follow) := by
  cases result with
  | ok value => exact hscan.bind (hnext value rfl)
  | error fault => exact hscan.bind_error fault

/-- A scan that goes on and keeps its value. -/
theorem Reads.keep {next : α → Scan α} (hscan : scan.Reads levels text middle result)
    (hnext : ∀ value, (next value).Reads levels middle rest (.ok value)) :
    (scan >>= next).Reads levels text rest result := by
  cases result with
  | ok value => exact hscan.bind (hnext value)
  | error fault => exact hscan.bind_error fault

/-- A scan that goes on to what is refused. -/
theorem Reads.reject (hscan : scan.Reads levels text middle result)
    (hnext : ∀ value, (next value).Reads levels middle rest (.error fault)) :
    (scan >>= next).Reads levels text rest (.error fault) := by
  cases result with
  | ok value => exact hscan.bind (hnext value)
  | error other => exact hscan.bind_error fault

/-- A scan that goes on to change its value. -/
theorem Reads.return (hscan : scan.Reads levels text rest result) (change : α → β) :
    (do return change (← scan) : Scan β).Reads levels text rest (result.map change) := by
  cases result with
  | ok value => exact hscan.bind (reads_pure _)
  | error fault => exact hscan.bind_error fault

theorem Reads.map (hscan : scan.Reads levels text rest result) (change : α → β) :
    (change <$> scan).Reads levels text rest (result.map change) := by
  rw [map_eq_pure_bind]
  exact hscan.return change

theorem Reads.seqRight {next : Scan β} {last : Except Fault β}
    (hscan : scan.Reads levels text middle (.ok value))
    (hnext : next.Reads levels middle rest last) :
    (scan *> next).Reads levels text rest last :=
  hscan.bind hnext

/-- A scan that is run from the front of a text. -/
theorem Reads.toOption_run (hscan : scan.Reads levels text rest result) (position : Position) :
    (scan.run ⟨text, position, levels⟩).1.toOption = result.toOption := by
  cases result with
  | ok value =>
    obtain ⟨later, hrun⟩ := hscan position
    rw [hrun]
    rfl
  | error fault =>
    obtain ⟨misreading, later, hrun⟩ := hscan position
    rw [hrun]
    rfl

/-! ### Refusals -/

theorem Refuses.reads (hscan : Refuses scan) : scan.Reads levels text rest (.error fault) :=
  fun _ ↦ hscan _

theorem Refuses.bind (hscan : Refuses scan) : Refuses (scan >>= next) := by
  intro cursor
  obtain ⟨misreading, later, hrun⟩ := hscan cursor
  exact ⟨misreading, later, by rw [run_bind, hrun]⟩

theorem refuses_bind (hnext : ∀ value, Refuses (next value)) : Refuses (scan >>= next) := by
  intro cursor
  rw [run_bind]
  rcases scan.run cursor with ⟨misreading | value, later⟩
  · exact ⟨misreading, later, rfl⟩
  · exact hnext value later

theorem refuses_refuse (fault : Fault) : Refuses (refuse fault : Scan α) :=
  fun cursor ↦ ⟨⟨fault, none⟩, cursor, rfl⟩

theorem refuses_malformedHere (fault : SyntaxFault) : Refuses (malformedHere fault : Scan α) :=
  fun _ ↦ ⟨_, _, rfl⟩

theorem refuses_malformedAhead (fault : SyntaxFault) : Refuses (malformedAhead fault : Scan α) :=
  fun _ ↦ ⟨_, _, rfl⟩

theorem reads_ofExcept (result : Except Fault α) :
    (ofExcept result).Reads levels text text result := by
  cases result with
  | ok value => exact reads_pure value
  | error fault => exact (refuses_refuse fault).reads

theorem run_settled (scan : Scan α) (cursor : Cursor) :
    (settled scan).run cursor =
      match scan.run cursor with
      | (.ok value, later) => (.ok value, later)
      | (.error misreading, later) =>
        (.error { misreading with place := misreading.place.or (some later.position) }, later) := by
  unfold settled
  simp only [tryCatch, tryCatchThe, MonadExceptOf.tryCatch, ExceptT.tryCatch, ExceptT.run,
    ExceptT.mk, bind, StateT.bind]
  rcases scan cursor with ⟨misreading | value, later⟩
  · rfl
  · rfl

/-- The place of a fault does not change what a scan comes to. -/
theorem Reads.settled (hscan : scan.Reads levels text rest result) :
    (settled scan).Reads levels text rest result := by
  cases result with
  | ok value =>
    intro position
    obtain ⟨later, hrun⟩ := hscan position
    exact ⟨later, by rw [run_settled, hrun]⟩
  | error fault =>
    intro position
    obtain ⟨misreading, later, hrun⟩ := hscan position
    exact ⟨_, later, by rw [run_settled, hrun]⟩

end Sequence

/-! ### Moving on -/

theorem reads_peek : peek.Reads levels text text (.ok text.head?) :=
  fun position ↦ ⟨position, rfl⟩

theorem reads_advance (count : Nat) (text : List Char) :
    (advance count).Reads levels text (text.drop count) (.ok ()) :=
  fun _ ↦ ⟨_, rfl⟩

theorem reads_advance_one (character : Char) :
    (advance 1).Reads levels (character :: text) text (.ok ()) :=
  reads_advance 1 (character :: text)

/-- A scan that looks at the cursor, which may stand at any place. -/
theorem reads_get {next : Cursor → Scan β} {result : Except Fault β}
    (hnext : ∀ position, (next ⟨text, position, levels⟩).Reads levels text rest result) :
    (get >>= next).Reads levels text rest result := by
  cases result with
  | ok value =>
    intro position
    obtain ⟨later, hrun⟩ := hnext position position
    exact ⟨later, by rw [run_bind]; exact hrun⟩
  | error fault =>
    intro position
    obtain ⟨misreading, later, hrun⟩ := hnext position position
    exact ⟨misreading, later, by rw [run_bind]; exact hrun⟩

/-- What is ahead is no space. -/
def Starts (text : List Char) : Prop :=
  ∀ character ∈ text.head?, isSpace character = false

theorem starts_nil : Starts [] := by
  rintro _ ⟨⟩

theorem reads_skipSpace (htext : Starts text) :
    skipSpace.Reads levels text text (.ok text.head?) := by
  have hnone : text.takeWhile isSpace = [] := by
    cases text with
    | nil => rfl
    | cons character more => simp [htext character rfl]
  unfold skipSpace
  refine reads_get fun position ↦ ?_
  dsimp only
  rw [hnone]
  exact (reads_advance 0 text).bind reads_peek

theorem reads_skipSpace_cons {mark : Char} (hmark : isSpace mark = false) (more : List Char) :
    skipSpace.Reads levels (mark :: more) (mark :: more) (.ok (some mark)) :=
  reads_skipSpace (by rintro _ ⟨⟩; exact hmark)

theorem reads_digits : digits.Reads levels text (text.dropWhile Char.isDigit)
    (.ok (text.takeWhile Char.isDigit)) := by
  have hdrop : text.drop (text.takeWhile Char.isDigit).length = text.dropWhile Char.isDigit := by
    induction text with
    | nil => rfl
    | cons character more ih => by_cases hdigit : character.isDigit <;> simp [hdigit, ih]
  unfold digits
  refine reads_get fun position ↦ (reads_advance _ text).bind ?_
  dsimp only
  rw [hdrop]
  exact reads_pure _

theorem reads_word (word rest : List Char) :
    (Scan.word word).Reads levels (word ++ rest) rest (.ok ()) := by
  induction word with
  | nil => exact reads_pure ()
  | cons character more ih =>
    unfold Scan.word
    refine reads_peek.bind ?_
    dsimp only [List.cons_append, List.head?]
    rw [if_pos rfl]
    exact (reads_advance_one character).bind ih

/-- A word that is read from its first character on. -/
theorem reads_wholeWord (first : Char) (more rest : List Char) :
    (advance 1 *> word more).Reads levels (first :: (more ++ rest)) rest (.ok ()) :=
  (reads_advance_one first).seqRight (reads_word more rest)

/-! ### Brackets -/

section Brackets

variable {scan body : Scan α} {ending : Scan Unit} {result : Except Fault α}

theorem run_nested (scan : Scan α) (cursor : Cursor) :
    (nested scan).run cursor =
      if cursor.levels ≤ 1 then (malformedAhead .nestedTooDeep).run cursor
      else match scan.run { cursor with levels := cursor.levels - 1 } with
        | (.ok value, later) => (.ok value, { later with levels := later.levels + 1 })
        | (.error misreading, later) => (.error misreading, later) := by
  have hget : (get : Scan Cursor).run cursor = (.ok cursor, cursor) := rfl
  have hmodify (change : Cursor → Cursor) :
      (modify change : Scan Unit).run cursor = (.ok (), change cursor) := rfl
  unfold nested
  rw [run_bind, hget]
  dsimp only
  split
  · rfl
  · rw [run_bind, hmodify]
    dsimp only
    rw [run_bind]
    rcases scan.run { cursor with levels := cursor.levels - 1 } with ⟨misreading | value, later⟩
    · rfl
    · rfl

theorem Reads.nested (hlevels : 1 < levels) (hscan : scan.Reads (levels - 1) text rest result) :
    (nested scan).Reads levels text rest result := by
  have hback : levels - 1 + 1 = levels := Nat.sub_add_cancel (Nat.le_of_lt hlevels)
  cases result with
  | ok value =>
    intro position
    obtain ⟨later, hrun⟩ := hscan position
    refine ⟨later, ?_⟩
    rw [run_nested, if_neg (Nat.not_le.2 hlevels), hrun]
    simp only [hback]
  | error fault =>
    intro position
    obtain ⟨misreading, later, hrun⟩ := hscan position
    exact ⟨misreading, later, by rw [run_nested, if_neg (Nat.not_le.2 hlevels), hrun]⟩

theorem run_enclosed (body : Scan α) (ending : Scan Unit) (cursor : Cursor) :
    (enclosed body ending).run cursor =
      if cursor.levels ≤ 1 then (malformedAhead .nestedTooDeep).run cursor
      else
        let inner := body.run ({ cursor with levels := cursor.levels - 1 }.advance 1)
        let outer := ending.run { inner.2 with levels := inner.2.levels + 1 }
        (inner.1 >>= fun value ↦ outer.1.map fun _ ↦ value, outer.2) := by
  have hbody (start : Cursor) : (advance 1 *> outcome body).run start =
      (.ok (body.run (start.advance 1)).1, (body.run (start.advance 1)).2) := rfl
  have hending (start : Cursor) : (outcome ending).run start =
      (.ok (ending.run start).1, (ending.run start).2) := rfl
  unfold enclosed
  rw [run_bind, run_nested]
  by_cases hlevels : cursor.levels ≤ 1
  · rw [if_pos hlevels, if_pos hlevels]
    rfl
  · rw [if_neg hlevels, if_neg hlevels, hbody]
    dsimp only
    rw [run_bind, hending]
    dsimp only
    generalize body.run (Cursor.advance 1 ⟨cursor.rest, cursor.position, cursor.levels - 1⟩) = inner
    obtain ⟨misreading | value, middle⟩ := inner
    · rfl
    · dsimp only
      generalize ending.run ⟨middle.rest, middle.position, middle.levels + 1⟩ = outer
      obtain ⟨misreading | ⟨⟩, last⟩ := outer
      · rfl
      · rfl

/-- What a bracket opens is read up to the end that goes with it; it is refused where what is inside
is refused, and where the end is not there. -/
theorem Reads.enclosed {ended : Except Fault Unit} (hlevels : 1 < levels) (bracket : Char)
    (hbody : body.Reads (levels - 1) text middle result)
    (hending : ending.Reads levels middle rest ended) :
    (enclosed body ending).Reads levels (bracket :: text) rest
      (result >>= fun value ↦ ended.map fun _ ↦ value) := by
  have hopen : ¬levels ≤ 1 := Nat.not_le.2 hlevels
  have hback : levels - 1 + 1 = levels := Nat.sub_add_cancel (Nat.le_of_lt hlevels)
  have hstart (position : Position) : ∃ place,
      Cursor.advance 1 ⟨bracket :: text, position, levels - 1⟩ = ⟨text, place, levels - 1⟩ :=
    ⟨_, rfl⟩
  cases result with
  | ok value =>
    cases ended with
    | ok =>
      intro position
      obtain ⟨place, hplace⟩ := hstart position
      obtain ⟨later, hinner⟩ := hbody place
      obtain ⟨last, houter⟩ := hending later
      refine ⟨last, ?_⟩
      rw [run_enclosed, if_neg hopen, hplace, hinner]
      dsimp only
      rw [hback, houter]
      rfl
    | error fault =>
      intro position
      obtain ⟨place, hplace⟩ := hstart position
      obtain ⟨later, hinner⟩ := hbody place
      obtain ⟨misreading, last, houter⟩ := hending later
      refine ⟨misreading, last, ?_⟩
      rw [run_enclosed, if_neg hopen, hplace, hinner]
      dsimp only
      rw [hback, houter]
      rfl
  | error fault =>
    intro position
    obtain ⟨place, hplace⟩ := hstart position
    obtain ⟨misreading, later, hinner⟩ := hbody place
    refine ⟨misreading, (ending.run { later with levels := later.levels + 1 }).2, ?_⟩
    rw [run_enclosed, if_neg hopen, hplace, hinner]
    rfl

/-- What refuses every text does so in brackets, too. -/
theorem Refuses.enclosed (hbody : Refuses body) (ending : Scan Unit) :
    Refuses (enclosed body ending) := by
  intro cursor
  rw [run_enclosed]
  split
  · exact refuses_malformedAhead _ cursor
  · obtain ⟨misreading, later, hinner⟩ :=
      hbody ({ cursor with levels := cursor.levels - 1 }.advance 1)
    refine ⟨misreading, (ending.run { later with levels := later.levels + 1 }).2, ?_⟩
    rw [hinner]
    rfl

end Brackets

/-! ### Ends and separators -/

theorem reads_endList : endList.Reads levels (']' :: rest) rest (.ok ()) :=
  (reads_skipSpace_cons (by decide) rest).bind (reads_advance_one ']')

/-- A list does not end before a comma. -/
theorem reads_endList_comma (fault : Fault) :
    endList.Reads levels (',' :: text) rest (.error fault) := by
  refine (reads_skipSpace_cons (by decide) text).bind ?_
  refine (reads_advance_one ',').bind (refuses_bind fun next ↦ ?_).reads
  split
  · exact refuses_malformedAhead _
  · exact refuses_malformedAhead _

theorem reads_endObject : endObject.Reads levels ('\x7d' :: rest) rest (.ok ()) :=
  (reads_skipSpace_cons (by decide) rest).bind (reads_advance_one _)

theorem reads_colon : colon.Reads levels (':' :: rest) rest (.ok ()) :=
  (reads_skipSpace_cons (by decide) rest).bind (reads_advance_one ':')

theorem reads_hasItem_end (first : Bool) :
    (hasItem first).Reads levels (']' :: rest) (']' :: rest) (.ok false) :=
  (reads_skipSpace_cons (by decide) rest).bind (reads_pure false)

theorem reads_hasItem_first (hstarts : Starts text) (hne : text ≠ [])
    (hend : text.head? ≠ some ']') : (hasItem true).Reads levels text text (.ok true) := by
  unfold hasItem
  refine (reads_skipSpace hstarts).bind ?_
  split
  · rename_i hhead
    exact absurd (List.head?_eq_none_iff.1 hhead) hne
  · rename_i hhead
    exact absurd hhead hend
  · exact reads_pure true
  · exact reads_pure true

theorem reads_hasItem_next (hstarts : Starts text) (hend : text.head? ≠ some ']') :
    (hasItem false).Reads levels (',' :: text) text (.ok true) := by
  unfold hasItem
  refine (reads_skipSpace_cons (by decide) text).bind ?_
  refine (reads_advance_one ',').bind ((reads_skipSpace hstarts).bind ?_)
  dsimp only
  rw [if_neg hend]
  exact reads_pure true

theorem reads_hasMember_end (first : Bool) :
    (hasMember first).Reads levels ('\x7d' :: rest) ('\x7d' :: rest) (.ok false) :=
  (reads_skipSpace_cons (by decide) rest).bind (reads_pure false)

theorem reads_hasMember_first :
    (hasMember true).Reads levels ('"' :: text) ('"' :: text) (.ok true) :=
  (reads_skipSpace_cons (by decide) text).bind (reads_pure true)

theorem reads_hasMember_next :
    (hasMember false).Reads levels (',' :: '"' :: text) ('"' :: text) (.ok true) := by
  refine (reads_skipSpace_cons (by decide) _).bind ?_
  refine (reads_advance_one ',').bind ?_
  exact (reads_skipSpace_cons (by decide) text).bind (reads_pure true)

/-! ### Rows of entries -/

/-- Texts in a row, with commas between them, and one before the first of them unless it is the
first of all. -/
def separated : (first : Bool) → List (List Char) → List Char
  | _, [] => []
  | true, entry :: entries => entry ++ separated false entries
  | false, entry :: entries => ',' :: entry ++ separated false entries

theorem separated_true_eq (entries : List (List Char)) :
    separated true entries = [','].intercalate entries := by
  cases entries with
  | nil => rfl
  | cons entry entries =>
    induction entries generalizing entry with
    | nil => simp [separated]
    | cons next entries ih =>
      rw [List.intercalate_cons_cons, ← ih]
      simp [separated]

theorem le_length_separated_cons (entry : List Char) (entries : List (List Char)) (first : Bool) :
    entry.length + (separated false entries).length ≤
      (separated first (entry :: entries)).length := by
  cases first with
  | true => exact Nat.le_of_eq List.length_append.symm
  | false =>
    rw [separated, List.cons_append, List.length_cons, List.length_append]
    exact Nat.le_succ _

theorem length_le_separated {entries : List (List Char)} (hentries : ∀ entry ∈ entries, entry ≠ [])
    (first : Bool) : entries.length ≤ (separated first entries).length := by
  induction entries generalizing first with
  | nil => exact Nat.zero_le _
  | cons entry entries ih =>
    have hentry : 0 < entry.length := List.length_pos_iff.2 (hentries entry List.mem_cons_self)
    have hlater := ih (fun entry hentry ↦ hentries entry (List.mem_cons_of_mem _ hentry)) false
    calc (entry :: entries).length
        = entries.length + 1 := List.length_cons
      _ ≤ entry.length + (separated false entries).length := by omega
      _ ≤ (separated first (entry :: entries)).length := le_length_separated_cons _ _ _

section Entries

variable {γ : Type} {more : Bool → Scan Bool} {step : α → Scan α} {follow : α → γ → Except Fault α}
  {write : γ → List Char} {closing : List Char} {entries : List γ}

/-- A step for each entry, as long as there is one: what is ahead of an entry is passed and the step
reads the entry, so that the whole row is what the entries come to one after another. -/
theorem reads_whileMore
    (hend : ∀ first, (more first).Reads levels closing closing (.ok false))
    (hfirst : ∀ entry ∈ entries, ∀ tail, (more true).Reads levels (write entry ++ tail)
      (write entry ++ tail) (.ok true))
    (hnext : ∀ entry ∈ entries, ∀ tail, (more false).Reads levels (',' :: write entry ++ tail)
      (write entry ++ tail) (.ok true))
    (hstep : ∀ entry ∈ entries, ∀ later value, (step value).Reads levels
      (write entry ++ (separated false later ++ closing)) (separated false later ++ closing)
      (follow value entry))
    (first : Bool) (value : α) {bound : Nat} (hbound : entries.length < bound) :
    (whileMore more step bound first value).Reads levels
      (separated first (entries.map write) ++ closing) closing (entries.foldlM follow value) := by
  induction entries generalizing first value bound with
  | nil =>
    obtain ⟨bound, rfl⟩ := Nat.exists_eq_succ_of_ne_zero (Nat.ne_of_gt hbound)
    rw [whileMore]
    exact (hend first).bind (reads_pure value)
  | cons entry entries ih =>
    obtain ⟨bound, rfl⟩ := Nat.exists_eq_succ_of_ne_zero (Nat.ne_zero_of_lt hbound)
    have hrest := ih (fun entry hentry ↦ hfirst entry (List.mem_cons_of_mem _ hentry))
      (fun entry hentry ↦ hnext entry (List.mem_cons_of_mem _ hentry))
      (fun entry hentry ↦ hstep entry (List.mem_cons_of_mem _ hentry))
    have hmore : (more first).Reads levels
        (separated first ((entry :: entries).map write) ++ closing)
        (write entry ++ (separated false (entries.map write) ++ closing)) (.ok true) := by
      cases first with
      | true =>
        rw [List.map_cons, separated, List.append_assoc]
        exact hfirst entry List.mem_cons_self _
      | false =>
        rw [List.map_cons, separated, List.append_assoc]
        exact hnext entry List.mem_cons_self _
    rw [whileMore, List.foldlM_cons]
    refine hmore.bind ?_
    rw [if_pos rfl]
    refine (hstep entry List.mem_cons_self _ value).then fun later _ ↦ ?_
    exact hrest false later (Nat.lt_of_succ_lt_succ hbound)

/-- There are enough steps for a whole row, since every entry takes a character. -/
theorem reads_repeated (hne : ∀ entry ∈ entries, write entry ≠ [])
    (hend : ∀ first, (more first).Reads levels closing closing (.ok false))
    (hfirst : ∀ entry ∈ entries, ∀ tail, (more true).Reads levels (write entry ++ tail)
      (write entry ++ tail) (.ok true))
    (hnext : ∀ entry ∈ entries, ∀ tail, (more false).Reads levels (',' :: write entry ++ tail)
      (write entry ++ tail) (.ok true))
    (hstep : ∀ entry ∈ entries, ∀ later value, (step value).Reads levels
      (write entry ++ (separated false later ++ closing)) (separated false later ++ closing)
      (follow value entry)) (start : α) :
    (repeated more step start).Reads levels (separated true (entries.map write) ++ closing) closing
      (entries.foldlM follow start) := by
  have hlength : (entries.map write).length ≤ (separated true (entries.map write)).length := by
    refine length_le_separated (fun written hwritten ↦ ?_) true
    obtain ⟨entry, hentry, rfl⟩ := List.mem_map.1 hwritten
    exact hne entry hentry
  unfold repeated
  refine reads_get fun position ↦ reads_whileMore hend hfirst hnext hstep true start ?_
  dsimp only
  rw [List.length_map] at hlength
  rw [List.length_append]
  omega

end Entries

end BlogOperator.Json.Scan

import BlogOperator.Cluster.Key

/-!
# Shelves

A `Shelf` holds the objects of one kind, each under its key, in the order of the keys. Looking
things up says all there is to know about a shelf (`Shelf.ext`), and the lemmas here say what each
operation does to what is found.
-/

set_option autoImplicit false

namespace BlogOperator

/-- Values under keys, in the order of the keys and at most one under each. -/
structure Shelf (α : Type) where
  entries : List (Key × α)
  sorted : entries.Pairwise fun first second ↦ first.1 < second.1

namespace Shelf

variable {α : Type}

/-- A shelf without values. -/
def empty : Shelf α := ⟨[], .nil⟩

instance : Inhabited (Shelf α) := ⟨empty⟩

/-- The value under a key. -/
def find? (shelf : Shelf α) (key : Key) : Option α :=
  shelf.entries.lookup key

/-- Puts a value among entries in order, in place of one under the same key. -/
def insertEntry (key : Key) (value : α) : List (Key × α) → List (Key × α)
  | [] => [(key, value)]
  | (other, existing) :: rest =>
    if key < other then (key, value) :: (other, existing) :: rest
    else if key = other then (key, value) :: rest
    else (other, existing) :: insertEntry key value rest

theorem mem_insertEntry {key : Key} {value : α} {entries : List (Key × α)} {entry : Key × α}
    (h : entry ∈ insertEntry key value entries) : entry = (key, value) ∨ entry ∈ entries := by
  induction entries with
  | nil => simpa [insertEntry] using h
  | cons first rest ih =>
    obtain ⟨other, existing⟩ := first
    simp only [insertEntry] at h
    split at h
    · simpa using h
    · split at h
      · rcases List.mem_cons.1 h with h | h
        · exact .inl h
        · exact .inr (List.mem_cons_of_mem _ h)
      · rcases List.mem_cons.1 h with h | h
        · exact .inr (h ▸ List.mem_cons_self)
        · exact (ih h).imp id (List.mem_cons_of_mem _)

theorem pairwise_insertEntry (key : Key) (value : α) {entries : List (Key × α)}
    (h : entries.Pairwise fun first second ↦ first.1 < second.1) :
    (insertEntry key value entries).Pairwise fun first second ↦ first.1 < second.1 := by
  induction entries with
  | nil => simp [insertEntry]
  | cons first rest ih =>
    obtain ⟨other, existing⟩ := first
    rw [List.pairwise_cons] at h
    simp only [insertEntry]
    split
    · rename_i before
      refine List.pairwise_cons.2 ⟨fun entry member ↦ ?_, List.pairwise_cons.2 h⟩
      rcases List.mem_cons.1 member with rfl | member
      · exact before
      · exact Key.lt_trans before (h.1 entry member)
    · split
      · rename_i same
        subst same
        exact List.pairwise_cons.2 h
      · rename_i notBefore different
        refine List.pairwise_cons.2 ⟨fun entry member ↦ ?_, ih h.2⟩
        rcases mem_insertEntry member with rfl | member
        · rcases Key.lt_or_eq_or_gt other key with before | same | after
          · exact before
          · exact absurd same.symm different
          · exact absurd after notBefore
        · exact h.1 entry member

/-- The shelf with a value put under a key, in place of any value already there. -/
def insert (shelf : Shelf α) (key : Key) (value : α) : Shelf α :=
  ⟨insertEntry key value shelf.entries, pairwise_insertEntry key value shelf.sorted⟩

/-- The shelf with only the entries that `keeps` accepts. -/
def filter (shelf : Shelf α) (keeps : Key → α → Bool) : Shelf α :=
  ⟨shelf.entries.filter fun entry ↦ keeps entry.1 entry.2,
    shelf.sorted.sublist List.filter_sublist⟩

/-- The shelf without the value under a key. -/
def erase (shelf : Shelf α) (key : Key) : Shelf α :=
  shelf.filter fun other _ ↦ other ≠ key

/-- The number of values on a shelf. -/
def size (shelf : Shelf α) : Nat :=
  shelf.entries.length

/-! ### What is found -/

theorem lookup_insertEntry (key other : Key) (value : α) (entries : List (Key × α)) :
    (insertEntry key value entries).lookup other =
      if other = key then some value else entries.lookup other := by
  induction entries with
  | nil =>
    by_cases h : other = key <;> simp [insertEntry, h]
  | cons first rest ih =>
    obtain ⟨place, existing⟩ := first
    simp only [insertEntry]
    split
    · by_cases h : other = key
      · simp [h]
      · have h' : (other == key) = false := by simpa using h
        rw [List.lookup_cons, h']
        simp [h]
    · split
      · rename_i same
        subst same
        by_cases h : other = key
        · simp [h]
        · have h' : (other == key) = false := by simpa using h
          rw [List.lookup_cons, List.lookup_cons, h']
          simp [h]
      · rename_i different
        rw [List.lookup_cons, List.lookup_cons, ih]
        by_cases h : other = place
        · subst h
          simp [Ne.symm different]
        · have h' : (other == place) = false := by simpa using h
          simp [h']

@[simp] theorem find?_empty (key : Key) : (empty : Shelf α).find? key = none := rfl

/-- A value that has been put on a shelf is found under its key, and nothing else changes. -/
theorem find?_insert (shelf : Shelf α) (key other : Key) (value : α) :
    (shelf.insert key value).find? other =
      if other = key then some value else shelf.find? other :=
  lookup_insertEntry key other value shelf.entries

@[simp] theorem find?_insert_self (shelf : Shelf α) (key : Key) (value : α) :
    (shelf.insert key value).find? key = some value := by
  simp [find?_insert]

theorem find?_insert_of_ne (shelf : Shelf α) {key other : Key} (h : other ≠ key) (value : α) :
    (shelf.insert key value).find? other = shelf.find? other := by
  simp [find?_insert, h]

theorem mem_entries_iff {shelf : Shelf α} {key : Key} {value : α} :
    (key, value) ∈ shelf.entries ↔ shelf.find? key = some value := by
  obtain ⟨entries, sorted⟩ := shelf
  simp only [find?]
  induction entries with
  | nil => simp
  | cons first rest ih =>
    obtain ⟨place, existing⟩ := first
    rw [List.pairwise_cons] at sorted
    rw [List.lookup_cons, List.mem_cons]
    by_cases h : key = place
    · subst h
      simp only [BEq.rfl, Prod.mk.injEq, true_and]
      constructor
      · rintro (h | h)
        · exact h ▸ rfl
        · exact absurd (sorted.1 _ h) (Key.lt_irrefl key)
      · intro h
        exact .inl (Option.some.inj h).symm
    · have h' : (key == place) = false := by simpa using h
      rw [h']
      simp only [Prod.mk.injEq, h, false_and, false_or]
      exact ih sorted.2

/-- What passes a filter is what was found and is accepted. -/
theorem find?_filter (shelf : Shelf α) (keeps : Key → α → Bool) (key : Key) :
    (shelf.filter keeps).find? key = (shelf.find? key).filter (keeps key) := by
  cases found : shelf.find? key with
  | none =>
    cases h : (shelf.filter keeps).find? key with
    | none => rfl
    | some value =>
      have member := mem_entries_iff.2 h
      have := (List.mem_filter.1 member).1
      rw [mem_entries_iff, found] at this
      cases this
  | some value =>
    have member := mem_entries_iff.2 found
    by_cases accepted : keeps key value = true
    · have : (key, value) ∈ (shelf.filter keeps).entries :=
        List.mem_filter.2 ⟨member, accepted⟩
      rw [mem_entries_iff.1 this]
      simp [Option.filter, accepted]
    · cases h : (shelf.filter keeps).find? key with
      | none => simp [Option.filter, accepted]
      | some other =>
        have inFilter := List.mem_filter.1 (mem_entries_iff.2 h)
        have := mem_entries_iff.1 inFilter.1
        rw [found] at this
        cases this
        exact absurd inFilter.2 accepted

/-- Taking a value off a shelf leaves the others. -/
theorem find?_erase (shelf : Shelf α) (key other : Key) :
    (shelf.erase key).find? other = if other = key then none else shelf.find? other := by
  rw [erase, find?_filter]
  by_cases h : other = key
  · cases found : shelf.find? other <;> simp [Option.filter, h]
  · cases found : shelf.find? other <;> simp [Option.filter, h]

@[simp] theorem find?_erase_self (shelf : Shelf α) (key : Key) :
    (shelf.erase key).find? key = none := by
  simp [find?_erase]

theorem find?_erase_of_ne (shelf : Shelf α) {key other : Key} (h : other ≠ key) :
    (shelf.erase key).find? other = shelf.find? other := by
  simp [find?_erase, h]

/-- Shelves on which the same is found under every key are equal. -/
theorem ext {first second : Shelf α} (h : ∀ key, first.find? key = second.find? key) :
    first = second := by
  have same (key : Key) (value : α) :
      (key, value) ∈ first.entries ↔ (key, value) ∈ second.entries := by
    rw [mem_entries_iff, mem_entries_iff, h]
  obtain ⟨entries, sorted⟩ := first
  obtain ⟨entries', sorted'⟩ := second
  simp only [mk.injEq]
  simp only at same
  clear h
  induction entries generalizing entries' with
  | nil =>
    cases entries' with
    | nil => rfl
    | cons head tail => exact absurd ((same head.1 head.2).2 List.mem_cons_self) (by simp)
  | cons head tail ih =>
    cases entries' with
    | nil => exact absurd ((same head.1 head.2).1 List.mem_cons_self) (by simp)
    | cons head' tail' =>
      rw [List.pairwise_cons] at sorted sorted'
      have heads : head = head' := by
        rcases List.mem_cons.1 ((same head.1 head.2).1 List.mem_cons_self) with h | h
        · exact h
        · rcases List.mem_cons.1 ((same head'.1 head'.2).2 List.mem_cons_self) with h' | h'
          · exact h'.symm
          · exact absurd (Key.lt_trans (sorted.1 _ h') (sorted'.1 _ h)) (Key.lt_irrefl _)
      subst heads
      congr 1
      refine ih sorted.2 tail' sorted'.2 fun key value ↦ ?_
      have := same key value
      constructor
      · intro member
        rcases List.mem_cons.1 (this.1 (List.mem_cons_of_mem _ member)) with h | h
        · exact absurd (h ▸ sorted.1 _ member) (Key.lt_irrefl _)
        · exact h
      · intro member
        rcases List.mem_cons.1 (this.2 (List.mem_cons_of_mem _ member)) with h | h
        · exact absurd (h ▸ sorted'.1 _ member) (Key.lt_irrefl _)
        · exact h

end Shelf

end BlogOperator

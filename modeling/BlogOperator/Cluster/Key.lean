import BlogOperator.Kubernetes.Metadata

/-!
# Keys of objects

Within one kind an object is addressed by its namespace and its name. Keys are ordered by namespace
and then by name.
-/

set_option autoImplicit false

namespace BlogOperator

/-- The address of an object among those of its kind. -/
structure Key where
  namespaceName : String
  name : String
  deriving DecidableEq, Repr, Inhabited

namespace Key

/-- A key as it is shown in messages. -/
def text (key : Key) : String :=
  key.namespaceName ++ "/" ++ key.name

/-- The key of an object, from its own metadata. -/
def ofMetadata (metadata : Kubernetes.Metadata) : Key :=
  ⟨metadata.namespaceOrEmpty, metadata.nameOrEmpty⟩

/-- Keys are ordered by namespace, and by name within a namespace. -/
instance : LT Key where
  lt first second :=
    first.namespaceName < second.namespaceName ∨
      (first.namespaceName = second.namespaceName ∧ first.name < second.name)

instance (first second : Key) : Decidable (first < second) :=
  inferInstanceAs (Decidable (_ ∨ (_ ∧ _)))

theorem lt_def {first second : Key} :
    first < second ↔ first.namespaceName < second.namespaceName ∨
      (first.namespaceName = second.namespaceName ∧ first.name < second.name) := Iff.rfl

theorem lt_irrefl (key : Key) : ¬key < key := by
  rintro (h | ⟨_, h⟩)
  · exact String.lt_irrefl _ h
  · exact String.lt_irrefl _ h

theorem lt_trans {first second third : Key} (h : first < second) (h' : second < third) :
    first < third := by
  rw [lt_def] at *
  rcases h with h | ⟨h, g⟩ <;> rcases h' with h' | ⟨h', g'⟩
  · exact .inl (String.lt_trans h h')
  · exact .inl (h' ▸ h)
  · exact .inl (h ▸ h')
  · exact .inr ⟨h.trans h', String.lt_trans g g'⟩

theorem lt_or_eq_or_gt (first second : Key) : first < second ∨ first = second ∨ second < first := by
  obtain ⟨space, name⟩ := first
  obtain ⟨space', name'⟩ := second
  simp only [lt_def, mk.injEq]
  by_cases h : space < space'
  · exact .inl (.inl h)
  · by_cases h' : space' < space
    · exact .inr (.inr (.inl h'))
    · have same : space = space' := String.le_antisymm (String.not_lt.1 h') (String.not_lt.1 h)
      by_cases g : name < name'
      · exact .inl (.inr ⟨same, g⟩)
      · by_cases g' : name' < name
        · exact .inr (.inr (.inr ⟨same.symm, g'⟩))
        · exact .inr (.inl ⟨same, String.le_antisymm (String.not_lt.1 g') (String.not_lt.1 g)⟩)

/-- Keys in order. -/
def sorted (keys : List Key) : List Key :=
  keys.mergeSort fun first second ↦ !decide (second < first)

end Key

end BlogOperator

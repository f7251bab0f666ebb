import BlogOperator.Proofs.History

/-!
# The sequence of the steps

The children of a blog are seen to in a fixed sequence (`ChildKind.Precedes`). A round has seen a
child in place when it has found it or has had it created (`SeenIn`), and it goes on to a child only
after it has seen all children that precede it (`inSequence_reconcile`). This is true of what is
left of a round at every point of its course, whatever the replies are and whatever goes on beside
it (`Traffic.keeps_undergo`).
-/

set_option autoImplicit false

namespace BlogOperator

open BlogOperator.Kubernetes BlogOperator.Time

/-! ### What precedes what -/

/-- A kind of children is seen to before another one. -/
def ChildKind.Precedes (first second : ChildKind) : Prop :=
  ChildKind.all.idxOf first < ChildKind.all.idxOf second

instance (first second : ChildKind) : Decidable (first.Precedes second) :=
  inferInstanceAs (Decidable (_ < _))

/-- The ingress is seen to last. -/
theorem ChildKind.Precedes.ne_ingress {first second : ChildKind}
    (hprecedes : first.Precedes second) : first ≠ .ingress := by
  rintro rfl
  cases second with
  | _ => exact absurd hprecedes (by decide)

theorem ChildKind.Precedes.ne {first second : ChildKind} (hprecedes : first.Precedes second) :
    first ≠ second := by
  rintro rfl
  exact Nat.lt_irrefl _ hprecedes

theorem ChildKind.pairwise_precedes : ChildKind.all.Pairwise ChildKind.Precedes := by
  decide

/-- The child of a kind has been found in its place for a team, or it has been created. -/
def SeenIn (team : String) (kind : ChildKind) (past : List Exchange) : Prop :=
  (∃ object, ⟨.find kind ⟨team, kind.childName team⟩, .ok (some object)⟩ ∈ past) ∨
    ∃ object, ⟨.change (.create kind object), .ok ()⟩ ∈ past

theorem SeenIn.extend {team : String} {kind : ChildKind} {past later : List Exchange}
    (hseen : SeenIn team kind past) (hextends : past <+: later) : SeenIn team kind later := by
  rcases hseen with ⟨object, hfound⟩ | ⟨object, hcreated⟩
  · exact .inl ⟨object, hextends.subset hfound⟩
  · exact .inr ⟨object, hextends.subset hcreated⟩

/-- The kind of the child that a call looks up or writes, if it does. -/
def Call.kind? : Call → Option ChildKind
  | .readGhost _ => none
  | .writeStatus _ _ => none
  | .find kind _ => some kind
  | .change write => some write.kind

/-- A call about a child is made only after all children that precede it have been seen in place. -/
def Call.InSequence (team : String) (past : List Exchange) (request : Call) : Prop :=
  ∀ kind, request.kind? = some kind → ∀ earlier : ChildKind, earlier.Precedes kind →
    SeenIn team earlier past

/-! ### Rounds keep the sequence -/

/-- The kinds that are still to be seen to are in sequence, and all others have been seen in place,
but for the ingress. -/
def SeenBefore (team : String) (kinds : List ChildKind) (past : List Exchange) : Prop :=
  kinds.Pairwise ChildKind.Precedes ∧ ∀ kind ∉ kinds, kind ≠ .ingress → SeenIn team kind past

section SeenBefore

variable {team : String} {kind : ChildKind} {kinds : List ChildKind} {past later : List Exchange}

theorem SeenBefore.precedes (hseen : SeenBefore team (kind :: kinds) past) {earlier : ChildKind}
    (hprecedes : earlier.Precedes kind) : SeenIn team earlier past := by
  refine hseen.2 earlier (fun hmem ↦ ?_) hprecedes.ne_ingress
  rcases List.mem_cons.1 hmem with rfl | hlater
  · exact hprecedes.ne rfl
  · exact Nat.lt_asymm hprecedes ((List.pairwise_cons.1 hseen.1).1 earlier hlater)

/-- A child that has been seen in place is no longer to be seen to, and neither is the ingress. -/
theorem SeenBefore.rest (hseen : SeenBefore team (kind :: kinds) past) (hextends : past <+: later)
    (hkind : kind ≠ .ingress → SeenIn team kind later) : SeenBefore team kinds later := by
  refine ⟨(List.pairwise_cons.1 hseen.1).2, fun other hother hingress ↦ ?_⟩
  by_cases hsame : other = kind
  · subst hsame
    exact hkind hingress
  · have hnot : other ∉ kind :: kinds := by simp [hsame, hother]
    exact (hseen.2 other hnot hingress).extend hextends

end SeenBefore

/-- The step for a child keeps the sequence, and sees the child in place if it succeeds, unless it
is the ingress. -/
theorem Ghost.inSequence_putInPlace {ghost : Ghost} {team : String} {kind : ChildKind}
    {kinds : List ChildKind} {past : List Exchange}
    (hseen : SeenBefore team (kind :: kinds) past) :
    (ghost.putInPlace team kind).Keeps .exchanges (Call.InSequence team)
      (EitherWay (SeenBefore team kinds) fun _ _ ↦ True) past := by
  refine keeps_putInPlace ?_ (fun _ _ _ ↦ trivial) (fun _ _ ↦ trivial) ?_ ?_
  · rintro other ⟨⟩ earlier hprecedes
    exact hseen.precedes hprecedes
  · rintro live later rfl hrest
    refine hseen.rest (List.prefix_append _ _) fun hkind ↦ ?_
    cases hrest with
    | noIngress hunwanted => exact absurd rfl hkind
    | _ => exact .inl ⟨_, List.mem_append_right _ List.mem_cons_self⟩
  · rintro live later write rfl hwants
    refine keeps_carryOut ?_ (fun _ _ _ ↦ trivial) ?_
    · intro other hother earlier hprecedes
      obtain rfl : kind = other := hwants.kind_eq.symm.trans (Option.some.inj hother)
      exact (hseen.precedes hprecedes).extend (List.prefix_append _ _)
    · rintro last told rfl rfl
      refine hseen.rest ((List.prefix_append _ _).trans (List.prefix_append _ _)) fun hkind ↦ ?_
      cases hwants with
      | creation howner hwanted => exact .inr ⟨_, List.mem_append_right _ List.mem_cons_self⟩
      | replacement hdrifted =>
        exact .inl ⟨_, List.mem_append_left _ (List.mem_append_right _ List.mem_cons_self)⟩
      | removal hunwanted => exact absurd rfl hkind

/-- A round goes on to a child only after it has seen in place all children that precede it,
whatever the replies are. -/
theorem inSequence_reconcile (key : Key) (now : Instant) :
    (reconcile key now).Keeps .exchanges (Call.InSequence key.namespaceName)
      (fun _ _ ↦ True) [] := by
  refine keeps_reconcile ?_ (fun _ _ _ ↦ trivial) (fun _ _ ↦ trivial) fun ghost past _ ↦ ?_
  · intro kind hkind
    cases hkind
  · refine keeps_reconcileGhost
      (fun kind kinds past (hseen : SeenBefore key.namespaceName (kind :: kinds) past) ↦
        Ghost.inSequence_putInPlace hseen) ?_ ?_
    · intro verdict later _
      refine Ghost.keeps_recordStatus (fun _ ↦ trivial) (fun _ ↦ ?_) fun _ _ _ _ ↦ trivial
      intro kind hkind
      cases hkind
    · exact ⟨ChildKind.pairwise_precedes, fun kind hkind ↦ absurd (ChildKind.mem_all kind) hkind⟩

end BlogOperator

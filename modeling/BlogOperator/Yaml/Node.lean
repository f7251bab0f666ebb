import BlogOperator.Yaml.Token

/-!
# Documents

A `Document` is a tree of nodes: scalars, lists and mappings, each with the place where it begins,
and aliases that stand for a node elsewhere in the document. A text that is not well formed has
nodes up to where it goes wrong, and a broken node there, so that of a wrong value and a flaw the
one that comes first is reported.
-/

set_option autoImplicit false

namespace BlogOperator.Yaml

/-- What a node is given besides its content. -/
structure Properties where
  /-- The number under which aliases refer to the node. -/
  anchor : Option Nat := none
  tag : Option (List UInt8) := none
  deriving DecidableEq, Repr

/-- A document or a part of one. -/
inductive Node where
  | scalar (place : Place) (properties : Properties) (style : Style) (text : String)
  | list (place : Place) (properties : Properties) (items : List Node)
  | mapping (place : Place) (properties : Properties) (entries : List (Node × Node))
  | reference (place : Place) (anchor : Nat)
  /-- From here on the text is not well formed. -/
  | broken (flaw : Flaw)
  deriving Repr, Inhabited

namespace Node

/-- The node where nothing is written. -/
def empty (place : Place) : Node :=
  scalar place {} .plain ""

/-- The node by its number, if it has one. -/
def numbered (node : Node) : List (Nat × Node) :=
  let anchor := match node with
    | scalar _ properties _ _ => properties.anchor
    | list _ properties _ => properties.anchor
    | mapping _ properties _ => properties.anchor
    | reference _ _ => none
    | broken _ => none
  (anchor.map (·, node)).toList

/-- The nodes with numbers, in the order in which they begin. -/
def definitions (node : Node) : List (Nat × Node) :=
  node.numbered ++
    match node with
    | list _ _ items => items.attach.flatMap fun ⟨item, _⟩ ↦ item.definitions
    | mapping _ _ entries =>
      entries.attach.flatMap fun ⟨(key, value), _⟩ ↦ key.definitions ++ value.definitions
    | _ => []
termination_by sizeOf node
decreasing_by
  all_goals simp_wf
  · have := List.sizeOf_lt_of_mem ‹item ∈ items›
    omega
  all_goals
    have := List.sizeOf_lt_of_mem ‹(key, value) ∈ entries›
    simp only [Prod.mk.sizeOf_spec] at this
    omega

/-- Whether and how a node is broken anywhere inside. -/
def flaw? : Node → Option Flaw
  | scalar _ _ _ _ => none
  | reference _ _ => none
  | list _ _ items => items.attach.findSome? fun ⟨item, _⟩ ↦ item.flaw?
  | mapping _ _ entries =>
    entries.attach.findSome? fun ⟨(key, value), _⟩ ↦ key.flaw? <|> value.flaw?
  | broken flaw => some flaw
termination_by node => sizeOf node
decreasing_by
  all_goals simp_wf
  · have := List.sizeOf_lt_of_mem ‹item ∈ items›
    omega
  all_goals
    have := List.sizeOf_lt_of_mem ‹(key, value) ∈ entries›
    simp only [Prod.mk.sizeOf_spec] at this
    omega

/-- How many steps it takes to go through a node: one for anything without parts, and one each for
the beginning and the end of a list or mapping. -/
def steps (node : Node) : Nat :=
  let ending := if node.flaw?.isNone then 2 else 1
  match node with
  | scalar _ _ _ _ => 1
  | reference _ _ => 1
  | list _ _ items => items.attach.foldl (fun count ⟨item, _⟩ ↦ count + item.steps) ending
  | mapping _ _ entries =>
    entries.attach.foldl (fun count ⟨(key, value), _⟩ ↦ count + key.steps + value.steps) ending
  | broken _ => 0
termination_by sizeOf node
decreasing_by
  all_goals simp_wf
  · have := List.sizeOf_lt_of_mem ‹item ∈ items›
    omega
  all_goals
    have := List.sizeOf_lt_of_mem ‹(key, value) ∈ entries›
    simp only [Prod.mk.sizeOf_spec] at this
    omega

end Node

/-- A document. -/
structure Document where
  root : Node
  /-- Why the text is not well formed, in the document or right behind it. -/
  flaw : Option Flaw
  deriving Repr, Inhabited

/-- A document that is broken from its beginning. -/
def Document.broken (flaw : Flaw) : Document :=
  ⟨.broken flaw, some flaw⟩

/-- The node that an alias stands for: the last of those with its number. -/
def Document.definition? (document : Document) (anchor : Nat) : Option Node :=
  document.root.definitions.reverse.lookup anchor

end BlogOperator.Yaml

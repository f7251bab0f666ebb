import BlogOperator.Failure
import BlogOperator.Ghost.Basic
import BlogOperator.Yaml.Reader
import BlogOperator.Yaml.Typed

/-!
# Specifications in YAML

How the specification of a blog is read from a YAML text: from a mapping, where entries of other
names are passed over. An image tag may be any scalar, even one that spells a number.
-/

set_option autoImplicit false

namespace BlogOperator.GhostSpec

open BlogOperator.Yaml (Document Fault Node Place)

/-- Refuses what a specification has at a place. -/
def refuse {α : Type} (place : Place) (fault : Json.Fault) : Except Fault α :=
  .error (.wrong (.unfit fault) [] place)

/-- As much of a specification as has been read. -/
structure Draft where
  imageTag : Option String := none
  replicas : Option Int32 := none
  enableIngress : Option Bool := none

namespace Draft

/-- Refuses an entry whose name has been read before. -/
def once {α : Type} (place : Place) (name : String) (known : Option α) : Except Fault Unit :=
  if known.isSome then refuse place (.repeatedMember name) else .ok ()

/-- The draft with one more entry of the mapping that begins at `place`. -/
def take (document : Document) (place : Place) (draft : Draft) (entry : Node × Node) :
    Except Fault Draft := do
  let name ← (entry.1.followed document).text "field identifier" []
  let path := [entry.1.step]
  let value := entry.2.followed document
  match name with
  | "imageTag" =>
    once place name draft.imageTag
    return { draft with imageTag := ← value.text "a string" path }
  | "replicas" =>
    once place name draft.replicas
    return { draft with replicas := ← value.int32 path }
  | "enableIngress" =>
    once place name draft.enableIngress
    return { draft with enableIngress := ← value.bool path }
  | _ =>
    entry.2.ignore
    return draft

/-- The specification of a draft that has everything needed. -/
def finish (place : Place) (draft : Draft) : Except Fault GhostSpec := do
  let required {α : Type} (name : String) (value : Option α) : Except Fault α :=
    match value with
    | some value => .ok value
    | none => refuse place (.missingMember name)
  return {
    imageTag := ← required "imageTag" draft.imageTag
    replicas := ← required "replicas" draft.replicas
    enableIngress := draft.enableIngress.getD false }

end Draft

/-- The specification in the entries of the mapping that begins at `place`. -/
def ofEntries (document : Document) (place : Place) (entries : List (Node × Node)) :
    Except Fault GhostSpec := do
  let draft ← entries.foldlM (Draft.take document place) {}
  draft.finish place

/-- The specification that a document holds. A document that is empty holds no entries. -/
def ofDocument (document : Document) : Except Fault GhostSpec :=
  match document.root with
  | .mapping place _ entries => ofEntries document place entries
  | .scalar place _ .plain "" => ofEntries document place []
  | other => other.mismatch "struct GhostSpec" []

/-- The specification in a text of one document. -/
def ofYaml (text : String) : Except Failure GhostSpec :=
  let read : Except Fault GhostSpec :=
    match Yaml.documents text with
    | [] => throw .severalDocuments
    | document :: others => do
      let spec ← ofDocument document
      match document.flaw with
      | some flaw => throw (.malformed flaw)
      | none => if others.isEmpty then return spec else throw .severalDocuments
  read.mapError fun fault ↦ .serialization fault.message

end BlogOperator.GhostSpec

import BlogOperator.Http.Message
import BlogOperator.Json.Printer

/-!
# A scripted server

A `Script` is a server that answers by rules: the first rule that fits a request says what comes
back. A rule may be good for a number of requests only. Requests that no rule fits are answered as
by an empty but obliging server: nothing is found, and whatever is written is given back. The
requests that arrive are on record.
-/

set_option autoImplicit false

namespace BlogOperator.Http

/-- What a rule answers: a reply, or that the request gets lost. -/
inductive Response where
  | reply (status : Nat) (body : List UInt8)
  | lost (message : String)
  deriving Repr

/-- A rule of a script. -/
structure Rule where
  /-- The method that the rule is for; all of them if there is none. -/
  method : Option String
  /-- The path that the rule is for; all of them if there is none. -/
  path : Option String
  /-- How many more requests the rule is good for; any number if there is none. -/
  times : Option Nat
  response : Response
  deriving Repr

/-- A server that answers by rules. -/
structure Script where
  rules : List Rule := []
  /-- The requests that have arrived, the latest first. -/
  received : List Request := []

namespace Script

/-- Whether a rule is for a request and still good. -/
def fits (request : Request) (rule : Rule) : Bool :=
  rule.method.all (· == request.method.name) && rule.path.all (· == request.address.path) &&
    rule.times.all (0 < ·)

/-- The response of the first rule that fits, and the rules with that one used once more. -/
def use (request : Request) : List Rule → Option (Response × List Rule)
  | [] => none
  | rule :: rest =>
    if fits request rule then
      some (rule.response, { rule with times := rule.times.map (· - 1) } :: rest)
    else (use request rest).map fun (response, rest) ↦ (response, rule :: rest)

/-- The bytes of a written value. -/
def bytesOf (json : Json) : List UInt8 :=
  json.compact.toUTF8.toList

/-- That nothing is found under an address. -/
def notFound (address : Address) : Json :=
  Json.record [
    ("kind", .text "Status"), ("status", .text "Failure"),
    ("message", .text (address.path ++ " not found")), ("reason", .text "NotFound"),
    ("code", Json.integer 404)]

/-- That something has been done. -/
def success : Json :=
  Json.record [("kind", .text "Status"), ("status", .text "Success")]

/-- Some blog. -/
def someGhost : Json :=
  Json.record [
    ("metadata", .object []),
    ("spec", Json.record [("imageTag", .text "x"), ("replicas", Json.integer 1)])]

/-- The response to a request that no rule fits. -/
def fallback (request : Request) : Response :=
  let echo := bytesOf (request.body.getD .null)
  match request.method with
  | .get => .reply 404 (bytesOf (notFound request.address))
  | .post => .reply 201 echo
  | .put => .reply 200 echo
  | .patch => .reply 200 (bytesOf someGhost)
  | .delete => .reply 200 (bytesOf success)

/-- Answers a request by the rules. -/
def send (request : Request) (script : Script) : Except String Reply × Script :=
  let (response, rules) := (use request script.rules).getD (fallback request, script.rules)
  let script := { rules, received := request :: script.received : Script }
  match response with
  | .reply status body => (.ok ⟨status, body⟩, script)
  | .lost message => (.error message, script)

/-- The way to a scripted server. -/
def transport : Transport Script := ⟨send⟩

end Script

end BlogOperator.Http

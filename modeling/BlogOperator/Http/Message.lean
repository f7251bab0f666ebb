import BlogOperator.Http.Address
import BlogOperator.Json.Basic

/-!
# Requests and replies

What goes over the wire: a `Request` with a method, an address and a JSON body, and a `Reply` with a
status number and bytes. A `Transport` is whatever takes a request to the server and brings back
its reply, or says why there is none.
-/

set_option autoImplicit false

namespace BlogOperator.Http

/-- What is asked of the server. -/
inductive Method where
  | get
  | post
  | put
  | patch
  | delete
  deriving DecidableEq, Repr, Inhabited

/-- The written name of a method. -/
def Method.name : Method → String
  | get => "GET"
  | post => "POST"
  | put => "PUT"
  | patch => "PATCH"
  | delete => "DELETE"

/-- A request to the server. -/
structure Request where
  method : Method
  address : Address
  /-- What kind of text the body is. -/
  contentType : Option String
  body : Option Json
  deriving BEq, Repr, Inhabited

/-- The server's answer to a request. -/
structure Reply where
  status : Nat
  body : List UInt8
  deriving DecidableEq, Repr, Inhabited

/-- A way to the server: the reply to a request, or why it is missing. -/
structure Transport (σ : Type) where
  send : Request → σ → Except String Reply × σ

end BlogOperator.Http

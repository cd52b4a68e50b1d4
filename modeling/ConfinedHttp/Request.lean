import ConfinedHttp.Error
import ConfinedHttp.Method
import ConfinedHttp.Multidict

/-!
Requests as an add-on describes them.
-/

namespace ConfinedHttp

/-- A request whose path is still relative to a prefix. -/
structure Request where
  method : Method
  path : String
  query : Multidict
  headers : Multidict
  body : Option Bytes
deriving DecidableEq, Repr

namespace Request

/-- A request with a method and a path and nothing else. -/
def plain (method : Method) (path : String) : Request := ⟨method, path, .empty, .empty, none⟩

def withQuery (request : Request) (query : Multidict) : Request := { request with query }

def withHeaders (request : Request) (headers : Multidict) : Request := { request with headers }

def withBody (request : Request) (body : Bytes) : Request := { request with body := some body }

/-- This function attaches a JSON body.  A payload that cannot be written is given by the reason
why. -/
def withPayload (request : Request) (payload : Except String Json.Value) :
    Except InputError Request :=
  match payload with
  | .error reason => .error (.unsupportedShape ("JSON body cannot be encoded: " ++ reason))
  | .ok value =>
    .ok { request with
      headers := request.headers.set "Content-Type" "application/json"
      body := some (Utf8.encode value.write) }

def withJsonBody (request : Request) (value : Json.Value) : Except InputError Request :=
  request.withPayload (.ok value)

end Request

end ConfinedHttp

import ConfinedHttp.Json.Decoder
import ConfinedHttp.Text.Outline

/-!
The methods of requests.
-/

namespace ConfinedHttp

inductive Method where
  | get
  | head
  | post
  | put
  | patch
  | delete
  | options
deriving DecidableEq, Repr

namespace Method

def all : List Method := [get, head, post, put, patch, delete, options]

/-- This function gives the name on the wire. -/
def name : Method → String
  | get => "GET"
  | head => "HEAD"
  | post => "POST"
  | put => "PUT"
  | patch => "PATCH"
  | delete => "DELETE"
  | options => "OPTIONS"

/-- This function finds a method by its name on the wire. -/
def ofName? (name : String) : Option Method := all.find? (·.name == name)

def outline : Method → Outline
  | get => .atom "Get"
  | head => .atom "Head"
  | post => .atom "Post"
  | put => .atom "Put"
  | patch => .atom "Patch"
  | delete => .atom "Delete"
  | options => .atom "Options"

def decoder : Json.Decoder Method := Json.Decoder.choice (all.map fun method => (method.name, method))

end Method

end ConfinedHttp

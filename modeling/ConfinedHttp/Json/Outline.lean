import ConfinedHttp.Json.Value
import ConfinedHttp.Text.Outline

/-!
The outline of a JSON value, which tells the kind of every part.
-/

namespace ConfinedHttp.Json

mutual

def Value.outline : Value → Outline
  | .null => .atom "Null"
  | .bool true => .tuple "Bool" [.atom "true"]
  | .bool false => .tuple "Bool" [.atom "false"]
  | .number value => .tuple "Number" [.atom (String.ofList value.write)]
  | .string value => .tuple "String" [.ofText value]
  | .array items => .marked "Array " (.list (outlineItems items))
  | .object members => .marked "Object " (.set (outlineMembers members))

def outlineItems : List Value → List Outline
  | [] => []
  | item :: rest => item.outline :: outlineItems rest

/-- The outline of a member shows its key in quotes. -/
def outlineMembers : List (String × Value) → List Outline
  | [] => []
  | (key, item) :: rest => .field (quoted key) item.outline :: outlineMembers rest

end

end ConfinedHttp.Json

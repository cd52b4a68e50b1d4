import ConfinedHttp.Error
import ConfinedHttp.Json.Decoder
import ConfinedHttp.Json.Outline
import ConfinedHttp.Multidict

/-!
Ordered pairs as JSON: a list of pairs of strings.  An object of strings and `null` are read too.
-/

namespace ConfinedHttp.Multidict

/-- This function writes the pairs as a list of lists. -/
def toJson (dict : Multidict) : Json.Value :=
  .array (dict.pairs.map fun pair => .array [.string pair.1, .string pair.2])

/-- This function decodes a list of pairs of strings. -/
def decoder : Json.Decoder Multidict := (Json.Decoder.list Json.Decoder.textPair).map Multidict.mk

/-- This function reads a member of an object. -/
def pairOfMember (member : String × Json.Value) : Except InputError (String × String) :=
  match member.2 with
  | .string value => .ok (member.1, value)
  | other =>
    .error (.unsupportedShape
      ("value for `" ++ member.1 ++ "` must be a string, found " ++ other.text))

/-- This function reads an item of a list. -/
def pairOfItem (item : Json.Value) : Except InputError (String × String) :=
  match item with
  | .array [.string key, .string value] => .ok (key, value)
  | .array [first, second] =>
    .error (.unsupportedShape ("pair must hold two strings, found " ++
      (Outline.list [first.outline, second.outline]).compact))
  | .array items =>
    .error (.unsupportedShape
      ("pair must hold exactly two entries, found " ++ toString items.length))
  | other => .error (.unsupportedShape ("expected a [key, value] pair, found " ++ other.text))

/-- This function reads pairs from a value.  The first part that does not suit is reported. -/
def ofJson (value : Json.Value) : Except InputError Multidict :=
  match value with
  | .null => .ok empty
  | .object members => (members.mapM pairOfMember).map Multidict.mk
  | .array items => (items.mapM pairOfItem).map Multidict.mk
  | other =>
    .error (.unsupportedShape
      ("expected null, an object, or a list of pairs, found " ++ other.text))

/-- This function makes pairs from a mapping, whose keys stand in the order of their bytes.  Of
equal keys the last one counts. -/
def ofMapping (entries : List (String × String)) : Multidict := ⟨Json.members entries⟩

end ConfinedHttp.Multidict

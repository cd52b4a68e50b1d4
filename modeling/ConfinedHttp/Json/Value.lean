import ConfinedHttp.Number.Shortest
import ConfinedHttp.Text.Utf8

/-!
JSON values and their compact text.
-/

namespace ConfinedHttp

/-- The order of texts by their bytes in UTF-8. -/
def precedes (left right : String) : Bool := textBytes left < textBytes right

namespace Json

/-- A number is an integer of 64 bits, with or without a sign, or a binary number. -/
inductive Number where
  | integer (value : Int)
  | real (value : Binary64)
deriving DecidableEq, Repr

/-- A JSON value.  The keys of an object increase in the order of their bytes. -/
inductive Value where
  | null
  | bool (value : Bool)
  | number (value : Number)
  | string (value : String)
  | array (items : List Value)
  | object (members : List (String × Value))
deriving Repr

/-- This function puts a member into an object and replaces one with the same key. -/
def insertMember {α : Type} (key : String) (value : α) : List (String × α) → List (String × α)
  | [] => [(key, value)]
  | next :: rest =>
    if key = next.1 then (key, value) :: rest
    else if precedes key next.1 then (key, value) :: next :: rest
    else next :: insertMember key value rest

/-- This function makes the members of an object from entries in any order.  Of equal keys the last
one counts. -/
def members {α : Type} (entries : List (String × α)) : List (String × α) :=
  entries.foldl (fun gathered entry => insertMember entry.1 entry.2 gathered) []

def Number.write : Number → List Char
  | .integer value =>
    if value < 0 then '-' :: Ascii.decimal value.natAbs else Ascii.decimal value.natAbs
  | .real value => Shortest.write value

/-- This function escapes a character of a string where the grammar asks for it. -/
def escape (character : Char) : List Char :=
  if character = '"' then ['\\', '"']
  else if character = '\\' then ['\\', '\\']
  else if character = '\n' then ['\\', 'n']
  else if character = '\r' then ['\\', 'r']
  else if character = '\t' then ['\\', 't']
  else if character = '\x08' then ['\\', 'b']
  else if character = '\x0c' then ['\\', 'f']
  else if character.toNat < 0x20 then
    ['\\', 'u', '0', '0', Ascii.lowerHexDigit (character.toNat / 16),
      Ascii.lowerHexDigit (character.toNat % 16)]
  else [character]

/-- This function writes a string in quotes. -/
def writeString (text : String) : List Char := '"' :: text.toList.flatMap escape ++ ['"']

/-- This function writes a value without blanks. -/
def Value.write : Value → List Char
  | .null => "null".toList
  | .bool true => "true".toList
  | .bool false => "false".toList
  | .number value => value.write
  | .string value => writeString value
  | .array items => '[' :: writeItems true items ++ [']']
  | .object members => '\x7b' :: writeMembers true members ++ ['\x7d']
where
  /-- This function writes items with a comma before each but the first. -/
  writeItems (isFirst : Bool) : List Value → List Char
    | [] => []
    | item :: rest => (if isFirst then [] else [',']) ++ item.write ++ writeItems false rest
  /-- This function writes members with a comma before each but the first. -/
  writeMembers (isFirst : Bool) : List (String × Value) → List Char
    | [] => []
    | (key, item) :: rest =>
      (if isFirst then [] else [',']) ++ writeString key ++ ':' :: item.write ++
        writeMembers false rest

def Value.text (value : Value) : String := String.ofList value.write

end Json

end ConfinedHttp

import ConfinedHttp.Error
import ConfinedHttp.Multidict
import ConfinedHttp.Multidict.HeaderTable

/-!
Headers as they go over the wire: names in small letters, and all values of a name together.
-/

namespace ConfinedHttp

/-- Headers grouped by name, each group at the place of its first header. -/
structure HeaderMap where
  entries : List (String × Bytes)
deriving DecidableEq, Repr

/-- Why headers cannot be sent: there are more than fit, or one of them is not valid. -/
inductive HeaderFailure where
  | tooMany
  | invalid (name : String)
deriving DecidableEq, Repr

namespace HeaderMap

def empty : HeaderMap := ⟨[]⟩

/-- The characters of a header name. -/
def isNameCharacter (character : Char) : Bool :=
  character.isAlphanum || "!#$%&'*+-.^_`|~".toList.contains character

/-- The greatest length of a header name. -/
def greatestName : Nat := 65535

/-- This function gives the form of a header name on the wire. -/
def wireName? (name : String) : Option String :=
  if !name.isEmpty && name.toList.all isNameCharacter && name.length ≤ greatestName then
    some (Ascii.lower name)
  else none

/-- A value may hold a tab and every byte that is not a control. -/
def isValueByte (byte : UInt8) : Bool := byte == 0x09 || (0x20 ≤ byte && byte != 0x7F)

/-- This function adds an entry behind the last one of its name, or at the end. -/
def insert (name : String) (value : Bytes) : List (String × Bytes) → List (String × Bytes)
  | [] => [(name, value)]
  | entry :: rest =>
    if entry.1 = name then
      entry :: rest.takeWhile (·.1 = name) ++ (name, value) :: rest.dropWhile (·.1 = name)
    else entry :: insert name value rest

/-- This function adds a header with a valid name and a valid value. -/
def append? (headers : HeaderMap) (name : String) (value : Bytes) : Option HeaderMap := do
  let wire ← wireName? name
  if value.all isValueByte then some ⟨insert wire value headers.entries⟩ else none

/-- This function adds headers one after another up to the first that is not valid or that finds no room
in the table.  A header is checked before there is room for it. -/
def appendAll (hash : String → Nat) (table : HeaderTable) (headers : HeaderMap) :
    List (String × String) → Except HeaderFailure HeaderMap
  | [] => .ok headers
  | pair :: rest =>
    match headers.append? pair.1 (textBytes pair.2) with
    | none => .error (.invalid pair.1)
    | some longer =>
      let name := Ascii.lower pair.1
      match table.take? (hash name) (headers.entries.any (·.1 = name)) with
      | none => .error .tooMany
      | some next => appendAll hash next longer rest

end HeaderMap

namespace Multidict

/-- This function turns headers into the form on the wire.  They are gathered in a table that is made for
their number, and `hash` tells where a name belongs in it. -/
def toHeaderMap (hash : String → Nat) (dict : Multidict) : Except HeaderFailure HeaderMap :=
  match HeaderTable.make? dict.size with
  | none => .error .tooMany
  | some table => HeaderMap.empty.appendAll hash table dict.pairs

/-- This function reads headers from the wire.  What is not text in a value is replaced. -/
def ofHeaderMap (headers : HeaderMap) : Multidict :=
  ⟨headers.entries.map fun entry => (entry.1, lossyText entry.2)⟩

end Multidict

end ConfinedHttp

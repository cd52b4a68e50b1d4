import ConfinedHttp.Form
import ConfinedHttp.Text.Outline

/-!
Ordered pairs of texts in which a key may stand more than once.  They hold query parameters,
headers and form fields.
-/

namespace ConfinedHttp

/-- Pairs of a key and a value, in the order in which they were added. -/
structure Multidict where
  pairs : List (String × String)
deriving DecidableEq, Repr

namespace Multidict

def empty : Multidict := ⟨[]⟩

def size (dict : Multidict) : Nat := dict.pairs.length

def isEmpty (dict : Multidict) : Bool := dict.pairs.isEmpty

/-- This function adds a pair at the end. -/
def add (dict : Multidict) (key value : String) : Multidict := ⟨dict.pairs ++ [(key, value)]⟩

/-- This function adds pairs at the end. -/
def extend (dict : Multidict) (pairs : List (String × String)) : Multidict := ⟨dict.pairs ++ pairs⟩

/-- This function replaces the first pair with the key and drops the later ones. -/
def setPairs (key value : String) : List (String × String) → List (String × String)
  | [] => [(key, value)]
  | pair :: rest =>
    if pair.1 = key then (key, value) :: rest.filter (·.1 ≠ key)
    else pair :: setPairs key value rest

/-- This function makes a value the only one of its key.  It keeps the place of the first pair with
the key, or goes to the end. -/
def set (dict : Multidict) (key value : String) : Multidict := ⟨setPairs key value dict.pairs⟩

/-- This function gives every value of a key, in order. -/
def getAll (dict : Multidict) (key : String) : List String :=
  (dict.pairs.filter (·.1 = key)).map (·.2)

/-- This function parts the values of a key from the pairs with other keys. -/
def removePairs (key : String) : List (String × String) → List String × List (String × String)
  | [] => ([], [])
  | pair :: rest =>
    let (removed, kept) := removePairs key rest
    if pair.1 = key then (pair.2 :: removed, kept) else (removed, pair :: kept)

/-- This function removes every pair with a key and gives the values that it removed, in order. -/
def remove (dict : Multidict) (key : String) : List String × Multidict :=
  let (removed, kept) := removePairs key dict.pairs
  (removed, ⟨kept⟩)

/-- This function removes every pair whose key is the same name. -/
def eraseName (dict : Multidict) (name : String) : Multidict :=
  ⟨dict.pairs.filter fun pair => !Ascii.sameName pair.1 name⟩

/-- This function gives the first value of a key. -/
def get? (dict : Multidict) (key : String) : Option String :=
  (dict.pairs.find? (·.1 = key)).map (·.2)

/-- This function gives the first value whose key is the same name. -/
def getName? (dict : Multidict) (name : String) : Option String :=
  (dict.pairs.find? fun pair => Ascii.sameName pair.1 name).map (·.2)

def contains (dict : Multidict) (key : String) : Bool := dict.pairs.any (·.1 = key)

/-- This function writes the pairs as a form sends them. -/
def queryString (dict : Multidict) : String := String.ofList (Form.encode dict.pairs)

def outline (dict : Multidict) : Outline :=
  .record "Multidict"
    [.field "pairs" (.list (dict.pairs.map fun pair =>
      .tuple "" [.ofText pair.1, .ofText pair.2]))] false

end Multidict

end ConfinedHttp

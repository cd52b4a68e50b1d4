import ConfinedHttp.Error
import ConfinedHttp.Url.Join

/-!
The prefix below which an add-on may send requests.
-/

namespace ConfinedHttp

/-- A URL that ends in a slash and has no query and no fragment. -/
structure Prefix where
  url : Url
deriving DecidableEq, Repr

namespace Prefix

/-- This function reads a prefix.  A path that does not end in a slash is read again with one behind it.
The field names the input in errors. -/
def parse (field raw : String) : Except InputError Prefix :=
  match Url.parse raw with
  | .error cause => .error (.badUrl field cause)
  | .ok url =>
    if url.isRootless || url.query.isSome || url.fragment.isSome then
      .error (.unusableBase field raw)
    else
      let path := url.path.write
      .ok ⟨if path.getLast? = some '/' then url else url.setPath (path ++ ['/'])⟩

/-- The kinds of references that are told apart before one is resolved. -/
inductive ReferenceKind where
  | foreign
  | rooted
  | relative
deriving DecidableEq, Repr

/-- Controls and spaces at the start of a reference do not count, nor do tabs and line breaks. -/
def bare (path : List Char) : List Char :=
  (path.dropWhile fun character => character ≤ ' ' || character == '\x7f').filter fun character =>
    !(character == '\t' || character == '\n' || character == '\r')

/-- A reference has a scheme when a letter and further scheme characters stand before its first
colon. -/
def hasScheme (text : List Char) : Bool :=
  match text.takeWhile (· != ':') with
  | [] => false
  | first :: rest => text.contains ':' && first.isAlpha && rest.all isSchemeCharacter

/-- A reference with a scheme or with two equal slashes names another place.  One with a slash
starts at the root. -/
def classify (path : List Char) : ReferenceKind :=
  let text := bare path
  if hasScheme text || ['/', '/'].isPrefixOf text || ['\\', '\\'].isPrefixOf text then .foreign
  else if text.head? = some '/' ∨ text.head? = some '\\' then .rooted
  else .relative

/-- This function resolves a path below the prefix.  The result must still start with the text of
the prefix. -/
def resolve (confines : Prefix) (path : String) : Except Violation Url :=
  match classify path.toList with
  | .foreign => .error (.foreignOrigin path)
  | .rooted => .error (.absolutePath path)
  | .relative =>
    match confines.url.join path with
    | .error _ => .error (.escapesPrefix path)
    | .ok url =>
      if confines.url.write.isPrefixOf url.write then .ok url else .error (.escapesPrefix path)

end Prefix

end ConfinedHttp

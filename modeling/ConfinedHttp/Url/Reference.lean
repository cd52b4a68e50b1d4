import ConfinedHttp.Url.Parse

/-!
References.  A reference names a URL in full or relative to another one.
-/

namespace ConfinedHttp

/-- What a reference without a scheme names.  A network reference keeps the slashes at its start, a
rooted path is held without its slash, and a query or a fragment keeps its mark. -/
inductive RelativeReference where
  | same
  | query (text : List Char)
  | fragment (text : List Char)
  | network (text : List Char)
  | rooted (text : List Char)
  | path (text : List Char)
deriving DecidableEq, Repr

/-- A reference either has a scheme, with any text behind the colon, or is relative. -/
inductive Reference where
  | absolute (scheme : String) (rest : List Char)
  | relative (reference : RelativeReference)
deriving DecidableEq, Repr

/-- A backslash counts as a slash at the start of every reference. -/
def isReferenceSlash (character : Char) : Bool := character == '/' || character == '\\'

/-- This function tells by the first two characters what a reference without a scheme names. -/
def RelativeReference.read (text : List Char) : RelativeReference :=
  match text with
  | [] => same
  | '?' :: _ => query text
  | '#' :: _ => fragment text
  | first :: rest =>
    if isReferenceSlash first then
      if rest.head?.any isReferenceSlash then network text else rooted rest
    else path text

/-- This function reads a reference as a URL parser sees it. -/
def Reference.read (reference : String) : Reference :=
  let text := Url.clean reference.toList
  match readScheme? text with
  | some (scheme, rest) => absolute scheme rest
  | none => relative (RelativeReference.read text)

end ConfinedHttp

import ConfinedHttp.Text.Ascii

/-!
Schemes.  The special ones have rules of their own for slashes, hosts and default ports.
-/

namespace ConfinedHttp

/-- The groups of schemes that are read alike. -/
inductive SchemeKind where
  | web (defaultPort : UInt16)
  | file
  | general
deriving DecidableEq, Repr

namespace SchemeKind

/-- This function finds the group of a scheme in small letters. -/
def of (scheme : String) : SchemeKind :=
  match scheme with
  | "http" | "ws" => web 80
  | "https" | "wss" => web 443
  | "ftp" => web 21
  | "file" => file
  | _ => general

def isSpecial (kind : SchemeKind) : Bool := kind != general

/-- With a special scheme a backslash separates like a slash. -/
def isSlash (kind : SchemeKind) (character : Char) : Bool :=
  character == '/' || (character == '\\' && kind.isSpecial)

/-- This function tests for a character that ends the authority. -/
def endsAuthority (kind : SchemeKind) (character : Char) : Bool :=
  kind.isSlash character || character == '?' || character == '#'

end SchemeKind

/-- This function tests whether a character may stand in a scheme behind its first letter. -/
def isSchemeCharacter (character : Char) : Bool :=
  character.isAlphanum || character == '+' || character == '-' || character == '.'

/-- A scheme is a letter and further scheme characters up to a colon.  This function returns it in
small letters with the text behind the colon. -/
def readScheme? (text : List Char) : Option (String × List Char) :=
  match text with
  | [] => none
  | first :: _ =>
    if first.isAlpha then
      match text.dropWhile isSchemeCharacter with
      | ':' :: rest =>
        some (String.ofList ((text.takeWhile isSchemeCharacter).map Char.toLower), rest)
      | _ => none
    else none

end ConfinedHttp

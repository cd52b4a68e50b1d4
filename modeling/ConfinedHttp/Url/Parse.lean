import ConfinedHttp.Text.Blank
import ConfinedHttp.Url.Basic
import ConfinedHttp.Url.Segments

/-!
Reading a URL from text.
-/

namespace ConfinedHttp.Url

/-- Controls and spaces around a URL do not belong to it, nor do tabs and line breaks inside. -/
def clean (text : List Char) : List Char :=
  (trimEnds (· ≤ ' ') text).filter fun character =>
    !(character == '\t' || character == '\n' || character == '\r')

/-- This function tests for a character that ends the path. -/
def endsPath (character : Char) : Bool := character == '?' || character == '#'

/-- This function reads what stands behind the mark of a fragment. -/
def readFragment (text : List Char) : Option String :=
  match text with
  | '#' :: rest => some (Percent.encodeText Percent.inFragment rest)
  | _ => none

/-- This function reads what stands behind the mark of a query, up to the fragment. -/
def readQuery (kind : SchemeKind) (text : List Char) : Option String :=
  match text with
  | '?' :: rest =>
    let escaped := if kind.isSpecial then Percent.inSpecialQuery else Percent.inQuery
    some (Percent.encodeText escaped (rest.takeWhile (· != '#')))
  | _ => none

/-- This function completes a URL with the query and the fragment at the start of a text. -/
def withTail (kind : SchemeKind) (url : Url) (text : List Char) : Url :=
  { url with
    query := readQuery kind text
    fragment := readFragment (text.dropWhile (· != '#')) }

/-- This function completes a URL with a path, a query and a fragment.  The path is read from a
stack of segments on. -/
def withPath (kind : SchemeKind) (url : Url) (stack : List String) (text : List Char) : Url :=
  withTail kind
    { url with path := .rooted (Segments.read kind stack (text.takeWhile (!endsPath ·))) }
    (text.dropWhile (!endsPath ·))

/-- This function replaces the path of a URL with a root.  The new path is read from a text, in which the
marks of a query and a fragment mean nothing.  Only with a general scheme the path may be empty. -/
def setPath (url : Url) (text : List Char) : Url :=
  let kind := SchemeKind.of url.scheme
  match text with
  | [] => { url with path := .rooted (if kind.isSpecial then Segments.read kind [] [] else []) }
  | first :: rest =>
    { url with
      path := .rooted (Segments.read kind [] (if kind.isSlash first then rest else text)) }

/-- The user name ends at the first colon.  A colon with nothing behind it opens no password. -/
def splitUser (user : List Char) : String × Option String :=
  let name := user.takeWhile (· != ':')
  let password := (user.dropWhile (· != ':')).drop 1
  (Percent.encodeText Percent.inUserinfo name,
    if password.isEmpty then none else some (Percent.encodeText Percent.inUserinfo password))

/-- This function reads the user name and the password up to the last at sign of the authority, and
returns the text behind it.  A lone at sign needs a host behind it. -/
def readUser (kind : SchemeKind) (text : List Char) :
    Except UrlError ((String × Option String) × List Char) :=
  let authority := text.takeWhile (!kind.endsAuthority ·)
  let after := text.dropWhile (!kind.endsAuthority ·)
  if authority.contains '@' then
    let host := (authority.reverse.takeWhile (· != '@')).reverse
    let user := authority.take (authority.length - host.length - 1)
    if user.isEmpty && host.isEmpty && !after.isEmpty then .error .emptyHost
    else .ok (splitUser user, host ++ after)
  else .ok (("", none), text)

/-- This function cuts a text behind the host.  A colon inside brackets belongs to the host. -/
def splitHost (kind : SchemeKind) (inBrackets : Bool) : List Char → List Char × List Char
  | [] => ([], [])
  | character :: rest =>
    if (character == ':' && !inBrackets) || kind.endsAuthority character then
      ([], character :: rest)
    else
      let (host, after) :=
        splitHost kind (character == '[' || (inBrackets && character != ']')) rest
      (character :: host, after)

/-- This function reads a host of a scheme other than `file` and returns the text behind it.  Only
a general scheme allows no host, and then no port either. -/
def readHost (kind : SchemeKind) (text : List Char) : Except UrlError (Host × List Char) := do
  let (written, after) := splitHost kind false text
  let host ←
    if kind.isSpecial then
      if written.isEmpty then .error .emptyHost else Host.readSpecial written
    else Host.readGeneral written
  if host = .empty ∧ after.head? = some ':' then .error .emptyHost else .ok (host, after)

/-- This function reads the digits of a port.  No digits and the default port stand for none. -/
def portOf (kind : SchemeKind) (digits : List Char) : Except UrlError (Option UInt16) :=
  let number := Ascii.numberOf 10 digits
  if number < UInt16.size then
    let port := UInt16.ofNat number
    .ok (if digits.isEmpty ∨ kind = .web port then none else some port)
  else .error .badPort

/-- This function reads a port and returns the text behind it. -/
def readPort (kind : SchemeKind) (text : List Char) :
    Except UrlError (Option UInt16 × List Char) :=
  match text with
  | ':' :: rest =>
    let after := rest.dropWhile Char.isDigit
    if after.head?.all fun next => next == '/' || next == '\\' || endsPath next then do
      return (← portOf kind (rest.takeWhile Char.isDigit), after)
    else .error .badPort
  | _ => .ok (none, text)

/-- This function reads the path behind an authority.  With a special scheme the path is never
empty. -/
def withPathBehindAuthority (kind : SchemeKind) (url : Url) (text : List Char) : Url :=
  match text with
  | [] => if kind.isSpecial then withPath kind url [] [] else url
  | next :: rest =>
    if kind.isSlash next then withPath kind url [] rest
    else if kind.isSpecial || !endsPath next then withPath kind url [] text
    else withTail kind url text

/-- This function reads a URL from its authority on. -/
def readAuthority (scheme : String) (text : List Char) : Except UrlError Url := do
  let kind := SchemeKind.of scheme
  let ((username, password), behindUser) ← readUser kind text
  let (host, behindHost) ← readHost kind behindUser
  let (port, behindPort) ← readPort kind behindHost
  if host = .empty ∧ (username ≠ "" ∨ password ≠ none) then .error .emptyHost
  else
    let authority : Authority := ⟨username, password, host, port⟩
    .ok (withPathBehindAuthority kind ⟨scheme, some authority, .rooted [], none, none⟩ behindPort)

/-- A file URL starts from the root of this machine. -/
def localFile : Url := ⟨"file", some ⟨"", none, .empty, none⟩, .rooted [], none, none⟩

/-- This function names the machine of a file.  A machine that the name of this one refers to is
left out. -/
def onHost (host : Host) : Url :=
  { localFile with
    authority := some ⟨"", none, if host = .name "localhost" then .empty else host, none⟩ }

/-- A path with a drive letter belongs to this machine. -/
def withoutHostOfDrive (url : Url) : Url :=
  if url.path.segments.any fun segment => Segments.isDrive segment.toList then
    { url with authority := localFile.authority }
  else url

/-- This function reads a file URL behind two slashes.  A drive letter in the place of the host
belongs to the path. -/
def readFileHost (text : List Char) : Except UrlError Url :=
  let written := text.takeWhile (!SchemeKind.file.endsAuthority ·)
  let after := text.dropWhile (!SchemeKind.file.endsAuthority ·)
  if Segments.isDrive written then .ok (withPath .file localFile [] text)
  else if written.isEmpty then .ok (withPathBehindAuthority .file localFile after)
  else do
    let host ← Host.readSpecial written
    .ok (withoutHostOfDrive (withPathBehindAuthority .file (onHost host) after))

/-- This function reads a file URL behind the scheme. -/
def readFile (text : List Char) : Except UrlError Url :=
  match text with
  | first :: second :: rest =>
    if SchemeKind.file.isSlash first then
      if SchemeKind.file.isSlash second then readFileHost rest
      else .ok (withPath .file localFile [] (second :: rest))
    else .ok (withPath .file localFile [] text)
  | [first] => .ok (withPath .file localFile [] (if SchemeKind.file.isSlash first then [] else text))
  | [] => .ok (withPath .file localFile [] [])

/-- This function reads a URL with a general scheme behind the scheme. -/
def readGeneral (scheme : String) (text : List Char) : Except UrlError Url :=
  let bare : Url := ⟨scheme, none, .rooted [], none, none⟩
  match text with
  | '/' :: '/' :: rest => readAuthority scheme rest
  | '/' :: rest => .ok (withPath .general bare [] rest)
  | _ =>
    let path := Percent.encodeText Percent.isControl (text.takeWhile (!endsPath ·))
    .ok (withTail .general { bare with path := .rootless path } (text.dropWhile (!endsPath ·)))

/-- This function reads a URL behind the scheme.  With a special scheme any slashes may stand
before the authority. -/
def readBehindScheme (scheme : String) (text : List Char) : Except UrlError Url :=
  match SchemeKind.of scheme with
  | .web port => readAuthority scheme (text.dropWhile (SchemeKind.web port).isSlash)
  | .file => readFile text
  | .general => readGeneral scheme text

/-- This function reads a URL. -/
def parse (text : String) : Except UrlError Url :=
  match readScheme? (clean text.toList) with
  | some (scheme, rest) => readBehindScheme scheme rest
  | none => .error .relativeWithoutBase

end ConfinedHttp.Url

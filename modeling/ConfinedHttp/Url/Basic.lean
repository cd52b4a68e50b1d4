import ConfinedHttp.Host

/-!
URLs in parts, and their text.  Each part holds the text that stands in the URL, so writing only
puts the marks between the parts.
-/

namespace ConfinedHttp

/-- The part of a URL between the two slashes and the path. -/
structure Authority where
  username : String
  password : Option String
  host : Host
  port : Option UInt16
deriving DecidableEq, Repr

/-- A path either has no root, and then its text is left alone, or is a list of segments below the
root. -/
inductive Path where
  | rootless (text : String)
  | rooted (segments : List String)
deriving DecidableEq, Repr

structure Url where
  scheme : String
  authority : Option Authority
  path : Path
  query : Option String
  fragment : Option String
deriving DecidableEq, Repr

namespace Authority

/-- This function writes the user name and the password, unless both are missing. -/
def writeUser (authority : Authority) : List Char :=
  match authority.password with
  | some password => authority.username.toList ++ ':' :: password.toList ++ ['@']
  | none => if authority.username.isEmpty then [] else authority.username.toList ++ ['@']

def writePort (authority : Authority) : List Char :=
  match authority.port with
  | some port => ':' :: Ascii.decimal port.toNat
  | none => []

def write (authority : Authority) : List Char :=
  authority.writeUser ++ authority.host.write ++ authority.writePort

end Authority

namespace Path

/-- This function writes a slash before each segment. -/
def write : Path → List Char
  | rootless text => text.toList
  | rooted segments => segments.flatMap fun segment => '/' :: segment.toList

/-- This function gives the segments.  A path without a root has none. -/
def segments : Path → List String
  | rootless _ => []
  | rooted segments => segments

end Path

namespace Url

/-- This function writes the authority behind two slashes.  Without an authority, a path that
starts with two slashes is kept apart by a dot segment. -/
def writeAuthority (url : Url) : List Char :=
  match url.authority with
  | some authority => '/' :: '/' :: authority.write
  | none => if ['/', '/'].isPrefixOf url.path.write then ['/', '.'] else []

/-- This function writes a part behind its mark if there is one. -/
def writeMarked (mark : Char) : Option String → List Char
  | some text => mark :: text.toList
  | none => []

/-- This function writes a URL as characters. -/
def write (url : Url) : List Char :=
  url.scheme.toList ++ ':' :: url.writeAuthority ++ url.path.write ++
    writeMarked '?' url.query ++ writeMarked '#' url.fragment

/-- This function gives the text of a URL. -/
def text (url : Url) : String := String.ofList url.write

/-- A URL whose path has no root cannot carry references. -/
def isRootless (url : Url) : Bool :=
  match url.path with
  | .rootless _ => true
  | .rooted _ => false

end Url

end ConfinedHttp

import ConfinedHttp.Url.Reference

/-!
Resolving a reference against a URL.
-/

namespace ConfinedHttp.Url

/-- This function removes the last segment of the base path, but never the drive of a file. -/
def parentSegments (base : Url) : List String :=
  let segments := base.path.segments
  if base.scheme = "file" ∧ segments.getLast?.any fun last => Segments.isNormalDrive last.toList then
    segments
  else segments.dropLast

/-- This function reads a path below the parent of the base path.  A file path with a drive starts
from the root of this machine. -/
def joinPath (base : Url) (text : List Char) : Url :=
  if base.scheme = "file" ∧ Segments.startsWithDrive text then withPath .file localFile [] text
  else withPath (SchemeKind.of base.scheme) base base.parentSegments text

/-- This function gives the drive of a file, which is the first segment of its path. -/
def drive? (base : Url) : Option String :=
  base.path.segments.head?.filter fun first => Segments.isNormalDrive first.toList

/-- This function reads a rooted path.  The drive of a file is kept unless the path names one. -/
def joinRoot (base : Url) (text : List Char) : Url :=
  if base.scheme = "file" then
    if Segments.startsWithDrive text then withPath .file localFile [] text
    else
      match base.drive? with
      | some drive => withPath .file localFile [drive] text
      | none => withPath .file base [] text
  else withPath (SchemeKind.of base.scheme) base [] text

/-- This function reads an authority behind slashes.  Two plain slashes are taken as they are, so
that more may follow.  Otherwise all slashes are left out. -/
def joinNetwork (base : Url) (text : List Char) : Except UrlError Url :=
  if base.scheme = "file" then readFileHost (text.drop 2)
  else
    match text with
    | '/' :: '/' :: rest => readAuthority base.scheme rest
    | _ => readAuthority base.scheme (text.dropWhile isReferenceSlash)

/-- This function replaces what a relative reference names and all that stands behind it. -/
def joinRelative (base : Url) : RelativeReference → Except UrlError Url
  | .same => .ok { base with fragment := none }
  | .query text => .ok (withTail (SchemeKind.of base.scheme) base text)
  | .fragment text => .ok { base with fragment := readFragment text }
  | .network text => base.joinNetwork text
  | .rooted text => .ok (base.joinRoot text)
  | .path text => .ok (base.joinPath text)

/-- This function reads a reference with a scheme.  A web or file reference with the scheme of the
base continues the base, unless two slashes stand behind the scheme of the web. -/
def joinAbsolute (base : Url) (scheme : String) (text : List Char) : Except UrlError Url :=
  let continued := base.joinRelative (RelativeReference.read text)
  match SchemeKind.of scheme with
  | .web _ =>
    if scheme = base.scheme ∧ (text.takeWhile isReferenceSlash).length < 2 then continued
    else readBehindScheme scheme text
  | .file => if base.scheme = "file" then continued else readFile text
  | .general => readGeneral scheme text

/-- This function resolves a reference.  Against a URL whose path has no root, only a fragment can
be resolved. -/
def join (base : Url) (reference : String) : Except UrlError Url :=
  match Reference.read reference with
  | .absolute scheme rest => base.joinAbsolute scheme rest
  | .relative (.fragment text) => base.joinRelative (.fragment text)
  | .relative reference =>
    if base.isRootless then .error .relativeToRootless else base.joinRelative reference

end ConfinedHttp.Url

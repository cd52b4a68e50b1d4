import ConfinedHttp.Text.Percent
import ConfinedHttp.Text.Split
import ConfinedHttp.Url.Scheme

/-!
The segments of a path.  Segments are put on a stack, and dot segments skip or remove.
-/

namespace ConfinedHttp.Segments

/-- The written forms of a segment that names the place itself. -/
def isDot (segment : List Char) : Bool :=
  segment = ['.'] || segment.map Char.toLower = ['%', '2', 'e']

/-- The written forms of a segment that names the place above. -/
def isDoubleDot (segment : List Char) : Bool :=
  let folded := segment.map Char.toLower
  folded = ['.', '.'] || folded = ['.', '%', '2', 'e'] || folded = ['%', '2', 'e', '.'] ||
    folded = ['%', '2', 'e', '%', '2', 'e']

/-- A drive letter is a letter with a colon or a bar. -/
def isDrive (segment : List Char) : Bool :=
  match segment with
  | [letter, mark] => letter.isAlpha && (mark == ':' || mark == '|')
  | _ => false

/-- A drive letter in its normal form has a colon. -/
def isNormalDrive (segment : List Char) : Bool := isDrive segment && segment.getLast? = some ':'

/-- This function tests whether a text starts with a drive letter that fills a segment. -/
def startsWithDrive (text : List Char) : Bool :=
  isDrive (text.take 2) &&
    (text.drop 2).head?.all fun next =>
      next == '/' || next == '\\' || next == '?' || next == '#'

/-- This function removes the last segment, but never a drive letter. -/
def pop (stack : List String) : List String :=
  if stack.getLast?.any fun last => isDrive last.toList then stack else stack.dropLast

/-- This function escapes a segment.  A file path writes drive letters in their normal form. -/
def escape (kind : SchemeKind) (segment : List Char) : String :=
  match kind, segment with
  | .file, [letter, mark] =>
    if isDrive [letter, mark] then String.ofList [letter, ':']
    else Percent.encodeText Percent.inPath segment
  | _, _ => Percent.encodeText Percent.inPath segment

/-- This function puts the written segments on a stack one after another.  A dot segment at the
end leaves an empty last segment. -/
def walk (kind : SchemeKind) (stack : List String) : List (List Char) → List String
  | [] => stack
  | segment :: rest =>
    let close (stack : List String) : List String :=
      if rest.isEmpty then stack ++ [""] else stack
    if isDoubleDot segment then walk kind (close (pop stack)) rest
    else if isDot segment then walk kind (close stack) rest
    else walk kind (stack ++ [escape kind segment]) rest

/-- A file path has no empty segments at its start, unless it is empty altogether. -/
def withoutLeadingEmpty (segments : List String) : List String :=
  match segments.dropWhile String.isEmpty with
  | [] => [""]
  | rest => rest

/-- This function reads the text of a path from a stack of segments on. -/
def read (kind : SchemeKind) (stack : List String) (text : List Char) : List String :=
  let segments := walk kind stack (splitAt kind.isSlash text)
  if kind = .file then withoutLeadingEmpty segments else segments

end ConfinedHttp.Segments

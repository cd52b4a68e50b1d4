/-!
Why a JSON text could not be read, and where in the document.
-/

namespace ConfinedHttp.Json

/-- A text may end too early, break the grammar, or hold a value that does not suit. -/
inductive Category where
  | endOfText
  | malformed
  | unsuitable
deriving DecidableEq, Repr

/-- One step from a value into a value inside it.  The last kind of step leads to a member whose
key is not known yet. -/
inductive Step where
  | item (index : Nat)
  | member (key : String)
  | unknown
deriving DecidableEq, Repr

/-- The reason why reading failed and the steps to the value where it did. -/
structure Failure where
  category : Category
  path : List Step
deriving DecidableEq, Repr

namespace Failure

/-- This function moves a failure one step further inside. -/
def inside (step : Step) (failure : Failure) : Failure :=
  { failure with path := step :: failure.path }

/-- This function writes a path behind the text of the steps before it.  Only keys have a point
before them. -/
def writePath (isFirst : Bool) : List Step → String
  | [] => ""
  | .item index :: rest => "[" ++ toString index ++ "]" ++ writePath false rest
  | .member key :: rest => (if isFirst then "" else ".") ++ key ++ writePath false rest
  | .unknown :: rest => (if isFirst then "" else ".") ++ "?" ++ writePath false rest

/-- The whole document has a point for its path. -/
def pathText (failure : Failure) : String :=
  if failure.path.isEmpty then "." else writePath true failure.path

end Failure

end ConfinedHttp.Json

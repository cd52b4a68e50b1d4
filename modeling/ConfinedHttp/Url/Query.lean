import ConfinedHttp.Form
import ConfinedHttp.Url.Basic

/-!
The query of a URL as pairs.
-/

namespace ConfinedHttp.Url

/-- This function adds pairs behind the query that a URL has already. -/
def appendPairs (url : Url) (pairs : List (String × String)) : Url :=
  let before := match url.query with
    | some query => if query.isEmpty then [] else query.toList ++ ['&']
    | none => []
  { url with query := some (String.ofList (before ++ Form.encode pairs)) }

/-- This function reads the query as pairs. -/
def queryPairs (url : Url) : List (String × String) :=
  Form.decode (textBytes (url.query.getD ""))

end ConfinedHttp.Url

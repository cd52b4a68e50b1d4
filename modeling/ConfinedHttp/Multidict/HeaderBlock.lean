import ConfinedHttp.Multidict

/-!
Headers as lines of text.  A line break inside a value is folded, so that what follows it does not
start a header of its own.
-/

namespace ConfinedHttp.Multidict

/-- A fold ends the line and starts the next one with a blank. -/
def fold : List Char := ['\r', '\n', ' ']

/-- This function puts a fold in the place of every line break of a value, apart from one at its
end. -/
def foldValue (value : String) : List Char := fold.intercalate (lines (unifyBreaks value.toList))

/-- This function writes one header and ends its line. -/
def headerLine (pair : String × String) : List Char :=
  pair.1.toList ++ ':' :: ' ' :: foldValue pair.2 ++ ['\r', '\n']

/-- An empty line ends the headers. -/
def headerBlock (dict : Multidict) : Bytes :=
  Utf8.encode (dict.pairs.flatMap headerLine ++ ['\r', '\n'])

end ConfinedHttp.Multidict

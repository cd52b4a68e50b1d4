/-!
Splitting text at separators and into lines.
-/

namespace ConfinedHttp

/-- This function cuts a list at every separator.  It always returns at least one piece. -/
def splitAt {α : Type} (separates : α → Bool) : List α → List (List α)
  | [] => [[]]
  | item :: rest =>
    if separates item then [] :: splitAt separates rest
    else
      match splitAt separates rest with
      | [] => [[item]]
      | first :: others => (item :: first) :: others

/-- This function turns every line break, written in any of the three ways, into a line feed. -/
def unifyBreaks : List Char → List Char
  | [] => []
  | '\r' :: '\n' :: rest => '\n' :: unifyBreaks rest
  | '\r' :: rest => '\n' :: unifyBreaks rest
  | other :: rest => other :: unifyBreaks rest

/-- A line feed ends a line, so a final one opens no empty line. -/
def lines (text : List Char) : List (List Char) :=
  let pieces := splitAt (· == '\n') text
  if pieces.getLast? = some [] then pieces.dropLast else pieces

end ConfinedHttp

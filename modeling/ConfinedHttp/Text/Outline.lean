import ConfinedHttp.Text.Quoted
import ConfinedHttp.Text.Split

/-!
The outline of a value: what it is made of, for people who read a log.  It is written in one line,
or with one line for each part.
-/

namespace ConfinedHttp

/-- The outline of a value.  A mark is text before a part, and a record that is open has parts that
are not shown. -/
inductive Outline where
  | atom (text : String)
  | marked (mark : String) (item : Outline)
  | tuple (name : String) (items : List Outline)
  | record (name : String) (fields : List Outline) (isOpen : Bool)
  | list (items : List Outline)
  | set (items : List Outline)

namespace Outline

/-- The outline of a text shows the text in quotes. -/
def ofText (text : String) : Outline := atom (quoted text)

/-- The outline of a part with its name. -/
def field (name : String) (item : Outline) : Outline := marked (name ++ ": ") item

def ofNat (value : Nat) : Outline := atom (toString value)

/-- The outline of a value that may be missing. -/
def ofOption {α : Type} (outline : α → Outline) : Option α → Outline
  | some value => tuple "Some" [outline value]
  | none => atom "None"

/-- This function puts a comma and a blank between parts. -/
def commas (parts : List String) : String := ", ".intercalate parts

/-- This function adds the sign for the parts that are not shown. -/
def withRest (isOpen : Bool) (parts : List String) : List String :=
  if isOpen then parts ++ [".."] else parts

mutual

/-- This function writes an outline in one line. -/
def compact : Outline → String
  | atom text => text
  | marked mark item => mark ++ item.compact
  | tuple name items =>
    if items.isEmpty then name else name ++ "(" ++ commas (compactEach items) ++ ")"
  | record name fields isOpen =>
    let parts := withRest isOpen (compactEach fields)
    if parts.isEmpty then name else name ++ " \x7b " ++ commas parts ++ " \x7d"
  | list items => "[" ++ commas (compactEach items) ++ "]"
  | set items => "\x7b" ++ commas (compactEach items) ++ "\x7d"

/-- This function writes each outline in one line. -/
def compactEach : List Outline → List String
  | [] => []
  | item :: rest => item.compact :: compactEach rest

end

/-- This function moves every line of a text to the right. -/
def indent (text : String) : String :=
  String.ofList
    (['\n'].intercalate ((splitAt (· == '\n') text.toList).map ("    ".toList ++ ·)))

/-- This function writes each part on lines of its own between two brackets. -/
def block (opening closing : String) (parts : List String) : String :=
  if parts.isEmpty then opening ++ closing
  else opening ++ "\n" ++ String.join (parts.map fun part => indent part ++ "\n") ++ closing

mutual

/-- This function writes an outline with one line for each part. -/
def pretty : Outline → String
  | atom text => text
  | marked mark item => mark ++ item.pretty
  | tuple name items => if items.isEmpty then name else block (name ++ "(") ")" (prettyEach items)
  | record name fields isOpen =>
    if fields.isEmpty then if isOpen then name ++ " \x7b .. \x7d" else name
    else block (name ++ " \x7b") "\x7d" (withRest isOpen (prettyEach fields))
  | list items => block "[" "]" (prettyEach items)
  | set items => block "\x7b" "\x7d" (prettyEach items)

/-- This function writes each outline as a part with a comma behind it. -/
def prettyEach : List Outline → List String
  | [] => []
  | item :: rest => (item.pretty ++ ",") :: prettyEach rest

end

end Outline

end ConfinedHttp

import ConfinedHttp.Text.Printable

/-!
Text in quotes, as it stands inside the outline of a value.
-/

namespace ConfinedHttp

/-- This function writes a character by its code point. -/
def codePointEscape (character : Char) : List Char :=
  ['\\', 'u', '\x7b'] ++ Ascii.hexDigits character.toNat ++ ['\x7d']

/-- A quoted text escapes the quote, the backslash, and every character that does not print. -/
def quoteEscape (character : Char) : List Char :=
  if character = '"' then ['\\', '"']
  else if character = '\\' then ['\\', '\\']
  else if character = '\n' then ['\\', 'n']
  else if character = '\r' then ['\\', 'r']
  else if character = '\t' then ['\\', 't']
  else if character = '\x00' then ['\\', '0']
  else if isPrintable character then [character]
  else codePointEscape character

/-- This function writes a text in quotes. -/
def quoted (text : String) : String :=
  String.ofList ('"' :: text.toList.flatMap quoteEscape ++ ['"'])

end ConfinedHttp

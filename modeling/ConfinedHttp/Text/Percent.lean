import ConfinedHttp.Text.Ascii
import ConfinedHttp.Text.Utf8

/-!
Percent-encoding of bytes.  Which bytes are escaped depends on the part of the URL they stand in.
-/

namespace ConfinedHttp.Percent

/-- Control characters and all bytes past ASCII are escaped everywhere. -/
def isControl (byte : UInt8) : Bool := byte < 0x20 || 0x7E < byte

/-- This function tests whether an ASCII byte is one of the given characters. -/
def isOneOf (characters : String) (byte : UInt8) : Bool :=
  characters.toList.contains (Char.ofNat byte.toNat)

/-- The bytes escaped in a fragment. -/
def inFragment (byte : UInt8) : Bool := isControl byte || isOneOf " \"<>`" byte

/-- The bytes escaped in the query of a URL with a general scheme. -/
def inQuery (byte : UInt8) : Bool := isControl byte || isOneOf " \"#<>" byte

/-- The bytes escaped in the query of a URL with a special scheme. -/
def inSpecialQuery (byte : UInt8) : Bool := inQuery byte || isOneOf "'" byte

/-- The bytes escaped in a path segment. -/
def inPath (byte : UInt8) : Bool := inFragment byte || isOneOf "#?\x7b\x7d" byte

/-- The bytes escaped in a user name or a password. -/
def inUserinfo (byte : UInt8) : Bool := inPath byte || isOneOf "/:;=@[\\]^|" byte

/-- This function writes one byte as a percent sign and two upper-case digits. -/
def escape (byte : UInt8) : List Char :=
  ['%', Ascii.upperHexDigit (byte.toNat / 16), Ascii.upperHexDigit (byte.toNat % 16)]

/-- This function escapes the chosen bytes and keeps the others as characters. -/
def encode (escaped : UInt8 → Bool) (bytes : Bytes) : List Char :=
  bytes.flatMap fun byte =>
    if escaped byte then escape byte else [Char.ofNat byte.toNat]

/-- This function escapes the chosen bytes of a text. -/
def encodeText (escaped : UInt8 → Bool) (text : List Char) : String :=
  String.ofList (encode escaped (Utf8.encode text))

/-- A percent sign and two digits stand for one byte.  Every other byte stands for itself. -/
def decode : Bytes → Bytes
  | [] => []
  | 0x25 :: high :: low :: rest =>
    match Ascii.hexValue? (Char.ofNat high.toNat), Ascii.hexValue? (Char.ofNat low.toNat) with
    | some first, some second => UInt8.ofNat (first * 16 + second) :: decode rest
    | _, _ => 0x25 :: decode (high :: low :: rest)
  | byte :: rest => byte :: decode rest

end ConfinedHttp.Percent

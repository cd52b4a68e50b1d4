import ConfinedHttp.Text.Percent
import ConfinedHttp.Text.Split

/-!
Pairs of texts as a form sends them: a key and its value with an equals sign between them, and an
ampersand between pairs.
-/

namespace ConfinedHttp.Form

/-- The bytes that stand for themselves. -/
def isPlain (byte : UInt8) : Bool :=
  let character := Char.ofNat byte.toNat
  character.isAlphanum || Percent.isOneOf "*-._" byte

/-- A space becomes a plus sign, and every byte that is not plain is escaped. -/
def encodeByte (byte : UInt8) : List Char :=
  if isPlain byte then [Char.ofNat byte.toNat]
  else if byte = 0x20 then ['+']
  else Percent.escape byte

def encodeText (text : String) : List Char := (textBytes text).flatMap encodeByte

def encodePair (pair : String × String) : List Char :=
  encodeText pair.1 ++ '=' :: encodeText pair.2

/-- This function writes pairs in order. -/
def encode (pairs : List (String × String)) : List Char :=
  ['&'].intercalate (pairs.map encodePair)

/-- This function reads a key or a value.  Escapes that are not text are replaced. -/
def decodeText (bytes : Bytes) : String :=
  lossyText (Percent.decode (bytes.map fun byte => if byte = 0x2B then 0x20 else byte))

/-- This function reads a pair, which ends its key at the first equals sign. -/
def decodePair (bytes : Bytes) : String × String :=
  (decodeText (bytes.takeWhile (· != 0x3D)), decodeText ((bytes.dropWhile (· != 0x3D)).drop 1))

/-- This function reads pairs in order.  Nothing between two ampersands is no pair. -/
def decode (bytes : Bytes) : List (String × String) :=
  ((splitAt (· == 0x26) bytes).filter (!·.isEmpty)).map decodePair

end ConfinedHttp.Form

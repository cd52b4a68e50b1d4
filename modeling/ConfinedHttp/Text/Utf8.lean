/-!
UTF-8 as lists of bytes.  Writing is total; reading splits the bytes into scalar values and
malformed sequences, which a strict reader refuses and a lossy reader replaces.
-/

namespace ConfinedHttp

/-- A byte string. -/
abbrev Bytes := List UInt8

namespace Utf8

/-- This function writes each character as one to four bytes. -/
def encode (text : List Char) : Bytes := text.flatMap String.utf8EncodeChar

/-- A continuation byte has the form `10xxxxxx`. -/
def isContinuation (byte : UInt8) : Bool := 0x80 ≤ byte && byte ≤ 0xBF

/-- The second byte after `lead` excludes overlong forms, surrogates and values past the last
scalar value. -/
def isSecond (lead byte : UInt8) : Bool :=
  if lead = 0xE0 then 0xA0 ≤ byte && byte ≤ 0xBF
  else if lead = 0xED then 0x80 ≤ byte && byte ≤ 0x9F
  else if lead = 0xF0 then 0x90 ≤ byte && byte ≤ 0xBF
  else if lead = 0xF4 then 0x80 ≤ byte && byte ≤ 0x8F
  else isContinuation byte

/-- This function reads the sequence that `lead` opens.  It returns the character, or nothing for
a malformed sequence, and the number of further bytes the sequence takes.  A malformed sequence
takes the longest part that some well-formed sequence starts with. -/
def sequence (lead : UInt8) (rest : Bytes) : Option Char × Nat :=
  let bits (byte : UInt8) : Nat := byte.toNat % 64
  if lead < 0x80 then (some (Char.ofNat lead.toNat), 0)
  else if 0xC2 ≤ lead && lead ≤ 0xDF then
    match rest with
    | second :: _ =>
      if isContinuation second then (some (Char.ofNat (lead.toNat % 32 * 64 + bits second)), 1)
      else (none, 0)
    | [] => (none, 0)
  else if 0xE0 ≤ lead && lead ≤ 0xEF then
    match rest with
    | second :: third :: _ =>
      if isSecond lead second then
        if isContinuation third then
          (some (Char.ofNat ((lead.toNat % 16 * 64 + bits second) * 64 + bits third)), 2)
        else (none, 1)
      else (none, 0)
    | [second] => (none, if isSecond lead second then 1 else 0)
    | [] => (none, 0)
  else if 0xF0 ≤ lead && lead ≤ 0xF4 then
    match rest with
    | second :: third :: fourth :: _ =>
      if isSecond lead second then
        if isContinuation third then
          if isContinuation fourth then
            (some (Char.ofNat
              (((lead.toNat % 8 * 64 + bits second) * 64 + bits third) * 64 + bits fourth)), 3)
          else (none, 2)
        else (none, 1)
      else (none, 0)
    | [second, third] =>
      (none, if isSecond lead second then (if isContinuation third then 2 else 1) else 0)
    | [second] => (none, if isSecond lead second then 1 else 0)
    | [] => (none, 0)
  else (none, 0)

/-- This function splits bytes into characters and malformed sequences, in order. -/
def pieces : Bytes → List (Option Char)
  | [] => []
  | lead :: rest =>
    let piece := sequence lead rest
    piece.1 :: pieces (rest.drop piece.2)
termination_by bytes => bytes.length
decreasing_by simp only [List.length_drop, List.length_cons]; omega

/-- Strict reading fails on the first malformed sequence. -/
def decode? (bytes : Bytes) : Option (List Char) := (pieces bytes).mapM id

/-- Lossy reading puts one replacement character in the place of each malformed sequence. -/
def decodeLossy (bytes : Bytes) : List Char := (pieces bytes).map (·.getD '\uFFFD')

end Utf8

/-- This function gives the bytes of a text. -/
def textBytes (text : String) : Bytes := Utf8.encode text.toList

/-- This function reads bytes as text and replaces what is malformed. -/
def lossyText (bytes : Bytes) : String := String.ofList (Utf8.decodeLossy bytes)

end ConfinedHttp

import ConfinedHttp.Domain.Name
import ConfinedHttp.Host.Ipv4
import ConfinedHttp.Host.Ipv6
import ConfinedHttp.Text.Percent
import ConfinedHttp.Url.Error

/-!
The host of a URL: a name, an address, or nothing.
-/

namespace ConfinedHttp

/-- What names the machine that a URL points to. -/
inductive Host where
  | empty
  | name (text : String)
  | ipv4 (address : Ipv4)
  | ipv6 (address : Ipv6)
deriving DecidableEq, Repr

namespace Host

/-- This function writes a host as it stands in a URL. -/
def write : Host → List Char
  | empty => []
  | name text => text.toList
  | ipv4 address => address.write
  | ipv6 address => '[' :: address.write ++ [']']

/-- This function reads an address in brackets.  There is no result for other text. -/
def readBracketed? (text : List Char) : Option (Except UrlError Host) :=
  match text with
  | '[' :: rest =>
    some <|
      if rest.getLast? = some ']' then
        match Ipv6.read? rest.dropLast with
        | some address => .ok (.ipv6 address)
        | none => .error .badIpv6
      else .error .badIpv6
  | _ => none

/-- This function reads the host of a URL with a special scheme: an address or a domain name in
any script and any escaping. -/
def readSpecial (text : List Char) : Except UrlError Host :=
  match readBracketed? text with
  | some result => result
  | none =>
    match (Utf8.decode? (Percent.decode (Utf8.encode text))).bind Domain.toAscii? with
    | none => .error .badDomain
    | some domain =>
      if domain.isEmpty then .error .emptyHost
      else if Ipv4.endsInNumber domain then
        match Ipv4.read? domain with
        | some address => .ok (.ipv4 address)
        | none => .error .badIpv4
      else .ok (.name (String.ofList domain))

/-- The characters that end a host or would change how the URL is read. -/
def isForbidden (character : Char) : Bool :=
  character == '\x00' || "\t\n\r #/:<>?@[\\]^|".toList.contains character

/-- This function reads the host of a URL with a general scheme.  Its text stays as it is, apart
from controls. -/
def readGeneral (text : List Char) : Except UrlError Host :=
  match readBracketed? text with
  | some result => result
  | none =>
    if text.any isForbidden then .error .badHostCharacter
    else if text.isEmpty then .ok .empty
    else .ok (.name (Percent.encodeText Percent.isControl text))

end Host

end ConfinedHttp

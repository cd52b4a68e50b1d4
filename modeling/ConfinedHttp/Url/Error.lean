/-!
Why a text is not a URL.
-/

namespace ConfinedHttp

/-- The reasons why a text is not a URL. -/
inductive UrlError where
  | emptyHost
  | badDomain
  | badPort
  | badIpv4
  | badIpv6
  | badHostCharacter
  | relativeWithoutBase
  | relativeToRootless
deriving DecidableEq, Repr

namespace UrlError

/-- This function gives the text of each reason. -/
def message : UrlError → String
  | emptyHost => "empty host"
  | badDomain => "invalid international domain name"
  | badPort => "invalid port number"
  | badIpv4 => "invalid IPv4 address"
  | badIpv6 => "invalid IPv6 address"
  | badHostCharacter => "invalid domain character"
  | relativeWithoutBase => "relative URL without a base"
  | relativeToRootless => "relative URL with a cannot-be-a-base base"

end UrlError

end ConfinedHttp

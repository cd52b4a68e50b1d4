import ConfinedHttp.Text.Outline

/-!
Texts that no log may show.
-/

namespace ConfinedHttp

/-- A text whose outline does not show it. -/
structure Secret where
  expose : String
deriving DecidableEq

namespace Secret

/-- What stands in the place of a secret. -/
def redacted : String := "<redacted>"

def outline (_ : Secret) : Outline := .tuple "Secret" [.ofText redacted]

end Secret

end ConfinedHttp

/-!
State tokens: random texts that come back with the answer of a user, so that a forged answer is
noticed.
-/

namespace ConfinedHttp.Oauth.StateToken

/-- The number of characters. -/
def size : Nat := 32

/-- The characters of a token. -/
def alphabet : List Char :=
  "ABCDEFGHIJKLMNOPQRSTUVWXYZabcdefghijklmnopqrstuvwxyz0123456789".toList

/-- This function draws a number of characters. -/
def drawCharacters {γ : Type} [RandomGen γ] : Nat → γ → List Char × γ
  | 0, generator => ([], generator)
  | count + 1, generator =>
    let (index, next) := randNat generator 0 (alphabet.length - 1)
    let (others, last) := drawCharacters count next
    (alphabet.getD index 'A' :: others, last)

/-- This function draws a token. -/
def draw {γ : Type} [RandomGen γ] (generator : γ) : String × γ :=
  let (characters, next) := drawCharacters size generator
  (String.ofList characters, next)

end ConfinedHttp.Oauth.StateToken

import ConfinedHttp.Text.Outline
import ConfinedHttp.Url.Basic

/-!
The outline of a URL, which shows all its parts.
-/

namespace ConfinedHttp

/-- An address whose first five groups are zero and whose sixth has all bits set stands for an IPv4
address and is shown like one. -/
def Ipv6.shownText (address : Ipv6) : List Char :=
  match address.groups with
  | [0, 0, 0, 0, 0, 0xFFFF, high, low] =>
    let bytes := [high.toNat / 256, high.toNat % 256, low.toNat / 256, low.toNat % 256]
    "::ffff:".toList ++ ['.'].intercalate (bytes.map Ascii.decimal)
  | _ => address.write

def Host.outline : Host → Outline
  | .empty => .atom "None"
  | .name text => .tuple "Some" [.tuple "Domain" [.ofText text]]
  | .ipv4 address => .tuple "Some" [.tuple "Ipv4" [.atom (String.ofList address.write)]]
  | .ipv6 address => .tuple "Some" [.tuple "Ipv6" [.atom (String.ofList address.shownText)]]

namespace Url

/-- This function shows every part of a URL.  What an authority would hold is empty without one. -/
def outline (url : Url) : Outline :=
  let authority := url.authority.getD ⟨"", none, .empty, none⟩
  .record "Url"
    [.field "scheme" (.ofText url.scheme),
      .field "cannot_be_a_base" (.atom (if url.isRootless then "true" else "false")),
      .field "username" (.ofText authority.username),
      .field "password" (.ofOption .ofText authority.password),
      .field "host" authority.host.outline,
      .field "port" (.ofOption (.ofNat ·.toNat) authority.port),
      .field "path" (.ofText (String.ofList url.path.write)),
      .field "query" (.ofOption .ofText url.query),
      .field "fragment" (.ofOption .ofText url.fragment)] false

end Url

end ConfinedHttp

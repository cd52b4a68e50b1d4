import ConfinedHttp.Capability
import ConfinedHttp.Capability.Mask
import ConfinedHttp.Credentials
import ConfinedHttp.Domain.Composition
import ConfinedHttp.Domain.Direction
import ConfinedHttp.Domain.Joining
import ConfinedHttp.Domain.Mapping
import ConfinedHttp.Domain.Name
import ConfinedHttp.Domain.Punycode
import ConfinedHttp.Error
import ConfinedHttp.Error.Outline
import ConfinedHttp.Form
import ConfinedHttp.Host
import ConfinedHttp.Host.Ipv4
import ConfinedHttp.Host.Ipv6
import ConfinedHttp.Instant
import ConfinedHttp.Json.Decoder
import ConfinedHttp.Json.Failure
import ConfinedHttp.Json.Outline
import ConfinedHttp.Json.Scan
import ConfinedHttp.Json.Value
import ConfinedHttp.Method
import ConfinedHttp.Multidict
import ConfinedHttp.Multidict.HeaderBlock
import ConfinedHttp.Multidict.HeaderMap
import ConfinedHttp.Multidict.HeaderTable
import ConfinedHttp.Multidict.Json
import ConfinedHttp.Number.Binary64
import ConfinedHttp.Number.Shortest
import ConfinedHttp.Oauth.AuthorizationRequest
import ConfinedHttp.Oauth.StateToken
import ConfinedHttp.Oauth.TokenClient
import ConfinedHttp.Oauth.TokenPayload
import ConfinedHttp.Observation
import ConfinedHttp.Prefix
import ConfinedHttp.Proofs.Containment
import ConfinedHttp.Proofs.PathEvaluation
import ConfinedHttp.Proofs.ReferenceReading
import ConfinedHttp.Proofs.SessionRun
import ConfinedHttp.Proofs.Signing
import ConfinedHttp.Proofs.Text.Escaping
import ConfinedHttp.Proofs.Text.Splitting
import ConfinedHttp.Proofs.Text.Utf8Reading
import ConfinedHttp.Proofs.Url.DotSegments
import ConfinedHttp.Proofs.Url.HostReading
import ConfinedHttp.Proofs.Url.Joining
import ConfinedHttp.Proofs.Url.SegmentReading
import ConfinedHttp.Proofs.Url.UrlReading
import ConfinedHttp.Proofs.Url.WrittenPath
import ConfinedHttp.Request
import ConfinedHttp.Requestor
import ConfinedHttp.Response
import ConfinedHttp.Secret
import ConfinedHttp.Session
import ConfinedHttp.Text.Ascii
import ConfinedHttp.Text.Base64
import ConfinedHttp.Text.Blank
import ConfinedHttp.Text.Outline
import ConfinedHttp.Text.Percent
import ConfinedHttp.Text.Printable
import ConfinedHttp.Text.Quoted
import ConfinedHttp.Text.Ranges
import ConfinedHttp.Text.Split
import ConfinedHttp.Text.Utf8
import ConfinedHttp.Transport
import ConfinedHttp.Url.Basic
import ConfinedHttp.Url.Error
import ConfinedHttp.Url.Join
import ConfinedHttp.Url.Outline
import ConfinedHttp.Url.Parse
import ConfinedHttp.Url.Query
import ConfinedHttp.Url.Reference
import ConfinedHttp.Url.Scheme
import ConfinedHttp.Url.Segments
import ConfinedHttp.Wire
import ConfinedHttp.Proofs.FormReading
import ConfinedHttp.Proofs.Dispatch
import ConfinedHttp.Proofs.ExchangeLedger
import ConfinedHttp.Proofs.Accounting
import ConfinedHttp.Proofs.Recording
import ConfinedHttp.Proofs.Secrecy
import ConfinedHttp.Proofs.Domain.NameRereading
import ConfinedHttp.Proofs.Url.AddressReading
import ConfinedHttp.Proofs.Url.AuthorityRereading
import ConfinedHttp.Proofs.Url.PathRereading
import ConfinedHttp.Proofs.Url.UrlRereading
import ConfinedHttp.Proofs.Oauth.Expiry
import ConfinedHttp.Proofs.Oauth.SharedRedirect
import ConfinedHttp.Proofs.Domain.IdeographReading
import ConfinedHttp.Proofs.Domain.PunycodeLength
import ConfinedHttp.Proofs.Url.LongLabel
import ConfinedHttp.Proofs.BodyReading
import ConfinedHttp.Proofs.Json.ScanReading
import ConfinedHttp.Proofs.Json.ValueReading
import ConfinedHttp.Proofs.PayloadReading
import ConfinedHttp.Proofs.RequestPayload
import ConfinedHttp.Proofs.ResponseDecoding
import ConfinedHttp.Proofs.QueryText
import ConfinedHttp.Proofs.HeaderRoom
import ConfinedHttp.Proofs.HeaderGrouping
import ConfinedHttp.Proofs.HeaderFolding
import ConfinedHttp.Proofs.Json.MemberLookup
import ConfinedHttp.Proofs.Oauth.PayloadParts
import ConfinedHttp.Proofs.Oauth.PayloadRoundTrip
import ConfinedHttp.Proofs.Text.Base64Reading
import ConfinedHttp.Proofs.BasicCredentials
import ConfinedHttp.Proofs.KeyedValues
import ConfinedHttp.Proofs.Json.ReaderAgreement
import ConfinedHttp.Proofs.PairReading
import ConfinedHttp.Proofs.Url.DirectoryRereading
import ConfinedHttp.Proofs.PrefixParsing
import ConfinedHttp.Proofs.Oauth.ScopeJoining
import ConfinedHttp.Proofs.HeaderCapacity
import ConfinedHttp.Proofs.HeaderCrowding
import ConfinedHttp.Proofs.Capability.Identity
import ConfinedHttp.Proofs.Capability.MaskBits
import ConfinedHttp.Proofs.Capability.MaskHistory

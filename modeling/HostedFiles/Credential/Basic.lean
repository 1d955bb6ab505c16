import HostedFiles.Credential.Header
import HostedFiles.Encoding.Base64Url
import HostedFiles.Hash.Hmac
import HostedFiles.Json.Reader
import HostedFiles.Text.Quoted
import HostedFiles.Text.Split
import HostedFiles.Time

/-!
# Credential — issuing and verifying

A signer holds a secret, the name it issues under, and bounds for how long a credential may hold.
`issue` writes claims and signs them; `verify` returns the account of a credential that this signer
signed, that names it as issuer, and that holds at the given instant.  Nothing is stored: who has
the text has the credential.
-/

namespace HostedFiles

/-- Issues and verifies credentials. -/
structure Signer where
  secret : List UInt8
  issuer : String
  least : Duration
  most : Duration
  secret_nonempty : secret ≠ []
  ordered : least.nanoseconds ≤ most.nanoseconds

/-- Why there is no signer. -/
inductive SignerError where
  | noSecret
  | boundsInverted (least most : Duration)
  deriving DecidableEq

/-- The reason in words. -/
def SignerError.message : SignerError → String
  | noSecret => "Signing key is not configured"
  | boundsInverted least most =>
    "Credential lifetime bounds are invalid: min " ++ least.shown ++ " exceeds max " ++ most.shown

namespace Signer

/-- The signer with a secret, a name and bounds; the secret is judged first. -/
def make (secret : List UInt8) (issuer : String) (least most : Duration) :
    Except SignerError Signer :=
  if hs : secret ≠ [] then
    if ho : least.nanoseconds ≤ most.nanoseconds then .ok ⟨secret, issuer, least, most, hs, ho⟩
    else .error (.boundsInverted least most)
  else .error .noSecret

/-- The signer as it is shown; its secret is not. -/
def shown (s : Signer) : String :=
  "TokenService \x7b issuer: " ++ Text.quoted s.issuer ++ ", ttl_min: " ++ s.least.shown ++
    ", ttl_max: " ++ s.most.shown ++ ", .. \x7d"

/-! ## Issuing -/

/-- The signature of a text, in writing. -/
def signature (s : Signer) (signed : List Char) : List Char :=
  Base64Url.encode (Hmac.code s.secret (signed.flatMap String.utf8EncodeChar))

/-- The seconds of a span as a signed number of sixty four binary digits. -/
def signedSeconds (d : Duration) : Int :=
  Int.bmod d.seconds 18446744073709551616

/-- What a credential issued now says.  The lifetime can be compared with the bounds, since these
are in order. -/
def claims (s : Signer) (account : String) (lifetime : Duration) (now : Instant) : Claims where
  account := account
  issuer := s.issuer
  issued := now.seconds
  expires := Claims.clampTime (now.seconds + signedSeconds (lifetime.within s.least s.most))

/-- The two parts of a credential that are signed. -/
def signedPart (c : Claims) : List Char :=
  Base64Url.encode (Text.bytes Header.written) ++ '.' :: Base64Url.encode (Text.bytes c.written)

/-- A credential for an account. -/
def issue (s : Signer) (account : String) (lifetime : Duration) (now : Instant) : String :=
  let part := signedPart (s.claims account lifetime now)
  String.ofList (part ++ '.' :: s.signature part)

/-! ## Verifying -/

/-- The value that a part of a credential stands for. -/
def partValue? (part : List Char) : Option Json :=
  (Base64Url.decode? part).bind Json.ofBytes?

/-- The claims of a credential whose signature and header are right. -/
def claims? (s : Signer) (credential : String) : Option Claims := do
  let (part, signature) ← Text.splitLast? '.' credential.toList
  let (header, payload) ← Text.splitLast? '.' part
  if signature = s.signature part ∧ (partValue? header).any Header.accepts then
    Claims.ofJson? (← partValue? payload)
  else none

/-- Whether claims are made by this signer and hold at an instant.  An end of validity before 1970
is none at all. -/
def holds (s : Signer) (c : Claims) (now : Instant) : Bool :=
  c.issuer == s.issuer && 0 ≤ c.expires && c.issued ≤ now.seconds && now.seconds ≤ c.expires

/-- The account that a credential was issued to, when it holds. -/
def verify (s : Signer) (credential : String) (now : Instant) : Option String := do
  let c ← s.claims? credential
  if s.holds c now then some c.account else none

/-- A signer exists exactly when there is a secret and the bounds are in order. -/
theorem make_isOk_iff {secret : List UInt8} {issuer : String} {least most : Duration} :
    (make secret issuer least most).isOk = true ↔
      secret ≠ [] ∧ least.nanoseconds ≤ most.nanoseconds := by
  simp only [make]
  split
  · next hs => split <;> simp_all [Except.isOk, Except.toBool]
  · next hs => simp_all [Except.isOk, Except.toBool]

end Signer

end HostedFiles

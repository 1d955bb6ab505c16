import HostedFiles.Credential.Claims
import HostedFiles.Credential.Key

/-!
# Credential/Header — what stands in front of the claims

A header names the method of signing.  What else it is known to hold is not used, but has to be
written as it should be; what nobody knows is passed over.  An object names its fields, and a list
gives all of them in order.
-/

namespace HostedFiles.Header

/-- The only method of signing. -/
def method : String := "HS256"

/-- The header in front of every issued credential. -/
def written : String := "\x7b\"typ\":\"JWT\",\"alg\":\"HS256\"\x7d"

/-- Whether a value names the method of signing. -/
def isMethod (value : Json) : Bool :=
  value.word? == some method

/-- The fields of a header besides the method, and how they are written. -/
def optionalFields : List (String × (Json → Bool)) :=
  [("cty", Json.isTextOrNull), ("jku", Json.isTextOrNull), ("jwk", Key.isSound Claims.nesting),
    ("kid", Json.isTextOrNull), ("x5u", Json.isTextOrNull), ("x5c", Json.isTextsOrNull),
    ("x5t", Json.isTextOrNull), ("x5t#S256", Json.isTextOrNull)]

/-- Whether a header names the method of signing, once, and is sound in all fields it is known to
have. -/
def accepts : Json → Bool
  | .object members =>
    Json.namesAreTexts members &&
    (Json.member "alg" members).isRequired isMethod &&
    (Json.member "typ" members).isOptional Json.isTextOrNull &&
    (optionalFields.all fun field => (Json.member field.1 members).isOptional field.2)
  | .array (type :: alg :: rest) =>
    type.isTextOrNull && isMethod alg && rest.length == optionalFields.length &&
    ((optionalFields.zip rest).all fun p => p.1.2 p.2)
  | _ => false

end HostedFiles.Header

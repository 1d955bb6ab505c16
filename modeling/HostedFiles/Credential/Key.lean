import HostedFiles.Json.Basic

/-!
# Credential/Key — keys that a header may carry

A header may carry the key it was signed with.  Credentials are never verified by such a key, but
the header is refused unless `Key.isSound` accepts it: the key has one of four shapes, each told by
the members it needs, and what else is known about keys is written as it should be.
-/

namespace HostedFiles.Key

/-! ## Words -/

/-- The methods that a key may be meant for. -/
def methods : List String :=
  ["HS256", "HS384", "HS512", "ES256", "ES384", "RS256", "RS384", "RS512", "PS256", "PS384",
    "PS512", "EdDSA", "RSA1_5", "RSA-OAEP", "RSA-OAEP-256"]

/-- The curves that a key may belong to. -/
def curves : List String :=
  ["P-256", "P-384", "P-521", "Ed25519"]

/-- Whether a value names one of the words. -/
def isWordOf (words : List String) (value : Json) : Bool :=
  value.word?.any words.contains

/-- Whether a value is nothing or names a method; behind its word an empty object may stand. -/
def isMethodOrNull : Json → Bool
  | .null => true
  | .object [(.ok word, .object [])] => methods.contains word
  | value => isWordOf methods value

/-! ## Members -/

/-- What is known about keys of any shape, and how it is written. -/
def commonMembers : List (String × (Json → Bool)) :=
  [("use", Json.isTextOrNull), ("key_ops", Json.isTextsOrNull), ("alg", isMethodOrNull),
    ("kid", Json.isTextOrNull), ("x5u", Json.isTextOrNull), ("x5c", Json.isTextsOrNull),
    ("x5t", Json.isTextOrNull), ("x5t#S256", Json.isTextOrNull)]

/-- A member that holds a text. -/
def textMember (name : String) : String × (Json → Bool) :=
  (name, fun value => value.text?.isSome)

/-- The members that a key needs: those of a point on a curve, of a modulus, of a shared secret, or
of one coordinate on a curve. -/
def shapes : List (List (String × (Json → Bool))) :=
  [[("kty", isWordOf ["EC"]), ("crv", isWordOf curves), textMember "x", textMember "y"],
    [("kty", isWordOf ["RSA"]), textMember "n", textMember "e"],
    [("kty", isWordOf ["oct"]), textMember "k"],
    [("kty", isWordOf ["OKP"]), ("crv", isWordOf curves), textMember "x"]]

/-- Whether a key is sound, with room for `room` lists and objects inside one another. -/
def isSound (room : Nat) : Json → Bool
  | .null => true
  | .object members =>
    ((Json.object members).fault? room).isNone &&
    (commonMembers.all fun m => (Json.member m.1 members).isOptional m.2) &&
    (shapes.any fun shape => shape.all fun m => (Json.member m.1 members).isRequired m.2)
  | _ => false

end HostedFiles.Key

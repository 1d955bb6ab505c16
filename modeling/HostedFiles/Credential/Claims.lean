import HostedFiles.Json.Basic
import HostedFiles.Json.Text
import HostedFiles.Text.Number

/-!
# Credential/Claims — what a credential says

A credential names the account it was issued to, its issuer, and the first and last second at which
it holds.  `Claims.ofJson?` reads them from an object that may say more.
-/

namespace HostedFiles

/-- What a credential says. -/
structure Claims where
  account : String
  issuer : String
  issued : Int
  expires : Int
  deriving DecidableEq

namespace Claims

/-! ## Whole numbers -/

/-- The least and the greatest time a credential can name. -/
def minTime : Int := -9223372036854775808
def maxTime : Int := 9223372036854775807

/-- The number nearest to `n` that a credential can name as a time. -/
def clampTime (n : Int) : Int :=
  max minTime (min n maxTime)

/-- The time that a written number is: digits alone, perhaps behind a minus sign, in range.  A
negative zero is no whole number. -/
def time? : Json → Option Int
  | .number ⟨negative, digits, [], none⟩ =>
    if negative then
      (Text.readDigits? (-minTime).toNat digits).bind fun n => if n = 0 then none else some (-n)
    else (Text.readDigits? maxTime.toNat digits).map Int.ofNat
  | _ => none

/-! ## Writing -/

/-- The claims in writing. -/
def writtenChars (c : Claims) : List Char :=
  "\x7b\"sub\":".toList ++ Json.quote c.account ++ ",\"iss\":".toList ++ Json.quote c.issuer ++
    ",\"iat\":".toList ++ (toString c.issued).toList ++
    ",\"exp\":".toList ++ (toString c.expires).toList ++ ['\x7d']

/-- The claims in writing. -/
def written (c : Claims) : String :=
  String.ofList c.writtenChars

/-! ## Reading -/

/-- Whether the start of validity, which is not used, can be passed over: a list or an object is
left at its first item, any other value at its end unless it has a fault before that. -/
def acceptsNotBefore : Json → Bool
  | .array items => items.isEmpty
  | .object members => members.isEmpty
  | value => value.fault? 0 != some .inside

/-- How deeply lists and objects may be nested inside a part of a credential that is looked at as a
whole. -/
def nesting : Nat := 126

/-- Whether the audience, which is not used either, can be passed over: it is looked at as a whole
and left at its first fault. -/
def acceptsAudience (value : Json) : Bool :=
  value.fault? nesting != some .inside

/-- The claims that an object makes, each of them once. -/
def ofJson? : Json → Option Claims
  | .object members =>
    if Json.namesAreTexts members ∧
        (Json.member "nbf" members).isOptional acceptsNotBefore ∧
        (Json.member "aud" members).isOptional acceptsAudience then do
      let account ← (← (Json.member "sub" members).once?).text?
      let issuer ← (← (Json.member "iss" members).once?).text?
      let issued ← time? (← (Json.member "iat" members).once?)
      let expires ← time? (← (Json.member "exp" members).once?)
      return { account, issuer, issued, expires }
    else none
  | _ => none

end Claims

end HostedFiles

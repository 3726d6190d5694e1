/-
This file finds out who makes a request. Requests may carry a signed token whose claims name the
user; a token that is not signed with the right key, that has expired or is not valid yet, or whose
claims have the wrong form, names nobody, and so does a request without a token.
-/

import WorkQuery.Schema.Scalar

namespace WorkQuery.Service

open Json Number Schema

/-! ### Tokens -/

/-- A token: claims with the key that they are signed with, or a text that is no signed token. -/
inductive Token
  | signed (key : String) (claims : Fields)
  | unreadable

/-- The key that tokens of this service are signed with. -/
def serviceKey : String := "CHANGE_ME_FOR_DEV_ONLY"

/-- The kind that tokens for access are marked with. -/
def accessKind : String := "access"

/-- The token of the service for claims, which lasts until a time. -/
def issue (claims : Fields) (expiry : Int) : Token :=
  .signed serviceKey
    ((claims.set "exp" (.int expiry)).set "type" (.text accessKind))

/-! ### Claims -/

/-- The time that a claim gives, if the claim is there. A claim whose text gives no time makes the
token void; a claim of a kind that cannot give a time fails. -/
def timeClaim (claims : Fields) (name : String) : Except ConversionFault (Option (Option Int)) :=
  match claims.get? name with
  | none => .ok (some none)
  | some value =>
    match convertInteger value with
    | .ok time => .ok (some (some time))
    | .error (.kind name) => .error (.kind name)
    | .error .infinite => .error .infinite
    | .error _ => .ok none

/-- Whether a claim that has to be a text, if it is there, is one. -/
def textClaim (claims : Fields) (name : String) : Bool :=
  (claims.get? name).all fun value => value.text?.isSome

/-- Whether the times of a token agree with a clock: it was issued at some time, is valid by now
and has not expired. -/
def timely (claims : Fields) (now : Int) : Except ConversionFault Bool := do
  let some _ ← timeClaim claims "iat" | return false
  let some start ← timeClaim claims "nbf" | return false
  if start.any fun start => now < start then return false
  let some expiry ← timeClaim claims "exp" | return false
  return expiry.all fun expiry => now ≤ expiry

/-- Whether the claims that bind a token to something are as this service needs them: it is meant
for no particular audience and bound to no other token, and names its subject and itself by
texts. -/
def unbound (claims : Fields) : Bool :=
  (claims.get? "aud").isNone && textClaim claims "sub" && textClaim claims "jti" &&
    (claims.get? "at_hash").isNone

/-- Whether the claims are those of a token for access; a token that is not marked is. -/
def grantsAccess (claims : Fields) : Bool :=
  match (claims.get? "type").getD .null with
  | .null => true
  | .text kind => kind == accessKind
  | _ => false

/-- The user that claims name as their subject. -/
def subject? (claims : Fields) : Option Int :=
  match claims.get? "sub" with
  | some (.text written) => (readInteger written).toOption
  | _ => none

/-- The user that a token names at a time. -/
def userOfToken (now : Int) : Token → Except ConversionFault (Option Int)
  | .unreadable => .ok none
  | .signed key claims => do
    if key != serviceKey then return none
    if !(← timely claims now) then return none
    if unbound claims && grantsAccess claims then return subject? claims else return none

end WorkQuery.Service

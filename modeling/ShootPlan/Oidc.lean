import ShootPlan.Record
/-!
Login of cluster users through an OpenID Connect provider.
-/
namespace ShootPlan

structure OidcConfig where
  clientID : Option String := none
  groupsClaim : Option String := none
  groupsPrefix : Option String := none
  issuerURL : Option String := none
  requiredClaims : Dict String := .empty
  signingAlgs : List String := []
  usernameClaim : Option String := none
  usernamePrefix : Option String := none
  deriving DecidableEq

namespace OidcConfig

def record : Record OidcConfig where
  name := "OidcConfig"
  fields :=
    .cons (.optional "clientID") <| .cons (.optional "groupsClaim") <|
    .cons (.optional "groupsPrefix") <| .cons (.optional "issuerURL") <|
    .cons (.sparseMap "requiredClaims") <| .cons (.sparse "signingAlgs") <|
    .cons (.optional "usernameClaim") <| .cons (.optional "usernamePrefix") .nil
  build := fun (a, b, c, d, e, f, g, h, ()) => ⟨a, b, c, d, e, f, g, h⟩
  split o :=
    (o.clientID, o.groupsClaim, o.groupsPrefix, o.issuerURL, o.requiredClaims, o.signingAlgs,
      o.usernameClaim, o.usernamePrefix, ())

instance : Coded OidcConfig := record.coded

/-- Client and issuer are both given and not empty. -/
def isConfigured (oidc : OidcConfig) : Bool :=
  oidc.clientID.any (· ≠ "") && oidc.issuerURL.any (· ≠ "")

end OidcConfig

end ShootPlan

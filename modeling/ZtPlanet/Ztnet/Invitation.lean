/-
# Invitations

There are two kinds.  An invitation to the instance has a secret and can be used several times.  An
invitation to an organization is a row of `Invitation` as well, with a row of
`OrganizationInvitation` that names the organization; its token is an encrypted JSON object, which
says once more for whom it is.

What a procedure reads off a row or a token before it asks the database again is defined here.  How
a token is decrypted and how an address is normalized is taken from the `InvitationSite`.
-/
import ZtPlanet.Ztnet.Backend

namespace ZtPlanet.Ztnet.Invitations

open ZtPlanet.Lib

abbrev Token : Type := String
abbrev EmailAddress : Type := String
abbrev InvitationId : Type := Nat
abbrev OrganizationInvitationId : Type := Nat
abbrev UserGroupId : Type := Nat

/-- `Invitation`. -/
structure InvitationRow where
  token : Token
  secret : Option String
  email : Option EmailAddress
  role : Role
  used : Bool
  timesUsed : Nat
  timesCanUse : Nat
  expiresAt : Nat
  invitedById : UserId
  userGroupId : Option UserGroupId
deriving DecidableEq

/-- `OrganizationInvitation`. -/
structure OrganizationInvitationRow where
  invitationId : InvitationId
  organizationId : OrganizationId
deriving DecidableEq

/-- What the token of an invitation to an organization says; a field that is missing is `none`. -/
structure TokenPayload where
  email : Option EmailAddress
  organizationId : Option OrganizationId
  role : Option Role
  invitedById : Option UserId
  expiresAt : Option Nat
deriving DecidableEq

structure InvitationSite where
  /-- `JSON.parse(decrypt(token, secret))`, `none` where it throws -/
  decode : Token → Option TokenPayload
  /-- `jwt.verify(token, secret)` does not throw -/
  verify : Token → Bool
  /-- `text.trim()` -/
  trim : String → String
  /-- `normalizeEmail` -/
  normalizeEmail : EmailAddress → EmailAddress

/-- A text that is there and not blank, without the blanks around it. -/
def InvitationSite.given (site : InvitationSite) (text : Option String) : Option String :=
  (text.map site.trim).filter fun text => text ≠ ""

/-- The condition on the row in `validateOrganizationToken`; a role that is missing is no condition.
-/
def TokenPayload.matches (payload : TokenPayload) (token : Token) (row : InvitationRow) : Bool :=
  row.token = token && payload.role.all (fun role => row.role = role) && row.email = payload.email

/-- The token says that it has expired. -/
def TokenPayload.expired (payload : TokenPayload) (now : Nat) : Bool :=
  payload.expiresAt.any fun expiresAt => expiresAt < now

/-- An invitation to the instance is refused. -/
def InvitationRow.refused (site : InvitationSite) (email : EmailAddress) (now : Nat)
    (row : InvitationRow) :
    Bool :=
  row.expiresAt ≤ now ||
    (row.email.any fun address => address ≠ "" && site.normalizeEmail address ≠ email) ||
    row.used || row.timesCanUse ≤ row.timesUsed

/-- The condition under which the transaction of `register` uses an invitation once more, where
`read` is the row as it was read before. -/
def InvitationRow.consumable (read : InvitationRow) (now : Nat) (row : InvitationRow) : Bool :=
  !row.used && row.timesUsed = read.timesUsed && now < row.expiresAt

/-- The invitation, used once more. -/
def InvitationRow.consume (read row : InvitationRow) : InvitationRow :=
  { row with
    used := read.timesCanUse ≤ read.timesUsed + 1
    timesUsed := row.timesUsed + 1 }

/-- The input of `register`, with the id that the new row gets. -/
structure RegisterInput where
  id : UserId
  email : EmailAddress
  name : String
  ztnetInvitationCode : Option String
  ztnetOrganizationToken : Option String
  token : Option String
deriving DecidableEq

/-- What `register` has found out about its invitations. -/
structure RegisterJob where
  input : RegisterInput
  /-- the invitation to the instance, as it was read -/
  invitation : Option (InvitationId × InvitationRow)
  /-- `decryptedOrgToken`: the organization, and the invitation as it was read -/
  organization : Option (OrganizationId × InvitationId × InvitationRow)
deriving DecidableEq

/-- The role of the new account. -/
def RegisterJob.role (job : RegisterJob) (first : Bool) : Role :=
  if first then .admin else (job.invitation.map fun invitation => invitation.2.role).getD .user

/-- `hasValidCode || decryptedOrgToken`. -/
def RegisterJob.invited (job : RegisterJob) : Bool :=
  job.invitation.isSome || job.organization.isSome

end ZtPlanet.Ztnet.Invitations

import AgentHive.Process.Alone
import AgentHive.Services.OrgWrites

/-!
Sessions: login, refresh and logout, the access token they issue, and the
dependency that makes a principal of a request.
-/

namespace AgentHive

open Process (Action)

structure AccessToken where
  sub : UUID
  tenantId : UUID
  permissions : List Permission
  ver : Nat
  iat : Nat
  exp : Nat
  iss : String := "AgentHive"
deriving DecidableEq

structure Jwt (Token : Type) where
  encode : AccessToken → Token
  decode : Token → Option AccessToken
  decode_encode : ∀ payload, decode (encode payload) = some payload

structure AuthSettings where
  accessTokenExpireMinutes : Nat := 60
  authCookieEnabled : Bool := false
  isDevelopmentEnvironment : Bool := false

structure LoginRequest where
  tenantSlug : String
  email : String
  password : String
deriving DecidableEq

structure AuthTokenResponse (Token : Type) where
  accessToken : Token
  expiresAt : Nat
  id : UUID
  tenantId : UUID
  email : String
  fullName : Option String
  isTenantAdmin : Bool
  isSuperAdmin : Bool
  permissions : List Permission

/-- The headers and cookies a request is authenticated by; the authorization
header is the scheme and what follows the first blank. -/
structure AuthHeaders (Token : Type) where
  authorization : Option (String × Option Token) := none
  sessionCookie : Option Token := none
  csrfCookie : Option String := none
  csrfHeader : Option String := none

namespace AuthService

open OrgSession

variable {Token : Type} (lib : TextLibrary) (settings : AuthSettings) (jwt : Jwt Token)

def loadPermissions (userId : UUID) (user : User) : OrgSession (List Permission) :=
  if user.isTenantAdmin || user.isSuperAdmin then pure Permission.all
  else do
    let rows ← query (.rolesOf userId user.tenantId)
    pure (OrgAdmin.sortedPermissions (rows.map fun e => e.2.permissions))

def createAccessToken (userId : UUID) (user : User) (permissions : List Permission) (now : Nat) :
    AccessToken where
  sub := userId
  tenantId := user.tenantId
  permissions := permissions
  ver := user.authVersion
  iat := now
  exp := now + 60 * settings.accessTokenExpireMinutes

def buildTokenResponse (userId : UUID) (user : User) (permissions : List Permission) (now : Nat) :
    AuthTokenResponse Token where
  accessToken := jwt.encode (createAccessToken settings userId user permissions now)
  expiresAt := now + 60 * settings.accessTokenExpireMinutes
  id := userId
  tenantId := user.tenantId
  email := user.email
  fullName := user.fullName
  isTenantAdmin := user.isTenantAdmin
  isSuperAdmin := user.isSuperAdmin
  permissions := permissions

def loginAttemptKeys (tenantSlug email : String) (ipAddress : Option String) : List String :=
  let tenant := lib.lower (lib.strip tenantSlug)
  let ip := if truthy ipAddress then ipAddress.getD "unknown" else "unknown"
  ["tenant:" ++ tenant ++ ":email:" ++ lib.lower (lib.strip email),
    "tenant:" ++ tenant ++ ":ip:" ++ lib.lower (lib.strip ip)]

/-- `_record_unknown_login_failure`, whose audit row belongs to the tenant. -/
def recordUnknownLoginFailure (tenantSlug : String) : OrgSession Unit := do
  let tenant ← query (.activeTenantBySlug tenantSlug)
  match tenant with
  | none => pure ()
  | some _ => commit

def invalidCredentials {α : Type} : OrgSession α :=
  fail 401 "Invalid tenant, email, or password."

def rejectLogin {α : Type} (keys : List String) : OrgSession α := do
  commit
  query (.recordFailure keys)
  invalidCredentials

def acceptLogin (payload : LoginRequest) (keys : List String) (userId : UUID) (user : User) :
    OrgSession (AuthTokenResponse Token) := do
  query (.resetFailures keys)
  add (if lib.needsRehash user.hashedPassword then
    [.updateUser userId { hashedPassword := some (lib.hashPassword payload.password) }] else [])
  let permissions ← loadPermissions userId user
  commit
  let now ← query .utcNow
  pure (buildTokenResponse settings jwt userId user permissions now)

def login (payload : LoginRequest) (ipAddress : Option String) :
    OrgSession (AuthTokenResponse Token) := do
  let email := lib.lower payload.email
  let keys := loginAttemptKeys lib payload.tenantSlug email ipAddress
  let locked ← query (.isLocked keys)
  refuse locked 429 "Too many login attempts. Try again later."
  let row ← query (.loginUser payload.tenantSlug email)
  match row with
  | none => do
    recordUnknownLoginFailure payload.tenantSlug
    query (.recordFailure keys)
    invalidCredentials
  | some (userId, user) =>
    if user.isActive = false then rejectLogin keys
    else if lib.verifyPassword payload.password user.hashedPassword = false then rejectLogin keys
    else acceptLogin lib settings jwt payload keys userId user

def loadActiveSessionUser (tenantId userId : UUID) : OrgSession User := do
  let row ← query (.activeSessionUser tenantId userId)
  match row with
  | none => fail 401 "Invalid or expired session."
  | some (_, user) => pure user

def refreshSession (tenantId userId : UUID) : OrgSession (AuthTokenResponse Token) := do
  let user ← loadActiveSessionUser tenantId userId
  let permissions ← loadPermissions userId user
  commit
  let now ← query .utcNow
  pure (buildTokenResponse settings jwt userId user permissions now)

def logout (tenantId userId : UUID) : OrgSession Unit := do
  let user ← loadActiveSessionUser tenantId userId
  add [.updateUser userId { authVersion := some (user.authVersion + 1) }]
  commit

def assertPrincipalIsActive (principal : Principal) : OrgSession Unit := do
  let found ← query (.getUser principal.userId)
  match found with
  | none => fail 401 "Invalid or inactive user session."
  | some user => do
    refuse (user.tenantId ≠ principal.tenantId ∨ user.deleted = true ∨ user.isActive = false ∨
      user.authVersion ≠ principal.authVersion) 401 "Invalid or inactive user session."
    let tenant ← query (.getTenant principal.tenantId)
    refuse (tenant.all fun t => !t.isActive) 401 "Invalid or inactive tenant session."

/-- `decode_access_token`: issuer and expiry are checked here. -/
def decodeAccessToken (token : Token) (now : Nat) : Option AccessToken :=
  (jwt.decode token).filter fun payload => payload.iss == "AgentHive" && now < payload.exp

def principalOfToken (token : Token) : OrgSession Principal := do
  let now ← query .utcNow
  match decodeAccessToken jwt token now with
  | none => fail 401 "Invalid or expired access token."
  | some payload => do
    let principal : Principal :=
      { userId := payload.sub
        tenantId := payload.tenantId
        permissions := payload.permissions
        authVersion := payload.ver }
    assertPrincipalIsActive principal
    pure principal

def presentedToken (headers : AuthHeaders Token) : Except Exc (Option Token) :=
  match headers.authorization with
  | some (scheme, bearerToken) =>
    if lib.lower scheme ≠ "bearer" ∨ bearerToken.isNone then
      .error (.http 401 (.text "Invalid Authorization header."))
    else .ok bearerToken
  | none =>
    if settings.authCookieEnabled ∧ headers.sessionCookie.isSome then
      if ¬ truthy headers.csrfCookie ∨ ¬ truthy headers.csrfHeader ∨
          headers.csrfCookie ≠ headers.csrfHeader then
        .error (.http 403 (.text "Missing or invalid CSRF token."))
      else .ok headers.sessionCookie
    else if settings.isDevelopmentEnvironment then .ok none
    else .error (.http 401 (.text "Missing Authorization header."))

def developmentPrincipal : Principal where
  userId := 1
  tenantId := 1
  permissions := Permission.all
  isDevelopmentFallback := true

def getCurrentPrincipal (headers : AuthHeaders Token) : OrgSession Principal :=
  match presentedToken lib settings headers with
  | .error x => Action.throw x
  | .ok none => pure developmentPrincipal
  | .ok (some token) => principalOfToken jwt token

end AuthService

inductive AuthOperation (Token : Type)
  | login (payload : LoginRequest) (ipAddress : Option String)
  | refresh (headers : AuthHeaders Token)
  | logout (headers : AuthHeaders Token)
  | org (call : OrgCall)

inductive AuthResult (Token : Type)
  | token (response : AuthTokenResponse Token)
  | loggedOut (userId : UUID)
  | org (response : OrgResponse)

namespace AuthOperation

variable {Token : Type} (lib : TextLibrary) (settings : AuthSettings) (jwt : Jwt Token)

def endpoint : AuthOperation Token → OrgSession (AuthResult Token)
  | .login payload ipAddress => do
    let response ← AuthService.login lib settings jwt payload ipAddress
    pure (.token response)
  | .refresh headers => do
    let principal ← AuthService.getCurrentPrincipal lib settings jwt headers
    let response ← AuthService.refreshSession settings jwt principal.tenantId principal.userId
    pure (.token response)
  | .logout headers => do
    let principal ← AuthService.getCurrentPrincipal lib settings jwt headers
    AuthService.logout principal.tenantId principal.userId
    pure (.loggedOut principal.userId)
  | .org call => do
    let response ← call.endpoint lib
    pure (.org response)

def program (operation : AuthOperation Token) :
    Process.Program OrgEffect OrgAnswer (Except Exc (AuthResult Token)) :=
  (operation.endpoint lib settings jwt).run []

end AuthOperation

end AgentHive

import LowLatencyVoice.Storage.Database
import LowLatencyVoice.Storage.Sessions

open low_latency_voice.model low_latency_voice.storage

namespace low_latency_voice.auth

/-- The calls of the repository that can fail. -/
inductive Call where
  | createUser
  | getUserByUsername
  | getUserWithRoles
  | getRoleByName
  | getDefaultRole
  | assignUserRole
  | createSession
  | getSession
  | deleteSession
  | deleteUserSessions
  | createChannel
  | getChannels
  | getChannelByID
  | deleteChannel
  | createMessage
  | getMessages
  | getAllUsersWithRoles
  | createVoiceToken
  | revokeVoiceTokens
  deriving DecidableEq, Repr

/-- What is decided outside while a request is handled: the clock, the statements
that fail and the text of their errors, the password hash, the random bytes, the
rate limiter, and the order of a `range` loop. -/
structure Env where
  now : Time
  fault : Call → Fault
  errorText : String
  hash : Option String
  passwordMatches : Bool
  sessionToken : Option Token
  voiceToken : Option (Token × UInt32)
  allowMessage : Bool
  order : List Nat

/-- The call fails. -/
def Env.fails (x : Env) (call : Call) : Bool := x.fault call ≠ .none

inductive AuthError where
  | duplicateUser
  | invalidUsernameFormat
  | passwordTooShort
  | passwordTooLong
  | invalidCredentials
  | userDisabled
  | internal
  deriving DecidableEq, Repr

/-- The texts of the errors; an internal one has the text of its cause. -/
def AuthError.text (x : Env) : AuthError → String
  | .duplicateUser => "username already exists"
  | .invalidUsernameFormat =>
    "username must be between 3 and 32 characters and contain only alphanumeric, underscore, or hyphen"
  | .passwordTooShort => "password must be at least 8 characters"
  | .passwordTooLong => "password cannot exceed 128 characters"
  | .invalidCredentials => "invalid username or password"
  | .userDisabled => "user account is deactivated"
  | .internal => x.errorText

/-- `usernameRegex`. -/
def usernameMatches (username : String) : Bool :=
  3 ≤ username.length && username.length ≤ 32 &&
    username.toList.all fun ch => ch.isAlphanum || ch == '_' || ch == '-'

/-- The tables a sign-in works on. -/
structure Accounts where
  database : Database
  userSessions : UserSessions

/-- How long a session token lives: 30 days. -/
def sessionLifetime : Time := 2592000000000000

/-- How long a voice token lives: 30 seconds. -/
def voiceTokenLifetime : Time := 30000000000

/-- The tail of `Register` and `Login`: a fresh session token is stored. -/
def openSession (a : Accounts) (x : Env) (user : User) : Accounts × Except AuthError (User × Token) :=
  match x.sessionToken with
  | none => (a, .error .internal)
  | some token =>
    match createSession a.userSessions x.now (x.fault .createSession) token user.id
        (x.now + sessionLifetime) with
    | none => (a, .error .internal)
    | some userSessions => ({ a with userSessions }, .ok (user, token))

/-- The role a new user gets: the creator's, or the default one. -/
def roleOfNewUser (db : Database) (x : Env) (userID : UInt32) : Option Role :=
  if userID = 1 then
    if x.fails .getRoleByName then none else db.getRoleByName "Admin"
  else if x.fails .getDefaultRole then none
  else db.getDefaultRole

/-- The permissions `Register` reports. -/
def permissionsOfNewUser (userID : UInt32) (role : Option Role) : Permission :=
  if userID = 1 then 0xFFFFFFFF
  else
    match role with
    | some role => role.permissions
    | none => permDefaultMember

/-- The middle of `Register`: the new user gets a role, unless the statement
fails. -/
def assignRole (db : Database) (x : Env) (userID : UInt32) : Database :=
  match roleOfNewUser db x userID with
  | none => db
  | some role => if x.fails .assignUserRole then db else db.assignUserRole x.now userID role.id

/-- `Register`. What it has stored stays when a later step fails. -/
def register (trimSpace : String → String) (a : Accounts) (x : Env) (username password : String) :
    Accounts × Except AuthError (User × Token) :=
  let username := trimSpace username
  if !usernameMatches username then (a, .error .invalidUsernameFormat)
  else if password.utf8ByteSize < 8 then (a, .error .passwordTooShort)
  else if 128 < password.utf8ByteSize then (a, .error .passwordTooLong)
  else
    match x.hash with
    | none => (a, .error .internal)
    | some hash =>
      if x.fails .createUser then (a, .error .internal)
      else
        match a.database.createUser username hash with
        | none => (a, .error .duplicateUser)
        | some (db, userID) =>
          let role := roleOfNewUser db x userID
          openSession { a with database := assignRole db x userID } x
            ⟨userID, username, permissionsOfNewUser userID role⟩

/-- `Login`. Scanning a row id beyond 32 bits fails. -/
def login (trimSpace : String → String) (a : Accounts) (x : Env) (username password : String) :
    Accounts × Except AuthError (User × Token) :=
  let username := trimSpace username
  if username = "" ∨ password = "" then (a, .error .invalidCredentials)
  else if x.fails .getUserByUsername then (a, .error .internal)
  else
    match a.database.getUserByUsername username with
    | none => (a, .error .invalidCredentials)
    | some (id, row) =>
      if 4294967296 ≤ id then (a, .error .internal)
      else if !row.isActive then (a, .error .userDisabled)
      else if !x.passwordMatches then (a, .error .invalidCredentials)
      else if x.fails .getUserWithRoles then (a, .error .internal)
      else
        match a.database.getUserWithRoles (UInt32.ofNat id) with
        | none => (a, .error .internal)
        | some user => openSession a x user

/-- `ValidateSession`. An expired session is deleted. -/
def validateSession (trimSpace : String → String) (a : Accounts) (x : Env) (token : String) :
    Accounts × Option UserSession :=
  let token := (trimSpace token).toUTF8.data.toList
  if token = [] then (a, none)
  else
    match getSession a.userSessions x.now (x.fault .getSession) token with
    | .found session => (a, some session)
    | .expired =>
      ({ a with userSessions := deleteSession a.userSessions (x.fault .deleteSession) token }, none)
    | .failed => (a, none)

/-- `GenerateUDPToken`. -/
def generateUDPToken (rows : VoiceTokens) (x : Env) (userID channelID : UInt32) :
    VoiceTokens × Option VoiceToken :=
  match x.voiceToken with
  | none => (rows, none)
  | some (token, ssrc) =>
    match createVoiceToken rows x.now (x.fault .createVoiceToken) token userID channelID
        (if ssrc = 0 then 100001 else ssrc) (x.now + voiceTokenLifetime) with
    | (rows, .ok vt) => (rows, some vt)
    | (rows, .error _) => (rows, none)

end low_latency_voice.auth

import LowLatencyVoice.Auth.Registration
import LowLatencyVoice.Storage.Rights

open low_latency_voice.model low_latency_voice.storage

namespace low_latency_voice.auth

/-- `AuthResult`. -/
structure AuthResult where
  user : UserWithRoles
  userID : UInt32
  username : String
  token : Token
  isAdmin : Bool
  roles : List String
  permissions : Permission

/-- What the control plane keeps of it. -/
def AuthResult.signedIn (r : AuthResult) : User × Token := (⟨r.userID, r.username, r.permissions⟩, r.token)

namespace AuthService

/-- The role names, the permissions and the admin flag that `Register` reports. -/
def rightsOfNewUser (db : Database) (x : Env) (userID : UInt32) : List String × Permission × Bool :=
  if userID = 1 then (["Admin"], 0xFFFFFFFF, true)
  else
    match roleOfNewUser db x userID with
    | some memberRole => ([memberRole.name], memberRole.permissions, false)
    | none => (["Member"], permDefaultMember, false)

/-- `Register`, with all of its result. -/
def register (trimSpace : String → String) (a : Accounts) (x : Env) (username password : String) :
    Accounts × Except AuthError AuthResult :=
  let username := trimSpace username
  if !usernameMatches username then (a, .error .invalidUsernameFormat)
  else if password.utf8ByteSize < 8 then (a, .error .passwordTooShort)
  else if 128 < password.utf8ByteSize then (a, .error .passwordTooLong)
  else
    match x.hash with
    | none => (a, .error .internal)
    | some hash =>
      if x.fails .createUser then (a, .error .internal)
      else
        match a.database.createUser username hash with
        | none => (a, .error .duplicateUser)
        | some (db, userID) =>
          let (roles, permissions, isAdmin) := rightsOfNewUser db x userID
          let user := { SQLiteRepository.scanUser userID ⟨username, hash, true⟩ with roles, permissions, isAdmin }
          match openSession { a with database := assignRole db x userID } x ⟨userID, username, permissions⟩ with
          | (a, .error e) => (a, .error e)
          | (a, .ok (_, token)) => (a, .ok { user, userID, username, token, isAdmin, roles, permissions })

/-- `Login`, with all of its result. -/
def login (trimSpace : String → String) (a : Accounts) (x : Env) (username password : String) :
    Accounts × Except AuthError AuthResult :=
  let username := trimSpace username
  if username = "" ∨ password = "" then (a, .error .invalidCredentials)
  else if x.fails .getUserByUsername then (a, .error .internal)
  else
    match a.database.getUserByUsername username with
    | none => (a, .error .invalidCredentials)
    | some (id, row) =>
      if 4294967296 ≤ id then (a, .error .internal)
      else if !row.isActive then (a, .error .userDisabled)
      else if !x.passwordMatches then (a, .error .invalidCredentials)
      else if x.fails .getUserWithRoles then (a, .error .internal)
      else
        match SQLiteRepository.getUserWithRoles a.database (x.fails .getDefaultRole) (UInt32.ofNat id) with
        | none => (a, .error .internal)
        | some user =>
          match openSession a x ⟨user.id, row.username, user.permissions⟩ with
          | (a, .error e) => (a, .error e)
          | (a, .ok (_, token)) =>
            (a, .ok {
              user
              userID := UInt32.ofNat id
              username := row.username
              token
              isAdmin := user.isAdmin
              roles := user.roles
              permissions := user.permissions })

variable {trimSpace : String → String} {a a' : Accounts} {x : Env} {username password : String}
  {r : AuthResult}

theorem rightsOfNewUser_permissions (db : Database) (x : Env) (userID : UInt32) :
    (rightsOfNewUser db x userID).2.1 = permissionsOfNewUser userID (roleOfNewUser db x userID) := by
  unfold rightsOfNewUser permissionsOfNewUser
  split
  · rfl
  · split <;> simp_all

/-- `Register` as the control plane's model has it. -/
theorem register_signedIn (trimSpace : String → String) (a : Accounts) (x : Env)
    (username password : String) :
    auth.register trimSpace a x username password =
      ((register trimSpace a x username password).1,
        (register trimSpace a x username password).2.map AuthResult.signedIn) := by
  unfold auth.register register
  simp only
  split
  · rfl
  split
  · rfl
  split
  · rfl
  cases x.hash with
  | none => rfl
  | some hash =>
    simp only
    split
    · rfl
    cases a.database.createUser (trimSpace username) hash with
    | none => rfl
    | some created =>
      obtain ⟨db, userID⟩ := created
      simp only [← rightsOfNewUser_permissions]
      generalize { a with database := assignRole db x userID } = a'
      unfold openSession
      cases x.sessionToken with
      | none => rfl
      | some token =>
        simp only
        cases createSession a'.userSessions x.now (x.fault .createSession) token userID
          (x.now + sessionLifetime) <;> rfl

/-- `Login` as the control plane's model has it, where the default role can be read. -/
theorem login_signedIn (hdefault : x.fails .getDefaultRole = false) (trimSpace : String → String)
    (a : Accounts) (username password : String) :
    auth.login trimSpace a x username password =
      ((login trimSpace a x username password).1,
        (login trimSpace a x username password).2.map AuthResult.signedIn) := by
  unfold auth.login login
  simp only [hdefault, ← SQLiteRepository.getUserWithRoles_user]
  split
  · rfl
  split
  · rfl
  cases hfound : a.database.getUserByUsername (trimSpace username) with
  | none => rfl
  | some found =>
    obtain ⟨id, row⟩ := found
    simp only
    split
    · rfl
    rename_i hsmall
    split
    · rfl
    split
    · rfl
    split
    · rfl
    have hid : (UInt32.ofNat id).toNat = id := UInt32.toNat_ofNat_of_lt' (Nat.not_le.mp hsmall)
    have hrow : a.database.users.get? id = some row := by
      have hmem := List.mem_of_find?_eq_some hfound
      exact (GoMap.mem_pairs_iff _ id row).mp hmem
    simp only [SQLiteRepository.getUserWithRoles_eq, SQLiteRepository.getUserByID, hid, hrow,
      Option.map_some, SQLiteRepository.scanUser]
    unfold openSession
    cases x.sessionToken with
    | none => rfl
    | some token =>
      simp only
      cases createSession a.userSessions x.now (x.fault .createSession) token (UInt32.ofNat id)
        (x.now + sessionLifetime) <;> rfl

/-- What a registration that succeeds has stored and reports. -/
theorem register_eq_ok (h : register trimSpace a x username password = (a', .ok r)) :
    ∃ hash db, a.database.createUser (trimSpace username) hash = some (db, r.userID) ∧
      a'.database = assignRole db x r.userID ∧
      (r.roles, r.permissions, r.isAdmin) = rightsOfNewUser db x r.userID := by
  unfold register at h
  simp only at h
  split at h
  · cases h
  split at h
  · cases h
  split at h
  · cases h
  split at h
  · cases h
  rename_i hash _
  split at h
  · cases h
  split at h
  · cases h
  rename_i db userID hcreate
  split at h
  · cases h
  rename_i a'' user' token hopen
  cases h
  refine ⟨hash, db, hcreate, ?_, rfl⟩
  rcases openSession_cases { a with database := assignRole db x userID } x _ with ⟨-, hfail⟩ | ⟨-, _, _, hok, -⟩
  · rw [hfail] at hopen
    cases hopen
  · rw [hok] at hopen
    cases hopen
    rfl

/-- A login that succeeds reports the rights the tables give the user found. -/
theorem login_eq_ok (h : login trimSpace a x username password = (a', .ok r)) :
    ∃ id row, a.database.getUserByUsername (trimSpace username) = some (id, row) ∧ id < 4294967296 ∧
      SQLiteRepository.getUserWithRoles a.database (x.fails .getDefaultRole) (UInt32.ofNat id) =
        some r.user ∧
      r.roles = r.user.roles ∧ r.permissions = r.user.permissions ∧ r.isAdmin = r.user.isAdmin := by
  unfold login at h
  simp only at h
  split at h
  · cases h
  split at h
  · cases h
  split at h
  · cases h
  rename_i id row hfound
  split at h
  · cases h
  rename_i hsmall
  split at h
  · cases h
  split at h
  · cases h
  split at h
  · cases h
  split at h
  · cases h
  rename_i user huser
  split at h
  · cases h
  cases h
  exact ⟨id, row, hfound, Nat.not_le.mp hsmall, huser, rfl, rfl, rfl⟩

/-- A user without another role than the default one has that one, whether the row is there or not. -/
theorem getUserRoles_of_newUser {db : Database} (hroles : db.roles = Database.seeded.roles) {userID : UInt32}
    (hown : ∀ roleID, db.userRoles.get₂ userID.toNat roleID ≠ none → roleID = 3) :
    SQLiteRepository.getUserRoles db false userID = [⟨3, "Member", permDefaultMember, 0, true⟩] := by
  have hadmin : db.userRoles.get₂ userID.toNat 1 = none := by
    by_contra hsome
    exact absurd (hown 1 hsome) (by decide)
  have hmoderator : db.userRoles.get₂ userID.toNat 2 = none := by
    by_contra hsome
    exact absurd (hown 2 hsome) (by decide)
  have hdefault : db.getDefaultRole = some ⟨3, "Member", permDefaultMember, 0, true⟩ := by
    unfold Database.getDefaultRole
    rw [hroles]
    rfl
  unfold SQLiteRepository.getUserRoles
  rw [hroles, hdefault]
  cases hmember : db.userRoles.get₂ userID.toNat 3 <;>
    simp [Database.seeded, hadmin, hmoderator, hmember]

/-- The rights a new user other than the creator is told of: those of the default role, also where the role
could not be read. -/
theorem rightsOfNewUser_of_ne {db : Database} (hroles : db.roles = Database.seeded.roles) (x : Env)
    {userID : UInt32} (hother : userID ≠ 1) :
    rightsOfNewUser db x userID = (["Member"], permDefaultMember, false) := by
  have hdefault : db.getDefaultRole = some ⟨3, "Member", permDefaultMember, 0, true⟩ := by
    unfold Database.getDefaultRole
    rw [hroles]
    rfl
  unfold rightsOfNewUser roleOfNewUser
  rw [if_neg hother, if_neg hother, hdefault]
  split
  · rename_i hrole
    split at hrole
    · cases hrole
    · cases hrole
      rfl
  · rfl

/-- A login right after a registration reports the same rights as the registration did, whatever failed while
the role was looked up and assigned. -/
theorem login_after_register {x' : Env} {username' password' : String} {a'' : Accounts} {r' : AuthResult}
    (hsettled : RolesSettled a.database) (hregister : register trimSpace a x username password = (a', .ok r))
    (hname : trimSpace username' = trimSpace username) (hdefault : x'.fails .getDefaultRole = false)
    (hlogin : login trimSpace a' x' username' password' = (a'', .ok r')) :
    r'.permissions = r.permissions ∧ r'.isAdmin = r.isAdmin := by
  obtain ⟨hash, db, hcreate, hassigned, hrights⟩ := register_eq_ok hregister
  obtain ⟨id, row, hfound, hsmall, hview, -, hpermissions, hisAdmin⟩ := login_eq_ok hlogin
  have hdb := hsettled.createUser hcreate
  obtain ⟨-, rfl, huserID⟩ := Database.createUser_eq_some hcreate
  -- The row that the login finds is the new one.
  have hnewRow : ((a.database.users.insert ⟨trimSpace username, hash, true⟩).1).get?
      (a.database.users.seq + 1) = some ⟨trimSpace username, hash, true⟩ := by
    rw [Table.get?_insert, if_pos rfl]
  have hrow : a'.database.users.get? id = some row :=
    (GoMap.mem_pairs_iff _ id row).mp (List.mem_of_find?_eq_some hfound)
  have hmatches : Database.nocase row.username (trimSpace username) = true := by
    rw [← hname]
    simpa using List.find?_some hfound
  rw [hassigned, assignRole_users] at hrow
  have hid : id = a.database.users.seq + 1 := hdb.names _ _ _ _ hrow hnewRow hmatches
  have hnat : r.userID.toNat = id := by
    rw [huserID, ← hid]
    exact UInt32.toNat_ofNat_of_lt' hsmall
  have hof : UInt32.ofNat id = r.userID := by rw [← hnat, UInt32.ofNat_toNat]
  rw [hof, hassigned, hdefault, SQLiteRepository.getUserWithRoles_eq] at hview
  obtain ⟨u, -, hu⟩ := Option.map_eq_some_iff.mp hview
  have hviewPermissions : r'.user.permissions = SQLiteRepository.getEffectivePermissions
      (assignRole { a.database with users := (a.database.users.insert ⟨trimSpace username, hash, true⟩).1 } x
        r.userID) false r.userID := by
    rw [← hu]
  have hviewAdmin : r'.user.isAdmin = hasPermission r'.user.permissions permAdmin := by
    rw [← hu]
  rw [hpermissions, hisAdmin, hviewAdmin, hviewPermissions]
  by_cases hcreator : r.userID = 1
  · unfold rightsOfNewUser at hrights
    rw [if_pos hcreator] at hrights
    simp only [Prod.mk.injEq] at hrights
    rw [hrights.2.1, hrights.2.2]
    unfold SQLiteRepository.getEffectivePermissions
    rw [if_pos hcreator]
    exact ⟨rfl, by decide⟩
  · rw [rightsOfNewUser_of_ne hdb.roles x hcreator] at hrights
    simp only [Prod.mk.injEq] at hrights
    rw [hrights.2.1, hrights.2.2]
    unfold SQLiteRepository.getEffectivePermissions
    rw [if_neg hcreator, getUserRoles_of_newUser]
    · exact ⟨by decide, by decide⟩
    · rw [(assignRole_tables _ x r.userID).2]
      exact hdb.roles
    · intro roleID hsome
      rcases userRoles_assignRole { a.database with
          users := (a.database.users.insert ⟨trimSpace username, hash, true⟩).1 } x r.userID
          r.userID.toNat roleID with hsame | ⟨-, -, -, role, hrole, rfl, -⟩
      · rw [hsame, hnat, hid] at hsome
        have hold := hsettled.assigned _ _ hsome
        exact absurd rfl (Table.ne_succ_seq hold)
      · unfold roleOfNewUser at hrole
        rw [if_neg hcreator] at hrole
        split at hrole
        · cases hrole
        · unfold Database.getDefaultRole at hrole
          rw [hdb.roles] at hrole
          cases hrole
          rfl

end AuthService

end low_latency_voice.auth

import LowLatencyVoice.Auth.Password
import LowLatencyVoice.Auth.Service

open low_latency_voice.model low_latency_voice.storage

namespace low_latency_voice.auth

/-- No row of `users` has this name. -/
def NameFree (db : Database) (username : String) : Prop :=
  db.users.rows.pairs.any (fun e => Database.nocase e.2.username username) = false

theorem createUser_eq {db : Database} {username hash : String} (h : NameFree db username) :
    db.createUser username hash = some ({ db with users := (db.users.insert ⟨username, hash, true⟩).1 },
      UInt32.ofNat (db.users.seq + 1)) := by
  unfold NameFree at h
  simp [Database.createUser, h, Table.insert]

theorem createUser_eq_none {db : Database} {username hash : String} (h : ¬ NameFree db username) :
    db.createUser username hash = none := by
  unfold NameFree at h
  rw [Bool.not_eq_false] at h
  simp [Database.createUser, h]

/-- A name that has a row is not free. -/
theorem not_nameFree {db : Database} {id : Nat} {row : UserRow} (h : db.users.get? id = some row) :
    ¬ NameFree db row.username := by
  unfold NameFree
  rw [Bool.not_eq_false, List.any_eq_true]
  exact ⟨(id, row), (GoMap.mem_pairs_iff _ id row).mpr h, beq_self_eq_true _⟩

@[simp] theorem assignRole_users (db : Database) (x : Env) (userID : UInt32) :
    (assignRole db x userID).users = db.users := by
  unfold assignRole Database.assignUserRole
  split
  · rfl
  · split
    · rfl
    · split <;> rfl

theorem assignRole_tables (db : Database) (x : Env) (userID : UInt32) :
    (assignRole db x userID).channels = db.channels ∧ (assignRole db x userID).roles = db.roles := by
  unfold assignRole
  split
  · exact ⟨rfl, rfl⟩
  split
  · exact ⟨rfl, rfl⟩
  unfold Database.assignUserRole
  split <;> exact ⟨rfl, rfl⟩

theorem roleOfNewUser_mem {db : Database} {x : Env} {userID : UInt32} {role : Role}
    (h : roleOfNewUser db x userID = some role) : role ∈ db.roles := by
  unfold roleOfNewUser at h
  split at h
  · split at h
    · cases h
    · exact List.mem_of_find?_eq_some h
  split at h
  · cases h
  · exact List.mem_of_mem_filter (List.minOn?_mem h)

/-- Which roles a registration changes. -/
theorem userRoles_assignRole (db : Database) (x : Env) (userID : UInt32) (id : Nat) (roleID : UInt32) :
    (assignRole db x userID).userRoles.get₂ id roleID = db.userRoles.get₂ id roleID ∨
      id = userID.toNat ∧ db.users.get? id ≠ none ∧ x.fails .assignUserRole = false ∧
        ∃ role, roleOfNewUser db x userID = some role ∧ role.id = roleID ∧
          db.userRoles.get₂ id roleID = none := by
  unfold assignRole
  split
  · exact .inl rfl
  rename_i role hrole
  split
  · exact .inl rfl
  rename_i hcall
  unfold Database.assignUserRole
  split
  · rename_i hassigns
    simp only [GoMap.get₂_put₂]
    split
    · rename_i hpair
      obtain ⟨rfl, rfl⟩ := hpair
      exact .inr ⟨rfl, Option.isSome_iff_ne_none.mp hassigns.1, by simpa using hcall, role, hrole, rfl,
        hassigns.2.2⟩
    · exact .inl rfl
  · exact .inl rfl

/-- The role a registration assigns is there afterwards. -/
theorem userRoles_assignRole_ne_none {db : Database} {x : Env} {userID : UInt32} {role : Role}
    (huser : db.users.get? userID.toNat ≠ none) (hcall : x.fails .assignUserRole = false)
    (hrole : roleOfNewUser db x userID = some role) :
    (assignRole db x userID).userRoles.get₂ userID.toNat role.id ≠ none := by
  have hknown : db.roles.any (fun r => r.id == role.id) = true := by
    rw [List.any_eq_true]
    exact ⟨role, roleOfNewUser_mem hrole, by simp⟩
  simp only [assignRole, hrole, hcall, Bool.false_eq_true, if_false, Database.assignUserRole]
  split
  · simp
  · rename_i hstays
    intro hnone
    exact hstays ⟨Option.isSome_iff_ne_none.mpr huser, hknown, hnone⟩

section registration

variable (trimSpace : String → String) (argon2 : Argon2) (compareHashAndPassword : GoBytes → GoBytes → Bool)

/-- `Register` with the hash of the password it is given, under a salt the random
generator gives or fails to give. -/
def attempt (a : Accounts) (x : Env) (salt : Option GoBytes) (username password : String) :
    Accounts × Except AuthError (User × Token) :=
  register trimSpace a { x with hash := hashPassword argon2 password salt } username password

/-- The tables a registration writes to are the same. -/
structure SameTables (a a' : Accounts) : Prop where
  users : a'.database.users = a.database.users
  userRoles : a'.database.userRoles = a.database.userRoles
  userSessions : a'.userSessions = a.userSessions

/-- Some attempt at this registration succeeds. -/
def CanSucceed (a : Accounts) (username password : String) : Prop :=
  ∃ x salt result, (attempt trimSpace argon2 a x salt username password).2 = .ok result

/-- An error has changed nothing and the registration can succeed as well as before; a
success has left a user of that name whose password verifies, and the token returned is
that user's session. -/
def AllOrNothing (a : Accounts) (x : Env) (salt : Option GoBytes) (username password : String) : Prop :=
  match attempt trimSpace argon2 a x salt username password with
  | (a', .error _) => SameTables a a' ∧
    (CanSucceed trimSpace argon2 a username password → CanSucceed trimSpace argon2 a' username password)
  | (a', .ok (user, token)) =>
    (∃ id row, a'.database.users.get? id = some row ∧ user.id = UInt32.ofNat id ∧
      row.username = trimSpace username ∧
      verifyPassword argon2 compareHashAndPassword password row.passwordHash = .ok true) ∧
    ∃ session, a'.userSessions.get? token = some session ∧ session.userID = user.id

/-- `Register` gets as far as the new row of `users`. -/
structure StoresUser (a : Accounts) (x : Env) (salt : Option GoBytes) (username password : String) :
    Prop where
  name : usernameMatches (trimSpace username) = true
  longEnough : 8 ≤ password.utf8ByteSize
  shortEnough : password.utf8ByteSize ≤ 128
  salt : salt ≠ none
  statement : x.fails .createUser = false
  free : NameFree a.database (trimSpace username)

/-- The random generator fails at the session token, or its row cannot be inserted. -/
def NoSession (a : Accounts) (x : Env) : Prop :=
  ∀ token, x.sessionToken = some token →
    x.fault .createSession = .exec ∨ (a.userSessions.get? token).isSome = true

variable {trimSpace} {a : Accounts} {x : Env} {salt : Option GoBytes} {username password : String}

/-- Up to the new row nothing is written. -/
theorem attempt_of_not_storesUser (h : ¬ StoresUser trimSpace a x salt username password) :
    ∃ e, attempt trimSpace argon2 a x salt username password = (a, .error e) := by
  unfold attempt register
  simp only
  split
  · exact ⟨_, rfl⟩
  · rename_i hname
    split
    · exact ⟨_, rfl⟩
    · rename_i hshort
      split
      · exact ⟨_, rfl⟩
      · rename_i hlong
        cases salt with
        | none => exact ⟨_, rfl⟩
        | some salt =>
          obtain ⟨encoded, hencoded, -⟩ := toList_hashPassword argon2 password salt
          rw [hencoded]
          simp only
          split
          · exact ⟨_, rfl⟩
          · rename_i hstatement
            have htaken : ¬ NameFree a.database (trimSpace username) := fun hfree => h {
              name := by simpa using hname
              longEnough := by omega
              shortEnough := by omega
              salt := by simp
              statement := (Bool.not_eq_true _).mp hstatement
              free := hfree }
            rw [createUser_eq_none htaken]
            exact ⟨_, rfl⟩

/-- From the new row on the session decides, and the row stays either way. -/
theorem attempt_of_storesUser (h : StoresUser trimSpace a x salt username password) :
    ∃ db hash role, hashPassword argon2 password salt = some hash ∧
      db.users = (a.database.users.insert ⟨trimSpace username, hash, true⟩).1 ∧
      attempt trimSpace argon2 a x salt username password =
        openSession ⟨db, a.userSessions⟩ x ⟨UInt32.ofNat (a.database.users.seq + 1), trimSpace username,
          permissionsOfNewUser (UInt32.ofNat (a.database.users.seq + 1)) role⟩ := by
  obtain ⟨salt, rfl⟩ := Option.ne_none_iff_exists'.mp h.salt
  obtain ⟨hash, hhash, -⟩ := toList_hashPassword argon2 password salt
  -- the tables once the row is there and the role has been tried
  have hassigned := assignRole_users
    { a.database with users := (a.database.users.insert ⟨trimSpace username, hash, true⟩).1 }
    { x with hash := some hash } (UInt32.ofNat (a.database.users.seq + 1))
  refine ⟨_, hash, roleOfNewUser
    { a.database with users := (a.database.users.insert ⟨trimSpace username, hash, true⟩).1 }
    { x with hash := some hash } (UInt32.ofNat (a.database.users.seq + 1)), hhash, hassigned, ?_⟩
  have hstatement : ({ x with hash := some hash } : Env).fails .createUser = false := h.statement
  unfold attempt register
  simp only [h.name, Bool.not_true, Bool.false_eq_true, if_false, Nat.not_lt.mpr h.longEnough,
    Nat.not_lt.mpr h.shortEnough, hhash, hstatement, createUser_eq h.free]
  rfl

/-- The tail of `Register`: the token is stored and returned, or nothing is. -/
theorem openSession_cases (a : Accounts) (x : Env) (user : User) :
    (NoSession a x ∧ openSession a x user = (a, .error .internal)) ∨
    ¬ NoSession a x ∧ ∃ token rows,
      openSession a x user = ({ a with userSessions := rows }, .ok (user, token)) ∧
      ∃ session, rows.get? token = some session ∧ session.userID = user.id := by
  unfold openSession NoSession
  cases htoken : x.sessionToken with
  | none =>
    left
    refine ⟨fun token h => ?_, rfl⟩
    cases h
  | some token =>
    unfold createSession
    by_cases hfail : x.fault .createSession = .exec ∨ (a.userSessions.get? token).isSome = true
    · left
      refine ⟨fun token' h => ?_, by simp [hfail]⟩
      cases h
      exact hfail
    · right
      refine ⟨fun hall => hfail (hall token rfl), token,
        a.userSessions.set token ⟨token, user.id, x.now + sessionLifetime, x.now⟩, by simp [hfail],
        ⟨token, user.id, x.now + sessionLifetime, x.now⟩, by simp, rfl⟩

/-- A registration whose name has a row never succeeds. -/
theorem not_canSucceed {id : Nat} {row : UserRow} (h : a.database.users.get? id = some row)
    (hname : row.username = trimSpace username) : ¬ CanSucceed trimSpace argon2 a username password := by
  rintro ⟨x, salt, result, hok⟩
  have hstuck : ¬ StoresUser trimSpace a x salt username password := by
    intro hstores
    have hfree := hstores.free
    rw [← hname] at hfree
    exact not_nameFree h hfree
  obtain ⟨e, heq⟩ := attempt_of_not_storesUser argon2 hstuck
  rw [heq] at hok
  cases hok

/-- A key derivation that ignores its input. -/
def flatArgon2 : Argon2 where
  idKey _ _ _ _ _ keyLen := List.replicate keyLen.toNat 0
  length_idKey _ _ _ _ _ _ := List.length_replicate

/-- A new server. -/
def firstStart : Accounts := ⟨.seeded, ∅⟩

/-- A server where only the insert of a session fails, if it does. -/
def signingUp (fault : Fault) : Env where
  now := 0
  fault call := if call = .createSession then fault else .none
  errorText := ""
  hash := none
  passwordMatches := false
  sessionToken := some [0x31]
  voiceToken := none
  allowMessage := true
  order := []

end registration

end low_latency_voice.auth

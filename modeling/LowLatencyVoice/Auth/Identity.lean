import LowLatencyVoice.Lib.Machine
import LowLatencyVoice.Auth.Registration
import LowLatencyVoice.Auth.Rights

open low_latency_voice.model low_latency_voice.storage

namespace low_latency_voice.auth

/-- A call on the accounts, from the REST endpoints or from the handlers of a connection,
which make the same ones. -/
inductive AccountCall where
  | register (x : Env) (salt : Option GoBytes) (username password : String)
  | login (x : Env) (username password : String)
  | validateSession (x : Env) (token : String)
  | deleteUserSessions (x : Env) (userID : UInt32)

/-- The session a sign-in opens at `now`. -/
def sessionOf (now : Time) (user : User) (token : Token) : UserSession :=
  ⟨token, user.id, now + sessionLifetime, now⟩

section calls

variable (trimSpace : String → String) (argon2 : Argon2) (compareHashAndPassword : GoBytes → GoBytes → Bool)

/-- `Login` with `VerifyPassword` on the row of the name. -/
def signIn (a : Accounts) (x : Env) (username password : String) : Accounts × Except AuthError (User × Token) :=
  let passwordMatches :=
    match a.database.getUserByUsername (trimSpace username) with
    | none => false
    | some (_, row) =>
      match verifyPassword argon2 compareHashAndPassword password row.passwordHash with
      | .ok isMatch => isMatch
      | .error _ => false
  login trimSpace a { x with passwordMatches } username password

/-- The tables under these calls, and what a sign-in returns. -/
def accountCalls : Machine Accounts AccountCall (Option (User × Token)) where
  step a
    | .register x salt username password =>
      let (a, result) := attempt trimSpace argon2 a x salt username password
      (a, result.toOption)
    | .login x username password =>
      let (a, result) := signIn trimSpace argon2 compareHashAndPassword a x username password
      (a, result.toOption)
    | .validateSession x token => ((validateSession trimSpace a x token).1, none)
    | .deleteUserSessions x userID =>
      ({ a with userSessions := deleteUserSessions a.userSessions (x.fault .deleteUserSessions) userID }, none)

/-- A new server after some calls. -/
def accountsAfter (cs : List AccountCall) : Accounts :=
  (accountCalls trimSpace argon2 compareHashAndPassword).run firstStart cs

/-- The bytes of a token once `ValidateSession` has trimmed it. -/
def tokenOf (token : String) : Token := (trimSpace token).toUTF8.data.toList

/-- The call signs somebody in, with this session. -/
def Issues (a : Accounts) (c : AccountCall) (s : UserSession) : Prop :=
  ∃ user token, ((accountCalls trimSpace argon2 compareHashAndPassword).step a c).2 = some (user, token) ∧
    match c with
    | .register x _ _ _ | .login x _ _ => s = sessionOf x.now user token
    | _ => False

/-- The call ends the session: a kick of its user, or a look at it once it has expired. -/
def Ends (s : UserSession) : AccountCall → Prop
  | .deleteUserSessions x userID => x.fault .deleteUserSessions ≠ .exec ∧ s.userID = userID
  | .validateSession x token => tokenOf trimSpace token = s.token ∧ s.token ≠ [] ∧ x.fault .getSession ≠ .query ∧
    s.expiresAt < x.now ∧ x.fault .deleteSession ≠ .exec
  | _ => False

/-- What a sign-in does to the sessions: it opens one under a fresh token and returns it,
or fails and opens none. -/
def SignsIn (rows rows' : UserSessions) (now : Time) : Except AuthError (User × Token) → Prop
  | .error _ => rows' = rows
  | .ok (user, token) => rows.get? token = none ∧ rows' = rows.set token (sessionOf now user token)

theorem signsIn_openSession (a : Accounts) (x : Env) (user : User) :
    (openSession a x user).1.database = a.database ∧
      SignsIn a.userSessions (openSession a x user).1.userSessions x.now (openSession a x user).2 := by
  unfold openSession
  cases x.sessionToken with
  | none => exact ⟨rfl, rfl⟩
  | some token =>
    simp only [createSession]
    by_cases hrefused : x.fault .createSession = .exec ∨ (a.userSessions.get? token).isSome
    · rw [if_pos hrefused]
      exact ⟨rfl, rfl⟩
    · rw [if_neg hrefused]
      rw [not_or, Option.not_isSome_iff_eq_none] at hrefused
      exact ⟨rfl, hrefused.2, rfl⟩

variable {trimSpace argon2 compareHashAndPassword} {a : Accounts} {x : Env} {salt : Option GoBytes}
  {username password : String}

theorem signsIn_attempt : SignsIn a.userSessions (attempt trimSpace argon2 a x salt username password).1.userSessions
    x.now (attempt trimSpace argon2 a x salt username password).2 := by
  by_cases hstores : StoresUser trimSpace a x salt username password
  · obtain ⟨db, hash, role, -, -, heq⟩ := attempt_of_storesUser argon2 hstores
    rw [heq]
    exact (signsIn_openSession ⟨db, a.userSessions⟩ x _).2
  · obtain ⟨e, heq⟩ := attempt_of_not_storesUser argon2 hstores
    rw [heq]
    rfl

/-- `Login` leaves all tables but the sessions alone. -/
theorem signsIn_login : (login trimSpace a x username password).1.database = a.database ∧
    SignsIn a.userSessions (login trimSpace a x username password).1.userSessions x.now
      (login trimSpace a x username password).2 := by
  unfold login
  simp only
  split
  · exact ⟨rfl, rfl⟩
  split
  · exact ⟨rfl, rfl⟩
  split
  · exact ⟨rfl, rfl⟩
  split
  · exact ⟨rfl, rfl⟩
  split
  · exact ⟨rfl, rfl⟩
  split
  · exact ⟨rfl, rfl⟩
  split
  · exact ⟨rfl, rfl⟩
  split
  · exact ⟨rfl, rfl⟩
  exact signsIn_openSession a x _

/-- `ValidateSession` deletes the row of the token it is given, if that has expired and
neither statement fails. -/
theorem get?_validateSession_iff (x : Env) (token : String) (s : UserSession) :
    (validateSession trimSpace a x token).1.userSessions.get? s.token = some s ↔
      a.userSessions.get? s.token = some s ∧
        ¬ (tokenOf trimSpace token = s.token ∧ s.token ≠ [] ∧ x.fault .getSession ≠ .query ∧
          s.expiresAt < x.now ∧ x.fault .deleteSession ≠ .exec) := by
  unfold validateSession
  simp only
  rw [show (trimSpace token).toUTF8.data.toList = tokenOf trimSpace token from rfl]
  by_cases hempty : tokenOf trimSpace token = []
  · rw [if_pos hempty]
    refine ⟨fun hget => ⟨hget, ?_⟩, And.left⟩
    rintro ⟨heq, hne, -⟩
    exact hne (heq.symm.trans hempty)
  · rw [if_neg hempty]
    unfold getSession
    by_cases hquery : x.fault .getSession = .query
    · simp [hquery]
    · rw [if_neg hquery]
      cases hrow : a.userSessions.get? (tokenOf trimSpace token) with
      | none =>
        refine ⟨fun hget => ⟨hget, ?_⟩, And.left⟩
        rintro ⟨heq, -⟩
        rw [heq] at hrow
        exact absurd (hrow.symm.trans hget) (Option.some_ne_none s).symm
      | some row =>
        by_cases hexpired : row.expiresAt < x.now
        · simp only [if_pos hexpired]
          unfold deleteSession
          by_cases hexec : x.fault .deleteSession = .exec
          · simp [hexec]
          · simp only [if_neg hexec, GoMap.get?_delete]
            by_cases heq : s.token = tokenOf trimSpace token
            · rw [if_pos heq]
              refine ⟨fun hnone => (nomatch hnone), fun ⟨hget, hlives⟩ => ?_⟩
              rw [heq, hrow] at hget
              cases hget
              exact absurd ⟨heq.symm, heq ▸ hempty, hquery, hexpired, hexec⟩ hlives
            · rw [if_neg heq]
              exact ⟨fun hget => ⟨hget, fun hends => heq hends.1.symm⟩, And.left⟩
        · simp only [if_neg hexpired]
          refine ⟨fun hget => ⟨hget, ?_⟩, And.left⟩
          rintro ⟨heq, -, -, hpast, -⟩
          rw [heq, hget] at hrow
          cases hrow
          exact hexpired hpast

/-- A session is in the table when it has just been opened, or was there and is not ended. -/
theorem get?_step_iff (c : AccountCall) (s : UserSession) :
    ((accountCalls trimSpace argon2 compareHashAndPassword).next a c).userSessions.get? s.token = some s ↔
      Issues trimSpace argon2 compareHashAndPassword a c s ∨
        a.userSessions.get? s.token = some s ∧ ¬ Ends trimSpace s c := by
  have hsignsIn : ∀ (rows' : UserSessions) (now : Time) (result : Except AuthError (User × Token)),
      SignsIn a.userSessions rows' now result →
      (rows'.get? s.token = some s ↔
        (∃ user token, result.toOption = some (user, token) ∧ s = sessionOf now user token) ∨
          a.userSessions.get? s.token = some s ∧ ¬ False) := by
    intro rows' now result h
    cases result with
    | error e =>
      have hrows : rows' = a.userSessions := h
      rw [hrows]
      refine ⟨fun hget => .inr ⟨hget, id⟩, ?_⟩
      rintro (⟨user, token, hnone, -⟩ | ⟨hget, -⟩)
      · cases hnone
      · exact hget
    | ok signedIn =>
      obtain ⟨user, token⟩ := signedIn
      obtain ⟨hfresh, hrows⟩ := h
      rw [hrows, GoMap.get?_set]
      constructor
      · intro hget
        split at hget
        · cases hget
          exact .inl ⟨user, token, rfl, rfl⟩
        · exact .inr ⟨hget, id⟩
      · rintro (⟨user', token', hsome, rfl⟩ | ⟨hget, -⟩)
        · cases hsome
          exact if_pos rfl
        · rw [if_neg]
          · exact hget
          · intro heq
            rw [heq, hfresh] at hget
            cases hget
  cases c with
  | register x salt username password => exact hsignsIn _ _ _ signsIn_attempt
  | login x username password => exact hsignsIn _ _ _ signsIn_login.2
  | validateSession x token =>
    have hnever : ¬ Issues trimSpace argon2 compareHashAndPassword a (.validateSession x token) s := by
      rintro ⟨user, token', hnone, -⟩
      cases hnone
    simp only [hnever, false_or, Ends]
    change (validateSession trimSpace a x token).1.userSessions.get? s.token = some s ↔ _
    exact get?_validateSession_iff x token s
  | deleteUserSessions x userID =>
    have hnever : ¬ Issues trimSpace argon2 compareHashAndPassword a (.deleteUserSessions x userID) s := by
      rintro ⟨user, token', hnone, -⟩
      cases hnone
    simp only [hnever, false_or, Ends]
    change (deleteUserSessions a.userSessions (x.fault .deleteUserSessions) userID).get? s.token = some s ↔ _
    unfold deleteUserSessions
    by_cases hfault : x.fault .deleteUserSessions = .exec
    · simp [hfault]
    · simp only [if_neg hfault, GoMap.get?_deleteWhere, Option.filter_eq_some_iff]
      simp [hfault]

variable (trimSpace argon2 compareHashAndPassword)

/-- The sessions of a server: those of a sign-in that nothing has ended since. -/
theorem get?_accountsAfter_iff (cs : List AccountCall) (s : UserSession) :
    (accountsAfter trimSpace argon2 compareHashAndPassword cs).userSessions.get? s.token = some s ↔
      Machine.Since (fun pre c => Issues trimSpace argon2 compareHashAndPassword
        (accountsAfter trimSpace argon2 compareHashAndPassword pre) c s) (Ends trimSpace s) cs := by
  induction cs using List.reverseRecOn with
  | nil =>
    refine iff_of_false ?_ Machine.not_since_nil
    rw [accountsAfter, Machine.run_nil, firstStart, GoMap.get?_empty]
    exact (Option.some_ne_none s).symm
  | append_singleton cs c ih =>
    rw [Machine.since_concat_iff, ← ih, accountsAfter, Machine.run_concat]
    exact get?_step_iff c s

/-- A row of the table has its own token. -/
theorem token_of_get? (cs : List AccountCall) {token : Token} {s : UserSession}
    (h : (accountsAfter trimSpace argon2 compareHashAndPassword cs).userSessions.get? token = some s) :
    s.token = token := by
  let keyed (a : Accounts) : Prop := ∀ token s, a.userSessions.get? token = some s → s.token = token
  refine Machine.run_stable _ keyed ?_ ?_ cs token s h
  · intro a c hkeyed token s hget
    have hsignsIn : ∀ (rows' : UserSessions) (now : Time) (result : Except AuthError (User × Token)),
        SignsIn a.userSessions rows' now result → rows'.get? token = some s → s.token = token := by
      intro rows' now result hsigns hget
      cases result with
      | error e =>
        rw [show rows' = a.userSessions from hsigns] at hget
        exact hkeyed token s hget
      | ok signedIn =>
        rw [hsigns.2, GoMap.get?_set] at hget
        split at hget
        · rename_i heq
          cases hget
          exact heq.symm
        · exact hkeyed token s hget
    cases c with
    | register x salt username password => exact hsignsIn _ _ _ signsIn_attempt hget
    | login x username password => exact hsignsIn _ _ _ signsIn_login.2 hget
    | validateSession x token' =>
      change (validateSession trimSpace a x token').1.userSessions.get? token = some s at hget
      unfold validateSession at hget
      simp only at hget
      split at hget
      · exact hkeyed token s hget
      · split at hget
        · exact hkeyed token s hget
        · exact hkeyed token s (get?_of_deleteSession hget)
        · exact hkeyed token s hget
    | deleteUserSessions x userID => exact hkeyed token s (get?_of_deleteUserSessions hget).1
  · intro token s hget
    rw [firstStart, GoMap.get?_empty] at hget
    cases hget

/-- `strings.TrimPrefix(authHeader, "Bearer ")`. -/
def bearer (authHeader : String) : String :=
  if authHeader.startsWith "Bearer " then String.ofList (authHeader.toList.drop 7) else authHeader

/-- The answers of `/api/auth/me`. -/
inductive MeAnswer where
  | ok (user : UserWithRoles)
  | unauthorized
  | internalServerError
  deriving DecidableEq

/-- `/api/auth/me` for a request with this header. -/
def me (a : Accounts) (x : Env) (authHeader : String) : Accounts × MeAnswer :=
  match validateSession trimSpace a x (trimSpace (bearer authHeader)) with
  | (a, none) => (a, .unauthorized)
  | (a, some session) =>
    if x.fails .getUserWithRoles then (a, .internalServerError)
    else
      match SQLiteRepository.getUserWithRoles a.database (x.fails .getDefaultRole) session.userID with
      | none => (a, .internalServerError)
      | some user => (a, .ok user)

variable {trimSpace argon2 compareHashAndPassword}

/-- What `ValidateSession` finds in the table. -/
theorem validateSession_eq_some_iff {a : Accounts} {x : Env} {token : String} {s : UserSession} :
    (validateSession trimSpace a x token).2 = some s ↔ tokenOf trimSpace token ≠ [] ∧
      x.fault .getSession ≠ .query ∧ a.userSessions.get? (tokenOf trimSpace token) = some s ∧ x.now ≤ s.expiresAt := by
  unfold validateSession getSession
  simp only
  rw [show (trimSpace token).toUTF8.data.toList = tokenOf trimSpace token from rfl]
  by_cases hempty : tokenOf trimSpace token = []
  · simp [hempty]
  · rw [if_neg hempty]
    by_cases hquery : x.fault .getSession = .query
    · simp [hquery]
    · rw [if_neg hquery]
      cases hrow : a.userSessions.get? (tokenOf trimSpace token) with
      | none => simp
      | some row =>
        by_cases hexpired : row.expiresAt < x.now
        · simp only [if_pos hexpired]
          refine ⟨fun hnone => (nomatch hnone), ?_⟩
          rintro ⟨-, -, hsome, hlive⟩
          cases hsome
          exact absurd hexpired (Int.not_lt.mpr hlive)
        · simp only [if_neg hexpired]
          constructor
          · intro hsome
            cases hsome
            exact ⟨hempty, hquery, rfl, Int.not_lt.mp hexpired⟩
          · rintro ⟨-, -, hsome, -⟩
            exact hsome

variable (trimSpace argon2 compareHashAndPassword)

/-- Whom a token stands for, after any calls: the user whose last sign-in under that token
succeeded, unless the session has expired, has been found expired, or the user has been
kicked since. `ValidateSession` says so to both front ends, and `/api/auth/me` answers with
the rights of exactly that user. -/
theorem token_identifies (cs : List AccountCall) (x : Env) :
    (∀ token s,
      (validateSession trimSpace (accountsAfter trimSpace argon2 compareHashAndPassword cs) x token).2 = some s ↔
        s.token = tokenOf trimSpace token ∧ s.token ≠ [] ∧ x.fault .getSession ≠ .query ∧ x.now ≤ s.expiresAt ∧
          Machine.Since (fun pre c => Issues trimSpace argon2 compareHashAndPassword
            (accountsAfter trimSpace argon2 compareHashAndPassword pre) c s) (Ends trimSpace s) cs) ∧
    ∀ authHeader user,
      (me trimSpace (accountsAfter trimSpace argon2 compareHashAndPassword cs) x authHeader).2 = .ok user ↔
        x.fails .getUserWithRoles = false ∧ ∃ s : UserSession,
          s.token = tokenOf trimSpace (trimSpace (bearer authHeader)) ∧ s.token ≠ [] ∧
          x.fault .getSession ≠ .query ∧ x.now ≤ s.expiresAt ∧
          Machine.Since (fun pre c => Issues trimSpace argon2 compareHashAndPassword
            (accountsAfter trimSpace argon2 compareHashAndPassword pre) c s) (Ends trimSpace s) cs ∧
          SQLiteRepository.getUserWithRoles (accountsAfter trimSpace argon2 compareHashAndPassword cs).database
            (x.fails .getDefaultRole) s.userID = some user := by
  set a := accountsAfter trimSpace argon2 compareHashAndPassword cs with ha
  have hvalidate : ∀ token s, (validateSession trimSpace a x token).2 = some s ↔
      s.token = tokenOf trimSpace token ∧ s.token ≠ [] ∧ x.fault .getSession ≠ .query ∧ x.now ≤ s.expiresAt ∧
        Machine.Since (fun pre c => Issues trimSpace argon2 compareHashAndPassword
          (accountsAfter trimSpace argon2 compareHashAndPassword pre) c s) (Ends trimSpace s) cs := by
    intro token s
    rw [validateSession_eq_some_iff, ← get?_accountsAfter_iff, ← ha]
    constructor
    · rintro ⟨hne, hquery, hget, hlive⟩
      have hown := token_of_get? trimSpace argon2 compareHashAndPassword cs hget
      rw [← hown] at hne hget
      exact ⟨hown, hne, hquery, hlive, hget⟩
    · rintro ⟨hown, hne, hquery, hlive, hget⟩
      rw [← hown]
      exact ⟨hne, hquery, hget, hlive⟩
  refine ⟨hvalidate, fun authHeader user => ?_⟩
  have hdatabase : (validateSession trimSpace a x (trimSpace (bearer authHeader))).1.database = a.database := by
    unfold validateSession
    simp only
    split
    · rfl
    · split <;> rfl
  unfold me
  cases hfound : validateSession trimSpace a x (trimSpace (bearer authHeader)) with
  | mk a' found =>
    rw [hfound] at hdatabase
    cases found with
    | none =>
      refine iff_of_false (fun hok => (nomatch hok)) ?_
      rintro ⟨-, s, hown, hne, hquery, hlive, hsince, -⟩
      have hsome := (hvalidate _ s).mpr ⟨hown, hne, hquery, hlive, hsince⟩
      rw [hfound] at hsome
      cases hsome
    | some s =>
      have hsession : ∀ s' : UserSession, s'.token = tokenOf trimSpace (trimSpace (bearer authHeader)) ∧
          s'.token ≠ [] ∧ x.fault .getSession ≠ .query ∧ x.now ≤ s'.expiresAt ∧
          Machine.Since (fun pre c => Issues trimSpace argon2 compareHashAndPassword
            (accountsAfter trimSpace argon2 compareHashAndPassword pre) c s') (Ends trimSpace s') cs ↔ s' = s := by
        intro s'
        rw [← hvalidate, hfound]
        exact ⟨fun h => (Option.some.inj h).symm, fun h => by rw [h]⟩
      simp only
      cases hfails : x.fails .getUserWithRoles with
      | true => simp
      | false =>
        simp only [Bool.false_eq_true, if_false, true_and]
        rw [show a'.database = a.database from hdatabase]
        constructor
        · intro hok
          split at hok
          · cases hok
          · rename_i user' huser
            cases hok
            obtain ⟨hown, hne, hquery, hlive, hsince⟩ := (hsession s).mpr rfl
            exact ⟨s, hown, hne, hquery, hlive, hsince, huser⟩
        · rintro ⟨s', hown, hne, hquery, hlive, hsince, huser⟩
          obtain rfl := (hsession s').mp ⟨hown, hne, hquery, hlive, hsince⟩
          rw [huser]

end calls

end low_latency_voice.auth

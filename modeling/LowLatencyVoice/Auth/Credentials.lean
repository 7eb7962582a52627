import LowLatencyVoice.Auth.Identity

open low_latency_voice.model low_latency_voice.storage

namespace low_latency_voice.auth

section calls

variable (trimSpace : String → String) (argon2 : Argon2) (compareHashAndPassword : GoBytes → GoBytes → Bool)

/-- The call stores the row `id` of `users`. -/
def Stores (a : Accounts) (c : AccountCall) (id : Nat) (row : UserRow) : Prop :=
  match c with
  | .register x salt username password =>
    StoresUser trimSpace a x salt username password ∧ id = a.database.users.seq + 1 ∧
      row.username = trimSpace username ∧ row.isActive = true ∧
      hashPassword argon2 password salt = some row.passwordHash
  | _ => False

variable {trimSpace argon2 compareHashAndPassword}

/-- A user has been stored by the call, or was there. -/
theorem users_step_iff (a : Accounts) (c : AccountCall) (id : Nat) (row : UserRow) :
    ((accountCalls trimSpace argon2 compareHashAndPassword).next a c).database.users.get? id = some row ↔
      Stores trimSpace argon2 a c id row ∨ a.database.users.get? id = some row := by
  have hkeeps : ∀ a' : Accounts, a'.database = a.database → ¬ Stores trimSpace argon2 a c id row →
      (a'.database.users.get? id = some row ↔
        Stores trimSpace argon2 a c id row ∨ a.database.users.get? id = some row) := by
    intro a' hsame hnot
    rw [hsame]
    exact ⟨.inr, fun h => h.resolve_left hnot⟩
  cases c with
  | register x salt username password =>
    change (attempt trimSpace argon2 a x salt username password).1.database.users.get? id = some row ↔ _
    by_cases hstores : StoresUser trimSpace a x salt username password
    · obtain ⟨db, hash, role, hhash, husers, heq⟩ := attempt_of_storesUser argon2 hstores
      have hdatabase := (signsIn_openSession ⟨db, a.userSessions⟩ x
        ⟨UInt32.ofNat (a.database.users.seq + 1), trimSpace username,
          permissionsOfNewUser (UInt32.ofNat (a.database.users.seq + 1)) role⟩).1
      rw [heq, hdatabase, husers, Table.get?_insert]
      constructor
      · intro hget
        split at hget
        · rename_i hid
          cases hget
          exact .inl ⟨hstores, hid, rfl, rfl, hhash⟩
        · exact .inr hget
      · rintro (⟨-, hid, hname, hactive, hhash'⟩ | hget)
        · rw [if_pos hid]
          cases hhash.symm.trans hhash'
          obtain ⟨_, _, _⟩ := row
          cases hname
          cases hactive
          rfl
        · rw [if_neg]
          · exact hget
          · exact Table.ne_succ_seq (by rw [hget]; exact Option.some_ne_none row)
    · obtain ⟨e, heq⟩ := attempt_of_not_storesUser argon2 hstores
      exact hkeeps _ (by rw [heq]) fun h => hstores h.1
  | login x username password => exact hkeeps _ signsIn_login.1 fun h => h
  | validateSession x token =>
    refine hkeeps _ ?_ fun h => h
    change (validateSession trimSpace a x token).1.database = a.database
    unfold validateSession
    simp only
    split
    · rfl
    · split <;> rfl
  | deleteUserSessions x userID => exact hkeeps _ rfl fun h => h

theorem users_accountsAfter_iff (cs : List AccountCall) (id : Nat) (row : UserRow) :
    (accountsAfter trimSpace argon2 compareHashAndPassword cs).database.users.get? id = some row ↔
      Machine.Earlier (fun pre c => Stores trimSpace argon2
        (accountsAfter trimSpace argon2 compareHashAndPassword pre) c id row) cs := by
  induction cs using List.reverseRecOn with
  | nil =>
    refine iff_of_false ?_ Machine.not_since_nil
    exact fun hget => (nomatch hget)
  | append_singleton cs c ih =>
    rw [Machine.earlier_concat_iff, ← ih, accountsAfter, Machine.run_concat]
    exact users_step_iff _ c id row

theorem nocase_iff {name name' : String} :
    Database.nocase name name' = true ↔ name.toList.map Char.toLower = name'.toList.map Char.toLower := beq_iff_eq

/-- No two users have one name. -/
def NamesUnique (db : Database) : Prop :=
  ∀ id id' row row', db.users.get? id = some row → db.users.get? id' = some row' →
    Database.nocase row.username row'.username = true → id = id'

/-- The name of a new user is no other user's. -/
theorem Stores.nocase_ne {a : Accounts} {c : AccountCall} {id id' : Nat} {row row' : UserRow}
    (h : Stores trimSpace argon2 a c id row) (hget : a.database.users.get? id' = some row') :
    Database.nocase row'.username row.username ≠ true := by
  cases c with
  | register x salt username password =>
    obtain ⟨hstores, -, hown, -, -⟩ := h
    have hfree := hstores.free
    unfold NameFree at hfree
    rw [List.any_eq_false] at hfree
    rw [hown]
    exact hfree (id', row') ((GoMap.mem_pairs_iff _ id' row').mpr hget)
  | _ => exact h.elim

theorem namesUnique_accountsAfter (cs : List AccountCall) :
    NamesUnique (accountsAfter trimSpace argon2 compareHashAndPassword cs).database := by
  refine Machine.run_stable _ (fun a : Accounts => NamesUnique a.database) ?_ ?_ cs
  · intro a c hunique id id' row row' hget hget' hname
    rw [users_step_iff] at hget hget'
    rcases hget with hstores | hget
    · rcases hget' with hstores' | hget'
      · cases c with
        | register x salt username password => exact hstores.2.1.trans hstores'.2.1.symm
        | _ => exact hstores.elim
      · rw [nocase_iff] at hname
        exact absurd (nocase_iff.mpr hname.symm) (hstores.nocase_ne hget')
    · rcases hget' with hstores' | hget'
      · exact absurd hname (hstores'.nocase_ne hget)
      · exact hunique id id' row row' hget hget' hname
  · intro id id' row row' hget
    cases hget

/-- So the row a name finds is the only one. -/
theorem getUserByUsername_iff {db : Database} (h : NamesUnique db) {username : String} {id : Nat} {row : UserRow} :
    db.getUserByUsername username = some (id, row) ↔
      db.users.get? id = some row ∧ Database.nocase row.username username = true := by
  unfold Database.getUserByUsername
  constructor
  · intro hfound
    have hmem := List.mem_of_find?_eq_some hfound
    have hname := List.find?_some hfound
    exact ⟨(GoMap.mem_pairs_iff _ id row).mp hmem, hname⟩
  · rintro ⟨hget, hname⟩
    have hmem := (GoMap.mem_pairs_iff _ id row).mpr hget
    cases hfound : db.users.rows.pairs.find? fun e => Database.nocase e.2.username username with
    | none => exact absurd hname (List.find?_eq_none.mp hfound (id, row) hmem)
    | some found =>
      obtain ⟨id', row'⟩ := found
      have hget' : db.users.get? id' = some row' :=
        (GoMap.mem_pairs_iff _ id' row').mp (List.mem_of_find?_eq_some hfound)
      have hname' := List.find?_some hfound
      rw [nocase_iff] at hname hname'
      obtain rfl := h id' id row' row hget' hget (nocase_iff.mpr (hname'.trans hname.symm))
      cases hget.symm.trans hget'
      rfl

variable (trimSpace argon2)

/-- The call stores user `id` under this name, with the hash of this password under this salt. -/
def Registers (a : Accounts) (c : AccountCall) (id : Nat) (name : String) (salt : GoBytes) (password : String) :
    Prop :=
  match c with
  | .register x salt' username password' =>
    StoresUser trimSpace a x salt' username password' ∧ id = a.database.users.seq + 1 ∧
      trimSpace username = name ∧ salt' = some salt ∧ password' = password
  | _ => False

/-- The password is as good as the one the user was stored with. -/
def SameKey (salt : GoBytes) (password password' : String) : Prop :=
  argon2.idKey (bytesOf password) salt 3 65536 2 32 = argon2.idKey (bytesOf password') salt 3 65536 2 32

variable {trimSpace argon2}

theorem stores_iff {a : Accounts} {c : AccountCall} {id : Nat} {row : UserRow} :
    Stores trimSpace argon2 a c id row ↔ row.isActive = true ∧ ∃ salt password,
      Registers trimSpace a c id row.username salt password ∧
      hashPassword argon2 password (some salt) = some row.passwordHash := by
  cases c with
  | register x salt' username password' =>
    constructor
    · rintro ⟨hstores, hid, hname, hactive, hhash⟩
      obtain ⟨salt, rfl⟩ := Option.ne_none_iff_exists'.mp hstores.salt
      exact ⟨hactive, salt, password', ⟨hstores, hid, hname.symm, rfl, rfl⟩, hhash⟩
    · rintro ⟨hactive, salt, password, ⟨hstores, hid, hname, rfl, rfl⟩, hhash⟩
      exact ⟨hstores, hid, hname.symm, hactive, hhash⟩
  | _ =>
    refine iff_of_false (fun h => h) ?_
    rintro ⟨-, _, _, h, -⟩
    exact h

theorem openSession_eq_ok_iff {a : Accounts} {x : Env} {user user' : User} {token : Token} :
    (openSession a x user').2 = .ok (user, token) ↔ user' = user ∧ x.sessionToken = some token ∧
      x.fault .createSession ≠ .exec ∧ a.userSessions.get? token = none := by
  unfold openSession createSession
  cases x.sessionToken with
  | none => simp
  | some token' =>
    simp only
    by_cases hrefused : x.fault .createSession = .exec ∨ (a.userSessions.get? token').isSome
    · simp only [if_pos hrefused]
      refine iff_of_false (fun h => (nomatch h)) ?_
      rintro ⟨-, heq, hexec, hfree⟩
      cases heq
      rw [hfree] at hrefused
      exact hrefused.elim hexec (fun h => (nomatch h))
    · simp only [if_neg hrefused]
      rw [not_or, Option.not_isSome_iff_eq_none] at hrefused
      constructor
      · intro h
        cases h
        exact ⟨rfl, rfl, hrefused⟩
      · rintro ⟨rfl, heq, -⟩
        cases heq
        rfl

/-- The rows of `users` after any calls. -/
theorem users_registers_iff (cs : List AccountCall) (id : Nat) (row : UserRow) :
    (accountsAfter trimSpace argon2 compareHashAndPassword cs).database.users.get? id = some row ↔
      row.isActive = true ∧ ∃ salt password, Machine.Earlier (fun pre c => Registers trimSpace
          (accountsAfter trimSpace argon2 compareHashAndPassword pre) c id row.username salt password) cs ∧
        hashPassword argon2 password (some salt) = some row.passwordHash := by
  rw [users_accountsAfter_iff]
  constructor
  · rintro ⟨front, c, rest, heq, hstores, hrest⟩
    obtain ⟨hactive, salt, password, hregisters, hhash⟩ := stores_iff.mp hstores
    exact ⟨hactive, salt, password, ⟨front, c, rest, heq, hregisters, hrest⟩, hhash⟩
  · rintro ⟨hactive, salt, password, ⟨front, c, rest, heq, hregisters, hrest⟩, hhash⟩
    exact ⟨front, c, rest, heq, stores_iff.mpr ⟨hactive, salt, password, hregisters, hhash⟩, hrest⟩

/-- What `Login` decides on. -/
theorem login_eq_ok_iff {a : Accounts} {x : Env} {username password : String} {user : User} {token : Token} :
    (login trimSpace a x username password).2 = .ok (user, token) ↔
      (trimSpace username ≠ "" ∧ password ≠ "") ∧ x.fails .getUserByUsername = false ∧
        x.fails .getUserWithRoles = false ∧ x.sessionToken = some token ∧ x.fault .createSession ≠ .exec ∧
        a.userSessions.get? token = none ∧ ∃ id row,
          a.database.getUserByUsername (trimSpace username) = some (id, row) ∧ id < 4294967296 ∧
          row.isActive = true ∧ x.passwordMatches = true ∧
          a.database.getUserWithRoles (UInt32.ofNat id) = some user := by
  unfold login
  simp only
  by_cases hempty : trimSpace username = "" ∨ password = ""
  · rw [if_pos hempty]
    refine iff_of_false (fun h => (nomatch h)) ?_
    rintro ⟨⟨hname, hpassword⟩, -⟩
    exact hempty.elim hname hpassword
  rw [if_neg hempty]
  rw [not_or] at hempty
  cases x.fails .getUserByUsername with
  | true => simp
  | false =>
    cases hfound : a.database.getUserByUsername (trimSpace username) with
    | none => simp
    | some found =>
      obtain ⟨id, row⟩ := found
      simp only [Bool.false_eq_true, if_false, true_and, hempty, ne_eq, not_false_eq_true]
      by_cases hlarge : 4294967296 ≤ id
      · rw [if_pos hlarge]
        refine iff_of_false (fun h => (nomatch h)) ?_
        rintro ⟨-, -, -, -, id', row', heq, hsmall, -⟩
        cases heq
        exact absurd hsmall (Nat.not_lt.mpr hlarge)
      rw [if_neg hlarge]
      cases hactive : row.isActive with
      | false => simp [hactive]
      | true =>
        cases x.passwordMatches with
        | false => simp
        | true =>
          cases x.fails .getUserWithRoles with
          | true => simp
          | false =>
            simp only [Bool.not_true, Bool.false_eq_true, if_false, true_and]
            cases huser : a.database.getUserWithRoles (UInt32.ofNat id) with
            | none => simp [huser]
            | some user' =>
              simp only [openSession_eq_ok_iff]
              constructor
              · rintro ⟨rfl, htoken, hexec, hfree⟩
                exact ⟨htoken, hexec, hfree, id, row, rfl, Nat.not_le.mp hlarge, hactive, huser⟩
              · rintro ⟨htoken, hexec, hfree, id', row', heq, -, -, huser'⟩
                cases heq
                exact ⟨Option.some.inj (huser.symm.trans huser'), htoken, hexec, hfree⟩

variable (trimSpace argon2 compareHashAndPassword)

/-- Who may sign in, after any calls: whoever gives a name that a registration has stored, in
any case of its letters, and a password with the key of that registration; then no
statement may fail, and the new token must have no row. The answer is the user of that
registration, under the name it was stored with. -/
theorem signIn_eq_ok_iff (cs : List AccountCall) (x : Env) (username password : String) (user : User)
    (token : Token) :
    let a := accountsAfter trimSpace argon2 compareHashAndPassword cs
    (signIn trimSpace argon2 compareHashAndPassword a x username password).2 = .ok (user, token) ↔
      (∃ id name salt password', Machine.Earlier (fun pre c => Registers trimSpace
          (accountsAfter trimSpace argon2 compareHashAndPassword pre) c id name salt password') cs ∧
        Database.nocase name (trimSpace username) = true ∧ SameKey argon2 salt password' password ∧
        id < 4294967296 ∧ user.id = UInt32.ofNat id ∧ user.username = name ∧
        a.database.getUserWithRoles user.id = some user) ∧
      (trimSpace username ≠ "" ∧ password ≠ "") ∧ x.fails .getUserByUsername = false ∧
      x.fails .getUserWithRoles = false ∧ x.sessionToken = some token ∧ x.fault .createSession ≠ .exec ∧
      a.userSessions.get? token = none := by
  intro a
  have hunique : NamesUnique a.database := namesUnique_accountsAfter cs
  unfold signIn
  rw [login_eq_ok_iff]
  constructor
  · rintro ⟨hgiven, hfails, hroles, htoken, hexec, hfree, id, row, hfound, hsmall, hactive, hmatches, huser⟩
    simp only [hfound] at hmatches
    obtain ⟨hget, hname⟩ := (getUserByUsername_iff hunique).mp hfound
    obtain ⟨-, salt, password', hregisters, hhash⟩ := (users_registers_iff cs id row).mp hget
    rw [verifyPassword_hashPassword_eq hhash, beq_iff_eq] at hmatches
    have hown : user.id = UInt32.ofNat id ∧ user.username = row.username := by
      unfold Database.getUserWithRoles at huser
      rw [UInt32.toNat_ofNat_of_lt' hsmall, hget] at huser
      cases huser
      exact ⟨rfl, rfl⟩
    exact ⟨⟨id, _, salt, password', hregisters, hname, hmatches, hsmall, hown.1, hown.2, hown.1 ▸ huser⟩, hgiven,
      hfails, hroles, htoken, hexec, hfree⟩
  · rintro ⟨⟨id, name, salt, password', hregisters, hname, hkey, hsmall, hid, hown, huser⟩, hgiven, hfails, hroles,
      htoken, hexec, hfree⟩
    obtain ⟨hash, hhash, -⟩ := toList_hashPassword argon2 password' salt
    have hget := (users_registers_iff cs id ⟨name, hash, true⟩).mpr ⟨rfl, salt, password', hregisters, hhash⟩
    have hfound := (getUserByUsername_iff hunique).mpr ⟨hget, hname⟩
    refine ⟨hgiven, hfails, hroles, htoken, hexec, hfree, id, _, hfound, hsmall, rfl, ?_, hid ▸ huser⟩
    simp only [hfound]
    rw [verifyPassword_hashPassword_eq hhash]
    exact beq_iff_eq.mpr hkey

end calls

end low_latency_voice.auth

import Mathlib.Data.List.Sort
import LowLatencyVoice.Lib.Machine
import LowLatencyVoice.Storage.Database

open low_latency_voice.model

namespace low_latency_voice.storage

/-- `model.User`, with its rights. -/
structure UserWithRoles where
  id : UInt32
  username : String
  isActive : Bool
  roles : List String
  permissions : Permission
  isAdmin : Bool
  deriving DecidableEq, Repr

/-- `ErrImmutableCreator`. -/
inductive RoleError where
  | immutableCreator
  deriving DecidableEq, Repr

namespace SQLiteRepository

/-- A row of `users` scanned into a user without rights. -/
def scanUser (id : UInt32) (row : UserRow) : UserWithRoles where
  id
  username := row.username
  isActive := row.isActive
  roles := []
  permissions := 0
  isAdmin := false

/-- `GetUserByID`. -/
def getUserByID (db : Database) (id : UInt32) : Option UserWithRoles :=
  (db.users.get? id.toNat).map (scanUser id)

/-- `GetAllUsers`, in the order of the ids. Scanning a row id beyond 32 bits fails, and the call with it. -/
def getAllUsers (db : Database) : Option (List UserWithRoles) :=
  let rows := db.users.rows.pairs.mergeSort fun e e' => e.1 ≤ e'.1
  if rows.any fun e => 4294967296 ≤ e.1 then none
  else some (rows.map fun e => scanUser (UInt32.ofNat e.1) e.2)

/-- `GetUserRoles`: the highest position comes first. A user without a role has the default one, if it can be
read. -/
def getUserRoles (db : Database) (defaultFails : Bool) (userID : UInt32) : List Role :=
  let roles := (db.roles.filter fun role => (db.userRoles.get₂ userID.toNat role.id).isSome).mergeSort
    fun role role' => role'.position ≤ role.position
  if roles.length = 0 then
    if defaultFails then roles else roles ++ db.getDefaultRole.toList
  else roles

/-- `GetUserWithRoles`. -/
def getUserWithRoles (db : Database) (defaultFails : Bool) (id : UInt32) : Option UserWithRoles :=
  (getUserByID db id).map fun (u : UserWithRoles) =>
    let (roleNames, perms) := (getUserRoles db defaultFails id).foldl
      (fun acc role => (acc.1 ++ [role.name], acc.2 ||| role.permissions)) ([], (0 : Permission))
    let (roleNames, perms) :=
      if u.id = 1 then
        (if roleNames.any (· == "Admin") then roleNames else ["Admin"] ++ roleNames,
          (0xFFFFFFFF : Permission))
      else (roleNames, perms)
    { u with roles := roleNames, permissions := perms, isAdmin := hasPermission perms permAdmin }

/-- `GetAllUsersWithRoles`. -/
def getAllUsersWithRoles (db : Database) (defaultFails : Bool) : Option (List UserWithRoles) :=
  (getAllUsers db).map fun users => users.map fun (u : UserWithRoles) =>
    let (roleNames, perms) := (getUserRoles db defaultFails u.id).foldl
      (fun acc role => (acc.1 ++ [role.name], acc.2 ||| role.permissions)) ([], (0 : Permission))
    let (roleNames, perms) :=
      if u.id = 1 then
        (if roleNames.any (· == "Admin") then roleNames else ["Admin"] ++ roleNames,
          (0xFFFFFFFF : Permission))
      else (roleNames, perms)
    { u with roles := roleNames, permissions := perms, isAdmin := hasPermission perms permAdmin }

/-- `GetEffectivePermissions`. -/
def getEffectivePermissions (db : Database) (defaultFails : Bool) (userID : UInt32) : Permission :=
  if userID = 1 then 0xFFFFFFFF
  else (getUserRoles db defaultFails userID).foldl (fun perms role => perms ||| role.permissions) 0

/-- `RemoveUserRole`. -/
def removeUserRole (db : Database) (userID roleID : UInt32) : Except RoleError Database :=
  if userID = 1 ∧ roleID = 1 then .error .immutableCreator
  else .ok { db with userRoles := db.userRoles.drop₂ userID.toNat roleID }

/-- The loop over the roles gathers the names and joins the permissions. -/
theorem foldl_roles (roles : List Role) (roleNames : List String) (perms : Permission) :
    roles.foldl (fun acc role => (acc.1 ++ [role.name], acc.2 ||| role.permissions)) (roleNames, perms) =
      (roleNames ++ roles.map Role.name,
        roles.foldl (fun perms role => perms ||| role.permissions) perms) := by
  induction roles generalizing roleNames perms with
  | nil => simp
  | cons role roles ih => simp [ih]

/-- The rights of a user, from the roles. -/
theorem getUserWithRoles_eq (db : Database) (defaultFails : Bool) (id : UInt32) :
    getUserWithRoles db defaultFails id = (getUserByID db id).map fun u =>
      { u with
        roles :=
          if id = 1 ∧ "Admin" ∉ (getUserRoles db defaultFails id).map Role.name then
            "Admin" :: (getUserRoles db defaultFails id).map Role.name
          else (getUserRoles db defaultFails id).map Role.name
        permissions := getEffectivePermissions db defaultFails id
        isAdmin := hasPermission (getEffectivePermissions db defaultFails id) permAdmin } := by
  unfold getUserWithRoles getUserByID
  cases db.users.get? id.toNat with
  | none => rfl
  | some row =>
    simp only [Option.map_some, foldl_roles, List.nil_append, scanUser, getEffectivePermissions]
    by_cases hid : id = 1
    · by_cases hadmin : "Admin" ∈ (getUserRoles db defaultFails id).map Role.name
      · subst hid
        simp_all
      · subst hid
        simp_all
    · simp [hid]

/-- `GetUserWithRoles` looks at the row `GetAllUsersWithRoles` goes through. -/
theorem mem_getAllUsersWithRoles {db : Database} {defaultFails : Bool} {users : List UserWithRoles}
    (h : getAllUsersWithRoles db defaultFails = some users) (v : UserWithRoles) :
    v ∈ users ↔ getUserWithRoles db defaultFails v.id = some v := by
  obtain ⟨us, hus, rfl⟩ := Option.map_eq_some_iff.mp h
  unfold getAllUsers at hus
  dsimp only at hus
  split at hus
  · cases hus
  · rename_i hsmall
    cases hus
    have hrow : ∀ id row, (id, row) ∈ db.users.rows.pairs.mergeSort (fun e e' => e.1 ≤ e'.1) ↔
        db.users.get? id = some row := by
      intro id row
      rw [List.mem_mergeSort]
      exact GoMap.mem_pairs_iff _ id row
    have hid : ∀ id row, db.users.get? id = some row → (UInt32.ofNat id).toNat = id := by
      intro id row hget
      apply UInt32.toNat_ofNat_of_lt'
      by_contra hlarge
      apply hsmall
      rw [List.any_eq_true]
      refine ⟨(id, row), (hrow id row).mpr hget, decide_eq_true ?_⟩
      exact Nat.not_lt.mp hlarge
    simp only [List.map_map, List.mem_map, Function.comp_apply, Prod.exists, hrow]
    constructor
    · rintro ⟨id, row, hget, rfl⟩
      simp [getUserWithRoles, getUserByID, scanUser, hid id row hget, hget]
    · intro hview
      obtain ⟨u, hu, hv⟩ := Option.map_eq_some_iff.mp hview
      obtain ⟨row, hget, rfl⟩ := Option.map_eq_some_iff.mp hu
      refine ⟨v.id.toNat, row, hget, ?_⟩
      rw [UInt32.ofNat_toNat]
      exact hv

/-- The list of all users can be read as long as the ids have 32 bits. -/
theorem getAllUsersWithRoles_eq_none_iff (db : Database) (defaultFails : Bool) :
    getAllUsersWithRoles db defaultFails = none ↔ ∃ id, 4294967296 ≤ id ∧ db.users.get? id ≠ none := by
  unfold getAllUsersWithRoles getAllUsers
  simp only [Option.map_eq_none_iff, ite_eq_left_iff, reduceCtorEq, imp_false, not_not, List.any_eq_true,
    List.mem_mergeSort, Prod.exists, decide_eq_true_eq, GoMap.mem_pairs_iff]
  constructor
  · rintro ⟨id, row, hget, hlarge⟩
    refine ⟨id, hlarge, ?_⟩
    change db.users.rows.get? id ≠ none
    rw [hget]
    exact Option.some_ne_none row
  · rintro ⟨id, hlarge, hget⟩
    obtain ⟨row, hrow⟩ := Option.ne_none_iff_exists'.mp hget
    exact ⟨id, row, hrow, hlarge⟩

/-- The order of the roles does not matter to the permissions they give together. -/
theorem perm_getUserRoles (db : Database) (userID : UInt32) :
    (getUserRoles db false userID).Perm (db.getUserRoles userID) := by
  unfold getUserRoles Database.getUserRoles
  simp only [List.length_eq_zero_iff, Bool.false_eq_true, if_false]
  generalize db.roles.filter (fun role => (db.userRoles.get₂ userID.toNat role.id).isSome) = assigned
  have hsorted := List.mergeSort_perm assigned fun role role' => role'.position ≤ role.position
  by_cases hnone : assigned = []
  · subst hnone
    simp
  · rw [if_neg hnone, if_neg]
    · exact hsorted
    · intro hempty
      rw [hempty] at hsorted
      exact hnone hsorted.symm.eq_nil

/-- What the connection keeps of a user is what the control plane's model of the tables gives. -/
theorem getUserWithRoles_user (db : Database) (id : UInt32) :
    (getUserWithRoles db false id).map (fun v => (⟨v.id, v.username, v.permissions⟩ : User)) =
      db.getUserWithRoles id := by
  rw [getUserWithRoles_eq]
  unfold Database.getUserWithRoles getUserByID
  cases hget : db.users.get? id.toNat with
  | none => rfl
  | some row =>
    have hperms : (getUserRoles db false id).foldl (fun perms role => perms ||| role.permissions) 0 =
        (db.getUserRoles id).foldl (fun perms role => perms ||| role.permissions) 0 := by
      apply (perm_getUserRoles db id).foldl_eq'
      intro role _ role' _ perms
      rw [UInt32.or_assoc, UInt32.or_assoc, UInt32.or_comm role.permissions]
    simp only [Option.map_some, scanUser, getEffectivePermissions, hperms]

end SQLiteRepository

/-- A new user has a name that no row has, and the next row. -/
theorem Database.createUser_eq_some {db db' : Database} {username passwordHash : String} {userID : UInt32}
    (h : db.createUser username passwordHash = some (db', userID)) :
    (∀ id row, db.users.get? id = some row → nocase row.username username = false) ∧
      db' = { db with users := (db.users.insert ⟨username, passwordHash, true⟩).1 } ∧
      userID = UInt32.ofNat (db.users.seq + 1) := by
  unfold createUser at h
  split at h
  · cases h
  · rename_i hfree
    cases h
    refine ⟨fun id row hget => ?_, rfl, rfl⟩
    rw [Bool.not_eq_true, List.any_eq_false] at hfree
    exact Bool.eq_false_iff.mpr (hfree (id, row) ((GoMap.mem_pairs_iff _ id row).mpr hget))

/-- A statement that writes users or their roles. -/
inductive RightsCall where
  | createUser (username passwordHash : String)
  | assignUserRole (now : Time) (userID roleID : UInt32)
  | removeUserRole (userID roleID : UInt32)

/-- The tables under any such statements. One that fails changes nothing. -/
def rightsCalls : Machine Database RightsCall Unit where
  step db
    | .createUser username passwordHash =>
      match db.createUser username passwordHash with
      | some (db', _) => (db', ())
      | none => (db, ())
    | .assignUserRole now userID roleID => (db.assignUserRole now userID roleID, ())
    | .removeUserRole userID roleID =>
      match SQLiteRepository.removeUserRole db userID roleID with
      | .ok db' => (db', ())
      | .error _ => (db, ())

/-- The tables after any such statements. -/
def rightsTables (calls : List RightsCall) : Database := rightsCalls.run .seeded calls

/-- The roles are the seeded ones, only users have any, and no two users share a name. -/
structure RolesSettled (db : Database) : Prop where
  roles : db.roles = Database.seeded.roles
  assigned : ∀ id roleID, db.userRoles.get₂ id roleID ≠ none → db.users.get? id ≠ none
  names : ∀ id id' row row', db.users.get? id = some row → db.users.get? id' = some row' →
    Database.nocase row.username row'.username = true → id = id'

theorem rolesSettled_seeded : RolesSettled .seeded where
  roles := rfl
  assigned id roleID h := absurd (GoMap.get₂_empty id roleID) h
  names id _ row _ h _ _ := by
    have hnone : Database.seeded.users.get? id = none := GoMap.get?_empty id
    rw [hnone] at h
    cases h

namespace RolesSettled

variable {db : Database}

/-- Rows of `user_roles` that are users' disturb nothing. -/
theorem withUserRoles (h : RolesSettled db) {userRoles : GoMap Nat (GoMap UInt32 Time)}
    (hassigned : ∀ id roleID, userRoles.get₂ id roleID ≠ none → db.users.get? id ≠ none) :
    RolesSettled { db with userRoles } :=
  ⟨h.roles, hassigned, h.names⟩

theorem createUser (h : RolesSettled db) {username passwordHash : String} {db' : Database} {userID : UInt32}
    (hcreate : db.createUser username passwordHash = some (db', userID)) : RolesSettled db' := by
  obtain ⟨hother, rfl, -⟩ := Database.createUser_eq_some hcreate
  have hsymm : ∀ a b, Database.nocase a b = Database.nocase b a := fun a b => Bool.beq_comm
  refine ⟨h.roles, fun id roleID hassigned => ?_, fun id id' row row' hid hid' hname => ?_⟩
  · rw [Table.get?_insert]
    split
    · exact Option.some_ne_none _
    · exact h.assigned id roleID hassigned
  · rw [Table.get?_insert] at hid hid'
    split at hid
    · rename_i hnew
      cases hid
      split at hid'
      · rename_i hnew'
        rw [hnew, hnew']
      · rw [hsymm, hother id' row' hid'] at hname
        cases hname
    · split at hid'
      · cases hid'
        rw [hother id row hid] at hname
        cases hname
      · exact h.names id id' row row' hid hid' hname

theorem assignUserRole (h : RolesSettled db) (now : Time) (userID roleID : UInt32) :
    RolesSettled (db.assignUserRole now userID roleID) := by
  unfold Database.assignUserRole
  split
  · rename_i hthere
    apply h.withUserRoles
    intro id roleID' hassigned
    rw [GoMap.get₂_put₂] at hassigned
    split at hassigned
    · rename_i hpair
      rw [hpair.1]
      exact Option.isSome_iff_ne_none.mp hthere.1
    · exact h.assigned id roleID' hassigned
  · exact h

theorem removeUserRole (h : RolesSettled db) {userID roleID : UInt32} {db' : Database}
    (hremove : SQLiteRepository.removeUserRole db userID roleID = .ok db') : RolesSettled db' := by
  unfold SQLiteRepository.removeUserRole at hremove
  split at hremove
  · cases hremove
  · cases hremove
    apply h.withUserRoles
    intro id roleID' hassigned
    rw [GoMap.get₂_drop₂] at hassigned
    split at hassigned
    · exact absurd rfl hassigned
    · exact h.assigned id roleID' hassigned

theorem run (calls : List RightsCall) : RolesSettled (rightsTables calls) := by
  refine rightsCalls.run_stable RolesSettled (fun db call h => ?_) rolesSettled_seeded calls
  cases call with
  | createUser username passwordHash =>
    simp only [Machine.next, rightsCalls]
    split
    · exact h.createUser ‹_›
    · exact h
  | assignUserRole now userID roleID => exact h.assignUserRole now userID roleID
  | removeUserRole userID roleID =>
    simp only [Machine.next, rightsCalls]
    split
    · exact h.removeUserRole ‹_›
    · exact h

end RolesSettled

end low_latency_voice.storage

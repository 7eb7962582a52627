import LowLatencyVoice.Model.User
import LowLatencyVoice.Storage.VoiceTokens

open low_latency_voice.model

namespace low_latency_voice.storage

/-- The `sessions` table, by its primary key. -/
abbrev UserSessions := GoMap Token UserSession

/-- `CreateSession`. The primary key refuses a token that has a row. -/
def createSession (rows : UserSessions) (now : Time) (fault : Fault) (token : Token) (userID : UInt32)
    (expiresAt : Time) : Option UserSessions :=
  if fault = .exec ∨ (rows.get? token).isSome then none
  else some (rows.set token { token, userID, expiresAt, createdAt := now })

inductive SessionLookup where
  | found (session : UserSession)
  | expired
  | failed
  deriving DecidableEq, Repr

/-- The query of `GetSession`. The caller deletes an expired row. -/
def getSession (rows : UserSessions) (now : Time) (fault : Fault) (token : Token) : SessionLookup :=
  if fault = .query then .failed
  else
    match rows.get? token with
    | none => .failed
    | some session => if session.expiresAt < now then .expired else .found session

/-- `DeleteSession`. -/
def deleteSession (rows : UserSessions) (fault : Fault) (token : Token) : UserSessions :=
  if fault = .exec then rows else rows.delete token

/-- `DeleteUserSessions`. -/
def deleteUserSessions (rows : UserSessions) (fault : Fault) (userID : UInt32) : UserSessions :=
  if fault = .exec then rows else rows.deleteWhere fun _ session => session.userID == userID

/-- No statement of the table makes a row of a user who is not signing in. -/
theorem userID_of_createSession {rows rows' : UserSessions} {now expiresAt : Time} {fault : Fault}
    {token t : Token} {userID : UInt32} {session : UserSession}
    (h : createSession rows now fault token userID expiresAt = some rows')
    (hget : rows'.get? t = some session) : session.userID = userID ∨ rows.get? t = some session := by
  unfold createSession at h
  split at h
  · cases h
  · cases h
    rw [GoMap.get?_set] at hget
    split at hget
    · cases hget
      exact .inl rfl
    · exact .inr hget

theorem get?_of_deleteSession {rows : UserSessions} {fault : Fault} {token t : Token}
    {session : UserSession} (h : (deleteSession rows fault token).get? t = some session) :
    rows.get? t = some session := by
  unfold deleteSession at h
  split at h
  · exact h
  · rw [GoMap.get?_delete] at h
    split at h
    · cases h
    · exact h

theorem get?_of_deleteUserSessions {rows : UserSessions} {fault : Fault} {userID : UInt32} {t : Token}
    {session : UserSession} (h : (deleteUserSessions rows fault userID).get? t = some session) :
    rows.get? t = some session ∧ (fault ≠ .exec → session.userID ≠ userID) := by
  unfold deleteUserSessions at h
  split at h
  · rename_i hfault
    exact ⟨h, fun hok => absurd hfault hok⟩
  · rw [GoMap.get?_deleteWhere, Option.filter_eq_some_iff] at h
    obtain ⟨hget, hother⟩ := h
    exact ⟨hget, fun _ => by simpa using hother⟩

end low_latency_voice.storage

import LowLatencyVoice.Lib.GoMap
import LowLatencyVoice.Model.Voice

open low_latency_voice.model

namespace low_latency_voice.storage

/-- The `voice_tokens` table, by its primary key. -/
abbrev VoiceTokens := GoMap Token VoiceToken

/-- The SQL statement of a repository call that fails, if any does. -/
inductive Fault where
  | none
  | query
  | exec
  deriving DecidableEq, Repr

inductive StorageError where
  | voiceTokenNotFound
  | voiceTokenExpired
  | voiceTokenConsumed
  | failedToGet
  | failedToConsume
  | failedToInsert
  deriving DecidableEq, Repr

/-- `CreateVoiceToken`. The primary key refuses a token that has a row. -/
def createVoiceToken (rows : VoiceTokens) (now : Time) (fault : Fault) (token : Token)
    (userID channelID ssrc : UInt32) (expiresAt : Time) :
    VoiceTokens × Except StorageError VoiceToken :=
  if fault = .exec ∨ (rows.get? token).isSome then (rows, .error .failedToInsert)
  else
    let row : VoiceToken :=
      { token, userID, channelID, ssrc, isConsumed := false, expiresAt, createdAt := now }
    (rows.set token row, .ok row)

/-- `GetVoiceToken`: only an unconsumed, unexpired row is returned. -/
def getVoiceToken (rows : VoiceTokens) (now : Time) (fault : Fault) (token : Token) :
    Except StorageError VoiceToken :=
  if fault = .query then .error .failedToGet
  else
    match rows.get? token with
    | none => .error .voiceTokenNotFound
    | some vt =>
      if vt.isConsumed then .error .voiceTokenConsumed
      else if vt.expiresAt < now then .error .voiceTokenExpired
      else .ok vt

/-- `UPDATE voice_tokens SET is_consumed = 1 WHERE token = ? AND is_consumed = 0`,
with the number of rows it changed. -/
def markConsumed (rows : VoiceTokens) (token : Token) : VoiceTokens × Nat :=
  match rows.get? token with
  | some vt => if vt.isConsumed then (rows, 0) else (rows.set token { vt with isConsumed := true }, 1)
  | none => (rows, 0)

/-- `ConsumeVoiceToken`. -/
def consumeVoiceToken (rows : VoiceTokens) (now : Time) (fault : Fault) (token : Token) :
    VoiceTokens × Except StorageError VoiceToken :=
  match getVoiceToken rows now fault token with
  | .error e => (rows, .error e)
  | .ok vt =>
    if fault = .exec then (rows, .error .failedToConsume)
    else
      let (rows', affected) := markConsumed rows token
      if affected = 0 then (rows', .error .voiceTokenConsumed)
      else (rows', .ok { vt with isConsumed := true })

/-- `RevokeVoiceTokens`. -/
def revokeVoiceTokens (rows : VoiceTokens) (userID : UInt32) : VoiceTokens :=
  rows.deleteWhere fun _ vt => vt.userID == userID

/-- A row `ConsumeVoiceToken` accepts at `now`. -/
def LiveRow (rows : VoiceTokens) (now : Time) (token : Token) (vt : VoiceToken) : Prop :=
  rows.get? token = some vt ∧ vt.isConsumed = false ∧ now ≤ vt.expiresAt

theorem getVoiceToken_eq_ok_iff {rows : VoiceTokens} {now : Time} {fault : Fault} {token : Token}
    {vt : VoiceToken} :
    getVoiceToken rows now fault token = .ok vt ↔ fault ≠ .query ∧ LiveRow rows now token vt := by
  unfold getVoiceToken LiveRow
  by_cases hfault : fault = .query
  · simp [hfault]
  · cases hget : rows.get? token with
    | none => simp [hfault]
    | some row =>
      by_cases hconsumed : row.isConsumed = true
      · simp only [hfault, hconsumed, if_true, if_false]
        constructor
        · intro h
          cases h
        · rintro ⟨-, heq, hfresh, -⟩
          cases heq
          simp [hconsumed] at hfresh
      · by_cases hexpired : row.expiresAt < now
        · simp only [hfault, hconsumed, hexpired, if_true, if_false]
          constructor
          · intro h
            cases h
          · rintro ⟨-, heq, -, hlive⟩
            cases heq
            exact absurd hlive (Int.not_le.mpr hexpired)
        · simp only [hfault, hconsumed, hexpired, if_false]
          constructor
          · intro h
            cases h
            exact ⟨hfault, rfl, by simpa using hconsumed, Int.not_lt.mp hexpired⟩
          · rintro ⟨-, heq, -, -⟩
            cases heq
            rfl

/-- Consuming succeeds on exactly the live rows, returns the issued data and
marks that row alone. -/
theorem consumeVoiceToken_eq_ok_iff {rows rows' : VoiceTokens} {now : Time} {fault : Fault}
    {token : Token} {vt' : VoiceToken} :
    consumeVoiceToken rows now fault token = (rows', .ok vt') ↔
      fault = .none ∧ ∃ vt, LiveRow rows now token vt ∧ vt' = { vt with isConsumed := true } ∧
        rows' = rows.set token vt' := by
  unfold consumeVoiceToken
  cases hget : getVoiceToken rows now fault token with
  | error e =>
    constructor
    · intro h
      cases h
    · rintro ⟨rfl, vt, hlive, -⟩
      have hok : getVoiceToken rows now .none token = .ok vt :=
        getVoiceToken_eq_ok_iff.mpr ⟨by decide, hlive⟩
      rw [hget] at hok
      cases hok
  | ok vt =>
    obtain ⟨hquery, hlive⟩ := getVoiceToken_eq_ok_iff.mp hget
    by_cases hexec : fault = .exec
    · simp [hexec]
    · have hnone : fault = .none := by cases fault <;> simp_all
      simp only [hexec, if_false, markConsumed, hlive.1, hlive.2.1, Bool.false_eq_true,
        Nat.one_ne_zero]
      constructor
      · intro h
        cases h
        exact ⟨hnone, vt, hlive, rfl, rfl⟩
      · rintro ⟨-, vt₂, hlive₂, rfl, rfl⟩
        have heq : vt = vt₂ := Option.some.inj (hlive.1.symm.trans hlive₂.1)
        rw [heq]

/-- A failed consume leaves the table as it was. -/
theorem consumeVoiceToken_error {rows rows' : VoiceTokens} {now : Time} {fault : Fault}
    {token : Token} {e : StorageError}
    (h : consumeVoiceToken rows now fault token = (rows', .error e)) : rows' = rows := by
  unfold consumeVoiceToken at h
  cases hget : getVoiceToken rows now fault token with
  | error e' =>
    simp only [hget] at h
    exact (Prod.mk.inj h).1.symm
  | ok vt =>
    obtain ⟨-, hlive⟩ := getVoiceToken_eq_ok_iff.mp hget
    by_cases hexec : fault = .exec
    · simp only [hget, if_pos hexec] at h
      exact (Prod.mk.inj h).1.symm
    · simp [hget, hexec, markConsumed, hlive.1, hlive.2.1] at h

/-- A created token is stored unconsumed under its own key. -/
theorem createVoiceToken_eq_ok_iff {rows rows' : VoiceTokens} {now expiresAt : Time} {fault : Fault}
    {token : Token} {userID channelID ssrc : UInt32} {vt : VoiceToken} :
    createVoiceToken rows now fault token userID channelID ssrc expiresAt = (rows', .ok vt) ↔
      fault ≠ .exec ∧ rows.get? token = none ∧
        vt = ⟨token, userID, channelID, ssrc, false, expiresAt, now⟩ ∧ rows' = rows.set token vt := by
  unfold createVoiceToken
  by_cases hfail : fault = .exec ∨ (rows.get? token).isSome = true
  · simp only [hfail, if_true]
    constructor
    · intro h
      cases h
    · rintro ⟨hexec, hnone, -, -⟩
      simp [hexec, hnone] at hfail
  · simp only [hfail, if_false, Prod.mk.injEq, Except.ok.injEq]
    rw [not_or, Option.not_isSome_iff_eq_none] at hfail
    constructor
    · rintro ⟨rfl, rfl⟩
      exact ⟨hfail.1, hfail.2, rfl, rfl⟩
    · rintro ⟨-, -, rfl, rfl⟩
      exact ⟨rfl, rfl⟩

/-- Creating a token adds its row or leaves the table as it was. -/
theorem get?_createVoiceToken {rows : VoiceTokens} {now expiresAt : Time} {fault : Fault}
    {token t : Token} {userID channelID ssrc : UInt32} {vt : VoiceToken}
    (h : (createVoiceToken rows now fault token userID channelID ssrc expiresAt).1.get? t = some vt) :
    (t = token ∧ vt = ⟨token, userID, channelID, ssrc, false, expiresAt, now⟩ ∧ fault ≠ .exec ∧
      rows.get? token = none) ∨ rows.get? t = some vt := by
  unfold createVoiceToken at h
  split at h
  · exact .inr h
  · rename_i hok
    simp only [GoMap.get?_set] at h
    split at h
    · cases h
      rw [not_or, Option.not_isSome_iff_eq_none] at hok
      exact .inl ⟨‹_›, rfl, hok⟩
    · exact .inr h

/-- The primary key protects a row from being inserted over. -/
theorem get?_createVoiceToken_of_some {rows : VoiceTokens} {now expiresAt : Time} {fault : Fault}
    {token t : Token} {userID channelID ssrc : UInt32} {vt : VoiceToken} (h : rows.get? t = some vt) :
    (createVoiceToken rows now fault token userID channelID ssrc expiresAt).1.get? t = some vt := by
  unfold createVoiceToken
  split
  · exact h
  · rename_i hok
    have hne : t ≠ token := by
      rintro rfl
      simp [h] at hok
    simpa [hne] using h

@[simp] theorem get?_revokeVoiceTokens (rows : VoiceTokens) (userID : UInt32) (token : Token) :
    (revokeVoiceTokens rows userID).get? token =
      (rows.get? token).filter fun vt => !(vt.userID == userID) := by
  simp [revokeVoiceTokens]

end low_latency_voice.storage

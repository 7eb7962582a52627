import LowLatencyVoice.Plane.Events

open low_latency_voice.model low_latency_voice.storage low_latency_voice.audio

namespace low_latency_voice.plane

variable {Addr : Type} [DecidableEq Addr]

/-- Both calls purge the pending tokens of `userID`. -/
def PurgesPending (userID : UInt32) (e : PlaneEvent Addr) : Prop :=
  e = .removeSession userID ∨ e = .revokePending userID

/-- `CreateVoiceToken`, and the insert succeeds. -/
def Inserts (r : Router Addr) (token : Token) (userID channelID ssrc : UInt32) (expiresAt : Time)
    (e : PlaneEvent Addr) : Prop :=
  ∃ createdAt fault, e = .createVoiceToken createdAt fault token userID channelID ssrc expiresAt ∧
    fault ≠ .exec ∧ ∃ rows, r.validator = some rows ∧ rows.get? token = none

/-- Where the pending entries after one event come from. -/
theorem pendingTokens_step {r : Router Addr} (h : r.sessions.Owned) {e : PlaneEvent Addr}
    {token : Token} {pt : PendingToken}
    (hpt : (step r e).1.sessions.pendingTokens.get? token = some pt) :
    e = .registerPending token pt.userID pt.channelID pt.ssrc pt.expiresAt ∨
      r.sessions.pendingTokens.get? token = some pt ∧ ¬ PurgesPending pt.userID e := by
  cases e with
  | datagram now fault data srcAddr =>
    refine .inr ⟨?_, by simp [PurgesPending]⟩
    obtain ⟨pkt, -, -, heq⟩ | ⟨-, href, -⟩ := handlePacket_cases h now fault data srcAddr
    · rw [step, heq] at hpt
      exact Router.handleHandshake_pendingTokens hpt
    · rw [step, href.pendingTokens] at hpt
      exact hpt
  | registerPending token' userID channelID ssrc expiresAt =>
    simp only [step, onSessions, SessionManager.registerPending, GoMap.get?_set] at hpt
    split at hpt
    · cases hpt
      left
      simp [*]
    · exact .inr ⟨hpt, by simp [PurgesPending]⟩
  | registerSession session =>
    exact .inr ⟨by simpa [step, onSessions] using hpt, by simp [PurgesPending]⟩
  | moveMember userID toChannelID =>
    exact .inr ⟨by simpa [step, onSessions] using hpt, by simp [PurgesPending]⟩
  | setServerMute userID muted =>
    exact .inr ⟨by simpa [step, onSessions, SessionManager.setServerMute] using hpt,
      by simp [PurgesPending]⟩
  | setServerDeafen userID deafened =>
    exact .inr ⟨by simpa [step, onSessions, SessionManager.setServerDeafen] using hpt,
      by simp [PurgesPending]⟩
  | removeSession userID =>
    simp only [step, onSessions, SessionManager.removeSession_pendingTokens,
      GoMap.get?_deleteWhere, Option.filter_eq_some_iff] at hpt
    refine .inr ⟨hpt.1, ?_⟩
    rintro (heq | heq) <;> cases heq
    simp at hpt
  | revokePending userID =>
    simp only [step, onSessions, SessionManager.revokePending, GoMap.get?_deleteWhere,
      Option.filter_eq_some_iff] at hpt
    refine .inr ⟨hpt.1, ?_⟩
    rintro (heq | heq) <;> cases heq
    simp at hpt
  | cleanStaleSessions now maxIdle =>
    simp only [step, onSessions, SessionManager.cleanStaleSessions_pendingTokens,
      GoMap.get?_deleteWhere, Option.filter_eq_some_iff] at hpt
    exact .inr ⟨hpt.1, by simp [PurgesPending]⟩
  | createVoiceToken now fault token' userID channelID ssrc expiresAt =>
    exact .inr ⟨hpt, by simp [PurgesPending]⟩
  | revokeVoiceTokens userID => exact .inr ⟨hpt, by simp [PurgesPending]⟩

/-- Where the unconsumed rows after one event come from. -/
theorem row?_step {r : Router Addr} (h : r.sessions.Owned) {e : PlaneEvent Addr} {token : Token}
    {vt : VoiceToken} (hvt : (step r e).1.row? token = some vt) (hfresh : vt.isConsumed = false) :
    Inserts r token vt.userID vt.channelID vt.ssrc vt.expiresAt e ∨
      r.row? token = some vt ∧ e ≠ .revokeVoiceTokens vt.userID := by
  cases e with
  | datagram now fault data srcAddr =>
    refine .inr ⟨?_, by simp⟩
    obtain ⟨pkt, -, -, heq⟩ | ⟨-, -, hval⟩ := handlePacket_cases h now fault data srcAddr
    · rw [step, heq] at hvt
      exact Router.row?_handleHandshake hvt hfresh
    · rw [Router.row?, step, hval] at hvt
      exact hvt
  | createVoiceToken now fault token' userID channelID ssrc expiresAt =>
    cases hval : r.validator with
    | none => simp [step, onRows, Router.row?, hval] at hvt
    | some rows =>
      simp only [step, onRows, Router.row?, hval, Option.map_some, Option.bind_some] at hvt
      obtain ⟨rfl, rfl, hexec, hnone⟩ | hold := get?_createVoiceToken hvt
      · exact .inl ⟨now, fault, rfl, hexec, rows, hval, hnone⟩
      · exact .inr ⟨by simpa [Router.row?, hval] using hold, by simp⟩
  | revokeVoiceTokens userID =>
    cases hval : r.validator with
    | none => simp [step, onRows, Router.row?, hval] at hvt
    | some rows =>
      simp only [step, onRows, Router.row?, hval, Option.map_some, Option.bind_some,
        get?_revokeVoiceTokens, Option.filter_eq_some_iff] at hvt
      refine .inr ⟨by simpa [Router.row?, hval] using hvt.1, ?_⟩
      intro heq
      cases heq
      simp at hvt
  | registerPending token' userID channelID ssrc expiresAt => exact .inr ⟨hvt, by simp⟩
  | registerSession session => exact .inr ⟨hvt, by simp⟩
  | moveMember userID toChannelID => exact .inr ⟨hvt, by simp⟩
  | setServerMute userID muted => exact .inr ⟨hvt, by simp⟩
  | setServerDeafen userID deafened => exact .inr ⟨hvt, by simp⟩
  | removeSession userID => exact .inr ⟨hvt, by simp⟩
  | revokePending userID => exact .inr ⟨hvt, by simp⟩
  | cleanStaleSessions now maxIdle => exact .inr ⟨hvt, by simp⟩

/-- Only a revocation takes a row away, and a used row stays used. -/
theorem row?_kept {r : Router Addr} (h : r.sessions.Owned) {e : PlaneEvent Addr}
    (hrevoke : ∀ u, e ≠ .revokeVoiceTokens u) {token : Token} {vt : VoiceToken}
    (hvt : r.row? token = some vt) :
    ∃ vt', (step r e).1.row? token = some vt' ∧ (vt.isConsumed = true → vt'.isConsumed = true) := by
  cases e with
  | datagram now fault data srcAddr =>
    obtain ⟨pkt, -, -, heq⟩ | ⟨-, -, hval⟩ := handlePacket_cases h now fault data srcAddr
    · rw [step, heq]
      exact Router.row?_handleHandshake_kept hvt
    · refine ⟨vt, ?_, id⟩
      rw [Router.row?, step, hval]
      exact hvt
  | createVoiceToken now fault token' userID channelID ssrc expiresAt =>
    obtain ⟨rows, hval, hget⟩ := Option.bind_eq_some_iff.mp hvt
    refine ⟨vt, ?_, id⟩
    simp only [step, onRows, Router.row?, hval, Option.map_some, Option.bind_some]
    exact get?_createVoiceToken_of_some hget
  | revokeVoiceTokens userID => exact absurd rfl (hrevoke userID)
  | _ => exact ⟨vt, hvt, id⟩

end low_latency_voice.plane

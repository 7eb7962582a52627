import LowLatencyVoice.Audio.RouterLaws
import LowLatencyVoice.Lib.Machine

open low_latency_voice.model low_latency_voice.storage low_latency_voice.audio

namespace low_latency_voice.plane

/-- What reaches the media plane: an inbound datagram, or a call of the control
plane on the sessions or the token table. -/
inductive PlaneEvent (Addr : Type) where
  | datagram (now : Time) (fault : Fault) (data : GoBytes) (srcAddr : Addr)
  | registerPending (token : Token) (userID channelID ssrc : UInt32) (expiresAt : Time)
  | createVoiceToken (now : Time) (fault : Fault) (token : Token) (userID channelID ssrc : UInt32)
      (expiresAt : Time)
  | registerSession (session : Session Addr)
  | moveMember (userID toChannelID : UInt32)
  | setServerMute (userID : UInt32) (muted : Bool)
  | setServerDeafen (userID : UInt32) (deafened : Bool)
  | removeSession (userID : UInt32)
  | revokePending (userID : UInt32)
  | revokeVoiceTokens (userID : UInt32)
  | cleanStaleSessions (now maxIdle : Time)

variable {Addr : Type} [DecidableEq Addr]

/-- A call on the session manager alone. -/
def onSessions (r : Router Addr) (f : SessionManager Addr → SessionManager Addr) :
    Router Addr × Outcome Addr :=
  ({ r with sessions := f r.sessions }, .silent (.ok ()))

/-- A statement on the token table, when one is configured. -/
def onRows (r : Router Addr) (f : VoiceTokens → VoiceTokens) : Router Addr × Outcome Addr :=
  ({ r with validator := r.validator.map f }, .silent (.ok ()))

/-- One event. Only datagrams make the router write or notify. -/
def step (r : Router Addr) : PlaneEvent Addr → Router Addr × Outcome Addr
  | .datagram now fault data srcAddr => r.handlePacket now fault data srcAddr
  | .registerPending token userID channelID ssrc expiresAt =>
    onSessions r fun sm => sm.registerPending token userID channelID ssrc expiresAt
  | .createVoiceToken now fault token userID channelID ssrc expiresAt =>
    onRows r fun rows => (createVoiceToken rows now fault token userID channelID ssrc expiresAt).1
  | .registerSession session => onSessions r fun sm => sm.install session
  | .moveMember userID toChannelID => onSessions r fun sm => sm.moveMember userID toChannelID
  | .setServerMute userID muted => onSessions r fun sm => sm.setServerMute userID muted
  | .setServerDeafen userID deafened => onSessions r fun sm => sm.setServerDeafen userID deafened
  | .removeSession userID => onSessions r fun sm => sm.removeSession userID
  | .revokePending userID => onSessions r fun sm => sm.revokePending userID
  | .revokeVoiceTokens userID => onRows r fun rows => revokeVoiceTokens rows userID
  | .cleanStaleSessions now maxIdle => onSessions r fun sm => (sm.cleanStaleSessions now maxIdle).1

/-- The media plane under arbitrary events. -/
def media : Machine (Router Addr) (PlaneEvent Addr) (Outcome Addr) := ⟨step⟩

/-- `NewRouter` over an empty `SessionManager`. -/
def newRouter (validator : Option VoiceTokens) (notifier writer : Bool) : Router Addr where
  sessions := .new
  validator
  notifier
  writer

/-- The event is a handshake datagram, read at `now`, that carries `pkt`. -/
def Handshake (e : PlaneEvent Addr) (now : Time) (fault : Fault) (pkt : Packet) : Prop :=
  ∃ data srcAddr, e = .datagram now fault data srcAddr ∧ decodeInto data = .ok pkt ∧
    pkt.type = typeHandshake

/-- The event is a voice datagram that carries `pkt`. -/
def Voice (e : PlaneEvent Addr) (pkt : Packet) (data : GoBytes) (srcAddr : Addr) : Prop :=
  ∃ now fault, e = .datagram now fault data srcAddr ∧ decodeInto data = .ok pkt ∧
    pkt.type = typeVoice

omit [DecidableEq Addr] in
theorem handshake_datagram_iff {now now' : Time} {fault fault' : Fault} {data : GoBytes} {srcAddr : Addr}
    {pkt : Packet} : Handshake (.datagram now fault data srcAddr) now' fault' pkt ↔
      now' = now ∧ fault' = fault ∧ decodeInto data = .ok pkt ∧ pkt.type = typeHandshake := by
  constructor
  · rintro ⟨_, _, ⟨⟩, hdec, htype⟩
    exact ⟨rfl, rfl, hdec, htype⟩
  · rintro ⟨rfl, rfl, hdec, htype⟩
    exact ⟨data, srcAddr, rfl, hdec, htype⟩

/-- The bytes of a packet with the default magic and version, zero sequence and
timestamp and no speaking bit. -/
def frame (type : UInt8) (senderID channelID : UInt32) (payload : GoBytes) : GoBytes :=
  Packet.encode
    { magic := 0, version := 0, type, flags := 0, vad := false, energyLevel := 0, senderID, channelID,
      sequence := 0, payloadLen := 0, timestamp := 0, payload }

/-- What a datagram can do: it carries a handshake, or it leaves rooms, flags
and tokens as they are. -/
theorem handlePacket_cases {r : Router Addr} (h : r.sessions.Owned) (now : Time) (fault : Fault)
    (data : GoBytes) (srcAddr : Addr) :
    (∃ pkt, decodeInto data = .ok pkt ∧ pkt.type = typeHandshake ∧
      r.handlePacket now fault data srcAddr = r.handleHandshake now fault pkt srcAddr) ∨
    (∀ pkt, decodeInto data = .ok pkt → pkt.type ≠ typeHandshake) ∧
      SessionManager.Refreshed r.sessions (r.handlePacket now fault data srcAddr).1.sessions ∧
      (r.handlePacket now fault data srcAddr).1.validator = r.validator := by
  by_cases hknown : ∃ pkt, decodeInto data = .ok pkt ∧ (pkt.type = typeVoice ∨ pkt.type = typePing ∨
      pkt.type = typeHandshake)
  · obtain ⟨pkt, hdec, htype⟩ := hknown
    have hunique : ∀ pkt', decodeInto data = .ok pkt' → pkt'.type = pkt.type := by
      intro pkt' hdec'
      cases hdec.symm.trans hdec'
      rfl
    obtain hvoice | hping | hshake := htype
    · rw [Router.handlePacket_voice hdec hvoice]
      refine .inr ⟨fun pkt' hdec' => ?_, Router.handleVoice_refreshed h now pkt data srcAddr,
        Router.handleVoice_validator h now pkt data srcAddr⟩
      rw [hunique pkt' hdec', hvoice]
      decide
    · rw [Router.handlePacket_ping hdec hping]
      refine .inr ⟨fun pkt' hdec' => ?_, Router.refresh_refreshed h now pkt srcAddr, rfl⟩
      rw [hunique pkt' hdec', hping]
      decide
    · exact .inl ⟨pkt, hdec, hshake, Router.handlePacket_handshake hdec hshake⟩
  · have hother : ∀ pkt, decodeInto data = .ok pkt →
        pkt.type ≠ typeVoice ∧ pkt.type ≠ typePing ∧ pkt.type ≠ typeHandshake := by
      intro pkt hdec
      refine ⟨?_, ?_, ?_⟩ <;> intro htype <;> exact hknown ⟨pkt, hdec, by simp [htype]⟩
    obtain ⟨result, heq⟩ := Router.handlePacket_other r now fault srcAddr hother
    rw [heq]
    exact .inr ⟨fun pkt hdec => (hother pkt hdec).2.2, .refl h, rfl⟩

theorem step_handshake {e : PlaneEvent Addr} {now : Time} {fault : Fault} {pkt : Packet}
    (h : Handshake e now fault pkt) :
    ∃ srcAddr, ∀ r, step r e = Router.handleHandshake r now fault pkt srcAddr := by
  obtain ⟨data, srcAddr, rfl, hdec, htype⟩ := h
  exact ⟨srcAddr, fun r => Router.handlePacket_handshake hdec htype⟩

theorem step_owned {r : Router Addr} (h : r.sessions.Owned) (e : PlaneEvent Addr) :
    (step r e).1.sessions.Owned := by
  cases e with
  | datagram now fault data srcAddr =>
    obtain ⟨pkt, -, -, heq⟩ | ⟨-, href, -⟩ := handlePacket_cases h now fault data srcAddr
    · rw [step, heq]
      exact Router.handleHandshake_owned h now fault pkt srcAddr
    · exact href.owned
  | registerPending token userID channelID ssrc expiresAt => exact h.of_pendingTokens _
  | createVoiceToken now fault token userID channelID ssrc expiresAt => exact h
  | registerSession session => exact h.install session
  | moveMember userID toChannelID => exact h.moveMember userID toChannelID
  | setServerMute userID muted => exact h.withSession userID _ (fun _ => rfl) (fun _ => rfl)
  | setServerDeafen userID deafened => exact h.withSession userID _ (fun _ => rfl) (fun _ => rfl)
  | removeSession userID => exact h.removeSession userID
  | revokePending userID => exact h.of_pendingTokens _
  | revokeVoiceTokens userID => exact h
  | cleanStaleSessions now maxIdle => exact h.cleanStaleSessions now maxIdle

/-- The indexes are sound after every run. -/
theorem run_owned {r : Router Addr} (h : r.sessions.Owned) (es : List (PlaneEvent Addr)) :
    (media.run r es).sessions.Owned := by
  have hall : Machine.Along (fun _ _ => True) es := fun _ _ _ _ => trivial
  exact Machine.run_invariant media (fun _ r => r.sessions.Owned) h
    (fun _ e _ hinv => step_owned hinv e) es hall

/-- What a call of the control plane does to a session that stays. -/
def onStanding (u : UInt32) (standing : UInt32 × Bool × Bool) : PlaneEvent Addr → UInt32 × Bool × Bool
  | .moveMember v c => if v = u then (c, standing.2) else standing
  | .setServerMute v muted => if v = u then (standing.1, muted, standing.2.2) else standing
  | .setServerDeafen v deafened => if v = u then (standing.1, standing.2.1, deafened) else standing
  | _ => standing

omit [DecidableEq Addr] in
theorem onStanding_moveMember (u c : UInt32) (standing : UInt32 × Bool × Bool) :
    onStanding u standing (.moveMember u c : PlaneEvent Addr) = (c, standing.2) := if_pos rfl

omit [DecidableEq Addr] in
theorem onStanding_setServerMute (u : UInt32) (muted : Bool) (standing : UInt32 × Bool × Bool) :
    onStanding u standing (.setServerMute u muted : PlaneEvent Addr) = (standing.1, muted, standing.2.2) :=
  if_pos rfl

omit [DecidableEq Addr] in
theorem onStanding_setServerDeafen (u : UInt32) (deafened : Bool) (standing : UInt32 × Bool × Bool) :
    onStanding u standing (.setServerDeafen u deafened : PlaneEvent Addr) =
      (standing.1, standing.2.1, deafened) :=
  if_pos rfl

omit [DecidableEq Addr] in
/-- A muted session stays muted until it is unmuted. -/
theorem onStanding_muted {u : UInt32} {e : PlaneEvent Addr} {standing : UInt32 × Bool × Bool}
    (h : e ≠ .setServerMute u false) (hmuted : standing.2.1 = true) :
    (onStanding u standing e).2.1 = true := by
  cases e with
  | setServerMute v muted =>
    by_cases hv : v = u
    · subst v
      cases muted with
      | true => simp [onStanding]
      | false => exact absurd rfl h
    · simpa [onStanding, hv] using hmuted
  | moveMember v c =>
    simp only [onStanding]
    split <;> exact hmuted
  | setServerDeafen v deafened =>
    simp only [onStanding]
    split <;> exact hmuted
  | _ => exact hmuted

omit [DecidableEq Addr] in
/-- A deafened session stays deafened until it is undeafened. -/
theorem onStanding_deafened {u : UInt32} {e : PlaneEvent Addr} {standing : UInt32 × Bool × Bool}
    (h : e ≠ .setServerDeafen u false) (hdeafened : standing.2.2 = true) :
    (onStanding u standing e).2.2 = true := by
  cases e with
  | setServerDeafen v deafened =>
    by_cases hv : v = u
    · subst v
      cases deafened with
      | true => simp [onStanding]
      | false => exact absurd rfl h
    · simpa [onStanding, hv] using hdeafened
  | moveMember v c =>
    simp only [onStanding]
    split <;> exact hdeafened
  | setServerMute v muted =>
    simp only [onStanding]
    split <;> exact hdeafened
  | _ => exact hdeafened

omit [DecidableEq Addr] in
/-- Only `MoveMember` changes the channel of a session that stays. -/
theorem onStanding_fst {u : UInt32} {e : PlaneEvent Addr} (h : ∀ c, e ≠ .moveMember u c)
    (standing : UInt32 × Bool × Bool) : (onStanding u standing e).1 = standing.1 := by
  cases e with
  | moveMember v c =>
    have hv : v ≠ u := by
      rintro rfl
      exact h c rfl
    simp [onStanding, hv]
  | setServerMute v muted =>
    simp only [onStanding]
    split <;> rfl
  | setServerDeafen v deafened =>
    simp only [onStanding]
    split <;> rfl
  | _ => rfl

/-- How a session comes to have its channel and flags: by a handshake of its
user, by a direct registration, or from the session before the event. -/
theorem standing_step {r : Router Addr} (h : r.sessions.Owned) {e : PlaneEvent Addr} {u : UInt32}
    {standing' : UInt32 × Bool × Bool}
    (hs : ((step r e).1.sessions.session? u).map Session.standing = some standing') :
    (∃ now fault pkt, Handshake e now fault pkt ∧ pkt.senderID = u ∧ standing'.1 = pkt.channelID ∧
      (Router.Accepts r now fault pkt → standing'.2 = (false, false)) ∧
      (¬ Router.Accepts r now fault pkt →
        standing'.2 = ((r.sessions.session? u).map Session.flags).getD (false, false))) ∨
    (∃ s, e = .registerSession s ∧ s.userID = u ∧ standing' = s.standing) ∨
    ∃ standing, (r.sessions.session? u).map Session.standing = some standing ∧
      standing' = onStanding u standing e := by
  have hwrite : ∀ (v : UInt32) (f : Session Addr → Session Addr),
      (if u = v then (r.sessions.session? v).map f else r.sessions.session? u).map Session.standing =
        some standing' →
      ∃ s, r.sessions.session? u = some s ∧ standing' = if v = u then (f s).standing else s.standing := by
    intro v f hs
    by_cases hu : u = v
    · subst hu
      rw [if_pos rfl, Option.map_map] at hs
      obtain ⟨s, hs₀, rfl⟩ := Option.map_eq_some_iff.mp hs
      exact ⟨s, hs₀, by simp⟩
    · rw [if_neg hu] at hs
      obtain ⟨s, hs₀, rfl⟩ := Option.map_eq_some_iff.mp hs
      exact ⟨s, hs₀, by simp [Ne.symm hu]⟩
  cases e with
  | datagram now fault data srcAddr =>
    obtain ⟨pkt, hdec, htype, heq⟩ | ⟨-, href, -⟩ := handlePacket_cases h now fault data srcAddr
    · rw [step, heq] at hs
      by_cases hu : u = pkt.senderID
      · refine .inl ⟨now, fault, pkt, ⟨data, srcAddr, rfl, hdec, htype⟩, hu.symm, ?_, ?_, ?_⟩
        · have hchannel : ((r.handleHandshake now fault pkt srcAddr).1.sessions.session?
              pkt.senderID).map Session.channelID = some pkt.channelID :=
            Router.channelID_handleHandshake h srcAddr
          obtain ⟨s, hs₀, rfl⟩ := Option.map_eq_some_iff.mp hs
          rw [← hu, hs₀] at hchannel
          exact Option.some.inj hchannel
        · intro hacc
          rw [Router.standing_of_accepted h srcAddr hacc, if_pos hu] at hs
          cases hs
          rfl
        · intro hrej
          rw [Router.standing_of_rejected h srcAddr hrej, if_pos hu] at hs
          cases hs
          rfl
      · rw [Router.standing_handleHandshake_of_ne h srcAddr hu] at hs
        exact .inr (.inr ⟨standing', hs, rfl⟩)
    · rw [step, href.standing u] at hs
      exact .inr (.inr ⟨standing', hs, rfl⟩)
  | registerSession session =>
    simp only [step, onSessions, SessionManager.session?_install h] at hs
    split at hs
    · cases hs
      exact .inr (.inl ⟨session, rfl, Eq.symm ‹_›, rfl⟩)
    · exact .inr (.inr ⟨standing', hs, rfl⟩)
  | moveMember userID toChannelID =>
    simp only [step, onSessions, SessionManager.session?_moveMember h] at hs
    obtain ⟨s, hs₀, heq⟩ := hwrite _ _ hs
    exact .inr (.inr ⟨s.standing, congrArg _ hs₀, heq⟩)
  | setServerMute userID muted =>
    simp only [step, onSessions, SessionManager.setServerMute, SessionManager.session?_withSession h] at hs
    obtain ⟨s, hs₀, heq⟩ := hwrite _ _ hs
    exact .inr (.inr ⟨s.standing, congrArg _ hs₀, heq⟩)
  | setServerDeafen userID deafened =>
    simp only [step, onSessions, SessionManager.setServerDeafen,
      SessionManager.session?_withSession h] at hs
    obtain ⟨s, hs₀, heq⟩ := hwrite _ _ hs
    exact .inr (.inr ⟨s.standing, congrArg _ hs₀, heq⟩)
  | removeSession userID =>
    simp only [step, onSessions, SessionManager.session?_removeSession] at hs
    split at hs
    · cases hs
    · exact .inr (.inr ⟨standing', hs, rfl⟩)
  | cleanStaleSessions now maxIdle =>
    obtain ⟨s, hs₀, rfl⟩ := Option.map_eq_some_iff.mp hs
    rw [SessionManager.session?_of_cleanStaleSessions hs₀]
    exact .inr (.inr ⟨s.standing, rfl, rfl⟩)
  | registerPending token userID channelID ssrc expiresAt => exact .inr (.inr ⟨standing', hs, rfl⟩)
  | createVoiceToken now fault token userID channelID ssrc expiresAt =>
    exact .inr (.inr ⟨standing', hs, rfl⟩)
  | revokePending userID => exact .inr (.inr ⟨standing', hs, rfl⟩)
  | revokeVoiceTokens userID => exact .inr (.inr ⟨standing', hs, rfl⟩)

end low_latency_voice.plane

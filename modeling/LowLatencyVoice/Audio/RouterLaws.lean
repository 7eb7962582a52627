import LowLatencyVoice.Audio.Router

open low_latency_voice.model low_latency_voice.storage

namespace low_latency_voice.audio

variable {Addr : Type}

/-- The flags of a session, server mute first. -/
def Session.flags (s : Session Addr) : Bool × Bool := (s.serverMuted, s.serverDeafened)

/-- What the rooms and the moderators see of a session. -/
def Session.standing (s : Session Addr) : UInt32 × Bool × Bool := (s.channelID, s.flags)

theorem map_channelID_of_standing {a b : Option (Session Addr)}
    (h : a.map Session.standing = b.map Session.standing) :
    a.map Session.channelID = b.map Session.channelID := by
  have hfst := congrArg (Option.map Prod.fst) h
  simpa [Option.map_map, Function.comp_def, Session.standing] using hfst

variable [DecidableEq Addr]

namespace SessionManager

/-- `sm'` differs from `sm` only in addresses, clocks and speaking levels. -/
structure Refreshed (sm sm' : SessionManager Addr) : Prop where
  owned : sm'.Owned
  inStep : sm.InStep → sm'.InStep
  standing : ∀ u, (sm'.session? u).map Session.standing = (sm.session? u).map Session.standing
  pendingTokens : sm'.pendingTokens = sm.pendingTokens
  byUser : sm'.byUser = sm.byUser

theorem Refreshed.refl {sm : SessionManager Addr} (h : sm.Owned) : Refreshed sm sm :=
  ⟨h, id, fun _ => rfl, rfl, rfl⟩

theorem Refreshed.trans {sm sm' sm'' : SessionManager Addr} (h : Refreshed sm sm')
    (h' : Refreshed sm' sm'') : Refreshed sm sm'' :=
  ⟨h'.owned, fun hin => h'.inStep (h.inStep hin), fun u => (h'.standing u).trans (h.standing u),
    h'.pendingTokens.trans h.pendingTokens, h'.byUser.trans h.byUser⟩

theorem refreshed_updateAddr {sm : SessionManager Addr} (h : sm.Owned) (now : Time) (v : UInt32)
    (addr : Option Addr) : Refreshed sm (sm.updateAddr now v addr) where
  owned := h.updateAddr now v addr
  inStep hin := hin.updateAddr now v addr
  standing u := by
    rw [session?_updateAddr h]
    split
    · subst u
      rw [Option.map_map]
      rfl
    · rfl
  pendingTokens := updateAddr_pendingTokens sm now v addr
  byUser := by
    unfold updateAddr
    split <;> rfl

theorem refreshed_modify {sm : SessionManager Addr} (h : sm.Owned) {v : UInt32} {ref : SessionRef}
    (hv : sm.byUser.get? v = some ref) (f : Session Addr → Session Addr)
    (huser : (f (sm.heap ref)).userID = (sm.heap ref).userID)
    (haddr : (f (sm.heap ref)).addr = (sm.heap ref).addr)
    (hstanding : (f (sm.heap ref)).standing = (sm.heap ref).standing) :
    Refreshed sm (sm.modify ref f) where
  owned := h.modify ref f huser haddr
  inStep hin := hin.modify ref f (congrArg Prod.fst hstanding)
  standing u := by
    rw [session?_modify h hv]
    split
    · subst u
      simp [session?, hv, hstanding]
    · rfl
  pendingTokens := rfl
  byUser := rfl

end SessionManager

namespace Router

open SessionManager

/-- The address lookup of `handleVoice` never finds more than the user lookup:
an address entry belongs to a registered session. -/
theorem voiceSession_eq {sm : SessionManager Addr} (h : sm.Owned) (pkt : Packet) (srcAddr : Addr) :
    voiceSession sm pkt srcAddr = sm.byUser.get? pkt.senderID := by
  cases hu : sm.byUser.get? pkt.senderID with
  | some ref => simp [voiceSession, getByUser, hu]
  | none =>
    cases ha : sm.byAddr.get? srcAddr with
    | none => simp [voiceSession, getByUser, getByAddr, hu, ha]
    | some ref =>
      have hreg := (h.addr ha).1
      have hne : (sm.heap ref).userID ≠ pkt.senderID := by
        intro heq
        rw [heq, hu] at hreg
        cases hreg
      simp [voiceSession, getByUser, getByAddr, hu, ha, hne]

theorem roam_refreshed {sm : SessionManager Addr} (h : sm.Owned) (now : Time) (ref : SessionRef)
    (v : UInt32) (srcAddr : Addr) : Refreshed sm (roam sm now ref v srcAddr) := by
  unfold roam
  split
  · exact .refl h
  · exact refreshed_updateAddr h now v _

/-- After roaming the sender sits at the source address. -/
theorem roam_heap {sm : SessionManager Addr} {ref : SessionRef} {v : UInt32}
    (hv : sm.byUser.get? v = some ref) (now : Time) (srcAddr : Addr) :
    ∃ lastSeen, (roam sm now ref v srcAddr).heap =
      Function.update sm.heap ref { sm.heap ref with addr := some srcAddr, lastSeen } := by
  unfold roam
  split
  · rename_i haddr
    refine ⟨(sm.heap ref).lastSeen, ?_⟩
    rw [← haddr, Function.update_eq_self]
  · refine ⟨now, ?_⟩
    simp only [updateAddr, hv]
    rfl

theorem roam_byChannel (sm : SessionManager Addr) (now : Time) (ref : SessionRef) (v : UInt32)
    (srcAddr : Addr) : (roam sm now ref v srcAddr).byChannel = sm.byChannel := by
  unfold roam updateAddr
  split
  · rfl
  · split <;> rfl

/-- All a voice packet can do: it is dropped, or its sender is a registered
member of the room it names and is muted, or is forwarded. -/
theorem handleVoice_cases {r : Router Addr} (h : r.sessions.Owned) (now : Time) (pkt : Packet)
    (rawData : GoBytes) (srcAddr : Addr) :
    (∃ e, r.handleVoice now pkt rawData srcAddr = (r, .silent (.error e))) ∨
    ∃ ref sm, r.sessions.byUser.get? pkt.senderID = some ref ∧
      (r.sessions.heap ref).channelID = pkt.channelID ∧
      sm = roam r.sessions now ref pkt.senderID srcAddr ∧
      ((sm.heap ref).serverMuted = true ∧ r.handleVoice now pkt rawData srcAddr =
          ({ r with sessions := sm }, .silent (.error .userServerMuted)) ∨
        (sm.heap ref).serverMuted = false ∧ ∃ sm' notified,
          sm' = sm.modify ref (fun s => (s.updateSpeakingState now pkt.vad pkt.energyLevel).1) ∧
          notified = (if ((sm.heap ref).updateSpeakingState now pkt.vad pkt.energyLevel).2 && r.notifier
            then [⟨pkt.channelID, pkt.senderID, pkt.vad, pkt.energyLevel⟩] else []) ∧
          r.handleVoice now pkt rawData srcAddr = ({ r with sessions := sm' },
            ⟨.ok (), if r.writer then
              forward sm' (sm'.getChannelPeers pkt.channelID pkt.senderID) rawData else [], notified⟩)) := by
  unfold handleVoice
  rw [voiceSession_eq h]
  cases hu : r.sessions.byUser.get? pkt.senderID with
  | none => exact .inl ⟨_, rfl⟩
  | some ref =>
    by_cases hroom : (r.sessions.heap ref).channelID = pkt.channelID
    · right
      refine ⟨ref, _, rfl, hroom, rfl, ?_⟩
      cases hmuted : ((roam r.sessions now ref pkt.senderID srcAddr).heap ref).serverMuted with
      | true =>
        left
        simp [hroom, hmuted]
      | false =>
        right
        refine ⟨rfl, _, _, rfl, rfl, ?_⟩
        simp only [ne_eq, hroom, not_true_eq_false, if_false, hmuted, Bool.false_eq_true]
        rfl
    · left
      refine ⟨.channelMismatch, ?_⟩
      simp [hroom]

/-- Everything a voice packet does to the sessions. -/
theorem handleVoice_refreshed {r : Router Addr} (h : r.sessions.Owned) (now : Time) (pkt : Packet)
    (rawData : GoBytes) (srcAddr : Addr) :
    Refreshed r.sessions (r.handleVoice now pkt rawData srcAddr).1.sessions := by
  obtain ⟨e, heq⟩ | ⟨ref, sm, hu, -, rfl, hcases⟩ := handleVoice_cases h now pkt rawData srcAddr
  · rw [heq]
    exact .refl h
  · have hroam := roam_refreshed h now ref pkt.senderID srcAddr
    obtain ⟨-, heq⟩ | ⟨-, sm', notified, rfl, -, heq⟩ := hcases
    · rw [heq]
      exact hroam
    · have hv : (roam r.sessions now ref pkt.senderID srcAddr).byUser.get? pkt.senderID = some ref := by
        rw [hroam.byUser]
        exact hu
      rw [heq]
      exact hroam.trans (refreshed_modify hroam.owned hv
        (fun s => (s.updateSpeakingState now pkt.vad pkt.energyLevel).1) rfl rfl rfl)

theorem refresh_refreshed {sm : SessionManager Addr} (h : sm.Owned) (now : Time) (pkt : Packet)
    (srcAddr : Addr) : Refreshed sm (refresh sm now pkt srcAddr) := by
  unfold refresh
  split
  · exact .refl h
  · rename_i ref href
    split
    · have hreg : sm.byUser.get? (sm.heap ref).userID = some ref := by
        rcases Option.or_eq_some_iff.mp href with hu | ⟨-, ha⟩
        · rw [(h.user hu).2]
          exact hu
        · exact (h.addr ha).1
      exact refreshed_modify h hreg _ rfl rfl rfl
    · exact refreshed_updateAddr h now _ _

theorem handleVoice_validator {r : Router Addr} (h : r.sessions.Owned) (now : Time) (pkt : Packet)
    (rawData : GoBytes) (srcAddr : Addr) :
    (r.handleVoice now pkt rawData srcAddr).1.validator = r.validator := by
  obtain ⟨e, heq⟩ | ⟨ref, sm, -, -, -, ⟨-, heq⟩ | ⟨-, sm', notified, -, -, heq⟩⟩ :=
    handleVoice_cases h now pkt rawData srcAddr <;> rw [heq]

/-- The fallback on a known user: the address follows, and the channel field is
written without the routing table. -/
theorem fallback_of_some {sm : SessionManager Addr} {pkt : Packet} {ref : SessionRef}
    (href : sm.byUser.get? pkt.senderID = some ref) (now : Time) (srcAddr : Addr) :
    fallback sm now pkt srcAddr =
      (sm.modify ref fun s => { s with channelID := pkt.channelID }).updateAddr now pkt.senderID
        (some srcAddr) := by
  simp [fallback, getByUser, href]

theorem fallback_of_none {sm : SessionManager Addr} {pkt : Packet}
    (href : sm.byUser.get? pkt.senderID = none) (now : Time) (srcAddr : Addr) :
    fallback sm now pkt srcAddr =
      sm.install (newSession now pkt.senderID pkt.channelID 0 (some srcAddr)) := by
  simp [fallback, getByUser, href]

theorem fallback_owned {sm : SessionManager Addr} (h : sm.Owned) (now : Time) (pkt : Packet)
    (srcAddr : Addr) : (fallback sm now pkt srcAddr).Owned := by
  cases href : sm.byUser.get? pkt.senderID with
  | some ref =>
    rw [fallback_of_some href]
    exact (h.modify ref (fun s => { s with channelID := pkt.channelID }) rfl rfl).updateAddr _ _ _
  | none =>
    rw [fallback_of_none href]
    exact h.install _

theorem standing_fallback {sm : SessionManager Addr} (h : sm.Owned) (now : Time) (pkt : Packet)
    (srcAddr : Addr) (u : UInt32) :
    ((fallback sm now pkt srcAddr).session? u).map Session.standing =
      if u = pkt.senderID then
        some (pkt.channelID, ((sm.session? u).map Session.flags).getD (false, false))
      else (sm.session? u).map Session.standing := by
  cases href : sm.byUser.get? pkt.senderID with
  | some ref =>
    have hmod := h.modify ref (fun s => { s with channelID := pkt.channelID }) rfl rfl
    rw [fallback_of_some href, (refreshed_updateAddr hmod now _ _).standing, session?_modify h href]
    by_cases hu : u = pkt.senderID
    · simp [hu, session?, href, Session.standing, Session.flags]
    · simp only [hu, if_false]
  | none =>
    rw [fallback_of_none href, session?_install h]
    by_cases hu : u = pkt.senderID
    · simp [hu, session?, href, Session.standing, Session.flags, newSession]
    · simp only [newSession, hu, if_false]

/-- The token string of a handshake packet. -/
def tokenStr (pkt : Packet) : Token := GoBytes.trimSpace pkt.payload

/-- The pending table accepts the handshake. -/
def PendingAccepts (r : Router Addr) (now : Time) (pkt : Packet) : Prop :=
  ∃ pt, r.sessions.LivePending now (tokenStr pkt) pkt.senderID pkt.channelID pt

/-- The token table accepts the handshake with this row. -/
def StoredRow (r : Router Addr) (now : Time) (fault : Fault) (pkt : Packet) (vt : VoiceToken) : Prop :=
  tokenStr pkt ≠ [] ∧ fault = .none ∧
    (∃ rows, r.validator = some rows ∧ LiveRow rows now (tokenStr pkt) vt) ∧
    vt.userID = pkt.senderID ∧ vt.channelID = pkt.channelID

def StoredAccepts (r : Router Addr) (now : Time) (fault : Fault) (pkt : Packet) : Prop :=
  ∃ vt, StoredRow r now fault pkt vt

/-- The pending table after a refused activation: an expired entry is gone. -/
def Swept (sm : SessionManager Addr) (now : Time) (token : Token) (sm' : SessionManager Addr) : Prop :=
  sm' = sm ∨ (∃ pt, sm.pendingTokens.get? token = some pt ∧ pt.expiresAt < now) ∧
    sm' = { sm with pendingTokens := sm.pendingTokens.delete token }

/-- The token table after a refused consume: a row for another sender or
channel may have been used up. -/
def Spent (validator : Option VoiceTokens) (token : Token) (validator' : Option VoiceTokens) : Prop :=
  validator' = validator ∨ ∃ rows vt, validator = some rows ∧ rows.get? token = some vt ∧
    validator' = some (rows.set token { vt with isConsumed := true })

theorem Swept.owned {sm sm' : SessionManager Addr} {now : Time} {token : Token} (h : sm.Owned)
    (hswept : Swept sm now token sm') : sm'.Owned := by
  obtain rfl | ⟨-, rfl⟩ := hswept
  · exact h
  · exact h.of_pendingTokens _

omit [DecidableEq Addr] in
theorem Swept.session? {sm sm' : SessionManager Addr} {now : Time} {token : Token}
    (hswept : Swept sm now token sm') (u : UInt32) : sm'.session? u = sm.session? u := by
  obtain rfl | ⟨-, rfl⟩ := hswept <;> rfl

omit [DecidableEq Addr] in
theorem Swept.inStep {sm sm' : SessionManager Addr} {now : Time} {token : Token}
    (hswept : Swept sm now token sm') (hin : sm.InStep) : sm'.InStep := by
  obtain rfl | ⟨-, rfl⟩ := hswept <;> exact hin

omit [DecidableEq Addr] in
/-- Both results of branch 2 of the handshake. -/
theorem consumeStored_cases (r : Router Addr) (now : Time) (fault : Fault) (pkt : Packet) :
    (∃ rows vt, r.validator = some rows ∧ StoredRow r now fault pkt vt ∧
      consumeStored r now fault (tokenStr pkt) pkt =
        ({ r with validator := some (rows.set (tokenStr pkt) { vt with isConsumed := true }) },
          some { vt with isConsumed := true })) ∨
    (¬ StoredAccepts r now fault pkt ∧ ∃ validator', Spent r.validator (tokenStr pkt) validator' ∧
      consumeStored r now fault (tokenStr pkt) pkt = ({ r with validator := validator' }, none)) := by
  cases hval : r.validator with
  | none =>
    refine .inr ⟨?_, none, .inl rfl, ?_⟩
    · rintro ⟨vt, -, -, ⟨rows, hrows, -⟩, -⟩
      simp [hval] at hrows
    · have hsame : ({ r with validator := none } : Router Addr) = r := by rw [← hval]
      simp [consumeStored, hval, hsame]
  | some rows =>
    by_cases hempty : tokenStr pkt = []
    · have hsame : ({ r with validator := some rows } : Router Addr) = r := by rw [← hval]
      refine .inr ⟨fun ⟨_, hne, _⟩ => hne hempty, some rows, .inl rfl, ?_⟩
      simp [consumeStored, hval, hempty, hsame]
    · cases hconsume : consumeVoiceToken rows now fault (tokenStr pkt) with
      | mk rows' res =>
        cases res with
        | error e =>
          have hsame := consumeVoiceToken_error hconsume
          subst rows'
          refine .inr ⟨?_, some rows, .inl rfl, by simp [consumeStored, hval, hempty, hconsume]⟩
          rintro ⟨vt, -, hfault, ⟨rows₂, hrows₂, hlive⟩, -⟩
          cases hval.symm.trans hrows₂
          have hok := consumeVoiceToken_eq_ok_iff.mpr ⟨hfault, vt, hlive, rfl, rfl⟩
          rw [hconsume] at hok
          cases (Prod.mk.inj hok).2
        | ok vt' =>
          obtain ⟨hfault, vt, hlive, rfl, rfl⟩ := consumeVoiceToken_eq_ok_iff.mp hconsume
          by_cases hmatch : vt.userID = pkt.senderID ∧ vt.channelID = pkt.channelID
          · refine .inl ⟨rows, vt, rfl, ⟨hempty, hfault, ⟨rows, hval, hlive⟩, hmatch⟩, ?_⟩
            simp [consumeStored, hval, hempty, hconsume, hmatch]
          · refine .inr ⟨?_, _, .inr ⟨rows, vt, rfl, hlive.1, rfl⟩, ?_⟩
            · rintro ⟨vt₂, -, -, ⟨rows₂, hrows₂, hlive₂⟩, hmatch₂⟩
              cases hval.symm.trans hrows₂
              cases hlive.1.symm.trans hlive₂.1
              exact hmatch hmatch₂
            · simp [consumeStored, hval, hempty, hconsume, hmatch]

/-- The three ways a handshake ends: the pending entry is used, the stored row
is used, or neither store accepts and the fallback runs. -/
theorem handleHandshake_cases (r : Router Addr) (now : Time) (fault : Fault) (pkt : Packet)
    (srcAddr : Addr) :
    (∃ pt, r.sessions.LivePending now (tokenStr pkt) pkt.senderID pkt.channelID pt ∧
      (r.handleHandshake now fault pkt srcAddr).1 = { r with
        sessions := ({ r.sessions with
          pendingTokens := r.sessions.pendingTokens.delete (tokenStr pkt) } : SessionManager Addr).install
            (newSession now pkt.senderID pkt.channelID pt.ssrc (some srcAddr)) }) ∨
    (¬ PendingAccepts r now pkt ∧ ∃ rows vt sm, r.validator = some rows ∧
      StoredRow r now fault pkt vt ∧ Swept r.sessions now (tokenStr pkt) sm ∧
      (r.handleHandshake now fault pkt srcAddr).1 = { r with
        sessions := sm.install (newSession now vt.userID vt.channelID vt.ssrc (some srcAddr))
        validator := some (rows.set (tokenStr pkt) { vt with isConsumed := true }) }) ∨
    (¬ PendingAccepts r now pkt ∧ ¬ StoredAccepts r now fault pkt ∧ ∃ sm validator',
      Swept r.sessions now (tokenStr pkt) sm ∧ Spent r.validator (tokenStr pkt) validator' ∧
      (r.handleHandshake now fault pkt srcAddr).1 = { r with
        sessions := fallback sm now pkt srcAddr
        validator := validator' }) := by
  unfold handleHandshake
  cases hact : r.sessions.activatePending now (tokenStr pkt) pkt.senderID pkt.channelID
      (some srcAddr) with
  | mk sm res =>
    cases res with
    | ok s =>
      obtain ⟨pt, hlive, rfl, rfl⟩ := activatePending_eq_ok_iff.mp hact
      refine .inl ⟨pt, hlive, ?_⟩
      unfold tokenStr at hact
      simp only [hact]
      rfl
    | error e =>
      have hswept : Swept r.sessions now (tokenStr pkt) sm := activatePending_error hact
      have hrefused : ¬ PendingAccepts r now pkt := by
        rintro ⟨pt, hlive⟩
        have hok : activatePending r.sessions now (tokenStr pkt) pkt.senderID pkt.channelID
            (some srcAddr) = (_, .ok _) := activatePending_eq_ok_iff.mpr ⟨pt, hlive, rfl, rfl⟩
        rw [hact] at hok
        cases (Prod.mk.inj hok).2
      obtain ⟨rows, vt, hval, hrow, heq⟩ | ⟨hno, validator', hspent, heq⟩ :=
        consumeStored_cases { r with sessions := sm } now fault pkt
      · refine .inr (.inl ⟨hrefused, rows, vt, sm, hval, hrow, hswept, ?_⟩)
        unfold tokenStr at hact heq
        simp only [hact, heq]
        rfl
      · refine .inr (.inr ⟨hrefused, hno, sm, validator', hswept, hspent, ?_⟩)
        unfold tokenStr at hact heq
        simp only [hact, heq]

/-- Whatever happens to it, a handshake is answered with silence. -/
theorem handleHandshake_outcome (r : Router Addr) (now : Time) (fault : Fault) (pkt : Packet)
    (srcAddr : Addr) : (r.handleHandshake now fault pkt srcAddr).2 = .silent (.ok ()) := by
  unfold handleHandshake
  simp only
  split
  · rfl
  · split <;> rfl

/-- One of the two stores accepts the handshake. -/
def Accepts (r : Router Addr) (now : Time) (fault : Fault) (pkt : Packet) : Prop :=
  PendingAccepts r now pkt ∨ StoredAccepts r now fault pkt

theorem handleHandshake_owned {r : Router Addr} (h : r.sessions.Owned) (now : Time) (fault : Fault)
    (pkt : Packet) (srcAddr : Addr) : (r.handleHandshake now fault pkt srcAddr).1.sessions.Owned := by
  obtain ⟨pt, -, heq⟩ | ⟨-, rows, vt, sm, -, -, hswept, heq⟩ | ⟨-, -, sm, _, hswept, -, heq⟩ :=
    handleHandshake_cases r now fault pkt srcAddr
  · rw [heq]
    exact (h.of_pendingTokens _).install _
  · rw [heq]
    exact (hswept.owned h).install _
  · rw [heq]
    exact fallback_owned (hswept.owned h) now pkt srcAddr

/-- An accepted handshake gives its sender a fresh session in the channel the
token names, and nobody else anything. -/
theorem standing_of_accepted {r : Router Addr} (h : r.sessions.Owned) {now : Time} {fault : Fault}
    {pkt : Packet} (srcAddr : Addr) (hacc : Accepts r now fault pkt) (u : UInt32) :
    ((r.handleHandshake now fault pkt srcAddr).1.sessions.session? u).map Session.standing =
      if u = pkt.senderID then some (pkt.channelID, false, false)
      else (r.sessions.session? u).map Session.standing := by
  obtain ⟨pt, -, heq⟩ | ⟨-, rows, vt, sm, -, hrow, hswept, heq⟩ | ⟨hpending, hstored, -⟩ :=
    handleHandshake_cases r now fault pkt srcAddr
  · rw [heq, session?_install (h.of_pendingTokens _)]
    by_cases hu : u = pkt.senderID
    · simp [newSession, Session.standing, Session.flags, hu]
    · simp only [newSession, hu, if_false]
      rfl
  · obtain ⟨-, -, -, huser, hchannel⟩ := hrow
    rw [heq, session?_install (hswept.owned h), hswept.session?]
    by_cases hu : u = pkt.senderID <;> simp [newSession, Session.standing, Session.flags, huser, hchannel, hu]
  · exact absurd hacc (not_or.mpr ⟨hpending, hstored⟩)

/-- The fallback puts its sender in the channel the datagram names, with the
flags of the session it finds. -/
theorem standing_of_rejected {r : Router Addr} (h : r.sessions.Owned) {now : Time} {fault : Fault}
    {pkt : Packet} (srcAddr : Addr) (hrej : ¬ Accepts r now fault pkt) (u : UInt32) :
    ((r.handleHandshake now fault pkt srcAddr).1.sessions.session? u).map Session.standing =
      if u = pkt.senderID then
        some (pkt.channelID, ((r.sessions.session? u).map Session.flags).getD (false, false))
      else (r.sessions.session? u).map Session.standing := by
  obtain ⟨pt, hlive, -⟩ | ⟨-, rows, vt, sm, -, hrow, -⟩ | ⟨-, -, sm, _, hswept, -, heq⟩ :=
    handleHandshake_cases r now fault pkt srcAddr
  · exact absurd (.inl ⟨pt, hlive⟩) hrej
  · exact absurd (.inr ⟨vt, hrow⟩) hrej
  · rw [heq, standing_fallback (hswept.owned h), hswept.session?]

/-- Whatever its token, a handshake leaves its sender in the channel it names. -/
theorem channelID_handleHandshake {r : Router Addr} (h : r.sessions.Owned) {now : Time} {fault : Fault}
    {pkt : Packet} (srcAddr : Addr) :
    ((r.handleHandshake now fault pkt srcAddr).1.sessions.session? pkt.senderID).map
      Session.channelID = some pkt.channelID := by
  have hstanding : ∃ flags, ((r.handleHandshake now fault pkt srcAddr).1.sessions.session?
      pkt.senderID).map Session.standing = some (pkt.channelID, flags) := by
    by_cases hacc : Accepts r now fault pkt
    · exact ⟨(false, false), by rw [standing_of_accepted h srcAddr hacc, if_pos rfl]⟩
    · exact ⟨_, by rw [standing_of_rejected h srcAddr hacc, if_pos rfl]⟩
  obtain ⟨flags, hflags⟩ := hstanding
  obtain ⟨s, hs, heq⟩ := Option.map_eq_some_iff.mp hflags
  rw [hs]
  exact congrArg (some ∘ Prod.fst) heq

/-- A handshake concerns its sender only. -/
theorem standing_handleHandshake_of_ne {r : Router Addr} (h : r.sessions.Owned) {now : Time}
    {fault : Fault} {pkt : Packet} (srcAddr : Addr) {u : UInt32} (hu : u ≠ pkt.senderID) :
    ((r.handleHandshake now fault pkt srcAddr).1.sessions.session? u).map Session.standing =
      (r.sessions.session? u).map Session.standing := by
  by_cases hacc : Accepts r now fault pkt
  · rw [standing_of_accepted h srcAddr hacc, if_neg hu]
  · rw [standing_of_rejected h srcAddr hacc, if_neg hu]

@[simp] theorem fallback_pendingTokens (sm : SessionManager Addr) (now : Time) (pkt : Packet)
    (srcAddr : Addr) : (fallback sm now pkt srcAddr).pendingTokens = sm.pendingTokens := by
  cases href : sm.byUser.get? pkt.senderID with
  | some ref =>
    rw [fallback_of_some href, updateAddr_pendingTokens]
    rfl
  | none => rw [fallback_of_none href, install_pendingTokens]

omit [DecidableEq Addr] in
theorem Swept.pendingTokens {sm sm' : SessionManager Addr} {now : Time} {token t : Token}
    {pt : PendingToken} (hswept : Swept sm now token sm') (hpt : sm'.pendingTokens.get? t = some pt) :
    sm.pendingTokens.get? t = some pt := by
  obtain rfl | ⟨-, rfl⟩ := hswept
  · exact hpt
  · simp only [GoMap.get?_delete] at hpt
    split at hpt
    · cases hpt
    · exact hpt

/-- A handshake announces no token. -/
theorem handleHandshake_pendingTokens {r : Router Addr} {now : Time} {fault : Fault} {pkt : Packet}
    {srcAddr : Addr} {t : Token} {pt : PendingToken}
    (hpt : (r.handleHandshake now fault pkt srcAddr).1.sessions.pendingTokens.get? t = some pt) :
    r.sessions.pendingTokens.get? t = some pt := by
  obtain ⟨_, -, heq⟩ | ⟨-, _, _, sm, -, -, hswept, heq⟩ | ⟨-, -, sm, _, hswept, -, heq⟩ :=
    handleHandshake_cases r now fault pkt srcAddr <;> rw [heq] at hpt
  · simp only [install_pendingTokens, GoMap.get?_delete] at hpt
    split at hpt
    · cases hpt
    · exact hpt
  · rw [install_pendingTokens] at hpt
    exact hswept.pendingTokens hpt
  · rw [fallback_pendingTokens] at hpt
    exact hswept.pendingTokens hpt

/-- The row of a token, when a table is configured. -/
def row? (r : Router Addr) (token : Token) : Option VoiceToken :=
  r.validator.bind fun rows => rows.get? token

/-- A handshake issues no row; it can only use one up. -/
theorem row?_handleHandshake {r : Router Addr} {now : Time} {fault : Fault} {pkt : Packet}
    {srcAddr : Addr} {t : Token} {vt : VoiceToken}
    (hvt : (r.handleHandshake now fault pkt srcAddr).1.row? t = some vt)
    (hfresh : vt.isConsumed = false) : r.row? t = some vt := by
  have hset : ∀ (rows : VoiceTokens) (row : VoiceToken),
      (rows.set (tokenStr pkt) { row with isConsumed := true }).get? t = some vt →
      rows.get? t = some vt := by
    intro rows row hrow
    rw [GoMap.get?_set] at hrow
    split at hrow
    · cases hrow
      cases hfresh
    · exact hrow
  obtain ⟨_, -, heq⟩ | ⟨-, rows, row, sm, hval, -, -, heq⟩ |
    ⟨-, -, sm, validator', -, hspent, heq⟩ := handleHandshake_cases r now fault pkt srcAddr <;>
    rw [heq] at hvt
  · exact hvt
  · simpa [row?, hval] using hset rows row hvt
  · obtain rfl | ⟨rows, row, hval, -, rfl⟩ := hspent
    · exact hvt
    · simpa [row?, hval] using hset rows row hvt

/-- A handshake deletes no row and does not unconsume one. -/
theorem row?_handleHandshake_kept {r : Router Addr} {now : Time} {fault : Fault} {pkt : Packet}
    {srcAddr : Addr} {t : Token} {vt : VoiceToken} (hvt : r.row? t = some vt) :
    ∃ vt', (r.handleHandshake now fault pkt srcAddr).1.row? t = some vt' ∧
      (vt.isConsumed = true → vt'.isConsumed = true) := by
  have hset : ∀ (rows : VoiceTokens) (row : VoiceToken), rows.get? t = some vt →
      ∃ vt', (rows.set (tokenStr pkt) { row with isConsumed := true }).get? t = some vt' ∧
        (vt.isConsumed = true → vt'.isConsumed = true) := by
    intro rows row hget
    rw [GoMap.get?_set]
    split
    · exact ⟨_, rfl, fun _ => rfl⟩
    · exact ⟨vt, hget, id⟩
  obtain ⟨_, -, heq⟩ | ⟨-, rows, row, sm, hval, -, -, heq⟩ |
    ⟨-, -, sm, validator', -, hspent, heq⟩ := handleHandshake_cases r now fault pkt srcAddr <;>
    rw [heq]
  · exact ⟨vt, hvt, id⟩
  · exact hset rows row (by simpa [row?, hval] using hvt)
  · obtain rfl | ⟨rows, row, hval, -, rfl⟩ := hspent
    · exact ⟨vt, hvt, id⟩
    · exact hset rows row (by simpa [row?, hval] using hvt)

/-- An acceptance uses its copy of the token up. -/
theorem pendingTokens_of_pendingAccepts {r : Router Addr} {now : Time} (fault : Fault) {pkt : Packet}
    (srcAddr : Addr) (hacc : PendingAccepts r now pkt) :
    (r.handleHandshake now fault pkt srcAddr).1.sessions.pendingTokens.get? (tokenStr pkt) = none := by
  obtain ⟨_, -, heq⟩ | ⟨hno, -⟩ | ⟨hno, -⟩ := handleHandshake_cases r now fault pkt srcAddr
  · rw [heq]
    simp
  · exact absurd hacc hno
  · exact absurd hacc hno

theorem row?_of_storedAccepts {r : Router Addr} {now : Time} {fault : Fault} {pkt : Packet}
    (srcAddr : Addr) (hpending : ¬ PendingAccepts r now pkt) (hacc : StoredAccepts r now fault pkt) :
    ∃ vt, (r.handleHandshake now fault pkt srcAddr).1.row? (tokenStr pkt) = some vt ∧
      vt.isConsumed = true := by
  obtain ⟨pt, hlive, -⟩ | ⟨-, rows, row, sm, -, -, -, heq⟩ | ⟨-, hno, -⟩ :=
    handleHandshake_cases r now fault pkt srcAddr
  · exact absurd ⟨pt, hlive⟩ hpending
  · rw [heq]
    exact ⟨{ row with isConsumed := true }, by simp [row?], rfl⟩
  · exact absurd hacc hno

omit [DecidableEq Addr] in
theorem storedRow_iff {r : Router Addr} {now : Time} {fault : Fault} {pkt : Packet} {vt : VoiceToken} :
    StoredRow r now fault pkt vt ↔ tokenStr pkt ≠ [] ∧ fault = .none ∧
      (r.row? (tokenStr pkt) = some vt ∧ vt.isConsumed = false ∧ now ≤ vt.expiresAt) ∧
      vt.userID = pkt.senderID ∧ vt.channelID = pkt.channelID := by
  unfold StoredRow LiveRow row?
  cases r.validator <;> simp

omit [DecidableEq Addr] in
/-- A token neither store knows is not accepted. -/
theorem not_accepts {r : Router Addr} {now : Time} {fault : Fault} {pkt : Packet}
    (hpending : r.sessions.pendingTokens.get? (tokenStr pkt) = none) (hrow : r.row? (tokenStr pkt) = none) :
    ¬ Accepts r now fault pkt := by
  rintro (⟨pt, hpt, -⟩ | ⟨vt, hvt⟩)
  · rw [hpending] at hpt
    cases hpt
  · obtain ⟨-, -, ⟨hget, -⟩, -⟩ := storedRow_iff.mp hvt
    rw [hrow] at hget
    cases hget

section handlePacket

variable {r : Router Addr} {now : Time} {fault : Fault} {data : GoBytes} {srcAddr : Addr} {pkt : Packet}

theorem handlePacket_voice (hdec : decodeInto data = .ok pkt) (htype : pkt.type = typeVoice) :
    r.handlePacket now fault data srcAddr = r.handleVoice now pkt data srcAddr := by
  simp [handlePacket, hdec, htype]

theorem handlePacket_ping (hdec : decodeInto data = .ok pkt) (htype : pkt.type = typePing) :
    r.handlePacket now fault data srcAddr = r.handlePing now pkt srcAddr := by
  have hvoice : typePing ≠ typeVoice := by decide
  simp [handlePacket, hdec, htype, hvoice]

theorem handlePacket_handshake (hdec : decodeInto data = .ok pkt) (htype : pkt.type = typeHandshake) :
    r.handlePacket now fault data srcAddr = r.handleHandshake now fault pkt srcAddr := by
  have hvoice : typeHandshake ≠ typeVoice := by decide
  have hping : typeHandshake ≠ typePing := by decide
  simp [handlePacket, hdec, htype, hvoice, hping]

/-- Anything else is answered with nothing and changes nothing. -/
theorem handlePacket_other (r : Router Addr) (now : Time) (fault : Fault) (srcAddr : Addr)
    (h : ∀ pkt, decodeInto data = .ok pkt →
      pkt.type ≠ typeVoice ∧ pkt.type ≠ typePing ∧ pkt.type ≠ typeHandshake) :
    ∃ result, r.handlePacket now fault data srcAddr = (r, .silent result) := by
  unfold handlePacket
  cases hdec : decodeInto data with
  | error e => exact ⟨_, rfl⟩
  | ok pkt =>
    obtain ⟨hvoice, hping, hshake⟩ := h pkt hdec
    simp only [hvoice, hping, hshake, if_false]
    split <;> exact ⟨_, rfl⟩

end handlePacket

end Router

end low_latency_voice.audio

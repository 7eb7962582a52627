import LowLatencyVoice.Audio.RouterLaws

open low_latency_voice.model low_latency_voice.storage

namespace low_latency_voice.audio.Router

open SessionManager

variable {Addr : Type} [DecidableEq Addr]

/-- The datagram is a handshake carrying `token` for a sender or a channel other
than these. -/
structure Misdirected (token : Token) (userID channelID : UInt32) (pkt : Packet) : Prop where
  type : pkt.type = typeHandshake
  token : tokenStr pkt = token
  mismatch : ¬ (pkt.senderID = userID ∧ pkt.channelID = channelID)

/-- What either store holds under `token` was issued for this user and channel. -/
structure IssuedFor (r : Router Addr) (token : Token) (userID channelID : UInt32) : Prop where
  pending : ∀ pt, r.sessions.pendingTokens.get? token = some pt →
    pt.userID = userID ∧ pt.channelID = channelID
  stored : ∀ vt, r.row? token = some vt → vt.userID = userID ∧ vt.channelID = channelID

/-- Whatever handshake with the right sender and channel a store of `r` would accept
from `now` on, the same store of `r'` accepts. -/
def StillRedeemable (r r' : Router Addr) (now : Time) (token : Token) (userID channelID : UInt32) : Prop :=
  ∀ later, now ≤ later → ∀ pkt, tokenStr pkt = token → pkt.senderID = userID → pkt.channelID = channelID →
    (PendingAccepts r later pkt → PendingAccepts r' later pkt) ∧
    (StoredAccepts r later .none pkt → StoredAccepts r' later .none pkt)

/-- The table holds a live row for `token`, and no statement on it fails. -/
def StoredLive (r : Router Addr) (now : Time) (fault : Fault) (token : Token) : Prop :=
  token ≠ [] ∧ fault = .none ∧ ∃ rows vt, r.validator = some rows ∧ LiveRow rows now token vt

section misdirected

variable {r : Router Addr} {now : Time} {token : Token} {userID channelID : UInt32} {pkt : Packet}

omit [DecidableEq Addr] in
/-- The in-memory table compares the owner before anything else. -/
theorem Misdirected.not_pendingAccepts (h : Misdirected token userID channelID pkt)
    (hissued : r.IssuedFor token userID channelID) : ¬ PendingAccepts r now pkt := by
  rintro ⟨pt, hget, -, huser, hchannel⟩
  rw [h.token] at hget
  obtain ⟨huser', hchannel'⟩ := hissued.pending pt hget
  exact h.mismatch ⟨huser.symm.trans huser', hchannel.symm.trans hchannel'⟩

omit [DecidableEq Addr] in
/-- A consumed row is handed to the wrong sender by no one. -/
theorem Misdirected.not_storedAccepts (h : Misdirected token userID channelID pkt) {fault : Fault}
    (hissued : r.IssuedFor token userID channelID) : ¬ StoredAccepts r now fault pkt := by
  rintro ⟨vt, hvt⟩
  obtain ⟨-, -, ⟨hrow, -⟩, huser, hchannel⟩ := storedRow_iff.mp hvt
  rw [h.token] at hrow
  obtain ⟨huser', hchannel'⟩ := hissued.stored vt hrow
  exact h.mismatch ⟨huser.symm.trans huser', hchannel.symm.trans hchannel'⟩

omit [DecidableEq Addr] in
/-- The table after branch 2 of the handshake: the consume has run, whoever asked. -/
theorem consumeStored_validator (r : Router Addr) (now : Time) (fault : Fault) (token : Token)
    (pkt : Packet) :
    (consumeStored r now fault token pkt).1.validator =
      if token = [] then r.validator
      else r.validator.map fun rows => (consumeVoiceToken rows now fault token).1 := by
  unfold consumeStored
  cases hval : r.validator with
  | none => simp [hval]
  | some rows =>
    by_cases hempty : token = []
    · simp [hempty, hval]
    · cases hconsume : consumeVoiceToken rows now fault token with
      | mk rows' result => cases result <;> simp [hempty, hconsume]

/-- Both stores after a misdirected handshake: the pending entry goes only if it has
expired, the table is what the consume leaves. -/
theorem Misdirected.handleHandshake (h : Misdirected token userID channelID pkt)
    (hissued : r.IssuedFor token userID channelID) (now : Time) (fault : Fault) (srcAddr : Addr) :
    (∃ sm, Swept r.sessions now token sm ∧
      (r.handleHandshake now fault pkt srcAddr).1.sessions.pendingTokens = sm.pendingTokens) ∧
    (r.handleHandshake now fault pkt srcAddr).1.validator =
      if token = [] then r.validator
      else r.validator.map fun rows => (consumeVoiceToken rows now fault token).1 := by
  have htoken : GoBytes.trimSpace pkt.payload = token := h.token
  unfold Router.handleHandshake
  cases hact : r.sessions.activatePending now token pkt.senderID pkt.channelID (some srcAddr) with
  | mk sm result =>
    cases result with
    | ok s =>
      obtain ⟨pt, hlive, -⟩ := activatePending_eq_ok_iff.mp hact
      exact absurd ⟨pt, by rw [h.token]; exact hlive⟩ (h.not_pendingAccepts hissued)
    | error e =>
      have hswept : Swept r.sessions now token sm := activatePending_error hact
      have hissued' : IssuedFor ({ r with sessions := sm } : Router Addr) token userID channelID :=
        ⟨fun pt hpt => hissued.pending pt (hswept.pendingTokens hpt), hissued.stored⟩
      have hvalidator := consumeStored_validator { r with sessions := sm } now fault token pkt
      obtain ⟨rows, vt, -, hrow, -⟩ | ⟨-, validator', -, heq⟩ :=
        consumeStored_cases { r with sessions := sm } now fault pkt
      · exact absurd ⟨vt, hrow⟩ (h.not_storedAccepts hissued')
      · rw [h.token] at heq
        rw [heq] at hvalidator
        simp only [htoken, hact, heq]
        exact ⟨⟨sm, hswept, fallback_pendingTokens sm now pkt srcAddr⟩, hvalidator⟩

omit [DecidableEq Addr] in
/-- The consume changes the table exactly when it finds a live row, and then it is
used up. -/
theorem consumeVoiceToken_rows (rows : VoiceTokens) (now : Time) (fault : Fault) (token : Token) :
    (¬ (fault = .none ∧ ∃ vt, LiveRow rows now token vt) ∧ (consumeVoiceToken rows now fault token).1 = rows) ∨
      ∃ vt, fault = .none ∧ LiveRow rows now token vt ∧ (consumeVoiceToken rows now fault token).1 =
        rows.set token { vt with isConsumed := true } := by
  cases hconsume : consumeVoiceToken rows now fault token with
  | mk rows' result =>
    cases result with
    | error e =>
      left
      refine ⟨?_, consumeVoiceToken_error hconsume⟩
      rintro ⟨hfault, vt, hlive⟩
      have hok := consumeVoiceToken_eq_ok_iff.mpr ⟨hfault, vt, hlive, rfl, rfl⟩
      rw [hconsume] at hok
      cases (Prod.mk.inj hok).2
    | ok vt' =>
      right
      obtain ⟨hfault, vt, hlive, rfl, rfl⟩ := consumeVoiceToken_eq_ok_iff.mp hconsume
      exact ⟨vt, hfault, hlive, rfl⟩

omit [DecidableEq Addr] in
/-- A sweep at `now` takes nothing that is live from then on. -/
theorem PendingAccepts.of_swept {sm : SessionManager Addr} {r' : Router Addr} {later : Time} {pkt : Packet}
    (h : PendingAccepts r later pkt) (hswept : Swept r.sessions now token sm) (hlater : now ≤ later)
    (hsame : r'.sessions.pendingTokens = sm.pendingTokens) : PendingAccepts r' later pkt := by
  obtain ⟨pt, hget, hlive, howner⟩ := h
  refine ⟨pt, ?_, hlive, howner⟩
  rw [hsame]
  obtain rfl | ⟨⟨pt', hget', hexpired⟩, rfl⟩ := hswept
  · exact hget
  · rw [GoMap.get?_delete]
    split
    · rename_i htoken
      rw [htoken, hget'] at hget
      cases hget
      exact absurd (Int.le_trans hlater hlive) (Int.not_le.mpr hexpired)
    · exact hget

end misdirected

/-- A misdirected handshake leaves a token redeemable in both stores exactly when the
token table has no live row for it: the in-memory table compares the owner before it
consumes, the other consumes before the router compares. -/
theorem stillRedeemable_iff {r : Router Addr} {now : Time} {token : Token} {userID channelID : UInt32}
    (hissued : r.IssuedFor token userID channelID) {data : GoBytes} {pkt : Packet}
    (hdec : decodeInto data = .ok pkt) (h : Misdirected token userID channelID pkt) (fault : Fault)
    (srcAddr : Addr) :
    StillRedeemable r (r.handlePacket now fault data srcAddr).1 now token userID channelID ↔
      ¬ StoredLive r now fault token := by
  rw [handlePacket_handshake hdec h.type]
  obtain ⟨⟨sm, hswept, hpending⟩, hvalidator⟩ := h.handleHandshake hissued now fault srcAddr
  constructor
  · rintro hstill ⟨hne, hfault, rows, vt, hrows, hlive⟩
    have hrow : r.row? token = some vt := by
      rw [row?, hrows]
      exact hlive.1
    obtain ⟨huser, hchannel⟩ := hissued.stored vt hrow
    obtain ⟨owner, htoken, hsender, hroom⟩ : ∃ owner : Packet, tokenStr owner = token ∧
        owner.senderID = userID ∧ owner.channelID = channelID :=
      ⟨{ pkt with senderID := userID, channelID := channelID }, h.token, rfl, rfl⟩
    have hbefore : StoredAccepts r now .none owner := by
      refine ⟨vt, storedRow_iff.mpr ?_⟩
      rw [htoken, hsender, hroom]
      exact ⟨hne, rfl, ⟨hrow, hlive.2⟩, huser, hchannel⟩
    obtain ⟨vt', hvt'⟩ := (hstill now (Int.le_refl now) owner htoken hsender hroom).2 hbefore
    obtain ⟨-, -, ⟨hrow', hunused, -⟩, -⟩ := storedRow_iff.mp hvt'
    obtain ⟨hno, -⟩ | ⟨vt₂, -, hlive₂, hconsumed⟩ := consumeVoiceToken_rows rows now fault token
    · exact hno ⟨hfault, vt, hlive⟩
    · rw [if_neg hne, hrows, Option.map_some, hconsumed] at hvalidator
      rw [htoken, row?, hvalidator, Option.bind_some, GoMap.get?_set, if_pos rfl] at hrow'
      cases hrow'
      cases hunused
  · intro hdead later hlater pkt' htoken huser hchannel
    refine ⟨fun haccepts => haccepts.of_swept hswept hlater hpending, ?_⟩
    rintro ⟨vt, hvt⟩
    have hsame : (r.handleHandshake now fault pkt srcAddr).1.validator = r.validator := by
      rw [hvalidator]
      split
      · rfl
      · rename_i hne
        cases hrows : r.validator with
        | none => rfl
        | some rows =>
          obtain ⟨-, hkept⟩ | ⟨vt₂, hfault, hlive, -⟩ := consumeVoiceToken_rows rows now fault token
          · rw [Option.map_some, hkept]
          · exact absurd ⟨hne, hfault, rows, vt₂, hrows, hlive⟩ hdead
    refine ⟨vt, storedRow_iff.mpr ?_⟩
    rw [row?, hsame]
    exact storedRow_iff.mp hvt

/-- A token of user 1 for channel 2, as `join_voice` leaves it in both stores. -/
def joined (validator : Option VoiceTokens) : Router Nat where
  sessions := SessionManager.new.registerPending [0x41] 1 2 3 30
  validator
  notifier := true
  writer := true

/-- A handshake of user 9 with that token. -/
def intruder : GoBytes := [0x56, 1, 4, 0, 0, 0, 0, 9, 0, 0, 0, 2, 0, 0, 0, 1, 0, 0, 0, 0, 0x41]

/-- What it is read as. -/
def intruderPacket : Packet := ⟨0x56, 1, 4, 0, false, 0, 9, 2, 0, 1, 0, [0x41]⟩

def tokenRow : VoiceToken := ⟨[0x41], 1, 2, 3, false, 30, 0⟩

/-- With a token table it uses the stored copy up. -/
theorem intruder_burns_token :
    ¬ StillRedeemable (joined (some (GoMap.set ∅ [0x41] tokenRow)))
      ((joined (some (GoMap.set ∅ [0x41] tokenRow))).handlePacket 10 .none intruder 4).1 10 [0x41] 1 2 := by
  intro hstill
  have hbefore : StoredAccepts (joined (some (GoMap.set ∅ [0x41] tokenRow))) 10 .none
      { intruderPacket with senderID := 1 } :=
    ⟨tokenRow, by decide, rfl, ⟨_, rfl, by decide, rfl, by decide⟩, rfl, rfl⟩
  obtain ⟨vt, hvt⟩ := (hstill 10 (Int.le_refl 10) _ (by decide) rfl rfl).2 hbefore
  obtain ⟨-, -, ⟨hrow, hunused, -⟩, -⟩ := storedRow_iff.mp hvt
  have hconsumed : ((joined (some (GoMap.set ∅ [0x41] tokenRow))).handlePacket 10 .none intruder 4).1.row?
      (tokenStr { intruderPacket with senderID := 1 }) = some { tokenRow with isConsumed := true } := by
    decide +kernel
  rw [hconsumed] at hrow
  cases hrow
  cases hunused

/-- Without one the token stays good. -/
theorem stillRedeemable_joined :
    StillRedeemable (joined none) ((joined none).handlePacket 10 .none intruder 4).1 10 [0x41] 1 2 := by
  have hissued : (joined none).IssuedFor [0x41] 1 2 := by
    refine ⟨fun pt hpt => ?_, fun vt hvt => ?_⟩
    · have hentry : (joined none).sessions.pendingTokens.get? [0x41] = some ⟨[0x41], 1, 2, 3, 30⟩ := by decide
      rw [hentry] at hpt
      cases hpt
      exact ⟨rfl, rfl⟩
    · cases hvt
  have hdec : decodeInto intruder = .ok intruderPacket := by decide +kernel
  refine (stillRedeemable_iff hissued hdec ⟨rfl, by decide, by decide⟩ .none 4).mpr ?_
  rintro ⟨-, -, rows, vt, hrows, -⟩
  cases hrows

end low_latency_voice.audio.Router

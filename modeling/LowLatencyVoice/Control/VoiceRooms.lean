import LowLatencyVoice.Control.Arrivals

open low_latency_voice.model low_latency_voice.storage low_latency_voice.audio low_latency_voice.auth

namespace low_latency_voice.control.Backend

variable {Addr : Type}

/-- A voice channel of that id is in storage. -/
def VoiceRoom (b : Backend Addr) (channelID : UInt32) : Prop :=
  (b.database.getChannelByID channelID).map ChannelRow.type = some "voice"

/-- The datagram is a handshake that carries `pkt`. -/
def Handshakes (arrival : Arrival Addr) (now : Time) (fault : Fault) (pkt : Packet) : Prop :=
  ∃ data srcAddr, arrival = .datagram now fault data srcAddr ∧ decodeInto data = .ok pkt ∧
    pkt.type = typeHandshake

variable [DecidableEq Addr]

/-- The frame is a `move_member` that is carried out. -/
def MovesTo (go : GoLibrary) (b : Backend Addr) (arrival : Arrival Addr) (u room : UInt32) : Prop :=
  ∃ c x raw params, arrival = .frame c x raw ∧ b.Requests go c params raw .moveMember ∧
    hasPermission (b.hub.conn c).permissions permMoveMembers = true ∧
    u = getUInt32 params "target_user_id" ∧ room = getUInt32 params "to_channel_id" ∧
    b.hub.room? u ≠ none ∧ b.hub.room? u ≠ some 0

/-- The frame is a `delete_channel` that is carried out. -/
def Deletes (go : GoLibrary) (b : Backend Addr) (arrival : Arrival Addr) (room : UInt32) : Prop :=
  ∃ c x raw params, arrival = .frame c x raw ∧ b.Requests go c params raw .deleteChannel ∧
    hasPermission (b.hub.conn c).permissions permManageChannels = true ∧
    room = getUInt32 params "channel_id" ∧ room ≠ 0 ∧ x.fails .deleteChannel = false ∧
    b.database.getChannelByID room ≠ none

section run

variable (go : GoLibrary) (b₀ : Backend Addr)

/-- A handshake of the user with a token that was issued to it. -/
def AdmitsSession (u : UInt32) (pre : List (Arrival Addr)) (arrival : Arrival Addr) : Prop :=
  ∃ now fault pkt, Handshakes arrival now fault pkt ∧ pkt.senderID = u ∧
    ((process go).run b₀ pre).router.Accepts now fault pkt

/-- A handshake without such a token that makes a session. -/
def MakesSession (u : UInt32) (pre : List (Arrival Addr)) (arrival : Arrival Addr) : Prop :=
  ∃ now fault pkt, Handshakes arrival now fault pkt ∧ pkt.senderID = u ∧
    ¬ ((process go).run b₀ pre).router.Accepts now fault pkt ∧
    ((process go).run b₀ pre).sessions.session? u = none

/-- The session the user has was admitted by a token. -/
def TokenAdmitted (u : UInt32) : List (Arrival Addr) → Prop :=
  Machine.HistorySince (AdmitsSession go b₀ u) (MakesSession go b₀ u)

/-- Whoever is in voice after the run, and whoever has a session a token admitted, is in
a voice channel that exists. -/
structure RoomsExist (es : List (Arrival Addr)) : Prop where
  voiceStates : ∀ u state, ((process go).run b₀ es).hub.voiceStates.get? u = some state →
    ((process go).run b₀ es).VoiceRoom state.channelID
  sessions : ∀ u s, ((process go).run b₀ es).sessions.session? u = some s → TokenAdmitted go b₀ u es →
    ((process go).run b₀ es).VoiceRoom s.channelID

/-- What a step must not do: move somebody to what is no voice channel in storage; delete
a channel somebody is in; admit a session for a channel that was deleted after its token
was issued; take an admitted session to what is no voice channel, by a handshake without
a token. -/
structure KeepsToRooms (pre : List (Arrival Addr)) (arrival : Arrival Addr) : Prop where
  moves : ∀ u room, MovesTo go ((process go).run b₀ pre) arrival u room →
    ((process go).run b₀ pre).VoiceRoom room
  deletes : ∀ room, Deletes go ((process go).run b₀ pre) arrival room →
    (∀ u, ((process go).run b₀ pre).hub.room? u ≠ some room) ∧
    ∀ u s, ((process go).run b₀ pre).sessions.session? u = some s → TokenAdmitted go b₀ u pre →
      s.channelID ≠ room
  admits : ∀ now fault pkt, Handshakes arrival now fault pkt →
    ((process go).run b₀ pre).router.PendingAccepts now pkt →
    ((process go).run b₀ pre).database.getChannelByID pkt.channelID ≠ none
  retunes : ∀ now fault pkt, Handshakes arrival now fault pkt →
    ¬ ((process go).run b₀ pre).router.Accepts now fault pkt →
    ((process go).run b₀ pre).sessions.session? pkt.senderID ≠ none →
    TokenAdmitted go b₀ pkt.senderID pre → ((process go).run b₀ pre).VoiceRoom pkt.channelID

end run

/-- What keeps everybody in channels that exist. `admitted` are the users whose session
a token admitted. A pending token outlives its channel, but no other channel ever has
the channel's id. -/
structure Grounded (b : Backend Addr) (admitted : UInt32 → Prop) : Prop where
  owned : b.sessions.Owned
  hub : ∀ u room, b.hub.room? u = some room → b.VoiceRoom room
  sessions : ∀ u room, (b.sessions.session? u).map Session.channelID = some room → admitted u →
    b.VoiceRoom room
  voiceTokens : ∀ token vt, b.voiceTokens.get? token = some vt → vt.isConsumed = false →
    b.VoiceRoom vt.channelID
  pending : ∀ token pt, b.sessions.pendingTokens.get? token = some pt →
    pt.channelID.toNat ≤ b.database.channels.seq ∧
      (b.database.getChannelByID pt.channelID ≠ none → b.VoiceRoom pt.channelID)

section step

variable {go : GoLibrary} {b b' : Backend Addr} {admitted admitted' : UInt32 → Prop}

omit [DecidableEq Addr] in
theorem VoiceRoom.of_eq {channelID : UInt32} (h : b.VoiceRoom channelID)
    (hdatabase : b'.database = b.database) : b'.VoiceRoom channelID := by
  unfold VoiceRoom at h ⊢
  rwa [hdatabase]

omit [DecidableEq Addr] in
theorem VoiceRoom.ne_none {channelID : UInt32} (h : b.VoiceRoom channelID) :
    b.database.getChannelByID channelID ≠ none := by
  intro hnone
  unfold VoiceRoom at h
  rw [hnone] at h
  cases h

omit [DecidableEq Addr] in
theorem VoiceRoom.le_seq {channelID : UInt32} (h : b.VoiceRoom channelID) :
    channelID.toNat ≤ b.database.channels.seq :=
  b.database.channels.bounded _ h.ne_none

omit [DecidableEq Addr] in
/-- Under an id given out before, there is what there was. -/
theorem getChannelByID_of_addsChannels (h : AddsChannels b.database b'.database) {channelID : UInt32}
    (hle : channelID.toNat ≤ b.database.channels.seq) :
    b'.database.getChannelByID channelID = b.database.getChannelByID channelID :=
  h.kept _ hle

omit [DecidableEq Addr] in
theorem VoiceRoom.of_addsChannels {channelID : UInt32} (h : b.VoiceRoom channelID)
    (hadds : AddsChannels b.database b'.database) : b'.VoiceRoom channelID := by
  unfold VoiceRoom
  rwa [getChannelByID_of_addsChannels hadds h.le_seq]

theorem Grounded.of_placesNobody (h : Grounded b admitted) (hplaces : PlacesNobody b b')
    (hadmitted : ∀ u, admitted' u → admitted u) : Grounded b' admitted' where
  owned := hplaces.sessions.owned h.owned
  hub u room hroom := (h.hub u room (hplaces.hub u room hroom)).of_addsChannels hplaces.database
  sessions u room hroom hu :=
    (h.sessions u room (hplaces.sessions.room u room hroom) (hadmitted u hu)).of_addsChannels hplaces.database
  voiceTokens token vt hvt hfresh :=
    (h.voiceTokens token vt (hplaces.voiceTokens token vt hvt hfresh) hfresh).of_addsChannels hplaces.database
  pending token pt hpt := by
    obtain ⟨hle, hvoice⟩ := h.pending token pt (hplaces.sessions.pending token pt hpt)
    refine ⟨hle.trans hplaces.database.seq, ?_⟩
    intro hsome
    rw [getChannelByID_of_addsChannels hplaces.database hle] at hsome
    exact (hvoice hsome).of_addsChannels hplaces.database

omit [DecidableEq Addr] in
/-- The row of a new token has the channel of the request. -/
theorem channelID_of_generateUDPToken {rows : VoiceTokens} {x : Env} {userID channelID : UInt32}
    {token : Token} {vt : VoiceToken} (h : (generateUDPToken rows x userID channelID).1.get? token = some vt) :
    vt.channelID = channelID ∨ rows.get? token = some vt := by
  unfold generateUDPToken at h
  split at h
  · exact .inr h
  rename_i fresh ssrc _
  have hrows : ∀ result, createVoiceToken rows x.now (x.fault .createVoiceToken) fresh userID channelID
      (if ssrc = 0 then 100001 else ssrc) (x.now + voiceTokenLifetime) = result →
      result.1.get? token = some vt → vt.channelID = channelID ∨ rows.get? token = some vt := by
    rintro _ rfl hget
    obtain ⟨-, rfl, -⟩ | hold := get?_createVoiceToken hget
    · exact .inl rfl
    · exact .inr hold
  split at h
  · exact hrows _ ‹_› h
  · exact hrows _ ‹_› h

theorem Grounded.handleJoinVoice (h : Grounded b admitted) (x : Env) (c : ClientID) (params : Params) :
    Grounded (b.handleJoinVoice x c params).backend admitted := by
  obtain ⟨-, hsame, -⟩ | ⟨row, hub, hjoins, hcases⟩ := b.handleJoinVoice_cases x c params
  · rw [hsame]
    exact h
  have hroom : b.VoiceRoom (getUInt32 params "channel_id") := by
    unfold VoiceRoom
    rw [hjoins.found, ← hjoins.voice]
    rfl
  have hrooms : ∀ u room, hub.room? u = some room → b.VoiceRoom room := by
    intro u room hu
    rw [(Hub.room?_joinVoice hjoins.joined).1, Function.update_apply] at hu
    split at hu
    · cases hu
      exact hroom
    · exact h.hub u room hu
  have hrows : ∀ token vt, (generateUDPToken b.voiceTokens x (b.hub.conn c).userID
      (getUInt32 params "channel_id")).1.get? token = some vt → vt.isConsumed = false →
      b.VoiceRoom vt.channelID := by
    intro token vt hvt hfresh
    obtain hnew | hold := channelID_of_generateUDPToken hvt
    · rw [hnew]
      exact hroom
    · exact h.voiceTokens token vt hold hfresh
  obtain ⟨voiceTokens, htoken, hbackend, -⟩ | ⟨voiceTokens, vt, htoken, hbackend, -⟩ := hcases
  · rw [hbackend]
    rw [htoken] at hrows
    exact ⟨h.owned, hrooms, h.sessions, hrows, h.pending⟩
  · rw [hbackend]
    rw [htoken] at hrows
    refine ⟨h.owned.of_pendingTokens _, hrooms, h.sessions, hrows, ?_⟩
    intro token pt hpt
    simp only [SessionManager.registerPending, GoMap.get?_set] at hpt
    split at hpt
    · cases hpt
      exact ⟨hroom.le_seq, fun _ => hroom⟩
    · exact h.pending token pt hpt

theorem Grounded.moveMember (h : Grounded b admitted) {u room : UInt32} {hub : Hub}
    (hmove : b.hub.moveMember u room = some hub) (hroom : b.VoiceRoom room) :
    Grounded { b with hub, sessions := b.sessions.moveMember u room } admitted where
  owned := h.owned.moveMember u room
  hub v room' hv := by
    rw [(Hub.room?_moveMember hmove).1, Function.update_apply] at hv
    split at hv
    · cases hv
      exact hroom
    · exact h.hub v room' hv
  sessions v room' hv hadmitted := by
    rw [SessionManager.session?_moveMember h.owned] at hv
    split at hv
    · rw [Option.map_map] at hv
      obtain ⟨s, -, rfl⟩ := Option.map_eq_some_iff.mp hv
      exact hroom
    · exact h.sessions v room' hv hadmitted
  voiceTokens := h.voiceTokens
  pending token pt hpt := h.pending token pt (by rwa [SessionManager.moveMember_pendingTokens] at hpt)

omit [DecidableEq Addr] in
theorem getChannelByID_deleteChannel {room : UInt32} {database : Database}
    (hdelete : b.database.deleteChannel room = some database) (channelID : UInt32) :
    database.getChannelByID channelID =
      if channelID = room then none else b.database.getChannelByID channelID := by
  unfold Database.deleteChannel at hdelete
  split at hdelete
  · cases hdelete
  · cases hdelete
    unfold Database.getChannelByID
    rw [Table.get?_delete]
    by_cases hroom : channelID = room
    · rw [if_pos hroom, if_pos (by rw [hroom])]
    · rw [if_neg hroom, if_neg fun heq => hroom (UInt32.toNat_inj.mp heq)]

omit [DecidableEq Addr] in
theorem seq_deleteChannel {room : UInt32} {database : Database}
    (hdelete : b.database.deleteChannel room = some database) :
    database.channels.seq = b.database.channels.seq := by
  unfold Database.deleteChannel at hdelete
  split at hdelete
  · cases hdelete
  · cases hdelete
    rfl

/-- A channel nobody is in is deleted. -/
theorem Grounded.deleteChannel (h : Grounded b admitted) {room : UInt32} {database : Database}
    (hdelete : b.database.deleteChannel room = some database) (hhub : ∀ u, b.hub.room? u ≠ some room)
    (hsessions : ∀ u, (b.sessions.session? u).map Session.channelID = some room → ¬ admitted u) :
    Grounded { b with
      database
      voiceTokens := b.voiceTokens.deleteWhere fun _ vt => vt.channelID == room } admitted := by
  have hstays : ∀ {channelID}, b.VoiceRoom channelID → channelID ≠ room →
      ({ b with
        database
        voiceTokens := b.voiceTokens.deleteWhere fun _ vt => vt.channelID == room } : Backend Addr).VoiceRoom
          channelID := by
    intro channelID hvoice hne
    unfold VoiceRoom
    rw [getChannelByID_deleteChannel hdelete, if_neg hne]
    exact hvoice
  refine ⟨h.owned, ?_, ?_, ?_, ?_⟩
  · intro u room' hu
    exact hstays (h.hub u room' hu) fun heq => hhub u (heq ▸ hu)
  · intro u room' hu hadmitted
    exact hstays (h.sessions u room' hu hadmitted) fun heq => hsessions u (heq ▸ hu) hadmitted
  · intro token vt hvt hfresh
    rw [GoMap.get?_deleteWhere, Option.filter_eq_some_iff] at hvt
    exact hstays (h.voiceTokens token vt hvt.1 hfresh) (by simpa using hvt.2)
  · intro token pt hpt
    obtain ⟨hle, hvoice⟩ := h.pending token pt hpt
    refine ⟨hle.trans_eq (seq_deleteChannel hdelete).symm, ?_⟩
    intro hsome
    rw [getChannelByID_deleteChannel hdelete] at hsome
    by_cases hroom : pt.channelID = room
    · rw [if_pos hroom] at hsome
      exact absurd rfl hsome
    · rw [if_neg hroom] at hsome
      exact hstays (hvoice hsome) hroom

end step

section receive

variable {b : Backend Addr} {now : Time} {fault : Fault} {data : GoBytes} {srcAddr : Addr} {pkt : Packet}

/-- Whatever a datagram does, the router keeps its token table. -/
theorem validator_handlePacket (howned : b.sessions.Owned) (now : Time) (fault : Fault) (data : GoBytes)
    (srcAddr : Addr) : (b.router.handlePacket now fault data srcAddr).1.validator =
      some (b.receive now fault data srcAddr).voiceTokens := by
  have hsome : ∃ rows, (b.router.handlePacket now fault data srcAddr).1.validator = some rows := by
    obtain ⟨pkt, -, -, heq⟩ | ⟨-, -, hsame⟩ :=
      plane.handlePacket_cases (r := b.router) howned now fault data srcAddr
    · rw [heq]
      obtain ⟨pt, -, hresult⟩ | ⟨-, rows, vt, sm, -, -, -, hresult⟩ |
        ⟨-, -, sm, validator', -, hspent, hresult⟩ :=
          Router.handleHandshake_cases b.router now fault pkt srcAddr
      · exact ⟨_, by rw [hresult]; rfl⟩
      · exact ⟨_, by rw [hresult]⟩
      · obtain rfl | ⟨rows, vt, -, -, rfl⟩ := hspent
        · exact ⟨_, by rw [hresult]; rfl⟩
        · exact ⟨_, by rw [hresult]⟩
    · exact ⟨_, hsame.trans rfl⟩
  obtain ⟨rows, hrows⟩ := hsome
  have hreceive : (b.receive now fault data srcAddr).voiceTokens =
      (b.router.handlePacket now fault data srcAddr).1.validator.getD b.voiceTokens := rfl
  rw [hreceive, hrows]
  rfl

/-- A datagram that is no handshake places nobody. -/
theorem placesNobody_receive (howned : b.sessions.Owned)
    (hother : ∀ pkt, decodeInto data = .ok pkt → pkt.type ≠ typeHandshake) :
    PlacesNobody b (b.receive now fault data srcAddr) := by
  obtain ⟨pkt, hdec, htype, -⟩ | ⟨-, href, hsame⟩ :=
    plane.handlePacket_cases (r := b.router) howned now fault data srcAddr
  · exact absurd htype (hother pkt hdec)
  · refine ⟨.of_eq rfl, Hub.vacates_noticed _ _, .of_refreshed href, ?_⟩
    intro token vt hvt _
    have hrows := (validator_handlePacket howned now fault data srcAddr).symm.trans hsame
    rwa [Option.some.inj hrows] at hvt

theorem receive_handshake (b : Backend Addr) (now : Time) (fault : Fault) (srcAddr : Addr)
    (hdec : decodeInto data = .ok pkt) (htype : pkt.type = typeHandshake) :
    (b.receive now fault data srcAddr).hub = b.hub ∧
      (b.receive now fault data srcAddr).database = b.database ∧
      (b.receive now fault data srcAddr).sessions =
        (b.router.handleHandshake now fault pkt srcAddr).1.sessions := by
  have hhub : (b.receive now fault data srcAddr).hub =
      (b.router.handlePacket now fault data srcAddr).2.notified.foldl Hub.noticed b.hub := rfl
  have hsessions : (b.receive now fault data srcAddr).sessions =
      (b.router.handlePacket now fault data srcAddr).1.sessions := rfl
  rw [hhub, hsessions, Router.handlePacket_handshake hdec htype, Router.handleHandshake_outcome]
  exact ⟨rfl, rfl, rfl⟩

/-- A handshake that names a channel its sender may be in. -/
theorem Grounded.receive {admitted admitted' : UInt32 → Prop} (h : Grounded b admitted)
    (hdec : decodeInto data = .ok pkt) (htype : pkt.type = typeHandshake)
    (hsender : admitted' pkt.senderID → b.VoiceRoom pkt.channelID)
    (hothers : ∀ u, u ≠ pkt.senderID → admitted' u → admitted u) :
    Grounded (b.receive now fault data srcAddr) admitted' := by
  have howned : b.router.sessions.Owned := h.owned
  obtain ⟨hhub, hdatabase, hsessions⟩ := receive_handshake b now fault srcAddr hdec htype
  have hsame : ∀ {room}, b.VoiceRoom room → (b.receive now fault data srcAddr).VoiceRoom room :=
    fun hvoice => hvoice.of_eq hdatabase
  refine ⟨?_, ?_, ?_, ?_, ?_⟩
  · rw [hsessions]
    exact Router.handleHandshake_owned howned now fault pkt srcAddr
  · intro u room hu
    rw [hhub] at hu
    exact hsame (h.hub u room hu)
  · intro u room hu hadmitted
    rw [hsessions] at hu
    by_cases hsend : u = pkt.senderID
    · rw [hsend, Router.channelID_handleHandshake howned srcAddr] at hu
      cases hu
      exact hsame (hsender (hsend ▸ hadmitted))
    · rw [map_channelID_of_standing (Router.standing_handleHandshake_of_ne howned srcAddr hsend)] at hu
      exact hsame (h.sessions u room hu (hothers u hsend hadmitted))
  · intro token vt hvt hfresh
    have hrow : (b.router.handleHandshake now fault pkt srcAddr).1.row? token = some vt := by
      have hvalidator := validator_handlePacket h.owned now fault data srcAddr
      rw [Router.handlePacket_handshake hdec htype] at hvalidator
      rw [Router.row?, hvalidator]
      exact hvt
    exact hsame (h.voiceTokens token vt (Router.row?_handleHandshake hrow hfresh) hfresh)
  · intro token pt hpt
    rw [hsessions] at hpt
    obtain ⟨hle, hvoice⟩ := h.pending token pt (Router.handleHandshake_pendingTokens hpt)
    rw [hdatabase]
    exact ⟨hle, fun hsome => hsame (hvoice hsome)⟩

end receive

section arrive

variable {go : GoLibrary} {b : Backend Addr} {arrival : Arrival Addr} {u room : UInt32}

theorem arrive_of_movesTo (h : MovesTo go b arrival u room) : ∃ hub, b.hub.moveMember u room = some hub ∧
    b.arrive go arrival = { b with hub, sessions := b.sessions.moveMember u room } := by
  obtain ⟨c, x, raw, params, rfl, hrequest, hallowed, rfl, rfl, hin, hne⟩ := h
  obtain ⟨hub, hmove⟩ := Option.ne_none_iff_exists'.mp
    (mt (b.hub.moveMember_eq_none_iff _ (getUInt32 params "to_channel_id")).mp (not_or.mpr ⟨hin, hne⟩))
  refine ⟨hub, hmove, ?_⟩
  rw [arrive, handleMessage_of_requests go b x c params hrequest]
  simp only [handleAction, handleMoveMember, hallowed, Bool.not_true, Bool.false_eq_true, if_false, hmove]

theorem arrive_of_deletes (h : Deletes go b arrival room) : ∃ database,
    b.database.deleteChannel room = some database ∧ b.arrive go arrival = { b with
      database
      voiceTokens := b.voiceTokens.deleteWhere fun _ vt => vt.channelID == room } := by
  obtain ⟨c, x, raw, params, rfl, hrequest, hallowed, rfl, hne, hcall, hsome⟩ := h
  obtain ⟨database, hdelete⟩ : ∃ database, b.database.deleteChannel (getUInt32 params "channel_id") =
      some database := ⟨_, if_neg hsome⟩
  refine ⟨database, hdelete, ?_⟩
  rw [arrive, handleMessage_of_requests go b x c params hrequest]
  simp only [handleAction, handleDeleteChannel, hallowed, Bool.not_true, Bool.false_eq_true, if_false, hne,
    hcall, hdelete]

/-- What a frame can do about channels. -/
theorem arrive_frame_cases (go : GoLibrary) (howned : b.sessions.Owned) (c : ClientID) (x : Env)
    (raw : GoBytes) :
    PlacesNobody b (b.arrive go (.frame c x raw)) ∨
      (∃ params, b.arrive go (.frame c x raw) = (b.handleJoinVoice x c params).backend) ∨
      (∃ u room, MovesTo go b (.frame c x raw) u room) ∨ ∃ room, Deletes go b (.frame c x raw) room := by
  rw [arrive]
  obtain hsame | ⟨params, a, hhandled, hrequest | hsign⟩ := handleMessage_backend_cases go b x c raw
  · rw [hsame]
    exact .inl (.refl b)
  · rw [hhandled]
    by_cases hjoin : a = .joinVoice
    · subst a
      exact .inr (.inl ⟨params, rfl⟩)
    by_cases hmove : a = .moveMember
    · subst a
      simp only [handleAction, handleMoveMember]
      split
      · exact .inl (.refl b)
      rename_i hallowed
      split
      · exact .inl (.refl b)
      · rename_i hub hmoved
        have hin := mt (b.hub.moveMember_eq_none_iff _ _).mpr (by rw [hmoved]; simp)
        exact .inr (.inr (.inl ⟨_, _, c, x, raw, params, rfl, hrequest, by simpa using hallowed, rfl, rfl,
          not_or.mp hin⟩))
    by_cases hdelete : a = .deleteChannel
    · subst a
      simp only [handleAction, handleDeleteChannel]
      split
      · exact .inl (.refl b)
      rename_i hallowed
      split
      · exact .inl (.refl b)
      rename_i hne
      split
      · exact .inl (.refl b)
      rename_i hcall
      split
      · exact .inl (.refl b)
      · rename_i database hdeleted
        have hsome : b.database.getChannelByID (getUInt32 params "channel_id") ≠ none := by
          intro hnone
          rw [Database.deleteChannel, if_pos hnone] at hdeleted
          cases hdeleted
        exact .inr (.inr (.inr ⟨_, c, x, raw, params, rfl, hrequest, by simpa using hallowed, rfl, hne,
          by simpa using hcall, hsome⟩))
    · exact .inl (placesNobody_handleAction go b x c params howned a hjoin hmove hdelete)
  · rw [hhandled]
    obtain rfl | rfl | rfl | rfl := hsign <;>
      exact .inl (placesNobody_handleAction go b x c params howned _ (by simp) (by simp) (by simp))

/-- What an arrival can do about channels: it places nobody, or it is one of four. -/
theorem arrive_cases (go : GoLibrary) (howned : b.sessions.Owned) (arrival : Arrival Addr) :
    (PlacesNobody b (b.arrive go arrival) ∧ ∀ now fault pkt, ¬ Handshakes arrival now fault pkt) ∨
      (∃ c x raw params, arrival = .frame c x raw ∧
        b.arrive go arrival = (b.handleJoinVoice x c params).backend) ∨
      (∃ c x raw, arrival = .frame c x raw ∧ ∃ u room, MovesTo go b arrival u room) ∨
      (∃ c x raw, arrival = .frame c x raw ∧ ∃ room, Deletes go b arrival room) ∨
      ∃ now fault pkt, Handshakes arrival now fault pkt := by
  have hshake : ∀ arrival : Arrival Addr,
      (∀ now fault data srcAddr, arrival ≠ .datagram now fault data srcAddr) →
      ∀ now fault pkt, ¬ Handshakes arrival now fault pkt := by
    rintro _ hne now fault pkt ⟨data, srcAddr, rfl, -⟩
    exact hne now fault data srcAddr rfl
  cases arrival with
  | connect c =>
    refine .inl ⟨⟨.of_eq rfl, ?_, .refl _, fun _ _ hvt _ => hvt⟩, hshake _ (by simp)⟩
    apply Hub.Vacates.of_eq
    simp only [arrive, Hub.registerClient]
    split <;> rfl
  | frame c x raw =>
    obtain hplaces | ⟨params, hjoin⟩ | hmoves | hdeletes := arrive_frame_cases go howned c x raw
    · exact .inl ⟨hplaces, hshake _ (by simp)⟩
    · exact .inr (.inl ⟨c, x, raw, params, rfl, hjoin⟩)
    · exact .inr (.inr (.inl ⟨c, x, raw, rfl, hmoves⟩))
    · exact .inr (.inr (.inr (.inl ⟨c, x, raw, rfl, hdeletes⟩)))
  | disconnect c => exact .inl ⟨placesNobody_unregisterClient b c, hshake _ (by simp)⟩
  | datagram now fault data srcAddr =>
    by_cases hhand : ∃ pkt, decodeInto data = .ok pkt ∧ pkt.type = typeHandshake
    · obtain ⟨pkt, hdec, htype⟩ := hhand
      exact .inr (.inr (.inr (.inr ⟨now, fault, pkt, data, srcAddr, rfl, hdec, htype⟩)))
    · refine .inl ⟨placesNobody_receive howned fun pkt hdec htype => hhand ⟨pkt, hdec, htype⟩, ?_⟩
      rintro _ _ pkt ⟨_, _, ⟨⟩, hdec, htype⟩
      exact hhand ⟨pkt, hdec, htype⟩
  | sweep now maxIdle =>
    exact .inl ⟨⟨.of_eq rfl, .refl _, .cleanStaleSessions _ _ _, fun _ _ hvt _ => hvt⟩, hshake _ (by simp)⟩
  | restart =>
    refine .inl ⟨⟨.of_eq rfl, ?_, ⟨fun _ => SessionManager.owned_new, ?_, ?_⟩, fun _ _ hvt _ => hvt⟩,
      hshake _ (by simp)⟩
    · intro u room hroom
      cases hroom
    · intro u room hroom
      cases hroom
    · intro token pt hpt
      cases hpt

end arrive

section run

variable {go : GoLibrary} {b₀ : Backend Addr} {pre : List (Arrival Addr)} {arrival : Arrival Addr}

theorem run_concat (go : GoLibrary) (b₀ : Backend Addr) (pre : List (Arrival Addr)) (arrival : Arrival Addr) :
    (process go).run b₀ (pre ++ [arrival]) = ((process go).run b₀ pre).arrive go arrival :=
  Machine.run_concat _ _ _ _

omit [DecidableEq Addr] in
theorem Handshakes.unique {now now' : Time} {fault fault' : Fault} {pkt pkt' : Packet}
    (h : Handshakes arrival now fault pkt) (h' : Handshakes arrival now' fault' pkt') :
    now' = now ∧ fault' = fault ∧ pkt' = pkt := by
  obtain ⟨data, srcAddr, rfl, hdec, -⟩ := h
  obtain ⟨_, _, ⟨⟩, hdec', -⟩ := h'
  exact ⟨rfl, rfl, Except.ok.inj (hdec'.symm.trans hdec)⟩

/-- What is no handshake leaves the admissions as they are. -/
theorem tokenAdmitted_concat_iff (hno : ∀ now fault pkt, ¬ Handshakes arrival now fault pkt) (u : UInt32) :
    TokenAdmitted go b₀ u (pre ++ [arrival]) ↔ TokenAdmitted go b₀ u pre := by
  rw [TokenAdmitted, Machine.historySince_concat_iff]
  constructor
  · rintro (⟨now, fault, pkt, hshake, -⟩ | ⟨hbefore, -⟩)
    · exact absurd hshake (hno now fault pkt)
    · exact hbefore
  · refine fun hbefore => .inr ⟨hbefore, ?_⟩
    rintro ⟨now, fault, pkt, hshake, -⟩
    exact hno now fault pkt hshake

omit [DecidableEq Addr] in
theorem not_handshakes_frame {c : ClientID} {x : Env} {raw : GoBytes} (now : Time) (fault : Fault)
    (pkt : Packet) : ¬ Handshakes (.frame c x raw : Arrival Addr) now fault pkt := by
  rintro ⟨_, _, ⟨⟩, -⟩

section handshake

variable {now : Time} {fault : Fault} {pkt : Packet} (hshake : Handshakes arrival now fault pkt)
include hshake

/-- A handshake admits its sender when a token is accepted, and leaves an admitted one
admitted when it has a session. -/
theorem tokenAdmitted_sender_iff : TokenAdmitted go b₀ pkt.senderID (pre ++ [arrival]) ↔
    ((process go).run b₀ pre).router.Accepts now fault pkt ∨
      TokenAdmitted go b₀ pkt.senderID pre ∧
        ((process go).run b₀ pre).sessions.session? pkt.senderID ≠ none := by
  have hadmits : AdmitsSession go b₀ pkt.senderID pre arrival ↔
      ((process go).run b₀ pre).router.Accepts now fault pkt := by
    constructor
    · rintro ⟨_, _, _, hshake', -, haccepts⟩
      obtain ⟨rfl, rfl, rfl⟩ := hshake.unique hshake'
      exact haccepts
    · exact fun haccepts => ⟨now, fault, pkt, hshake, rfl, haccepts⟩
  have hmakes : MakesSession go b₀ pkt.senderID pre arrival ↔
      ¬ ((process go).run b₀ pre).router.Accepts now fault pkt ∧
        ((process go).run b₀ pre).sessions.session? pkt.senderID = none := by
    constructor
    · rintro ⟨_, _, _, hshake', -, hrest⟩
      obtain ⟨rfl, rfl, rfl⟩ := hshake.unique hshake'
      exact hrest
    · exact fun hrest => ⟨now, fault, pkt, hshake, rfl, hrest⟩
  rw [TokenAdmitted, Machine.historySince_concat_iff, hadmits, hmakes]
  by_cases haccepts : ((process go).run b₀ pre).router.Accepts now fault pkt <;> simp [haccepts]

theorem tokenAdmitted_other_iff {u : UInt32} (hu : u ≠ pkt.senderID) :
    TokenAdmitted go b₀ u (pre ++ [arrival]) ↔ TokenAdmitted go b₀ u pre := by
  have hsender : ∀ {now' fault' pkt'}, Handshakes arrival now' fault' pkt' → pkt'.senderID ≠ u := by
    intro now' fault' pkt' hshake'
    obtain ⟨-, -, rfl⟩ := hshake.unique hshake'
    exact hu.symm
  rw [TokenAdmitted, Machine.historySince_concat_iff]
  constructor
  · rintro (⟨_, _, _, hshake', hsend, -⟩ | ⟨hbefore, -⟩)
    · exact absurd hsend (hsender hshake')
    · exact hbefore
  · refine fun hbefore => .inr ⟨hbefore, ?_⟩
    rintro ⟨_, _, _, hshake', hsend, -⟩
    exact hsender hshake' hsend

end handshake

/-- The invariant survives each step that keeps to the rooms. -/
theorem grounded_concat (h : Grounded ((process go).run b₀ pre) fun u => TokenAdmitted go b₀ u pre)
    (hok : KeepsToRooms go b₀ pre arrival) :
    Grounded ((process go).run b₀ (pre ++ [arrival])) fun u => TokenAdmitted go b₀ u (pre ++ [arrival]) := by
  have hsame : ∀ {b : Backend Addr}, (∀ now fault pkt, ¬ Handshakes arrival now fault pkt) →
      Grounded b (fun u => TokenAdmitted go b₀ u pre) →
      Grounded b fun u => TokenAdmitted go b₀ u (pre ++ [arrival]) :=
    fun hno hground => hground.of_placesNobody (.refl _) fun u => (tokenAdmitted_concat_iff hno u).mp
  rw [run_concat]
  obtain ⟨hplaces, hno⟩ | ⟨c, x, raw, params, rfl, hjoin⟩ | ⟨c, x, raw, rfl, u, room, hmoves⟩ |
    ⟨c, x, raw, rfl, room, hdeletes⟩ | ⟨now, fault, pkt, hshake⟩ := arrive_cases go h.owned arrival
  · exact h.of_placesNobody hplaces fun u => (tokenAdmitted_concat_iff hno u).mp
  · rw [hjoin]
    exact hsame not_handshakes_frame (h.handleJoinVoice x c params)
  · obtain ⟨hub, hmove, heq⟩ := arrive_of_movesTo hmoves
    rw [heq]
    exact hsame not_handshakes_frame (h.moveMember hmove (hok.moves u room hmoves))
  · obtain ⟨database, hdelete, heq⟩ := arrive_of_deletes hdeletes
    obtain ⟨hhub, hsessions⟩ := hok.deletes room hdeletes
    rw [heq]
    refine hsame not_handshakes_frame (h.deleteChannel hdelete hhub ?_)
    intro u hroom hadmitted
    obtain ⟨s, hs, hchannel⟩ := Option.map_eq_some_iff.mp hroom
    exact hsessions u s hs hadmitted hchannel
  · have hsender : TokenAdmitted go b₀ pkt.senderID (pre ++ [arrival]) →
        ((process go).run b₀ pre).VoiceRoom pkt.channelID := by
      intro hadmitted
      by_cases haccepts : ((process go).run b₀ pre).router.Accepts now fault pkt
      · obtain ⟨pt, hpt⟩ | ⟨vt, hvt⟩ := id haccepts
        · obtain ⟨hget, -, -, hchannel⟩ := id hpt
          have hexists := hok.admits now fault pkt hshake ⟨pt, hpt⟩
          rw [← hchannel] at hexists ⊢
          exact (h.pending _ pt hget).2 hexists
        · obtain ⟨-, -, ⟨hget, hfresh, -⟩, -, hchannel⟩ := Router.storedRow_iff.mp hvt
          rw [← hchannel]
          exact h.voiceTokens _ vt hget hfresh
      · obtain ⟨hbefore, hsession⟩ := ((tokenAdmitted_sender_iff hshake).mp hadmitted).resolve_left haccepts
        exact hok.retunes now fault pkt hshake haccepts hsession hbefore
    obtain ⟨data, srcAddr, rfl, hdec, htype⟩ := id hshake
    exact h.receive hdec htype hsender fun u hu => (tokenAdmitted_other_iff hshake hu).mp

/-- Where everybody is grounded, the rooms exist. -/
theorem Grounded.roomsExist {es : List (Arrival Addr)}
    (h : Grounded ((process go).run b₀ es) fun u => TokenAdmitted go b₀ u es) : RoomsExist go b₀ es where
  voiceStates u state hstate := h.hub u state.channelID (by rw [Hub.room?, hstate]; rfl)
  sessions u s hs hadmitted := h.sessions u s.channelID (by rw [hs]; rfl) hadmitted

/-- A step that does not keep to the rooms is seen at once. -/
theorem keepsToRooms_of_roomsExist
    (h : Grounded ((process go).run b₀ pre) fun u => TokenAdmitted go b₀ u pre)
    (hexist : RoomsExist go b₀ (pre ++ [arrival])) : KeepsToRooms go b₀ pre arrival := by
  have hhub : ∀ u room, (((process go).run b₀ pre).arrive go arrival).hub.room? u = some room →
      (((process go).run b₀ pre).arrive go arrival).VoiceRoom room := by
    intro u room hroom
    rw [← run_concat] at hroom ⊢
    obtain ⟨state, hstate, rfl⟩ := Option.map_eq_some_iff.mp hroom
    exact hexist.voiceStates u state hstate
  have hsession : ∀ u room, ((((process go).run b₀ pre).arrive go arrival).sessions.session? u).map
      Session.channelID = some room → TokenAdmitted go b₀ u (pre ++ [arrival]) →
      (((process go).run b₀ pre).arrive go arrival).VoiceRoom room := by
    intro u room hroom hadmitted
    rw [← run_concat] at hroom ⊢
    obtain ⟨s, hs, rfl⟩ := Option.map_eq_some_iff.mp hroom
    exact hexist.sessions u s hs hadmitted
  have hshaken : ∀ {now fault pkt}, Handshakes arrival now fault pkt →
      TokenAdmitted go b₀ pkt.senderID (pre ++ [arrival]) →
      ((process go).run b₀ pre).VoiceRoom pkt.channelID := by
    intro now fault pkt hshake hadmitted
    obtain ⟨data, srcAddr, rfl, hdec, htype⟩ := id hshake
    obtain ⟨-, hdatabase, hsessions⟩ :=
      receive_handshake ((process go).run b₀ pre) now fault srcAddr hdec htype
    refine (hsession pkt.senderID pkt.channelID ?_ hadmitted).of_eq hdatabase.symm
    rw [arrive, hsessions]
    exact Router.channelID_handleHandshake (r := ((process go).run b₀ pre).router) h.owned srcAddr
  refine ⟨?_, ?_, ?_, ?_⟩
  · intro u room hmoves
    obtain ⟨hub, hmove, heq⟩ := arrive_of_movesTo hmoves
    rw [heq] at hhub
    exact hhub u room (by rw [(Hub.room?_moveMember hmove).1, Function.update_self])
  · intro room hdeletes
    obtain ⟨c, x, raw, params, rfl, -⟩ := id hdeletes
    obtain ⟨database, hdelete, heq⟩ := arrive_of_deletes hdeletes
    have hgone : ∀ b : Backend Addr, b.database = database → ¬ b.VoiceRoom room := by
      rintro b rfl hvoice
      apply hvoice.ne_none
      rw [getChannelByID_deleteChannel hdelete, if_pos rfl]
    rw [heq] at hhub hsession
    refine ⟨fun u hu => hgone _ rfl (hhub u room hu), ?_⟩
    rintro u s hs hadmitted rfl
    have hstill : TokenAdmitted go b₀ u (pre ++ [.frame c x raw]) :=
      (tokenAdmitted_concat_iff not_handshakes_frame u).mpr hadmitted
    exact hgone _ rfl (hsession u s.channelID (by rw [hs]; rfl) hstill)
  · intro now fault pkt hshake hpending
    exact (hshaken hshake ((tokenAdmitted_sender_iff hshake).mpr (.inl (.inl hpending)))).ne_none
  · intro now fault pkt hshake hrejected hsome hadmitted
    exact hshaken hshake ((tokenAdmitted_sender_iff hshake).mpr (.inr ⟨hadmitted, hsome⟩))

/-- The library on three messages: a registration, a `join_voice` of channel 2, and a
`move_member` of user 1 to channel 99. -/
def script : GoLibrary where
  trimSpace := id
  toLower := id
  unmarshal
    | [0] => some registers
    | [1] => some (request "join_voice" [("channel_id", .number 2)])
    | [2] => some (request "move_member" [("target_user_id", .number 1), ("to_channel_id", .number 99)])
    | _ => none

/-- The first user registers, joins channel 2 and moves to channel 99. -/
def strays : List (Arrival Nat) :=
  [.connect 1, .frame 1 calmEnv [0], .frame 1 calmEnv [1], .frame 1 calmEnv [2]]

end run

end low_latency_voice.control.Backend

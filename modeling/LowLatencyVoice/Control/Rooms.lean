import LowLatencyVoice.Control.ServerLaws

open low_latency_voice.model low_latency_voice.storage low_latency_voice.audio

namespace low_latency_voice.control.server

variable {Addr : Type} [DecidableEq Addr]

/-- A user who has an audio session is in voice, in the room of the session. -/
def RoomsAgree (w : World Addr) : Prop :=
  ∀ u s, w.sessions.session? u = some s → w.hub.room? u = some s.channelID

/-- The room is the one the control plane has for the user, or a call that
settles the difference is still to come: the removal of the session, or its
move to the room the control plane has. -/
def RoomSettled (k : State Addr) (u room : UInt32) : Prop :=
  k.shared.hub.room? u = some room ∨ Goroutines.Pending k (.removeSession u) ∨
    ∃ room', k.shared.hub.room? u = some room' ∧ Goroutines.Pending k (.moveSession u room')

/-- The action does not pull the planes apart. A `join_voice` finds no session
of the user in another room; a handshake or a late move puts the session where
the control plane has the user; a connection in no room does not take the voice
state of a user who has a session. -/
def KeepsRooms (k : State Addr) (x : Choice) : Act Addr → Prop
  | .joinVoice c room channel selfMuted selfDeafened =>
    ∀ h' s, k.shared.hub.joinVoice x.now c room channel selfMuted selfDeafened = .ok h' →
      k.shared.sessions.session? (k.shared.hub.conn c).userID = some s →
      s.channelID = room ∨ Goroutines.Pending k (.removeSession (k.shared.hub.conn c).userID) ∨
        Goroutines.Pending k (.moveSession (k.shared.hub.conn c).userID room)
  | .handleClientDisconnect c =>
    k.shared.hub.Registered c → k.shared.hub.LeavesVoice c →
      0 < (k.shared.hub.conn c).activeVoiceChannel ∨
      k.shared.sessions.session? (k.shared.hub.conn c).userID = none ∨
      Goroutines.Pending k (.removeSession (k.shared.hub.conn c).userID)
  | .activatePending pkt _ =>
    ∀ pt, k.shared.sessions.LivePending x.now (GoBytes.trimSpace pkt.payload) pkt.senderID
      pkt.channelID pt → RoomSettled k pkt.senderID pkt.channelID
  | .registerSession s => RoomSettled k s.userID s.channelID
  | .retune ref room => ∀ u, k.shared.sessions.byUser.get? u = some ref → RoomSettled k u room
  | .moveSession u room => k.shared.sessions.session? u ≠ none → RoomSettled k u room
  | _ => True

/-- Every action the turn performs keeps the rooms together. -/
def KeepsRoomsAt (k : State Addr) (t : Turn Addr) : Prop := ∀ a x, Does k t a x → KeepsRooms k x a

/-- Every step of the schedule keeps the rooms together. -/
def RoomsKept (w : World Addr) (ts : List (Turn Addr)) : Prop :=
  Machine.Along (fun pre t => KeepsRoomsAt (after w pre) t) ts

/-- What holds in every state: no session is in a room of its own for good. -/
structure RoomsSettled (k : State Addr) : Prop where
  owned : k.shared.sessions.Owned
  settled : ∀ u s, k.shared.sessions.session? u = some s → RoomSettled k u s.channelID

theorem room?_eq_map_standing (h : Hub) (u : UInt32) : h.room? u = (h.standing? u).map Prod.fst := by
  unfold Hub.room? Hub.standing?
  rw [Option.map_map]
  rfl

section step

variable {k : State Addr} {t : Turn Addr} {g : Routine} {a : Act Addr} {w' : World Addr}
  {acts : List (Act Addr)}

/-- A settled room stays settled while the control plane does not move the user,
unless the call that was to settle it is the one performed. -/
theorem RoomSettled.performs (hp : system.Performs k t g a w' acts) {u room : UInt32}
    (hsettled : RoomSettled k u room) (hroom : w'.hub.room? u = k.shared.hub.room? u)
    (hremove : a ≠ .removeSession u) (hmove : ∀ room', a = .moveSession u room' → room' = room) :
    RoomSettled (system.step k t) u room := by
  rw [← hp.shared] at hroom
  obtain hsame | hpending | ⟨room', hroom', hpending⟩ := hsettled
  · exact .inl (hroom.trans hsame)
  · exact .inr (.inl (hp.pending_of_ne hpending (Ne.symm hremove)))
  · by_cases ha : a = .moveSession u room'
    · exact .inl (hroom.trans (hmove room' ha ▸ hroom'))
    · exact .inr (.inr ⟨room', hroom.trans hroom', hp.pending_of_ne hpending (Ne.symm ha)⟩)

theorem RoomsSettled.perform (h : RoomsSettled k) (hok : KeepsRoomsAt k t)
    (hp : system.Performs k t g a w' acts) : RoomsSettled (system.step k t) := by
  obtain ⟨x, hdoes, hact⟩ := exists_does hp
  have hkeeps : KeepsRooms k x a := hok a x hdoes
  refine ⟨owned_performs h.owned hp, ?_⟩
  intro u s' hs'
  rw [hp.shared] at hs'
  have hremove : a ≠ .removeSession u := by
    intro ha
    subst a
    cases hact
    simp [SessionManager.session?_removeSession] at hs'
  have hmove : ∀ room, a = .moveSession u room → room = s'.channelID := by
    intro room ha
    subst a
    cases hact
    simp only [SessionManager.session?_moveMember h.owned, if_true] at hs'
    obtain ⟨s, -, rfl⟩ := Option.map_eq_some_iff.mp hs'
    rfl
  -- where the media plane has the user after the step was settled before it
  have hbefore : RoomSettled k u s'.channelID := by
    have hchange := sessionChange_act (x := x) (a := a) h.owned (by rw [hact]; exact hs')
    generalize hs : k.shared.sessions.session? u = before at hchange
    cases hchange with
    | kept s _ hst _ =>
      have hchannel : s'.channelID = s.channelID := congrArg Prod.fst hst
      rw [hchannel]
      exact h.settled u s hs
    | activated _ _ ha hu hlive hst =>
      have hchannel : s'.channelID = _ := congrArg Prod.fst hst
      subst ha
      rw [hchannel, hu]
      exact hkeeps _ hlive
    | registered _ _ ha hu =>
      subst ha
      rw [hu]
      exact hkeeps
    | retuned s _ ha hu hst _ =>
      have hchannel : s'.channelID = _ := congrArg Prod.fst hst
      subst ha
      rw [hchannel]
      exact hkeeps u hu
    | moved s _ ha hst _ =>
      have hchannel : s'.channelID = _ := congrArg Prod.fst hst
      subst ha
      rw [hchannel]
      exact hkeeps (by simp [hs])
    | flagged s _ ha _ hst _ =>
      have hchannel : s'.channelID = s.channelID := congrArg Prod.fst hst
      rw [hchannel]
      exact h.settled u s hs
  have hvoice := voiceChange_act k.shared x a u
  rw [hact] at hvoice
  have hroom' : (system.step k t).shared.hub.room? u = (w'.hub.standing? u).map Prod.fst := by
    rw [hp.shared, room?_eq_map_standing]
  generalize hst₀ : k.shared.hub.standing? u = st₀ at hvoice
  generalize hst : w'.hub.standing? u = st at hvoice hroom'
  cases hvoice with
  | kept =>
    refine hbefore.performs hp ?_ hremove hmove
    rw [room?_eq_map_standing, room?_eq_map_standing, hst, hst₀]
  | joined _ ha hjoin hu =>
    subst ha
    simp only [act, hjoin, Prod.mk.injEq] at hact
    obtain ⟨rfl, -⟩ := hact
    obtain hsame | hpending | hpending := hkeeps _ s' hjoin (hu ▸ hs')
    · exact .inl (hroom'.trans (by rw [hsame]; rfl))
    · rw [← hu] at hpending
      exact .inr (.inl (hp.pending_of_ne hpending (by simp)))
    · rw [← hu] at hpending
      exact .inr (.inr ⟨_, hroom', hp.pending_of_ne hpending (by simp)⟩)
  | left _ hacts => exact .inr (.inl (hp.pending_of_mem hacts))
  | dropped _ ha hreg hleaves hactive hu =>
    subst ha
    have hsessions : k.shared.sessions = w'.sessions := congrArg (fun r => r.1.sessions) hact
    rw [← hsessions, hu] at hs'
    obtain hin | hnone | hpending := hkeeps hreg hleaves
    · exact absurd hin hactive
    · rw [hnone] at hs'
      cases hs'
    · rw [← hu] at hpending
      exact .inr (.inl (hp.pending_of_ne hpending (by simp)))
  | moved st₀ hacts => exact .inr (.inr ⟨_, hroom', hp.pending_of_mem hacts⟩)
  | flagged st₀ hacts =>
    refine hbefore.performs hp ?_ hremove hmove
    rw [room?_eq_map_standing, room?_eq_map_standing, hst, hst₀]
    rfl

end step

/-- Taking up a request changes neither plane. -/
theorem RoomsSettled.serve {k : State Addr} (h : RoomsSettled k) {g : Routine} (hidle : k.todo g = [])
    (acts : List (Act Addr)) : RoomsSettled { k with todo := Function.update k.todo g acts } where
  owned := h.owned
  settled := by
    intro u s hs
    obtain hsame | hpending | ⟨room, hroom, hpending⟩ := h.settled u s hs
    · exact .inl hsame
    · exact .inr (.inl (hpending.serve hidle acts))
    · exact .inr (.inr ⟨room, hroom, hpending.serve hidle acts⟩)

theorem roomsSettled_new (voiceTokens : VoiceTokens) (userSessions : UserSessions) :
    RoomsSettled (Goroutines.idle (World.new voiceTokens userSessions : World Addr)) where
  owned := SessionManager.owned_new
  settled := by
    intro u s hs
    simp [Goroutines.idle, World.new, SessionManager.new, SessionManager.session?] at hs

/-- In every run whose steps keep the rooms together, once no handler is in
progress every audio session is in the room the control plane has for its user. -/
theorem roomsAgree_of_roomsKept (voiceTokens : VoiceTokens) (userSessions : UserSessions)
    (ts : List (Turn Addr)) (hkept : RoomsKept (World.new voiceTokens userSessions) ts)
    (hquiet : Quiet (after (World.new voiceTokens userSessions) ts)) :
    RoomsAgree (after (World.new voiceTokens userSessions) ts).shared := by
  have hsettled : RoomsSettled (after (World.new voiceTokens userSessions) ts) := by
    refine system.run_rule KeepsRoomsAt RoomsSettled
      (roomsSettled_new voiceTokens userSessions) ?_ ?_ ts hkept
    · intro k r hinv _ hidle
      exact hinv.serve hidle _
    · intro k t g a w' acts hinv hok hp
      exact hinv.perform hok hp
  intro u s hs
  obtain hsame | hpending | ⟨_, _, hpending⟩ := hsettled.settled u s hs
  · exact hsame
  · exact absurd hpending (hquiet.not_pending _)
  · exact absurd hpending (hquiet.not_pending _)

/-- The action issues `token` to the user `u`. -/
def Issues (w : World Addr) (pre : List (Turn Addr)) (t : Turn Addr) (token : Token) (u : UInt32) : Prop :=
  ∃ c room x vt, Does (after w pre) t (.generateUDPToken c room) x ∧
    .registerPending vt ∈ (act (after w pre).shared x (.generateUDPToken c room)).2 ∧
    vt.token = token ∧ vt.userID = u

/-- Every handshake datagram carries a token that was issued to its sender. -/
def TokensIssued (w : World Addr) (ts : List (Turn Addr)) : Prop :=
  Machine.Along (fun pre t => ∀ pkt srcAddr, t = .serve (.handshake pkt srcAddr) →
    Machine.Earlier (fun front e => Issues w front e (GoBytes.trimSpace pkt.payload) pkt.senderID) pre) ts

/-- A handshake packet. -/
def handshake (senderID channelID : UInt32) (payload : GoBytes) : Packet where
  magic := magicByte
  version := protocolVersion
  type := typeHandshake
  flags := 0
  vad := false
  energyLevel := 0
  senderID
  channelID
  sequence := 0
  payloadLen := UInt16.ofNat payload.length
  timestamp := 0
  payload

/-- A choice under which every call succeeds. -/
def calm (token : Token) : Choice where
  now := 0
  fault := .none
  token
  ssrc := 5
  channel := some ⟨"voice", 0⟩
  profile := none
  order := []

/-- Connection 1 logs in as user 7 and joins channel 2 with the token `x`. -/
def joined : List (Turn Nat) :=
  [.serve (.serveWs 0 1), .advance (.accept 0) (calm []),
    .serve (.login 1 ⟨7, "kim", permDefaultMember⟩), .advance (.readPump 1) (calm [0x73]),
    .advance (.readPump 1) (calm []), .advance (.readPump 1) (calm []),
    .serve (.joinVoice 1 2 false false), .advance (.readPump 1) (calm []),
    .advance (.readPump 1) (calm []), .advance (.readPump 1) (calm [0x78]),
    .advance (.readPump 1) (calm [])]

/-- User 7 sends the handshake for channel 2. -/
def connects : List (Turn Nat) :=
  [.serve (.handshake (handshake 7 2 [0x78]) 10), .advance .readLoop (calm [])]

/-- User 7 switches to channel 3. -/
def switches : List (Turn Nat) :=
  [.serve (.joinVoice 1 3 false false), .advance (.readPump 1) (calm []),
    .advance (.readPump 1) (calm []), .advance (.readPump 1) (calm [0x79]),
    .advance (.readPump 1) (calm [])]

theorem roomsKept_joined_connects : RoomsKept (World.new ∅ ∅) (joined ++ connects) := by
  simp only [RoomsKept, joined, connects, List.cons_append, List.nil_append, Machine.along_cons_iff]
  refine ⟨?_, ?_, ?_, ?_, ?_, ?_, ?_, ?_, ?_, ?_, ?_, ?_, ?_, Machine.along_nil⟩
  all_goals
    intro a x hdoes
    obtain ⟨g, rest, hturn, htodo⟩ := hdoes
    cases hturn <;> cases htodo
  case refine_9 =>
    intro h' s _ hs
    cases hs
  case refine_13 => exact fun _ _ => .inl rfl
  all_goals trivial

theorem roomsAgree_of_roomsKept_joined : RoomsAgree (after (World.new ∅ ∅) (joined ++ connects)).shared :=
  roomsAgree_of_roomsKept ∅ ∅ (joined ++ connects) roomsKept_joined_connects
    (system.quiet_of_all _ rfl)

/-- The token of the room user 7 has left still lets the handshake in. -/
theorem old_token_enters_left_room :
    ¬ ∀ ts : List (Turn Nat), TokensIssued (World.new ∅ ∅) ts → Quiet (after (World.new ∅ ∅) ts) →
      RoomsAgree (after (World.new ∅ ∅) ts).shared := by
  intro hall
  have hissued : TokensIssued (World.new ∅ ∅) (joined ++ switches ++ connects) := by
    simp only [TokensIssued, joined, switches, connects, List.cons_append, List.nil_append,
      Machine.along_cons_iff]
    refine ⟨?_, ?_, ?_, ?_, ?_, ?_, ?_, ?_, ?_, ?_, ?_, ?_, ?_, ?_, ?_, ?_, ?_, ?_, Machine.along_nil⟩
    case refine_17 =>
      intro pkt srcAddr hturn
      cases hturn
      exact ⟨joined.take 9, _, _, rfl, ⟨1, 2, _, _, ⟨_, _, rfl, rfl⟩, List.mem_singleton_self _, rfl, rfl⟩,
        by simp⟩
    all_goals
      intro pkt srcAddr hturn
      cases hturn
  have hagree := hall (joined ++ switches ++ connects) hissued (system.quiet_of_all _ rfl)
  have hroom := hagree 7 _ rfl
  cases hroom

end low_latency_voice.control.server

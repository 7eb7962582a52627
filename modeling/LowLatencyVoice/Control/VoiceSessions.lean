import LowLatencyVoice.Audio.Eviction
import LowLatencyVoice.Control.Rooms

open low_latency_voice.model low_latency_voice.storage low_latency_voice.audio

namespace low_latency_voice.control.sfu

/-- The atomic actions of the whole process: those of the server, and the steps
of `handleVoice` and `handlePing`, each a call on the session manager or a look
at a session. Sends and notifications change nothing here. -/
inductive Act (Addr : Type) where
  | server (a : server.Act Addr)
  | voiceByUser (pkt : Packet) (srcAddr : Addr)
  | voiceByAddr (pkt : Packet) (srcAddr : Addr)
  | checkChannel (ref : SessionRef) (pkt : Packet) (srcAddr : Addr)
  | followVoice (ref : SessionRef) (pkt : Packet) (srcAddr : Addr)
  | isMuted (ref : SessionRef) (pkt : Packet)
  | updateSpeakingState (ref : SessionRef) (pkt : Packet)
  | pingByUser (pkt : Packet) (srcAddr : Addr)
  | pingByAddr (srcAddr : Addr)
  | followPing (ref : SessionRef) (srcAddr : Addr)
  | touch (ref : SessionRef)

/-- What sets a goroutine to work: a request of the server, or bytes from the
UDP socket. -/
inductive Request (Addr : Type) where
  | server (r : server.Request Addr)
  | datagram (data : GoBytes) (srcAddr : Addr)

variable {Addr : Type}

def Request.owner : Request Addr → Routine
  | .server r => r.owner
  | .datagram _ _ => .readLoop

/-- The first actions of a request; a datagram goes by its packet type. -/
def program (w : server.World Addr) : Request Addr → List (Act Addr)
  | .server r => (server.program w r).map .server
  | .datagram data srcAddr =>
    match decodeInto data with
    | .error _ => []
    | .ok pkt =>
      if pkt.type = typeVoice then [.voiceByUser pkt srcAddr]
      else if pkt.type = typePing then [.pingByUser pkt srcAddr]
      else if pkt.type = typeHandshake then [.server (.activatePending pkt srcAddr)]
      else []

variable [DecidableEq Addr]

/-- One action of a goroutine, with the actions it leads to. -/
def act (w : server.World Addr) (x : server.Choice) : Act Addr → server.World Addr × List (Act Addr)
  | .server a =>
    let (w', acts) := server.act w x a
    (w', acts.map .server)
  | .voiceByUser pkt srcAddr =>
    match w.sessions.getByUser pkt.senderID with
    | some ref => (w, [.checkChannel ref pkt srcAddr])
    | none => (w, [.voiceByAddr pkt srcAddr])
  | .voiceByAddr pkt srcAddr =>
    match w.sessions.getByAddr (some srcAddr) with
    | some ref =>
      (w, if (w.sessions.heap ref).userID = pkt.senderID then [.checkChannel ref pkt srcAddr] else [])
    | none => (w, [])
  | .checkChannel ref pkt srcAddr =>
    (w, if (w.sessions.heap ref).channelID ≠ pkt.channelID then []
      else [.followVoice ref pkt srcAddr, .isMuted ref pkt])
  | .followVoice ref pkt srcAddr =>
    (w, if (w.sessions.heap ref).addr = some srcAddr then []
      else [.server (.updateAddr pkt.senderID srcAddr)])
  | .isMuted ref pkt => (w, if (w.sessions.heap ref).serverMuted then [] else [.updateSpeakingState ref pkt])
  | .updateSpeakingState ref pkt =>
    ({ w with sessions :=
      w.sessions.modify ref fun s => (s.updateSpeakingState x.now pkt.vad pkt.energyLevel).1 }, [])
  | .pingByUser pkt srcAddr =>
    match w.sessions.getByUser pkt.senderID with
    | some ref => (w, [.followPing ref srcAddr])
    | none => (w, [.pingByAddr srcAddr])
  | .pingByAddr srcAddr =>
    match w.sessions.getByAddr (some srcAddr) with
    | some ref => (w, [.followPing ref srcAddr])
    | none => (w, [])
  | .followPing ref srcAddr =>
    (w, if (w.sessions.heap ref).addr = some srcAddr then [.touch ref]
      else [.server (.updateAddr (w.sessions.heap ref).userID srcAddr)])
  | .touch ref => ({ w with sessions := w.sessions.modify ref fun s => s.touch x.now }, [])

/-- Both planes and their datagrams, any number of goroutines at a time. -/
def system : Goroutines Routine (server.World Addr) (Request Addr) (Act Addr) server.Choice where
  owner := Request.owner
  program := program
  perform := fun w _ a x => some (act w x a)

/-- Both planes and the goroutines' remaining work. -/
abbrev State (Addr : Type) := Goroutines.Config Routine (server.World Addr) (Act Addr)

/-- The next thing the scheduler does. -/
abbrev Turn (Addr : Type) := Goroutines.Turn Routine (Request Addr) server.Choice

/-- The state after a schedule. -/
def after (w : server.World Addr) (ts : List (Turn Addr)) : State Addr :=
  system.machine.run (Goroutines.idle w) ts

/-- The turn performs an action, under what the environment chooses. -/
def Does (k : State Addr) (t : Turn Addr) (a : Act Addr) (x : server.Choice) : Prop :=
  ∃ g rest, t = .advance g x ∧ k.todo g = a :: rest

/-- The turn is the lock region of a `join_voice` of user `u` on connection `c`
that succeeds. -/
def Joins (k : State Addr) (t : Turn Addr) (u : UInt32) (c : ClientID) : Prop :=
  ∃ room channel selfMuted selfDeafened x h',
    Does k t (.server (.joinVoice c room channel selfMuted selfDeafened)) x ∧
    k.shared.hub.joinVoice x.now c room channel selfMuted selfDeafened = .ok h' ∧
    (k.shared.hub.conn c).userID = u

/-- The turn stores the token of a `join_voice` on connection `c`. -/
def Issues (k : State Addr) (t : Turn Addr) (c : ClientID) (token : Token) : Prop :=
  ∃ room x vt, Does k t (.server (.generateUDPToken c room)) x ∧
    (server.act k.shared x (.generateUDPToken c room)).2 = [.registerPending vt] ∧ vt.token = token

/-- The turn accepts a handshake of user `u` that carries `token`, from the pending
tokens or from the stored ones. -/
def Accepts (k : State Addr) (t : Turn Addr) (u : UInt32) (token : Token) : Prop :=
  ∃ pkt srcAddr x, pkt.senderID = u ∧ GoBytes.trimSpace pkt.payload = token ∧
    ((Does k t (.server (.activatePending pkt srcAddr)) x ∧
        ∃ sessions session, k.shared.sessions.activatePending x.now token u pkt.channelID (some srcAddr) =
          (sessions, .ok session)) ∨
      Does k t (.server (.consumeVoiceToken pkt srcAddr)) x ∧ token ≠ [] ∧
        ∃ rows vt, consumeVoiceToken k.shared.voiceTokens x.now x.fault token = (rows, .ok vt) ∧
          vt.userID = u ∧ vt.channelID = pkt.channelID)

/-- The last `join_voice` of user `u` was on connection `c`, which has not joined
again. -/
def JoinedOn (w : server.World Addr) (u : UInt32) (c : ClientID) : List (Turn Addr) → Prop :=
  Machine.HistorySince (fun pre t => Joins (after w pre) t u c)
    fun pre t => ∃ u' c', Joins (after w pre) t u' c' ∧ (u' = u ∨ c' = c)

/-- The last `join_voice` of user `u` was given `token`. -/
def TokenOf (w : server.World Addr) (u : UInt32) (token : Token) : List (Turn Addr) → Prop :=
  Machine.HistorySince (fun pre t => ∃ c, JoinedOn w u c pre ∧ Issues (after w pre) t c token)
    fun pre t => ∃ c, Joins (after w pre) t u c

/-- A handshake of user `u` with the token of its last `join_voice` has been
accepted since. -/
def Connected (w : server.World Addr) (u : UInt32) : List (Turn Addr) → Prop :=
  Machine.HistorySince (fun pre t => ∃ token, TokenOf w u token pre ∧ Accepts (after w pre) t u token)
    fun pre t => ∃ c, Joins (after w pre) t u c

/-- A user in voice who has connected keeps an audio session. -/
def KeepsSessions (w : server.World Addr) (ts : List (Turn Addr)) : Prop :=
  ∀ u, (after w ts).shared.hub.voiceStates.get? u ≠ none → Connected w u ts →
    (after w ts).shared.sessions.session? u ≠ none

/-- The session of the user is still to be removed. -/
def RemovalComing (k : State Addr) (u : UInt32) : Prop :=
  Goroutines.Pending k (.server (.removeSession u))

/-- The action is in step with the audio sessions. A connection in no room leaves
voice for a user who is out of voice or has no session; a user whose session is still
to be removed neither joins with a session nor gets one while in voice; and a tick of
the scavenger finds no stale session of a user in voice. -/
def SparesVoice (k : State Addr) (x : server.Choice) : Act Addr → Prop
  | .server (.leaveVoice c) =>
    0 < (k.shared.hub.conn c).activeVoiceChannel ∨
      k.shared.hub.voiceStates.get? (k.shared.hub.conn c).userID = none ∨
      k.shared.sessions.session? (k.shared.hub.conn c).userID = none
  | .server (.joinVoice c room channel selfMuted selfDeafened) =>
    ∀ h', k.shared.hub.joinVoice x.now c room channel selfMuted selfDeafened = .ok h' →
      RemovalComing k (k.shared.hub.conn c).userID →
        k.shared.sessions.session? (k.shared.hub.conn c).userID = none
  | .server (.activatePending pkt _) =>
    ∀ pt, k.shared.sessions.LivePending x.now (GoBytes.trimSpace pkt.payload) pkt.senderID pkt.channelID pt →
      RemovalComing k pkt.senderID → k.shared.hub.voiceStates.get? pkt.senderID = none
  | .server (.registerSession s) =>
    RemovalComing k s.userID → k.shared.hub.voiceStates.get? s.userID = none
  | .server (.cleanStaleSessions maxIdle) =>
    ∀ u s, k.shared.sessions.session? u = some s → s.Stale x.now maxIdle →
      k.shared.hub.voiceStates.get? u = none
  | _ => True

/-- Every action the turn performs spares the users in voice. -/
def SparesVoiceAt (k : State Addr) (t : Turn Addr) : Prop := ∀ a x, Does k t a x → SparesVoice k x a

/-- Every step of the schedule spares the users in voice. -/
def VoiceSpared (w : server.World Addr) (ts : List (Turn Addr)) : Prop :=
  Machine.Along (fun pre t => SparesVoiceAt (after w pre) t) ts

/-- A removal that is still to come takes no session from a user in voice. -/
def RemovalsHarmless (k : State Addr) : Prop :=
  ∀ u, RemovalComing k u → k.shared.hub.voiceStates.get? u = none ∨ k.shared.sessions.session? u = none

/-- The user has a session, or one is about to be registered. -/
def Covered (k : State Addr) (u : UInt32) : Prop :=
  k.shared.sessions.session? u ≠ none ∨
    ∃ session, session.userID = u ∧ Goroutines.Pending k (.server (.registerSession session))

omit [DecidableEq Addr] in
theorem session?_modify_ne_none {sm : SessionManager Addr} {u : UInt32} (ref : SessionRef)
    (f : Session Addr → Session Addr) (hs : sm.session? u ≠ none) : (sm.modify ref f).session? u ≠ none := by
  rw [ne_eq, SessionManager.session?_eq_none_iff] at hs ⊢
  exact hs

/-- A session stays under every action that does not take it away. -/
theorem session?_server_act {w : server.World Addr} (h : w.sessions.Owned) {x : server.Choice}
    {a : server.Act Addr} {u : UInt32} (hremove : a ≠ .removeSession u)
    (hsweep : ∀ maxIdle s, a = .cleanStaleSessions maxIdle → w.sessions.session? u = some s →
      ¬ s.Stale x.now maxIdle) (hs : w.sessions.session? u ≠ none) :
    (server.act w x a).1.sessions.session? u ≠ none := by
  have hinstall : ∀ (sm : SessionManager Addr) (s : Session Addr), sm.Owned → sm.session? u ≠ none →
      (sm.install s).session? u ≠ none := by
    intro sm s howned hsome
    rw [SessionManager.session?_install howned]
    split
    · simp
    · exact hsome
  cases a with
  | removeSession userID =>
    have hu : u ≠ userID := fun heq => hremove (by rw [heq])
    simp only [server.act, SessionManager.session?_removeSession, if_neg hu]
    exact hs
  | cleanStaleSessions maxIdle =>
    obtain ⟨s, hs₀⟩ := Option.ne_none_iff_exists'.mp hs
    have hfresh := Int.not_lt.mp (hsweep maxIdle s rfl hs₀)
    simp only [server.act, SessionManager.session?_cleanStaleSessions_of_fresh hs₀ hfresh]
    simp
  | moveSession targetUserID toChannelID =>
    simp only [server.act, SessionManager.session?_moveMember h]
    split
    · simpa [‹u = targetUserID›] using hs
    · exact hs
  | writeFlag flag ref value => exact session?_modify_ne_none ref _ hs
  | retune ref channelID => exact session?_modify_ne_none ref _ hs
  | updateAddr userID srcAddr =>
    have hsame := (SessionManager.refreshed_updateAddr h x.now userID (some srcAddr)).byUser
    rw [ne_eq, SessionManager.session?_eq_none_iff] at hs ⊢
    simp only [server.act, hsame]
    exact hs
  | registerSession session => exact hinstall _ session h hs
  | activatePending pkt srcAddr =>
    simp only [server.act]
    split
    · rename_i sessions session hactivate
      obtain ⟨pt, -, -, rfl⟩ := SessionManager.activatePending_eq_ok_iff.mp hactivate
      exact hinstall _ _ (h.of_pendingTokens _) hs
    · rename_i sessions e hactivate
      obtain rfl | ⟨-, rfl⟩ := SessionManager.activatePending_error hactivate <;> exact hs
  | getSession | getUserWithRoles | createSession | getChannelByID | joinVoice | generateUDPToken |
    moveMember | lookupFlag | consumeVoiceToken | getByUser =>
    simp only [server.act]
    repeat' split
    all_goals exact hs
  | registerPending | registerClient | deleteSession | signIn | addUserClient | leaveVoice | setVoiceState |
    setFlag | deleteUserSessions | revokeVoiceTokens | kickMember | handleClientDisconnect => exact hs

/-- A user comes into voice by a `join_voice` alone. -/
theorem voiceStates_server_act {w : server.World Addr} {x : server.Choice} {a : server.Act Addr} {u : UInt32}
    (hvoice : (server.act w x a).1.hub.voiceStates.get? u ≠ none) :
    w.hub.voiceStates.get? u ≠ none ∨
      ∃ c room channel selfMuted selfDeafened h', a = .joinVoice c room channel selfMuted selfDeafened ∧
        w.hub.joinVoice x.now c room channel selfMuted selfDeafened = .ok h' ∧ (w.hub.conn c).userID = u := by
  have hnone : ∀ h : Hub, h.standing? u = none ↔ h.voiceStates.get? u = none := by simp [Hub.standing?]
  rw [ne_eq, ← hnone] at hvoice ⊢
  have hchange := server.voiceChange_act w x a u
  generalize w.hub.standing? u = st₀ at hchange ⊢
  generalize (server.act w x a).1.hub.standing? u = st at hvoice hchange
  cases hchange with
  | kept _ => exact .inl hvoice
  | joined _ ha hok hu => exact .inr ⟨_, _, _, _, _, _, ha, hok, hu.symm⟩
  | left _ _ => exact absurd rfl hvoice
  | dropped _ _ _ _ _ _ => exact absurd rfl hvoice
  | moved _ _ => exact .inl (by simp)
  | flagged _ _ => exact .inl (by simp)

/-- A user comes by a session by an accepted handshake alone. -/
theorem session?_of_server_act {w : server.World Addr} (h : w.sessions.Owned) {x : server.Choice}
    {a : server.Act Addr} {u : UInt32} (hs : (server.act w x a).1.sessions.session? u ≠ none) :
    w.sessions.session? u ≠ none ∨
      (∃ pkt srcAddr pt, a = .activatePending pkt srcAddr ∧ pkt.senderID = u ∧
        w.sessions.LivePending x.now (GoBytes.trimSpace pkt.payload) pkt.senderID pkt.channelID pt) ∨
      ∃ s, a = .registerSession s ∧ s.userID = u := by
  obtain ⟨s', hs'⟩ := Option.ne_none_iff_exists'.mp hs
  have hchange := server.sessionChange_act h hs'
  generalize w.sessions.session? u = before at hchange ⊢
  cases hchange with
  | activated _ _ ha hu hlive => exact .inr (.inl ⟨_, _, _, ha, hu.symm, hlive⟩)
  | registered _ _ ha hu => exact .inr (.inr ⟨_, ha, hu.symm⟩)
  | kept | retuned | moved | flagged => exact .inl (by simp)

/-- Who leaves a removal behind is out of voice by then, unless a connection in no
room has left voice. -/
theorem voiceStates_of_removal {w : server.World Addr} {x : server.Choice} {a : server.Act Addr}
    {u : UInt32} (hmem : .removeSession u ∈ (server.act w x a).2) :
    (server.act w x a).1.hub.voiceStates.get? u = none ∨
      ∃ c, a = .leaveVoice c ∧ (w.hub.conn c).userID = u ∧ ¬ 0 < (w.hub.conn c).activeVoiceChannel := by
  cases a with
  | leaveVoice c =>
    simp only [server.act, List.mem_singleton, server.Act.removeSession.injEq] at hmem
    by_cases hactive : 0 < (w.hub.conn c).activeVoiceChannel
    · left
      simp [server.act, Hub.leaveVoice_of_pos hactive, hmem]
    · exact .inr ⟨c, rfl, hmem.symm, hactive⟩
  | kickMember targetUserID =>
    obtain ⟨-, -, -, -, hstates, -⟩ := w.hub.kickMember_spec targetUserID
    have hu : u = targetUserID := by simpa [server.act] using hmem
    left
    simp [server.act, hstates, hu]
  | handleClientDisconnect c =>
    by_cases hreg : w.hub.Registered c
    · obtain ⟨hdeparted, -, -, -, hstates⟩ := Hub.handleClientDisconnect_of_registered hreg
      by_cases hin : (w.hub.conn c).isAuthenticated = true ∧ 0 < (w.hub.conn c).activeVoiceChannel
      · obtain ⟨hauth, hpos⟩ := hin
        have hu : u = (w.hub.conn c).userID := by
          simpa [server.act, hdeparted, hauth, hpos] using hmem
        obtain ⟨-, -, hgone⟩ | ⟨hstays, -⟩ := hstates u
        · exact .inl hgone
        · exact absurd ⟨⟨hauth, .inl hpos⟩, hu⟩ hstays
      · have hstays : ¬ 0 < (w.hub.handleClientDisconnect c).2 := by
          rw [hdeparted]
          split
          · exact fun hpos => hin ⟨‹_›, hpos⟩
          · decide
        simp [server.act, hstays] at hmem
    · simp [server.act, Hub.handleClientDisconnect_of_not_registered hreg] at hmem
  | _ =>
    simp only [server.act] at hmem
    repeat' split at hmem
    all_goals simp at hmem

/-- The actions of voice and ping datagrams change no index of the sessions and
nothing of the hub. -/
structure Looks (w w' : server.World Addr) : Prop where
  hub : w'.hub = w.hub
  owned : w.sessions.Owned → w'.sessions.Owned
  byUser : w'.sessions.byUser = w.sessions.byUser

theorem looks_act (w : server.World Addr) (x : server.Choice) {a : Act Addr} (h : ∀ b, a ≠ .server b) :
    Looks w (act w x a).1 := by
  cases a with
  | server b => exact absurd rfl (h b)
  | updateSpeakingState ref pkt =>
    exact ⟨rfl, fun howned => howned.modify ref
      (fun s => (s.updateSpeakingState x.now pkt.vad pkt.energyLevel).1) rfl rfl, rfl⟩
  | touch ref => exact ⟨rfl, fun howned => howned.modify ref (fun s => s.touch x.now) rfl rfl, rfl⟩
  | checkChannel | followVoice | isMuted | followPing => exact ⟨rfl, id, rfl⟩
  | voiceByUser | voiceByAddr | pingByUser | pingByAddr =>
    simp only [act]
    split <;> exact ⟨rfl, id, rfl⟩

/-- Only the server removes sessions. -/
theorem removeSession_not_mem_act (w : server.World Addr) (x : server.Choice) {a : Act Addr}
    (h : ∀ b, a ≠ .server b) (u : UInt32) : .server (.removeSession u) ∉ (act w x a).2 := by
  cases a with
  | server b => exact absurd rfl (h b)
  | updateSpeakingState | touch => simp [act]
  | _ =>
    simp only [act]
    repeat' split
    all_goals simp

omit [DecidableEq Addr] in
theorem removeSession_not_mem_program (w : server.World Addr) (r : Request Addr) (u : UInt32) :
    .server (.removeSession u) ∉ program w r := by
  cases r with
  | server r =>
    intro hmem
    obtain ⟨b, hb, heq⟩ := List.mem_map.mp hmem
    cases heq
    unfold server.program at hb
    cases r <;> simp only [server.Request.connection?, server.handle, server.gated] at hb
    all_goals
      repeat' split at hb
      all_goals simp at hb
  | datagram data srcAddr =>
    simp only [program]
    repeat' split
    all_goals simp

theorem owned_act {w : server.World Addr} (h : w.sessions.Owned) (x : server.Choice) (a : Act Addr) :
    (act w x a).1.sessions.Owned := by
  cases a with
  | server a => exact server.owned_act h x a
  | _ => exact (looks_act w x (by simp)).owned h

section step

variable {k : State Addr} {t : Turn Addr} {g : Routine} {a : Act Addr} {w' : server.World Addr}
  {acts : List (Act Addr)}

/-- A turn that performs an action does what `act` says. -/
theorem exists_does (hp : system.Performs k t g a w' acts) :
    ∃ x, Does k t a x ∧ act k.shared x a = (w', acts) := by
  obtain ⟨⟨x, hturn, hact⟩, rest, htodo, -⟩ := hp
  exact ⟨x, ⟨g, rest, hturn, htodo⟩, Option.some.inj hact⟩

/-- No action waits. -/
theorem performs_of_does {x : server.Choice} (hdoes : Does k t a x) :
    ∃ g, system.Performs k t g a (act k.shared x a).1 (act k.shared x a).2 := by
  obtain ⟨g, rest, rfl, htodo⟩ := hdoes
  refine ⟨g, ⟨x, rfl, rfl⟩, rest, htodo, ?_⟩
  simp only [Goroutines.step, htodo, system]

/-- A removal that is left to come is harmless, and stays so. -/
theorem RemovalsHarmless.perform (h : RemovalsHarmless k) (howned : k.shared.sessions.Owned)
    (hok : SparesVoiceAt k t) (hp : system.Performs k t g a w' acts) : RemovalsHarmless (system.step k t) := by
  obtain ⟨x, hdoes, hact⟩ := exists_does hp
  have hspares : SparesVoice k x a := hok a x hdoes
  intro u hpending
  rw [hp.shared]
  by_contra hboth
  obtain ⟨hvoice, hsession⟩ := not_or.mp hboth
  by_cases hserver : ∃ b, a = .server b
  · obtain ⟨b, rfl⟩ := hserver
    have hw : w' = (server.act k.shared x b).1 := (congrArg Prod.fst hact).symm
    have hacts : acts = (server.act k.shared x b).2.map .server := (congrArg Prod.snd hact).symm
    rw [hw] at hvoice hsession
    have hcoming : RemovalComing k u ∨ .removeSession u ∈ (server.act k.shared x b).2 := by
      obtain ⟨g', hmem⟩ := hpending
      obtain ⟨-, hnew⟩ | hold := hp.mem_elim hmem
      · rw [hacts] at hnew
        obtain ⟨b', hb', heq⟩ := List.mem_map.mp hnew
        cases heq
        exact .inr hb'
      · exact .inl ⟨g', hold⟩
    obtain hold | hnew := hcoming
    · obtain hin | ⟨c, room, channel, selfMuted, selfDeafened, h', rfl, hjoin, rfl⟩ :=
        voiceStates_server_act hvoice
      · have hnone := (h u hold).resolve_left hin
        obtain hsome | ⟨pkt, srcAddr, pt, rfl, rfl, hlive⟩ | ⟨s, rfl, rfl⟩ :=
          session?_of_server_act howned hsession
        · exact hsome hnone
        · exact hin (hspares pt hlive hold)
        · exact hin (hspares hold)
      · obtain hsome | ⟨_, _, _, ha, -⟩ | ⟨_, ha, -⟩ := session?_of_server_act howned hsession
        · exact hsome (hspares h' hjoin hold)
        · cases ha
        · cases ha
    · obtain hout | ⟨c, rfl, rfl, hactive⟩ := voiceStates_of_removal hnew
      · exact hvoice hout
      · have hstays : (server.act k.shared x (.leaveVoice c)).1 = k.shared := by
          simp only [server.act, Hub.leaveVoice_of_not_pos hactive]
        rw [hstays] at hvoice hsession
        obtain hin | hnone | hnone := hspares
        · exact hactive hin
        · exact hvoice hnone
        · exact hsession hnone
  · rw [not_exists] at hserver
    have hw : w' = (act k.shared x a).1 := (congrArg Prod.fst hact).symm
    have hacts : acts = (act k.shared x a).2 := (congrArg Prod.snd hact).symm
    have hlooks := looks_act k.shared x hserver
    have hold : RemovalComing k u := by
      obtain ⟨g', hmem⟩ := hpending
      obtain ⟨-, hnew⟩ | hold := hp.mem_elim hmem
      · rw [hacts] at hnew
        exact absurd hnew (removeSession_not_mem_act k.shared x hserver u)
      · exact ⟨g', hold⟩
    rw [hw, hlooks.hub] at hvoice
    rw [hw, SessionManager.session?_eq_none_iff, hlooks.byUser] at hsession
    obtain hout | hnone := h u hold
    · exact hvoice hout
    · exact hsession (SessionManager.session?_eq_none_iff.mp hnone)

/-- What a user has of a session stays while the users in voice are spared. -/
theorem Covered.perform {u : UInt32} (h : Covered k u) (howned : k.shared.sessions.Owned)
    (hharmless : RemovalsHarmless k) (hok : SparesVoiceAt k t) (hp : system.Performs k t g a w' acts)
    (hvoice : k.shared.hub.voiceStates.get? u ≠ none) : Covered (system.step k t) u := by
  obtain ⟨x, hdoes, hact⟩ := exists_does hp
  have hspares : SparesVoice k x a := hok a x hdoes
  have hw : w' = (act k.shared x a).1 := (congrArg Prod.fst hact).symm
  obtain hsession | ⟨session, rfl, hpending⟩ := h
  · refine .inl ?_
    rw [hp.shared, hw]
    cases a with
    | server b =>
      refine session?_server_act howned ?_ ?_ hsession
      · rintro rfl
        obtain hout | hnone := hharmless u ⟨g, hp.mem_todo⟩
        · exact hvoice hout
        · exact hsession hnone
      · rintro maxIdle s rfl hs hstale
        exact hvoice (hspares u s hs hstale)
    | _ =>
      rw [ne_eq, SessionManager.session?_eq_none_iff] at hsession ⊢
      rw [(looks_act k.shared x (by simp)).byUser]
      exact hsession
  · obtain heq | hstill := hp.pending_or_eq hpending
    · refine .inl ?_
      rw [hp.shared, hw, ← heq]
      simp [act, server.act, SessionManager.session?_install howned]
    · exact .inr ⟨session, rfl, hstill⟩

/-- A user whose handshake is accepted has a session, or one about to be registered. -/
theorem covered_of_accepts {u : UInt32} {token : Token} (howned : k.shared.sessions.Owned)
    (haccepts : Accepts k t u token) : Covered (system.step k t) u := by
  obtain ⟨pkt, srcAddr, x, rfl, rfl, hpending | hstored⟩ := haccepts
  · obtain ⟨hdoes, sessions, session, hactivate⟩ := hpending
    obtain ⟨g, hp⟩ := performs_of_does hdoes
    obtain ⟨pt, -, rfl, rfl⟩ := SessionManager.activatePending_eq_ok_iff.mp hactivate
    refine .inl ?_
    rw [hp.shared]
    simp only [act, server.act, hactivate, SessionManager.session?_install (howned.of_pendingTokens _)]
    simp [newSession]
  · obtain ⟨hdoes, hne, rows, vt, hconsume, hu, hchannel⟩ := hstored
    obtain ⟨g, hp⟩ := performs_of_does hdoes
    refine .inr ⟨newSession x.now vt.userID vt.channelID vt.ssrc (some srcAddr), hu, ?_⟩
    apply hp.pending_of_mem
    simp [act, server.act, hne, hconsume, hu, hchannel]

/-- One turn keeps a connected user in voice covered. -/
theorem covered_step {u : UInt32} (howned : k.shared.sessions.Owned) (hharmless : RemovalsHarmless k)
    (hok : SparesVoiceAt k t)
    (hsince : (∃ token, Accepts k t u token) ∨
      (k.shared.hub.voiceStates.get? u ≠ none → Covered k u) ∧ ¬ ∃ c, Joins k t u c)
    (hvoice : (system.step k t).shared.hub.voiceStates.get? u ≠ none) : Covered (system.step k t) u := by
  obtain ⟨token, haccepts⟩ | ⟨hbefore, hnojoin⟩ := hsince
  · exact covered_of_accepts howned haccepts
  · obtain hsame | ⟨r, -, hidle, hserve⟩ | ⟨g, a, w', acts, hp⟩ := system.step_cases k t
    · rw [hsame] at hvoice ⊢
      exact hbefore hvoice
    · rw [hserve] at hvoice ⊢
      obtain hsession | ⟨session, hu, hpending⟩ := hbefore hvoice
      · exact .inl hsession
      · exact .inr ⟨session, hu, hpending.serve hidle _⟩
    · obtain ⟨x, hdoes, hact⟩ := exists_does hp
      have hw : w' = (act k.shared x a).1 := (congrArg Prod.fst hact).symm
      have hin : k.shared.hub.voiceStates.get? u ≠ none := by
        rw [hp.shared, hw] at hvoice
        cases a with
        | server b =>
          obtain hin | ⟨c, room, channel, selfMuted, selfDeafened, h', rfl, hok, hu⟩ :=
            voiceStates_server_act hvoice
          · exact hin
          · exact absurd ⟨c, room, channel, selfMuted, selfDeafened, x, h', hdoes, hok, hu⟩ hnojoin
        | _ =>
          rw [(looks_act k.shared x (by simp)).hub] at hvoice
          exact hvoice
      exact (hbefore hin).perform howned hharmless hok hp hin

end step

theorem owned_after (voiceTokens : VoiceTokens) (userSessions : UserSessions) (ts : List (Turn Addr)) :
    (after (server.World.new voiceTokens userSessions) ts).shared.sessions.Owned := by
  refine system.run_rule (fun _ _ => True) (fun k => k.shared.sessions.Owned) SessionManager.owned_new
    ?_ ?_ ts fun _ _ _ _ => trivial
  · exact fun k r h _ _ => h
  · intro k t g a w' acts h _ hp
    obtain ⟨x, -, hact⟩ := exists_does hp
    have howned := owned_act h x a
    rwa [hact, ← hp.shared] at howned

/-- Removals stay harmless in a run that spares the users in voice. -/
theorem removalsHarmless_after (voiceTokens : VoiceTokens) (userSessions : UserSessions)
    (ts : List (Turn Addr)) (hspared : VoiceSpared (server.World.new voiceTokens userSessions) ts) :
    RemovalsHarmless (after (server.World.new voiceTokens userSessions) ts) := by
  refine (system.run_rule SparesVoiceAt (fun k => k.shared.sessions.Owned ∧ RemovalsHarmless k)
    ⟨SessionManager.owned_new, ?_⟩ ?_ ?_ ts hspared).2
  · rintro u ⟨g, hmem⟩
    cases hmem
  · intro k r h _ _
    refine ⟨h.1, fun u hcoming => h.2 u ?_⟩
    exact hcoming.of_serve.resolve_left (removeSession_not_mem_program k.shared r u)
  · intro k t g a w' acts h hok hp
    obtain ⟨x, -, hact⟩ := exists_does hp
    have howned := owned_act h.1 x a
    rw [hact, ← hp.shared] at howned
    exact ⟨howned, h.2.perform h.1 hok hp⟩

/-- Whoever is in voice and has connected is covered, in every state of a run that
spares the users in voice. -/
theorem covered_after (voiceTokens : VoiceTokens) (userSessions : UserSessions) (ts : List (Turn Addr))
    (hspared : VoiceSpared (server.World.new voiceTokens userSessions) ts) {u : UInt32}
    (hvoice : (after (server.World.new voiceTokens userSessions) ts).shared.hub.voiceStates.get? u ≠ none)
    (hconnected : Connected (server.World.new voiceTokens userSessions) u ts) :
    Covered (after (server.World.new voiceTokens userSessions) ts) u := by
  induction ts using List.reverseRecOn with
  | nil => exact absurd hconnected Machine.not_historySince_nil
  | append_singleton ts t ih =>
    have hstep : after (server.World.new voiceTokens userSessions) (ts ++ [t]) =
        system.step (after (server.World.new voiceTokens userSessions) ts) t := Machine.run_concat _ _ _ _
    rw [hstep] at hvoice ⊢
    obtain ⟨hbefore, hok⟩ := Machine.along_concat_iff.mp hspared
    refine covered_step (owned_after voiceTokens userSessions ts)
      (removalsHarmless_after voiceTokens userSessions ts hbefore) hok ?_ hvoice
    obtain ⟨token, -, haccepts⟩ | ⟨hconnected, hnojoin⟩ := Machine.historySince_concat_iff.mp hconnected
    · exact .inl ⟨token, haccepts⟩
    · exact .inr ⟨fun hin => ih hbefore hin hconnected, hnojoin⟩

/-- In every run whose operations are in step with the audio sessions, once no handler
is in progress every user in voice whose handshake was accepted has an audio session. -/
theorem keepsSessions_of_voiceSpared (voiceTokens : VoiceTokens) (userSessions : UserSessions)
    (ts : List (Turn Addr)) (hspared : VoiceSpared (server.World.new voiceTokens userSessions) ts)
    (hquiet : Goroutines.Quiet (after (server.World.new voiceTokens userSessions) ts)) :
    KeepsSessions (server.World.new voiceTokens userSessions) ts := by
  intro u hvoice hconnected
  obtain hsession | ⟨session, -, hpending⟩ :=
      covered_after voiceTokens userSessions ts hspared hvoice hconnected
  · exact hsession
  · exact absurd hpending (hquiet.not_pending _)

/-- A turn of the server. -/
def ofServer : server.Turn Addr → Turn Addr
  | .serve r => .serve (.server r)
  | .advance g x => .advance g x

/-- User 7 joins channel 2 on connection 1, and its handshake arrives. -/
def connected : List (Turn Nat) :=
  server.joined.map ofServer ++
    [.serve (.datagram (server.handshake 7 2 [0x78]).encode 10), .advance .readLoop (server.calm [])]

/-- User 7 pings, and the scavenger ticks. -/
def pings : List (Turn Nat) :=
  [.serve (.datagram { server.handshake 7 2 [] with type := typePing }.encode 10),
    .advance .readLoop (server.calm []), .advance .readLoop (server.calm []),
    .advance .readLoop (server.calm []), .serve (.server .cleanup),
    .advance .cleanupLoop (server.calm [])]

/-- Connection 2 logs in as user 7 too and leaves voice, in which it never was. -/
def leavesElsewhere : List (Turn Nat) :=
  [.serve (.server (.serveWs 1 2)), .advance (.accept 1) (server.calm []),
    .serve (.server (.login 2 ⟨7, "kim", permDefaultMember⟩)), .advance (.readPump 2) (server.calm [0x74]),
    .advance (.readPump 2) (server.calm []), .advance (.readPump 2) (server.calm []),
    .serve (.server (.leaveVoice 2)), .advance (.readPump 2) (server.calm []),
    .advance (.readPump 2) (server.calm [])]

theorem voiceSpared_connected_pings : VoiceSpared (server.World.new ∅ ∅) (connected ++ pings) := by
  simp only [VoiceSpared, connected, pings, server.joined, ofServer, List.map_cons, List.map_nil,
    List.cons_append, List.nil_append, Machine.along_cons_iff]
  refine ⟨?_, ?_, ?_, ?_, ?_, ?_, ?_, ?_, ?_, ?_, ?_, ?_, ?_, ?_, ?_, ?_, ?_, ?_, ?_, Machine.along_nil⟩
  all_goals
    intro a x hdoes
    obtain ⟨g, rest, hturn, htodo⟩ := hdoes
    cases hturn <;> cases htodo
  case refine_9 => exact fun _ _ _ => rfl
  case refine_13 =>
    -- nothing was in progress when the datagram came
    have hquiet : Goroutines.Quiet (after (server.World.new ∅ ∅) (connected.take 11)) :=
      system.quiet_of_all _ rfl
    intro pt _ hcoming
    refine absurd (Goroutines.Pending.of_serve hcoming) (not_or.mpr ⟨?_, hquiet.not_pending _⟩)
    exact removeSession_not_mem_program (server.World.new ∅ ∅)
      (.datagram (server.handshake 7 2 [0x78]).encode 10) 7
  case refine_19 =>
    intro u s hs hstale
    have hnone : (after (server.World.new ∅ ∅) (connected ++ pings.take 5)).shared.sessions.staleEntries 0
      server.sessionMaxIdle = [] := rfl
    have hmem := SessionManager.mem_map_staleEntries.mpr ⟨s, hs, hstale⟩
    exact absurd (hnone ▸ hmem) List.not_mem_nil
  all_goals trivial

theorem keepsSessions_of_voiceSpared_pings : KeepsSessions (server.World.new ∅ ∅) (connected ++ pings) :=
  keepsSessions_of_voiceSpared ∅ ∅ (connected ++ pings) voiceSpared_connected_pings
    (system.quiet_of_all _ rfl)

theorem connected_leavesElsewhere : Connected (server.World.new ∅ ∅) 7 (connected ++ leavesElsewhere) := by
  have hjoin : JoinedOn (server.World.new ∅ ∅) 7 1 (connected.take 9) :=
    ⟨connected.take 8, _, [], rfl, ⟨2, _, false, false, _, _, ⟨_, _, rfl, rfl⟩, rfl, rfl⟩, Machine.along_nil⟩
  have htoken : TokenOf (server.World.new ∅ ∅) 7 [0x78] (connected.take 12) := by
    refine ⟨connected.take 9, _, (connected.take 12).drop 10, rfl,
      ⟨1, hjoin, 2, _, _, ⟨_, _, rfl, rfl⟩, rfl, rfl⟩, ?_⟩
    simp only [connected, server.joined, ofServer, List.map_cons, List.map_nil, List.cons_append,
      List.nil_append, List.take_succ_cons, List.take_zero, List.drop_succ_cons, List.drop_zero,
      Machine.along_cons_iff]
    refine ⟨?_, ?_, Machine.along_nil⟩
    all_goals
      rintro ⟨c, room, channel, selfMuted, selfDeafened, x, h', ⟨g, rest, hturn, htodo⟩, -⟩
      cases hturn <;> cases htodo
  refine ⟨connected.take 12, _, leavesElsewhere, rfl, ⟨[0x78], htoken, server.handshake 7 2 [0x78], 10, _,
    rfl, rfl, .inl ⟨⟨_, _, rfl, rfl⟩, _, _, rfl⟩⟩, ?_⟩
  simp only [leavesElsewhere, Machine.along_cons_iff]
  refine ⟨?_, ?_, ?_, ?_, ?_, ?_, ?_, ?_, ?_, Machine.along_nil⟩
  all_goals
    rintro ⟨c, room, channel, selfMuted, selfDeafened, x, h', ⟨g, rest, hturn, htodo⟩, -⟩
    cases hturn <;> cases htodo

/-- A device of user 7 that is not in voice takes the audio session of the one that
is. -/
theorem other_device_removes_session :
    ¬ ∀ ts : List (Turn Nat), Goroutines.Quiet (after (server.World.new ∅ ∅) ts) →
      KeepsSessions (server.World.new ∅ ∅) ts := by
  intro hall
  have hkeeps := hall (connected ++ leavesElsewhere) (system.quiet_of_all _ rfl)
  have hvoice : (after (server.World.new ∅ ∅) (connected ++ leavesElsewhere)).shared.hub.voiceStates.get? 7 ≠
      none := by
    simp only [ne_eq]
    decide
  exact hkeeps 7 hvoice connected_leavesElsewhere rfl

end low_latency_voice.control.sfu

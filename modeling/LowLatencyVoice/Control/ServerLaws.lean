import LowLatencyVoice.Control.Server

open low_latency_voice.model low_latency_voice.storage low_latency_voice.audio

namespace low_latency_voice.control

/-- A room and the two flags, as either plane has them. -/
abbrev Standing := UInt32 × Bool × Bool

/-- Sets a flag of the pair. -/
def ModFlag.setPair (flag : ModFlag) (value : Bool) (flags : Bool × Bool) : Bool × Bool :=
  match flag with
  | .muted => (value, flags.2)
  | .deafened => (flags.1, value)

theorem ModFlag.ofPair_setPair (flag flag' : ModFlag) (value : Bool) (flags : Bool × Bool) :
    flag'.ofPair (flag.setPair value flags) = if flag' = flag then value else flag'.ofPair flags := by
  cases flag <;> cases flag' <;> rfl

theorem ModFlag.standing_setSession {Addr : Type} (flag : ModFlag) (value : Bool) (s : Session Addr) :
    (flag.setSession value s).standing = (s.channelID, flag.setPair value s.flags) := by
  cases flag <;> rfl

/-- A voice state as a standing. -/
def standing (state : VoiceState) : Standing :=
  (state.channelID, state.serverMuted, state.serverDeafened)

/-- The standing the control plane has for a user. -/
def Hub.standing? (h : Hub) (userID : UInt32) : Option Standing :=
  (h.voiceStates.get? userID).map standing

theorem ModFlag.standing_setVoiceState (flag : ModFlag) (value : Bool) (state : VoiceState) :
    standing (flag.setVoiceState value state) =
      (state.channelID, flag.setPair value (standing state).2) := by
  cases flag <;> rfl

namespace server

variable {Addr : Type} [DecidableEq Addr]

/-- What an action can do to the voice state of a user: nothing, a fresh join,
a departure, a move, or a flag. Each call on the media plane that has to follow
is among the actions it leads to, except after the disconnect of a connection
that is in no room. -/
inductive VoiceChange (h : Hub) (x : Choice) (a : Act Addr) (acts : List (Act Addr)) (u : UInt32) :
    Option Standing → Option Standing → Prop where
  | kept (st : Option Standing) : VoiceChange h x a acts u st st
  | joined (st : Option Standing) {c : ClientID} {room : UInt32} {channel : Channel}
      {selfMuted selfDeafened : Bool} {h' : Hub} (ha : a = .joinVoice c room channel selfMuted selfDeafened)
      (hok : h.joinVoice x.now c room channel selfMuted selfDeafened = .ok h')
      (hu : u = (h.conn c).userID) : VoiceChange h x a acts u st (some (room, false, false))
  | left (st : Option Standing) (hacts : .removeSession u ∈ acts) : VoiceChange h x a acts u st none
  | dropped (st : Option Standing) {c : ClientID} (ha : a = .handleClientDisconnect c)
      (hreg : h.Registered c) (hleaves : h.LeavesVoice c) (hactive : ¬ 0 < (h.conn c).activeVoiceChannel)
      (hu : u = (h.conn c).userID) : VoiceChange h x a acts u st none
  | moved (st : Standing) {room : UInt32} (hacts : .moveSession u room ∈ acts) :
      VoiceChange h x a acts u (some st) (some (room, st.2))
  | flagged (st : Standing) {flag : ModFlag} {value : Bool} (hacts : .lookupFlag flag u value ∈ acts) :
      VoiceChange h x a acts u (some st) (some (st.1, flag.setPair value st.2))

omit [DecidableEq Addr] in
theorem VoiceChange.of_eq {h h' : Hub} {x : Choice} {a : Act Addr} {acts : List (Act Addr)} {u : UInt32}
    (heq : h'.standing? u = h.standing? u) :
    VoiceChange h x a acts u (h.standing? u) (h'.standing? u) := by
  rw [heq]
  exact .kept _

/-- The inversion of one action, for the control plane's side of a user. -/
theorem voiceChange_act (w : World Addr) (x : Choice) (a : Act Addr) (u : UInt32) :
    VoiceChange w.hub x a (act w x a).2 u (w.hub.standing? u) ((act w x a).1.hub.standing? u) := by
  cases a with
  | registerClient c =>
    apply VoiceChange.of_eq
    simp only [act, Hub.registerClient]
    split <;> rfl
  | joinVoice c room channel selfMuted selfDeafened =>
    simp only [act]
    cases hjoin : w.hub.joinVoice x.now c room channel selfMuted selfDeafened with
    | error refusal => exact .kept _
    | ok h' =>
      obtain ⟨-, -, -, -, -, ⟨state, hstates, hroom, hflags⟩, -⟩ := Hub.joinVoice_ok hjoin
      by_cases hu : u = (w.hub.conn c).userID
      · have hst : h'.standing? u = some (room, false, false) := by
          have hm : state.serverMuted = false := hflags .muted
          have hd : state.serverDeafened = false := hflags .deafened
          simp [Hub.standing?, hstates, hu, standing, hroom, hm, hd]
        simp only [hst]
        exact .joined _ rfl hjoin hu
      · apply VoiceChange.of_eq
        simp [Hub.standing?, hstates, hu]
  | leaveVoice c =>
    simp only [act]
    by_cases hactive : 0 < (w.hub.conn c).activeVoiceChannel
    · by_cases hu : u = (w.hub.conn c).userID
      · have hst : (w.hub.leaveVoice c).standing? u = none := by
          rw [Hub.leaveVoice_of_pos hactive]
          simp [Hub.standing?, hu]
        rw [hst]
        exact .left _ (by simp [hu])
      · apply VoiceChange.of_eq
        rw [Hub.leaveVoice_of_pos hactive]
        simp [Hub.standing?, hu]
    · rw [Hub.leaveVoice_of_not_pos hactive]
      exact .kept _
  | setVoiceState c selfMuted selfDeafened isSpeaking =>
    apply VoiceChange.of_eq
    simp only [act, Hub.standing?, Hub.setVoiceState, Hub.voiceStates_withVoiceState]
    split
    · rw [Option.map_map]
      rfl
    · rfl
  | setFlag flag targetUserID value =>
    simp only [act, Hub.standing?, Hub.setFlag, Hub.voiceStates_withVoiceState]
    by_cases hu : u = targetUserID
    · rw [if_pos hu]
      cases hstate : w.hub.voiceStates.get? u with
      | none => exact .kept _
      | some state =>
        simp only [Option.map_some, ModFlag.standing_setVoiceState]
        exact .flagged (standing state) (by simp [hu])
    · rw [if_neg hu]
      exact .kept _
  | moveMember targetUserID toChannelID =>
    simp only [act]
    cases hmove : w.hub.moveMember targetUserID toChannelID with
    | none => exact .kept _
    | some h' =>
      obtain ⟨state, hstate, -, -, -, hstates, -, -⟩ := Hub.moveMember_eq_some hmove
      by_cases hu : u = targetUserID
      · have hst : h'.standing? u = some (toChannelID, (standing state).2) := by
          simp [Hub.standing?, hstates, hu, standing]
        have hst₀ : w.hub.standing? u = some (standing state) := by simp [Hub.standing?, hu, hstate]
        simp only [hst, hst₀]
        exact .moved (standing state) (by simp [hu])
      · apply VoiceChange.of_eq
        simp [Hub.standing?, hstates, hu]
  | kickMember targetUserID =>
    obtain ⟨-, -, -, -, hstates, -⟩ := w.hub.kickMember_spec targetUserID
    by_cases hu : u = targetUserID
    · have hst : (act w x (.kickMember targetUserID)).1.hub.standing? u = none := by
        simp [act, Hub.standing?, hstates, hu]
      rw [hst]
      exact .left _ (by simp [act, hu])
    · apply VoiceChange.of_eq
      simp [act, Hub.standing?, hstates, hu]
  | handleClientDisconnect c =>
    by_cases hreg : w.hub.Registered c
    · obtain ⟨hdeparted, -, -, -, hstates⟩ := Hub.handleClientDisconnect_of_registered hreg
      obtain ⟨hleaves, hu, hgone⟩ | ⟨-, hsame⟩ := hstates u
      · have hst : (act w x (.handleClientDisconnect c)).1.hub.standing? u = none := by
          simp [act, Hub.standing?, hgone]
        rw [hst]
        by_cases hactive : 0 < (w.hub.conn c).activeVoiceChannel
        · apply VoiceChange.left
          simp [act, hdeparted, hleaves.1, hactive, hu]
        · exact .dropped _ rfl hreg hleaves hactive hu
      · apply VoiceChange.of_eq
        simp [act, Hub.standing?, hsame]
    · simp only [act, Hub.handleClientDisconnect_of_not_registered hreg]
      exact .kept _
  | getSession | getUserWithRoles | createSession | getChannelByID | generateUDPToken | lookupFlag |
    activatePending | consumeVoiceToken | getByUser =>
    apply VoiceChange.of_eq
    simp only [act]
    repeat' split
    all_goals rfl
  | deleteSession | signIn | addUserClient | registerPending | removeSession | moveSession | writeFlag |
    deleteUserSessions | revokeVoiceTokens | registerSession | retune | updateAddr |
    cleanStaleSessions => exact .kept _

theorem owned_act {w : World Addr} (h : w.sessions.Owned) (x : Choice) (a : Act Addr) :
    (act w x a).1.sessions.Owned := by
  have hsame : ∀ w' : World Addr, w'.sessions = w.sessions → w'.sessions.Owned := by
    intro w' heq
    rw [heq]
    exact h
  cases a with
  | registerPending vt => exact h.of_pendingTokens _
  | removeSession userID => exact h.removeSession userID
  | moveSession targetUserID toChannelID => exact h.moveMember targetUserID toChannelID
  | writeFlag flag ref value =>
    apply h.modify ref (fun s => flag.setSession value s) <;> cases flag <;> rfl
  | retune ref channelID => exact h.modify ref (fun s => { s with channelID }) rfl rfl
  | updateAddr userID srcAddr => exact h.updateAddr x.now userID (some srcAddr)
  | cleanStaleSessions maxIdle => exact h.cleanStaleSessions x.now maxIdle
  | registerSession session => exact h.install session
  | activatePending pkt srcAddr =>
    simp only [act]
    split
    · rename_i sessions session hactivate
      obtain ⟨pt, -, -, rfl⟩ := SessionManager.activatePending_eq_ok_iff.mp hactivate
      exact SessionManager.Owned.install (h.of_pendingTokens _) _
    · rename_i sessions e hactivate
      obtain rfl | ⟨-, rfl⟩ := SessionManager.activatePending_error hactivate
      · exact h
      · exact h.of_pendingTokens _
  | getSession | getUserWithRoles | createSession | getChannelByID | joinVoice | generateUDPToken |
    moveMember | lookupFlag | consumeVoiceToken | getByUser =>
    apply hsame
    simp only [act]
    repeat' split
    all_goals rfl
  | registerClient | deleteSession | signIn | addUserClient | leaveVoice | setVoiceState | setFlag |
    deleteUserSessions | revokeVoiceTokens | kickMember | handleClientDisconnect => exact h

/-- A turn that performs an action does what `act` says. -/
theorem exists_does {k : State Addr} {t : Turn Addr} {g : Routine} {a : Act Addr}
    {w' : World Addr} {acts : List (Act Addr)} (hp : system.Performs k t g a w' acts) :
    ∃ x, Does k t a x ∧ act k.shared x a = (w', acts) := by
  obtain ⟨⟨x, hturn, hact⟩, rest, htodo, -⟩ := hp
  exact ⟨x, ⟨g, rest, hturn, htodo⟩, Option.some.inj hact⟩

theorem owned_performs {k : State Addr} {t : Turn Addr} {g : Routine} {a : Act Addr} {w' : World Addr}
    {acts : List (Act Addr)} (h : k.shared.sessions.Owned) (hp : system.Performs k t g a w' acts) :
    (system.step k t).shared.sessions.Owned := by
  obtain ⟨x, -, hact⟩ := exists_does hp
  have howned := owned_act h x a
  rwa [hact, ← hp.shared] at howned

/-- The session indexes are sound after every schedule. -/
theorem owned_after (voiceTokens : VoiceTokens) (userSessions : UserSessions) (ts : List (Turn Addr)) :
    (after (World.new voiceTokens userSessions) ts).shared.sessions.Owned := by
  refine system.run_rule (fun _ _ => True) (fun k => k.shared.sessions.Owned) SessionManager.owned_new
    ?_ ?_ ts fun _ _ _ _ => trivial
  · exact fun k r h _ _ => h
  · exact fun k t g a w' acts h _ hp => owned_performs h hp

/-- What an action can do to the audio session a user has after it. -/
inductive SessionChange (sm sm' : SessionManager Addr) (x : Choice) (a : Act Addr) (u : UInt32) :
    Option (Session Addr) → Session Addr → Prop where
  | kept (s s' : Session Addr) (hst : s'.standing = s.standing)
      (href : sm'.byUser.get? u = sm.byUser.get? u) : SessionChange sm sm' x a u (some s) s'
  | activated (before : Option (Session Addr)) (s' : Session Addr) {pkt : Packet} {srcAddr : Addr}
      {pt : PendingToken} (ha : a = .activatePending pkt srcAddr) (hu : u = pkt.senderID)
      (hlive : sm.LivePending x.now (GoBytes.trimSpace pkt.payload) pkt.senderID pkt.channelID pt)
      (hst : s'.standing = (pkt.channelID, false, false)) : SessionChange sm sm' x a u before s'
  | registered (before : Option (Session Addr)) (s' : Session Addr) (ha : a = .registerSession s')
      (hu : u = s'.userID) : SessionChange sm sm' x a u before s'
  | retuned (s s' : Session Addr) {ref : SessionRef} {room : UInt32} (ha : a = .retune ref room)
      (hu : sm.byUser.get? u = some ref) (hst : s'.standing = (room, s.flags))
      (href : sm'.byUser.get? u = sm.byUser.get? u) : SessionChange sm sm' x a u (some s) s'
  | moved (s s' : Session Addr) {room : UInt32} (ha : a = .moveSession u room)
      (hst : s'.standing = (room, s.flags)) (href : sm'.byUser.get? u = sm.byUser.get? u) :
      SessionChange sm sm' x a u (some s) s'
  | flagged (s s' : Session Addr) {flag : ModFlag} {ref : SessionRef} {value : Bool}
      (ha : a = .writeFlag flag ref value) (hu : sm.byUser.get? u = some ref)
      (hst : s'.standing = (s.channelID, flag.setPair value s.flags))
      (href : sm'.byUser.get? u = sm.byUser.get? u) : SessionChange sm sm' x a u (some s) s'

/-- The inversion of one action, for the media plane's side of a user. -/
theorem sessionChange_act {w : World Addr} (h : w.sessions.Owned) {x : Choice} {a : Act Addr} {u : UInt32}
    {s' : Session Addr} (hs : (act w x a).1.sessions.session? u = some s') :
    SessionChange w.sessions (act w x a).1.sessions x a u (w.sessions.session? u) s' := by
  have hsame : ∀ w' : World Addr, w'.sessions = w.sessions → w'.sessions.session? u = some s' →
      SessionChange w.sessions w'.sessions x a u (w.sessions.session? u) s' := by
    intro w' heq hs'
    rw [heq] at hs' ⊢
    rw [hs']
    exact .kept s' s' rfl rfl
  cases a with
  | registerPending vt =>
    have hs₀ : w.sessions.session? u = some s' := hs
    rw [hs₀]
    exact .kept s' s' rfl rfl
  | removeSession userID =>
    simp only [act, SessionManager.session?_removeSession] at hs
    split at hs
    · cases hs
    · rename_i hu
      rw [hs]
      refine .kept s' s' rfl ?_
      simp [act, hu]
  | moveSession targetUserID toChannelID =>
    simp only [act, SessionManager.session?_moveMember h] at hs
    split at hs
    · rename_i hu
      subst u
      obtain ⟨s, hs₀, rfl⟩ := Option.map_eq_some_iff.mp hs
      rw [hs₀]
      exact .moved s _ rfl rfl (by simp [act])
    · rw [hs]
      exact .kept s' s' rfl (by simp [act])
  | writeFlag flag ref value =>
    simp only [act, SessionManager.session?_modify_ref] at hs
    split at hs
    · rename_i href
      obtain ⟨s, hs₀, rfl⟩ := Option.map_eq_some_iff.mp hs
      rw [hs₀]
      exact .flagged s _ rfl href (ModFlag.standing_setSession flag value s) rfl
    · rw [hs]
      exact .kept s' s' rfl rfl
  | retune ref channelID =>
    simp only [act, SessionManager.session?_modify_ref] at hs
    split at hs
    · rename_i href
      obtain ⟨s, hs₀, rfl⟩ := Option.map_eq_some_iff.mp hs
      rw [hs₀]
      exact .retuned s _ rfl href rfl rfl
    · rw [hs]
      exact .kept s' s' rfl rfl
  | updateAddr userID srcAddr =>
    have href := SessionManager.refreshed_updateAddr h x.now userID (some srcAddr)
    have hstanding := href.standing u
    simp only [act] at hs
    rw [hs] at hstanding
    obtain ⟨s, hs₀, hst⟩ := Option.map_eq_some_iff.mp hstanding.symm
    rw [hs₀]
    exact .kept s s' hst.symm (by simp only [act, href.byUser])
  | cleanStaleSessions maxIdle =>
    have hs₀ := SessionManager.session?_of_cleanStaleSessions hs
    obtain ⟨ref, hr, -⟩ := Option.map_eq_some_iff.mp hs
    rw [hs₀]
    exact .kept s' s' rfl (hr.trans (SessionManager.byUser_of_cleanStaleSessions hr).symm)
  | registerSession session =>
    simp only [act, SessionManager.session?_install h] at hs
    split at hs
    · rename_i hu
      cases hs
      exact .registered _ s' rfl hu
    · rename_i hu
      rw [hs]
      refine .kept s' s' rfl ?_
      simp [act, hu]
  | activatePending pkt srcAddr =>
    cases hactivate : w.sessions.activatePending x.now (GoBytes.trimSpace pkt.payload) pkt.senderID
        pkt.channelID (some srcAddr) with
    | mk sessions result =>
      cases result with
      | ok session =>
        obtain ⟨pt, hlive, rfl, rfl⟩ := SessionManager.activatePending_eq_ok_iff.mp hactivate
        simp only [act, hactivate, SessionManager.session?_install (h.of_pendingTokens _)] at hs ⊢
        split at hs
        · rename_i hu
          cases hs
          exact .activated _ _ rfl hu hlive rfl
        · rename_i hu
          have hs₀ : w.sessions.session? u = some s' := hs
          rw [hs₀]
          have hne : u ≠ pkt.senderID := hu
          exact .kept s' s' rfl (by simp [newSession, hne])
      | error e =>
        simp only [act, hactivate] at hs ⊢
        have hkeeps : sessions.byUser = w.sessions.byUser ∧ sessions.heap = w.sessions.heap := by
          obtain rfl | ⟨-, rfl⟩ := SessionManager.activatePending_error hactivate <;> exact ⟨rfl, rfl⟩
        have hs₀ : w.sessions.session? u = some s' := by
          rw [← hs, SessionManager.session?, SessionManager.session?, hkeeps.1, hkeeps.2]
        rw [hs₀]
        exact .kept s' s' rfl (by rw [hkeeps.1])
  | getSession | getUserWithRoles | createSession | getChannelByID | joinVoice | generateUDPToken |
    moveMember | lookupFlag | consumeVoiceToken | getByUser =>
    refine hsame _ ?_ hs
    simp only [act]
    repeat' split
    all_goals rfl
  | registerClient | deleteSession | signIn | addUserClient | leaveVoice | setVoiceState | setFlag |
    deleteUserSessions | revokeVoiceTokens | kickMember | handleClientDisconnect => exact hsame _ rfl hs

end server

end low_latency_voice.control

import LowLatencyVoice.Control.Handler
import LowLatencyVoice.Control.HubLaws
import LowLatencyVoice.Lib.Machine

open low_latency_voice.model low_latency_voice.storage low_latency_voice.auth

namespace low_latency_voice.control

/-- The operations that change the voice state of a user who stays in voice, or
bring one in: requests of connections, and the notification of the audio router. -/
inductive VoiceOperation where
  | joinVoice (c : ClientID) (x : Env) (params : Params)
  | setVoiceState (c : ClientID) (x : Env) (params : Params)
  | setServerFlag (flag : ModFlag) (c : ClientID) (params : Params)
  | moveMember (c : ClientID) (params : Params)
  | notify (channelID userID : UInt32) (speaking : Bool) (energy : UInt8)

/-- The operations on the hub, from the connection of a user to its end. -/
inductive Operation where
  | connect (c : ClientID) (user : User)
  | voice (op : VoiceOperation)
  | leaveVoice (c : ClientID)
  | kickMember (c : ClientID) (x : Env) (params : Params)
  | disconnect (c : ClientID)

variable {Addr : Type}

/-- The guard of `HandleMessage`: no handler runs for a connection that has not
signed in. -/
def Backend.authorized (b : Backend Addr) (c : ClientID) (handled : Handled Addr) :
    Backend Addr × List Broadcast :=
  if (b.hub.conn c).isAuthenticated then (handled.backend, handled.broadcasts) else (b, [])

/-- What an operation does, with the broadcasts it hands to `Hub.Run`. -/
def VoiceOperation.perform (b : Backend Addr) : VoiceOperation → Backend Addr × List Broadcast
  | .joinVoice c x params => b.authorized c (b.handleJoinVoice x c params)
  | .setVoiceState c x params => b.authorized c (b.handleSetVoiceState x c params)
  | .setServerFlag .muted c params => b.authorized c (b.handleSetServerMute c params)
  | .setServerFlag .deafened c params => b.authorized c (b.handleSetServerDeafen c params)
  | .moveMember c params => b.authorized c (b.handleMoveMember c params)
  | .notify channelID userID speaking energy =>
    ({ b with hub := (b.hub.broadcastVoiceState channelID userID speaking energy).1 },
      (b.hub.broadcastVoiceState channelID userID speaking energy).2)

def Operation.perform [DecidableEq Addr] (go : GoLibrary) (b : Backend Addr) :
    Operation → Backend Addr × List Broadcast
  | .connect c user =>
    ({ b with hub := b.hub.registerClient c }.signIn c user,
      [broadcastEvent (.presenceUpdate user.id user.username true)])
  | .voice op => op.perform b
  | .leaveVoice c => b.authorized c (b.handleLeaveVoice c)
  | .kickMember c x params => b.authorized c (b.handleKickMember go x c params)
  | .disconnect c => b.unregisterClient c

/-- The hub under the operations that concern flags. -/
def voiceMachine : Machine (Backend Addr) VoiceOperation (List Broadcast) where
  step b op := op.perform b

/-- The hub under every operation. -/
def hubMachine [DecidableEq Addr] (go : GoLibrary) : Machine (Backend Addr) Operation (List Broadcast) where
  step b op := op.perform go b

/-- The connection is up, and it is in the channel already or finds a free place. -/
def Hub.HasRoomFor (h : Hub) (c : ClientID) (channelID : UInt32) (channel : Channel) : Prop :=
  h.Registered c ∧ (h.conn c).closed = false ∧
    (h.InRoom channelID c ∨ ((h.voiceChannels.get? channelID).getD ∅).len < roomLimit channel)

namespace Backend

/-- The request passes every check of `handleJoinVoice`. -/
def Admits (b : Backend Addr) (x : Env) (c : ClientID) (params : Params) : Prop :=
  (b.hub.conn c).isAuthenticated = true ∧ hasPermission (b.hub.conn c).permissions permConnectVoice = true ∧
    getUInt32 params "channel_id" ≠ 0 ∧ ∃ row,
      (if x.fails .getChannelByID then none else b.database.getChannelByID (getUInt32 params "channel_id")) =
        some row ∧ row.type = "voice" ∧
      b.hub.HasRoomFor c (getUInt32 params "channel_id") ⟨row.type, row.userLimit⟩

/-- A voice token is issued for the request. -/
def issuesToken (b : Backend Addr) (x : Env) (c : ClientID) (params : Params) : Bool :=
  (generateUDPToken b.voiceTokens x (b.hub.conn c).userID (getUInt32 params "channel_id")).2.isSome

end Backend

namespace Hub

theorem room?_withVoiceState (h : Hub) (u : UInt32) {f : VoiceState → VoiceState}
    (hf : ∀ state, (f state).channelID = state.channelID) : (h.withVoiceState u f).room? = h.room? := by
  funext v
  unfold room?
  rw [voiceStates_withVoiceState]
  split
  · rw [Option.map_map]
    congr 1
    funext state
    exact hf state
  · rfl

theorem flag?_withVoiceState (h : Hub) (u : UInt32) {f : VoiceState → VoiceState} (flag : ModFlag)
    (hf : ∀ state, flag.ofVoiceState (f state) = flag.ofVoiceState state) :
    (h.withVoiceState u f).flag? flag = h.flag? flag := by
  funext v
  unfold flag?
  rw [voiceStates_withVoiceState]
  split
  · rw [Option.map_map]
    congr 1
    funext state
    exact hf state
  · rfl

@[simp] theorem room?_setVoiceState (h : Hub) (now : Time) (c : ClientID)
    (selfMuted selfDeafened isSpeaking : Bool) :
    (h.setVoiceState now c selfMuted selfDeafened isSpeaking).room? = h.room? :=
  h.room?_withVoiceState _ fun _ => rfl

@[simp] theorem flag?_setVoiceState (h : Hub) (now : Time) (c : ClientID)
    (selfMuted selfDeafened isSpeaking : Bool) (flag : ModFlag) :
    (h.setVoiceState now c selfMuted selfDeafened isSpeaking).flag? flag = h.flag? flag :=
  h.flag?_withVoiceState _ flag fun _ => by cases flag <;> rfl

@[simp] theorem room?_broadcastVoiceState (h : Hub) (channelID userID : UInt32) (speaking : Bool)
    (energy : UInt8) : (h.broadcastVoiceState channelID userID speaking energy).1.room? = h.room? :=
  h.room?_withVoiceState _ fun _ => rfl

@[simp] theorem flag?_broadcastVoiceState (h : Hub) (channelID userID : UInt32) (speaking : Bool)
    (energy : UInt8) (flag : ModFlag) :
    (h.broadcastVoiceState channelID userID speaking energy).1.flag? flag = h.flag? flag :=
  h.flag?_withVoiceState _ flag fun _ => by cases flag <;> rfl

@[simp] theorem room?_setFlag (h : Hub) (flag : ModFlag) (u : UInt32) (value : Bool) :
    (h.setFlag flag u value).room? = h.room? :=
  h.room?_withVoiceState _ fun _ => by cases flag <;> rfl

/-- A moderator's write leaves the other flag alone, and the other users. -/
theorem flag?_setFlag (h : Hub) (flag flag' : ModFlag) (u v : UInt32) (value : Bool) :
    (h.setFlag flag u value).flag? flag' v =
      if v = u ∧ flag' = flag then (h.flag? flag' v).map fun _ => value else h.flag? flag' v := by
  unfold flag? setFlag
  rw [voiceStates_withVoiceState]
  by_cases hv : v = u
  · rw [if_pos hv]
    cases h.voiceStates.get? v with
    | none => simp
    | some state => cases flag <;> cases flag' <;> simp [hv, ModFlag.ofVoiceState, ModFlag.setVoiceState]
  · rw [if_neg hv, if_neg fun hcase => hv hcase.1]

theorem room?_eq_none_iff (h : Hub) (flag : ModFlag) (u : UInt32) :
    h.room? u = none ↔ h.flag? flag u = none := by
  simp [room?, flag?]

/-- The checks of the hub region of `join_voice`. -/
theorem joinVoice_isOk_iff (h : Hub) (now : Time) (c : ClientID) (channelID : UInt32) (channel : Channel)
    (selfMuted selfDeafened : Bool) :
    (∃ h', h.joinVoice now c channelID channel selfMuted selfDeafened = .ok h') ↔
      h.HasRoomFor c channelID channel := by
  have hin : h.InRoom channelID c ↔ h.voiceChannels.get₂ channelID c ≠ none := by
    unfold InRoom
    cases h.voiceChannels.get₂ channelID c <;> simp
  unfold joinVoice HasRoomFor
  rw [hin]
  simp only
  by_cases hgone : h.clients.get? c = none ∨ (h.conn c).closed = true
  · rw [if_pos hgone]
    refine iff_of_false (by simp) ?_
    rintro ⟨hreg, hopen, -⟩
    obtain hnone | hclosed := hgone
    · exact get?_eq_none_iff_not_registered.mp hnone hreg
    · rw [hopen] at hclosed
      cases hclosed
  rw [if_neg hgone]
  rw [not_or, get?_eq_none_iff_not_registered, not_not, Bool.not_eq_true] at hgone
  by_cases hfull : roomLimit channel ≤ ((h.voiceChannels.get? channelID).getD ∅).len ∧
      h.voiceChannels.get₂ channelID c = none
  · rw [if_pos hfull]
    refine iff_of_false (by simp) ?_
    rintro ⟨-, -, hinside | hfree⟩
    · exact hinside hfull.2
    · exact absurd hfull.1 (by omega)
  · rw [if_neg hfull]
    refine iff_of_true ⟨_, rfl⟩ ⟨hgone.1, hgone.2, ?_⟩
    by_cases hinside : h.voiceChannels.get₂ channelID c = none
    · exact .inr (by by_contra hle; exact hfull ⟨by omega, hinside⟩)
    · exact .inl hinside

/-- After an admitted `join_voice` the user is in the channel, with both flags off. -/
theorem room?_joinVoice {h h' : Hub} {now : Time} {c : ClientID} {channelID : UInt32} {channel : Channel}
    {selfMuted selfDeafened : Bool}
    (hok : h.joinVoice now c channelID channel selfMuted selfDeafened = .ok h') :
    h'.room? = Function.update h.room? (h.conn c).userID (some channelID) ∧
      ∀ flag, h'.flag? flag = Function.update (h.flag? flag) (h.conn c).userID (some false) := by
  obtain ⟨-, -, -, -, -, ⟨state, hstates, hroom, hflags⟩, -⟩ := joinVoice_ok hok
  constructor
  · unfold room?
    rw [hstates, GoMap.map_get?_set, hroom]
  · intro flag
    unfold flag?
    rw [hstates, GoMap.map_get?_set, hflags flag]

/-- After an accepted `move_member` the user is in the new channel, with the flags
there were. -/
theorem room?_moveMember {h h' : Hub} {u room : UInt32} (hmove : h.moveMember u room = some h') :
    h'.room? = Function.update h.room? u (some room) ∧ ∀ flag, h'.flag? flag = h.flag? flag := by
  obtain ⟨state, hstate, -, -, -, hstates, -⟩ := moveMember_eq_some hmove
  constructor
  · unfold room?
    rw [hstates, GoMap.map_get?_set]
  · intro flag
    unfold flag?
    rw [hstates, GoMap.map_get?_set, Function.update_eq_self_iff, hstate]
    cases flag <;> rfl

theorem room?_leaveVoice {h : Hub} {c : ClientID} (hactive : 0 < (h.conn c).activeVoiceChannel) :
    (h.leaveVoice c).room? = Function.update h.room? (h.conn c).userID none := by
  rw [leaveVoice_of_pos hactive]
  exact GoMap.map_get?_delete h.voiceStates (h.conn c).userID VoiceState.channelID

/-- A user who is in no channel cannot be moved. -/
theorem moveMember_eq_none_iff (h : Hub) (u room : UInt32) :
    h.moveMember u room = none ↔ h.room? u = none ∨ h.room? u = some 0 := by
  unfold moveMember room?
  cases h.voiceStates.get? u with
  | none => simp
  | some state => by_cases hzero : state.channelID = 0 <;> simp [hzero]

end Hub

section perform

variable (b : Backend Addr) (c : ClientID) (x : Env) (params : Params)

theorem admits_iff : b.Admits x c params ↔ (b.hub.conn c).isAuthenticated = true ∧
    ∃ row hub, b.JoinsVoice x c params row hub := by
  constructor
  · intro hadmits
    obtain ⟨hauth, hallowed, hchannel, row, hrow, hvoice, hroom⟩ := hadmits
    obtain ⟨hub, hjoined⟩ := (Hub.joinVoice_isOk_iff _ x.now _ _ _ (getBool params "self_muted")
      (getBool params "self_deafened")).mpr hroom
    split at hrow
    · cases hrow
    · rename_i hcall
      exact ⟨hauth, row, hub, hallowed, hchannel, by simpa using hcall, hrow, hvoice, hjoined⟩
  · intro hjoins
    obtain ⟨hauth, row, hub, hjoins⟩ := hjoins
    refine ⟨hauth, hjoins.allowed, hjoins.channelID, row, ?_, hjoins.voice,
      (Hub.joinVoice_isOk_iff _ _ _ _ _ _ _).mp ⟨hub, hjoins.joined⟩⟩
    simpa [hjoins.lookup] using hjoins.found

/-- A `join_voice` is refused, or admitted. The room is told of an admitted one only
if a voice token is issued for it. -/
theorem perform_joinVoice :
    ¬ b.Admits x c params ∧ ((VoiceOperation.joinVoice c x params).perform b).1.hub = b.hub ∧
        ((VoiceOperation.joinVoice c x params).perform b).2 = [] ∨
      b.Admits x c params ∧
        (∃ channel, b.hub.joinVoice x.now c (getUInt32 params "channel_id") channel
          (getBool params "self_muted") (getBool params "self_deafened") =
            .ok ((VoiceOperation.joinVoice c x params).perform b).1.hub) ∧
        ((VoiceOperation.joinVoice c x params).perform b).2 =
          if b.issuesToken x c params then
            [broadcastEvent (.voiceStateUpdate (.joined (b.hub.conn c).userID (b.hub.conn c).username
              (getUInt32 params "channel_id") (getBool params "self_muted")
              (getBool params "self_deafened")))]
          else [] := by
  rw [admits_iff]
  simp only [VoiceOperation.perform, Backend.authorized]
  by_cases hauth : (b.hub.conn c).isAuthenticated = true
  swap
  · rw [if_neg hauth]
    exact .inl ⟨fun hadmits => hauth hadmits.1, rfl, rfl⟩
  simp only [hauth, if_true, true_and]
  obtain ⟨hrefused, hbackend, hbroadcasts⟩ | ⟨row, hub, hjoins, hcases⟩ := b.handleJoinVoice_cases x c params
  · exact .inl ⟨fun ⟨row, hub, hjoins⟩ => hrefused row hub hjoins, by rw [hbackend], hbroadcasts⟩
  refine .inr ⟨⟨row, hub, hjoins⟩, ?_⟩
  unfold Backend.issuesToken
  obtain ⟨voiceTokens, htoken, hbackend, hbroadcasts⟩ | ⟨voiceTokens, vt, htoken, hbackend, hbroadcasts⟩ :=
    hcases
  · rw [htoken, hbackend, hbroadcasts]
    exact ⟨⟨_, hjoins.joined⟩, rfl⟩
  · rw [htoken, hbackend, hbroadcasts]
    exact ⟨⟨_, hjoins.joined⟩, rfl⟩

theorem perform_setVoiceState :
    ((VoiceOperation.setVoiceState c x params).perform b).1.hub.room? = b.hub.room? ∧
      (∀ flag, ((VoiceOperation.setVoiceState c x params).perform b).1.hub.flag? flag = b.hub.flag? flag) ∧
      ((VoiceOperation.setVoiceState c x params).perform b).2 =
        if (b.hub.conn c).isAuthenticated then
          [broadcastEvent (.voiceStateUpdate (.changed (b.hub.conn c).userID (b.hub.conn c).username
            (b.hub.conn c).activeVoiceChannel (getBool params "self_muted") (getBool params "self_deafened")
            (getBool params "is_speaking")))]
        else [] := by
  by_cases hauth : (b.hub.conn c).isAuthenticated = true <;>
    simp [VoiceOperation.perform, Backend.authorized, Backend.handleSetVoiceState, hauth]

/-- The connection may set the flag. -/
def Backend.maySet (b : Backend Addr) (c : ClientID) (flag : ModFlag) : Bool :=
  (b.hub.conn c).isAuthenticated && hasPermission (b.hub.conn c).permissions flag.permission

/-- The parameter that carries the value of the flag. -/
def ModFlag.key : ModFlag → String
  | .muted => "muted"
  | .deafened => "deafened"

theorem perform_setServerFlag (flag : ModFlag) :
    ((VoiceOperation.setServerFlag flag c params).perform b).1.hub =
      (if b.maySet c flag then b.hub.setFlag flag (getUInt32 params "target_user_id")
        (getBool params flag.key)
        else b.hub) ∧
    ((VoiceOperation.setServerFlag flag c params).perform b).2 =
      if b.maySet c flag then
        [broadcastEvent (.voiceStateUpdate
          (.flagged (getUInt32 params "target_user_id") flag (getBool params flag.key)))]
      else [] := by
  unfold Backend.maySet
  cases hauth : (b.hub.conn c).isAuthenticated with
  | false => cases flag <;> exact ⟨by simp [VoiceOperation.perform, Backend.authorized, hauth],
      by simp [VoiceOperation.perform, Backend.authorized, hauth]⟩
  | true =>
    cases hallowed : hasPermission (b.hub.conn c).permissions flag.permission <;> cases flag <;>
      simp [VoiceOperation.perform, Backend.authorized, Backend.handleSetServerMute,
        Backend.handleSetServerDeafen, Backend.handleSetServerFlag, Backend.refuse, ModFlag.key, hauth,
        hallowed]

/-- The connection may move members. -/
def Backend.mayMove (b : Backend Addr) (c : ClientID) : Bool :=
  (b.hub.conn c).isAuthenticated && hasPermission (b.hub.conn c).permissions permMoveMembers

theorem perform_moveMember :
    (b.mayMove c = true → b.hub.room? (getUInt32 params "target_user_id") = none ∨
          b.hub.room? (getUInt32 params "target_user_id") = some 0) ∧
        ((VoiceOperation.moveMember c params).perform b).1.hub = b.hub ∧
        ((VoiceOperation.moveMember c params).perform b).2 = [] ∨
      b.mayMove c = true ∧
        b.hub.moveMember (getUInt32 params "target_user_id") (getUInt32 params "to_channel_id") =
          some ((VoiceOperation.moveMember c params).perform b).1.hub ∧
        ∃ fromChannelID, ((VoiceOperation.moveMember c params).perform b).2 =
          [broadcastEvent (.memberMoved (getUInt32 params "target_user_id") fromChannelID
            (getUInt32 params "to_channel_id")),
          broadcastEvent (.voiceStateUpdate (.moved (getUInt32 params "target_user_id")
            (getUInt32 params "to_channel_id")))] := by
  unfold Backend.mayMove
  simp only [VoiceOperation.perform, Backend.authorized]
  cases hauth : (b.hub.conn c).isAuthenticated with
  | false => exact .inl ⟨by simp, rfl, rfl⟩
  | true =>
    simp only [if_true, Bool.true_and, Backend.handleMoveMember]
    cases hallowed : hasPermission (b.hub.conn c).permissions permMoveMembers with
    | false => exact .inl ⟨by simp, rfl, rfl⟩
    | true =>
      simp only [Bool.not_true, Bool.false_eq_true, if_false]
      cases hmove : b.hub.moveMember (getUInt32 params "target_user_id")
        (getUInt32 params "to_channel_id") with
      | none => exact .inl ⟨fun _ => (b.hub.moveMember_eq_none_iff _ _).mp hmove, rfl, rfl⟩
      | some hub => exact .inr ⟨trivial, rfl, _, rfl⟩

/-- A connection that has signed in is in a channel. -/
def Hub.inVoice (h : Hub) (c : ClientID) : Bool :=
  (h.conn c).isAuthenticated && decide (0 < (h.conn c).activeVoiceChannel)

variable [DecidableEq Addr] (go : GoLibrary)

theorem perform_leaveVoice :
    ((Operation.leaveVoice c).perform go b).1.hub = (if b.hub.inVoice c then b.hub.leaveVoice c else b.hub) ∧
      ((Operation.leaveVoice c).perform go b).2 =
        if b.hub.inVoice c then
          [broadcastEvent (.voiceStateUpdate (.left (b.hub.conn c).userID (some (b.hub.conn c).username)))]
        else [] := by
  unfold Hub.inVoice
  simp only [Operation.perform, Backend.authorized, Backend.handleLeaveVoice]
  cases hauth : (b.hub.conn c).isAuthenticated with
  | false => exact ⟨rfl, rfl⟩
  | true =>
    by_cases hactive : 0 < (b.hub.conn c).activeVoiceChannel
    · simp [hactive]
    · simp [hactive, Hub.leaveVoice_of_not_pos hactive]

/-- The end of a registered connection takes its user out of voice if it is in a
channel or is the last one; only the first is told to everybody. -/
theorem unregisterClient_spec :
    (b.hub.Registered c ∧ b.hub.LeavesVoice c →
      (b.unregisterClient c).1.hub.room? = Function.update b.hub.room? (b.hub.conn c).userID none) ∧
    (¬ (b.hub.Registered c ∧ b.hub.LeavesVoice c) → (b.unregisterClient c).1.hub.room? = b.hub.room?) ∧
    ∃ presence, (b.unregisterClient c).2 = (if b.hub.Registered c ∧ b.hub.inVoice c then
        [broadcastEvent (.voiceStateUpdate (.left (b.hub.conn c).userID (some (b.hub.conn c).username)))]
        else []) ++ presence ∧
      ∀ e ∈ presence, ∃ userID username online,
        e = broadcastEvent (.presenceUpdate userID username online) := by
  unfold Backend.unregisterClient
  by_cases hreg : b.hub.Registered c
  swap
  · rw [if_pos (Hub.get?_eq_none_iff_not_registered.mpr hreg)]
    exact ⟨fun hcase => absurd hcase.1 hreg, fun _ => rfl, [], by simp [hreg], by simp⟩
  have hsome : b.hub.clients.get? c ≠ none := fun hnone => Hub.get?_eq_none_iff_not_registered.mp hnone hreg
  obtain ⟨hdeparted, -, -, -, hstates⟩ := Hub.handleClientDisconnect_of_registered hreg
  have hleft : b.hub.Registered c ∧ b.hub.LeavesVoice c →
      (b.hub.handleClientDisconnect c).1.room? = Function.update b.hub.room? (b.hub.conn c).userID none := by
    intro hleaves
    funext v
    unfold Hub.room?
    obtain ⟨-, rfl, hgone⟩ | ⟨hstays, hkept⟩ := hstates v
    · rw [hgone, Function.update_self]
      rfl
    · rw [hkept, Function.update_of_ne fun hv => hstays ⟨hleaves.2, hv⟩]
  have hstayed : ¬ (b.hub.Registered c ∧ b.hub.LeavesVoice c) →
      (b.hub.handleClientDisconnect c).1.room? = b.hub.room? := by
    intro hstays
    funext v
    unfold Hub.room?
    obtain ⟨hleaves, -, -⟩ | ⟨-, hkept⟩ := hstates v
    · exact absurd ⟨hreg, hleaves⟩ hstays
    · rw [hkept]
  rw [if_neg hsome]
  simp only [hdeparted]
  unfold Hub.inVoice
  cases hauth : (b.hub.conn c).isAuthenticated with
  | false => exact ⟨hleft, hstayed, [], by simp, by simp⟩
  | true =>
    simp only [if_true]
    refine ⟨hleft, hstayed, if (b.hub.handleClientDisconnect c).1.clientsOf (b.hub.conn c).userID = [] then
      [broadcastEvent (.presenceUpdate (b.hub.conn c).userID (b.hub.conn c).username false)] else [], ?_, ?_⟩
    · simp [hreg]
    · intro e he
      split at he
      · exact ⟨_, _, _, List.mem_singleton.mp he⟩
      · cases he

end perform

section users

/-- No connection is listed under a user it is not signed in as. -/
def Hub.ListsOwn (h : Hub) : Prop := ∀ u c, h.Listed u c → h.AuthenticatedAs u c

/-- Nobody signs in between the two hubs. -/
structure Hub.SameUsers (h h' : Hub) : Prop where
  listed : ∀ u c, h'.Listed u c → h.Listed u c
  identity : ∀ u c, h'.AuthenticatedAs u c ↔ h.AuthenticatedAs u c

namespace Hub

theorem SameUsers.refl (h : Hub) : h.SameUsers h := ⟨fun _ _ => id, fun _ _ => Iff.rfl⟩

theorem SameUsers.trans {h h' h'' : Hub} (hfirst : h.SameUsers h') (hsecond : h'.SameUsers h'') :
    h.SameUsers h'' :=
  ⟨fun u c hlisted => hfirst.listed u c (hsecond.listed u c hlisted),
    fun u c => (hsecond.identity u c).trans (hfirst.identity u c)⟩

theorem ListsOwn.of_sameUsers {h h' : Hub} (hown : h.ListsOwn) (hsame : h.SameUsers h') : h'.ListsOwn :=
  fun u c hlisted => (hsame.identity u c).mpr (hown u c (hsame.listed u c hlisted))

/-- Writes to the active channel of connections do not change who they are. -/
theorem sameUsers_of_conn {h h' : Hub} (husers : h'.userClients = h.userClients)
    (hconn : ∀ c, (h'.conn c).isAuthenticated = (h.conn c).isAuthenticated ∧
      (h'.conn c).userID = (h.conn c).userID) : h.SameUsers h' where
  listed u c hlisted := by
    unfold Listed at hlisted ⊢
    rwa [husers] at hlisted
  identity u c := by
    unfold AuthenticatedAs
    rw [(hconn c).1, (hconn c).2]

theorem sameUsers_withVoiceState (h : Hub) (u : UInt32) (f : VoiceState → VoiceState) :
    h.SameUsers (h.withVoiceState u f) := by
  obtain ⟨-, husers, -, hconn⟩ := h.withVoiceState_fields u f
  exact sameUsers_of_conn husers fun c => by rw [hconn]; exact ⟨rfl, rfl⟩

theorem sameUsers_joinVoice {h h' : Hub} {now : Time} {c : ClientID} {channelID : UInt32} {channel : Channel}
    {selfMuted selfDeafened : Bool}
    (hok : h.joinVoice now c channelID channel selfMuted selfDeafened = .ok h') : h.SameUsers h' := by
  obtain ⟨-, -, -, husers, hconn, -⟩ := joinVoice_ok hok
  refine sameUsers_of_conn husers ?_
  intro c'
  rw [hconn]
  by_cases hc : c' = c
  · subst c'
    simp
  · simp [hc]

theorem sameUsers_leaveVoice (h : Hub) (c : ClientID) : h.SameUsers (h.leaveVoice c) := by
  by_cases hactive : 0 < (h.conn c).activeVoiceChannel
  · rw [leaveVoice_of_pos hactive]
    refine sameUsers_of_conn rfl ?_
    intro c'
    by_cases hc : c' = c
    · subst c'
      simp
    · simp [hc]
  · rw [leaveVoice_of_not_pos hactive]
    exact .refl h

theorem sameUsers_moveMember {h h' : Hub} {u room : UInt32} (hmove : h.moveMember u room = some h') :
    h.SameUsers h' := by
  obtain ⟨state, -, -, -, husers, -, hconn, -⟩ := moveMember_eq_some hmove
  refine sameUsers_of_conn husers ?_
  intro c
  rw [hconn]
  split <;> exact ⟨rfl, rfl⟩

theorem sameUsers_handleClientDisconnect (h : Hub) (c : ClientID) :
    h.SameUsers (h.handleClientDisconnect c).1 := by
  by_cases hreg : h.Registered c
  · obtain ⟨-, -, hlisted, -⟩ := handleClientDisconnect_of_registered hreg
    refine ⟨fun u c' hc' => ((hlisted u c').mp hc').1, ?_⟩
    intro u c'
    unfold AuthenticatedAs
    rw [conn_handleClientDisconnect]
    split
    · rfl
    · by_cases hc : c' = c
      · subst c'
        simp
      · simp [hc]
  · rw [handleClientDisconnect_of_not_registered hreg]
    exact .refl h

end Hub

variable [DecidableEq Addr]

theorem sameUsers_unregisterClient (b : Backend Addr) (c : ClientID) :
    b.hub.SameUsers (b.unregisterClient c).1.hub := by
  unfold Backend.unregisterClient
  simp only
  split
  · exact .refl _
  · split <;> exact b.hub.sameUsers_handleClientDisconnect c

/-- Closing the connections of a user who is out of voice moves nobody, and tells
nothing but that the user is gone. -/
theorem foldl_closeClient {u : UInt32} {h : Hub} (hroom : h.room? u = none) (cs : List ClientID) :
    ∀ acc : Backend Addr × List Broadcast, (∀ c ∈ cs, h.AuthenticatedAs u c) → h.SameUsers acc.1.hub →
      acc.1.hub.room? = h.room? → (∀ e ∈ acc.2, e.event.Frees u) →
      h.SameUsers (cs.foldl Backend.closeClient acc).1.hub ∧
        (cs.foldl Backend.closeClient acc).1.hub.room? = h.room? ∧
        ∀ e ∈ (cs.foldl Backend.closeClient acc).2, e.event.Frees u := by
  induction cs with
  | nil => exact fun acc _ hsame hrooms htold => ⟨hsame, hrooms, htold⟩
  | cons c cs ih =>
    intro acc hmine hsame hrooms htold
    have huser : (acc.1.hub.conn c).userID = u := ((hsame.identity u c).mpr (hmine c List.mem_cons_self)).2
    obtain ⟨hleft, hstayed, presence, htells, hpresence⟩ := unregisterClient_spec acc.1 c
    rw [List.foldl_cons]
    refine ih _ (fun c' hc' => hmine c' (List.mem_cons_of_mem c hc')) ?_ ?_ ?_
    · exact hsame.trans (sameUsers_unregisterClient acc.1 c)
    · unfold Backend.closeClient
      by_cases hleaves : acc.1.hub.Registered c ∧ acc.1.hub.LeavesVoice c
      · simp only [hleft hleaves, huser, hrooms]
        rw [← hroom, Function.update_eq_self]
      · simp only [hstayed hleaves, hrooms]
    · intro e he
      unfold Backend.closeClient at he
      simp only [htells, huser] at he
      rw [List.mem_append, List.mem_append] at he
      obtain hold | hnew | hnew := he
      · exact htold e hold
      · split at hnew
        · rw [List.mem_singleton.mp hnew]
          exact .inr rfl
        · cases hnew
      · obtain ⟨_, _, _, rfl⟩ := hpresence e hnew
        exact .inl rfl

/-- A kick is refused, or takes the user out of voice and says nothing else than
that. -/
theorem perform_kickMember (go : GoLibrary) (b : Backend Addr) (c : ClientID) (x : Env) (params : Params)
    (hown : b.hub.ListsOwn) :
    ((Operation.kickMember c x params).perform go b).1.hub = b.hub ∧
        ((Operation.kickMember c x params).perform go b).2 = [] ∨
      b.hub.SameUsers ((Operation.kickMember c x params).perform go b).1.hub ∧
        ((Operation.kickMember c x params).perform go b).1.hub.room? =
          Function.update b.hub.room? (getUInt32 params "target_user_id") none ∧
        (∀ e ∈ ((Operation.kickMember c x params).perform go b).2,
          e.event.Frees (getUInt32 params "target_user_id")) ∧
        ∃ reason, broadcastEvent (.memberKicked (getUInt32 params "target_user_id") reason) ∈
          ((Operation.kickMember c x params).perform go b).2 := by
  simp only [Operation.perform, Backend.authorized]
  split
  swap
  · exact .inl ⟨rfl, rfl⟩
  unfold Backend.handleKickMember
  simp only
  split
  · exact .inl ⟨rfl, rfl⟩
  split
  · exact .inl ⟨rfl, rfl⟩
  refine .inr ?_
  generalize getUInt32 params "target_user_id" = u
  obtain ⟨hclose, -, husers, hconn, hstates, -⟩ := b.hub.kickMember_spec u
  have hkicked : b.hub.SameUsers (b.hub.kickMember u).1 :=
    Hub.sameUsers_of_conn husers fun c => by rw [hconn]; exact ⟨rfl, rfl⟩
  have hroom : (b.hub.kickMember u).1.room? = Function.update b.hub.room? u none := by
    funext v
    unfold Hub.room?
    rw [hstates]
    by_cases hv : v = u
    · subst v
      simp
    · simp [hv]
  have hmine : ∀ c ∈ visits x.order (b.hub.kickMember u).2, (b.hub.kickMember u).1.AuthenticatedAs u c := by
    intro c hc
    rw [mem_visits, hclose, Hub.mem_clientsOf] at hc
    exact (hkicked.identity u c).mpr (hown u c hc)
  have hclosed : ∀ (kicked : Backend Addr) (tail : List Broadcast), kicked.hub = (b.hub.kickMember u).1 →
      (∀ e ∈ tail, e.event.Frees u) → ∀ reason,
      let closed := (visits x.order (b.hub.kickMember u).2).foldl Backend.closeClient (kicked, [])
      b.hub.SameUsers closed.1.hub ∧ closed.1.hub.room? = Function.update b.hub.room? u none ∧
        (∀ e ∈ closed.2 ++ broadcastEvent (.memberKicked u reason) :: tail, e.event.Frees u) ∧
        ∃ reason', broadcastEvent (.memberKicked u reason') ∈
          closed.2 ++ broadcastEvent (.memberKicked u reason) :: tail := by
    intro kicked tail hhub htail reason
    obtain ⟨hsame, hrooms, htold⟩ := foldl_closeClient (by rw [hroom, Function.update_self]) _ (kicked, [])
      hmine (hhub ▸ .refl _) (by rw [hhub]) (by simp)
    refine ⟨hkicked.trans hsame, hrooms.trans hroom, ?_, reason, by simp⟩
    intro e he
    rw [List.mem_append, List.mem_cons] at he
    obtain hclose | rfl | hlast := he
    · exact htold e hclose
    · exact .inr rfl
    · exact htail e hlast
  refine hclosed _ _ rfl ?_ _
  intro e he
  split at he
  · rw [List.mem_singleton.mp he]
    exact .inr rfl
  · cases he

omit [DecidableEq Addr] in
/-- No operation but a connection's sign-in changes who is connected as whom. -/
theorem VoiceOperation.sameUsers_perform (b : Backend Addr) (op : VoiceOperation) :
    b.hub.SameUsers (op.perform b).1.hub := by
  cases op with
  | joinVoice c x params =>
    obtain ⟨-, hhub, -⟩ | ⟨-, ⟨channel, hjoin⟩, -⟩ := perform_joinVoice b c x params
    · rw [hhub]
      exact .refl _
    · exact Hub.sameUsers_joinVoice hjoin
  | setVoiceState c x params =>
    simp only [VoiceOperation.perform, Backend.authorized]
    split
    · exact b.hub.sameUsers_withVoiceState _ _
    · exact .refl _
  | setServerFlag flag c params =>
    rw [(perform_setServerFlag b c params flag).1]
    split
    · exact b.hub.sameUsers_withVoiceState _ _
    · exact .refl _
  | moveMember c params =>
    obtain ⟨-, hhub, -⟩ | ⟨-, hmove, -⟩ := perform_moveMember b c params
    · rw [hhub]
      exact .refl _
    · exact Hub.sameUsers_moveMember hmove
  | notify channelID userID speaking energy => exact b.hub.sameUsers_withVoiceState _ _

/-- Users have one connection each: a connection signs in once, as a user who is not
connected. -/
def SingleConnection (b : Backend Addr) : Operation → Prop
  | .connect c user => (b.hub.conn c).isAuthenticated = false ∧
      ∀ c', b.hub.Registered c' → ¬ b.hub.AuthenticatedAs user.id c'
  | _ => True

theorem Operation.listsOwn_perform (go : GoLibrary) (b : Backend Addr) (op : Operation)
    (hsingle : SingleConnection b op) (hown : b.hub.ListsOwn) : (op.perform go b).1.hub.ListsOwn := by
  cases op with
  | connect c user =>
    have hreg : (b.hub.registerClient c).userClients = b.hub.userClients ∧
        (b.hub.registerClient c).conn = b.hub.conn := by
      unfold Hub.registerClient
      split <;> exact ⟨rfl, rfl⟩
    intro u c' hlisted
    have hconn : ((Operation.connect c user).perform go b).1.hub.conn =
        Function.update b.hub.conn c ((b.hub.conn c).signIn user) := by
      rw [← hreg.2]
      rfl
    have hwas : u = user.id ∧ c' = c ∨ b.hub.Listed u c' := by
      unfold Hub.Listed
      rw [← hreg.1]
      exact Hub.listed_addUserClient.mp hlisted
    unfold Hub.AuthenticatedAs
    rw [hconn]
    by_cases hc : c' = c
    · subst c'
      obtain ⟨rfl, -⟩ | hold := hwas
      · rw [Function.update_self]
        exact ⟨rfl, rfl⟩
      · have hauth := (hown u c hold).1
        rw [hsingle.1] at hauth
        cases hauth
    · rw [Function.update_of_ne hc]
      exact hown u c' (hwas.resolve_left fun hnew => hc hnew.2)
  | voice op => exact hown.of_sameUsers (op.sameUsers_perform b)
  | leaveVoice c =>
    rw [(perform_leaveVoice b c go).1]
    split
    · exact hown.of_sameUsers (b.hub.sameUsers_leaveVoice c)
    · exact hown
  | kickMember c x params =>
    obtain ⟨hhub, -⟩ | ⟨hsame, -⟩ := perform_kickMember go b c x params hown
    · rw [hhub]
      exact hown
    · exact hown.of_sameUsers hsame
  | disconnect c => exact hown.of_sameUsers (sameUsers_unregisterClient b c)

end users

end low_latency_voice.control

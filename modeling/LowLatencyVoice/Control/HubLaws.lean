import LowLatencyVoice.Control.Hub

open low_latency_voice.model

namespace low_latency_voice.control.Hub

/-- The connection is in `h.clients`. -/
def Registered (h : Hub) (c : ClientID) : Prop := h.clients.get? c = some ()

instance (h : Hub) (c : ClientID) : Decidable (h.Registered c) := inferInstanceAs (Decidable (_ = _))

/-- The connection is authenticated as the user. -/
def AuthenticatedAs (h : Hub) (u : UInt32) (c : ClientID) : Prop :=
  (h.conn c).isAuthenticated = true ∧ (h.conn c).userID = u

/-- `userClients` lists the connection under the user. -/
def Listed (h : Hub) (userID : UInt32) (c : ClientID) : Prop := h.userClients.get₂ userID c = some ()

/-- The connection is in the set of a voice channel. -/
def InRoom (h : Hub) (channelID : UInt32) (c : ClientID) : Prop :=
  h.voiceChannels.get₂ channelID c = some ()

/-- The room the control plane has for a user. -/
def room? (h : Hub) (userID : UInt32) : Option UInt32 :=
  (h.voiceStates.get? userID).map VoiceState.channelID

/-- A flag as the control plane has it. -/
def flag? (h : Hub) (flag : ModFlag) (userID : UInt32) : Option Bool :=
  (h.voiceStates.get? userID).map flag.ofVoiceState

theorem get?_eq_none_iff_not_registered {h : Hub} {c : ClientID} :
    h.clients.get? c = none ↔ ¬ h.Registered c := by
  unfold Registered
  cases h.clients.get? c <;> simp

theorem mem_clientsOf {h : Hub} {userID : UInt32} {c : ClientID} :
    c ∈ h.clientsOf userID ↔ h.Listed userID c := by
  unfold clientsOf Listed GoMap.get₂
  rw [List.mem_map]
  constructor
  · intro hmem
    obtain ⟨⟨c', u⟩, hpair, heq⟩ := hmem
    cases heq
    rw [GoMap.mem_pairs_iff] at hpair
    cases hget : h.userClients.get? userID with
    | none => simp [hget] at hpair
    | some set => simpa [hget] using hpair
  · intro hlisted
    obtain ⟨set, hset, hmem⟩ := Option.bind_eq_some_iff.mp hlisted
    refine ⟨(c, ()), ?_, rfl⟩
    rw [GoMap.mem_pairs_iff, hset]
    exact hmem

@[simp] theorem conn_updateClient (h : Hub) (c c' : ClientID) (f : Client → Client) :
    (h.updateClient c f).conn c' = if c' = c then f (h.conn c') else h.conn c' := by
  by_cases hc : c' = c
  · subst c'
    simp [updateClient]
  · simp [updateClient, hc]

@[simp] theorem listed_addUserClient {h : Hub} {u v : UInt32} {c c' : ClientID} :
    (h.addUserClient u c).Listed v c' ↔ v = u ∧ c' = c ∨ h.Listed v c' := by
  unfold Listed addUserClient
  rw [GoMap.get₂_put₂]
  split <;> simp_all

section withVoiceState

variable (h : Hub) (u v : UInt32) (f : VoiceState → VoiceState)

theorem withVoiceState_fields : (h.withVoiceState u f).clients = h.clients ∧
    (h.withVoiceState u f).userClients = h.userClients ∧
    (h.withVoiceState u f).voiceChannels = h.voiceChannels ∧ (h.withVoiceState u f).conn = h.conn := by
  unfold withVoiceState
  split <;> exact ⟨rfl, rfl, rfl, rfl⟩

@[simp] theorem voiceStates_withVoiceState : (h.withVoiceState u f).voiceStates.get? v =
    if v = u then (h.voiceStates.get? v).map f else h.voiceStates.get? v := by
  unfold withVoiceState
  split
  · rename_i hnone
    split
    · rename_i hv
      rw [hv, hnone]
      rfl
    · rfl
  · rename_i state hsome
    rw [GoMap.get?_set]
    split
    · rename_i hv
      rw [hv, hsome]
      rfl
    · rfl

end withVoiceState

/-- What an admitted `join_voice` does to the hub. -/
theorem joinVoice_ok {h h' : Hub} {now : Time} {c : ClientID} {channelID : UInt32} {channel : Channel}
    {selfMuted selfDeafened : Bool}
    (hok : h.joinVoice now c channelID channel selfMuted selfDeafened = .ok h') :
    h.Registered c ∧ (h.conn c).closed = false ∧ h'.clients = h.clients ∧
      h'.userClients = h.userClients ∧
      h'.conn = Function.update h.conn c { h.conn c with activeVoiceChannel := channelID } ∧
      (∃ state, h'.voiceStates = h.voiceStates.set (h.conn c).userID state ∧
        state.channelID = channelID ∧ ∀ flag : ModFlag, flag.ofVoiceState state = false) ∧
      ∀ ch c', h'.InRoom ch c' ↔ ch = channelID ∧ c' = c ∨ h.InRoom ch c' ∧
        ¬ (c' = c ∧ ch = (h.conn c).activeVoiceChannel ∧ 0 < ch ∧ ch ≠ channelID) := by
  unfold joinVoice at hok
  simp only at hok
  by_cases hgone : h.clients.get? c = none ∨ (h.conn c).closed = true
  · rw [if_pos hgone] at hok
    cases hok
  rw [if_neg hgone] at hok
  split at hok
  · cases hok
  cases hok
  rw [not_or, get?_eq_none_iff_not_registered, not_not, Bool.not_eq_true] at hgone
  refine ⟨hgone.1, hgone.2, rfl, rfl, rfl, ⟨_, rfl, rfl, ?_⟩, ?_⟩
  · intro flag
    cases flag <;> rfl
  · intro ch c'
    unfold InRoom
    simp only [GoMap.get₂_put₂]
    by_cases hnew : ch = channelID ∧ c' = c
    · simp [hnew]
    · rw [if_neg hnew]
      by_cases hswitch : 0 < (h.conn c).activeVoiceChannel ∧ (h.conn c).activeVoiceChannel ≠ channelID
      · rw [if_pos hswitch, GoMap.get₂_drop₂]
        by_cases hold : ch = (h.conn c).activeVoiceChannel ∧ c' = c
        · obtain ⟨rfl, rfl⟩ := hold
          simp [hswitch]
        · rw [if_neg hold]
          constructor
          · exact fun hin => .inr ⟨hin, fun hcase => hold ⟨hcase.2.1, hcase.1⟩⟩
          · exact fun hin => (hin.resolve_left hnew).1
      · rw [if_neg hswitch]
        constructor
        · intro hin
          refine .inr ⟨hin, fun hcase => hswitch ?_⟩
          obtain ⟨-, rfl, hpos, hne⟩ := hcase
          exact ⟨hpos, hne⟩
        · exact fun hin => (hin.resolve_left hnew).1

theorem leaveVoice_of_pos {h : Hub} {c : ClientID} (hactive : 0 < (h.conn c).activeVoiceChannel) :
    h.leaveVoice c = { h with
      voiceChannels := h.voiceChannels.drop₂ (h.conn c).activeVoiceChannel c
      voiceStates := h.voiceStates.delete (h.conn c).userID
      conn := Function.update h.conn c { h.conn c with activeVoiceChannel := 0 } } := by
  rw [leaveVoice]
  exact if_pos hactive

theorem leaveVoice_of_not_pos {h : Hub} {c : ClientID} (hactive : ¬ 0 < (h.conn c).activeVoiceChannel) :
    h.leaveVoice c = h := by
  rw [leaveVoice]
  exact if_neg hactive

section moveMember

variable (fromChannelID toChannelID : UInt32)

theorem foldl_moveClient_fields (cs : List ClientID) : ∀ h : Hub,
    (cs.foldl (moveClient fromChannelID toChannelID) h).clients = h.clients ∧
    (cs.foldl (moveClient fromChannelID toChannelID) h).userClients = h.userClients ∧
    (cs.foldl (moveClient fromChannelID toChannelID) h).voiceStates = h.voiceStates := by
  induction cs with
  | nil => exact fun h => ⟨rfl, rfl, rfl⟩
  | cons c cs ih => exact fun h => ih (moveClient fromChannelID toChannelID h c)

theorem foldl_moveClient_conn (cs : List ClientID) : ∀ (h : Hub) (c : ClientID),
    (cs.foldl (moveClient fromChannelID toChannelID) h).conn c =
      if c ∈ cs then { h.conn c with activeVoiceChannel := toChannelID } else h.conn c := by
  induction cs with
  | nil => exact fun h c => rfl
  | cons c₀ cs ih =>
    intro h c
    rw [List.foldl_cons, ih]
    by_cases hc : c = c₀
    · subst c
      by_cases hmem : c₀ ∈ cs <;> simp [moveClient, hmem]
    · simp [moveClient, hc]

theorem foldl_moveClient_inRoom (cs : List ClientID) : ∀ (h : Hub) (ch : UInt32) (c : ClientID),
    (cs.foldl (moveClient fromChannelID toChannelID) h).InRoom ch c ↔
      if c ∈ cs then ch = toChannelID ∨ ch ≠ fromChannelID ∧ h.InRoom ch c else h.InRoom ch c := by
  induction cs with
  | nil => exact fun h ch c => Iff.rfl
  | cons c₀ cs ih =>
    intro h ch c
    have hone : (moveClient fromChannelID toChannelID h c₀).InRoom ch c ↔
        if c = c₀ then ch = toChannelID ∨ ch ≠ fromChannelID ∧ h.InRoom ch c else h.InRoom ch c := by
      unfold InRoom moveClient
      simp only [updateClient, GoMap.get₂_put₂, GoMap.get₂_drop₂]
      by_cases hc : c = c₀ <;> by_cases hto : ch = toChannelID <;> by_cases hfrom : ch = fromChannelID <;>
        simp [hc, hto, hfrom]
    rw [List.foldl_cons, ih, hone]
    by_cases hc : c = c₀ <;> by_cases hmem : c ∈ cs <;> simp only [hc, hmem, List.mem_cons] <;> grind

end moveMember

/-- What an accepted `move_member` does to the hub. -/
theorem moveMember_eq_some {h h' : Hub} {u room : UInt32} (hmove : h.moveMember u room = some h') :
    ∃ state, h.voiceStates.get? u = some state ∧ state.channelID ≠ 0 ∧ h'.clients = h.clients ∧
      h'.userClients = h.userClients ∧
      h'.voiceStates = h.voiceStates.set u { state with channelID := room } ∧
      (∀ c, h'.conn c =
        if c ∈ h.clientsOf u then { h.conn c with activeVoiceChannel := room } else h.conn c) ∧
      ∀ ch c, h'.InRoom ch c ↔
        if c ∈ h.clientsOf u then ch = room ∨ ch ≠ state.channelID ∧ h.InRoom ch c else h.InRoom ch c := by
  unfold moveMember at hmove
  split at hmove
  · cases hmove
  · rename_i state hstate
    split at hmove
    · cases hmove
    · rename_i hne
      cases hmove
      obtain ⟨hclients, husers, hstates⟩ := foldl_moveClient_fields state.channelID room (h.clientsOf u)
        { h with voiceStates := h.voiceStates.set u { state with channelID := room } }
      refine ⟨state, hstate, hne, hclients, husers, hstates, ?_, ?_⟩
      · intro c
        rw [foldl_moveClient_conn]
      · intro ch c
        rw [foldl_moveClient_inRoom]
        rfl

/-- What the hub region of `kick_member` does. -/
theorem kickMember_spec (h : Hub) (u : UInt32) :
    (h.kickMember u).2 = h.clientsOf u ∧ (h.kickMember u).1.clients = h.clients ∧
      (h.kickMember u).1.userClients = h.userClients ∧ (h.kickMember u).1.conn = h.conn ∧
      (∀ v, (h.kickMember u).1.voiceStates.get? v =
        if v = u then none else h.voiceStates.get? v) ∧
      ∀ ch c, (h.kickMember u).1.InRoom ch c ↔
        h.InRoom ch c ∧ ¬ (h.Listed u c ∧ h.room? u = some ch) := by
  have hfold : ∀ (room : UInt32) (cs : List ClientID) (rooms : GoMap UInt32 ClientSet) (ch : UInt32)
      (c : ClientID), (cs.foldl (fun rooms c => rooms.drop₂ room c) rooms).get₂ ch c =
        if ch = room ∧ c ∈ cs then none else rooms.get₂ ch c := by
    intro room cs
    induction cs with
    | nil => simp
    | cons c₀ cs ih =>
      intro rooms ch c
      rw [List.foldl_cons, ih, GoMap.get₂_drop₂]
      by_cases hch : ch = room <;> by_cases hc : c = c₀ <;> by_cases hmem : c ∈ cs <;>
        simp [hch, hc, hmem]
  unfold kickMember
  cases hstate : h.voiceStates.get? u with
  | none =>
    refine ⟨rfl, rfl, rfl, rfl, ?_, ?_⟩
    · intro v
      by_cases hv : v = u
      · simp [hv, hstate]
      · simp [hv]
    · intro ch c
      simp [room?, hstate]
  | some state =>
    refine ⟨rfl, rfl, rfl, rfl, ?_, ?_⟩
    · intro v
      simp
    · intro ch c
      unfold InRoom
      simp only [hfold, room?, hstate, Option.map_some, Option.some.injEq]
      by_cases hdrop : ch = state.channelID ∧ c ∈ h.clientsOf u
      · rw [if_pos hdrop]
        simp [hdrop.1, mem_clientsOf.mp hdrop.2]
      · rw [if_neg hdrop]
        constructor
        · exact fun hin => ⟨hin, fun hcase => hdrop ⟨hcase.2.symm, mem_clientsOf.mpr hcase.1⟩⟩
        · exact fun hin => hin.1

theorem handleClientDisconnect_of_not_registered {h : Hub} {c : ClientID} (hgone : ¬ h.Registered c) :
    h.handleClientDisconnect c = (h, 0) := by
  rw [handleClientDisconnect, if_pos (get?_eq_none_iff_not_registered.mpr hgone)]

/-- `handleClientDisconnect` closes a registered client and no other. -/
theorem conn_handleClientDisconnect (h : Hub) (c : ClientID) :
    (h.handleClientDisconnect c).1.conn =
      if h.clients.get? c = none then h.conn else Function.update h.conn c (h.conn c).close := by
  unfold handleClientDisconnect
  split
  · rfl
  · simp only
    split
    · split <;> split <;> rfl
    · rfl

/-- `handleClientDisconnect` takes a registered, authenticated client out of the set
of its user. -/
theorem userClients_handleClientDisconnect (h : Hub) (c : ClientID) :
    (h.handleClientDisconnect c).1.userClients =
      if h.Registered c ∧ (h.conn c).isAuthenticated = true
      then h.userClients.prune₂ (h.conn c).userID c else h.userClients := by
  by_cases hreg : h.Registered c
  · have hsome : h.clients.get? c ≠ none := fun hnone => get?_eq_none_iff_not_registered.mp hnone hreg
    unfold handleClientDisconnect
    rw [if_neg hsome]
    simp only [updateClient, Function.update_self, Client.close_isAuthenticated, Client.close_userID,
      Client.close_activeVoiceChannel, hreg, true_and]
    split
    · split <;> split <;> rfl
    · rfl
  · rw [handleClientDisconnect_of_not_registered hreg, if_neg fun hcase => hreg hcase.1]

/-- A disconnect takes the user out of voice if the connection is in a room or
is the last one the user has. -/
def LeavesVoice (h : Hub) (c : ClientID) : Prop :=
  (h.conn c).isAuthenticated = true ∧
    (0 < (h.conn c).activeVoiceChannel ∨ ∀ c', h.Listed (h.conn c).userID c' → c' = c)

/-- What `handleClientDisconnect` does with a registered client. -/
theorem handleClientDisconnect_of_registered {h : Hub} {c : ClientID} (hreg : h.Registered c) :
    (h.handleClientDisconnect c).2 =
      (if (h.conn c).isAuthenticated = true then (h.conn c).activeVoiceChannel else 0) ∧
    (∀ c', (h.handleClientDisconnect c).1.Registered c' ↔ h.Registered c' ∧ c' ≠ c) ∧
    (∀ u c', (h.handleClientDisconnect c).1.Listed u c' ↔
      h.Listed u c' ∧ ¬ ((h.conn c).isAuthenticated = true ∧ u = (h.conn c).userID ∧ c' = c)) ∧
    (∀ ch c', (h.handleClientDisconnect c).1.InRoom ch c' ↔
      h.InRoom ch c' ∧ ¬ ((h.conn c).isAuthenticated = true ∧ 0 < ch ∧
        ch = (h.conn c).activeVoiceChannel ∧ c' = c)) ∧
    ∀ v, (h.LeavesVoice c ∧ v = (h.conn c).userID ∧
        (h.handleClientDisconnect c).1.voiceStates.get? v = none) ∨
      (¬ (h.LeavesVoice c ∧ v = (h.conn c).userID) ∧
        (h.handleClientDisconnect c).1.voiceStates.get? v = h.voiceStates.get? v) := by
  have hsome : h.clients.get? c ≠ none := fun hnone => get?_eq_none_iff_not_registered.mp hnone hreg
  have hregistered : ∀ c', GoMap.get? (GoMap.delete h.clients c) c' = some () ↔
      h.Registered c' ∧ c' ≠ c := by
    intro c'
    rw [GoMap.get?_delete]
    by_cases hc : c' = c <;> simp [Registered, hc]
  have hlisted : ∀ u c', GoMap.get₂ (GoMap.prune₂ h.userClients (h.conn c).userID c) u c' = some () ↔
      h.Listed u c' ∧ ¬ (u = (h.conn c).userID ∧ c' = c) := by
    intro u c'
    rw [GoMap.get₂_prune₂]
    by_cases hc : u = (h.conn c).userID ∧ c' = c <;> simp [Listed, hc]
  have hroom : ∀ ch c', GoMap.get₂ (GoMap.prune₂ h.voiceChannels (h.conn c).activeVoiceChannel c) ch c' =
      some () ↔ h.InRoom ch c' ∧ ¬ (ch = (h.conn c).activeVoiceChannel ∧ c' = c) := by
    intro ch c'
    rw [GoMap.get₂_prune₂]
    by_cases hc : ch = (h.conn c).activeVoiceChannel ∧ c' = c <;> simp [InRoom, hc]
  unfold handleClientDisconnect
  rw [if_neg hsome]
  by_cases hauth : (h.conn c).isAuthenticated = true
  · simp only [updateClient, Function.update_self, Client.close_isAuthenticated, Client.close_userID,
      Client.close_activeVoiceChannel, hauth, if_true]
    have hlast : ∀ h' : Hub, h'.userClients = GoMap.prune₂ h.userClients (h.conn c).userID c →
        (h'.clientsOf (h.conn c).userID = [] ↔ ∀ c', h.Listed (h.conn c).userID c' → c' = c) := by
      intro h' husers
      rw [List.eq_nil_iff_forall_not_mem]
      constructor
      · intro hnone c' hc'
        by_contra hne
        apply hnone c'
        rw [mem_clientsOf, Listed, husers, hlisted]
        exact ⟨hc', fun hcase => hne hcase.2⟩
      · intro honly c' hmem
        rw [mem_clientsOf, Listed, husers, hlisted] at hmem
        exact hmem.2 ⟨rfl, honly c' hmem.1⟩
    by_cases hactive : 0 < (h.conn c).activeVoiceChannel
    · simp only [hactive, if_true, true_or]
      refine ⟨trivial, hregistered, ?_, ?_, ?_⟩
      · simpa [Listed] using hlisted
      · intro ch c'
        rw [InRoom, hroom]
        grind
      · intro v
        have hleaves : h.LeavesVoice c := ⟨hauth, .inl hactive⟩
        by_cases hv : v = (h.conn c).userID <;> simp [hleaves, hv]
    · simp only [hactive, if_false, false_or]
      have hrooms : ∀ ch c', ¬ (0 < ch ∧ ch = (h.conn c).activeVoiceChannel ∧ c' = c) :=
        fun ch c' hcase => hactive (hcase.2.1 ▸ hcase.1)
      have hleaves : h.LeavesVoice c ↔ ∀ c', h.Listed (h.conn c).userID c' → c' = c := by
        simp [LeavesVoice, hauth, hactive]
      split
      · rename_i hempty
        have honly := (hlast _ rfl).mp hempty
        refine ⟨rfl, hregistered, by simpa [Listed] using hlisted, ?_, ?_⟩
        · intro ch c'
          simp [InRoom, hrooms ch c']
        · intro v
          by_cases hv : v = (h.conn c).userID <;> simp [hleaves.mpr honly, hv]
      · rename_i hmore
        have hstays : ¬ h.LeavesVoice c := fun hl => hmore ((hlast _ rfl).mpr (hleaves.mp hl))
        refine ⟨rfl, hregistered, by simpa [Listed] using hlisted, ?_, ?_⟩
        · intro ch c'
          simp [InRoom, hrooms ch c']
        · intro v
          simp [hstays]
  · simp only [updateClient, Function.update_self, Client.close_isAuthenticated, hauth]
    refine ⟨rfl, hregistered, ?_, ?_, ?_⟩ <;> simp [LeavesVoice, hauth, Listed, InRoom]

end low_latency_voice.control.Hub

import LowLatencyVoice.Control.Connections
import LowLatencyVoice.Control.Rooms

open low_latency_voice.model low_latency_voice.storage low_latency_voice.audio

namespace low_latency_voice.control

namespace Hub

/-- The connection is registered and `room` is its active voice channel. -/
def Occupies (h : Hub) (c : ClientID) (room : UInt32) : Prop :=
  h.Registered c ∧ (h.conn c).activeVoiceChannel = room ∧ room ≠ 0

/-- The four maps and the clients say the same about who is in voice. -/
structure OccupancyAgrees (h : Hub) : Prop where
  rooms : ∀ room c, h.InRoom room c ↔ h.Occupies c room
  voiceStates : ∀ u, h.voiceStates.get? u ≠ none ↔ ∃ c room, h.Occupies c room ∧ h.AuthenticatedAs u c
  channel : ∀ u state, h.voiceStates.get? u = some state →
    ∃ c, h.Occupies c state.channelID ∧ h.AuthenticatedAs u c

/-- What holds between requests and within them: the maps agree about every
connection except the doomed ones, which are about to be disconnected. -/
structure Occupied (h : Hub) (doomed : ClientID → Prop) : Prop where
  authenticated : ∀ c, (h.conn c).activeVoiceChannel ≠ 0 → (h.conn c).isAuthenticated = true
  seated : ∀ c room, h.Occupies c room → h.InRoom room c ∨ doomed c
  stated : ∀ u state, h.voiceStates.get? u = some state →
    ∃ c, h.Occupies c state.channelID ∧ h.AuthenticatedAs u c
  voiced : ∀ c room, h.Occupies c room → h.voiceStates.get? (h.conn c).userID ≠ none ∨ doomed c
  listed : ∀ c room, h.Occupies c room → h.Listed (h.conn c).userID c

/-- Every other connection of the user that is in voice is doomed. -/
def LastInVoice (h : Hub) (doomed : ClientID → Prop) (c : ClientID) : Prop :=
  ∀ c' room, c' ≠ c → h.Occupies c' room → h.AuthenticatedAs (h.conn c).userID c' → doomed c'

section regions

variable {h h' : Hub} {doomed doomed' : ClientID → Prop}

theorem Occupied.mono (ho : h.Occupied doomed) (hmore : ∀ c, h.Registered c → doomed c → doomed' c) :
    h.Occupied doomed' where
  authenticated := ho.authenticated
  seated := fun c room hc => (ho.seated c room hc).imp_right (hmore c hc.1)
  stated := ho.stated
  voiced := fun c room hc => (ho.voiced c room hc).imp_right (hmore c hc.1)
  listed := ho.listed

theorem Occupied.authenticated_of_occupies (ho : h.Occupied doomed) {c : ClientID} {room : UInt32}
    (hc : h.Occupies c room) : (h.conn c).isAuthenticated = true :=
  ho.authenticated c (by rw [hc.2.1]; exact hc.2.2)

/-- A client that registers is in no voice channel yet. -/
theorem Occupied.registerClient (ho : h.Occupied doomed) {c : ClientID}
    (hserved : (h.conn c).isAuthenticated = true → h.served c = true) :
    (h.registerClient c).Occupied doomed := by
  unfold Hub.registerClient
  split
  · exact ho
  · rename_i hopen
    have hbefore : ∀ c' room, Occupies { h with clients := h.clients.set c () } c' room →
        h.Occupies c' room := by
      intro c' room hc'
      obtain ⟨hreg, hactive, hne⟩ := hc'
      refine ⟨?_, hactive, hne⟩
      by_cases hc : c' = c
      · subst c'
        have hauth := ho.authenticated c (by rw [hactive]; exact hne)
        have hknown := server.served_iff.mp (hserved hauth)
        exact hknown.resolve_right hopen
      · simpa [Registered, hc] using hreg
    have hafter : ∀ c' room, h.Occupies c' room →
        Occupies { h with clients := h.clients.set c () } c' room := by
      intro c' room hc'
      refine ⟨?_, hc'.2⟩
      by_cases hc : c' = c
      · simp [Registered, hc]
      · simpa [Registered, hc] using hc'.1
    exact {
      authenticated := ho.authenticated
      seated := fun c' room hc' => ho.seated c' room (hbefore c' room hc')
      stated := by
        intro u state hstate
        obtain ⟨c', hc', hmine⟩ := ho.stated u state hstate
        exact ⟨c', hafter c' _ hc', hmine⟩
      voiced := fun c' room hc' => ho.voiced c' room (hbefore c' room hc')
      listed := fun c' room hc' => ho.listed c' room (hbefore c' room hc') }

/-- A connection in voice signs in for its own user only. -/
theorem Occupied.signIn (ho : h.Occupied doomed) {c : ClientID} {user : User}
    (hsame : ∀ room, h.Occupies c room → (h.conn c).userID = user.id) :
    (h.updateClient c fun client => client.signIn user).Occupied doomed := by
  have hconn : ∀ c', (h.updateClient c fun client => client.signIn user).conn c' =
      if c' = c then (h.conn c').signIn user else h.conn c' := fun c' => h.conn_updateClient c c' _
  have hactive : ∀ c', ((h.updateClient c fun client => client.signIn user).conn c').activeVoiceChannel =
      (h.conn c').activeVoiceChannel := by
    intro c'
    rw [hconn]
    split <;> rfl
  have hoccupies : ∀ c' room, (h.updateClient c fun client => client.signIn user).Occupies c' room ↔
      h.Occupies c' room := by
    intro c' room
    unfold Occupies
    rw [hactive]
    rfl
  have hid : ∀ c' room, h.Occupies c' room →
      ((h.updateClient c fun client => client.signIn user).conn c').userID = (h.conn c').userID := by
    intro c' room hc'
    rw [hconn]
    split
    · subst c'
      exact (hsame room hc').symm
    · rfl
  constructor
  · intro c' hne
    rw [hactive] at hne
    rw [hconn]
    split
    · rfl
    · exact ho.authenticated c' hne
  · exact fun c' room hc' => ho.seated c' room ((hoccupies c' room).mp hc')
  · intro u state hstate
    obtain ⟨c', hc', hauth, hmine⟩ := ho.stated u state hstate
    refine ⟨c', (hoccupies c' _).mpr hc', ?_, (hid c' _ hc').trans hmine⟩
    rw [hconn]
    split
    · rfl
    · exact hauth
  · intro c' room hc'
    have hold := (hoccupies c' room).mp hc'
    rw [hid c' room hold]
    exact ho.voiced c' room hold
  · intro c' room hc'
    have hold := (hoccupies c' room).mp hc'
    rw [hid c' room hold]
    exact ho.listed c' room hold

theorem Occupied.addUserClient (ho : h.Occupied doomed) (u : UInt32) (c : ClientID) :
    (h.addUserClient u c).Occupied doomed where
  authenticated := ho.authenticated
  seated := ho.seated
  stated := ho.stated
  voiced := ho.voiced
  listed := fun c' room hc' => listed_addUserClient.mpr (.inr (ho.listed c' room hc'))

/-- A join, whatever the user's other connections do. -/
theorem Occupied.joinVoice (ho : h.Occupied doomed) {now : Time} {c : ClientID} {room : UInt32}
    {channel : Channel} {selfMuted selfDeafened : Bool}
    (hok : h.joinVoice now c room channel selfMuted selfDeafened = .ok h') (hroom : room ≠ 0)
    (hauth : (h.conn c).isAuthenticated = true) (hlisted : h.Listed (h.conn c).userID c) :
    h'.Occupied doomed := by
  obtain ⟨hreg, -, hclients, husers, hconn, ⟨state, hstates, hchannel, -⟩, hrooms⟩ := joinVoice_ok hok
  have hself : h'.Occupies c room := by
    refine ⟨?_, ?_, hroom⟩
    · rw [Registered, hclients]
      exact hreg
    · rw [hconn, Function.update_self]
  have hother : ∀ c' room', c' ≠ c → (h'.Occupies c' room' ↔ h.Occupies c' room') := by
    intro c' room' hne
    unfold Occupies Registered
    rw [hclients, hconn, Function.update_of_ne hne]
  have hidentity : ∀ c', (h'.conn c').userID = (h.conn c').userID ∧
      (h'.conn c').isAuthenticated = (h.conn c').isAuthenticated := by
    intro c'
    by_cases hc : c' = c
    · subst c'
      rw [hconn, Function.update_self]
      exact ⟨rfl, rfl⟩
    · rw [hconn, Function.update_of_ne hc]
      exact ⟨rfl, rfl⟩
  constructor
  · intro c' hne
    rw [(hidentity c').2]
    by_cases hc : c' = c
    · rw [hc]
      exact hauth
    · rw [hconn, Function.update_of_ne hc] at hne
      exact ho.authenticated c' hne
  · intro c' room' hc'
    by_cases hc : c' = c
    · subst c'
      left
      have heq : room' = room := hc'.2.1.symm.trans hself.2.1
      exact (hrooms room' c).mpr (.inl ⟨heq, rfl⟩)
    · obtain hin | hdoomed := ho.seated c' room' ((hother c' room' hc).mp hc')
      · exact .inl ((hrooms room' c').mpr (.inr ⟨hin, fun hcase => hc hcase.1⟩))
      · exact .inr hdoomed
  · intro u st hst
    rw [hstates, GoMap.get?_set] at hst
    split at hst
    · cases hst
      rename_i hu
      rw [hchannel]
      exact ⟨c, hself, (hidentity c).2.trans hauth, (hidentity c).1.trans hu.symm⟩
    · rename_i hu
      obtain ⟨c', hc', hauth', hmine⟩ := ho.stated u st hst
      have hne : c' ≠ c := by
        intro hc
        rw [hc] at hmine
        exact hu hmine.symm
      exact ⟨c', (hother c' _ hne).mpr hc', (hidentity c').2.trans hauth', (hidentity c').1.trans hmine⟩
  · intro c' room' hc'
    rw [(hidentity c').1, hstates, GoMap.get?_set]
    split
    · exact .inl (by simp)
    · rename_i hu
      have hne : c' ≠ c := by
        intro hc
        exact hu (by rw [hc])
      exact ho.voiced c' room' ((hother c' room' hne).mp hc')
  · intro c' room' hc'
    rw [(hidentity c').1, Listed, husers]
    by_cases hc : c' = c
    · rw [hc]
      exact hlisted
    · exact ho.listed c' room' ((hother c' room' hc).mp hc')

/-- A connection that leaves voice takes the voice state of its user with it. -/
theorem Occupied.leaveVoice (ho : h.Occupied doomed) {c : ClientID}
    (hactive : 0 < (h.conn c).activeVoiceChannel) (hlast : h.LastInVoice doomed c) :
    (h.leaveVoice c).Occupied doomed := by
  have hleft := leaveVoice_of_pos hactive
  have hclients : (h.leaveVoice c).clients = h.clients := by rw [hleft]
  have husers : (h.leaveVoice c).userClients = h.userClients := by rw [hleft]
  have hconn : (h.leaveVoice c).conn =
      Function.update h.conn c { h.conn c with activeVoiceChannel := 0 } := by rw [hleft]
  have hstates : ∀ v, (h.leaveVoice c).voiceStates.get? v =
      if v = (h.conn c).userID then none else h.voiceStates.get? v := by
    intro v
    rw [hleft, GoMap.get?_delete]
  have hrooms : ∀ c' room, c' ≠ c → h.InRoom room c' → (h.leaveVoice c).InRoom room c' := by
    intro c' room hne hin
    rw [hleft, InRoom, GoMap.get₂_drop₂, if_neg fun hcase => hne hcase.2]
    exact hin
  have hself : ∀ c' room, (h.leaveVoice c).Occupies c' room ↔ h.Occupies c' room ∧ c' ≠ c := by
    intro c' room
    unfold Occupies Registered
    rw [hclients, hconn]
    by_cases hc : c' = c
    · subst c'
      rw [Function.update_self]
      exact ⟨fun hcase => absurd hcase.2.1.symm hcase.2.2, fun hcase => absurd rfl hcase.2⟩
    · rw [Function.update_of_ne hc]
      exact ⟨fun hcase => ⟨hcase, hc⟩, fun hcase => hcase.1⟩
  have hidentity : ∀ c', c' ≠ c → (h.leaveVoice c).conn c' = h.conn c' := by
    intro c' hc
    rw [hconn, Function.update_of_ne hc]
  constructor
  · intro c' hne
    by_cases hc : c' = c
    · subst c'
      rw [hconn, Function.update_self] at hne
      exact absurd rfl hne
    · rw [hidentity c' hc] at hne ⊢
      exact ho.authenticated c' hne
  · intro c' room hc'
    obtain ⟨hold, hne⟩ := (hself c' room).mp hc'
    exact (ho.seated c' room hold).imp_left (hrooms c' room hne)
  · intro u state hstate
    rw [hstates] at hstate
    split at hstate
    · cases hstate
    · rename_i hu
      obtain ⟨c', hc', hmine⟩ := ho.stated u state hstate
      have hne : c' ≠ c := by
        intro hc
        rw [hc] at hmine
        exact hu hmine.2.symm
      refine ⟨c', (hself c' _).mpr ⟨hc', hne⟩, ?_⟩
      rw [AuthenticatedAs, hidentity c' hne]
      exact hmine
  · intro c' room hc'
    obtain ⟨hold, hne⟩ := (hself c' room).mp hc'
    rw [hidentity c' hne, hstates]
    split
    · rename_i hu
      exact .inr (hlast c' room hne hold ⟨ho.authenticated_of_occupies hold, hu⟩)
    · exact ho.voiced c' room hold
  · intro c' room hc'
    obtain ⟨hold, hne⟩ := (hself c' room).mp hc'
    rw [Listed, husers, hidentity c' hne]
    exact ho.listed c' room hold

/-- A write to a voice state that leaves its channel alone. -/
theorem Occupied.withVoiceState (ho : h.Occupied doomed) (u : UInt32) {f : VoiceState → VoiceState}
    (hf : ∀ state, (f state).channelID = state.channelID) : (h.withVoiceState u f).Occupied doomed := by
  obtain ⟨hclients, husers, hrooms, hconn⟩ := withVoiceState_fields h u f
  have hoccupies : ∀ c room, (h.withVoiceState u f).Occupies c room ↔ h.Occupies c room := by
    intro c room
    unfold Occupies Registered
    rw [hclients, hconn]
  constructor
  · rw [hconn]
    exact ho.authenticated
  · intro c room hc
    rw [InRoom, hrooms]
    exact ho.seated c room ((hoccupies c room).mp hc)
  · intro v state hstate
    have hbefore : ∃ old, h.voiceStates.get? v = some old ∧ state.channelID = old.channelID := by
      rw [voiceStates_withVoiceState] at hstate
      split at hstate
      · obtain ⟨old, hold, rfl⟩ := Option.map_eq_some_iff.mp hstate
        exact ⟨old, hold, hf old⟩
      · exact ⟨state, hstate, rfl⟩
    obtain ⟨old, hold, hchannel⟩ := hbefore
    obtain ⟨c, hc, hmine⟩ := ho.stated v old hold
    refine ⟨c, ?_, ?_⟩
    · rw [hoccupies, hchannel]
      exact hc
    · rw [AuthenticatedAs, hconn]
      exact hmine
  · intro c room hc
    rw [hconn]
    refine (ho.voiced c room ((hoccupies c room).mp hc)).imp_left fun hsome => ?_
    rw [voiceStates_withVoiceState]
    split
    · simpa using hsome
    · exact hsome
  · intro c room hc
    rw [Listed, husers, hconn]
    exact ho.listed c room ((hoccupies c room).mp hc)

/-- A move keeps to the user it names: each connection listed for the user is in use
by that user, and in no other room than the one the user is moved from. -/
def MovesCleanly (h : Hub) (u room : UInt32) : Prop :=
  ∀ state, h.voiceStates.get? u = some state → state.channelID ≠ 0 → room ≠ 0 ∧
    ∀ c, h.Listed u c → h.Registered c ∧ h.AuthenticatedAs u c ∧
      ((h.conn c).activeVoiceChannel = 0 ∨ (h.conn c).activeVoiceChannel = state.channelID)

theorem Occupied.moveMember (ho : h.Occupied doomed) {u room : UInt32}
    (hmove : h.moveMember u room = some h') (hclean : h.MovesCleanly u room) : h'.Occupied doomed := by
  obtain ⟨state, hstate, hne, hclients, husers, hstates, hconn, hrooms⟩ := moveMember_eq_some hmove
  obtain ⟨hroom, hlisted⟩ := hclean state hstate hne
  have hidentity : ∀ c, (h'.conn c).userID = (h.conn c).userID ∧
      (h'.conn c).isAuthenticated = (h.conn c).isAuthenticated := by
    intro c
    rw [hconn]
    split <;> exact ⟨rfl, rfl⟩
  have hother : ∀ c room', c ∉ h.clientsOf u → (h'.Occupies c room' ↔ h.Occupies c room') := by
    intro c room' hc
    unfold Occupies Registered
    rw [hclients, hconn, if_neg hc]
  have hmoved : ∀ c, c ∈ h.clientsOf u → h'.Occupies c room ∧ (h'.conn c).activeVoiceChannel = room := by
    intro c hc
    have hactive : (h'.conn c).activeVoiceChannel = room := by rw [hconn, if_pos hc]
    refine ⟨⟨?_, hactive, hroom⟩, hactive⟩
    rw [Registered, hclients]
    exact (hlisted c (mem_clientsOf.mp hc)).1
  constructor
  · intro c hactive
    rw [(hidentity c).2]
    by_cases hc : c ∈ h.clientsOf u
    · exact (hlisted c (mem_clientsOf.mp hc)).2.1.1
    · rw [hconn, if_neg hc] at hactive
      exact ho.authenticated c hactive
  · intro c room' hc'
    rw [hrooms]
    by_cases hc : c ∈ h.clientsOf u
    · rw [if_pos hc]
      exact .inl (.inl (hc'.2.1.symm.trans (hmoved c hc).2))
    · rw [if_neg hc]
      exact ho.seated c room' ((hother c room' hc).mp hc')
  · intro v st hst
    rw [hstates, GoMap.get?_set] at hst
    split at hst
    · -- somebody was in the old channel for the user, and is listed
      cases hst
      rename_i hv
      obtain ⟨c, hc, hauth, hmine⟩ := ho.stated u state hstate
      have hmem : c ∈ h.clientsOf u := by
        have hlist := ho.listed c _ hc
        rw [hmine] at hlist
        exact mem_clientsOf.mpr hlist
      exact ⟨c, (hmoved c hmem).1, (hidentity c).2.trans hauth, (hidentity c).1.trans (hmine.trans hv.symm)⟩
    · rename_i hv
      obtain ⟨c, hc, hauth, hmine⟩ := ho.stated v st hst
      have hout : c ∉ h.clientsOf u := by
        intro hmem
        exact hv (hmine.symm.trans (hlisted c (mem_clientsOf.mp hmem)).2.1.2)
      exact ⟨c, (hother c _ hout).mpr hc, (hidentity c).2.trans hauth, (hidentity c).1.trans hmine⟩
  · intro c room' hc'
    rw [(hidentity c).1, hstates, GoMap.get?_set]
    split
    · exact .inl (by simp)
    · rename_i hu
      have hout : c ∉ h.clientsOf u := fun hmem => hu (hlisted c (mem_clientsOf.mp hmem)).2.1.2
      exact ho.voiced c room' ((hother c room' hout).mp hc')
  · intro c room' hc'
    rw [(hidentity c).1, Listed, husers]
    by_cases hc : c ∈ h.clientsOf u
    · have hlist := mem_clientsOf.mp hc
      rw [(hlisted c hlist).2.1.2]
      exact hlist
    · exact ho.listed c room' ((hother c room' hc).mp hc')

/-- A clean move leaves no connection in a second room. -/
theorem tidy_moveMember {u room : UInt32} (hmove : h.moveMember u room = some h')
    (hclean : h.MovesCleanly u room) {c : ClientID} (htidy : h.Tidy c) : h'.Tidy c := by
  obtain ⟨state, hstate, hne, hclients, -, -, hconn, hrooms⟩ := moveMember_eq_some hmove
  obtain ⟨hroom, hlisted⟩ := hclean state hstate hne
  intro room' hin
  rw [hrooms] at hin
  by_cases hc : c ∈ h.clientsOf u
  · obtain ⟨hreg, ⟨hauth, -⟩, hactive⟩ := hlisted c (mem_clientsOf.mp hc)
    have hgoal : (h'.conn c).activeVoiceChannel = room ∧ (h'.conn c).isAuthenticated = true := by
      rw [hconn, if_pos hc]
      exact ⟨rfl, hauth⟩
    rw [if_pos hc] at hin
    have heq : room' = room := by
      obtain hnew | ⟨hother, hold⟩ := hin
      · exact hnew
      · obtain ⟨heq, hnonzero, -⟩ := htidy room' hold
        obtain hzero | hsource := hactive
        · exact absurd (heq.trans hzero) hnonzero
        · exact absurd (heq.trans hsource) hother
    refine ⟨heq.trans hgoal.1.symm, heq ▸ hroom, ?_, hgoal.2⟩
    rw [Registered, hclients]
    exact hreg
  · rw [if_neg hc] at hin
    rw [Registered, hclients, hconn, if_neg hc]
    exact htidy room' hin

/-- After a kick every listed connection of the user is doomed. -/
theorem Occupied.kickMember (ho : h.Occupied doomed) (u : UInt32)
    (hmore : ∀ c, doomed c ∨ h.Listed u c → doomed' c) : (h.kickMember u).1.Occupied doomed' := by
  obtain ⟨-, hclients, husers, hconn, hstates, hrooms⟩ := kickMember_spec h u
  have hoccupies : ∀ c room, (h.kickMember u).1.Occupies c room ↔ h.Occupies c room := by
    intro c room
    unfold Occupies Registered
    rw [hclients, hconn]
  constructor
  · rw [hconn]
    exact ho.authenticated
  · intro c room hc
    rw [hrooms]
    obtain hin | hdoomed := ho.seated c room ((hoccupies c room).mp hc)
    · by_cases hlisted : h.Listed u c
      · exact .inr (hmore c (.inr hlisted))
      · exact .inl ⟨hin, fun hcase => hlisted hcase.1⟩
    · exact .inr (hmore c (.inl hdoomed))
  · intro v state hstate
    rw [hstates] at hstate
    split at hstate
    · cases hstate
    · obtain ⟨c, hc, hmine⟩ := ho.stated v state hstate
      refine ⟨c, (hoccupies c _).mpr hc, ?_⟩
      rw [AuthenticatedAs, hconn]
      exact hmine
  · intro c room hc
    rw [hconn, hstates]
    have hold := (hoccupies c room).mp hc
    split
    · rename_i hu
      have hlist := ho.listed c room hold
      rw [hu] at hlist
      exact .inr (hmore c (.inr hlist))
    · exact (ho.voiced c room hold).imp_right fun hdoomed => hmore c (.inl hdoomed)
  · intro c room hc
    rw [Listed, husers, hconn]
    exact ho.listed c room ((hoccupies c room).mp hc)

/-- A disconnected connection that was in voice takes the voice state of its user
with it. -/
theorem Occupied.handleClientDisconnect (ho : h.Occupied doomed) {c : ClientID} (hreg : h.Registered c)
    (hlast : (h.conn c).activeVoiceChannel ≠ 0 → h.LastInVoice doomed c) :
    (h.handleClientDisconnect c).1.Occupied doomed := by
  obtain ⟨-, hregistered, hlistings, hrooms, hstates⟩ := handleClientDisconnect_of_registered hreg
  have hconn := server.conn_of_disconnect hreg
  have hself : ∀ c' room, (h.handleClientDisconnect c).1.Occupies c' room ↔ h.Occupies c' room ∧ c' ≠ c := by
    intro c' room
    unfold Occupies
    rw [hregistered, hconn]
    by_cases hc : c' = c
    · simp [hc]
    · simp [hc]
  have hidentity : ∀ c', c' ≠ c → (h.handleClientDisconnect c).1.conn c' = h.conn c' := by
    intro c' hc
    rw [hconn, Function.update_of_ne hc]
  constructor
  · intro c' hactive
    by_cases hc : c' = c
    · subst c'
      rw [hconn, Function.update_self, Client.close_activeVoiceChannel] at hactive
      rw [hconn, Function.update_self, Client.close_isAuthenticated]
      exact ho.authenticated c hactive
    · rw [hidentity c' hc] at hactive ⊢
      exact ho.authenticated c' hactive
  · intro c' room hc'
    obtain ⟨hold, hne⟩ := (hself c' room).mp hc'
    refine (ho.seated c' room hold).imp_left fun hin => (hrooms room c').mpr ⟨hin, ?_⟩
    exact fun hcase => hne hcase.2.2.2
  · intro v state hstate
    obtain ⟨-, -, hgone⟩ | ⟨hstays, hsame⟩ := hstates v
    · rw [hgone] at hstate
      cases hstate
    · rw [hsame] at hstate
      obtain ⟨c', hc', hmine⟩ := ho.stated v state hstate
      have hne : c' ≠ c := by
        intro hc
        subst c'
        refine hstays ⟨⟨hmine.1, .inl ?_⟩, hmine.2.symm⟩
        rw [hc'.2.1]
        exact UInt32.pos_iff_ne_zero.mpr hc'.2.2
      refine ⟨c', (hself c' _).mpr ⟨hc', hne⟩, ?_⟩
      rw [AuthenticatedAs, hidentity c' hne]
      exact hmine
  · intro c' room hc'
    obtain ⟨hold, hne⟩ := (hself c' room).mp hc'
    rw [hidentity c' hne]
    obtain ⟨⟨-, hin | honly⟩, hu, -⟩ | ⟨-, hsame⟩ := hstates (h.conn c').userID
    · have hmine : h.AuthenticatedAs (h.conn c).userID c' := ⟨ho.authenticated_of_occupies hold, hu⟩
      exact .inr (hlast (UInt32.pos_iff_ne_zero.mp hin) c' room hne hold hmine)
    · have hlist := ho.listed c' room hold
      rw [hu] at hlist
      exact absurd (honly c' hlist) hne
    · rw [hsame]
      exact ho.voiced c' room hold
  · intro c' room hc'
    obtain ⟨hold, hne⟩ := (hself c' room).mp hc'
    rw [hidentity c' hne]
    exact (hlistings _ c').mpr ⟨ho.listed c' room hold, fun hcase => hne hcase.2.2⟩

end regions

end Hub

namespace server

variable {Addr : Type} [DecidableEq Addr]

/-- The connection's disconnect is still to come. -/
abbrev Doomed (k : State Addr) (c : ClientID) : Prop := Goroutines.Pending k (.handleClientDisconnect c)

/-- The action keeps voice membership in step. A connection in voice does not change
its user; one that leaves voice or is disconnected from it is the last its user has in
voice; and a move keeps to the connections of its user. -/
def KeepsOccupancy (k : State Addr) : Act Addr → Prop
  | .signIn c user => ∀ room, k.shared.hub.Occupies c room → (k.shared.hub.conn c).userID = user.id
  | .leaveVoice c => (k.shared.hub.conn c).activeVoiceChannel ≠ 0 →
      k.shared.hub.LastInVoice (Doomed k) c
  | .handleClientDisconnect c => k.shared.hub.Registered c →
      (k.shared.hub.conn c).activeVoiceChannel ≠ 0 → k.shared.hub.LastInVoice (Doomed k) c
  | .moveMember u room => k.shared.hub.MovesCleanly u room
  | _ => True

/-- Every action the turn performs keeps voice membership in step. -/
def KeepsOccupancyAt (k : State Addr) (t : Turn Addr) : Prop := ∀ a x, Does k t a x → KeepsOccupancy k a

/-- Every step of the schedule keeps voice membership in step. -/
def OccupancyKept (w : World Addr) (ts : List (Turn Addr)) : Prop :=
  Machine.Along (fun pre t => KeepsOccupancyAt (after w pre) t) ts

/-- What holds of voice membership in every state. -/
structure Seated (k : State Addr) : Prop where
  orderly : Orderly k
  tidy : ∀ c, k.shared.hub.Tidy c
  occupied : k.shared.hub.Occupied (Doomed k)

section step

variable {k : State Addr}

omit [DecidableEq Addr] in
theorem Seated.serve (h : Seated k) (r : Request Addr) (hidle : k.todo r.owner = []) :
    Seated { k with todo := Function.update k.todo r.owner (program k.shared r) } where
  orderly := h.orderly.serve r hidle
  tidy := h.tidy
  occupied := h.occupied.mono fun _ _ hdoomed => hdoomed.serve hidle _

variable {t : Turn Addr} {g : Routine} {a : Act Addr} {w' : World Addr} {acts : List (Act Addr)}

/-- A join is made by an authenticated connection that is listed for its user. -/
theorem Seated.joins (h : Seated k) {c : ClientID} {room : UInt32} {channel : Channel}
    {selfMuted selfDeafened : Bool}
    (hp : system.Performs k t g (.joinVoice c room channel selfMuted selfDeafened) w' acts) :
    room ≠ 0 ∧ (k.shared.hub.conn c).isAuthenticated = true ∧
      (k.shared.hub.Registered c → k.shared.hub.Listed (k.shared.hub.conn c).userID c) := by
  obtain ⟨rfl, -, hscript⟩ := h.orderly.script hp rfl
  obtain ⟨rest, htodo, -⟩ := hp.head
  rw [htodo] at hscript
  cases hscript with
  | joinVoice hauth hroom =>
    refine ⟨hroom, hauth, fun hreg => ?_⟩
    refine (h.orderly.listed c hreg hauth).resolve_right fun hmem => ?_
    rw [htodo] at hmem
    simp at hmem

/-- A connection whose disconnect is to come is still doomed after the turn, unless it
has just been disconnected. -/
theorem doomed_perform (hp : system.Performs k t g a w' acts) {c : ClientID} (hdoomed : Doomed k c)
    (hreg : (system.step k t).shared.hub.Registered c) : Doomed (system.step k t) c := by
  obtain ⟨x, -, hact⟩ := exists_does hp
  have hregistered := registered_act k.shared x a c
  rw [hact, ← hp.shared] at hregistered
  exact hp.pending_of_ne hdoomed (Ne.symm (hregistered.mp hreg).2)

theorem Seated.perform (h : Seated k) (hok : KeepsOccupancyAt k t) (hp : system.Performs k t g a w' acts) :
    Seated (system.step k t) := by
  obtain ⟨x, hdoes, hact⟩ := exists_does hp
  have hkeeps : KeepsOccupancy k a := hok a x hdoes
  have hchange := hubChange_act k.shared x a
  rw [hact, ← hp.shared] at hchange
  refine ⟨h.orderly.perform hp, ?_, ?_⟩
  · intro c
    by_cases hmove : ∃ u room, a = .moveMember u room
    · obtain ⟨u, room, rfl⟩ := hmove
      generalize (system.step k t).shared.hub = h' at hchange ⊢
      cases hchange with
      | untouched => exact h.tidy c
      | moveMember hmoves => exact Hub.tidy_moveMember hmoves hkeeps (h.tidy c)
    · have htidy : _ → _ → (act k.shared x a).1.hub.Tidy c := tidy_act (h.tidy c)
      rw [hact, ← hp.shared] at htidy
      apply htidy
      · intro room channel selfMuted selfDeafened ha
        subst ha
        exact ⟨(h.joins hp).1, (h.joins hp).2.1⟩
      · exact fun u room ha => absurd ⟨u, room, ha⟩ hmove
  · have hdoomed : ∀ c, (system.step k t).shared.hub.Registered c → Doomed k c → Doomed (system.step k t) c :=
      fun c hreg hc => doomed_perform hp hc hreg
    generalize (system.step k t).shared.hub = h' at hchange hdoomed ⊢
    cases hchange with
    | untouched => exact h.occupied.mono hdoomed
    | registerClient c => exact (h.occupied.registerClient (h.orderly.served c)).mono hdoomed
    | signIn c user => exact (h.occupied.signIn hkeeps).mono hdoomed
    | addUserClient u c => exact (h.occupied.addUserClient u c).mono hdoomed
    | joinVoice hok =>
      obtain ⟨hroom, hauth, hlisted⟩ := h.joins hp
      exact (h.occupied.joinVoice hok hroom hauth (hlisted (Hub.joinVoice_ok hok).1)).mono hdoomed
    | leaveVoice hactive =>
      have hlast := hkeeps (UInt32.pos_iff_ne_zero.mp hactive)
      rw [← Hub.leaveVoice_of_pos hactive] at hdoomed ⊢
      exact (h.occupied.leaveVoice hactive hlast).mono hdoomed
    | setVoiceState c selfMuted selfDeafened isSpeaking =>
      have hwritten : (k.shared.hub.setVoiceState x.now c selfMuted selfDeafened isSpeaking).Occupied
          (Doomed k) := h.occupied.withVoiceState _ fun _ => rfl
      exact hwritten.mono hdoomed
    | setFlag flag u value =>
      refine (h.occupied.withVoiceState u fun state => ?_).mono hdoomed
      cases flag <;> rfl
    | moveMember hmoves => exact (h.occupied.moveMember hmoves hkeeps).mono hdoomed
    | kickMember u =>
      apply h.occupied.kickMember u
      intro c hc
      obtain hold | hlisted := hc
      · exact hp.pending_of_ne hold (by simp)
      · have hclosed : .handleClientDisconnect c ∈ (act k.shared x (.kickMember u)).2 := by
          simp only [act, (k.shared.hub.kickMember_spec u).1]
          refine List.mem_cons_of_mem _ (List.mem_map_of_mem ?_)
          rw [mem_visits]
          exact Hub.mem_clientsOf.mpr hlisted
        rw [hact] at hclosed
        exact hp.pending_of_mem hclosed
    | handleClientDisconnect hreg =>
      exact (h.occupied.handleClientDisconnect hreg (hkeeps hreg)).mono hdoomed

end step

omit [DecidableEq Addr] in
theorem seated_new (voiceTokens : VoiceTokens) (userSessions : UserSessions)
    (horderly : Orderly (Goroutines.idle (World.new voiceTokens userSessions : World Addr))) :
    Seated (Goroutines.idle (World.new voiceTokens userSessions : World Addr)) where
  orderly := horderly
  tidy := by
    intro c room hin
    simp [Goroutines.idle, World.new, Hub.new, Hub.InRoom] at hin
  occupied := by
    have hnone : ∀ c room, ¬ Hub.new.Occupies c room := by
      intro c room hc
      simp [Hub.Occupies, Hub.Registered, Hub.new] at hc
    exact {
      authenticated := fun c hne => absurd rfl hne
      seated := fun c room hc => absurd hc (hnone c room)
      stated := by
        intro u state hstate
        simp [Goroutines.idle, World.new, Hub.new] at hstate
      voiced := fun c room hc => absurd hc (hnone c room)
      listed := fun c room hc => absurd hc (hnone c room) }

/-- In every run whose steps keep voice membership in step, once no handler is in
progress the maps of the hub and its clients agree. -/
theorem occupancyAgrees_of_occupancyKept (voiceTokens : VoiceTokens) (userSessions : UserSessions)
    (ts : List (Turn Addr)) (hkept : OccupancyKept (World.new voiceTokens userSessions) ts)
    (hquiet : Quiet (after (World.new voiceTokens userSessions) ts)) :
    (after (World.new voiceTokens userSessions) ts).shared.hub.OccupancyAgrees := by
  have hseated : Seated (after (World.new voiceTokens userSessions) ts) := by
    refine system.run_rule KeepsOccupancyAt Seated ?_ ?_ ?_ ts hkept
    · exact seated_new voiceTokens userSessions (orderly_after voiceTokens userSessions [])
    · intro k r hinv _ hidle
      exact hinv.serve r hidle
    · intro k t g a w' acts hinv hok hp
      exact hinv.perform hok hp
  have hsafe : ∀ c, ¬ Doomed (after (World.new voiceTokens userSessions) ts) c :=
    fun c => hquiet.not_pending _
  constructor
  · intro room c
    constructor
    · intro hin
      obtain ⟨heq, hne, hreg, -⟩ := hseated.tidy c room hin
      exact ⟨hreg, heq.symm, hne⟩
    · exact fun hc => (hseated.occupied.seated c room hc).resolve_right (hsafe c)
  · intro u
    constructor
    · intro hsome
      obtain ⟨state, hstate⟩ := Option.ne_none_iff_exists'.mp hsome
      obtain ⟨c, hc⟩ := hseated.occupied.stated u state hstate
      exact ⟨c, state.channelID, hc⟩
    · intro hvoice
      obtain ⟨c, room, hc, -, rfl⟩ := hvoice
      exact (hseated.occupied.voiced c room hc).resolve_right (hsafe c)
  · exact hseated.occupied.stated

/-- Connection 2 logs in as user 7 too and joins channel 2 with the token `y`. -/
def joinsAgain : List (Turn Nat) :=
  [.serve (.serveWs 1 2), .advance (.accept 1) (calm []),
    .serve (.login 2 ⟨7, "kim", permDefaultMember⟩), .advance (.readPump 2) (calm [0x74]),
    .advance (.readPump 2) (calm []), .advance (.readPump 2) (calm []),
    .serve (.joinVoice 2 2 false false), .advance (.readPump 2) (calm []),
    .advance (.readPump 2) (calm []), .advance (.readPump 2) (calm [0x79]),
    .advance (.readPump 2) (calm [])]

/-- Connection 1 leaves voice. -/
def leaves : List (Turn Nat) :=
  [.serve (.leaveVoice 1), .advance (.readPump 1) (calm []), .advance (.readPump 1) (calm [])]

theorem occupancyKept_joined_leaves : OccupancyKept (World.new ∅ ∅) (joined ++ leaves) := by
  simp only [OccupancyKept, joined, leaves, List.cons_append, List.nil_append, Machine.along_cons_iff]
  refine ⟨?_, ?_, ?_, ?_, ?_, ?_, ?_, ?_, ?_, ?_, ?_, ?_, ?_, ?_, Machine.along_nil⟩
  all_goals
    intro a x hdoes
    obtain ⟨g, rest, hturn, htodo⟩ := hdoes
    cases hturn <;> cases htodo
  case refine_5 =>
    intro room hc
    exact absurd hc.2.1.symm hc.2.2
  case refine_13 =>
    intro _ c room hne hc
    have hreg : (GoMap.set (∅ : ClientSet) 1 ()).get? c = some () := hc.1
    rw [GoMap.get?_set, if_neg hne] at hreg
    cases hreg
  all_goals trivial

theorem occupancyAgrees_of_occupancyKept_joined :
    (after (World.new ∅ ∅) (joined ++ leaves)).shared.hub.OccupancyAgrees :=
  occupancyAgrees_of_occupancyKept ∅ ∅ (joined ++ leaves) occupancyKept_joined_leaves
    (system.quiet_of_all _ rfl)

/-- The second device of user 7 is in channel 2 without a voice state once the first
has left. -/
theorem second_device_loses_voice_state :
    ¬ ∀ ts : List (Turn Nat), Quiet (after (World.new ∅ ∅) ts) →
      (after (World.new ∅ ∅) ts).shared.hub.OccupancyAgrees := by
  intro hall
  have hagrees := hall (joined ++ joinsAgain ++ leaves) (system.quiet_of_all _ rfl)
  exact (hagrees.voiceStates 7).mpr ⟨2, 2, ⟨rfl, rfl, by decide⟩, rfl, rfl⟩ rfl

end server

end low_latency_voice.control

import LowLatencyVoice.Control.Connections
import LowLatencyVoice.Control.Rooms

open low_latency_voice.model low_latency_voice.storage low_latency_voice.audio

namespace low_latency_voice.control

namespace Hub

/-- How many clients are in a voice channel. -/
def occupancy (h : Hub) (channelID : UInt32) : Nat := ((h.voiceChannels.get? channelID).getD ∅).len

/-- The clients in a voice channel. -/
def members (h : Hub) (channelID : UInt32) : List ClientID :=
  ((h.voiceChannels.get? channelID).getD ∅).pairs.map Prod.fst

/-- How many connections of a user a move would bring into a voice channel. -/
def newcomers (h : Hub) (userID channelID : UInt32) : Nat :=
  (h.clientsOf userID).countP fun c => h.voiceChannels.get₂ channelID c = none

/-- No voice channel holds more clients than its row allows. -/
def WithinLimits (h : Hub) (channels : UInt32 → Option Channel) : Prop :=
  ∀ room channel, channels room = some channel → channel.type = "voice" →
    (h.occupancy room : Int) ≤ roomLimit channel

theorem length_members (h : Hub) (channelID : UInt32) :
    (h.members channelID).length = h.occupancy channelID := by
  simp [members, occupancy, GoMap.pairs, GoMap.len]

theorem nodup_members (h : Hub) (channelID : UInt32) : (h.members channelID).Nodup :=
  GoMap.nodup_pairs_keys _

theorem nodup_clientsOf (h : Hub) (userID : UInt32) : (h.clientsOf userID).Nodup :=
  GoMap.nodup_pairs_keys _

theorem mem_members {h : Hub} {channelID : UInt32} {c : ClientID} :
    c ∈ h.members channelID ↔ h.InRoom channelID c := by
  unfold members InRoom GoMap.get₂
  rw [List.mem_map]
  constructor
  · intro hmem
    obtain ⟨⟨c', u⟩, hpair, heq⟩ := hmem
    cases heq
    rw [GoMap.mem_pairs_iff] at hpair
    cases hget : h.voiceChannels.get? channelID with
    | none => simp [hget] at hpair
    | some set => simpa [hget] using hpair
  · intro hroom
    obtain ⟨set, hset, hmem⟩ := Option.bind_eq_some_iff.mp hroom
    refine ⟨(c, ()), ?_, rfl⟩
    rw [GoMap.mem_pairs_iff, hset]
    exact hmem

/-- A channel grows by no more than the clients that are new in it. -/
theorem occupancy_le {h h' : Hub} {room : UInt32} {added : List ClientID}
    (hadded : ∀ c, h'.InRoom room c → h.InRoom room c ∨ c ∈ added) :
    h'.occupancy room ≤ h.occupancy room + added.length := by
  have hsubset : h'.members room ⊆ h.members room ++ added := by
    intro c hc
    rw [List.mem_append, mem_members]
    exact hadded c (mem_members.mp hc)
  have hlength := (List.subperm_of_subset (h'.nodup_members room) hsubset).length_le
  rwa [List.length_append, length_members, length_members] at hlength

/-- An admitted client was in the channel, or there was room for one more. -/
theorem joinVoice_room {h h' : Hub} {now : Time} {c : ClientID} {channelID : UInt32} {channel : Channel}
    {selfMuted selfDeafened : Bool}
    (hok : h.joinVoice now c channelID channel selfMuted selfDeafened = .ok h') :
    h.InRoom channelID c ∨ (h.occupancy channelID : Int) < roomLimit channel := by
  unfold joinVoice at hok
  simp only at hok
  split at hok
  · cases hok
  split at hok
  · cases hok
  rename_i hroom
  rw [not_and_or] at hroom
  obtain hless | hin := hroom
  · exact .inr (Int.not_le.mp hless)
  · left
    obtain ⟨_, hget⟩ := Option.ne_none_iff_exists'.mp hin
    exact hget

/-- A user in voice can be moved. -/
theorem moveMember_of_state {h : Hub} (u room : UInt32) {state : VoiceState}
    (hstate : h.voiceStates.get? u = some state) (hne : state.channelID ≠ 0) :
    ∃ h', h.moveMember u room = some h' := by
  unfold moveMember
  simp only [hstate, if_neg hne]
  exact ⟨_, rfl⟩

/-- A move brings in exactly the connections of the user that were not there. -/
theorem occupancy_moveMember {h h' : Hub} {u room : UInt32} (hmove : h.moveMember u room = some h') :
    h'.occupancy room = h.occupancy room + h.newcomers u room := by
  obtain ⟨_, -, -, -, -, -, -, hrooms⟩ := moveMember_eq_some hmove
  have hnew : ∀ c, c ∈ (h.clientsOf u).filter (fun c => h.voiceChannels.get₂ room c = none) ↔
      c ∈ h.clientsOf u ∧ ¬ h.InRoom room c := by
    intro c
    rw [List.mem_filter, decide_eq_true_iff, InRoom]
    cases h.voiceChannels.get₂ room c <;> simp
  rw [newcomers, List.countP_eq_length_filter]
  apply Nat.le_antisymm
  · apply occupancy_le
    intro c hc
    rw [hrooms] at hc
    by_cases hin : h.InRoom room c
    · exact .inl hin
    · right
      split at hc
      · exact (hnew c).mpr ⟨‹_›, hin⟩
      · exact absurd hc hin
  · have hnodup : (h.members room ++ (h.clientsOf u).filter
        (fun c => h.voiceChannels.get₂ room c = none)).Nodup := by
      refine List.Nodup.append (h.nodup_members room) ((h.nodup_clientsOf u).filter _) ?_
      intro c hold hadded
      exact ((hnew c).mp hadded).2 (mem_members.mp hold)
    have hsubset : h.members room ++ (h.clientsOf u).filter
        (fun c => h.voiceChannels.get₂ room c = none) ⊆ h'.members room := by
      intro c hc
      rw [mem_members, hrooms]
      obtain hold | hadded := List.mem_append.mp hc
      · split
        · exact .inl rfl
        · exact mem_members.mp hold
      · rw [if_pos ((hnew c).mp hadded).1]
        exact .inl rfl
    have hlength := (List.subperm_of_subset hnodup hsubset).length_le
    rwa [List.length_append, length_members, length_members] at hlength

end Hub

namespace server

variable {Addr : Type} [DecidableEq Addr]

/-- What `join_voice` reads of `channels` are its rows. -/
def ReadsChannels (channels : UInt32 → Option Channel) (w : World Addr) (ts : List (Turn Addr)) : Prop :=
  Machine.Along (fun pre t => ∀ c room selfMuted selfDeafened x channel,
    Does (after w pre) t (.getChannelByID c room selfMuted selfDeafened) x → x.channel = some channel →
      channels room = some channel) ts

/-- A move finds room for every connection of its user, if it goes to a voice channel. -/
def MoveFits (channels : UInt32 → Option Channel) (h : Hub) : Act Addr → Prop
  | .moveMember u room =>
    ∀ channel source, channels room = some channel → channel.type = "voice" → h.room? u = some source →
      source ≠ 0 → ((h.occupancy room + h.newcomers u room : Nat) : Int) ≤ Hub.roomLimit channel
  | _ => True

/-- Every move of the schedule fits. -/
def MovesFit (channels : UInt32 → Option Channel) (w : World Addr) (ts : List (Turn Addr)) : Prop :=
  Machine.Along
    (fun pre t => ∀ a x, Does (after w pre) t a x → MoveFits channels (after w pre).shared.hub a) ts

/-- Only a join or a move brings a connection into a room. -/
theorem inRoom_act {w : World Addr} {x : Choice} {a : Act Addr} {room : UInt32} {c : ClientID}
    (h : (act w x a).1.hub.InRoom room c) :
    w.hub.InRoom room c ∨
      (∃ channel selfMuted selfDeafened, a = .joinVoice c room channel selfMuted selfDeafened) ∨
      ∃ u, a = .moveMember u room ∧ w.hub.Listed u c := by
  have hchange := hubChange_act w x a
  generalize (act w x a).1.hub = h' at hchange h
  cases hchange with
  | untouched | signIn | addUserClient => exact .inl h
  | registerClient c' =>
    unfold Hub.registerClient at h
    split at h <;> exact .inl h
  | @joinVoice c' room' channel selfMuted selfDeafened h' hok =>
    obtain ⟨-, -, -, -, -, -, hrooms⟩ := Hub.joinVoice_ok hok
    obtain ⟨rfl, rfl⟩ | ⟨hold, -⟩ := (hrooms room c).mp h
    · exact .inr (.inl ⟨channel, selfMuted, selfDeafened, rfl⟩)
    · exact .inl hold
  | leaveVoice _ =>
    rw [Hub.InRoom, GoMap.get₂_drop₂] at h
    split at h
    · cases h
    · exact .inl h
  | setVoiceState =>
    rw [Hub.InRoom, Hub.setVoiceState, (Hub.withVoiceState_fields _ _ _).2.2.1] at h
    exact .inl h
  | setFlag =>
    rw [Hub.InRoom, Hub.setFlag, (Hub.withVoiceState_fields _ _ _).2.2.1] at h
    exact .inl h
  | @moveMember u room' h' hmove =>
    obtain ⟨_, -, -, -, -, -, -, hrooms⟩ := Hub.moveMember_eq_some hmove
    rw [hrooms] at h
    split at h
    · rename_i hmem
      obtain rfl | ⟨-, hold⟩ := h
      · exact .inr (.inr ⟨u, rfl, Hub.mem_clientsOf.mp hmem⟩)
      · exact .inl hold
    · exact .inl h
  | kickMember u => exact .inl (((w.hub.kickMember_spec u).2.2.2.2.2 room c).mp h).1
  | handleClientDisconnect hreg =>
    exact .inl (((Hub.handleClientDisconnect_of_registered hreg).2.2.2.1 room c).mp h).1

/-- A join is preceded by the read of its channel. -/
theorem joinVoice_of_mem_act {w : World Addr} {x : Choice} {a : Act Addr} {c : ClientID} {room : UInt32}
    {channel : Channel} {selfMuted selfDeafened : Bool}
    (h : .joinVoice c room channel selfMuted selfDeafened ∈ (act w x a).2) :
    a = .getChannelByID c room selfMuted selfDeafened ∧ x.channel = some channel := by
  cases a with
  | getChannelByID c' room' selfMuted' selfDeafened' =>
    simp only [act] at h
    split at h
    · cases h
    · split at h
      · cases List.mem_singleton.mp h
        exact ⟨rfl, ‹_›⟩
      · cases h
  | kickMember targetUserID => simp [act] at h
  | registerClient | deleteSession | signIn | addUserClient | registerPending | leaveVoice |
    setVoiceState | removeSession | moveSession | setFlag | writeFlag | deleteUserSessions |
    revokeVoiceTokens | registerSession | retune | updateAddr | cleanStaleSessions => simp [act] at h
  | getSession | getUserWithRoles | createSession | joinVoice | generateUDPToken | moveMember |
    lookupFlag | handleClientDisconnect | activatePending | consumeVoiceToken | getByUser =>
    simp only [act] at h
    grind

/-- What holds in every state: joins in progress carry the row of their channel, and
no channel holds too many. -/
structure Capacious (channels : UInt32 → Option Channel) (k : State Addr) : Prop where
  rows : ∀ g c room channel selfMuted selfDeafened,
    .joinVoice c room channel selfMuted selfDeafened ∈ k.todo g → channels room = some channel
  within : k.shared.hub.WithinLimits channels

section step

variable {channels : UInt32 → Option Channel} {k : State Addr}

omit [DecidableEq Addr] in
theorem Capacious.serve (h : Capacious channels k) (r : Request Addr) :
    Capacious channels { k with todo := Function.update k.todo r.owner (program k.shared r) } where
  rows := by
    intro g c room channel selfMuted selfDeafened hmem
    by_cases hg : g = r.owner
    · subst g
      simp only [Function.update_self] at hmem
      cases begins_of_mem_program hmem
    · simp only [Function.update_of_ne hg] at hmem
      exact h.rows g c room channel selfMuted selfDeafened hmem
  within := h.within

variable {t : Turn Addr} {g : Routine} {a : Act Addr} {w' : World Addr} {acts : List (Act Addr)}

omit [DecidableEq Addr] in
/-- An admitted join keeps every channel within its limit. -/
theorem Capacious.within_join (h : Capacious channels k) {now : Time} {c : ClientID} {room : UInt32}
    {channel : Channel} {selfMuted selfDeafened : Bool} {h' : Hub}
    (hok : k.shared.hub.joinVoice now c room channel selfMuted selfDeafened = .ok h')
    (hmem : .joinVoice c room channel selfMuted selfDeafened ∈ k.todo g) : h'.WithinLimits channels := by
  obtain ⟨-, -, -, -, -, -, hrooms⟩ := Hub.joinVoice_ok hok
  intro ch row hrow hvoice
  have hlimit := h.within ch row hrow hvoice
  by_cases hnew : ch = room ∧ ¬ k.shared.hub.InRoom room c
  · obtain ⟨rfl, hout⟩ := hnew
    have hchannel : row = channel := by
      have hread := h.rows g c ch channel selfMuted selfDeafened hmem
      rw [hrow] at hread
      exact Option.some.inj hread
    have hgrows : h'.occupancy ch ≤ k.shared.hub.occupancy ch + [c].length := by
      apply Hub.occupancy_le
      intro c' hc'
      obtain ⟨-, rfl⟩ | ⟨hold, -⟩ := (hrooms ch c').mp hc'
      · exact .inr (List.mem_singleton_self _)
      · exact .inl hold
    have hfree := (Hub.joinVoice_room hok).resolve_left hout
    rw [hchannel]
    rw [List.length_singleton] at hgrows
    omega
  · have hshrinks : h'.occupancy ch ≤ k.shared.hub.occupancy ch + ([] : List ClientID).length := by
      apply Hub.occupancy_le
      intro c' hc'
      left
      obtain ⟨rfl, rfl⟩ | ⟨hold, -⟩ := (hrooms ch c').mp hc'
      · by_contra hout
        exact hnew ⟨rfl, hout⟩
      · exact hold
    rw [List.length_nil] at hshrinks
    omega

omit [DecidableEq Addr] in
/-- So does a move that fits. -/
theorem Capacious.within_move (h : Capacious channels k) {u room : UInt32} {h' : Hub}
    (hmove : k.shared.hub.moveMember u room = some h')
    (hfits : MoveFits channels k.shared.hub (.moveMember u room : Act Addr)) : h'.WithinLimits channels := by
  obtain ⟨state, hstate, hne, -, -, -, -, hrooms⟩ := Hub.moveMember_eq_some hmove
  intro ch row hrow hvoice
  have hlimit := h.within ch row hrow hvoice
  by_cases hch : ch = room
  · subst ch
    rw [Hub.occupancy_moveMember hmove]
    exact hfits row state.channelID hrow hvoice (by rw [Hub.room?, hstate]; rfl) hne
  · have hshrinks : h'.occupancy ch ≤ k.shared.hub.occupancy ch + ([] : List ClientID).length := by
      apply Hub.occupancy_le
      intro c hc
      left
      rw [hrooms] at hc
      split at hc
      · exact (hc.resolve_left hch).2
      · exact hc
    rw [List.length_nil] at hshrinks
    omega

theorem Capacious.perform (h : Capacious channels k)
    (hread : ∀ c room selfMuted selfDeafened x channel,
      Does k t (.getChannelByID c room selfMuted selfDeafened) x → x.channel = some channel →
        channels room = some channel)
    (hfits : ∀ a x, Does k t a x → MoveFits channels k.shared.hub a)
    (hp : system.Performs k t g a w' acts) : Capacious channels (system.step k t) := by
  obtain ⟨x, hdoes, hact⟩ := exists_does hp
  constructor
  · intro g' c room channel selfMuted selfDeafened hmem
    obtain ⟨-, hnew⟩ | hold := hp.mem_elim hmem
    · have hbefore : .joinVoice c room channel selfMuted selfDeafened ∈ (act k.shared x a).2 → _ :=
        joinVoice_of_mem_act
      rw [hact] at hbefore
      obtain ⟨rfl, hchannel⟩ := hbefore hnew
      exact hread c room selfMuted selfDeafened x channel hdoes hchannel
    · exact h.rows g' c room channel selfMuted selfDeafened hold
  · have hchange := hubChange_act k.shared x a
    rw [hact, ← hp.shared] at hchange
    by_cases hjoin : ∃ c room channel selfMuted selfDeafened,
        a = .joinVoice c room channel selfMuted selfDeafened
    · obtain ⟨c, room, channel, selfMuted, selfDeafened, rfl⟩ := hjoin
      generalize (system.step k t).shared.hub = h' at hchange ⊢
      cases hchange with
      | untouched => exact h.within
      | joinVoice hok => exact h.within_join hok hp.mem_todo
    by_cases hmove : ∃ u room, a = .moveMember u room
    · obtain ⟨u, room, rfl⟩ := hmove
      generalize (system.step k t).shared.hub = h' at hchange ⊢
      cases hchange with
      | untouched => exact h.within
      | moveMember hok => exact h.within_move hok (hfits _ x hdoes)
    intro ch row hrow hvoice
    have hlimit := h.within ch row hrow hvoice
    have hshrinks : (system.step k t).shared.hub.occupancy ch ≤
        k.shared.hub.occupancy ch + ([] : List ClientID).length := by
      apply Hub.occupancy_le
      intro c hc
      left
      have hgain : (act k.shared x a).1.hub.InRoom ch c → _ := inRoom_act
      rw [hact, ← hp.shared] at hgain
      obtain hold | ⟨channel, selfMuted, selfDeafened, ha⟩ | ⟨u, ha, -⟩ := hgain hc
      · exact hold
      · exact absurd ⟨c, ch, channel, selfMuted, selfDeafened, ha⟩ hjoin
      · exact absurd ⟨u, ch, ha⟩ hmove
    rw [List.length_nil] at hshrinks
    omega

end step

/-- A turn that does an action leaves what the action leaves. -/
theorem shared_after_does {w : World Addr} {pre : List (Turn Addr)} {t : Turn Addr} {a : Act Addr}
    {x : Choice} (hdoes : Does (after w pre) t a x) :
    (after w (pre ++ [t])).shared = (act (after w pre).shared x a).1 := by
  obtain ⟨g, rest, rfl, htodo⟩ := hdoes
  have hstep : after w (pre ++ [.advance g x]) = system.step (after w pre) (.advance g x) :=
    Machine.run_concat _ _ _ _
  rw [hstep]
  simp only [Goroutines.step, htodo]
  rfl

/-- With limits that are not negative, no channel ever holds too many clients if and
only if every move of the schedule fits. -/
theorem withinLimits_iff_movesFit (channels : UInt32 → Option Channel) (voiceTokens : VoiceTokens)
    (userSessions : UserSessions) (ts : List (Turn Addr))
    (hlimits : ∀ room channel, channels room = some channel → 0 ≤ channel.userLimit)
    (hread : ReadsChannels channels (World.new voiceTokens userSessions) ts) :
    (∀ pre post, ts = pre ++ post →
      (after (World.new voiceTokens userSessions) pre).shared.hub.WithinLimits channels) ↔
    MovesFit channels (World.new voiceTokens userSessions) ts := by
  constructor
  · intro hwithin pre t post heq a x hdoes
    cases a with
    | moveMember u room =>
      intro channel source hrow hvoice hsource hne
      obtain ⟨state, hstate, rfl⟩ := Option.map_eq_some_iff.mp hsource
      have hafter := hwithin (pre ++ [t]) post (by simp [heq]) room channel hrow hvoice
      obtain ⟨h', hmove⟩ := Hub.moveMember_of_state u room hstate hne
      rw [shared_after_does hdoes] at hafter
      simp only [act, hmove] at hafter
      rwa [Hub.occupancy_moveMember hmove] at hafter
    | _ => trivial
  · intro hfits pre post heq
    have hinv : Capacious channels (after (World.new voiceTokens userSessions) pre) := by
      refine system.run_rule (fun k t =>
        (∀ c room selfMuted selfDeafened x channel,
          Does k t (.getChannelByID c room selfMuted selfDeafened) x → x.channel = some channel →
            channels room = some channel) ∧
        ∀ a x, Does k t a x → MoveFits channels k.shared.hub a) (Capacious channels) ?_ ?_ ?_ pre ?_
      · refine ⟨?_, ?_⟩
        · intro g c room channel selfMuted selfDeafened hmem
          cases hmem
        · intro room channel hrow _
          have hpositive := hlimits room channel hrow
          have hempty : (Hub.new.occupancy room : Int) = 0 := rfl
          simp only [Goroutines.idle, World.new, hempty, Hub.roomLimit]
          split <;> omega
      · intro k r h _ _
        exact h.serve r
      · intro k t g a w' acts h hok hp
        exact h.perform hok.1 hok.2 hp
      · rw [heq] at hread hfits
        exact fun front t back hpre => ⟨hread.front front t back hpre, hfits.front front t back hpre⟩
    exact hinv.within

/-- Channel 2 has the default limit, channel 3 is for one client. -/
def twoChannels : UInt32 → Option Channel := fun room =>
  if room = 2 then some ⟨"voice", 0⟩ else if room = 3 then some ⟨"voice", 1⟩ else none

/-- A choice under which every call succeeds and the channel read is channel 3. -/
def calmSmall (token : Token) : Choice := { calm token with channel := twoChannels 3 }

/-- Connection 1 logs in as user 3, who may move members, and joins channel 2;
connection 2 logs in as user 8 and joins channel 3; then user 3 moves to channel 3. -/
def crowds : List (Turn Nat) :=
  [.serve (.serveWs 0 1), .advance (.accept 0) (calm []),
    .serve (.login 1 ⟨3, "mod", permModerator⟩), .advance (.readPump 1) (calm [0x6d]),
    .advance (.readPump 1) (calm []), .advance (.readPump 1) (calm []),
    .serve (.joinVoice 1 2 false false), .advance (.readPump 1) (calm []),
    .advance (.readPump 1) (calm []), .advance (.readPump 1) (calm [0x78]),
    .advance (.readPump 1) (calm []),
    .serve (.serveWs 1 2), .advance (.accept 1) (calm []),
    .serve (.login 2 ⟨8, "lee", permDefaultMember⟩), .advance (.readPump 2) (calm [0x74]),
    .advance (.readPump 2) (calm []), .advance (.readPump 2) (calm []),
    .serve (.joinVoice 2 3 false false), .advance (.readPump 2) (calmSmall []),
    .advance (.readPump 2) (calmSmall []), .advance (.readPump 2) (calmSmall [0x79]),
    .advance (.readPump 2) (calmSmall []),
    .serve (.moveMember 1 3 3), .advance (.readPump 1) (calm []), .advance (.readPump 1) (calm [])]

theorem userLimit_twoChannels (room : UInt32) (channel : Channel) (h : twoChannels room = some channel) :
    0 ≤ channel.userLimit := by
  unfold twoChannels at h
  split at h
  · cases h
    decide
  · split at h
    · cases h
      decide
    · cases h

theorem withinLimits_iff_movesFit_joined :
    (∀ pre post, joined = pre ++ post → (after (World.new ∅ ∅) pre).shared.hub.WithinLimits twoChannels) ↔
      MovesFit twoChannels (World.new ∅ ∅) joined := by
  refine withinLimits_iff_movesFit twoChannels ∅ ∅ joined userLimit_twoChannels ?_
  simp only [ReadsChannels, joined, Machine.along_cons_iff]
  refine ⟨?_, ?_, ?_, ?_, ?_, ?_, ?_, ?_, ?_, ?_, ?_, Machine.along_nil⟩
  all_goals
    intro c room selfMuted selfDeafened x channel hdoes hchannel
    obtain ⟨g, rest, hturn, htodo⟩ := hdoes
    cases hturn <;> cases htodo
  exact hchannel

/-- A move into a full channel is let through. -/
theorem move_overfills_channel :
    ¬ ∀ ts : List (Turn Nat), ReadsChannels twoChannels (World.new ∅ ∅) ts →
      (after (World.new ∅ ∅) ts).shared.hub.WithinLimits twoChannels := by
  intro hall
  have hread : ReadsChannels twoChannels (World.new ∅ ∅) crowds := by
    simp only [ReadsChannels, crowds, Machine.along_cons_iff]
    refine ⟨?_, ?_, ?_, ?_, ?_, ?_, ?_, ?_, ?_, ?_, ?_, ?_, ?_, ?_, ?_, ?_, ?_, ?_, ?_, ?_, ?_, ?_, ?_,
      ?_, ?_, Machine.along_nil⟩
    all_goals
      intro c room selfMuted selfDeafened x channel hdoes hchannel
      obtain ⟨g, rest, hturn, htodo⟩ := hdoes
      cases hturn <;> cases htodo
    all_goals exact hchannel
  have hfull := hall crowds hread 3 ⟨"voice", 1⟩ rfl rfl
  have htwo : (after (World.new ∅ ∅) crowds).shared.hub.occupancy 3 = 2 := rfl
  rw [htwo] at hfull
  exact absurd hfull (by decide)

end server

end low_latency_voice.control

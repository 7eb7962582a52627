import LowLatencyVoice.Client.ClearedState
import LowLatencyVoice.Client.Roster
import LowLatencyVoice.Control.Online

open low_latency_voice.control low_latency_voice.storage

namespace low_latency_voice.client.state

/-- The fields of a profile that events write. -/
def UserProfile.of (m : Profile) : UserProfile where
  userId := .ofNat m.userId.toNat
  online := m.online
  status := m.status
  voiceChannelId := m.voiceChannelId.map fun id => .ofNat id.toNat

/-- The roster once these events have come. -/
def RosterState.afterAll (state : RosterState) (broadcasts : List Broadcast) : RosterState :=
  broadcasts.foldl (fun state broadcast => state.onEvent broadcast.event) state

/-- The users these events tell to be kicked. -/
def kicked (broadcasts : List Broadcast) : List UInt32 :=
  broadcasts.filterMap fun broadcast =>
    match broadcast.event with
    | .memberKicked userID _ => some userID
    | _ => none

/-- Every member of the list is shown as online or offline, as he is. -/
def ShowsOnline (online : UInt32 → Bool) (members : List UserProfile) : Prop :=
  ∀ m ∈ members, m.online = online m.userId ∧ m.status = if online m.userId then "online" else "offline"

section events

variable {online : UInt32 → Bool} {state : RosterState}

theorem showsOnline_onEvent (h : ShowsOnline online state.members) (broadcast : Broadcast) :
    ShowsOnline (Writes.apply online (presences [broadcast])) (state.onEvent broadcast.event).members := by
  obtain ⟨channelID, event⟩ := broadcast
  cases event with
  | presenceUpdate userID username isOnline =>
    intro m' hm'
    obtain ⟨m, hm, rfl⟩ := List.mem_map.mp hm'
    change _ = Function.update online userID isOnline _ ∧ _ = if Function.update online userID isOnline _ then _ else _
    by_cases hu : m.userId = userID
    · rw [if_pos hu]
      change isOnline = Function.update online userID isOnline m.userId ∧
        (if isOnline then "online" else "offline") =
          if Function.update online userID isOnline m.userId then "online" else "offline"
      rw [hu, Function.update_self]
      exact ⟨rfl, rfl⟩
    · rw [if_neg hu, Function.update_of_ne hu]
      exact h m hm
  | voiceStateUpdate data =>
    intro m' hm'
    obtain ⟨m, hm, rfl⟩ := List.mem_map.mp hm'
    split <;> exact h m hm
  | memberKicked userID reason => exact fun m hm => h m (List.mem_filter.mp hm).1
  | _ => exact h

theorem showsOnline_afterAll (broadcasts : List Broadcast) : ∀ {online : UInt32 → Bool} {state : RosterState},
    ShowsOnline online state.members →
      ShowsOnline (Writes.apply online (presences broadcasts)) (state.afterAll broadcasts).members := by
  induction broadcasts with
  | nil => exact id
  | cons broadcast broadcasts ih =>
    intro online state h
    have hsplit : presences (broadcast :: broadcasts) = presences [broadcast] ++ presences broadcasts :=
      List.filterMap_append (l := [broadcast])
    rw [hsplit, Writes.apply_append]
    exact ih (showsOnline_onEvent h broadcast)

/-- Only a kick takes a member off the list. -/
theorem userIds_onEvent (state : RosterState) (broadcast : Broadcast) :
    (state.onEvent broadcast.event).members.map UserProfile.userId =
      (state.members.map UserProfile.userId).filter (· ∉ kicked [broadcast]) := by
  have hkept : ∀ f : UserProfile → UserProfile, (∀ m, (f m).userId = m.userId) →
      (state.members.map f).map UserProfile.userId = state.members.map UserProfile.userId := by
    intro f hf
    rw [List.map_map]
    exact List.map_congr_left fun m _ => hf m
  obtain ⟨channelID, event⟩ := broadcast
  cases event with
  | presenceUpdate userID username isOnline =>
    simp only [kicked, List.filterMap_cons, List.filterMap_nil, List.not_mem_nil, not_false_eq_true,
      decide_true, List.filter_true]
    refine hkept _ fun m => ?_
    split <;> rfl
  | voiceStateUpdate data =>
    simp only [kicked, List.filterMap_cons, List.filterMap_nil, List.not_mem_nil, not_false_eq_true,
      decide_true, List.filter_true]
    refine hkept _ fun m => ?_
    split <;> rfl
  | memberKicked userID reason =>
    simp only [kicked, List.filterMap_cons, List.filterMap_nil, List.mem_singleton, List.filter_map]
    rfl
  | _ =>
    simp only [kicked, List.filterMap_cons, List.filterMap_nil, List.not_mem_nil, not_false_eq_true,
      decide_true, List.filter_true]
    rfl

theorem userIds_afterAll (broadcasts : List Broadcast) : ∀ state : RosterState,
    (state.afterAll broadcasts).members.map UserProfile.userId =
      (state.members.map UserProfile.userId).filter (· ∉ kicked broadcasts) := by
  induction broadcasts with
  | nil =>
    intro state
    simp only [kicked, List.filterMap_nil, List.not_mem_nil, not_false_eq_true, decide_true, List.filter_true]
    rfl
  | cons broadcast broadcasts ih =>
    intro state
    have hsplit : kicked (broadcast :: broadcasts) = kicked [broadcast] ++ kicked broadcasts :=
      List.filterMap_append (l := [broadcast])
    have hone := userIds_onEvent state broadcast
    rw [hsplit]
    change ((state.onEvent broadcast.event).afterAll broadcasts).members.map UserProfile.userId = _
    rw [ih, hone, List.filter_filter]
    congr 1
    funext id
    simp only [List.mem_append, not_or, Bool.decide_and, Bool.and_comm]

end events

section fetched

open Backend

variable {Addr : Type} [DecidableEq Addr]

/-- The roster of a response, member by member. -/
theorem fetchRoster_members (encoder : GoEncoder) (numbers : DartNumbers) (reqID : Json) (h : Hub)
    (users : List UserWithRoles) :
    ∃ roster, RosterNotifier.fetchRoster numbers (encoder.response (rosterResponse reqID h users)) = some roster ∧
      roster.members = users.map (Hub.profile h) := by
  have hloop : ∀ (users : List UserWithRoles) (roster : Roster),
      ∃ roster', (users.map fun u => encoder.rosterMember (Region.rosterMember h u)).foldlM
          (RosterNotifier.addMember numbers) roster = some roster' ∧
        roster'.members = roster.members ++ users.map (Hub.profile h) := by
    intro users
    induction users with
    | nil => exact fun roster => ⟨roster, rfl, by simp⟩
    | cons u users ih =>
      intro roster
      have hone := addMember_rosterMember encoder numbers roster (Region.rosterMember h u)
      rw [List.map_cons, List.foldlM_cons, hone, profile_of_rosterMember]
      obtain ⟨roster', hrest, hmembers⟩ := ih _
      exact ⟨roster', hrest, by rw [hmembers, List.append_assoc]; rfl⟩
  rw [RosterNotifier.fetchRoster, membersOf_data]
  exact hloop users ⟨[], ∅⟩

/-- The fetched members are online if the hub has a connection of theirs. -/
theorem showsOnline_fetched (h : Hub) (users : List UserWithRoles) :
    ShowsOnline h.isUserOnline ((users.map (Hub.profile h)).map UserProfile.of) := by
  intro m hm
  rw [List.map_map] at hm
  obtain ⟨u, -, rfl⟩ := List.mem_map.mp hm
  have honline : h.isUserOnline u.id = decide (0 < (h.clientsOf u.id).length) := by
    rw [Bool.eq_iff_iff, Hub.isUserOnline_iff, decide_eq_true_iff, List.length_pos_iff_exists_mem]
    exact exists_congr fun c => Hub.mem_clientsOf.symm
  have hid : (UserProfile.of (Hub.profile h u)).userId = u.id := by
    change UInt32.ofNat u.id.toNat = u.id
    exact UInt32.ofNat_toNat
  rw [Function.comp_apply, hid, honline]
  exact ⟨rfl, by simp only [decide_eq_true_eq]; rfl⟩

end fetched

end low_latency_voice.client.state

import Mathlib.Logic.Function.Basic
import LowLatencyVoice.Control.Broadcast

open low_latency_voice.control

namespace low_latency_voice.client.state

/-- `Map<int, List<int>>`: the users the client shows in each voice channel. -/
abbrev VoiceOccupants := GoMap UInt32 (List UInt32)

namespace ChannelsNotifier

/-- `_updateVoiceOccupant`. -/
def updateVoiceOccupant (occupants : VoiceOccupants) (userId : UInt32) (channelId : Option UInt32) :
    VoiceOccupants :=
  let updated := occupants.mapValues fun ids => ids.filter fun id => id ≠ userId
  match channelId with
  | none => updated
  | some channelId =>
    if 0 < channelId then
      let updated := if updated.get? channelId = none then updated.set channelId [] else updated
      let ids := (updated.get? channelId).getD []
      if userId ∈ ids then updated else updated.set channelId (ids ++ [userId])
    else updated

/-- The listener of `ChannelsNotifier`, as far as it changes `voiceOccupants`. A
`channel_id` that is missing reads as null. -/
def onEvent (occupants : VoiceOccupants) : Event → VoiceOccupants
  | .voiceStateUpdate data => updateVoiceOccupant occupants data.userID data.channelID.join
  | .memberMoved userID _ toChannelID => updateVoiceOccupant occupants userID (some toChannelID)
  | .memberKicked userID _ => updateVoiceOccupant occupants userID none
  | _ => occupants

end ChannelsNotifier

inductive VoiceConnectionStatus where
  | disconnected
  | connecting
  | connected
  deriving DecidableEq, Repr

/-- `VoiceStateModel`, the fields events write. -/
structure VoiceStateModel where
  status : VoiceConnectionStatus
  connectedChannelId : Option UInt32
  serverMuted : Bool
  serverDeafened : Bool
  speakingUsers : GoMap UInt32 Bool
  userEnergyLevels : GoMap UInt32 UInt8

def VoiceStateModel.isConnected (state : VoiceStateModel) : Bool := state.status == .connected

/-- A peer who left is forgotten. -/
def VoiceStateModel.forget (state : VoiceStateModel) (userID : UInt32) : VoiceStateModel :=
  { state with
    speakingUsers := state.speakingUsers.delete userID
    userEnergyLevels := state.userEnergyLevels.delete userID }

/-- The listener of `VoiceNotifier` for control-plane events, and whether it calls
`disconnect`. -/
def VoiceNotifier.onEvent (currentUserId : UInt32) (state : VoiceStateModel) :
    Event → VoiceStateModel × Bool
  | .voiceStateUpdate data =>
    if data.userID = currentUserId then
      ({ state with
          serverMuted := data.serverMuted == some true
          serverDeafened := data.serverDeafened == some true },
        data.channelID.join == none && state.isConnected)
    else if data.channelID.join = none ∨ data.channelID.join = some 0 then (state.forget data.userID, false)
    else if data.isSpeaking.isSome || data.speaking.isSome then
      let isSpk := data.isSpeaking == some true || data.speaking == some true
      let energy := data.energy.getD (if isSpk then 10 else 0)
      ({ state with
          speakingUsers := state.speakingUsers.set data.userID isSpk
          userEnergyLevels := state.userEnergyLevels.set data.userID energy }, false)
    else (state, false)
  | .memberMoved userID _ toChannelID =>
    if userID = currentUserId then ({ state with connectedChannelId := some toChannelID }, false)
    else (state, false)
  | .memberKicked userID _ =>
    if userID = currentUserId then (state, true) else (state.forget userID, false)
  | _ => (state, false)

/-- The client's `VoiceState`. -/
structure VoiceState where
  userId : UInt32
  username : String
  channelId : Option UInt32
  isSpeaking : Bool
  selfMuted : Bool
  selfDeafened : Bool
  serverMuted : Bool
  serverDeafened : Bool
  energyLevel : UInt8
  deriving DecidableEq, Repr

/-- `VoiceState.fromJson`: a flag that is missing is false. -/
def VoiceState.fromJson (json : VoiceStateUpdate) : VoiceState where
  userId := json.userID
  username := json.username.getD ""
  channelId := json.channelID.join
  isSpeaking := json.isSpeaking == some true || json.speaking == some true
  selfMuted := json.selfMuted == some true
  selfDeafened := json.selfDeafened == some true
  serverMuted := json.serverMuted == some true
  serverDeafened := json.serverDeafened == some true
  energyLevel := json.energy.getD 0

/-- The listener of `RosterNotifier`, as far as it changes `voiceStates` by itself. -/
def RosterNotifier.onEvent (voiceStates : GoMap UInt32 VoiceState) : Event → GoMap UInt32 VoiceState
  | .voiceStateUpdate data =>
    let vs := VoiceState.fromJson data
    if vs.channelId = none ∨ vs.channelId = some 0 then voiceStates.delete data.userID
    else voiceStates.set data.userID vs
  | .memberKicked userID _ => voiceStates.delete userID
  | _ => voiceStates

/-- A channel id on the wire: 0 stands for no channel. -/
def channelOf (channelID : UInt32) : Option UInt32 := if 0 < channelID then some channelID else none

section occupants

/-- The users shown in a channel. -/
def VoiceOccupants.of (occupants : VoiceOccupants) (channelId : UInt32) : List UInt32 :=
  (occupants.get? channelId).getD []

theorem VoiceOccupants.of_set (occupants : VoiceOccupants) (room c : UInt32) (ids : List UInt32) :
    VoiceOccupants.of (GoMap.set occupants room ids) c = if c = room then ids else occupants.of c := by
  unfold VoiceOccupants.of
  rw [GoMap.get?_set]
  split <;> rfl

theorem VoiceOccupants.of_filter (occupants : VoiceOccupants) (p : UInt32 → Bool) (c : UInt32) :
    VoiceOccupants.of (GoMap.mapValues occupants fun ids => ids.filter p) c = (occupants.of c).filter p := by
  unfold VoiceOccupants.of
  rw [GoMap.get?_mapValues]
  cases occupants.get? c <;> rfl

/-- Where `_updateVoiceOccupant` leaves everybody: the user is put at the end of the
channel given, if it is one, and out of every other. -/
theorem of_updateVoiceOccupant (occupants : VoiceOccupants) (userId c : UInt32) (channelId : Option UInt32) :
    VoiceOccupants.of (ChannelsNotifier.updateVoiceOccupant occupants userId channelId) c =
      ((occupants.of c).filter fun id => id ≠ userId) ++
        if channelId = some c ∧ 0 < c then [userId] else [] := by
  unfold ChannelsNotifier.updateVoiceOccupant
  simp only
  have hcleared := occupants.of_filter (fun id => id ≠ userId)
  generalize GoMap.mapValues occupants (fun ids => ids.filter fun id => id ≠ userId) = updated at hcleared ⊢
  cases channelId with
  | none => simpa using hcleared c
  | some room =>
    have hnew : ∀ c', VoiceOccupants.of
        (if updated.get? room = none then updated.set room [] else updated) c' =
        VoiceOccupants.of updated c' := by
      intro c'
      split
      · rename_i hnone
        rw [VoiceOccupants.of_set]
        split
        · rename_i hc
          simp [VoiceOccupants.of, hc, hnone]
        · rfl
      · rfl
    simp only
    generalize (if updated.get? room = none then updated.set room [] else updated) = present at hnew ⊢
    have hids : (present.get? room).getD [] = (occupants.of room).filter fun id => id ≠ userId :=
      (hnew room).trans (hcleared room)
    by_cases hroom : 0 < room
    · rw [if_pos hroom, hids, if_neg (by simp), VoiceOccupants.of_set]
      split
      · rename_i hc
        subst c
        rw [if_pos ⟨rfl, hroom⟩]
      · rename_i hc
        rw [hnew, hcleared, if_neg fun hcase => hc (Option.some.inj hcase.1).symm, List.append_nil]
    · rw [if_neg hroom, hcleared, if_neg, List.append_nil]
      intro hcase
      exact hroom (Option.some.inj hcase.1 ▸ hcase.2)

/-- After `_updateVoiceOccupant` the user is shown once in the channel given, if it
is one, and nowhere else; the other users are where they were. -/
theorem count_updateVoiceOccupant (occupants : VoiceOccupants) (userId v c : UInt32)
    (channelId : Option UInt32) :
    (VoiceOccupants.of (ChannelsNotifier.updateVoiceOccupant occupants userId channelId) c).count v =
      if v = userId then (if channelId = some c ∧ 0 < c then 1 else 0) else (occupants.of c).count v := by
  rw [of_updateVoiceOccupant, List.count_append]
  by_cases hv : v = userId
  · rw [if_pos hv, List.count_eq_zero_of_not_mem (by simp [hv]), Nat.zero_add]
    split <;> simp [hv]
  · rw [if_neg hv, List.count_filter (by simpa using hv)]
    split <;> simp [Ne.symm hv]

end occupants

section flags

def VoiceState.flag (vs : VoiceState) : ModFlag → Bool
  | .muted => vs.serverMuted
  | .deafened => vs.serverDeafened

def VoiceStateModel.flag (state : VoiceStateModel) : ModFlag → Bool
  | .muted => state.serverMuted
  | .deafened => state.serverDeafened

/-- A flag as the roster has it for a user. -/
def flag? (voiceStates : GoMap UInt32 VoiceState) (flag : ModFlag) (userID : UInt32) : Option Bool :=
  (voiceStates.get? userID).map fun vs => vs.flag flag

/-- An update replaces the whole record of its user in the roster. -/
theorem flag?_onEvent (voiceStates : GoMap UInt32 VoiceState) (data : VoiceStateUpdate) (flag : ModFlag) :
    flag? (RosterNotifier.onEvent voiceStates (.voiceStateUpdate data)) flag =
      Function.update (flag? voiceStates flag) data.userID
        ((data.channelID.join.bind channelOf).map fun _ => data.flag flag == some true) := by
  have hflag : (VoiceState.fromJson data).flag flag = (data.flag flag == some true) := by
    cases flag <;> rfl
  have hchannel : (VoiceState.fromJson data).channelId = data.channelID.join := rfl
  unfold flag? RosterNotifier.onEvent
  simp only [hchannel]
  by_cases hout : data.channelID.join = none ∨ data.channelID.join = some 0
  · have hnone : data.channelID.join.bind channelOf = none := by
      obtain hnull | hzero := hout
      · rw [hnull]
        rfl
      · rw [hzero]
        rfl
    rw [if_pos hout, GoMap.map_get?_delete, hnone]
    rfl
  · have hin : ∃ room, data.channelID.join.bind channelOf = some room := by
      obtain ⟨room, hroom⟩ := Option.ne_none_iff_exists'.mp fun hnull => hout (.inl hnull)
      have hpos : 0 < room := UInt32.pos_iff_ne_zero.mpr fun hzero => hout (.inr (by rw [hroom, hzero]))
      exact ⟨room, by rw [hroom]; exact if_pos hpos⟩
    obtain ⟨room, hroom⟩ := hin
    rw [if_neg hout, GoMap.map_get?_set, hroom, hflag]
    rfl

/-- An update about the client's own user rewrites both flags. -/
theorem flag_onEvent (currentUserId : UInt32) (state : VoiceStateModel) (data : VoiceStateUpdate)
    (flag : ModFlag) :
    (VoiceNotifier.onEvent currentUserId state (.voiceStateUpdate data)).1.flag flag =
      if data.userID = currentUserId then data.flag flag == some true else state.flag flag := by
  unfold VoiceNotifier.onEvent
  simp only
  split
  · cases flag <;> rfl
  · split
    · cases flag <;> rfl
    · split <;> cases flag <;> rfl

end flags

end low_latency_voice.client.state

import LowLatencyVoice.Control.Marshal
import LowLatencyVoice.Control.OneResponse
import LowLatencyVoice.Client.Frames

open low_latency_voice.control low_latency_voice.storage

namespace low_latency_voice.client

section casts

/-- `json[key]`. -/
def field (json : Json) (key : String) : Option Json := json.members.reverse.lookup key

/-- What is an `int` of Dart. -/
def asInt : Option Json → Option Int
  | some (.integer negative digits) =>
    let n := Json.value negative digits
    if -2 ^ 63 ≤ n ∧ n < 2 ^ 63 then some n else none
  | _ => none

/-- `== true`. -/
def isTrue : Option Json → Bool
  | some (.bool b) => b
  | _ => false

/-- `as String?`, which throws on anything else. -/
def castString : Option Json → Option (Option String)
  | none | some .null => some none
  | some (.string s) => some (some s)
  | _ => none

/-- `as List<dynamic>?`. -/
def castList : Option Json → Option (Option (List Json))
  | none | some .null => some none
  | some (.array items) => some (some items)
  | _ => none

end casts

/-- `UserProfile`. -/
structure Profile where
  userId : Int
  username : String
  roles : List String
  isAdmin : Bool
  online : Bool
  status : String
  voiceChannelId : Option Int
  lastSeen : Int
  deriving DecidableEq, Repr

def Profile.fromJson (numbers : DartNumbers) (json : Json) : Option Profile := do
  let vChanId := asInt (field json "voice_channel_id") <|> asInt (field json "channel_id")
  let username ← castString (field json "username")
  let roles ← castList (field json "roles")
  let status ← castString (field json "status")
  let online := isTrue (field json "online")
  return {
    userId := (asInt (field json "user_id") <|> asInt (field json "id")).getD 0
    username := username.getD ""
    roles := (roles.getD []).map (toText numbers)
    isAdmin := isTrue (field json "is_admin")
    online
    status := status.getD (if online then "online" else "offline")
    voiceChannelId := vChanId
    lastSeen := (asInt (field json "last_seen")).getD 0 }

/-- `VoiceState`, as it is in JSON. -/
structure VoiceProfile where
  userId : Int
  username : String
  channelId : Option Int
  isSpeaking : Bool
  selfMuted : Bool
  selfDeafened : Bool
  serverMuted : Bool
  serverDeafened : Bool
  energyLevel : Int
  deriving DecidableEq, Repr

def VoiceProfile.fromJson (json : Json) : Option VoiceProfile := do
  let username ← castString (field json "username")
  return {
    userId := (asInt (field json "user_id") <|> asInt (field json "id")).getD 0
    username := username.getD ""
    channelId := asInt (field json "channel_id")
    isSpeaking := isTrue (field json "is_speaking") || isTrue (field json "speaking")
    selfMuted := isTrue (field json "self_muted")
    selfDeafened := isTrue (field json "self_deafened")
    serverMuted := isTrue (field json "server_muted")
    serverDeafened := isTrue (field json "server_deafened")
    energyLevel := (asInt (field json "energy_level") <|> asInt (field json "energy")).getD 0 }

/-- What `fetchRoster` puts into the state. -/
structure Roster where
  members : List Profile
  voiceStates : GoMap Int VoiceProfile

namespace RosterNotifier

/-- The members of a map that has a list of them. -/
def membersOf : Option Json → Option (List Json)
  | some (.object members) =>
    match field (.object members) "members" with
    | some (.array items) => some items
    | _ => none
  | _ => none

/-- The `voice_state` of a member, if it has one and is in a channel by it. -/
def addVoiceState (voiceStates : GoMap Int VoiceProfile) : Option Json → Option (GoMap Int VoiceProfile)
  | some (.object state) =>
    (VoiceProfile.fromJson (.object state)).map fun vs =>
      if 0 < vs.channelId.getD 0 then voiceStates.set vs.userId vs else voiceStates
  | _ => some voiceStates

/-- One turn of the loop of `fetchRoster`. -/
def addMember (numbers : DartNumbers) (roster : Roster) (item : Json) : Option Roster :=
  match item with
  | .object _ => do
    let profile ← Profile.fromJson numbers item
    let voiceStates ← addVoiceState roster.voiceStates (field item "voice_state")
    return ⟨roster.members ++ [profile], voiceStates⟩
  | _ => some roster

/-- `fetchRoster` on a response. Where a cast throws, the state stays. -/
def fetchRoster (numbers : DartNumbers) (res : Json) : Option Roster :=
  let listData := (membersOf (field res "data") <|> membersOf (field res "result") <|> membersOf (some res)).getD []
  listData.foldlM (addMember numbers) ⟨[], ∅⟩

end RosterNotifier

section roundTrip

/-- What a client should have of a member. -/
def Profile.of (m : RosterMember) : Profile where
  userId := m.userID.toNat
  username := m.username
  roles := m.roles
  isAdmin := m.isAdmin
  online := m.online
  status := if m.online then "online" else "offline"
  voiceChannelId := m.voiceChannelID.map fun id => (id.toNat : Int)
  lastSeen := 0

def VoiceProfile.of (state : model.VoiceState) : VoiceProfile where
  userId := state.userID.toNat
  username := state.username
  channelId := some state.channelID.toNat
  isSpeaking := state.isSpeaking
  selfMuted := state.selfMuted
  selfDeafened := state.selfDeafened
  serverMuted := state.serverMuted
  serverDeafened := state.serverDeafened
  energyLevel := 0

variable (encoder : GoEncoder) (numbers : DartNumbers)

theorem asInt_natural (n : UInt32) : asInt (some (GoEncoder.natural n.toNat)) = some (n.toNat : Int) := by
  have hlt := n.toNat_lt
  have hrange : -2 ^ 63 ≤ (n.toNat : Int) ∧ (n.toNat : Int) < 2 ^ 63 := by omega
  simp only [GoEncoder.natural, asInt, Json.value, Bool.false_eq_true, if_false, if_pos hrange]

/-- A list of texts comes back, though an empty one is written as null. -/
theorem castList_slice (ss : List String) :
    (castList (some (GoEncoder.slice (ss.map Json.string)))).map (fun items => (items.getD []).map (toText numbers)) =
      some ss := by
  cases ss with
  | nil => rfl
  | cons s rest =>
    change some (((s :: rest).map Json.string).map (toText numbers)) = some (s :: rest)
    rw [List.map_map]
    exact congrArg some (List.map_id'' (fun _ => by rw [Function.comp_apply, toText]) _)

/-- The members of the object that are always there. -/
theorem field_rosterMember (m : RosterMember) {key : String} (hkey : key ≠ "voice_state") :
    field (encoder.rosterMember m) key =
      [("voice_channel_id", (m.voiceChannelID.map fun id => GoEncoder.natural id.toNat).getD .null),
        ("online", .bool m.online), ("is_admin", .bool m.isAdmin),
        ("roles", GoEncoder.slice (m.roles.map Json.string)), ("username", .string m.username),
        ("user_id", GoEncoder.natural m.userID.toNat)].lookup key := by
  have hother : (key == "voice_state") = false := beq_eq_false_iff_ne.mpr hkey
  cases hstate : m.voiceState with
  | none =>
    rw [field, GoEncoder.rosterMember, hstate]
    rfl
  | some state =>
    rw [field, GoEncoder.rosterMember, hstate]
    change (("voice_state", encoder.voiceState state) :: _).lookup key = _
    rw [List.lookup_cons, hother]

theorem profile_fromJson (m : RosterMember) :
    Profile.fromJson numbers (encoder.rosterMember m) = some (Profile.of m) := by
  have hfield : ∀ {key : String}, key ≠ "voice_state" → field (encoder.rosterMember m) key = _ :=
    field_rosterMember encoder m
  have hroles := castList_slice numbers m.roles
  obtain ⟨roles, hcast, hread⟩ := Option.map_eq_some_iff.mp hroles
  have hchannel : asInt (some ((m.voiceChannelID.map fun id => GoEncoder.natural id.toNat).getD .null)) =
      m.voiceChannelID.map fun id => (id.toNat : Int) := by
    cases m.voiceChannelID with
    | none => rfl
    | some id => exact asInt_natural id
  have hnone : asInt none = none := rfl
  simp [Profile.fromJson, hfield, List.lookup_cons, hchannel, hcast, hread, asInt_natural, castString, isTrue,
    hnone, Profile.of]

theorem voiceProfile_fromJson (state : model.VoiceState) :
    VoiceProfile.fromJson (encoder.voiceState state) = some (VoiceProfile.of state) := by
  have hid : field (encoder.voiceState state) "user_id" = some (GoEncoder.natural state.userID.toNat) := rfl
  have hchannel : field (encoder.voiceState state) "channel_id" = some (GoEncoder.natural state.channelID.toNat) :=
    rfl
  rw [VoiceProfile.fromJson, hid, hchannel, asInt_natural, asInt_natural]
  change some { VoiceProfile.of state with isSpeaking := state.isSpeaking || false } = some (VoiceProfile.of state)
  rw [Bool.or_false]
  rfl

theorem field_voice_state (m : RosterMember) :
    field (encoder.rosterMember m) "voice_state" = m.voiceState.map encoder.voiceState := by
  cases hstate : m.voiceState <;> rw [field, GoEncoder.rosterMember, hstate] <;> rfl

theorem addVoiceState_voiceState (voiceStates : GoMap Int VoiceProfile) (state : model.VoiceState) :
    RosterNotifier.addVoiceState voiceStates (some (encoder.voiceState state)) =
      some (if 0 < state.channelID then voiceStates.set state.userID.toNat (VoiceProfile.of state)
        else voiceStates) := by
  have hpositive : 0 < ((VoiceProfile.of state).channelId.getD 0) ↔ 0 < state.channelID := by
    rw [UInt32.lt_iff_toNat_lt]
    exact Int.natCast_pos
  have hreads : RosterNotifier.addVoiceState voiceStates (some (encoder.voiceState state)) =
      (VoiceProfile.fromJson (encoder.voiceState state)).map fun vs =>
        if 0 < vs.channelId.getD 0 then voiceStates.set vs.userId vs else voiceStates := rfl
  rw [hreads, voiceProfile_fromJson, Option.map_some, if_congr hpositive rfl rfl]
  rfl

/-- A member of the response is taken over with its voice state, if that is in a channel. -/
theorem addMember_rosterMember (roster : Roster) (m : RosterMember) :
    RosterNotifier.addMember numbers roster (encoder.rosterMember m) =
      some ⟨roster.members ++ [Profile.of m],
        (m.voiceState.filter fun state => 0 < state.channelID).elim roster.voiceStates fun state =>
          roster.voiceStates.set state.userID.toNat (VoiceProfile.of state)⟩ := by
  have hadd : RosterNotifier.addVoiceState roster.voiceStates (m.voiceState.map encoder.voiceState) =
      some ((m.voiceState.filter fun state => 0 < state.channelID).elim roster.voiceStates fun state =>
        roster.voiceStates.set state.userID.toNat (VoiceProfile.of state)) := by
    cases m.voiceState with
    | none => rfl
    | some state =>
      rw [Option.map_some, addVoiceState_voiceState]
      by_cases hin : 0 < state.channelID <;> simp [Option.filter, hin]
  change (do
    let profile ← Profile.fromJson numbers (encoder.rosterMember m)
    let voiceStates ← RosterNotifier.addVoiceState roster.voiceStates (field (encoder.rosterMember m) "voice_state")
    return (⟨roster.members ++ [profile], voiceStates⟩ : Roster)) = _
  rw [profile_fromJson, field_voice_state, hadd]
  rfl

/-- Every voice state is kept under its own user. -/
def OwnStates (h : Hub) : Prop := ∀ u state, h.voiceStates.get? u = some state → state.userID = u

/-- What a client should have of a user: the account, and what the hub knows. -/
def Hub.profile (h : Hub) (u : UserWithRoles) : Profile where
  userId := u.id.toNat
  username := u.username
  roles := u.roles
  isAdmin := u.isAdmin
  online := decide (0 < (h.clientsOf u.id).length)
  status := if 0 < (h.clientsOf u.id).length then "online" else "offline"
  voiceChannelId := ((h.voiceStates.get? u.id).filter fun state => 0 < state.channelID).map fun state =>
    (state.channelID.toNat : Int)
  lastSeen := 0

/-- The response of `handleGetRoster`. -/
def rosterResponse (reqID : Json) (h : Hub) (users : List UserWithRoles) : Response :=
  .success (newSuccessResponse reqID "get_roster" (.map [("members", .members (users.map (Region.rosterMember h)))]))

/-- A roster that says of the users what the hub knows. -/
structure Tells (h : Hub) (users : List UserWithRoles) (roster : Roster) : Prop where
  members : roster.members = users.map (Hub.profile h)
  voiceStates : ∀ key vs, roster.voiceStates.get? key = some vs ↔
    ∃ u ∈ users, ∃ state, h.voiceStates.get? u.id = some state ∧ 0 < state.channelID ∧ key = u.id.toNat ∧
      vs = VoiceProfile.of state

theorem profile_of_rosterMember (h : Hub) (u : UserWithRoles) :
    Profile.of (Region.rosterMember h u) = Hub.profile h u := by
  simp [Profile.of, Region.rosterMember, Hub.profile, Function.comp_def]

/-- One more member. -/
theorem Tells.addMember {h : Hub} (hown : OwnStates h) {users : List UserWithRoles} {roster : Roster}
    (htells : Tells h users roster) (u : UserWithRoles) :
    ∃ roster', RosterNotifier.addMember numbers roster (encoder.rosterMember (Region.rosterMember h u)) =
      some roster' ∧ Tells h (users ++ [u]) roster' := by
  refine ⟨_, addMember_rosterMember encoder numbers roster _, ?_, fun key vs => ?_⟩
  · rw [htells.members, List.map_append, profile_of_rosterMember]
    rfl
  · have hstate : (Region.rosterMember h u).voiceState.filter (fun state => 0 < state.channelID) =
        (h.voiceStates.get? u.id).filter fun state => 0 < state.channelID := by
      rw [Region.rosterMember, Option.filter_filter]
      simp only [Bool.and_self]
    dsimp only
    rw [hstate]
    have hold := htells.voiceStates key vs
    have hsplit : ∀ P : UserWithRoles → Prop, (∃ u' ∈ users ++ [u], P u') ↔ (∃ u' ∈ users, P u') ∨ P u := by
      intro P
      simp only [List.mem_append, List.mem_singleton, or_and_right, exists_or, exists_eq_left]
    rw [hsplit]
    by_cases hin : ∃ state, h.voiceStates.get? u.id = some state ∧ 0 < state.channelID
    · obtain ⟨state, hget, hpositive⟩ := hin
      have hmine : ∀ state', h.voiceStates.get? u.id = some state' → state' = state := fun state' hget' =>
        Option.some.inj (hget'.symm.trans hget)
      have hfilter : ((h.voiceStates.get? u.id).filter fun state => 0 < state.channelID) = some state := by
        rw [hget, Option.filter_some, if_pos (decide_eq_true hpositive)]
      rw [hfilter, Option.elim_some, hown _ _ hget, GoMap.get?_set]
      by_cases hkey : key = u.id.toNat
      · rw [if_pos hkey, Option.some_inj]
        constructor
        · exact fun hvs => .inr ⟨state, hget, hpositive, hkey, hvs.symm⟩
        · rintro (⟨u', -, state', hget', -, hkey', rfl⟩ | ⟨state', hget', -, -, rfl⟩)
          · have hid : u'.id = u.id := UInt32.toNat_inj.mp (by omega)
            rw [hmine state' (hid ▸ hget')]
          · rw [hmine state' hget']
      · rw [if_neg hkey, hold]
        refine ⟨.inl, ?_⟩
        rintro (hthere | ⟨-, -, -, hkey', -⟩)
        · exact hthere
        · exact absurd hkey' hkey
    · have hfilter : ((h.voiceStates.get? u.id).filter fun state => 0 < state.channelID) = none := by
        rw [Option.filter_eq_none_iff]
        intro state hget hpositive
        exact hin ⟨state, hget, of_decide_eq_true hpositive⟩
      rw [hfilter, Option.elim_none, hold]
      refine ⟨.inl, ?_⟩
      rintro (hthere | ⟨state, hget, hpositive, -⟩)
      · exact hthere
      · exact absurd ⟨state, hget, hpositive⟩ hin

theorem tells_nil (h : Hub) : Tells h [] ⟨[], ∅⟩ := ⟨rfl, fun key vs => by simp⟩

/-- The loop of `fetchRoster`, over the members of the response. -/
theorem Tells.addMembers {h : Hub} (hown : OwnStates h) (users : List UserWithRoles) :
    ∀ {listed : List UserWithRoles} {roster : Roster}, Tells h listed roster →
      ∃ roster', (users.map fun u => encoder.rosterMember (Region.rosterMember h u)).foldlM
          (RosterNotifier.addMember numbers) roster = some roster' ∧
        Tells h (listed ++ users) roster' := by
  induction users with
  | nil => exact fun htells => ⟨_, rfl, by rwa [List.append_nil]⟩
  | cons u rest ih =>
    intro listed roster htells
    obtain ⟨next, hnext, htells'⟩ := htells.addMember encoder numbers hown u
    obtain ⟨roster', hrest, hall⟩ := ih htells'
    refine ⟨roster', ?_, by rwa [List.append_assoc] at hall⟩
    rw [List.map_cons, List.foldlM_cons, hnext]
    exact hrest

/-- The data of the response are what `fetchRoster` goes over. -/
theorem membersOf_data (reqID : Json) (h : Hub) (users : List UserWithRoles) :
    RosterNotifier.membersOf (field (encoder.response (rosterResponse reqID h users)) "data") =
      some (users.map fun u => encoder.rosterMember (Region.rosterMember h u)) := by
  have hdata : (rosterResponse reqID h users).field "data" =
      some (.map [("members", .members (users.map (Region.rosterMember h)))]) := by
    apply get?_newSuccessResponse
    unfold successEnvelope
    simp only
    split <;> simp [GoMap.get?_ofList]
  have hkeys : ((encoder.values [("members", .members (users.map (Region.rosterMember h)))]).map Prod.fst).Nodup :=
    List.nodup_singleton "members"
  have hmembers : (Json.sortKeys
      (encoder.values [("members", .members (users.map (Region.rosterMember h)))])).reverse.lookup "members" =
        some (.array ((users.map (Region.rosterMember h)).map encoder.rosterMember)) :=
    (Json.lookup_sortKeys hkeys).trans rfl
  rw [field, encoder.lookup_response, hdata, Option.map_some, GoEncoder.value, RosterNotifier.membersOf, field,
    Json.members, hmembers, List.map_map]
  rfl

end roundTrip

end low_latency_voice.client

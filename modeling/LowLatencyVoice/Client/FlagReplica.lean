import LowLatencyVoice.Client.Replica

open low_latency_voice.control

namespace low_latency_voice.client.state

/-- What a client keeps of the flags: the records of the roster, and its own voice
state. -/
structure Flags where
  roster : GoMap UInt32 VoiceState
  voice : VoiceStateModel

/-- Both listeners take in an event. -/
def Flags.onEvent (currentUserId : UInt32) (k : Flags) (event : Event) : Flags where
  roster := RosterNotifier.onEvent k.roster event
  voice := (VoiceNotifier.onEvent currentUserId k.voice event).1

/-- The client has the flags of every user in voice as the hub has them. -/
def FlagsAgree (currentUserId : UInt32) (h : Hub) (k : Flags) : Prop :=
  ∀ flag u value, h.flag? flag u = some value →
    flag? k.roster flag u = some value ∧ (u = currentUserId → k.voice.flag flag = value)

variable {Addr : Type}

/-- The operation is about the flag of the user: a join is about both flags of the one
who joins, a moderator's request about the flag it sets. -/
def concerns (b : Backend Addr) : VoiceOperation → UInt32 → ModFlag → Prop
  | .joinVoice c _ _, u, _ => u = (b.hub.conn c).userID
  | .setServerFlag flag _ params, u, flag' => u = getUInt32 params "target_user_id" ∧ flag' = flag
  | _, _, _ => False

/-- The event changes no flag but those it is about. -/
def KeepsFlags (currentUserId : UInt32) (about : UInt32 → ModFlag → Prop) (k : Flags) (event : Event) :
    Prop :=
  ∀ flag, (∀ u, ¬ about u flag →
      flag? (k.onEvent currentUserId event).roster flag u = flag? k.roster flag u) ∧
    (¬ about currentUserId flag → (k.onEvent currentUserId event).voice.flag flag = k.voice.flag flag)

/-- The hub, and a client that takes in every broadcast once and in order. -/
def flagReplica (currentUserId : UInt32) : Machine (Backend Addr × Flags) VoiceOperation (List Broadcast) :=
  voiceMachine.observed fun k broadcast => k.onEvent currentUserId broadcast.event

/-- After the broadcasts of the operation the flags agree, and no broadcast has changed
a flag the operation is not about. -/
def FollowsFlags (currentUserId : UInt32) (s : Backend Addr × Flags) (op : VoiceOperation) : Prop :=
  FlagsAgree currentUserId ((flagReplica currentUserId).next s op).1.hub
      ((flagReplica currentUserId).next s op).2 ∧
    Machine.Along (fun pre broadcast => KeepsFlags currentUserId (concerns s.1 op)
      (pre.foldl (fun k broadcast => k.onEvent currentUserId broadcast.event) s.2) broadcast.event)
      ((flagReplica currentUserId).out s op)

/-- An update with both flags off tells the client nothing new: the client has a
record with both flags off if the update has a channel, and none if it has not. -/
def Harmless (currentUserId : UInt32) (k : Flags) (u channelID : UInt32) : Prop :=
  ∀ flag, flag? k.roster flag u = ((channelOf channelID).map fun _ => false) ∧
    (u = currentUserId → k.voice.flag flag = false)

/-- The operation tells the client what the hub does with the flags. An admitted
`join_voice` gets its token, unless the client has the user in voice with both flags
off; the updates with hard-coded flags are harmless; and a moderator sets no flag of
a user the client has in voice, or of its own user while the other flag is on. -/
def TellsFlags (currentUserId : UInt32) (s : Backend Addr × Flags) : VoiceOperation → Prop
  | .joinVoice c x params => s.1.Admits x c params → s.1.issuesToken x c params = true ∨
      Harmless currentUserId s.2 (s.1.hub.conn c).userID (getUInt32 params "channel_id")
  | .setVoiceState c _ _ => (s.1.hub.conn c).isAuthenticated = true →
      Harmless currentUserId s.2 (s.1.hub.conn c).userID (s.1.hub.conn c).activeVoiceChannel
  | .setServerFlag flag c params => s.1.maySet c flag = true →
      ∀ flag' ≠ flag, flag? s.2.roster flag' (getUInt32 params "target_user_id") = none ∧
        (getUInt32 params "target_user_id" = currentUserId → s.2.voice.flag flag' = false)
  | .moveMember c params => s.1.mayMove c = true →
      (s.1.hub.room? (getUInt32 params "target_user_id") = none ∨
        s.1.hub.room? (getUInt32 params "target_user_id") = some 0) ∨
      Harmless currentUserId s.2 (getUInt32 params "target_user_id") (getUInt32 params "to_channel_id")
  | .notify channelID userID _ _ => Harmless currentUserId s.2 userID channelID

section step

variable {currentUserId : UInt32} {s : Backend Addr × Flags}

/-- The client's flags after an update. -/
theorem roster_onEvent (k : Flags) (data : VoiceStateUpdate) (flag : ModFlag) :
    flag? (k.onEvent currentUserId (.voiceStateUpdate data)).roster flag =
      Function.update (flag? k.roster flag) data.userID
        ((data.channelID.join.bind channelOf).map fun _ => data.flag flag == some true) :=
  flag?_onEvent k.roster data flag

theorem voice_onEvent (k : Flags) (data : VoiceStateUpdate) (flag : ModFlag) :
    (k.onEvent currentUserId (.voiceStateUpdate data)).voice.flag flag =
      if data.userID = currentUserId then data.flag flag == some true else k.voice.flag flag :=
  flag_onEvent currentUserId k.voice data flag

/-- An update keeps the flags it is not about exactly if the client has them already. -/
theorem keepsFlags_iff {about : UInt32 → ModFlag → Prop} {k : Flags} {data : VoiceStateUpdate} :
    KeepsFlags currentUserId about k (.voiceStateUpdate data) ↔ ∀ flag, ¬ about data.userID flag →
      flag? k.roster flag data.userID =
          ((data.channelID.join.bind channelOf).map fun _ => data.flag flag == some true) ∧
        (data.userID = currentUserId → k.voice.flag flag = (data.flag flag == some true)) := by
  unfold KeepsFlags
  simp only [roster_onEvent, voice_onEvent]
  refine forall_congr' fun flag => ?_
  constructor
  · intro hkeeps habout
    constructor
    · have hroster := hkeeps.1 data.userID habout
      rw [Function.update_self] at hroster
      exact hroster.symm
    · intro hown
      have hvoice := hkeeps.2 (hown ▸ habout)
      rw [if_pos hown] at hvoice
      exact hvoice.symm
  · intro hhas
    constructor
    · intro v habout
      by_cases hv : v = data.userID
      · subst v
        rw [Function.update_self, (hhas habout).1]
      · rw [Function.update_of_ne hv]
    · intro habout
      split
      · rename_i hown
        exact ((hhas (hown ▸ habout)).2 hown).symm
      · rfl

variable {h h' : Hub} {k k' : Flags}

/-- Nothing has happened to a flag, on either side. -/
theorem FlagsAgree.of_same (hagree : FlagsAgree currentUserId h k)
    (hhub : ∀ flag, h'.flag? flag = h.flag? flag)
    (hroster : ∀ flag, flag? k'.roster flag = flag? k.roster flag)
    (hvoice : ∀ flag, k'.voice.flag flag = k.voice.flag flag) : FlagsAgree currentUserId h' k' := by
  intro flag u value hvalue
  rw [hroster, hvoice]
  rw [hhub] at hvalue
  exact hagree flag u value hvalue

/-- An update about no flag leaves all flags as they are, if it keeps them. -/
theorem FlagsAgree.onEvent (hagree : FlagsAgree currentUserId h k) {event : Event}
    (hhub : ∀ flag, h'.flag? flag = h.flag? flag)
    (hkeeps : KeepsFlags currentUserId (fun _ _ => False) k event) :
    FlagsAgree currentUserId h' (k.onEvent currentUserId event) :=
  hagree.of_same hhub (fun flag => funext fun u => (hkeeps flag).1 u not_false)
    fun flag => (hkeeps flag).2 not_false

/-- An update that carries what the hub now has of its user. -/
theorem FlagsAgree.update (hagree : FlagsAgree currentUserId h k) {data : VoiceStateUpdate}
    (hself : ∀ flag value, h'.flag? flag data.userID = some value →
      ((data.channelID.join.bind channelOf).map fun _ => data.flag flag == some true) = some value)
    (hother : ∀ flag u, u ≠ data.userID → h'.flag? flag u = h.flag? flag u) :
    FlagsAgree currentUserId h' (k.onEvent currentUserId (.voiceStateUpdate data)) := by
  intro flag u value hvalue
  rw [roster_onEvent, voice_onEvent]
  by_cases hu : u = data.userID
  · subst u
    have hcarried := hself flag value hvalue
    rw [Function.update_self]
    refine ⟨hcarried, fun hown => ?_⟩
    rw [if_pos hown]
    obtain ⟨-, -, hflag⟩ := Option.map_eq_some_iff.mp hcarried
    exact hflag
  · rw [hother flag u hu] at hvalue
    obtain ⟨hroster, hvoice⟩ := hagree flag u value hvalue
    rw [Function.update_of_ne hu]
    refine ⟨hroster, fun hown => ?_⟩
    rw [if_neg fun hdata => hu (hown.trans hdata.symm)]
    exact hvoice hown

/-- An update whose flags are off keeps the flags exactly if it is harmless. -/
theorem keepsFlags_iff_harmless {data : VoiceStateUpdate} {u channelID : UInt32} (huser : data.userID = u)
    (hchannel : data.channelID.join.bind channelOf = channelOf channelID)
    (hoff : ∀ flag, (data.flag flag == some true) = false) :
    KeepsFlags currentUserId (fun _ _ => False) k (.voiceStateUpdate data) ↔
      Harmless currentUserId k u channelID := by
  rw [keepsFlags_iff]
  simp only [huser, hchannel, hoff, not_false_eq_true, true_implies]
  exact Iff.rfl

variable {condition : Prop} {op : VoiceOperation}

theorem next_flagReplica :
    (flagReplica currentUserId).next s op = ((op.perform s.1).1,
      (op.perform s.1).2.foldl (fun k broadcast => k.onEvent currentUserId broadcast.event) s.2) := rfl

theorem followsFlags_of_silent (hagree : FlagsAgree currentUserId s.1.hub s.2)
    (hhub : (op.perform s.1).1.hub = s.1.hub) (htells : (op.perform s.1).2 = []) :
    FollowsFlags currentUserId s op := by
  constructor
  · rw [next_flagReplica, hhub, htells]
    exact hagree
  · change Machine.Along _ (op.perform s.1).2
    rw [htells]
    exact Machine.along_nil

/-- `member_moved` touches no flag. -/
def Moves (broadcast : Broadcast) : Prop :=
  ∃ userID fromChannelID toChannelID, broadcast.event = .memberMoved userID fromChannelID toChannelID

theorem onEvent_of_moves (currentUserId : UInt32) (k : Flags) {broadcast : Broadcast}
    (hmoves : Moves broadcast) :
    (k.onEvent currentUserId broadcast.event).roster = k.roster ∧
      ∀ flag, (k.onEvent currentUserId broadcast.event).voice.flag flag = k.voice.flag flag := by
  obtain ⟨userID, fromChannelID, toChannelID, hevent⟩ := hmoves
  rw [hevent]
  refine ⟨rfl, fun flag => ?_⟩
  unfold Flags.onEvent VoiceNotifier.onEvent
  simp only
  split <;> cases flag <;> rfl

theorem foldl_of_moves (currentUserId : UInt32) {moves : List Broadcast} : ∀ k : Flags,
    (∀ broadcast ∈ moves, Moves broadcast) →
    (moves.foldl (fun k broadcast => k.onEvent currentUserId broadcast.event) k).roster = k.roster ∧
      ∀ flag, (moves.foldl (fun k broadcast => k.onEvent currentUserId broadcast.event) k).voice.flag flag =
        k.voice.flag flag := by
  induction moves with
  | nil => exact fun _ _ => ⟨rfl, fun _ => rfl⟩
  | cons broadcast moves ih =>
    intro k hmoves
    obtain ⟨hroster, hvoice⟩ := onEvent_of_moves currentUserId k (hmoves broadcast List.mem_cons_self)
    obtain ⟨hroster', hvoice'⟩ := ih (k.onEvent currentUserId broadcast.event)
      fun e he => hmoves e (List.mem_cons_of_mem broadcast he)
    exact ⟨hroster'.trans hroster, fun flag => (hvoice' flag).trans (hvoice flag)⟩

/-- An operation that sets no flag, with one update at the end, is followed exactly if
the update is harmless. -/
theorem followsFlags_iff_of_update (moves : List Broadcast) (data : VoiceStateUpdate)
    {receivers u channelID : UInt32}
    (hagree : FlagsAgree currentUserId s.1.hub s.2) (hconcerns : concerns s.1 op = fun _ _ => False)
    (hsame : ∀ flag, (op.perform s.1).1.hub.flag? flag = s.1.hub.flag? flag)
    (htells : (op.perform s.1).2 = moves ++ [⟨receivers, .voiceStateUpdate data⟩])
    (hmoves : ∀ broadcast ∈ moves, Moves broadcast) (huser : data.userID = u)
    (hchannel : data.channelID.join.bind channelOf = channelOf channelID)
    (hoff : ∀ flag, (data.flag flag == some true) = false) :
    FollowsFlags currentUserId s op ↔ Harmless currentUserId s.2 u channelID := by
  obtain ⟨hroster, hvoice⟩ := foldl_of_moves currentUserId s.2 hmoves
  have hfold : (op.perform s.1).2.foldl (fun k broadcast => k.onEvent currentUserId broadcast.event) s.2 =
      Flags.onEvent currentUserId
        (moves.foldl (fun k broadcast => k.onEvent currentUserId broadcast.event) s.2)
        (.voiceStateUpdate data) := by
    rw [htells, List.foldl_append]
    rfl
  generalize hk : moves.foldl (fun k broadcast => k.onEvent currentUserId broadcast.event) s.2 = k
    at hroster hvoice hfold
  have hharmless : Harmless currentUserId k u channelID ↔ Harmless currentUserId s.2 u channelID := by
    unfold Harmless
    simp only [hroster, hvoice]
  have hkeeps := (keepsFlags_iff_harmless huser hchannel hoff).trans hharmless
  constructor
  · intro hfollows
    have hlast := hfollows.2 moves _ [] htells
    rw [hconcerns, hk] at hlast
    exact hkeeps.mp hlast
  · intro hok
    constructor
    · rw [next_flagReplica, hfold]
      have hbefore : FlagsAgree currentUserId s.1.hub k :=
        hagree.of_same (fun _ => rfl) (fun flag => by rw [hroster]) hvoice
      exact hbefore.onEvent hsame (hkeeps.mpr hok)
    · change Machine.Along _ (op.perform s.1).2
      rw [hconcerns, htells, Machine.along_concat_iff, hk]
      refine ⟨?_, hkeeps.mpr hok⟩
      intro pre e post heq flag
      obtain ⟨hroster, hvoice⟩ := onEvent_of_moves currentUserId
        (pre.foldl (fun k broadcast => k.onEvent currentUserId broadcast.event) s.2)
        (hmoves e (by simp [heq]))
      exact ⟨fun _ _ => by rw [hroster], fun _ => hvoice flag⟩

theorem followsFlags_setVoiceState_iff (hagree : FlagsAgree currentUserId s.1.hub s.2) (c : ClientID)
    (x : auth.Env) (params : Params) :
    FollowsFlags currentUserId s (.setVoiceState c x params) ↔
      TellsFlags currentUserId s (.setVoiceState c x params) := by
  obtain ⟨-, hflags, htells⟩ := perform_setVoiceState s.1 c x params
  by_cases hauth : (s.1.hub.conn c).isAuthenticated = true
  · rw [if_pos hauth] at htells
    have hactive : (if 0 < (s.1.hub.conn c).activeVoiceChannel then some (s.1.hub.conn c).activeVoiceChannel
        else none).bind channelOf = channelOf (s.1.hub.conn c).activeVoiceChannel := by
      by_cases hpos : 0 < (s.1.hub.conn c).activeVoiceChannel <;> simp [channelOf, hpos]
    have hfollows := followsFlags_iff_of_update [] _ hagree rfl hflags htells (by simp) rfl hactive
      fun flag => by cases flag <;> rfl
    exact hfollows.trans ⟨fun hharmless _ => hharmless, fun hok => hok hauth⟩
  · have hsilent : (VoiceOperation.setVoiceState c x params).perform s.1 = (s.1, []) := if_neg hauth
    exact iff_of_true (followsFlags_of_silent hagree (congrArg (fun r => r.1.hub) hsilent)
      (congrArg Prod.snd hsilent)) fun h => absurd h hauth

theorem followsFlags_notify_iff (hagree : FlagsAgree currentUserId s.1.hub s.2)
    (channelID userID : UInt32) (speaking : Bool) (energy : UInt8) :
    FollowsFlags currentUserId s (.notify channelID userID speaking energy) ↔
      TellsFlags currentUserId s (.notify channelID userID speaking energy) :=
  followsFlags_iff_of_update [] (.speaks userID channelID speaking energy) hagree rfl
    (s.1.hub.flag?_broadcastVoiceState channelID userID speaking energy) rfl (by simp) rfl rfl
    fun flag => by cases flag <;> rfl

theorem followsFlags_moveMember_iff (hagree : FlagsAgree currentUserId s.1.hub s.2) (c : ClientID)
    (params : Params) :
    FollowsFlags currentUserId s (.moveMember c params) ↔
      TellsFlags currentUserId s (.moveMember c params) := by
  obtain ⟨hrefused, hhub, htells⟩ | ⟨hmay, hmove, fromChannelID, htells⟩ := perform_moveMember s.1 c params
  · exact iff_of_true (followsFlags_of_silent hagree hhub htells) fun hmay => .inl (hrefused hmay)
  have hin : ¬ (s.1.hub.room? (getUInt32 params "target_user_id") = none ∨
      s.1.hub.room? (getUInt32 params "target_user_id") = some 0) := by
    rw [← Hub.moveMember_eq_none_iff, hmove]
    exact Option.some_ne_none _
  have hmoves : ∀ broadcast ∈ [broadcastEvent (.memberMoved (getUInt32 params "target_user_id")
      fromChannelID (getUInt32 params "to_channel_id"))], Moves broadcast := by
    intro e he
    rw [List.mem_singleton.mp he]
    exact ⟨_, _, _, rfl⟩
  have hfollows := followsFlags_iff_of_update _
    (.moved (getUInt32 params "target_user_id") (getUInt32 params "to_channel_id")) hagree rfl
    (Hub.room?_moveMember hmove).2 htells hmoves rfl rfl fun flag => by cases flag <;> rfl
  exact hfollows.trans ⟨fun hharmless _ => .inr hharmless, fun hok => (hok hmay).resolve_left hin⟩

theorem followsFlags_joinVoice_iff (hagree : FlagsAgree currentUserId s.1.hub s.2) (c : ClientID)
    (x : auth.Env) (params : Params) :
    FollowsFlags currentUserId s (.joinVoice c x params) ↔
      TellsFlags currentUserId s (.joinVoice c x params) := by
  obtain ⟨hrefused, hhub, htells⟩ | ⟨hadmits, ⟨channel, hjoin⟩, htells⟩ := perform_joinVoice s.1 c x params
  · exact iff_of_true (followsFlags_of_silent hagree hhub htells) fun hadmits => absurd hadmits hrefused
  have hflags := (Hub.room?_joinVoice hjoin).2
  have hroom : channelOf (getUInt32 params "channel_id") = some (getUInt32 params "channel_id") :=
    if_pos (UInt32.pos_iff_ne_zero.mpr hadmits.2.2.1)
  have hother : ∀ flag u, u ≠ (s.1.hub.conn c).userID →
      ((VoiceOperation.joinVoice c x params).perform s.1).1.hub.flag? flag u = s.1.hub.flag? flag u := by
    intro flag u hu
    rw [hflags flag, Function.update_of_ne hu]
  have hoff : ∀ flag, ((VoiceOperation.joinVoice c x params).perform s.1).1.hub.flag? flag
      (s.1.hub.conn c).userID = some false := by
    intro flag
    rw [hflags flag, Function.update_self]
  by_cases htoken : s.1.issuesToken x c params = true
  · rw [if_pos htoken] at htells
    refine iff_of_true ⟨?_, ?_⟩ fun _ => .inl htoken
    · rw [next_flagReplica, htells]
      refine hagree.update ?_ hother
      intro flag value hvalue
      rw [← hvalue]
      refine Eq.trans ?_ (hoff flag).symm
      cases flag <;> simp [VoiceStateUpdate.joined, VoiceStateUpdate.flag, hroom]
    · change Machine.Along _ ((VoiceOperation.joinVoice c x params).perform s.1).2
      rw [htells, Machine.along_cons_iff]
      exact ⟨keepsFlags_iff.mpr fun flag habout => absurd rfl habout, Machine.along_nil⟩
  · -- nobody is told, so the client must have the flags off already
    rw [if_neg htoken] at htells
    have hharmless : Harmless currentUserId s.2 (s.1.hub.conn c).userID (getUInt32 params "channel_id") ↔
        ∀ flag, flag? s.2.roster flag (s.1.hub.conn c).userID = some false ∧
          ((s.1.hub.conn c).userID = currentUserId → s.2.voice.flag flag = false) := by
      unfold Harmless
      rw [hroom]
      exact Iff.rfl
    constructor
    · intro hfollows _
      refine .inr (hharmless.mpr fun flag => ?_)
      have hafter := hfollows.1
      rw [next_flagReplica, htells] at hafter
      exact hafter flag (s.1.hub.conn c).userID false (hoff flag)
    · intro hok
      have hhas := hharmless.mp ((hok hadmits).resolve_left htoken)
      constructor
      · rw [next_flagReplica, htells]
        intro flag u value hvalue
        by_cases hu : u = (s.1.hub.conn c).userID
        · subst u
          obtain rfl := Option.some.inj ((hoff flag).symm.trans hvalue)
          exact hhas flag
        · exact hagree flag u value ((hother flag u hu).symm.trans hvalue)
      · change Machine.Along _ ((VoiceOperation.joinVoice c x params).perform s.1).2
        rw [htells]
        exact Machine.along_nil

theorem followsFlags_setServerFlag_iff (hagree : FlagsAgree currentUserId s.1.hub s.2) (flag : ModFlag)
    (c : ClientID) (params : Params) :
    FollowsFlags currentUserId s (.setServerFlag flag c params) ↔
      TellsFlags currentUserId s (.setServerFlag flag c params) := by
  obtain ⟨hhub, htells⟩ := perform_setServerFlag s.1 c params flag
  by_cases hmay : s.1.maySet c flag = true
  swap
  · rw [if_neg hmay] at hhub htells
    exact iff_of_true (followsFlags_of_silent hagree hhub htells) fun h => absurd h hmay
  rw [if_pos hmay] at hhub htells
  generalize hu : getUInt32 params "target_user_id" = u at hhub htells
  generalize getBool params flag.key = value at hhub htells
  have hkeeps : KeepsFlags currentUserId (concerns s.1 (.setServerFlag flag c params)) s.2
      (.voiceStateUpdate (.flagged u flag value)) ↔ ∀ flag' ≠ flag, flag? s.2.roster flag' u = none ∧
        (u = currentUserId → s.2.voice.flag flag' = false) := by
    rw [keepsFlags_iff]
    refine forall_congr' fun flag' => ?_
    have habout : concerns s.1 (.setServerFlag flag c params) u flag' ↔ flag' = flag :=
      ⟨And.right, fun heq => ⟨hu.symm, heq⟩⟩
    have hvalue : flag' ≠ flag →
        ((VoiceStateUpdate.flagged u flag value).flag flag' == some true) = false := by
      intro hne
      cases flag <;> cases flag' <;> first | rfl | exact absurd rfl hne
    change (¬ concerns s.1 (.setServerFlag flag c params) u flag' → _) ↔ _
    rw [habout]
    refine forall_congr' fun hne => ?_
    rw [hvalue hne]
    rfl
  have htold : TellsFlags currentUserId s (.setServerFlag flag c params) ↔
      ∀ flag' ≠ flag, flag? s.2.roster flag' u = none ∧
        (u = currentUserId → s.2.voice.flag flag' = false) := by
    rw [← hu]
    exact ⟨fun hok => hok hmay, fun hok _ => hok⟩
  rw [htold, ← hkeeps]
  constructor
  · exact fun hfollows => hfollows.2 [] _ [] htells
  · intro hok
    constructor
    · rw [next_flagReplica, htells, hhub]
      refine hagree.update ?_ ?_
      · -- the client has no record of the user, so the hub has none either
        intro flag' value' hvalue'
        obtain ⟨other, hother⟩ : ∃ other, other ≠ flag := by
          cases flag
          · exact ⟨.deafened, by decide⟩
          · exact ⟨.muted, by decide⟩
        have hnone := ((hkeeps.mp hok) other hother).1
        have hout : s.1.hub.flag? other u = none := by
          by_contra hlisted
          obtain ⟨value'', hvalue''⟩ := Option.ne_none_iff_exists'.mp hlisted
          cases hnone.symm.trans (hagree other u value'' hvalue'').1
        have hroom : (s.1.hub.setFlag flag u value).room? u = none := by
          rw [Hub.room?_setFlag]
          exact (Hub.room?_eq_none_iff _ other u).mpr hout
        cases ((Hub.room?_eq_none_iff _ flag' u).mp hroom).symm.trans hvalue'
      · intro flag' v hv
        rw [Hub.flag?_setFlag, if_neg fun hsame => hv hsame.1]
    · change Machine.Along _ ((VoiceOperation.setServerFlag flag c params).perform s.1).2
      rw [htells, Machine.along_cons_iff]
      exact ⟨hok, Machine.along_nil⟩

/-- An operation is followed exactly when it tells the flags. -/
theorem followsFlags_iff_tellsFlags (hagree : FlagsAgree currentUserId s.1.hub s.2) (op : VoiceOperation) :
    FollowsFlags currentUserId s op ↔ TellsFlags currentUserId s op := by
  cases op with
  | joinVoice c x params => exact followsFlags_joinVoice_iff hagree c x params
  | setVoiceState c x params => exact followsFlags_setVoiceState_iff hagree c x params
  | setServerFlag flag c params => exact followsFlags_setServerFlag_iff hagree flag c params
  | moveMember c params => exact followsFlags_moveMember_iff hagree c params
  | notify channelID userID speaking energy =>
    exact followsFlags_notify_iff hagree channelID userID speaking energy

end step

/-- The client follows the flags in every operation of the run. -/
def FollowsFlagsAlong (currentUserId : UInt32) (s : Backend Addr × Flags) (ops : List VoiceOperation) :
    Prop :=
  Machine.Along (fun pre op => FollowsFlags currentUserId ((flagReplica currentUserId).run s pre) op) ops

/-- Every operation of the run tells the flags. -/
def TellsFlagsAlong (currentUserId : UInt32) (s : Backend Addr × Flags) (ops : List VoiceOperation) : Prop :=
  Machine.Along (fun pre op => TellsFlags currentUserId ((flagReplica currentUserId).run s pre) op) ops

/-- In every run from a client that agrees with the hub, the flags agree after each
operation and no broadcast changes a flag it is not about, if and only if each
operation tells the flags. -/
theorem followsFlagsAlong_iff_tellsFlagsAlong (currentUserId : UInt32) (b : Backend Addr) (k : Flags)
    (hagree : FlagsAgree currentUserId b.hub k) (ops : List VoiceOperation) :
    FollowsFlagsAlong currentUserId (b, k) ops ↔ TellsFlagsAlong currentUserId (b, k) ops := by
  refine Machine.along_iff_along (fun _ _ => True)
    (fun pre => FlagsAgree currentUserId ((flagReplica currentUserId).run (b, k) pre).1.hub
      ((flagReplica currentUserId).run (b, k) pre).2) hagree ?_ ?_ ops fun _ _ _ _ => trivial
  · exact fun pre op _ hinv => followsFlags_iff_tellsFlags hinv op
  · intro pre op _ hinv htells
    rw [Machine.run_concat]
    exact ((followsFlags_iff_tellsFlags hinv op).mpr htells).1

/-- The state of a client that has just started. -/
def VoiceStateModel.initial : VoiceStateModel where
  status := .disconnected
  connectedChannelId := none
  serverMuted := false
  serverDeafened := false
  speakingUsers := ∅
  userEnergyLevels := ∅

/-- User 7 is muted before joining the lounge, joins, speaks, and is moved. -/
def mutedVisit : List VoiceOperation :=
  [mutes, joins, .notify 2 7 true 9, .setVoiceState 1 (calm []) ∅,
    .moveMember 2 (parameters [("target_user_id", .number 7), ("to_channel_id", .number 3)]),
    .notify 3 7 false 0]

theorem flagsAgree_connected :
    FlagsAgree 7 ((hubMachine plain).run fresh connected).hub ⟨∅, .initial⟩ := by
  intro flag u value hvalue
  cases hvalue

theorem followsFlagsAlong_mutedVisit :
    FollowsFlagsAlong 7 ((hubMachine plain).run fresh connected, ⟨∅, .initial⟩) mutedVisit := by
  refine (followsFlagsAlong_iff_tellsFlagsAlong 7 _ _ flagsAgree_connected mutedVisit).mpr ?_
  simp only [TellsFlagsAlong, mutedVisit, Machine.along_cons_iff]
  refine ⟨fun _ flag hother => ?_, fun _ => .inl rfl, ?_, fun _ => ?_, fun _ => .inr ?_, ?_,
    Machine.along_nil⟩
  · cases flag
    · exact absurd rfl hother
    · exact ⟨rfl, fun _ => rfl⟩
  all_goals
    intro flag
    cases flag <;> exact ⟨rfl, fun _ => rfl⟩

/-- After `set_server_mute` the roster has no record of a user in voice. -/
theorem server_mute_drops_record :
    ¬ ∀ (currentUserId : UInt32) (b : Backend Nat) (k : Flags) (ops : List VoiceOperation),
      FlagsAgree currentUserId b.hub k → FollowsFlagsAlong currentUserId (b, k) ops := by
  intro hall
  have hfollows := hall 7 ((hubMachine plain).run fresh connected) ⟨∅, .initial⟩
    [joins, mutes] flagsAgree_connected
  have hlast := ((hfollows [joins] mutes [] rfl).1 .muted 7 true rfl).1
  cases hlast

end low_latency_voice.client.state

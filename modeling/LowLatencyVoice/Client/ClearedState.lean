import LowLatencyVoice.Client.Notifiers
import LowLatencyVoice.Lib.Machine

open Machine low_latency_voice.control

namespace low_latency_voice.client.state

/-- Where `VoiceStateModel` says the user is connected. -/
structure VoiceConnection where
  status : VoiceConnectionStatus
  connectedChannelId : Option UInt32
  connectedChannelName : Option String

/-- `VoiceStateModel.copyWith`: what is null stays as it was. -/
def VoiceConnection.copyWith (state : VoiceConnection) (status : Option VoiceConnectionStatus)
    (connectedChannelId : Option UInt32) (connectedChannelName : Option String) : VoiceConnection where
  status := status.getD state.status
  connectedChannelId := connectedChannelId <|> state.connectedChannelId
  connectedChannelName := connectedChannelName <|> state.connectedChannelName

/-- `Channel`, as far as the selection looks at it. -/
structure Channel where
  id : UInt32
  type : String

def Channel.isText (c : Channel) : Bool := c.type.toLower == "text"

/-- `ChannelsState`, less the occupants. -/
structure ChannelsState where
  channels : List Channel
  selectedTextChannelId : Option UInt32
  selectedVoiceChannelId : Option UInt32

namespace ChannelsState

/-- `ChannelsState.copyWith`. -/
def copyWith (state : ChannelsState) (channels : Option (List Channel))
    (selectedTextChannelId selectedVoiceChannelId : Option UInt32) : ChannelsState where
  channels := channels.getD state.channels
  selectedTextChannelId := selectedTextChannelId <|> state.selectedTextChannelId
  selectedVoiceChannelId := selectedVoiceChannelId <|> state.selectedVoiceChannelId

def setConnectedVoiceChannel (state : ChannelsState) (channelId : Option UInt32) : ChannelsState :=
  state.copyWith none none channelId

def selectTextChannel (state : ChannelsState) (channelId : UInt32) : ChannelsState :=
  state.copyWith none (some channelId) none

/-- The listener of `ChannelsNotifier`, less the occupants. `type` is the type an event
gives for the channel it tells of. -/
def onEvent (state : ChannelsState) (type : String) : Event → ChannelsState
  | .channelCreated channelID =>
    let newChannel : Channel := ⟨channelID, type⟩
    let updated := (state.channels.filter fun c => c.id ≠ channelID) ++ [newChannel]
    let selectedText := match state.selectedTextChannelId with
      | none => if newChannel.isText then some channelID else none
      | some selected => some selected
    state.copyWith (some updated) selectedText none
  | .channelDeleted channelID =>
    state.copyWith (some (state.channels.filter fun c => c.id ≠ channelID))
      (if state.selectedTextChannelId = some channelID then none else state.selectedTextChannelId)
      (if state.selectedVoiceChannelId = some channelID then none else state.selectedVoiceChannelId)
  | _ => state

/-- `fetchChannels`, answered. -/
def fetched (state : ChannelsState) (channels : List Channel) : ChannelsState :=
  let firstTextId := match state.selectedTextChannelId with
    | none => (channels.find? Channel.isText).map Channel.id
    | some selected => some selected
  state.copyWith (some channels) firstTextId none

/-- `deleteChannel`, answered. -/
def deleted (state : ChannelsState) (channelId : UInt32) : ChannelsState :=
  state.copyWith (some (state.channels.filter fun c => c.id ≠ channelId)) none none

end ChannelsState

/-- `UserProfile`, the fields events write. -/
structure UserProfile where
  userId : UInt32
  online : Bool
  status : String
  voiceChannelId : Option UInt32

/-- `UserProfile.copyWith`. -/
def UserProfile.copyWith (m : UserProfile) (online : Option Bool) (status : Option String)
    (voiceChannelId : Option UInt32) : UserProfile where
  userId := m.userId
  online := online.getD m.online
  status := status.getD m.status
  voiceChannelId := voiceChannelId <|> m.voiceChannelId

structure RosterState where
  members : List UserProfile
  voiceStates : GoMap UInt32 VoiceState

/-- The listener of `RosterNotifier`. -/
def RosterState.onEvent (state : RosterState) (e : Event) : RosterState where
  voiceStates := RosterNotifier.onEvent state.voiceStates e
  members := match e with
    | .presenceUpdate userID _ online =>
      state.members.map fun m =>
        if m.userId = userID then m.copyWith (some online) (some (if online then "online" else "offline")) none
        else m
    | .voiceStateUpdate data =>
      state.members.map fun m =>
        if m.userId = data.userID then m.copyWith none none (VoiceState.fromJson data).channelId else m
    | .memberKicked userID _ => state.members.filter fun m => m.userId ≠ userID
    | _ => state.members

/-- The three notifiers, the user who is signed in, and the calls that wait for the
server: each `joinVoice` with its arguments, and how many of `disconnect`. -/
structure ClientState where
  currentUserId : Option UInt32
  voice : VoiceConnection
  channels : ChannelsState
  roster : RosterState
  joins : List (UInt32 × String)
  leaves : Nat

/-- How a `joinVoice` ends: in the channel, in its `catch`, or with nobody signed in. -/
inductive JoinEnd where
  | connected
  | failed
  | nobody

inductive ClientAct where
  | signIn (user : Option UInt32)
  | joinVoice (channelId : UInt32) (channelName : String)
  | joinEnded (i : Nat) (outcome : JoinEnd)
  | disconnect
  | disconnected
  | event (e : Event) (type : String)
  | selectTextChannel (channelId : UInt32)
  | channelsFetched (channels : List Channel)
  | channelDeleted (channelId : UInt32)
  | rosterFetched (roster : RosterState)
  | memberKicked (userId : UInt32)

namespace ClientState

/-- A client that has just started. -/
def new : ClientState where
  currentUserId := none
  voice := ⟨.disconnected, none, none⟩
  channels := ⟨[], none, none⟩
  roster := ⟨[], ∅⟩
  joins := []
  leaves := 0

/-- `joinVoice` up to the request. -/
def joinVoice (s : ClientState) (channelId : UInt32) (channelName : String) : ClientState :=
  if s.voice.connectedChannelId = some channelId ∧ s.voice.status = .connected then s
  else
    { s with
      voice := s.voice.copyWith (some .connecting) (some channelId) (some channelName)
      joins := s.joins ++ [(channelId, channelName)] }

/-- The end of a `joinVoice`. -/
def joinEnded (s : ClientState) (i : Nat) (outcome : JoinEnd) : ClientState :=
  match s.joins[i]? with
  | none => s
  | some (channelId, channelName) =>
    let s := { s with joins := s.joins.eraseIdx i }
    match outcome with
    | .connected =>
      { s with
        channels := s.channels.setConnectedVoiceChannel (some channelId)
        voice := s.voice.copyWith (some .connected) (some channelId) (some channelName) }
    | .failed => { s with voice := s.voice.copyWith (some .disconnected) none none }
    | .nobody => s

/-- The end of a `disconnect`. -/
def disconnected (s : ClientState) : ClientState :=
  if s.leaves = 0 then s
  else
    { s with
      leaves := s.leaves - 1
      channels := s.channels.setConnectedVoiceChannel none
      voice := s.voice.copyWith (some .disconnected) none none }

/-- The listener of `VoiceNotifier`, as far as it changes where the user is connected. -/
def onVoiceEvent (s : ClientState) : Event → ClientState
  | .voiceStateUpdate data =>
    if s.currentUserId = some data.userID ∧ data.channelID.join = none ∧ s.voice.status = .connected then
      { s with leaves := s.leaves + 1 }
    else s
  | .memberMoved userID _ toChannelID =>
    if s.currentUserId = some userID then
      { s with
        channels := s.channels.setConnectedVoiceChannel (some toChannelID)
        voice := s.voice.copyWith none (some toChannelID) none }
    else s
  | .memberKicked userID _ => if s.currentUserId = some userID then { s with leaves := s.leaves + 1 } else s
  | _ => s

/-- An event reaches the listeners of all three notifiers. -/
def onEvent (s : ClientState) (e : Event) (type : String) : ClientState :=
  { s.onVoiceEvent e with
    channels := (s.onVoiceEvent e).channels.onEvent type e
    roster := s.roster.onEvent e }

end ClientState

/-- The client under any calls, answers and events. -/
def clientMachine : Machine ClientState ClientAct Unit where
  step s act :=
    (match act with
      | .signIn user => { s with currentUserId := user }
      | .joinVoice channelId channelName => s.joinVoice channelId channelName
      | .joinEnded i outcome => s.joinEnded i outcome
      | .disconnect => { s with leaves := s.leaves + 1 }
      | .disconnected => s.disconnected
      | .event e type => s.onEvent e type
      | .selectTextChannel channelId => { s with channels := s.channels.selectTextChannel channelId }
      | .channelsFetched channels => { s with channels := s.channels.fetched channels }
      | .channelDeleted channelId => { s with channels := s.channels.deleted channelId }
      | .rosterFetched roster => { s with roster }
      | .memberKicked userId =>
        { s with
          roster := ⟨s.roster.members.filter fun m => m.userId ≠ userId, s.roster.voiceStates.delete userId⟩ },
      ())

/-- No channel is left where the user is not connected to one. -/
def VoiceConnection.Forgotten (v : VoiceConnection) : Prop :=
  v.status = .disconnected → v.connectedChannelId = none ∧ v.connectedChannelName = none

/-- What has ended in a step is null after it. -/
def Forgets (s : ClientState) (act : ClientAct) (s' : ClientState) : Prop :=
  s'.voice.Forgotten ∧
    match act with
    | .disconnected => s.leaves ≠ 0 → s'.channels.selectedVoiceChannelId = none
    | .event (.channelDeleted c) _ =>
      (s.channels.selectedTextChannelId = some c → s'.channels.selectedTextChannelId = none) ∧
        (s.channels.selectedVoiceChannelId = some c → s'.channels.selectedVoiceChannelId = none)
    | .event (.voiceStateUpdate data) _ =>
      ∀ m ∈ s'.roster.members, m.userId = data.userID →
        (data.channelID.join.bind channelOf = none → m.voiceChannelId = none) ∧
          (m.voiceChannelId = none ↔ s'.roster.voiceStates.get? data.userID = none)
    | _ => True

/-- A step that has nothing to clear: no join fails, a disconnect ends before any
channel was set, no channel of the selection is deleted, nobody is moved while
disconnected, and no member leaves a voice channel the roster shows him in. -/
def ClientAct.Clean (s : ClientState) : ClientAct → Prop
  | .joinEnded i .failed => s.joins[i]? = none
  | .disconnected =>
    s.leaves = 0 ∨ s.voice.connectedChannelId = none ∧ s.voice.connectedChannelName = none ∧
      s.channels.selectedVoiceChannelId = none
  | .event (.channelDeleted c) _ =>
    s.channels.selectedTextChannelId ≠ some c ∧ s.channels.selectedVoiceChannelId ≠ some c
  | .event (.memberMoved userID _ _) _ => s.currentUserId = some userID → s.voice.status ≠ .disconnected
  | .event (.voiceStateUpdate data) _ =>
    data.channelID.join.bind channelOf = none →
      ∀ m ∈ s.roster.members, m.userId = data.userID → data.channelID.join = none ∧ m.voiceChannelId = none
  | _ => True

/-- What holds as long as every step is clean. A join that waits has set a channel, and
no `copyWith` takes it back. -/
structure ClientState.Settled (s : ClientState) : Prop where
  forgotten : s.voice.Forgotten
  joining : s.joins ≠ [] → s.voice.connectedChannelId ≠ none

section copyWith

theorem orElse_ne_none {α : Type} (new : Option α) {old : Option α} (h : old ≠ none) :
    (new <|> old) ≠ none := by
  cases new with
  | none => exact h
  | some a => exact Option.some_ne_none a

/-- A field stays what it was if it is null or kept. -/
theorem keep_orElse {α : Type} [DecidableEq α] (selected : Option α) (c : α) :
    ((if selected = some c then none else selected) <|> selected) = selected := by
  split
  · rfl
  · cases selected <;> rfl

end copyWith

namespace ClientState

/-- An event touches the connection only where it moves the user himself. -/
theorem onEvent_voice (s : ClientState) (e : Event) (type : String)
    (h : ∀ userID fromChannelID toChannelID, e = .memberMoved userID fromChannelID toChannelID →
      s.currentUserId ≠ some userID) : (s.onEvent e type).voice = s.voice := by
  cases e with
  | voiceStateUpdate data =>
    simp only [onEvent, onVoiceEvent]
    split <;> rfl
  | memberKicked userID reason =>
    simp only [onEvent, onVoiceEvent]
    split <;> rfl
  | memberMoved userID fromChannelID toChannelID =>
    simp only [onEvent, onVoiceEvent, if_neg (h userID fromChannelID toChannelID rfl)]
  | _ => rfl

theorem onEvent_joins (s : ClientState) (e : Event) (type : String) : (s.onEvent e type).joins = s.joins := by
  cases e with
  | voiceStateUpdate data =>
    simp only [onEvent, onVoiceEvent]
    split <;> rfl
  | memberKicked userID reason =>
    simp only [onEvent, onVoiceEvent]
    split <;> rfl
  | memberMoved userID fromChannelID toChannelID =>
    simp only [onEvent, onVoiceEvent]
    split <;> rfl
  | _ => rfl

/-- Once set, a channel stays. -/
theorem onEvent_connectedChannelId (s : ClientState) (e : Event) (type : String)
    (h : s.voice.connectedChannelId ≠ none) : (s.onEvent e type).voice.connectedChannelId ≠ none := by
  by_cases hmoved : ∀ userID fromChannelID toChannelID, e = .memberMoved userID fromChannelID toChannelID →
      s.currentUserId ≠ some userID
  · rwa [onEvent_voice s e type hmoved]
  · push Not at hmoved
    obtain ⟨userID, fromChannelID, toChannelID, rfl, huser⟩ := hmoved
    simp only [onEvent, onVoiceEvent, if_pos huser]
    exact Option.some_ne_none toChannelID

end ClientState

section steps

/-- A deleted channel stays selected. -/
theorem onEvent_channelDeleted (state : ChannelsState) (type : String) (c : UInt32) :
    (state.onEvent type (.channelDeleted c)).selectedTextChannelId = state.selectedTextChannelId ∧
      (state.onEvent type (.channelDeleted c)).selectedVoiceChannelId = state.selectedVoiceChannelId :=
  ⟨keep_orElse _ c, keep_orElse _ c⟩

/-- The roster shows a user in no channel exactly when the update has none, or 0. -/
theorem get?_voiceStateUpdate (state : RosterState) (data : VoiceStateUpdate) :
    (state.onEvent (.voiceStateUpdate data)).voiceStates.get? data.userID = none ↔
      data.channelID.join.bind channelOf = none := by
  have hflag := congrFun (flag?_onEvent state.voiceStates data .muted) data.userID
  rw [Function.update_self, flag?] at hflag
  rw [← Option.map_eq_none_iff (f := fun vs : VoiceState => vs.flag .muted)]
  change ((RosterNotifier.onEvent state.voiceStates (.voiceStateUpdate data)).get? data.userID).map _ = none ↔ _
  rw [hflag, Option.map_eq_none_iff]

/-- The members an update is about keep their channel if it has none. -/
theorem mem_voiceStateUpdate (state : RosterState) (data : VoiceStateUpdate) (m' : UserProfile)
    (huser : m'.userId = data.userID) :
    m' ∈ (state.onEvent (.voiceStateUpdate data)).members ↔
      ∃ m ∈ state.members, m.userId = data.userID ∧ m.copyWith none none data.channelID.join = m' := by
  simp only [RosterState.onEvent, List.mem_map]
  constructor
  · rintro ⟨m, hm, hcopy⟩
    by_cases hid : m.userId = data.userID
    · rw [if_pos hid] at hcopy
      exact ⟨m, hm, hid, hcopy⟩
    · rw [if_neg hid] at hcopy
      rw [hcopy] at hid
      exact absurd huser hid
  · rintro ⟨m, hm, hid, hcopy⟩
    exact ⟨m, hm, by rw [if_pos hid]; exact hcopy⟩

/-- An update without a channel clears a member only if it says null, and the roster
had no channel for him. -/
theorem roster_forgets_iff (state : RosterState) (data : VoiceStateUpdate) :
    (∀ m ∈ (state.onEvent (.voiceStateUpdate data)).members, m.userId = data.userID →
      (data.channelID.join.bind channelOf = none → m.voiceChannelId = none) ∧
        (m.voiceChannelId = none ↔
          (state.onEvent (.voiceStateUpdate data)).voiceStates.get? data.userID = none)) ↔
      (data.channelID.join.bind channelOf = none →
        ∀ m ∈ state.members, m.userId = data.userID →
          data.channelID.join = none ∧ m.voiceChannelId = none) := by
  have hcopied : ∀ m : UserProfile, (m.copyWith none none data.channelID.join).voiceChannelId = none ↔
      data.channelID.join = none ∧ m.voiceChannelId = none := by
    intro m
    unfold UserProfile.copyWith
    simp only
    cases data.channelID.join <;> simp
  simp only [get?_voiceStateUpdate]
  constructor
  · intro h hout m hm huser
    have hmem := (mem_voiceStateUpdate state data (m.copyWith none none data.channelID.join) huser).mpr
      ⟨m, hm, huser, rfl⟩
    exact (hcopied m).mp ((h _ hmem huser).1 hout)
  · intro h m' hm' huser
    obtain ⟨m, hm, hid, rfl⟩ := (mem_voiceStateUpdate state data m' huser).mp hm'
    have hclear : data.channelID.join.bind channelOf = none →
        (m.copyWith none none data.channelID.join).voiceChannelId = none :=
      fun hout => (hcopied m).mpr (h hout m hm hid)
    refine ⟨hclear, fun hnull => ?_, hclear⟩
    rw [((hcopied m).mp hnull).1]
    rfl

end steps

section runs

/-- Of a join that ends, only a failing one leaves a channel behind. -/
theorem joinEnded_forgotten_iff {s : ClientState} (hs : s.Settled) (i : Nat) (outcome : JoinEnd) :
    (s.joinEnded i outcome).voice.Forgotten ↔ ClientAct.Clean s (.joinEnded i outcome) := by
  unfold ClientState.joinEnded
  cases hjoin : s.joins[i]? with
  | none =>
    refine iff_of_true hs.forgotten ?_
    cases outcome with
    | failed => exact hjoin
    | _ => trivial
  | some call =>
    have hset : s.voice.connectedChannelId ≠ none :=
      hs.joining (List.ne_nil_of_mem (List.mem_of_getElem? hjoin))
    cases outcome with
    | connected =>
      refine iff_of_true (fun hstatus => ?_) trivial
      simp [VoiceConnection.copyWith] at hstatus
    | failed =>
      refine iff_of_false (fun hforgotten => hset ?_) (by simp [ClientAct.Clean, hjoin])
      exact (hforgotten rfl).1
    | nobody => exact iff_of_true hs.forgotten trivial

/-- In a settled state exactly the clean steps forget what ended. -/
theorem forgets_iff_clean {s : ClientState} (hs : s.Settled) (act : ClientAct) :
    Forgets s act (clientMachine.next s act) ↔ act.Clean s := by
  cases act with
  | joinVoice channelId channelName =>
    refine iff_of_true ⟨?_, trivial⟩ trivial
    change (s.joinVoice channelId channelName).voice.Forgotten
    unfold ClientState.joinVoice
    split
    · exact hs.forgotten
    · intro hstatus
      simp [VoiceConnection.copyWith] at hstatus
  | joinEnded i outcome => exact (and_iff_left trivial).trans (joinEnded_forgotten_iff hs i outcome)
  | disconnected =>
    change s.disconnected.voice.Forgotten ∧
      (s.leaves ≠ 0 → s.disconnected.channels.selectedVoiceChannelId = none) ↔
      (s.leaves = 0 ∨ _)
    unfold ClientState.disconnected
    by_cases hleaves : s.leaves = 0
    · rw [if_pos hleaves]
      exact iff_of_true ⟨hs.forgotten, fun h => absurd hleaves h⟩ (.inl hleaves)
    · rw [if_neg hleaves]
      simp only [hleaves, ne_eq, not_false_eq_true, forall_const, false_or]
      refine ⟨fun ⟨hvoice, hselected⟩ => ⟨(hvoice rfl).1, (hvoice rfl).2, hselected⟩, ?_⟩
      exact fun ⟨hid, hname, hselected⟩ => ⟨fun _ => ⟨hid, hname⟩, hselected⟩
  | event e type =>
    cases e with
    | voiceStateUpdate data =>
      have hvoice : (s.onEvent (.voiceStateUpdate data) type).voice = s.voice :=
        s.onEvent_voice _ type (by simp)
      refine (and_iff_right ?_).trans (roster_forgets_iff s.roster data)
      change (s.onEvent (.voiceStateUpdate data) type).voice.Forgotten
      rw [hvoice]
      exact hs.forgotten
    | channelDeleted c =>
      obtain ⟨htext, hvoice⟩ := onEvent_channelDeleted s.channels type c
      refine (and_iff_right hs.forgotten).trans ?_
      change (_ → (s.channels.onEvent type (.channelDeleted c)).selectedTextChannelId = none) ∧
        (_ → (s.channels.onEvent type (.channelDeleted c)).selectedVoiceChannelId = none) ↔ _ ∧ _
      rw [htext, hvoice]
      refine and_congr ⟨fun h hsel => ?_, fun h hsel => absurd hsel h⟩
        ⟨fun h hsel => ?_, fun h hsel => absurd hsel h⟩
      · simp [h hsel] at hsel
      · simp [h hsel] at hsel
    | memberMoved userID fromChannelID toChannelID =>
      refine (and_iff_left trivial).trans ?_
      change (s.onEvent (.memberMoved userID fromChannelID toChannelID) type).voice.Forgotten ↔ (_ → _)
      by_cases huser : s.currentUserId = some userID
      · simp only [ClientState.onEvent, ClientState.onVoiceEvent, huser, forall_const]
        simp [VoiceConnection.Forgotten, VoiceConnection.copyWith]
      · rw [s.onEvent_voice _ type (by simpa using huser)]
        exact iff_of_true hs.forgotten fun h => absurd h huser
    | _ =>
      refine iff_of_true ⟨?_, trivial⟩ trivial
      change (s.onEvent _ type).voice.Forgotten
      rw [s.onEvent_voice _ type (by simp)]
      exact hs.forgotten
  | _ => exact iff_of_true ⟨hs.forgotten, trivial⟩ trivial

/-- A join that waits has a channel set, whatever happens meanwhile. -/
theorem joining_next {s : ClientState} (hs : s.Settled) (act : ClientAct)
    (hjoins : (clientMachine.next s act).joins ≠ []) :
    (clientMachine.next s act).voice.connectedChannelId ≠ none := by
  cases act with
  | joinVoice channelId channelName =>
    change (s.joinVoice channelId channelName).joins ≠ [] at hjoins
    change (s.joinVoice channelId channelName).voice.connectedChannelId ≠ none
    unfold ClientState.joinVoice at hjoins ⊢
    split at hjoins
    · rename_i hthere
      rw [if_pos hthere]
      exact hs.joining hjoins
    · rename_i hnew
      rw [if_neg hnew]
      exact Option.some_ne_none channelId
  | joinEnded i outcome =>
    change (s.joinEnded i outcome).joins ≠ [] at hjoins
    change (s.joinEnded i outcome).voice.connectedChannelId ≠ none
    unfold ClientState.joinEnded at hjoins ⊢
    cases hjoin : s.joins[i]? with
    | none =>
      rw [hjoin] at hjoins
      exact hs.joining hjoins
    | some call =>
      have hset := hs.joining (List.ne_nil_of_mem (List.mem_of_getElem? hjoin))
      cases outcome with
      | connected => exact Option.some_ne_none call.1
      | failed => exact orElse_ne_none none hset
      | nobody => exact hset
  | disconnected =>
    change s.disconnected.joins ≠ [] at hjoins
    change s.disconnected.voice.connectedChannelId ≠ none
    unfold ClientState.disconnected at hjoins ⊢
    split at hjoins
    · rename_i hleaves
      rw [if_pos hleaves]
      exact hs.joining hjoins
    · rename_i hleaves
      rw [if_neg hleaves]
      exact orElse_ne_none none (hs.joining hjoins)
  | event e type =>
    refine s.onEvent_connectedChannelId e type (hs.joining ?_)
    rwa [← s.onEvent_joins e type]
  | _ => exact hs.joining hjoins

theorem settled_new : ClientState.new.Settled where
  forgotten _ := ⟨rfl, rfl⟩
  joining h := absurd rfl h

/-- **What ended is forgotten in exactly the clean runs.** Every `copyWith` reads null as
"keep", so a channel that was set stays: in the voice state of who is disconnected, in the
selection after it is deleted, and at a member who left. -/
theorem cleared_state_iff (acts : List ClientAct) :
    Along (fun pre act =>
      Forgets (clientMachine.run .new pre) act (clientMachine.run .new (pre ++ [act]))) acts ↔
      Along (fun pre act => act.Clean (clientMachine.run .new pre)) acts := by
  refine along_iff_along (fun _ _ => True) (fun pre => (clientMachine.run .new pre).Settled) settled_new
    (fun pre act _ hs => ?_) (fun pre act _ hs hclean => ?_) acts fun _ _ _ _ => trivial
  · rw [run_concat]
    exact forgets_iff_clean hs act
  · rw [run_concat]
    exact ⟨((forgets_iff_clean hs act).mpr hclean).1, joining_next hs act⟩

/-- A join that fails leaves the channel it was for. -/
theorem failed_join_not_cleared :
    ¬ ∀ acts, Along (fun pre act =>
      Forgets (clientMachine.run .new pre) act (clientMachine.run .new (pre ++ [act]))) acts := by
  intro h
  have hforgets := (h [.joinVoice 5 "Lounge", .joinEnded 0 .failed]) [.joinVoice 5 "Lounge"] _ [] rfl
  exact absurd (hforgets.1 rfl).1 (by decide)

end runs

end low_latency_voice.client.state

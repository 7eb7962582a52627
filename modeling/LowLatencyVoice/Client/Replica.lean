import LowLatencyVoice.Client.Notifiers
import LowLatencyVoice.Control.Operations

open low_latency_voice.control

namespace low_latency_voice.client.state

/-- The voice channel of each user. -/
abbrev View := UInt32 → Option UInt32

/-- What an event tells, applied to a view. -/
def View.after (view : View) (event : Event) : View :=
  match event.placement with
  | none => view
  | some (userID, channelID) => Function.update view userID (channelID.bind channelOf)

/-- The client shows every user once in the channel of the view, and nowhere else. -/
def Shows (occupants : VoiceOccupants) (view : View) : Prop :=
  ∀ u c, (occupants.of c).count u = if view u = some c then 1 else 0

variable {Addr : Type}

/-- The operation tells the client what the hub does. An admitted `join_voice` gets its
token, unless it changes no room; `set_voice_state` and the router name the room
the hub has for the user; nobody is moved to channel 0; a moderator sets no flag of
a user in voice; and a connection in no room takes no voice state with it. -/
def TellsRooms (b : Backend Addr) : Operation → Prop
  | .voice (.joinVoice c x params) => b.Admits x c params → b.issuesToken x c params = true ∨
      b.hub.room? (b.hub.conn c).userID = some (getUInt32 params "channel_id")
  | .voice (.setVoiceState c _ _) => (b.hub.conn c).isAuthenticated = true →
      b.hub.room? (b.hub.conn c).userID = channelOf (b.hub.conn c).activeVoiceChannel
  | .voice (.setServerFlag flag c params) => b.maySet c flag = true →
      b.hub.room? (getUInt32 params "target_user_id") = none
  | .voice (.moveMember c params) => b.mayMove c = true →
      (b.hub.room? (getUInt32 params "target_user_id") = none ∨
        b.hub.room? (getUInt32 params "target_user_id") = some 0) ∨ getUInt32 params "to_channel_id" ≠ 0
  | .voice (.notify channelID userID _ _) => b.hub.room? userID = channelOf channelID
  | .disconnect c => b.hub.Registered c → b.hub.LeavesVoice c →
      0 < (b.hub.conn c).activeVoiceChannel ∨ b.hub.room? (b.hub.conn c).userID = none
  | _ => True

section view

theorem shows_onEvent {occupants : VoiceOccupants} {view : View} (h : Shows occupants view) (event : Event) :
    Shows (ChannelsNotifier.onEvent occupants event) (view.after event) := by
  have hplaced : ∀ u channelID, Shows (ChannelsNotifier.updateVoiceOccupant occupants u channelID)
      (Function.update view u (channelID.bind channelOf)) := by
    intro u channelID v c
    rw [count_updateVoiceOccupant]
    by_cases hv : v = u
    · subst v
      rw [if_pos rfl, Function.update_self]
      congr 1
      cases channelID with
      | none => simp
      | some room => by_cases hroom : 0 < room <;> simp [channelOf, hroom] <;> grind
    · rw [if_neg hv, Function.update_of_ne hv]
      exact h v c
  cases event with
  | voiceStateUpdate data => exact hplaced data.userID data.channelID.join
  | memberMoved userID fromChannelID toChannelID => exact hplaced userID (some toChannelID)
  | memberKicked userID reason => exact hplaced userID none
  | _ => exact h

theorem shows_foldl {occupants : VoiceOccupants} (broadcasts : List Broadcast) : ∀ {view : View},
    Shows occupants view →
      Shows (broadcasts.foldl
        (fun occupants broadcast => ChannelsNotifier.onEvent occupants broadcast.event) occupants)
        (broadcasts.foldl (fun view broadcast => View.after view broadcast.event) view) := by
  induction broadcasts generalizing occupants with
  | nil => exact id
  | cons broadcast broadcasts ih => exact fun h => ih (shows_onEvent h broadcast.event)

/-- A client shows one view only. -/
theorem Shows.unique {occupants : VoiceOccupants} {view view' : View} (h : Shows occupants view)
    (h' : Shows occupants view') : view = view' := by
  have hsame : ∀ u c, view u = some c ↔ view' u = some c := by
    intro u c
    have hcount := (h u c).symm.trans (h' u c)
    by_cases hu : view u = some c <;> by_cases hu' : view' u = some c <;> simp_all
  funext u
  exact Option.ext fun c => hsame u c

/-- `disconnect` is called for an event that takes the client's own user out of voice. -/
theorem placement_of_disconnect {currentUserId : UInt32} {state : VoiceStateModel} {event : Event}
    (hcall : (VoiceNotifier.onEvent currentUserId state event).2 = true) :
    event.placement = some (currentUserId, none) := by
  unfold VoiceNotifier.onEvent at hcall
  cases event with
  | voiceStateUpdate data =>
    simp only at hcall
    split at hcall
    · rename_i hown
      simp only [Bool.and_eq_true, beq_iff_eq] at hcall
      simp [Event.placement, hown, hcall.1]
    · split at hcall
      · cases hcall
      · split at hcall <;> cases hcall
  | memberMoved userID fromChannelID toChannelID =>
    simp only at hcall
    split at hcall <;> cases hcall
  | memberKicked userID reason =>
    simp only at hcall
    split at hcall
    · rename_i hown
      simp [Event.placement, hown]
    · cases hcall
  | _ => cases hcall

/-- The view after a batch of broadcasts. -/
def View.afterAll (view : View) (broadcasts : List Broadcast) : View :=
  broadcasts.foldl (fun view broadcast => View.after view broadcast.event) view

theorem View.afterAll_of_placement_none {broadcasts : List Broadcast} {view : View}
    (hnone : ∀ e ∈ broadcasts, e.event.placement = none) : view.afterAll broadcasts = view := by
  induction broadcasts with
  | nil => rfl
  | cons e broadcasts ih =>
    have hview : view.after e.event = view := by
      unfold View.after
      rw [hnone e List.mem_cons_self]
    have hrest := ih fun e' he' => hnone e' (List.mem_cons_of_mem e he')
    unfold View.afterAll at hrest ⊢
    rw [List.foldl_cons, hview, hrest]

/-- Broadcasts that only say a user is gone take the user out of the view, if one of
them says so. -/
theorem View.afterAll_of_frees {u : UInt32} {broadcasts : List Broadcast} : ∀ {view : View},
    (∀ e ∈ broadcasts, e.event.Frees u) → (∃ e ∈ broadcasts, e.event.placement = some (u, none)) →
      view.afterAll broadcasts = Function.update view u none := by
  induction broadcasts with
  | nil =>
    intro view hfrees hsays
    obtain ⟨e, he, -⟩ := hsays
    cases he
  | cons e broadcasts ih =>
    intro view hfrees hsays
    have hcons : view.afterAll (e :: broadcasts) = (view.after e.event).afterAll broadcasts := rfl
    have hrest : ∀ e' ∈ broadcasts, e'.event.Frees u := fun e' he' => hfrees e' (List.mem_cons_of_mem e he')
    rw [hcons]
    obtain hnone | hgone := hfrees e List.mem_cons_self
    · have hview : view.after e.event = view := by
        unfold View.after
        rw [hnone]
      rw [hview]
      refine ih hrest ?_
      obtain ⟨e', he', hsays⟩ := hsays
      obtain rfl | he' := List.mem_cons.mp he'
      · rw [hnone] at hsays
        cases hsays
      · exact ⟨e', he', hsays⟩
    · have hview : view.after e.event = Function.update view u none := by
        unfold View.after
        rw [hgone]
        rfl
      rw [hview]
      by_cases hmore : ∃ e' ∈ broadcasts, e'.event.placement = some (u, none)
      · rw [ih hrest hmore, Function.update_idem]
      · refine View.afterAll_of_placement_none ?_
        intro e' he'
        exact (hrest e' he').resolve_right fun hsays => hmore ⟨e', he', hsays⟩

end view

section step

/-- The broadcasts of a step bring the view of the hub up to date. -/
def Told (b : Backend Addr) (r : Backend Addr × List Broadcast) : Prop :=
  View.afterAll b.hub.room? r.2 = r.1.hub.room?

/-- A step is told exactly under the condition, and then whom its broadcasts take out
of voice is out of voice. -/
structure ToldIff (condition : Prop) (b : Backend Addr) (r : Backend Addr × List Broadcast) : Prop where
  iff : Told b r ↔ condition
  gone : Told b r → ∀ e ∈ r.2, ∀ u, e.event.placement = some (u, none) → r.1.hub.room? u = none

variable {condition : Prop} {b : Backend Addr} {r : Backend Addr × List Broadcast}

theorem toldIff_of_silent (hhub : r.1.hub = b.hub) (htells : r.2 = []) (hcondition : condition) :
    ToldIff condition b r where
  iff := by
    refine iff_of_true ?_ hcondition
    unfold Told
    rw [hhub, htells]
    rfl
  gone := by
    intro _ e he
    rw [htells] at he
    cases he

/-- A step with one update is told if the update has the room of its user. -/
theorem toldIff_of_update {receivers : UInt32} (data : VoiceStateUpdate) {u : UInt32} {room : Option UInt32}
    (htells : r.2 = [⟨receivers, .voiceStateUpdate data⟩]) (huser : data.userID = u)
    (hroom : data.channelID.join.bind channelOf = room)
    (hcondition : Function.update b.hub.room? u room = r.1.hub.room? ↔ condition) :
    ToldIff condition b r where
  iff := by
    rw [← hcondition, ← huser, ← hroom]
    unfold Told
    rw [htells]
    rfl
  gone := by
    intro htold e he v hplaced
    unfold Told at htold
    rw [htells] at htold he
    rw [List.mem_singleton.mp he] at hplaced
    obtain ⟨rfl, hnone⟩ := Prod.mk.inj (Option.some.inj hplaced)
    rw [← htold]
    change Function.update b.hub.room? data.userID (data.channelID.join.bind channelOf) data.userID = none
    rw [Function.update_self, hnone]
    rfl

/-- If the step moves nobody, the update has to have the room the user was in. -/
theorem toldIff_of_kept {receivers : UInt32} (data : VoiceStateUpdate) {u : UInt32} {room : Option UInt32}
    (htells : r.2 = [⟨receivers, .voiceStateUpdate data⟩]) (huser : data.userID = u)
    (hroom : data.channelID.join.bind channelOf = room) (hkept : r.1.hub.room? = b.hub.room?)
    (hcondition : b.hub.room? u = room ↔ condition) : ToldIff condition b r := by
  refine toldIff_of_update data htells huser hroom ?_
  rw [← hcondition, hkept, Function.update_eq_self_iff]
  exact eq_comm

theorem toldIff_joinVoice (c : ClientID) (x : auth.Env) (params : Params) :
    ToldIff (TellsRooms b (.voice (.joinVoice c x params))) b
      ((VoiceOperation.joinVoice c x params).perform b) := by
  obtain ⟨hrefused, hhub, htells⟩ | ⟨hadmits, ⟨channel, hjoin⟩, htells⟩ := perform_joinVoice b c x params
  · exact toldIff_of_silent hhub htells fun hadmits => absurd hadmits hrefused
  have hchannel : getUInt32 params "channel_id" ≠ 0 := hadmits.2.2.1
  have hrooms := (Hub.room?_joinVoice hjoin).1
  by_cases htoken : b.issuesToken x c params = true
  · rw [if_pos htoken] at htells
    have hpos : 0 < getUInt32 params "channel_id" := UInt32.pos_iff_ne_zero.mpr hchannel
    exact toldIff_of_update _ htells rfl (if_pos hpos) (iff_of_true hrooms.symm fun _ => .inl htoken)
  · rw [if_neg htoken] at htells
    refine ⟨?_, by simp [htells]⟩
    unfold Told
    rw [htells, hrooms]
    refine Function.eq_update_self_iff.trans ⟨?_, ?_⟩
    · exact fun hsame _ => .inr hsame
    · exact fun hok => (hok hadmits).resolve_left htoken

theorem toldIff_setVoiceState (c : ClientID) (x : auth.Env) (params : Params) :
    ToldIff (TellsRooms b (.voice (.setVoiceState c x params))) b
      ((VoiceOperation.setVoiceState c x params).perform b) := by
  obtain ⟨hrooms, -, htells⟩ := perform_setVoiceState b c x params
  by_cases hauth : (b.hub.conn c).isAuthenticated = true
  · rw [if_pos hauth] at htells
    have hactive : (if 0 < (b.hub.conn c).activeVoiceChannel then some (b.hub.conn c).activeVoiceChannel
        else none).bind channelOf = channelOf (b.hub.conn c).activeVoiceChannel := by
      by_cases hpos : 0 < (b.hub.conn c).activeVoiceChannel <;> simp [channelOf, hpos]
    exact toldIff_of_kept _ htells rfl hactive hrooms ⟨fun hsame _ => hsame, fun hok => hok hauth⟩
  · have hsilent : (VoiceOperation.setVoiceState c x params).perform b = (b, []) := if_neg hauth
    exact toldIff_of_silent (congrArg (fun r => r.1.hub) hsilent) (congrArg Prod.snd hsilent)
      fun h => absurd h hauth

theorem toldIff_setServerFlag (flag : ModFlag) (c : ClientID) (params : Params) :
    ToldIff (TellsRooms b (.voice (.setServerFlag flag c params))) b
      ((VoiceOperation.setServerFlag flag c params).perform b) := by
  obtain ⟨hhub, htells⟩ := perform_setServerFlag b c params flag
  by_cases hmay : b.maySet c flag = true
  · rw [if_pos hmay] at hhub htells
    have hrooms : ((VoiceOperation.setServerFlag flag c params).perform b).1.hub.room? = b.hub.room? := by
      rw [hhub, Hub.room?_setFlag]
    exact toldIff_of_kept _ htells rfl rfl hrooms ⟨fun hsame _ => hsame, fun hok => hok hmay⟩
  · rw [if_neg hmay] at hhub htells
    exact toldIff_of_silent hhub htells fun h => absurd h hmay

theorem toldIff_moveMember (c : ClientID) (params : Params) :
    ToldIff (TellsRooms b (.voice (.moveMember c params))) b
      ((VoiceOperation.moveMember c params).perform b) := by
  obtain ⟨hrefused, hhub, htells⟩ | ⟨hmay, hmove, fromChannelID, htells⟩ := perform_moveMember b c params
  · exact toldIff_of_silent hhub htells fun hmay => .inl (hrefused hmay)
  have hrooms := (Hub.room?_moveMember hmove).1
  constructor
  · have hview : View.afterAll b.hub.room? ((VoiceOperation.moveMember c params).perform b).2 =
        Function.update b.hub.room? (getUInt32 params "target_user_id")
          (channelOf (getUInt32 params "to_channel_id")) := by
      rw [htells]
      exact Function.update_idem _ _ _
    unfold Told
    rw [hview, hrooms]
    constructor
    · intro hsame _
      refine .inr fun hzero => ?_
      have hmoved := congrFun hsame (getUInt32 params "target_user_id")
      rw [Function.update_self, Function.update_self, hzero] at hmoved
      cases hmoved
    · intro hok
      obtain hout | hne := hok hmay
      · rw [← Hub.moveMember_eq_none_iff, hmove] at hout
        cases hout
      · rw [channelOf, if_pos (UInt32.pos_iff_ne_zero.mpr hne)]
  · intro _ e he u hplaced
    rw [htells, List.mem_pair] at he
    obtain rfl | rfl := he <;> cases hplaced

theorem toldIff_notify (channelID userID : UInt32) (speaking : Bool) (energy : UInt8) :
    ToldIff (TellsRooms b (.voice (.notify channelID userID speaking energy))) b
      ((VoiceOperation.notify channelID userID speaking energy).perform b) :=
  toldIff_of_kept (.speaks userID channelID speaking energy) rfl rfl rfl
    (b.hub.room?_broadcastVoiceState channelID userID speaking energy) Iff.rfl

variable [DecidableEq Addr] (go : GoLibrary)

theorem toldIff_connect (c : ClientID) (user : model.User) :
    ToldIff (TellsRooms b (.connect c user)) b ((Operation.connect c user).perform go b) := by
  have hreg : (b.hub.registerClient c).voiceStates = b.hub.voiceStates := by
    unfold Hub.registerClient
    split <;> rfl
  have hrooms : ((Operation.connect c user).perform go b).1.hub.room? = b.hub.room? := by
    funext u
    unfold Hub.room?
    rw [← hreg]
    rfl
  refine ⟨iff_of_true hrooms.symm trivial, ?_⟩
  intro _ e he u hplaced
  rw [List.mem_singleton.mp he] at hplaced
  cases hplaced

theorem toldIff_leaveVoice (c : ClientID) :
    ToldIff (TellsRooms b (.leaveVoice c)) b ((Operation.leaveVoice c).perform go b) := by
  obtain ⟨hhub, htells⟩ := perform_leaveVoice b c go
  by_cases hin : b.hub.inVoice c = true
  · rw [if_pos hin] at hhub htells
    have hactive : 0 < (b.hub.conn c).activeVoiceChannel := by
      simpa using (Bool.and_eq_true_iff.mp hin).2
    refine toldIff_of_update _ htells rfl rfl (iff_of_true ?_ trivial)
    rw [hhub, Hub.room?_leaveVoice hactive]
    rfl
  · rw [if_neg hin] at hhub htells
    exact toldIff_of_silent hhub htells trivial

theorem toldIff_kickMember (hown : b.hub.ListsOwn) (c : ClientID) (x : auth.Env) (params : Params) :
    ToldIff (TellsRooms b (.kickMember c x params)) b ((Operation.kickMember c x params).perform go b) := by
  obtain ⟨hhub, htells⟩ | ⟨-, hrooms, hfrees, reason, hsays⟩ := perform_kickMember go b c x params hown
  · exact toldIff_of_silent hhub htells trivial
  constructor
  · refine iff_of_true ?_ trivial
    exact (View.afterAll_of_frees hfrees ⟨_, hsays, rfl⟩).trans hrooms.symm
  · intro _ e he u hplaced
    rw [hrooms]
    obtain hnone | hgone := hfrees e he
    · rw [hnone] at hplaced
      cases hplaced
    · rw [hgone] at hplaced
      cases hplaced
      exact Function.update_self _ _ _

/-- A disconnect is told unless it takes along the voice state of a user in a
channel, from a connection in none. -/
theorem toldIff_disconnect (c : ClientID) :
    ToldIff (TellsRooms b (.disconnect c)) b ((Operation.disconnect c).perform go b) := by
  obtain ⟨hleft, hstayed, presence, htells, hpresence⟩ := unregisterClient_spec b c
  have hnone : ∀ e ∈ presence, e.event.placement = none := by
    intro e he
    obtain ⟨_, _, _, rfl⟩ := hpresence e he
    rfl
  change ToldIff _ b (b.unregisterClient c)
  by_cases hin : b.hub.Registered c ∧ b.hub.inVoice c = true
  · have hvoice := Bool.and_eq_true_iff.mp hin.2
    have hactive : 0 < (b.hub.conn c).activeVoiceChannel := by simpa using hvoice.2
    have hrooms := hleft ⟨hin.1, hvoice.1, .inl hactive⟩
    rw [if_pos hin] at htells
    constructor
    · refine iff_of_true ?_ fun _ _ => .inl hactive
      unfold Told
      rw [hrooms, htells]
      refine View.afterAll_of_frees ?_ ⟨_, List.mem_cons_self, rfl⟩
      intro e he
      obtain rfl | he := List.mem_cons.mp he
      · exact .inr rfl
      · exact .inl (hnone e he)
    · intro _ e he u hplaced
      rw [htells] at he
      rw [hrooms]
      obtain rfl | he := List.mem_cons.mp he
      · cases hplaced
        exact Function.update_self _ _ _
      · rw [hnone e he] at hplaced
        cases hplaced
  · rw [if_neg hin, List.nil_append] at htells
    constructor
    · unfold Told
      rw [htells, View.afterAll_of_placement_none hnone]
      by_cases hleaves : b.hub.Registered c ∧ b.hub.LeavesVoice c
      · have hactive : ¬ 0 < (b.hub.conn c).activeVoiceChannel := fun hpos =>
          hin ⟨hleaves.1, by simp [Hub.inVoice, hleaves.2.1, hpos]⟩
        rw [hleft hleaves]
        refine Function.eq_update_self_iff.trans ⟨?_, ?_⟩
        · exact fun hgone _ _ => .inr hgone
        · exact fun hok => (hok hleaves.1 hleaves.2).resolve_left hactive
      · rw [hstayed hleaves]
        exact iff_of_true rfl fun hreg hl => absurd ⟨hreg, hl⟩ hleaves
    · intro _ e he u hplaced
      rw [htells] at he
      rw [hnone e he] at hplaced
      cases hplaced

/-- An operation is told exactly when it tells the rooms. -/
theorem toldIff_perform (hown : b.hub.ListsOwn) (op : Operation) :
    ToldIff (TellsRooms b op) b (op.perform go b) := by
  cases op with
  | connect c user => exact toldIff_connect go c user
  | voice op =>
    cases op with
    | joinVoice c x params => exact toldIff_joinVoice c x params
    | setVoiceState c x params => exact toldIff_setVoiceState c x params
    | setServerFlag flag c params => exact toldIff_setServerFlag flag c params
    | moveMember c params => exact toldIff_moveMember c params
    | notify channelID userID speaking energy => exact toldIff_notify channelID userID speaking energy
  | leaveVoice c => exact toldIff_leaveVoice go c
  | kickMember c x params => exact toldIff_kickMember go hown c x params
  | disconnect c => exact toldIff_disconnect go c

end step

section run

variable [DecidableEq Addr]

/-- The hub, and a client that takes in every broadcast once and in order. -/
def replica (go : GoLibrary) : Machine (Backend Addr × VoiceOccupants) Operation (List Broadcast) :=
  (hubMachine go).observed fun occupants broadcast => ChannelsNotifier.onEvent occupants broadcast.event

/-- After the broadcasts of the operation the client shows the rooms of the hub, and
whatever its voice state, it has called `disconnect` only if the hub has no voice
state for its user. -/
def Follows (go : GoLibrary) (currentUserId : UInt32) (s : Backend Addr × VoiceOccupants) (op : Operation) :
    Prop :=
  Shows ((replica go).next s op).2 ((replica go).next s op).1.hub.room? ∧
    ∀ state, ∀ broadcast ∈ (replica go).out s op,
      (VoiceNotifier.onEvent currentUserId state broadcast.event).2 = true →
        ((replica go).next s op).1.hub.room? currentUserId = none

/-- The client follows every operation of the run. -/
def FollowsAlong (go : GoLibrary) (currentUserId : UInt32) (s : Backend Addr × VoiceOccupants)
    (ops : List Operation) : Prop :=
  Machine.Along (fun pre op => Follows go currentUserId ((replica go).run s pre) op) ops

/-- Every operation of the run tells the rooms. -/
def TellsRoomsAlong (go : GoLibrary) (s : Backend Addr × VoiceOccupants) (ops : List Operation) : Prop :=
  Machine.Along (fun pre op => TellsRooms ((replica go).run s pre).1 op) ops

/-- No user ever has two connections. -/
def SingleConnections (go : GoLibrary) (b : Backend Addr) (ops : List Operation) : Prop :=
  Machine.Along (fun pre op => SingleConnection ((hubMachine go).run b pre) op) ops

/-- From agreement, the client follows an operation exactly when it tells the rooms. -/
theorem follows_iff_tellsRooms (go : GoLibrary) (currentUserId : UInt32) {s : Backend Addr × VoiceOccupants}
    (hown : s.1.hub.ListsOwn) (hagree : Shows s.2 s.1.hub.room?) (op : Operation) :
    Follows go currentUserId s op ↔ TellsRooms s.1 op := by
  have hshows : Shows ((replica go).next s op).2 (View.afterAll s.1.hub.room? (op.perform go s.1).2) :=
    shows_foldl (op.perform go s.1).2 hagree
  have htold := toldIff_perform go hown op
  constructor
  · intro hfollows
    exact htold.iff.mp (hshows.unique hfollows.1)
  · intro hok
    have htells : Told s.1 (op.perform go s.1) := htold.iff.mpr hok
    constructor
    · have hview : View.afterAll s.1.hub.room? (op.perform go s.1).2 =
          ((replica go).next s op).1.hub.room? := htells
      exact hview ▸ hshows
    · intro state broadcast hmem hcall
      exact htold.gone htells broadcast hmem currentUserId (placement_of_disconnect hcall)

/-- Whatever happens, nobody is listed under another user. -/
theorem listsOwn_run {go : GoLibrary} {b : Backend Addr} (hnew : b.hub = .new) (ops : List Operation)
    (hsingle : SingleConnections go b ops) : ((hubMachine go).run b ops).hub.ListsOwn := by
  refine (hubMachine go).run_invariant (fun _ b => b.hub.ListsOwn) ?_ ?_ ops hsingle
  · intro u c hlisted
    rw [hnew] at hlisted
    unfold Hub.Listed at hlisted
    cases (GoMap.get₂_empty u c).symm.trans hlisted
  · exact fun pre op hok hown => op.listsOwn_perform go _ hok hown

/-- In every run, a client that starts with the view of the hub has it after each
operation, and disconnects only when its user is out of voice, if and only if each
operation tells the rooms. -/
theorem followsAlong_iff_tellsRoomsAlong (go : GoLibrary) (currentUserId : UInt32) (b : Backend Addr)
    (hnew : b.hub = .new) (setup ops : List Operation) (occupants : VoiceOccupants)
    (hsingle : SingleConnections go b (setup ++ ops))
    (hagree : Shows occupants ((hubMachine go).run b setup).hub.room?) :
    FollowsAlong go currentUserId ((hubMachine go).run b setup, occupants) ops ↔
      TellsRoomsAlong go ((hubMachine go).run b setup, occupants) ops := by
  generalize hstart : ((hubMachine go).run b setup, occupants) = s
  have hhub : ∀ pre, ((replica go).run s pre).1 = (hubMachine go).run b (setup ++ pre) := by
    intro pre
    rw [Machine.run_append, ← hstart]
    exact (hubMachine go).run_observed_fst _ _ _ pre
  refine Machine.along_iff_along (fun pre op => SingleConnection ((replica go).run s pre).1 op)
    (fun pre => ((replica go).run s pre).1.hub.ListsOwn ∧
      Shows ((replica go).run s pre).2 ((replica go).run s pre).1.hub.room?) ?_ ?_ ?_ ops ?_
  · rw [← hstart]
    exact ⟨listsOwn_run hnew setup (Machine.Along.front hsingle), hagree⟩
  · exact fun pre op _ hinv => follows_iff_tellsRooms go currentUserId hinv.1 hinv.2 op
  · intro pre op hok hinv htells
    rw [Machine.run_concat]
    have hfollows := (follows_iff_tellsRooms go currentUserId hinv.1 hinv.2 op).mpr htells
    exact ⟨op.listsOwn_perform go _ hok hinv.1, hfollows.1⟩
  · intro pre op post heq
    rw [hhub]
    exact hsingle (setup ++ pre) op post (by rw [heq, List.append_assoc])

end run

/-- The library on messages that are trimmed and in lower case. -/
def plain : GoLibrary where
  trimSpace := id
  toLower := id
  unmarshal _ := none

/-- Nothing fails, and the voice token is `token`. -/
def calm (token : model.Token) : auth.Env where
  now := 0
  fault _ := .none
  errorText := ""
  hash := none
  passwordMatches := true
  sessionToken := none
  voiceToken := some (token, 5)
  allowMessage := true
  order := []

def parameters (entries : List (String × JsonValue)) : Params :=
  entries.foldl (fun m e => m.set e.1 e.2) ∅

/-- A server that has just started. -/
def fresh : Backend Nat where
  toWorld := .new ∅ ∅
  database := storage.Database.seeded

/-- User 7 is connected, and the creator. -/
def connected : List Operation :=
  [.connect 1 ⟨7, "kim", model.permDefaultMember⟩, .connect 2 ⟨1, "root", model.permAdmin⟩]

/-- User 7 joins the lounge. -/
def joins : VoiceOperation := .joinVoice 1 (calm [0x78]) (parameters [("channel_id", .number 2)])

/-- The creator mutes user 7. -/
def mutes : VoiceOperation :=
  .setServerFlag .muted 2 (parameters [("target_user_id", .number 7), ("muted", .bool true)])

/-- User 7 joins the lounge, speaks, is moved, and leaves. -/
def visit : List Operation :=
  [.voice joins, .voice (.notify 2 7 true 9), .voice (.setVoiceState 1 (calm []) ∅),
    .voice (.moveMember 2 (parameters [("target_user_id", .number 7), ("to_channel_id", .number 3)])),
    .leaveVoice 1, .disconnect 1]

theorem singleConnections_connected (ops : List Operation)
    (hops : ∀ op ∈ ops, ∀ c user, op ≠ .connect c user) :
    SingleConnections plain fresh (connected ++ ops) := by
  simp only [SingleConnections, connected, List.cons_append, List.nil_append, Machine.along_cons_iff]
  refine ⟨⟨rfl, ?_⟩, ⟨rfl, ?_⟩, ?_⟩
  · intro c' hreg
    cases hreg
  · intro c' hreg hauth
    have hc : c' = 1 := by
      by_contra hne
      have honly : (GoMap.set (∅ : ClientSet) 1 ()).get? c' = some () := hreg
      rw [GoMap.get?_set, if_neg hne, GoMap.get?_empty] at honly
      cases honly
    subst c'
    cases hauth.2
  · intro pre op post heq
    have hother := hops op (by simp [heq])
    cases op with
    | connect c user => exact absurd rfl (hother c user)
    | _ => trivial

theorem shows_connected : Shows ∅ ((hubMachine plain).run fresh connected).hub.room? := fun _ _ => rfl

theorem followsAlong_visit : FollowsAlong plain 7 ((hubMachine plain).run fresh connected, ∅) visit := by
  refine (followsAlong_iff_tellsRoomsAlong plain 7 fresh rfl connected visit ∅
    (singleConnections_connected visit (by simp [visit])) shows_connected).mpr ?_
  simp only [TellsRoomsAlong, visit, Machine.along_cons_iff]
  refine ⟨fun _ => .inl rfl, rfl, fun _ => rfl, fun _ => .inr (by decide), trivial, fun _ _ => .inr rfl,
    Machine.along_nil⟩

/-- After `set_server_mute` the client shows a user in voice nowhere. -/
theorem server_mute_hides_user :
    ¬ ∀ (go : GoLibrary) (currentUserId : UInt32) (b : Backend Nat) (setup ops : List Operation)
      (occupants : VoiceOccupants), b.hub = .new → SingleConnections go b (setup ++ ops) →
        Shows occupants ((hubMachine go).run b setup).hub.room? →
          FollowsAlong go currentUserId ((hubMachine go).run b setup, occupants) ops := by
  intro hall
  have hfollows := hall plain 7 fresh connected
    [.voice joins, .voice mutes] ∅ rfl (singleConnections_connected _ (by simp)) shows_connected
  have hlast := (hfollows [.voice joins] _ [] rfl).1 7 2
  revert hlast
  decide

end low_latency_voice.client.state

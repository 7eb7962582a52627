import LowLatencyVoice.Control.Rooms

open low_latency_voice.model low_latency_voice.storage low_latency_voice.audio

namespace low_latency_voice.control.server

variable {Addr : Type} [DecidableEq Addr]

/-- The error an action of `join_voice` answers with, as code and text. -/
def joinError (s : Goroutines.OwnStep (World Addr) (Act Addr) Choice) : Option (Int × String) :=
  match s.act with
  | .getChannelByID _ _ _ _ =>
    match s.choice.channel with
    | none => some (4005, "Voice channel not found")
    | some channel => if channel.type = "voice" then none else some (4006, "Channel is not a voice channel")
  | .joinVoice c channelID channel selfMuted selfDeafened =>
    match s.before.hub.joinVoice s.choice.now c channelID channel selfMuted selfDeafened with
    | .error .channelFull => some (4009, "Voice channel is full (max 15 users)")
    | _ => none
  | .generateUDPToken _ _ =>
    if s.choice.fault = .exec ∨ (s.before.voiceTokens.get? s.choice.token).isSome then
      some (-32603, "Failed to issue voice token")
    else none
  | _ => none

/-- A `join_voice` request of a connection whose read pump is free, and what the scheduler
does from then on; the read pump takes up no other request. -/
structure JoinRequest (Addr : Type) where
  start : State Addr
  c : ClientID
  channelID : UInt32
  selfMuted : Bool
  selfDeafened : Bool
  schedule : List (Turn Addr)
  idle : start.todo (.readPump c) = []
  alone : ∀ r, .serve r ∈ schedule → r.owner ≠ .readPump c

/-- From `w` to `w'` nothing changes for the connection and its user: the channel it is
in, the rooms that list it, the user's voice state, session and pending tokens. -/
structure LeavesAlone (c : ClientID) (w w' : World Addr) : Prop where
  activeVoiceChannel : (w'.hub.conn c).activeVoiceChannel = (w.hub.conn c).activeVoiceChannel
  member : ∀ room, w'.hub.InRoom room c ↔ w.hub.InRoom room c
  voiceState : w'.hub.voiceStates.get? (w.hub.conn c).userID = w.hub.voiceStates.get? (w.hub.conn c).userID
  session : w'.sessions.session? (w.hub.conn c).userID = w.sessions.session? (w.hub.conn c).userID
  pending : ∀ token pt, pt.userID = (w.hub.conn c).userID →
    (w'.sessions.pendingTokens.get? token = some pt ↔ w.sessions.pendingTokens.get? token = some pt)

/-- The connection is in the room already, with the voice state a join would write. -/
def SeatedAs (h : Hub) (now : Time) (c : ClientID) (channelID : UInt32) (selfMuted selfDeafened : Bool) :
    Prop :=
  (h.conn c).activeVoiceChannel = channelID ∧ h.InRoom channelID c ∧
    h.voiceStates.get? (h.conn c).userID = some {
      userID := (h.conn c).userID, username := (h.conn c).username, channelID, isSpeaking := false,
      selfMuted, selfDeafened, serverMuted := false, serverDeafened := false, updatedAt := now }

namespace JoinRequest

/-- The request itself. -/
def request (j : JoinRequest Addr) : Request Addr := .joinVoice j.c j.channelID j.selfMuted j.selfDeafened

/-- What the request performs, with the memory each action finds and leaves. -/
def steps (j : JoinRequest Addr) : List (Goroutines.OwnStep (World Addr) (Act Addr) Choice) :=
  system.ownSteps (.readPump j.c) (system.step j.start (.serve j.request)) j.schedule

/-- A gate refuses the request, or one of its actions answers with an error. -/
def Fails (j : JoinRequest Addr) : Prop :=
  program j.start.shared j.request = [] ∨ ∃ s ∈ j.steps, (joinError s).isSome

/-- Nothing the request performs changes anything for the connection and its user. -/
def ChangesNothing (j : JoinRequest Addr) : Prop := ∀ s ∈ j.steps, LeavesAlone j.c s.before s.after

/-- The voice token is not issued: the statement fails, or the token has a row. -/
def TokenDenied (j : JoinRequest Addr) : Prop :=
  ∃ s ∈ j.steps, (∃ channelID, s.act = .generateUDPToken j.c channelID) ∧
    (s.choice.fault = .exec ∨ (s.before.voiceTokens.get? s.choice.token).isSome)

/-- The lock region finds the connection seated as it is about to seat it. -/
def FindsSeated (j : JoinRequest Addr) : Prop :=
  ∀ s ∈ j.steps, ∀ channel,
    s.act = .joinVoice j.c j.channelID channel j.selfMuted j.selfDeafened →
      SeatedAs s.before.hub s.choice.now j.c j.channelID j.selfMuted j.selfDeafened

end JoinRequest

omit [DecidableEq Addr] in
/-- A join that goes through leaves everything alone just where it finds it so. -/
theorem leavesAlone_joinVoice_iff {w : World Addr} {now : Time} {c : ClientID} {channelID : UInt32}
    {channel : Channel} {selfMuted selfDeafened : Bool} {hub : Hub}
    (hok : w.hub.joinVoice now c channelID channel selfMuted selfDeafened = .ok hub) :
    LeavesAlone c w { w with hub } ↔ SeatedAs w.hub now c channelID selfMuted selfDeafened := by
  obtain ⟨-, -, -, -, hconn, -, hrooms⟩ := Hub.joinVoice_ok hok
  have hactive : (hub.conn c).activeVoiceChannel = channelID := by rw [hconn, Function.update_self]
  have hstate : hub.voiceStates.get? (w.hub.conn c).userID = some {
      userID := (w.hub.conn c).userID, username := (w.hub.conn c).username, channelID, isSpeaking := false,
      selfMuted, selfDeafened, serverMuted := false, serverDeafened := false, updatedAt := now } := by
    unfold Hub.joinVoice at hok
    simp only at hok
    split at hok
    · cases hok
    · split at hok
      · cases hok
      · cases hok
        exact (GoMap.get?_set _ _ _ _).trans (if_pos rfl)
  constructor
  · intro h
    refine ⟨h.activeVoiceChannel.symm.trans hactive, ?_, h.voiceState.symm.trans hstate⟩
    exact (h.member channelID).mp ((hrooms channelID c).mpr (.inl ⟨rfl, rfl⟩))
  · intro h
    obtain ⟨hin, hmember, hsame⟩ := h
    refine ⟨hactive.trans hin.symm, fun room => ?_, hstate.trans hsame.symm, rfl, fun _ _ _ => Iff.rfl⟩
    rw [hrooms room c]
    constructor
    · rintro (⟨rfl, -⟩ | ⟨hroom, -⟩)
      · exact hmember
      · exact hroom
    · intro hroom
      refine .inr ⟨hroom, ?_⟩
      rintro ⟨-, heq, -, hne⟩
      exact hne (heq.trans hin)

omit [DecidableEq Addr] in
theorem LeavesAlone.refl (c : ClientID) (w : World Addr) : LeavesAlone c w w :=
  ⟨rfl, fun _ => Iff.rfl, rfl, rfl, fun _ _ _ => Iff.rfl⟩

/-- How the actions of a request go: none of them changes anything, none of them answers
with an error, or the last one denies the token after the lock region went through. -/
inductive JoinOutcome (c : ClientID) (channelID : UInt32) (selfMuted selfDeafened : Bool) :
    List (Goroutines.OwnStep (World Addr) (Act Addr) Choice) → Prop where
  | unchanged {steps} (hsame : ∀ s ∈ steps, s.after = s.before)
      (hother : ∀ s ∈ steps, ∀ ch, s.act ≠ .generateUDPToken c ch) :
      JoinOutcome c channelID selfMuted selfDeafened steps
  | unfailing {steps} (hnone : ∀ s ∈ steps, joinError s = none) :
      JoinOutcome c channelID selfMuted selfDeafened steps
  | denied {w₀ w₁ w₂ : World Addr} {x₀ x₁ x₂ : Choice} {channel : Channel} {hub : Hub}
      {rows : VoiceTokens}
      (hok : w₁.hub.joinVoice x₁.now c channelID channel selfMuted selfDeafened = .ok hub)
      (hdenied : x₂.fault = .exec ∨ (w₂.voiceTokens.get? x₂.token).isSome) :
      JoinOutcome c channelID selfMuted selfDeafened
        [⟨w₀, .getChannelByID c channelID selfMuted selfDeafened, x₀, w₀⟩,
          ⟨w₁, .joinVoice c channelID channel selfMuted selfDeafened, x₁, { w₁ with hub }⟩,
          ⟨w₂, .generateUDPToken c channelID, x₂, { w₂ with voiceTokens := rows }⟩]

theorem unfolds_nil {g : Routine} {steps : List (Goroutines.OwnStep (World Addr) (Act Addr) Choice)}
    (h : system.Unfolds g [] steps) : steps = [] := by
  cases h
  rfl

theorem joinError_of_registerPending {g : Routine} {vt : VoiceToken}
    {steps : List (Goroutines.OwnStep (World Addr) (Act Addr) Choice)}
    (h : system.Unfolds g [.registerPending vt] steps) : ∀ s ∈ steps, joinError s = none := by
  cases h with
  | stop => simp
  | step hperform hrest =>
    cases hperform
    rw [unfolds_nil hrest]
    simp [joinError]

/-- What follows the lock region. -/
theorem unfolds_generateUDPToken {g : Routine} {c : ClientID} {channelID : UInt32}
    {steps : List (Goroutines.OwnStep (World Addr) (Act Addr) Choice)}
    (h : system.Unfolds g [.generateUDPToken c channelID] steps) :
    (∀ s ∈ steps, joinError s = none) ∨
      ∃ w x rows, (x.fault = .exec ∨ (w.voiceTokens.get? x.token).isSome) ∧
        steps = [⟨w, .generateUDPToken c channelID, x, { w with voiceTokens := rows }⟩] := by
  cases h with
  | stop => simp
  | @step _ _ acts w w' x rest hperform hrest =>
    have hact : act w x (.generateUDPToken c channelID) = (w', acts) := Option.some.inj hperform
    by_cases hdenied : x.fault = .exec ∨ (w.voiceTokens.get? x.token).isSome
    · simp only [act, createVoiceToken, if_pos hdenied] at hact
      cases hact
      rw [unfolds_nil hrest]
      exact .inr ⟨w, x, w.voiceTokens, hdenied, rfl⟩
    · simp only [act, createVoiceToken, if_neg hdenied] at hact
      cases hact
      left
      intro s hs
      obtain rfl | hs := List.mem_cons.mp hs
      · simp only [joinError, if_neg hdenied]
      · exact joinError_of_registerPending hrest s hs

theorem joinOutcome {g : Routine} {c : ClientID} {channelID : UInt32} {selfMuted selfDeafened : Bool}
    {steps : List (Goroutines.OwnStep (World Addr) (Act Addr) Choice)}
    (h : system.Unfolds g [.getChannelByID c channelID selfMuted selfDeafened] steps) :
    JoinOutcome c channelID selfMuted selfDeafened steps := by
  cases h with
  | stop => exact .unfailing (by simp)
  | @step _ _ acts w₀ w₀' x₀ rest hperform hrest =>
    have hlook : act w₀ x₀ (.getChannelByID c channelID selfMuted selfDeafened) = (w₀', acts) :=
      Option.some.inj hperform
    cases hchannel : x₀.channel with
    | none =>
      simp only [act, hchannel] at hlook
      cases hlook
      rw [unfolds_nil hrest]
      exact .unchanged (by simp) (by simp)
    | some channel =>
      simp only [act, hchannel] at hlook
      by_cases htype : channel.type = "voice"
      · rw [if_pos htype] at hlook
        cases hlook
        have hlooked : joinError (⟨w₀, .getChannelByID c channelID selfMuted selfDeafened, x₀, w₀⟩ :
            Goroutines.OwnStep (World Addr) (Act Addr) Choice) = none := by
          simp only [joinError, hchannel, if_pos htype]
        cases hrest with
        | stop => exact .unfailing (by simpa using hlooked)
        | @step _ _ acts w₁ w₁' x₁ rest hperform hrest =>
          have hjoin : act w₁ x₁ (.joinVoice c channelID channel selfMuted selfDeafened) = (w₁', acts) :=
            Option.some.inj hperform
          cases hok : w₁.hub.joinVoice x₁.now c channelID channel selfMuted selfDeafened with
          | error refusal =>
            simp only [act, hok] at hjoin
            cases hjoin
            rw [unfolds_nil hrest]
            exact .unchanged (by simp) (by simp)
          | ok hub =>
            simp only [act, hok] at hjoin
            cases hjoin
            obtain hnone | ⟨w₂, x₂, rows, hdenied, rfl⟩ := unfolds_generateUDPToken hrest
            · refine .unfailing fun s hs => ?_
              obtain rfl | rfl | hs := by simpa only [List.mem_cons] using hs
              · exact hlooked
              · simp only [joinError, hok]
              · exact hnone s hs
            · exact .denied hok hdenied
      · rw [if_neg htype] at hlook
        cases hlook
        rw [unfolds_nil hrest]
        exact .unchanged (by simp) (by simp)

omit [DecidableEq Addr] in
/-- The gates let the request through to its first storage call, or stop it. -/
theorem program_joinVoice (w : World Addr) (c : ClientID) (channelID : UInt32)
    (selfMuted selfDeafened : Bool) :
    program w (.joinVoice c channelID selfMuted selfDeafened) = [] ∨
      program w (.joinVoice c channelID selfMuted selfDeafened) =
        [.getChannelByID c channelID selfMuted selfDeafened] := by
  simp only [program, Request.connection?, handle, gated]
  repeat' split
  all_goals simp

namespace JoinRequest

theorem unfolds_steps (j : JoinRequest Addr) :
    system.Unfolds (.readPump j.c) (program j.start.shared j.request) j.steps := by
  have hserve : (system.step j.start (.serve j.request)).todo (.readPump j.c) =
      program j.start.shared j.request := by
    have hidle : j.start.todo (system.owner j.request) = [] := j.idle
    simp only [Goroutines.step, if_pos hidle]
    exact Function.update_self _ _ _
  rw [← hserve]
  exact system.unfolds_ownSteps _ j.alone

theorem outcome (j : JoinRequest Addr) :
    JoinOutcome j.c j.channelID j.selfMuted j.selfDeafened j.steps := by
  have hunfolds := j.unfolds_steps
  obtain hnone | hsome := program_joinVoice j.start.shared j.c j.channelID j.selfMuted j.selfDeafened
  · rw [request, hnone] at hunfolds
    rw [unfolds_nil hunfolds]
    exact .unfailing (by simp)
  · rw [request, hsome] at hunfolds
    exact joinOutcome hunfolds

end JoinRequest

/-- Whatever happens between its actions, a `join_voice` that fails changes nothing,
unless the token is denied: then it does not change anything only where it found the
connection seated already. -/
theorem failedJoin_iff (j : JoinRequest Addr) :
    (j.Fails → j.ChangesNothing) ↔ (j.TokenDenied → j.FindsSeated) := by
  have houtcome := j.outcome
  constructor
  · rintro hkeeps ⟨t, ht, ⟨ch, htoken⟩, hdenied⟩ s hs channel hjoin
    have herror : joinError t = some (-32603, "Failed to issue voice token") := by
      simp only [joinError, htoken, if_pos hdenied]
    have hall : ∀ s ∈ j.steps, LeavesAlone j.c s.before s.after :=
      hkeeps (.inr ⟨t, ht, by rw [herror]; rfl⟩)
    generalize j.steps = steps at houtcome ht hs hall
    cases houtcome with
    | unchanged hsame hother => exact absurd htoken (hother t ht ch)
    | unfailing hnone =>
      rw [hnone t ht] at herror
      cases herror
    | denied hok hdenied' =>
      obtain rfl | rfl | rfl := by simpa only [List.mem_cons, List.not_mem_nil, or_false] using hs
      · cases hjoin
      · exact (leavesAlone_joinVoice_iff hok).mp (hall _ hs)
      · cases hjoin
  · intro hseated hfails s hs
    obtain hgate | ⟨t, ht, herror⟩ := hfails
    · have hunfolds := j.unfolds_steps
      rw [hgate] at hunfolds
      rw [unfolds_nil hunfolds] at hs
      cases hs
    · have hfound : (∃ s ∈ j.steps, (∃ ch, s.act = .generateUDPToken j.c ch) ∧
          (s.choice.fault = .exec ∨ (s.before.voiceTokens.get? s.choice.token).isSome)) →
          ∀ s ∈ j.steps, ∀ channel, s.act = .joinVoice j.c j.channelID channel j.selfMuted j.selfDeafened →
            SeatedAs s.before.hub s.choice.now j.c j.channelID j.selfMuted j.selfDeafened := hseated
      generalize j.steps = steps at houtcome ht hs hfound
      cases houtcome with
      | unchanged hsame hother =>
        rw [hsame s hs]
        exact .refl j.c s.before
      | unfailing hnone =>
        rw [hnone t ht] at herror
        cases herror
      | denied hok hdenied =>
        have hseats := hfound ⟨_, List.mem_cons_of_mem _ (List.mem_cons_of_mem _ List.mem_cons_self),
          ⟨_, rfl⟩, hdenied⟩ _ (List.mem_cons_of_mem _ List.mem_cons_self) _ rfl
        obtain rfl | rfl | rfl := by simpa only [List.mem_cons, List.not_mem_nil, or_false] using hs
        · exact .refl j.c _
        · exact (leavesAlone_joinVoice_iff hok).mpr hseats
        · exact ⟨rfl, fun _ => Iff.rfl, rfl, rfl, fun _ _ _ => Iff.rfl⟩

/-- User 7, who is in channel 2, asks for channel 3 and gets no token. -/
def denied : JoinRequest Nat where
  start := after (World.new ∅ ∅) joined
  c := 1
  channelID := 3
  selfMuted := false
  selfDeafened := false
  schedule := [.advance (.readPump 1) (calm []), .advance (.readPump 1) (calm []),
    .advance (.readPump 1) { calm [0x79] with fault := .exec }]
  idle := rfl
  alone := by simp

theorem denied_switches : ¬ (denied.Fails → denied.ChangesNothing) := by
  intro h
  have hfails : denied.Fails := .inr ⟨_, List.mem_of_getElem? (i := 2) rfl, rfl⟩
  have hleaves := h hfails _ (List.mem_of_getElem? (i := 1) rfl)
  exact absurd hleaves.activeVoiceChannel (by decide)

end low_latency_voice.control.server

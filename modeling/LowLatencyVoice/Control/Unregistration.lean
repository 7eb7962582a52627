import LowLatencyVoice.Control.Connections
import LowLatencyVoice.Control.Rooms

open low_latency_voice.model low_latency_voice.storage low_latency_voice.audio

namespace low_latency_voice.control.server

variable {Addr : Type} [DecidableEq Addr]

/-- The turn runs the hub region of `UnregisterClient(c)` for a connection that
`ServeWs` has set up: from its read pump, from `Hub.Run`, or from a kick. -/
def Unregisters (k : State Addr) (t : Turn Addr) (c : ClientID) : Prop :=
  k.shared.hub.served c = true ∧ ∃ x, Does k t (.handleClientDisconnect c) x

/-- The turn gets past the check that the connection is registered, into the
body of the cleanup. -/
def CleansUp (k : State Addr) (t : Turn Addr) (c : ClientID) : Prop :=
  k.shared.hub.Registered c ∧ ∃ x, Does k t (.handleClientDisconnect c) x

/-- The turn runs `close(c.send)`, which is behind the check in `Client.Close`. -/
def ClosesSend (k : State Addr) (t : Turn Addr) (c : ClientID) : Prop :=
  CleansUp k t c ∧ (k.shared.hub.conn c).closed = false

/-- The connection is out of `clients`, and closed. -/
def Gone (k : State Addr) (c : ClientID) : Prop :=
  ¬ k.shared.hub.Registered c ∧ (k.shared.hub.conn c).closed = true

/-- The turn gives a user who had no voice state one. -/
def CreatesVoiceState (k : State Addr) (t : Turn Addr) : Prop :=
  ∃ u, k.shared.hub.voiceStates.get? u = none ∧ (system.step k t).shared.hub.voiceStates.get? u ≠ none

section step

variable {k : State Addr} {t : Turn Addr} {c : ClientID}

/-- What a turn changes in the shared state is the work of one action. -/
theorem gone_step (h : Gone k c) : Gone (system.step k t) c := by
  obtain hsame | ⟨r, -, -, hstep⟩ | ⟨g, a, w', acts, hp⟩ := system.step_cases k t
  · rwa [hsame]
  · rwa [hstep]
  · obtain ⟨x, -, hact⟩ := exists_does hp
    obtain ⟨hgone, hclosed⟩ := h
    have hregistered := registered_act k.shared x a c
    have hclosed' := closed_act x a hclosed
    rw [hact, ← hp.shared] at hregistered hclosed'
    refine ⟨?_, hclosed'⟩
    intro hreg
    obtain hold | ⟨-, hopen⟩ := (hregistered.mp hreg).1
    · exact hgone hold
    · rw [hclosed] at hopen
      cases hopen

theorem shared_of_does {a : Act Addr} {x : Choice} (h : Does k t a x) :
    (system.step k t).shared = (act k.shared x a).1 := by
  obtain ⟨g, rest, rfl, htodo⟩ := h
  simp only [Goroutines.step, htodo, system]

/-- Whichever caller comes first, the connection is gone when the hub region is over. -/
theorem gone_of_unregisters (h : Unregisters k t c) : Gone (system.step k t) c := by
  obtain ⟨hserved, x, hdoes⟩ := h
  have hshared := shared_of_does hdoes
  have hregistered := registered_act k.shared x (.handleClientDisconnect c) c
  rw [← hshared] at hregistered
  refine ⟨fun hreg => (hregistered.mp hreg).2 rfl, ?_⟩
  obtain hreg | hclosed := served_iff.mp hserved
  · have hconn : (system.step k t).shared.hub.conn = (k.shared.hub.handleClientDisconnect c).1.conn := by
      rw [hshared]
      rfl
    rw [hconn, conn_of_disconnect hreg, Function.update_self]
    exact Client.close_closed _
  · rw [hshared]
    exact closed_act x _ hclosed

theorem gone_of_cleansUp (h : CleansUp k t c) : Gone (system.step k t) c :=
  gone_of_unregisters ⟨served_iff.mpr (.inl h.1), h.2⟩

/-- A voice state comes from a `join_voice` only, which looks its connection up in
`clients` first. -/
theorem not_createsVoiceState (horderly : Orderly k) (hgone : Gone k c)
    (hroutine : system.routine t = .readPump c) : ¬ CreatesVoiceState k t := by
  rintro ⟨u, hnone, hsome⟩
  obtain hsame | ⟨r, -, -, hstep⟩ | ⟨g, a, w', acts, hp⟩ := system.step_cases k t
  · rw [hsame] at hsome
    exact hsome hnone
  · rw [hstep] at hsome
    exact hsome hnone
  · obtain ⟨x, -, hact⟩ := exists_does hp
    have hturn : g = .readPump c := by
      obtain ⟨⟨_, rfl, -⟩, -⟩ := hp
      exact hroutine
    have hvoice := voiceChange_act k.shared x a u
    rw [hact, ← hp.shared] at hvoice
    have hst : k.shared.hub.standing? u = none := by rw [Hub.standing?, hnone, Option.map_none]
    have hst' : (system.step k t).shared.hub.standing? u ≠ none := by
      rw [Hub.standing?, Ne, Option.map_eq_none_iff]
      exact hsome
    rw [hst] at hvoice
    generalize (system.step k t).shared.hub.standing? u = st at hvoice hst'
    cases hvoice with
    | kept | left | dropped => exact hst' rfl
    | joined _ ha hjoin _ =>
      subst ha
      obtain ⟨hpump, -⟩ := horderly.script hp rfl
      rw [hturn] at hpump
      cases hpump
      exact hgone.1 (Hub.joinVoice_ok hjoin).1

end step

/-- What is gone stays gone. -/
theorem gone_after (w : World Addr) {pre : List (Turn Addr)} {t : Turn Addr} {c : ClientID}
    (h : Gone (system.step (after w pre) t) c) (mid : List (Turn Addr)) :
    Gone (after w (pre ++ t :: mid)) c := by
  rw [after, Machine.run_append, Machine.run_cons]
  exact system.machine.run_stable (fun k => Gone k c) (fun _ _ hgone => gone_step hgone) h mid

/-- The connection is out of the hub and in no voice channel, and no turn of its
read pump creates a voice state. -/
structure Final (k : State Addr) (c : ClientID) : Prop where
  unregistered : ¬ k.shared.hub.Registered c
  outside : ∀ room, ¬ k.shared.hub.InRoom room c
  silent : ∀ t, system.routine t = .readPump c → ¬ CreatesVoiceState k t

/-- In every run that never moves the connection, whoever unregisters it and
however often, its cleanup runs at most once, its channel is closed at most
once, and from the first call on it is out of the hub for good. -/
theorem unregistration_final (voiceTokens : VoiceTokens) (userSessions : UserSessions)
    (ts : List (Turn Addr)) (c : ClientID)
    (hmoves : NeverMoved (World.new voiceTokens userSessions) c ts) :
    Machine.AtMostOnce (fun pre t => CleansUp (after (World.new voiceTokens userSessions) pre) t c) ts ∧
    Machine.AtMostOnce (fun pre t => ClosesSend (after (World.new voiceTokens userSessions) pre) t c) ts ∧
    ∀ pre t mid rest, ts = pre ++ t :: (mid ++ rest) →
      Unregisters (after (World.new voiceTokens userSessions) pre) t c →
      Final (after (World.new voiceTokens userSessions) (pre ++ t :: mid)) c := by
  refine ⟨?_, ?_, ?_⟩
  · intro pre t mid t' post _ hfirst hagain
    exact (gone_after _ (gone_of_cleansUp hfirst) mid).1 hagain.1
  · intro pre t mid t' post _ hfirst hagain
    exact (gone_after _ (gone_of_cleansUp hfirst.1) mid).1 hagain.1.1
  · intro pre t mid rest hts hcall
    have hgone := gone_after _ (gone_of_unregisters hcall) mid
    have hfront : NeverMoved (World.new voiceTokens userSessions) c (pre ++ t :: mid) := by
      rw [hts, ← List.cons_append, ← List.append_assoc] at hmoves
      exact hmoves.front
    have htidy := tidy_after voiceTokens userSessions (pre ++ t :: mid) hfront
    refine ⟨hgone.1, ?_, ?_⟩
    · exact fun room hroom => hgone.1 (htidy room hroom).2.2.1
    · exact fun t' hroutine => not_createsVoiceState (orderly_after _ _ _) hgone hroutine

/-- The hub unregisters connection 1, which is in channel 2 and about to switch to
channel 3; the connection then hangs up. -/
def departs : List (Turn Nat) :=
  [.serve (.joinVoice 1 3 false false), .advance (.readPump 1) (calm []), .serve (.unregister 1),
    .advance .run (calm []), .advance .run (calm []), .advance (.readPump 1) (calm []),
    .serve (.hangUp 1), .advance (.readPump 1) (calm [])]

theorem neverMoved_departs : NeverMoved (World.new ∅ ∅) 1 (joined ++ departs) := by
  simp only [NeverMoved, joined, departs, List.cons_append, List.nil_append, Machine.along_cons_iff]
  refine ⟨?_, ?_, ?_, ?_, ?_, ?_, ?_, ?_, ?_, ?_, ?_, ?_, ?_, ?_, ?_, ?_, ?_, ?_, ?_, Machine.along_nil⟩
  all_goals
    intro x u room hdoes
    obtain ⟨g, rest, hturn, htodo⟩ := hdoes
    cases hturn <;> cases htodo

theorem unregistration_final_departs : Final (after (World.new ∅ ∅) (joined ++ departs)) 1 :=
  (unregistration_final ∅ ∅ (joined ++ departs) 1 neverMoved_departs).2.2
    (joined ++ departs.take 3) (.advance .run (calm [])) (departs.drop 4) [] rfl
    ⟨rfl, _, .run, [], rfl, rfl⟩

end low_latency_voice.control.server

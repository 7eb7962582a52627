import LowLatencyVoice.Control.Rooms

open low_latency_voice.model low_latency_voice.storage low_latency_voice.audio

namespace low_latency_voice.control.server

variable {Addr : Type} [DecidableEq Addr]

/-- A user in voice who has an audio session has the same server flags in both
planes. -/
def FlagsAgree (w : World Addr) : Prop :=
  ∀ u s state, w.sessions.session? u = some s → w.hub.voiceStates.get? u = some state →
    state.serverMuted = s.serverMuted ∧ state.serverDeafened = s.serverDeafened

/-- A moderator's write of `value` is on its way to the session the user has. -/
def WriteComing (k : State Addr) (flag : ModFlag) (u : UInt32) (value : Bool) : Prop :=
  Goroutines.Pending k (.lookupFlag flag u value) ∨
    ∃ ref, k.shared.sessions.byUser.get? u = some ref ∧ Goroutines.Pending k (.writeFlag flag ref value)

/-- The value is the one the control plane has for the flag of the user, if the
user is in voice, or the write that makes them equal is still to come. -/
def FlagSettled (k : State Addr) (flag : ModFlag) (u : UInt32) (value : Bool) : Prop :=
  ∀ b, k.shared.hub.flag? flag u = some b → value = b ∨ WriteComing k flag u b

/-- The action does not pull the flags apart. A `join_voice`, which clears the
flags of the control plane, finds none set in the session; a session is made
when the control plane has no flag set that no request is about to write; and
the write to a session carries the value the control plane has by then. -/
def KeepsFlags (k : State Addr) (x : Choice) : Act Addr → Prop
  | .joinVoice c room channel selfMuted selfDeafened =>
    ∀ h' s flag, k.shared.hub.joinVoice x.now c room channel selfMuted selfDeafened = .ok h' →
      k.shared.sessions.session? (k.shared.hub.conn c).userID = some s →
      flag.ofPair s.flags = false ∨ WriteComing k flag (k.shared.hub.conn c).userID false
  | .activatePending pkt _ =>
    ∀ pt flag b, k.shared.sessions.LivePending x.now (GoBytes.trimSpace pkt.payload) pkt.senderID
      pkt.channelID pt → k.shared.hub.flag? flag pkt.senderID = some b →
      b = false ∨ Goroutines.Pending k (.lookupFlag flag pkt.senderID b)
  | .registerSession s =>
    ∀ flag b, k.shared.hub.flag? flag s.userID = some b →
      flag.ofPair s.flags = b ∨ Goroutines.Pending k (.lookupFlag flag s.userID b)
  | .writeFlag flag ref value =>
    ∀ u, k.shared.sessions.byUser.get? u = some ref → FlagSettled k flag u value
  | _ => True

/-- Every action the turn performs keeps the flags together. -/
def KeepsFlagsAt (k : State Addr) (t : Turn Addr) : Prop := ∀ a x, Does k t a x → KeepsFlags k x a

/-- Every step of the schedule keeps the flags together. -/
def FlagsKept (w : World Addr) (ts : List (Turn Addr)) : Prop :=
  Machine.Along (fun pre t => KeepsFlagsAt (after w pre) t) ts

/-- What holds in every state: no flag of a session differs for good. -/
structure FlagsSettled (k : State Addr) : Prop where
  owned : k.shared.sessions.Owned
  settled : ∀ flag u s, k.shared.sessions.session? u = some s → FlagSettled k flag u (flag.ofPair s.flags)

theorem flag?_eq_map_standing (h : Hub) (flag : ModFlag) (u : UInt32) :
    h.flag? flag u = (h.standing? u).map fun st => flag.ofPair st.2 := by
  unfold Hub.flag? Hub.standing?
  rw [Option.map_map]
  cases flag <;> rfl

section step

variable {k : State Addr} {t : Turn Addr} {g : Routine} {a : Act Addr} {w' : World Addr}
  {acts : List (Act Addr)}

/-- A write that was coming to a session is still coming, unless it has arrived. -/
theorem WriteComing.performs {x : Choice} (hp : system.Performs k t g a w' acts)
    (hact : act k.shared x a = (w', acts)) {flag : ModFlag} {u : UInt32} {b : Bool} {s' : Session Addr}
    (hs' : w'.sessions.session? u = some s')
    (hcoming : Goroutines.Pending k (.lookupFlag flag u b) ∨
      ∃ ref, w'.sessions.byUser.get? u = some ref ∧ Goroutines.Pending k (.writeFlag flag ref b)) :
    flag.ofPair s'.flags = b ∨ WriteComing (system.step k t) flag u b := by
  obtain hpending | ⟨ref, href, hpending⟩ := hcoming
  · by_cases ha : a = .lookupFlag flag u b
    · subst ha
      cases hlookup : k.shared.sessions.getByUser u with
      | none =>
        simp only [act, hlookup, Prod.mk.injEq] at hact
        obtain ⟨rfl, -⟩ := hact
        have hnone : k.shared.sessions.session? u = none :=
          SessionManager.session?_eq_none_iff.mpr hlookup
        rw [hnone] at hs'
        cases hs'
      | some ref =>
        simp only [act, hlookup, Prod.mk.injEq] at hact
        obtain ⟨rfl, rfl⟩ := hact
        refine .inr (.inr ⟨ref, ?_, hp.pending_of_mem (by simp)⟩)
        rw [hp.shared]
        exact hlookup
    · exact .inr (.inl (hp.pending_of_ne hpending (Ne.symm ha)))
  · by_cases ha : a = .writeFlag flag ref b
    · subst ha
      cases hact
      have hwritten : k.shared.sessions.byUser.get? u = some ref := href
      rw [SessionManager.session?_modify_ref, if_pos hwritten] at hs'
      obtain ⟨s, -, rfl⟩ := Option.map_eq_some_iff.mp hs'
      exact .inl (by cases flag <;> rfl)
    · refine .inr (.inr ⟨ref, ?_, hp.pending_of_ne hpending (Ne.symm ha)⟩)
      rw [hp.shared]
      exact href

theorem FlagsSettled.perform (h : FlagsSettled k) (hok : KeepsFlagsAt k t)
    (hp : system.Performs k t g a w' acts) : FlagsSettled (system.step k t) := by
  obtain ⟨x, hdoes, hact⟩ := exists_does hp
  have hkeeps : KeepsFlags k x a := hok a x hdoes
  refine ⟨owned_performs h.owned hp, ?_⟩
  intro flag u s' hs'
  rw [hp.shared] at hs'
  -- the session after the step against the control plane before it
  have hbefore : ∀ b, k.shared.hub.flag? flag u = some b → flag.ofPair s'.flags = b ∨
      Goroutines.Pending k (.lookupFlag flag u b) ∨
      ∃ ref, w'.sessions.byUser.get? u = some ref ∧ Goroutines.Pending k (.writeFlag flag ref b) := by
    have hchange := sessionChange_act (x := x) (a := a) h.owned (by rw [hact]; exact hs')
    rw [hact] at hchange
    generalize hs : k.shared.sessions.session? u = before at hchange
    intro b hb
    cases hchange with
    | kept s _ hst href =>
      have hflags : s'.flags = s.flags := congrArg Prod.snd hst
      rw [hflags, href]
      exact h.settled flag u s hs b hb
    | activated _ _ ha hu hlive hst =>
      have hflags : s'.flags = (false, false) := congrArg Prod.snd hst
      subst ha
      obtain rfl | hpending := hkeeps _ flag b hlive (hu ▸ hb)
      · exact .inl (by rw [hflags]; cases flag <;> rfl)
      · exact .inr (.inl (hu ▸ hpending))
    | registered _ _ ha hu =>
      subst ha
      obtain hsame | hpending := hkeeps flag b (hu ▸ hb)
      · exact .inl hsame
      · exact .inr (.inl (hu ▸ hpending))
    | retuned s _ _ _ hst href =>
      have hflags : s'.flags = s.flags := congrArg Prod.snd hst
      rw [hflags, href]
      exact h.settled flag u s hs b hb
    | moved s _ _ hst href =>
      have hflags : s'.flags = s.flags := congrArg Prod.snd hst
      rw [hflags, href]
      exact h.settled flag u s hs b hb
    | @flagged s _ flag₀ ref value ha hu hst href =>
      have hflags : s'.flags = flag₀.setPair value s.flags := congrArg Prod.snd hst
      rw [hflags, ModFlag.ofPair_setPair, href]
      split
      · rename_i hflag
        subst ha hflag
        exact hkeeps u hu b hb
      · exact h.settled flag u s hs b hb
  have hafter : ∀ b, k.shared.hub.flag? flag u = some b →
      flag.ofPair s'.flags = b ∨ WriteComing (system.step k t) flag u b := by
    intro b hb
    obtain hsame | hcoming := hbefore b hb
    · exact .inl hsame
    · exact WriteComing.performs hp hact hs' hcoming
  have hvoice := voiceChange_act k.shared x a u
  rw [hact] at hvoice
  intro b hb
  rw [hp.shared, flag?_eq_map_standing] at hb
  generalize hst₀ : k.shared.hub.standing? u = st₀ at hvoice
  generalize hst : w'.hub.standing? u = st at hvoice hb
  cases hvoice with
  | kept => exact hafter b (by rw [flag?_eq_map_standing, hst₀, hb])
  | joined _ ha hjoin hu =>
    subst ha
    have hfalse : b = false := by
      cases flag <;> exact (Option.some.inj hb).symm
    subst hfalse
    have hsessions : k.shared.sessions = w'.sessions := by
      simpa only [act, hjoin] using congrArg (fun r => r.1.sessions) hact
    obtain hclear | hcoming := hkeeps _ s' flag hjoin (by rw [hsessions, ← hu]; exact hs')
    · exact .inl hclear
    · rw [← hu, WriteComing, hsessions] at hcoming
      exact WriteComing.performs hp hact hs' hcoming
  | left => cases hb
  | dropped => cases hb
  | moved st₀ hacts => exact hafter b (by rw [flag?_eq_map_standing, hst₀]; exact hb)
  | @flagged st₀ flag₁ value hacts =>
    have hb' : flag.ofPair (flag₁.setPair value st₀.2) = b := Option.some.inj hb
    rw [ModFlag.ofPair_setPair] at hb'
    split at hb'
    · rename_i hflag
      subst hflag hb'
      exact .inr (.inl (hp.pending_of_mem hacts))
    · exact hafter b (by rw [flag?_eq_map_standing, hst₀, ← hb']; rfl)

end step

/-- Taking up a request changes neither plane. -/
theorem FlagsSettled.serve {k : State Addr} (h : FlagsSettled k) {g : Routine} (hidle : k.todo g = [])
    (acts : List (Act Addr)) : FlagsSettled { k with todo := Function.update k.todo g acts } where
  owned := h.owned
  settled := by
    intro flag u s hs b hb
    obtain hsame | hpending | ⟨ref, href, hpending⟩ := h.settled flag u s hs b hb
    · exact .inl hsame
    · exact .inr (.inl (hpending.serve hidle acts))
    · exact .inr (.inr ⟨ref, href, hpending.serve hidle acts⟩)

theorem flagsSettled_new (voiceTokens : VoiceTokens) (userSessions : UserSessions) :
    FlagsSettled (Goroutines.idle (World.new voiceTokens userSessions : World Addr)) where
  owned := SessionManager.owned_new
  settled := by
    intro flag u s hs
    simp [Goroutines.idle, World.new, SessionManager.new, SessionManager.session?] at hs

/-- In every run whose steps keep the flags together, once no handler is in
progress every user in voice has the same server flags in both planes. -/
theorem flagsAgree_of_flagsKept (voiceTokens : VoiceTokens) (userSessions : UserSessions)
    (ts : List (Turn Addr)) (hkept : FlagsKept (World.new voiceTokens userSessions) ts)
    (hquiet : Quiet (after (World.new voiceTokens userSessions) ts)) :
    FlagsAgree (after (World.new voiceTokens userSessions) ts).shared := by
  have hsettled : FlagsSettled (after (World.new voiceTokens userSessions) ts) := by
    refine system.run_rule KeepsFlagsAt FlagsSettled
      (flagsSettled_new voiceTokens userSessions) ?_ ?_ ts hkept
    · intro k r hinv _ hidle
      exact hinv.serve hidle _
    · intro k t g a w' acts hinv hok hp
      exact hinv.perform hok hp
  intro u s state hs hstate
  have hflag : ∀ flag : ModFlag, flag.ofVoiceState state = flag.ofPair s.flags := by
    intro flag
    obtain hsame | hpending | ⟨ref, -, hpending⟩ :=
      hsettled.settled flag u s hs (flag.ofVoiceState state) (by rw [Hub.flag?, hstate]; rfl)
    · exact hsame.symm
    · exact absurd hpending (hquiet.not_pending _)
    · exact absurd hpending (hquiet.not_pending _)
  exact ⟨hflag .muted, hflag .deafened⟩

/-- Connection 2 logs in as a moderator and server-mutes user 7. -/
def mutes : List (Turn Nat) :=
  [.serve (.serveWs 0 2), .advance (.accept 0) (calm []),
    .serve (.login 2 ⟨9, "mod", permModerator⟩), .advance (.readPump 2) (calm [0x74]),
    .advance (.readPump 2) (calm []), .advance (.readPump 2) (calm []),
    .serve (.setFlag 2 .muted 7 true), .advance (.readPump 2) (calm []),
    .advance (.readPump 2) (calm []), .advance (.readPump 2) (calm [])]

theorem flagsKept_joined_connects_mutes : FlagsKept (World.new ∅ ∅) (joined ++ connects ++ mutes) := by
  have howned := owned_after ∅ ∅ (joined ++ connects ++ mutes.take 9)
  revert howned
  simp only [FlagsKept, joined, connects, mutes, List.cons_append, List.nil_append, List.take_succ_cons,
    List.take_zero, Machine.along_cons_iff]
  intro howned
  refine ⟨?_, ?_, ?_, ?_, ?_, ?_, ?_, ?_, ?_, ?_, ?_, ?_, ?_, ?_, ?_, ?_, ?_, ?_, ?_, ?_, ?_, ?_, ?_,
    Machine.along_nil⟩
  all_goals
    intro a x hdoes
    obtain ⟨g, rest, hturn, htodo⟩ := hdoes
    cases hturn <;> cases htodo
  case refine_9 =>
    intro h' s flag _ hs
    cases hs
  case refine_13 =>
    intro _ flag b _ hb
    cases flag <;> exact .inl (Option.some.inj hb).symm
  case refine_23 =>
    intro u href b hb
    obtain ⟨-, huser⟩ := howned.user href
    have hu : (7 : UInt32) = u := huser
    subst hu
    exact .inl (Option.some.inj hb)
  all_goals trivial

theorem flagsAgree_of_flagsKept_mutes :
    FlagsAgree (after (World.new ∅ ∅) (joined ++ connects ++ mutes)).shared :=
  flagsAgree_of_flagsKept ∅ ∅ (joined ++ connects ++ mutes) flagsKept_joined_connects_mutes
    (system.quiet_of_all _ rfl)

/-- A mute acknowledged before the handshake is not in force in the session the
handshake makes. -/
theorem mute_before_handshake_is_lost :
    ¬ ∀ ts : List (Turn Nat), Quiet (after (World.new ∅ ∅) ts) →
      FlagsAgree (after (World.new ∅ ∅) ts).shared := by
  intro hall
  have hagree := hall (joined ++ mutes ++ connects) (system.quiet_of_all _ rfl)
  obtain ⟨hmuted, -⟩ := hagree 7 _ _ rfl rfl
  cases hmuted

end low_latency_voice.control.server

import LowLatencyVoice.Audio.Eviction
import LowLatencyVoice.Plane.Events

open low_latency_voice.model low_latency_voice.storage low_latency_voice.audio

namespace low_latency_voice.plane

variable {Addr : Type} [DecidableEq Addr]

/-- What an event reads from the clock. A session that is registered was made
just before. -/
def PlaneEvent.clock : PlaneEvent Addr → Option Time
  | .datagram now _ _ _ | .createVoiceToken now _ _ _ _ _ _ | .cleanStaleSessions now _ => some now
  | .registerSession session => some session.lastSeen
  | _ => none

/-- The clock never goes back. -/
def ClockForward (es : List (PlaneEvent Addr)) : Prop :=
  Machine.Along (fun pre e => ∀ t, e.clock = some t → ∀ e' ∈ pre, ∀ t', e'.clock = some t' → t' ≤ t) es

/-- The event is a ping datagram, read at `now`, that carries `pkt`. -/
def Ping (e : PlaneEvent Addr) (now : Time) (pkt : Packet) : Prop :=
  ∃ fault data srcAddr, e = .datagram now fault data srcAddr ∧ decodeInto data = .ok pkt ∧
    pkt.type = typePing

/-- The event gives the user, who has none, a session at `t₀`. -/
def CreatesSession (r : Router Addr) (e : PlaneEvent Addr) (u : UInt32) (t₀ : Time) : Prop :=
  r.sessions.session? u = none ∧ (step r e).1.sessions.session? u ≠ none ∧ e.clock = some t₀

/-- After its creation at `t₀` nothing removes the session of the user, and at
each tick of the scavenger the creation or a ping of the user is at most
`maxIdle` back. -/
def KeepsPinging (u : UInt32) (maxIdle t₀ : Time) (rest : List (PlaneEvent Addr)) : Prop :=
  Machine.Along (fun mid e => e ≠ .removeSession u ∧ ∀ now idle, e = .cleanStaleSessions now idle →
    idle = maxIdle ∧ (now - t₀ ≤ maxIdle ∨
      ∃ ping ∈ mid, ∃ t pkt, Ping ping t pkt ∧ pkt.senderID = u ∧ now - t ≤ maxIdle)) rest

/-- A user who keeps pinging keeps the session. -/
def ListenersSurvive (r₀ : Router Addr) (es : List (PlaneEvent Addr)) : Prop :=
  ∀ u maxIdle t₀ pre e mid post, es = pre ++ e :: (mid ++ post) → CreatesSession (media.run r₀ pre) e u t₀ →
    KeepsPinging u maxIdle t₀ mid → (media.run r₀ (pre ++ e :: mid)).sessions.byUser.get? u ≠ none

/-- Each tick of the scavenger evicts exactly the idle users. -/
def EvictsIdle (r₀ : Router Addr) (es : List (PlaneEvent Addr)) : Prop :=
  Machine.Along (fun pre e => ∀ now maxIdle, e = .cleanStaleSessions now maxIdle →
    SessionManager.SweepsExactly (media.run r₀ pre).sessions now maxIdle
      ((media.run r₀ pre).sessions.cleanStaleSessions now maxIdle).1
      ((media.run r₀ pre).sessions.cleanStaleSessions now maxIdle).2) es

/-- No tick of the scavenger meets an idle session that shares the address of
one that stays. -/
def AddressesApart (r₀ : Router Addr) (es : List (PlaneEvent Addr)) : Prop :=
  Machine.Along (fun pre e => ∀ now maxIdle, e = .cleanStaleSessions now maxIdle →
    (media.run r₀ pre).sessions.SweepsApart now maxIdle) es

/-- The user keeps the session, which is last seen when it was or at the reading
of the clock; a session that is new was made at that reading. -/
structure Seen (clock : Option Time) (u : UInt32) (sm sm' : SessionManager Addr) : Prop where
  kept : ∀ s, sm.session? u = some s →
    ∃ s', sm'.session? u = some s' ∧ (s'.lastSeen = s.lastSeen ∨ clock = some s'.lastSeen)
  made : ∀ s', sm.session? u = none → sm'.session? u = some s' → clock = some s'.lastSeen

section seen

variable {clock : Option Time} {u : UInt32} {sm sm' sm'' : SessionManager Addr}

omit [DecidableEq Addr] in
theorem Seen.of_eq (h : sm'.session? u = sm.session? u) : Seen clock u sm sm' where
  kept s hs := ⟨s, h.trans hs, .inl rfl⟩
  made s' hnone hs' := by
    rw [h, hnone] at hs'
    cases hs'

omit [DecidableEq Addr] in
theorem Seen.trans (h : Seen clock u sm sm') (h' : Seen clock u sm' sm'') : Seen clock u sm sm'' where
  kept s hs := by
    obtain ⟨s', hs', hseen⟩ := h.kept s hs
    obtain ⟨s'', hs'', hsame | hnow⟩ := h'.kept s' hs'
    · rw [← hsame] at hseen
      exact ⟨s'', hs'', hseen⟩
    · exact ⟨s'', hs'', .inr hnow⟩
  made s'' hnone hs'' := by
    cases hs' : sm'.session? u with
    | none => exact h'.made s'' hs' hs''
    | some s' =>
      obtain ⟨s₂, hs₂, hseen⟩ := h'.kept s' hs'
      cases hs''.symm.trans hs₂
      obtain hsame | hnow := hseen
      · rw [hsame]
        exact h.made s' hnone hs'
      · exact hnow

omit [DecidableEq Addr] in
/-- A write to the session of one user that leaves it as seen as before, or sees
it at the reading. -/
theorem seen_write (v : UInt32) (f : Session Addr → Session Addr)
    (h : sm'.session? u = if u = v then (sm.session? v).map f else sm.session? u)
    (hf : ∀ s, (f s).lastSeen = s.lastSeen ∨ clock = some (f s).lastSeen) : Seen clock u sm sm' := by
  by_cases hu : u = v
  · subst v
    rw [if_pos rfl] at h
    refine ⟨fun s hs => ⟨f s, by rw [h, hs]; rfl, hf s⟩, ?_⟩
    intro s' hnone hs'
    rw [h, hnone] at hs'
    cases hs'
  · exact .of_eq (h.trans (if_neg hu))

theorem seen_updateAddr (h : sm.Owned) (now : Time) (v : UInt32) (addr : Option Addr) :
    Seen (some now) u sm (sm.updateAddr now v addr) :=
  seen_write v (fun s => s.setAddr now addr) (SessionManager.session?_updateAddr h now v addr u) fun _ =>
    .inr rfl

theorem seen_modify (h : sm.Owned) {v : UInt32} {ref : SessionRef} (hv : sm.byUser.get? v = some ref)
    (f : Session Addr → Session Addr)
    (hf : ∀ s, (f s).lastSeen = s.lastSeen ∨ clock = some (f s).lastSeen) :
    Seen clock u sm (sm.modify ref f) :=
  seen_write v f (SessionManager.session?_modify h hv f u) hf

theorem seen_install (h : sm.Owned) (s : Session Addr) : Seen (some s.lastSeen) u sm (sm.install s) where
  kept s₀ hs₀ := by
    rw [SessionManager.session?_install h]
    split
    · exact ⟨s, rfl, .inr rfl⟩
    · exact ⟨s₀, hs₀, .inl rfl⟩
  made s' hnone hs' := by
    rw [SessionManager.session?_install h] at hs'
    split at hs'
    · cases hs'
      rfl
    · rw [hnone] at hs'
      cases hs'

theorem seen_handleVoice {r : Router Addr} (h : r.sessions.Owned) (now : Time) (pkt : Packet)
    (data : GoBytes) (srcAddr : Addr) :
    Seen (some now) u r.sessions (r.handleVoice now pkt data srcAddr).1.sessions := by
  obtain ⟨e, heq⟩ | ⟨ref, sm, hu, -, rfl, hcases⟩ := Router.handleVoice_cases h now pkt data srcAddr
  · rw [heq]
    exact .of_eq rfl
  · have hroam : Seen (some now) u r.sessions (Router.roam r.sessions now ref pkt.senderID srcAddr) := by
      unfold Router.roam
      split
      · exact .of_eq rfl
      · exact seen_updateAddr h now _ _
    have hrefreshed := Router.roam_refreshed h now ref pkt.senderID srcAddr
    obtain ⟨-, heq⟩ | ⟨-, sm', notified, rfl, -, heq⟩ := hcases
    · rw [heq]
      exact hroam
    · rw [heq]
      have hv : (Router.roam r.sessions now ref pkt.senderID srcAddr).byUser.get? pkt.senderID =
          some ref := by
        rw [hrefreshed.byUser]
        exact hu
      exact hroam.trans (seen_modify hrefreshed.owned hv
        (fun s => (s.updateSpeakingState now pkt.vad pkt.energyLevel).1) fun _ => .inr rfl)

theorem seen_refresh (h : sm.Owned) (now : Time) (pkt : Packet) (srcAddr : Addr) :
    Seen (some now) u sm (Router.refresh sm now pkt srcAddr) := by
  unfold Router.refresh
  split
  · exact .of_eq rfl
  · rename_i ref href
    split
    · have hreg : sm.byUser.get? (sm.heap ref).userID = some ref := by
        obtain hu | ⟨-, ha⟩ := Option.or_eq_some_iff.mp href
        · rw [(h.user hu).2]
          exact hu
        · exact (h.addr ha).1
      exact seen_modify h hreg (fun s => s.touch now) fun _ => .inr rfl
    · exact seen_updateAddr h now _ _

theorem seen_fallback (h : sm.Owned) (now : Time) (pkt : Packet) (srcAddr : Addr) :
    Seen (some now) u sm (Router.fallback sm now pkt srcAddr) := by
  cases href : sm.byUser.get? pkt.senderID with
  | some ref =>
    rw [Router.fallback_of_some href]
    have hretuned := h.modify ref (fun s => { s with channelID := pkt.channelID }) rfl rfl
    exact (seen_modify h href (fun s => { s with channelID := pkt.channelID }) fun _ => .inl rfl).trans
      (seen_updateAddr hretuned now _ _)
  | none =>
    rw [Router.fallback_of_none href]
    exact seen_install h (newSession now pkt.senderID pkt.channelID 0 (some srcAddr))

theorem seen_handleHandshake {r : Router Addr} (h : r.sessions.Owned) (now : Time) (fault : Fault)
    (pkt : Packet) (srcAddr : Addr) :
    Seen (some now) u r.sessions (r.handleHandshake now fault pkt srcAddr).1.sessions := by
  obtain ⟨pt, -, heq⟩ | ⟨-, rows, vt, sm, -, -, hswept, heq⟩ | ⟨-, -, sm, _, hswept, -, heq⟩ :=
    Router.handleHandshake_cases r now fault pkt srcAddr
  · rw [heq]
    have hspent : Seen (some now) u r.sessions
        { r.sessions with pendingTokens := r.sessions.pendingTokens.delete (Router.tokenStr pkt) } :=
          .of_eq rfl
    exact hspent.trans (seen_install (h.of_pendingTokens _)
      (newSession now pkt.senderID pkt.channelID pt.ssrc (some srcAddr)))
  · rw [heq]
    exact (Seen.of_eq (hswept.session? u)).trans (seen_install (hswept.owned h)
      (newSession now vt.userID vt.channelID vt.ssrc (some srcAddr)))
  · rw [heq]
    exact (Seen.of_eq (hswept.session? u)).trans (seen_fallback (hswept.owned h) now pkt srcAddr)

/-- A datagram takes nobody's session away. -/
theorem seen_handlePacket {r : Router Addr} (h : r.sessions.Owned) (now : Time) (fault : Fault)
    (data : GoBytes) (srcAddr : Addr) :
    Seen (some now) u r.sessions (r.handlePacket now fault data srcAddr).1.sessions := by
  cases hdec : decodeInto data with
  | error e =>
    simp only [Router.handlePacket, hdec]
    exact .of_eq rfl
  | ok pkt =>
    simp only [Router.handlePacket, hdec]
    split
    · exact seen_handleVoice h now pkt data srcAddr
    · split
      · exact seen_refresh h now pkt srcAddr
      · split
        · exact seen_handleHandshake h now fault pkt srcAddr
        · split <;> exact .of_eq rfl

end seen

/-- The inversion of one event, for who has a session and when it was last seen. -/
theorem seen_step {r : Router Addr} (h : r.sessions.Owned) {e : PlaneEvent Addr} {u : UInt32}
    (hremove : e ≠ .removeSession u) (hsweep : ∀ now maxIdle s, e = .cleanStaleSessions now maxIdle →
      r.sessions.session? u = some s → ¬ s.Stale now maxIdle) :
    Seen e.clock u r.sessions (step r e).1.sessions := by
  cases e with
  | datagram now fault data srcAddr => exact seen_handlePacket h now fault data srcAddr
  | registerSession session => exact seen_install h session
  | moveMember userID toChannelID =>
    exact seen_write userID (fun s => { s with channelID := toChannelID })
      (SessionManager.session?_moveMember h userID toChannelID u) fun _ => .inl rfl
  | setServerMute userID muted =>
    exact seen_write userID (fun s => s.setServerMute muted)
      (SessionManager.session?_withSession h userID _ u) fun _ => .inl rfl
  | setServerDeafen userID deafened =>
    exact seen_write userID (fun s => s.setServerDeafen deafened)
      (SessionManager.session?_withSession h userID _ u) fun _ => .inl rfl
  | removeSession userID =>
    have hu : u ≠ userID := fun heq => hremove (by rw [heq])
    exact .of_eq ((SessionManager.session?_removeSession _ _ _).trans (if_neg hu))
  | cleanStaleSessions now maxIdle =>
    refine ⟨?_, ?_⟩
    · intro s hs
      have hfresh := Int.not_lt.mp (hsweep now maxIdle s rfl hs)
      exact ⟨s, SessionManager.session?_cleanStaleSessions_of_fresh hs hfresh, .inl rfl⟩
    · intro s' hnone hs'
      rw [SessionManager.session?_of_cleanStaleSessions hs'] at hnone
      cases hnone
  | registerPending | createVoiceToken | revokePending | revokeVoiceTokens => exact .of_eq rfl

/-- A ping sees its sender, wherever it comes from. -/
theorem seen_ping {r : Router Addr} (h : r.sessions.Owned) {e : PlaneEvent Addr} {now : Time}
    {pkt : Packet} (hping : Ping e now pkt) {s : Session Addr}
    (hs : r.sessions.session? pkt.senderID = some s) :
    ∃ s', (step r e).1.sessions.session? pkt.senderID = some s' ∧ s'.lastSeen = now := by
  obtain ⟨fault, data, srcAddr, rfl, hdec, htype⟩ := hping
  obtain ⟨ref, href, rfl⟩ := Option.map_eq_some_iff.mp hs
  have hrefresh : (step r (.datagram now fault data srcAddr)).1.sessions =
      Router.refresh r.sessions now pkt srcAddr := by
    rw [step, Router.handlePacket_ping hdec htype]
    rfl
  rw [hrefresh]
  unfold Router.refresh
  rw [SessionManager.getByUser, href, Option.some_or]
  simp only
  split
  · rw [SessionManager.session?_modify h href, if_pos rfl, hs]
    exact ⟨_, rfl, rfl⟩
  · have hid := (h.user href).2
    rw [SessionManager.session?_updateAddr h, if_pos hid.symm, hid, hs]
    exact ⟨_, rfl, rfl⟩

/-- What holds of a user who keeps pinging, after the events `mid` that followed
the creation at `t₀`: the session was last seen no earlier than the creation
and each ping, and no later than some reading of the clock. -/
structure KeptAlive (r₀ : Router Addr) (u : UInt32) (t₀ : Time) (before mid : List (PlaneEvent Addr))
    (s : Session Addr) : Prop where
  session : (media.run r₀ (before ++ mid)).sessions.session? u = some s
  created : t₀ ≤ s.lastSeen
  pinged : ∀ e ∈ mid, ∀ t pkt, Ping e t pkt → pkt.senderID = u → t ≤ s.lastSeen
  read : ∃ e ∈ before ++ mid, ∃ t, e.clock = some t ∧ s.lastSeen ≤ t

/-- One more event keeps a pinging user's session. -/
theorem KeptAlive.step {r₀ : Router Addr} (hsound : r₀.sessions.Owned) {u : UInt32} {maxIdle t₀ : Time}
    {before mid : List (PlaneEvent Addr)} {e : PlaneEvent Addr} {s : Session Addr}
    (halive : KeptAlive r₀ u t₀ before mid s) (hclock : ClockForward (before ++ (mid ++ [e])))
    (hkeeps : KeepsPinging u maxIdle t₀ (mid ++ [e])) :
    ∃ s', KeptAlive r₀ u t₀ before (mid ++ [e]) s' := by
  have howned := run_owned hsound (before ++ mid)
  have hrun : media.run r₀ (before ++ (mid ++ [e])) = (plane.step (media.run r₀ (before ++ mid)) e).1 := by
    rw [← List.append_assoc, Machine.run_concat]
    rfl
  obtain ⟨hremove, hticks⟩ := hkeeps.last
  have hforward : ∀ t, e.clock = some t → s.lastSeen ≤ t := by
    intro t ht
    rw [← List.append_assoc] at hclock
    obtain ⟨e', he', t', ht', hle⟩ := halive.read
    exact Int.le_trans hle (hclock.last t ht e' he' t' ht')
  have hsweep : ∀ now idle s', e = .cleanStaleSessions now idle →
      (media.run r₀ (before ++ mid)).sessions.session? u = some s' → ¬ s'.Stale now idle := by
    intro now idle s' ha hs' hstale
    cases halive.session.symm.trans hs'
    obtain ⟨rfl, hrecent⟩ := hticks now idle ha
    have hstale' : idle < now - s.lastSeen := hstale
    have hheard : ∀ t, t ≤ s.lastSeen → now - t ≤ idle → False := by
      intro t hle hgap
      exact Int.not_lt.mpr (Int.le_trans (Int.sub_le_sub_left hle now) hgap) hstale'
    obtain hcreation | ⟨ping, hping, t, pkt, hp, hu, hgap⟩ := hrecent
    · exact hheard t₀ halive.created hcreation
    · exact hheard t (halive.pinged ping hping t pkt hp hu) hgap
  obtain ⟨s', hs', hseen⟩ := (seen_step howned hremove hsweep).kept s halive.session
  have hlater : s.lastSeen ≤ s'.lastSeen := by
    obtain hsame | hnow := hseen
    · exact Int.le_of_eq hsame.symm
    · exact hforward _ hnow
  refine ⟨s', by rw [hrun]; exact hs', Int.le_trans halive.created hlater, ?_, ?_⟩
  · intro e' he' t pkt hp hu
    obtain hmem | hlast := List.mem_append.mp he'
    · exact Int.le_trans (halive.pinged e' hmem t pkt hp hu) hlater
    · cases List.mem_singleton.mp hlast
      subst hu
      obtain ⟨s₂, hs₂, hnow⟩ := seen_ping howned hp halive.session
      cases hs'.symm.trans hs₂
      exact Int.le_of_eq hnow.symm
  · obtain hsame | hnow := hseen
    · obtain ⟨e', he', t, ht, hle⟩ := halive.read
      exact ⟨e', by simp only [← List.append_assoc]; exact List.mem_append_left _ he', t, ht,
        by rw [hsame]; exact hle⟩
    · exact ⟨e, by simp, _, hnow, Int.le_refl _⟩

/-- Silent listeners survive: with a clock that never goes back, a user who keeps
pinging is never evicted. -/
theorem listenersSurvive {r₀ : Router Addr} (hsound : r₀.sessions.Owned) {es : List (PlaneEvent Addr)}
    (hclock : ClockForward es) : ListenersSurvive r₀ es := by
  intro u maxIdle t₀ pre e mid post hes hcreates hkeeps
  have hrun : ∀ es', media.run r₀ (pre ++ e :: es') = media.run r₀ ((pre ++ [e]) ++ es') := by
    intro es'
    rw [List.append_assoc]
    rfl
  have hclock' : ClockForward ((pre ++ [e]) ++ mid) := by
    have hsplit : es = ((pre ++ [e]) ++ mid) ++ post := by simp [hes]
    rw [hsplit] at hclock
    exact hclock.front
  have halive : ∃ s, KeptAlive r₀ u t₀ (pre ++ [e]) mid s := by
    clear hes
    induction mid using List.reverseRecOn with
    | nil =>
      obtain ⟨hnone, hsome, hread⟩ := hcreates
      obtain ⟨s, hs⟩ := Option.ne_none_iff_exists'.mp hsome
      have hremove : e ≠ .removeSession u := by
        intro heq
        rw [heq] at hread
        cases hread
      have hmade := (seen_step (run_owned hsound pre) hremove
        (fun _ _ s' _ hs' => by rw [hnone] at hs'; cases hs')).made s hnone hs
      have ht₀ : t₀ = s.lastSeen := Option.some.inj (hread.symm.trans hmade)
      refine ⟨s, ?_, Int.le_of_eq ht₀, by simp, e, by simp, t₀, hread, Int.le_of_eq ht₀.symm⟩
      rw [List.append_nil, Machine.run_concat]
      exact hs
    | append_singleton mid e' ih =>
      obtain ⟨s, hs⟩ := ih hkeeps.front (by rw [← List.append_assoc] at hclock'; exact hclock'.front)
      exact hs.step hsound hclock' hkeeps
  obtain ⟨s, hs⟩ := halive
  intro hnone
  have hsession := hs.session
  rw [← hrun, SessionManager.session?, hnone] at hsession
  cases hsession

/-- Silent listeners survive in every run with a clock that never goes back, and
only idle users are evicted exactly when no tick of the scavenger meets an idle
session that shares the address of one that stays. -/
theorem evictsIdle_iff_addressesApart (validator : Option VoiceTokens) (notifier writer : Bool)
    (es : List (PlaneEvent Addr)) (hclock : ClockForward es) :
    ListenersSurvive (newRouter validator notifier writer) es ∧
        EvictsIdle (newRouter validator notifier writer) es ↔
      AddressesApart (newRouter validator notifier writer) es := by
  have hsound : (newRouter validator notifier writer : Router Addr).sessions.Owned :=
    SessionManager.owned_new
  constructor
  · intro h pre e post hes now maxIdle ha
    exact (SessionManager.sweepsExactly_iff (run_owned hsound pre) now maxIdle).mp
      (h.2 pre e post hes now maxIdle ha)
  · intro h
    refine ⟨listenersSurvive hsound hclock, ?_⟩
    intro pre e post hes now maxIdle ha
    exact (SessionManager.sweepsExactly_iff (run_owned hsound pre) now maxIdle).mpr
      (h pre e post hes now maxIdle ha)

/-- User 1 connects, pings, and meets a tick of the scavenger. -/
def pinging : List (PlaneEvent Nat) :=
  [.datagram 0 .none (frame typeHandshake 1 5 []) 10, .datagram 50 .none (frame typePing 1 5 []) 10,
    .cleanStaleSessions 100 60]

theorem clockForward_pinging : ClockForward pinging := by
  simp only [ClockForward, pinging, Machine.along_cons_iff]
  refine ⟨?_, ?_, ?_, Machine.along_nil⟩
  all_goals simp [PlaneEvent.clock]

theorem addressesApart_pinging : AddressesApart (newRouter none false false) pinging := by
  simp only [AddressesApart, pinging, Machine.along_cons_iff]
  refine ⟨?_, ?_, ?_, Machine.along_nil⟩
  case refine_3 =>
    intro now maxIdle heq a ref u s _ hs hstale _
    cases heq
    have hnone : (media.run (newRouter none false false) (pinging.take 2)).sessions.staleEntries 100 60 =
        [] := rfl
    have hmem := SessionManager.mem_map_staleEntries.mpr ⟨s, hs, hstale⟩
    exact absurd (hnone ▸ hmem) List.not_mem_nil
  all_goals
    intro now maxIdle heq
    cases heq

theorem evictsIdle_iff_addressesApart_pinging :
    ListenersSurvive (newRouter none false false) pinging ∧ EvictsIdle (newRouter none false false) pinging :=
  (evictsIdle_iff_addressesApart none false false pinging clockForward_pinging).mpr addressesApart_pinging

/-- User 1 connects, user 2 connects from the same address, and user 1 goes
stale. -/
def sharedAddress : List (PlaneEvent Nat) :=
  [.datagram 0 .none (frame typeHandshake 1 5 []) 10, .datagram 50 .none (frame typeHandshake 2 5 []) 10,
    .cleanStaleSessions 61 60]

/-- The eviction of user 1 takes the address entry of user 2 along. -/
theorem eviction_takes_shared_address : ¬ ∀ es : List (PlaneEvent Nat), ClockForward es →
    ListenersSurvive (newRouter none false false) es ∧ EvictsIdle (newRouter none false false) es := by
  intro hall
  have hclock : ClockForward sharedAddress := by
    simp only [ClockForward, sharedAddress, Machine.along_cons_iff]
    refine ⟨?_, ?_, ?_, Machine.along_nil⟩
    all_goals simp [PlaneEvent.clock]
  have hexact := (hall sharedAddress hclock).2 (sharedAddress.take 2) _ [] rfl 61 60 rfl
  have hkept := hexact.addr 10 1 rfl (by decide)
  cases hkept

end low_latency_voice.plane

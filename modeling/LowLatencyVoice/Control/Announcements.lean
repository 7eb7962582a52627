import LowLatencyVoice.Control.Presence

open low_latency_voice.model low_latency_voice.storage low_latency_voice.audio

namespace low_latency_voice.control.presence

/-- The server, with the `presence_update` events emitted so far: whose, and
whether online. -/
structure World (Addr : Type) where
  server : server.World Addr
  announced : List (UInt32 × Bool)

/-- The atomic actions: those of the server, the look at `userClients` after a
cleanup, and the emission of a `presence_update`. -/
inductive Act (Addr : Type) where
  | server (a : server.Act Addr)
  | remainingSessions (userID : UInt32)
  | presenceUpdate (userID : UInt32) (online : Bool)

variable {Addr : Type} [DecidableEq Addr]

/-- What a lock region of the server leads to besides its own actions: the three
sign-in handlers announce the user; the cleanup of an authenticated connection
goes on to see whether it was the last one. -/
def follows (w : server.World Addr) : server.Act Addr → List (Act Addr)
  | .addUserClient userID _ => [.presenceUpdate userID true]
  | .handleClientDisconnect c =>
    if w.hub.clients.get? c ≠ none ∧ (w.hub.conn c).isAuthenticated then
      [.remainingSessions (w.hub.conn c).userID]
    else []
  | _ => []

/-- One action of a goroutine, with the actions it leads to. -/
def act (w : World Addr) (x : server.Choice) : Act Addr → World Addr × List (Act Addr)
  | .server a =>
    ({ w with server := (server.act w.server x a).1 },
      (server.act w.server x a).2.map .server ++ follows w.server a)
  | .remainingSessions userID =>
    (w, if w.server.hub.isUserOnline userID then [] else [.presenceUpdate userID false])
  | .presenceUpdate userID online => ({ w with announced := w.announced ++ [(userID, online)] }, [])

/-- The server with its announcements, any number of goroutines at a time. -/
def system : Goroutines Routine (World Addr) (server.Request Addr) (Act Addr) server.Choice where
  owner := server.Request.owner
  program := fun w r => (server.program w.server r).map .server
  perform := fun w _ a x => some (act w x a)

/-- The server, and the goroutines' remaining work. -/
abbrev State (Addr : Type) := Goroutines.Config Routine (World Addr) (Act Addr)

/-- The next thing the scheduler does. -/
abbrev Turn (Addr : Type) := Goroutines.Turn Routine (server.Request Addr) server.Choice

/-- A server that has just started, with the rows its database holds. -/
def World.new (voiceTokens : VoiceTokens) (userSessions : UserSessions) : World Addr where
  server := .new voiceTokens userSessions
  announced := []

/-- The state after a schedule. -/
def after (w : World Addr) (ts : List (Turn Addr)) : State Addr :=
  system.machine.run (Goroutines.idle w) ts

/-- The last thing announced about a user. -/
def lastAnnounced (announced : List (UInt32 × Bool)) (u : UInt32) : Option Bool :=
  ((announced.filter fun event => event.1 = u).getLast?).map Prod.snd

/-- The last announcement about the user, if there is one, is right. -/
def AnnouncedRight (w : World Addr) (u : UInt32) : Prop :=
  ∀ online, lastAnnounced w.announced u = some online → online = w.server.hub.isUserOnline u

/-- Every `presence_update` is still right when it is emitted. -/
def Timely (w : World Addr) (ts : List (Turn Addr)) : Prop :=
  Machine.Along (fun pre t => ∀ u online x, Goroutines.Does (after w pre) t (.presenceUpdate u online) x →
    online = (after w pre).shared.server.hub.isUserOnline u) ts

/-- The last announcement about the user is right, or the event that corrects it
is still to come. -/
def Corrected (k : State Addr) (u : UInt32) : Prop :=
  ∀ online, lastAnnounced k.shared.announced u = some online →
    online = k.shared.server.hub.isUserOnline u ∨
    (k.shared.server.hub.isUserOnline u = true ∧ Goroutines.Pending k (.presenceUpdate u true)) ∨
    (k.shared.server.hub.isUserOnline u = false ∧
      (Goroutines.Pending k (.remainingSessions u) ∨ Goroutines.Pending k (.presenceUpdate u false)))

theorem lastAnnounced_concat (announced : List (UInt32 × Bool)) (u v : UInt32) (online : Bool) :
    lastAnnounced (announced ++ [(v, online)]) u =
      if v = u then some online else lastAnnounced announced u := by
  unfold lastAnnounced
  rw [List.filter_append]
  by_cases hu : v = u
  · simp [hu]
  · simp [hu]

/-- A lock region brings the user online or takes the user offline with the event,
or the look, that is to follow. -/
theorem online_act (w : server.World Addr) (x : server.Choice) (a : server.Act Addr) (u : UInt32) :
    (server.act w x a).1.hub.isUserOnline u = w.hub.isUserOnline u ∨
    ((server.act w x a).1.hub.isUserOnline u = true ∧ .presenceUpdate u true ∈ follows w a) ∨
    ((server.act w x a).1.hub.isUserOnline u = false ∧ .remainingSessions u ∈ follows w a) := by
  cases hbefore : w.hub.isUserOnline u with
  | false =>
    cases hafter : (server.act w x a).1.hub.isUserOnline u with
    | false => exact .inl rfl
    | true =>
      obtain ⟨c, hlisted'⟩ := (Hub.isUserOnline_iff _ u).mp hafter
      obtain ⟨hlisted | rfl, -⟩ := (server.listed_act_iff w x a u c).mp hlisted'
      · rw [(Hub.isUserOnline_iff _ u).mpr ⟨c, hlisted⟩] at hbefore
        cases hbefore
      · exact .inr (.inl ⟨rfl, List.mem_singleton_self _⟩)
  | true =>
    cases hafter : (server.act w x a).1.hub.isUserOnline u with
    | true => exact .inl rfl
    | false =>
      obtain ⟨c, hlisted⟩ := (Hub.isUserOnline_iff _ u).mp hbefore
      have hgone : ¬ (server.act w x a).1.hub.Listed u c := by
        intro hlisted'
        rw [(Hub.isUserOnline_iff _ u).mpr ⟨c, hlisted'⟩] at hafter
        cases hafter
      rw [server.listed_act_iff] at hgone
      have hcleanup : a = .handleClientDisconnect c ∧ w.hub.Registered c ∧ w.hub.AuthenticatedAs u c := by
        by_contra hnot
        exact hgone ⟨.inl hlisted, hnot⟩
      obtain ⟨rfl, hreg, hauth, hid⟩ := hcleanup
      have hsome : w.hub.clients.get? c ≠ none := by
        rw [hreg]
        simp
      refine .inr (.inr ⟨rfl, ?_⟩)
      rw [follows, if_pos ⟨hsome, hauth⟩, hid]
      exact List.mem_singleton_self _

section step

variable {k : State Addr} {t : Turn Addr} {g : Routine} {a : Act Addr} {w' : World Addr}
  {acts : List (Act Addr)}

/-- An event that is right when it is emitted leaves nothing to correct, and every
change of who is online is followed by one. -/
theorem Corrected.perform {u : UInt32} (h : Corrected k u)
    (hok : ∀ v online x, Goroutines.Does k t (.presenceUpdate v online) x →
      online = k.shared.server.hub.isUserOnline v)
    (hp : system.Performs k t g a w' acts) : Corrected (system.step k t) u := by
  obtain ⟨x, hdoes, hperform⟩ := hp.exists_does
  have hact : act k.shared x a = (w', acts) := Option.some.inj hperform
  intro online hlast
  rw [hp.shared] at hlast ⊢
  cases a with
  | server a =>
    cases hact
    have hnew : ∀ b ∈ follows k.shared.server a, Goroutines.Pending (system.step k t) b :=
      fun b hb => hp.pending_of_mem (List.mem_append_right _ hb)
    obtain hsame | ⟨honline, hmem⟩ | ⟨hoffline, hmem⟩ := online_act k.shared.server x a u
    · rw [hsame]
      obtain hright | ⟨honline, hpending⟩ | ⟨hoffline, hpending⟩ := h online hlast
      · exact .inl hright
      · exact .inr (.inl ⟨honline, hp.pending_of_ne hpending (by simp)⟩)
      · exact .inr (.inr ⟨hoffline, hpending.imp (fun hb => hp.pending_of_ne hb (by simp))
          fun hb => hp.pending_of_ne hb (by simp)⟩)
    · exact .inr (.inl ⟨honline, hnew _ hmem⟩)
    · exact .inr (.inr ⟨hoffline, .inl (hnew _ hmem)⟩)
  | remainingSessions v =>
    cases hact
    obtain hright | ⟨honline, hpending⟩ | ⟨hoffline, hpending | hpending⟩ := h online hlast
    · exact .inl hright
    · exact .inr (.inl ⟨honline, hp.pending_of_ne hpending (by simp)⟩)
    · by_cases hv : v = u
      · subst hv
        refine .inr (.inr ⟨hoffline, .inr (hp.pending_of_mem ?_)⟩)
        simp [hoffline]
      · exact .inr (.inr ⟨hoffline, .inl (hp.pending_of_ne hpending (by simp [Ne.symm hv]))⟩)
    · exact .inr (.inr ⟨hoffline, .inr (hp.pending_of_ne hpending (by simp))⟩)
  | presenceUpdate v announced =>
    have hright := hok v announced x hdoes
    cases hact
    rw [lastAnnounced_concat] at hlast
    by_cases hv : v = u
    · subst hv
      rw [if_pos rfl] at hlast
      cases hlast
      exact .inl hright
    · rw [if_neg hv] at hlast
      have hne : ∀ b, (.presenceUpdate u b : Act Addr) ≠ .presenceUpdate v announced := by
        simp [Ne.symm hv]
      obtain hsame | ⟨honline, hpending⟩ | ⟨hoffline, hpending⟩ := h online hlast
      · exact .inl hsame
      · exact .inr (.inl ⟨honline, hp.pending_of_ne hpending (hne true)⟩)
      · exact .inr (.inr ⟨hoffline, hpending.imp (fun hb => hp.pending_of_ne hb (by simp))
          fun hb => hp.pending_of_ne hb (hne false)⟩)

end step

/-- In every run whose presence events are still right when they are emitted, once
no handler is in progress the last one about a user is right. -/
theorem announcedRight_of_timely (voiceTokens : VoiceTokens) (userSessions : UserSessions)
    (ts : List (Turn Addr)) (u : UInt32) (htimely : Timely (World.new voiceTokens userSessions) ts)
    (hquiet : Goroutines.Quiet (after (World.new voiceTokens userSessions) ts)) :
    AnnouncedRight (after (World.new voiceTokens userSessions) ts).shared u := by
  have hcorrected : Corrected (after (World.new voiceTokens userSessions) ts) u := by
    refine system.run_rule
      (fun k t => ∀ v online x, Goroutines.Does k t (.presenceUpdate v online) x →
        online = k.shared.server.hub.isUserOnline v)
      (fun k => Corrected k u) ?_ ?_ ?_ ts htimely
    · intro online hlast
      cases hlast
    · intro k r h _ hidle online hlast
      obtain hright | ⟨honline, hpending⟩ | ⟨hoffline, hpending⟩ := h online hlast
      · exact .inl hright
      · exact .inr (.inl ⟨honline, hpending.serve hidle _⟩)
      · exact .inr (.inr ⟨hoffline, hpending.imp (·.serve hidle _) (·.serve hidle _)⟩)
    · exact fun k t g a w' acts h hok hp => h.perform hok hp
  intro online hlast
  obtain hright | ⟨-, hpending⟩ | ⟨-, hpending | hpending⟩ := hcorrected online hlast
  · exact hright
  · exact absurd hpending (hquiet.not_pending _)
  · exact absurd hpending (hquiet.not_pending _)
  · exact absurd hpending (hquiet.not_pending _)

/-- A request to connect, to sign in as the user, or to disconnect. -/
def SessionOf (u : UInt32) : server.Request Addr → Prop
  | .serveWs _ _ | .hangUp _ | .unregister _ => True
  | .login _ user | .register _ user => user.id = u
  | _ => False

/-- Connection `c` is accepted and logs in as user 7. -/
def comes (n : Nat) (c : ClientID) : List (Turn Nat) :=
  [.serve (.serveWs n c), .advance (.accept n) (server.calm []),
    .serve (.login c ⟨7, "kim", permDefaultMember⟩), .advance (.readPump c) (server.calm [UInt8.ofNat c]),
    .advance (.readPump c) (server.calm []), .advance (.readPump c) (server.calm []),
    .advance (.readPump c) (server.calm [])]

/-- Connection `c` hangs up; its read pump has looked at `userClients` last. -/
def goes (c : ClientID) : List (Turn Nat) :=
  [.serve (.hangUp c), .advance (.readPump c) (server.calm []), .advance (.readPump c) (server.calm [])]

/-- What the read pump of `c` decided to announce goes out. -/
def announces (c : ClientID) : List (Turn Nat) := [.advance (.readPump c) (server.calm [])]

theorem timely_comes_goes : Timely (World.new ∅ ∅) (comes 0 1 ++ goes 1 ++ announces 1) := by
  simp only [Timely, comes, goes, announces, List.cons_append, List.nil_append, Machine.along_cons_iff]
  refine ⟨?_, ?_, ?_, ?_, ?_, ?_, ?_, ?_, ?_, ?_, ?_, Machine.along_nil⟩
  all_goals
    intro u online x hdoes
    obtain ⟨g, rest, hturn, htodo⟩ := hdoes
    cases hturn <;> cases htodo
  all_goals rfl

theorem announcedRight_of_timely_comes_goes :
    AnnouncedRight (after (World.new ∅ ∅) (comes 0 1 ++ goes 1 ++ announces 1)).shared 7 :=
  announcedRight_of_timely ∅ ∅ (comes 0 1 ++ goes 1 ++ announces 1) 7 timely_comes_goes
    (system.quiet_of_all _ rfl)

/-- A user who comes back between the look and the event is announced offline last. -/
theorem offline_announced_behind_return :
    ¬ ∀ ts : List (Turn Nat), (∀ t ∈ ts, ∀ r, t = .serve r → SessionOf 7 r) →
      Goroutines.Quiet (after (World.new ∅ ∅) ts) →
      AnnouncedRight (after (World.new ∅ ∅) ts).shared 7 := by
  intro hall
  have hright := hall (comes 0 1 ++ goes 1 ++ comes 1 2 ++ announces 1) ?_ (system.quiet_of_all _ rfl)
  · have honline := hright false rfl
    cases honline
  · intro t ht r hserve
    simp only [comes, goes, announces, List.cons_append, List.nil_append, List.mem_cons, List.not_mem_nil,
      or_false] at ht
    subst hserve
    grind [SessionOf]

end low_latency_voice.control.presence

import LowLatencyVoice.Control.Connections
import LowLatencyVoice.Control.Rooms

open low_latency_voice.model low_latency_voice.storage low_latency_voice.audio

namespace low_latency_voice.control

/-- `IsUserOnline`. -/
def Hub.isUserOnline (h : Hub) (userID : UInt32) : Bool := 0 < ((h.userClients.get? userID).getD ∅).len

/-- The users online are those with a registered connection of theirs, and without
any connection `userClients` is empty. -/
structure Hub.PresenceExact (h : Hub) : Prop where
  online : ∀ u, h.isUserOnline u = true ↔ ∃ c, h.Registered c ∧ h.AuthenticatedAs u c
  empty : (∀ c, ¬ h.Registered c) → h.userClients.len = 0

theorem Hub.isUserOnline_iff (h : Hub) (u : UInt32) : h.isUserOnline u = true ↔ ∃ c, h.Listed u c := by
  have hlen : ((h.userClients.get? u).getD ∅).len = (h.clientsOf u).length := by
    simp [clientsOf, GoMap.pairs, GoMap.len]
  unfold isUserOnline
  rw [decide_eq_true_iff, hlen, List.length_pos_iff_exists_mem]
  simp only [mem_clientsOf]

namespace server

variable {Addr : Type} [DecidableEq Addr]

/-- The action keeps `userClients` to the connections in use. A connection that is
registered and signed in signs in again for the same user only, and a sign-in
reaches the hub while its connection is registered. -/
def KeepsPresence (h : Hub) : Act Addr → Prop
  | .signIn c user => h.Registered c → (h.conn c).isAuthenticated = true → (h.conn c).userID = user.id
  | .addUserClient _ c => h.Registered c
  | _ => True

/-- Every action the turn performs keeps the presence. -/
def KeepsPresenceAt (k : State Addr) (t : Turn Addr) : Prop :=
  ∀ a x, Does k t a x → KeepsPresence k.shared.hub a

/-- Every step of the schedule keeps the presence. -/
def PresenceKept (w : World Addr) (ts : List (Turn Addr)) : Prop :=
  Machine.Along (fun pre t => KeepsPresenceAt (after w pre) t) ts

/-- What holds in every state: `userClients` lists no other connections than those
in use, in sets that are not empty. -/
structure Present (k : State Addr) : Prop where
  orderly : Orderly k
  signed : ∀ c u, k.todo (.readPump c) = [.addUserClient u c] → k.shared.hub.AuthenticatedAs u c
  listed : ∀ u c, k.shared.hub.Listed u c → k.shared.hub.Registered c ∧ k.shared.hub.AuthenticatedAs u c
  filled : k.shared.hub.userClients.NoEmpty

/-- No action leads to the hub region of a sign-in alone. -/
theorem act_ne_addUserClient (w : World Addr) (x : Choice) (a : Act Addr) (u : UInt32) (c : ClientID) :
    (act w x a).2 ≠ [.addUserClient u c] := by
  cases a with
  | kickMember targetUserID => simp [act]
  | registerClient | deleteSession | signIn | addUserClient | registerPending | leaveVoice |
    setVoiceState | removeSession | moveSession | setFlag | writeFlag | deleteUserSessions |
    revokeVoiceTokens | registerSession | retune | updateAddr | cleanStaleSessions => simp [act]
  | getSession | getUserWithRoles | createSession | getChannelByID | joinVoice | generateUDPToken |
    moveMember | lookupFlag | handleClientDisconnect | activatePending | consumeVoiceToken | getByUser =>
    simp only [act]
    repeat' split
    all_goals simp

theorem noEmpty_act {w : World Addr} (h : w.hub.userClients.NoEmpty) (x : Choice) (a : Act Addr) :
    (act w x a).1.hub.userClients.NoEmpty := by
  have hchange := userClientsChange_act w x a
  generalize (act w x a).1.hub.userClients = users at hchange ⊢
  cases hchange with
  | kept _ _ => exact h
  | added _ => exact h.put₂ _ _ _
  | removed _ _ _ => exact h.prune₂ _ _

section step

variable {k : State Addr}

omit [DecidableEq Addr] in
theorem Present.serve (h : Present k) (r : Request Addr) (hidle : k.todo r.owner = []) :
    Present { k with todo := Function.update k.todo r.owner (program k.shared r) } where
  orderly := h.orderly.serve r hidle
  signed := by
    intro c u htodo
    by_cases hg : Routine.readPump c = r.owner
    · rw [hg] at htodo
      simp only [Function.update_self] at htodo
      have hmem : .addUserClient u c ∈ program k.shared r := htodo ▸ List.mem_singleton_self _
      cases begins_of_mem_program hmem
    · simp only [Function.update_of_ne hg] at htodo
      exact h.signed c u htodo
  listed := h.listed
  filled := h.filled

variable {t : Turn Addr} {g : Routine} {a : Act Addr} {w' : World Addr} {acts : List (Act Addr)}

/-- The hub region of a sign-in runs for the user its connection is signed in as. -/
theorem Present.signed_perform (h : Present k) (hp : system.Performs k t g a w' acts) {c : ClientID}
    {u : UInt32} (htodo' : (system.step k t).todo (.readPump c) = [.addUserClient u c]) :
    (system.step k t).shared.hub.AuthenticatedAs u c := by
  obtain ⟨x, -, hact⟩ := exists_does hp
  obtain ⟨rest, htodo, hstep⟩ := hp.head
  have hidentity := identity_act k.shared x a c
  rw [hact, ← hp.shared] at hidentity
  by_cases hg : Routine.readPump c = g
  · subst g
    rw [hstep] at htodo'
    simp only [Function.update_self] at htodo'
    have hrest : rest = [.addUserClient u c] := by
      cases acts with
      | nil => exact htodo'
      | cons b acts =>
        rw [List.cons_append, List.cons_eq_cons, List.append_eq_nil_iff] at htodo'
        obtain ⟨rfl, rfl, rfl⟩ := htodo'
        exact absurd (congrArg Prod.snd hact) (act_ne_addUserClient k.shared x a u c)
    subst rest
    -- with one more action before it, this is a sign-in that writes the client object
    have hwork := h.orderly.atWork (.readPump c)
    rw [htodo] at hwork
    have hscript := (hwork.script_of_mem (a := .addUserClient u c) (by simp) rfl).2.2
    cases hscript with
    | signIn user =>
      have hwritten : w' = (act k.shared x (.signIn c user)).1 := (congrArg Prod.fst hact).symm
      rw [hp.shared, hwritten]
      simp [Hub.AuthenticatedAs, act, Client.signIn]
  · have hsame : k.todo (.readPump c) = [.addUserClient u c] := by
      rw [hstep] at htodo'
      simp only [Function.update_of_ne hg] at htodo'
      exact htodo'
    obtain ⟨hauth, hid⟩ := h.signed c u hsame
    obtain ⟨user, rfl, -⟩ | ⟨hid', hauth'⟩ := hidentity
    · exact absurd (h.orderly.script hp rfl).1.symm hg
    · exact ⟨hauth'.trans hauth, hid'.trans hid⟩

theorem Present.listed_perform (h : Present k) (hok : KeepsPresenceAt k t)
    (hp : system.Performs k t g a w' acts) {u : UInt32} {c : ClientID}
    (hlisted' : (system.step k t).shared.hub.Listed u c) :
    (system.step k t).shared.hub.Registered c ∧ (system.step k t).shared.hub.AuthenticatedAs u c := by
  obtain ⟨x, hdoes, hact⟩ := exists_does hp
  have hkeeps : KeepsPresence k.shared.hub a := hok a x hdoes
  have hlisted := listed_act_iff k.shared x a u c
  have hregistered := registered_act k.shared x a c
  have hidentity := identity_act k.shared x a c
  rw [hact, ← hp.shared] at hlisted hregistered hidentity
  obtain ⟨hbefore, hstays⟩ := hlisted.mp hlisted'
  have hused : k.shared.hub.Registered c ∧ k.shared.hub.AuthenticatedAs u c := by
    obtain hold | rfl := hbefore
    · exact h.listed u c hold
    · obtain ⟨rest, htodo, -⟩ := hp.head
      obtain ⟨rfl, -, hscript⟩ := h.orderly.script hp rfl
      rw [htodo] at hscript
      cases hscript
      exact ⟨hkeeps, h.signed c u htodo⟩
  obtain ⟨hreg, hauth, hid⟩ := hused
  refine ⟨hregistered.mpr ⟨.inl hreg, fun ha => hstays ⟨ha, hreg, hauth, hid⟩⟩, ?_⟩
  obtain ⟨user, rfl, hconn⟩ | ⟨hid', hauth'⟩ := hidentity
  · refine ⟨by rw [hconn]; rfl, ?_⟩
    rw [hconn]
    exact (hkeeps hreg hauth).symm.trans hid
  · exact ⟨hauth'.trans hauth, hid'.trans hid⟩

theorem Present.perform (h : Present k) (hok : KeepsPresenceAt k t) (hp : system.Performs k t g a w' acts) :
    Present (system.step k t) where
  orderly := h.orderly.perform hp
  signed := fun _ _ htodo => h.signed_perform hp htodo
  listed := fun _ _ hlisted => h.listed_perform hok hp hlisted
  filled := by
    obtain ⟨x, -, hact⟩ := exists_does hp
    have hfilled := noEmpty_act h.filled x a
    rwa [hact, ← hp.shared] at hfilled

end step

/-- In every run whose sign-ins keep to their connections, once no handler is in
progress the users online are exactly those with a registered connection. -/
theorem presenceExact_of_presenceKept (voiceTokens : VoiceTokens) (userSessions : UserSessions)
    (ts : List (Turn Addr)) (hkept : PresenceKept (World.new voiceTokens userSessions) ts)
    (hquiet : Quiet (after (World.new voiceTokens userSessions) ts)) :
    (after (World.new voiceTokens userSessions) ts).shared.hub.PresenceExact := by
  have hpresent : Present (after (World.new voiceTokens userSessions) ts) := by
    refine system.run_rule KeepsPresenceAt Present ?_ ?_ ?_ ts hkept
    · refine ⟨orderly_after voiceTokens userSessions [], ?_, ?_, GoMap.noEmpty_empty⟩
      · intro c u htodo
        cases htodo
      · intro u c hlisted
        simp [Goroutines.idle, World.new, Hub.new, Hub.Listed] at hlisted
    · intro k r hinv _ hidle
      exact hinv.serve r hidle
    · intro k t g a w' acts hinv hok hp
      exact hinv.perform hok hp
  constructor
  · intro u
    rw [Hub.isUserOnline_iff]
    constructor
    · intro honline
      obtain ⟨c, hlisted⟩ := honline
      exact ⟨c, hpresent.listed u c hlisted⟩
    · intro hused
      obtain ⟨c, hreg, hauth, rfl⟩ := hused
      obtain hlisted | hmem := hpresent.orderly.listed c hreg hauth
      · exact ⟨c, hlisted⟩
      · rw [hquiet] at hmem
        cases hmem
  · intro hnone
    rw [GoMap.len_eq_zero_iff]
    intro u
    by_contra hsome
    obtain ⟨c, hc⟩ := hpresent.filled u hsome
    obtain ⟨_, hlisted⟩ := Option.ne_none_iff_exists'.mp hc
    exact hnone c (hpresent.listed u c hlisted).1

/-- Connection 1 logs in as user 7 and then as user 8. -/
def relogins : List (Turn Nat) :=
  [.serve (.serveWs 0 1), .advance (.accept 0) (calm []),
    .serve (.login 1 ⟨7, "kim", permDefaultMember⟩), .advance (.readPump 1) (calm [0x73]),
    .advance (.readPump 1) (calm []), .advance (.readPump 1) (calm []),
    .serve (.login 1 ⟨8, "lee", permDefaultMember⟩), .advance (.readPump 1) (calm [0x74]),
    .advance (.readPump 1) (calm []), .advance (.readPump 1) (calm [])]

theorem presenceKept_joined : PresenceKept (World.new ∅ ∅) joined := by
  simp only [PresenceKept, joined, Machine.along_cons_iff]
  refine ⟨?_, ?_, ?_, ?_, ?_, ?_, ?_, ?_, ?_, ?_, ?_, Machine.along_nil⟩
  all_goals
    intro a x hdoes
    obtain ⟨g, rest, hturn, htodo⟩ := hdoes
    cases hturn <;> cases htodo
  case refine_5 =>
    intro _ hauth
    cases hauth
  case refine_6 => exact rfl
  all_goals trivial

theorem presenceExact_of_presenceKept_joined :
    (after (World.new ∅ ∅) joined).shared.hub.PresenceExact :=
  presenceExact_of_presenceKept ∅ ∅ joined presenceKept_joined (system.quiet_of_all _ rfl)

/-- User 7 is still online after the only connection has become another user's. -/
theorem former_user_stays_online :
    ¬ ∀ ts : List (Turn Nat), Quiet (after (World.new ∅ ∅) ts) →
      (after (World.new ∅ ∅) ts).shared.hub.PresenceExact := by
  intro hall
  have hexact := hall relogins (system.quiet_of_all _ rfl)
  obtain ⟨c, hreg, -, hid⟩ := (hexact.online 7).mp rfl
  have hclients : (after (World.new ∅ ∅) relogins).shared.hub.clients = GoMap.set ∅ 1 () := rfl
  rw [Hub.Registered, hclients, GoMap.get?_set] at hreg
  split at hreg
  · subst c
    cases hid
  · cases hreg

end server

end low_latency_voice.control

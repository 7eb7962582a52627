import LowLatencyVoice.Audio.Revocation
import LowLatencyVoice.Control.Connections
import LowLatencyVoice.Control.Rooms

open low_latency_voice.model low_latency_voice.storage low_latency_voice.audio

namespace low_latency_voice.control.server

variable {Addr : Type} [DecidableEq Addr]

/-- No session row of the user is stored. -/
def NoSessionRow (w : World Addr) (u : UInt32) : Prop :=
  ∀ token session, w.userSessions.get? token = some session → session.userID ≠ u

/-- No unconsumed voice token of the user is stored. -/
def NoVoiceToken (w : World Addr) (u : UInt32) : Prop :=
  ∀ token vt, w.voiceTokens.get? token = some vt → vt.isConsumed = false → vt.userID ≠ u

/-- Nothing of the user is left in the hub, on the media plane or in storage. -/
structure NothingLeft (w : World Addr) (u : UInt32) : Prop where
  clients : ∀ c, w.hub.Registered c → ¬ w.hub.AuthenticatedAs u c
  voiceState : w.hub.voiceStates.get? u = none
  rooms : ∀ room c, w.hub.InRoom room c → ¬ w.hub.AuthenticatedAs u c
  sessions : w.sessions.Forgets u
  addresses : ∀ a ref, w.sessions.byAddr.get? a = some ref → (w.sessions.heap ref).userID ≠ u
  sessionRows : NoSessionRow w u
  voiceTokens : NoVoiceToken w u

/-- The request signs in as the user, or signs in or joins on a connection of
the user. -/
def StartsFor (w : World Addr) (u : UInt32) : Request Addr → Prop
  | .auth c token => w.hub.AuthenticatedAs u c ∨
      ∃ session, w.userSessions.get? token = some session ∧ session.userID = u
  | .login c user | .register c user => w.hub.AuthenticatedAs u c ∨ user.id = u
  | .joinVoice c _ _ _ => w.hub.AuthenticatedAs u c
  | _ => False

/-- The read pump of `m` can take up a kick of the user, and it passes the gates. -/
def Kicks (k : State Addr) (m : ClientID) (u : UInt32) : Prop :=
  k.todo (.readPump m) = [] ∧ program k.shared (.kickMember m u) =
    [.deleteUserSessions u, .revokeVoiceTokens u, .kickMember u]

/-- The actions of a sign-in up to the write to the client object. -/
def Act.signsIn : Act Addr → Bool
  | .getSession _ _ | .getUserWithRoles _ _ | .createSession _ _ | .signIn _ _ => true
  | _ => false

/-- A connection of the user that is in voice and will be disconnected before it
can sign in as somebody else. -/
structure Closing (k : State Addr) (u : UInt32) (c : ClientID) : Prop where
  registered : k.shared.hub.Registered c
  mine : k.shared.hub.AuthenticatedAs u c
  active : 0 < (k.shared.hub.conn c).activeVoiceChannel
  disconnect : Goroutines.Pending k (.handleClientDisconnect c)
  settled : ∀ a ∈ k.todo (.readPump c), a.signsIn = false

/-- A `RemoveSession` of the user is still to come. -/
def RemovalAhead (k : State Addr) (u : UInt32) : Prop :=
  Goroutines.Pending k (.kickMember u) ∨ Goroutines.Pending k (.removeSession u) ∨ ∃ c, Closing k u c

/-- The action brings nothing of the user back behind the step of the kick that
takes it away, and that step does take it away. -/
def KeepsKick (k : State Addr) (u : UInt32) (x : Choice) : Act Addr → Prop
  | .deleteUserSessions v => v = u → x.fault = .exec → NoSessionRow k.shared u
  | .revokeVoiceTokens v => v = u → x.fault = .exec → NoVoiceToken k.shared u
  | .createSession _ user => user.id = u → x.fault ≠ .exec → k.shared.userSessions.get? x.token = none →
      Goroutines.Pending k (.deleteUserSessions u)
  | .generateUDPToken c _ => (k.shared.hub.conn c).userID = u → x.fault ≠ .exec →
      k.shared.voiceTokens.get? x.token = none → Goroutines.Pending k (.revokeVoiceTokens u)
  | .signIn c user => user.id = u → k.shared.hub.Tidy c
  | .addUserClient v c => v = u → k.shared.hub.Registered c →
      Goroutines.Pending k (.kickMember u) ∨ Goroutines.Pending k (.handleClientDisconnect c)
  | .registerPending vt => vt.userID = u → RemovalAhead k u
  | .registerSession s => s.userID = u → RemovalAhead k u
  | .removeSession v => v = u → ∀ room, k.shared.sessions.byChannel.get₂ room u ≠ none →
      (k.shared.sessions.session? u).map Session.channelID = some room
  | .moveMember v _ => ∀ c, k.shared.hub.Listed v c → ¬ k.shared.hub.AuthenticatedAs u c
  | _ => True

/-- Every action the turn performs keeps the kick. -/
def KeepsKickAt (u : UInt32) (k : State Addr) (t : Turn Addr) : Prop :=
  ∀ a x, Does k t a x → KeepsKick k u x a

/-- The schedule up to some point after the kick has been taken up. -/
def kicked (pre : List (Turn Addr)) (m : ClientID) (u : UInt32) (rest : List (Turn Addr)) :
    List (Turn Addr) :=
  pre ++ .serve (.kickMember m u) :: rest

/-- After the kick has been taken up, no request starts to sign in or to join
voice for the user. -/
def NoneStarts (w : World Addr) (pre : List (Turn Addr)) (m : ClientID) (u : UInt32)
    (rest : List (Turn Addr)) : Prop :=
  Machine.Along (fun mid t => ∀ r, t = .serve r → ¬ StartsFor (after w (kicked pre m u mid)).shared u r) rest

/-- No connection of the user is in a room other than its active one when the
kick starts, and every later step keeps the kick. -/
structure KickKept (w : World Addr) (pre : List (Turn Addr)) (m : ClientID) (u : UInt32)
    (rest : List (Turn Addr)) : Prop where
  start : ∀ c, (after w pre).shared.hub.AuthenticatedAs u c → (after w pre).shared.hub.Tidy c
  steps : Machine.Along (fun mid t => KeepsKickAt u (after w (kicked pre m u mid)) t) rest

/-- What holds from the moment the kick is taken up: each part of the user is
gone, or the step that takes it away is still to come. -/
structure Kicking (u : UInt32) (k : State Addr) : Prop where
  orderly : Orderly k
  owned : k.shared.sessions.Owned
  sessionRows : Goroutines.Pending k (.deleteUserSessions u) ∨ NoSessionRow k.shared u
  voiceTokens : Goroutines.Pending k (.revokeVoiceTokens u) ∨ NoVoiceToken k.shared u
  clients : Goroutines.Pending k (.kickMember u) ∨
    ∀ c, k.shared.hub.Registered c → k.shared.hub.AuthenticatedAs u c →
      Goroutines.Pending k (.handleClientDisconnect c) ∨ .addUserClient u c ∈ k.todo (.readPump c)
  voiceState : Goroutines.Pending k (.kickMember u) ∨ k.shared.hub.voiceStates.get? u = none ∨
    ∃ c, Closing k u c
  session : RemovalAhead k u ∨ k.shared.sessions.Forgets u
  tidy : ∀ c, k.shared.hub.AuthenticatedAs u c → k.shared.hub.Tidy c

/-- Where a session row comes from. -/
theorem sessionRow_act {w : World Addr} {x : Choice} {a : Act Addr} {token : Token} {session : UserSession}
    (hget : (act w x a).1.userSessions.get? token = some session) :
    (w.userSessions.get? token = some session ∧
      (a = .deleteUserSessions session.userID → x.fault = .exec)) ∨
    ∃ c user, a = .createSession c user ∧ user.id = session.userID ∧ x.fault ≠ .exec ∧
      w.userSessions.get? x.token = none := by
  cases a with
  | createSession c user =>
    simp only [act] at hget
    split at hget
    · exact .inl ⟨hget, by simp⟩
    · rename_i rows hcreate
      obtain hnew | hold := userID_of_createSession hcreate hget
      · right
        unfold createSession at hcreate
        split at hcreate
        · cases hcreate
        · rename_i hok
          rw [not_or, Option.not_isSome_iff_eq_none] at hok
          exact ⟨c, user, rfl, hnew.symm, hok.1, hok.2⟩
      · exact .inl ⟨hold, by simp⟩
  | deleteSession token' => exact .inl ⟨get?_of_deleteSession hget, by simp⟩
  | deleteUserSessions userID =>
    obtain ⟨hold, hother⟩ := get?_of_deleteUserSessions hget
    refine .inl ⟨hold, ?_⟩
    intro heq
    cases heq
    by_contra hfault
    exact hother hfault rfl
  | getSession | getUserWithRoles | getChannelByID | joinVoice | generateUDPToken | moveMember | lookupFlag |
    activatePending | consumeVoiceToken | getByUser =>
    refine .inl ⟨?_, by simp⟩
    simp only [act] at hget
    repeat' split at hget
    all_goals exact hget
  | registerClient | signIn | addUserClient | registerPending | leaveVoice | setVoiceState | removeSession |
    moveSession | setFlag | writeFlag | revokeVoiceTokens | kickMember | handleClientDisconnect |
    registerSession | retune | updateAddr | cleanStaleSessions => exact .inl ⟨hget, by simp⟩

/-- Where an unconsumed voice token comes from. -/
theorem voiceToken_act {w : World Addr} {x : Choice} {a : Act Addr} {token : Token} {vt : VoiceToken}
    (hget : (act w x a).1.voiceTokens.get? token = some vt) (hfresh : vt.isConsumed = false) :
    (w.voiceTokens.get? token = some vt ∧ (a = .revokeVoiceTokens vt.userID → x.fault = .exec)) ∨
    ∃ c room, a = .generateUDPToken c room ∧ (w.hub.conn c).userID = vt.userID ∧ x.fault ≠ .exec ∧
      w.voiceTokens.get? x.token = none := by
  cases a with
  | generateUDPToken c room =>
    have hrows : (act w x (.generateUDPToken c room)).1.voiceTokens =
        (createVoiceToken w.voiceTokens x.now x.fault x.token (w.hub.conn c).userID room
          (if x.ssrc = 0 then 100001 else x.ssrc) (x.now + voiceTokenTTL)).1 := by
      simp only [act]
      split <;> simp_all
    rw [hrows] at hget
    obtain ⟨-, rfl, hfault, hnone⟩ | hold := get?_createVoiceToken hget
    · exact .inr ⟨c, room, rfl, rfl, hfault, hnone⟩
    · exact .inl ⟨hold, by simp⟩
  | revokeVoiceTokens userID =>
    simp only [act] at hget
    split at hget
    · rename_i hfault
      exact .inl ⟨hget, fun _ => hfault⟩
    · rw [get?_revokeVoiceTokens, Option.filter_eq_some_iff] at hget
      obtain ⟨hold, hother⟩ := hget
      refine .inl ⟨hold, ?_⟩
      intro heq
      cases heq
      simp at hother
  | consumeVoiceToken pkt srcAddr =>
    refine .inl ⟨?_, by simp⟩
    simp only [act] at hget
    split at hget
    · exact hget
    · cases hconsume : consumeVoiceToken w.voiceTokens x.now x.fault (GoBytes.trimSpace pkt.payload) with
      | mk rows result =>
        cases result with
        | error e =>
          simp only [hconsume] at hget
          rw [consumeVoiceToken_error hconsume] at hget
          exact hget
        | ok vt' =>
          simp only [hconsume] at hget
          obtain ⟨-, vt₀, -, rfl, rfl⟩ := consumeVoiceToken_eq_ok_iff.mp hconsume
          rw [GoMap.get?_set] at hget
          split at hget
          · cases hget
            cases hfresh
          · exact hget
  | getSession | getUserWithRoles | createSession | getChannelByID | joinVoice | moveMember | lookupFlag |
    activatePending | getByUser =>
    refine .inl ⟨?_, by simp⟩
    simp only [act] at hget
    repeat' split at hget
    all_goals exact hget
  | registerClient | deleteSession | signIn | addUserClient | registerPending | leaveVoice | setVoiceState |
    removeSession | moveSession | setFlag | writeFlag | deleteUserSessions | kickMember |
    handleClientDisconnect | registerSession | retune | updateAddr | cleanStaleSessions =>
    exact .inl ⟨hget, by simp⟩

/-- A user who is gone from the media plane comes back only with a new session
or a new pending token. -/
theorem forgets_act {w : World Addr} {u : UInt32} (h : w.sessions.Forgets u) (howned : w.sessions.Owned)
    (x : Choice) {a : Act Addr} (hpending : ∀ vt, a = .registerPending vt → vt.userID ≠ u)
    (hsession : ∀ s, a = .registerSession s → s.userID ≠ u) : (act w x a).1.sessions.Forgets u := by
  cases a with
  | registerPending vt =>
    refine ⟨⟨h.1.user, h.1.channel⟩, ?_⟩
    intro token pt hget
    simp only [act, SessionManager.registerPending, GoMap.get?_set] at hget
    split at hget
    · cases hget
      exact hpending vt rfl
    · exact h.2 token pt hget
  | removeSession userID =>
    refine ⟨h.1.removeSession userID, ?_⟩
    intro token pt hget
    simp only [act, SessionManager.removeSession_pendingTokens] at hget
    exact h.2.deleteWhere (fun _ pt => pt.userID == userID) token pt hget
  | moveSession targetUserID room =>
    refine ⟨h.1.moveMember targetUserID room, ?_⟩
    intro token pt hget
    simp only [act, SessionManager.moveMember_pendingTokens] at hget
    exact h.2 token pt hget
  | writeFlag flag ref value => exact ⟨⟨h.1.user, h.1.channel⟩, h.2⟩
  | retune ref room => exact ⟨⟨h.1.user, h.1.channel⟩, h.2⟩
  | updateAddr userID srcAddr =>
    refine ⟨h.1.updateAddr x.now userID (some srcAddr), ?_⟩
    intro token pt hget
    simp only [act, SessionManager.updateAddr_pendingTokens] at hget
    exact h.2 token pt hget
  | cleanStaleSessions maxIdle =>
    refine ⟨h.1.cleanStaleSessions x.now maxIdle, ?_⟩
    intro token pt hget
    simp only [act, SessionManager.cleanStaleSessions_pendingTokens] at hget
    exact h.2.deleteWhere (fun _ pt => decide (pt.expiresAt < x.now)) token pt hget
  | registerSession session =>
    refine ⟨h.1.install howned (hsession session rfl), ?_⟩
    intro token pt hget
    simp only [act, SessionManager.install_pendingTokens] at hget
    exact h.2 token pt hget
  | activatePending pkt srcAddr =>
    have hforgets : (w.sessions.activatePending x.now (GoBytes.trimSpace pkt.payload) pkt.senderID
        pkt.channelID (some srcAddr)).1.Forgets u := h.activatePending howned
    simp only [act]
    split
    · rename_i hactivate
      rw [hactivate] at hforgets
      exact hforgets
    · rename_i hactivate
      rw [hactivate] at hforgets
      exact hforgets
  | getSession | getUserWithRoles | createSession | getChannelByID | joinVoice | generateUDPToken |
    moveMember | lookupFlag | consumeVoiceToken | getByUser =>
    have hsame : ∀ w' : World Addr, w'.sessions = w.sessions → w'.sessions.Forgets u := by
      intro w' heq
      rw [heq]
      exact h
    apply hsame
    simp only [act]
    repeat' split
    all_goals rfl
  | registerClient | deleteSession | signIn | addUserClient | leaveVoice | setVoiceState | setFlag |
    deleteUserSessions | revokeVoiceTokens | kickMember | handleClientDisconnect => exact h

/-- Only a sign-in leads to more of a sign-in. -/
theorem signsIn_act {w : World Addr} {x : Choice} {a : Act Addr} (h : a.signsIn = false) :
    ∀ b ∈ (act w x a).2, b.signsIn = false := by
  intro b hb
  cases a with
  | getSession | getUserWithRoles | createSession | signIn => cases h
  | kickMember targetUserID =>
    simp only [act, List.mem_cons, List.mem_map] at hb
    obtain rfl | ⟨c, -, rfl⟩ := hb <;> rfl
  | registerClient | deleteSession | addUserClient | getChannelByID | joinVoice | generateUDPToken |
    registerPending | leaveVoice | setVoiceState | removeSession | moveMember | moveSession | setFlag |
    lookupFlag | writeFlag | deleteUserSessions | revokeVoiceTokens | handleClientDisconnect |
    activatePending | consumeVoiceToken | getByUser | registerSession | retune | updateAddr |
    cleanStaleSessions =>
    simp only [act] at hb
    grind [Act.signsIn]

section step

variable {k : State Addr} {t : Turn Addr} {g : Routine} {a : Act Addr} {w' : World Addr}
  {acts : List (Act Addr)} {u : UInt32}

/-- A connection that is to be disconnected from voice still is, unless it has
just left: then the voice state is gone and the removal of the session pending. -/
theorem Closing.perform {c : ClientID} (h : Closing k u c) (horderly : Orderly k) {x : Choice}
    (hkeeps : KeepsKick k u x a) (hact : act k.shared x a = (w', acts))
    (hp : system.Performs k t g a w' acts) :
    Closing (system.step k t) u c ∨
      Goroutines.Pending (system.step k t) (.removeSession u) ∧
        (system.step k t).shared.hub.voiceStates.get? u = none := by
  by_cases hdisconnect : a = .handleClientDisconnect c
  · right
    subst hdisconnect
    obtain ⟨hdeparted, -, -, -, hstates⟩ := Hub.handleClientDisconnect_of_registered h.registered
    have hleaves : k.shared.hub.LeavesVoice c := ⟨h.mine.1, .inl h.active⟩
    refine ⟨hp.pending_of_mem ?_, ?_⟩
    · have hacts : acts = (act k.shared x (.handleClientDisconnect c)).2 := by rw [hact]
      rw [hacts]
      simp [act, hdeparted, h.mine.1, h.active, h.mine.2]
    · have hw' : w' = (act k.shared x (.handleClientDisconnect c)).1 := by rw [hact]
      rw [hp.shared, hw']
      obtain ⟨-, -, hgone⟩ | ⟨hstays, -⟩ := hstates u
      · exact hgone
      · exact absurd ⟨hleaves, h.mine.2.symm⟩ hstays
  by_cases hleave : a = .leaveVoice c
  · right
    subst hleave
    cases hact
    refine ⟨hp.pending_of_mem (by simp [h.mine.2]), ?_⟩
    rw [hp.shared, Hub.leaveVoice_of_pos h.active]
    simp [h.mine.2]
  left
  have hsettled : ∀ b, b = a → g = .readPump c → b.signsIn = false := by
    intro b hb hg
    have hmem := hp.mem_todo
    rw [hg, ← hb] at hmem
    exact h.settled b hmem
  have hconn := connChange_act k.shared x a c
  have hregistered := registered_act k.shared x a c
  rw [hact, ← hp.shared] at hconn hregistered
  have hidentity : (system.step k t).shared.hub.AuthenticatedAs u c ∧
      0 < ((system.step k t).shared.hub.conn c).activeVoiceChannel := by
    unfold Hub.AuthenticatedAs
    generalize (system.step k t).shared.hub.conn c = client' at hconn ⊢
    cases hconn with
    | kept => exact ⟨h.mine, h.active⟩
    | signedIn ha =>
      subst ha
      have hfalse := hsettled _ rfl (horderly.script hp rfl).1
      cases hfalse
    | joined ha =>
      subst ha
      obtain ⟨rfl, -, hscript⟩ := horderly.script hp rfl
      obtain ⟨rest, htodo, -⟩ := hp.head
      rw [htodo] at hscript
      cases hscript with
      | joinVoice _ hroom => exact ⟨h.mine, UInt32.pos_iff_ne_zero.mpr hroom⟩
    | left ha => exact absurd ha hleave
    | moved ha hlisted =>
      subst ha
      exact absurd h.mine (hkeeps c hlisted)
    | closed ha => exact absurd ha hdisconnect
  refine ⟨hregistered.mpr ⟨.inl h.registered, hdisconnect⟩, hidentity.1, hidentity.2,
    hp.pending_of_ne h.disconnect (Ne.symm hdisconnect), ?_⟩
  intro b hb
  obtain ⟨hg, hnew⟩ | hold := hp.mem_elim hb
  · have hacts : acts = (act k.shared x a).2 := by rw [hact]
    rw [hacts] at hnew
    exact signsIn_act (hsettled a rfl hg.symm) b hnew
  · exact h.settled b hold

theorem Kicking.sessionRows_perform (h : Kicking u k) {x : Choice} (hkeeps : KeepsKick k u x a)
    (hact : act k.shared x a = (w', acts)) (hp : system.Performs k t g a w' acts) :
    Goroutines.Pending (system.step k t) (.deleteUserSessions u) ∨
      NoSessionRow (system.step k t).shared u := by
  rw [or_iff_not_imp_left]
  intro hdone token session hget heq
  have hw' : w' = (act k.shared x a).1 := by rw [hact]
  rw [hp.shared, hw'] at hget
  have hsplit : a = .deleteUserSessions u ∨ NoSessionRow k.shared u := by
    obtain hpending | hnone := h.sessionRows
    · exact .inl ((hp.pending_or_eq hpending).resolve_right hdone).symm
    · exact .inr hnone
  obtain ⟨hold, hfault⟩ | ⟨c, user, rfl, huser, hfault, hfree⟩ := sessionRow_act hget
  · obtain rfl | hnone := hsplit
    · exact hkeeps rfl (hfault (by rw [heq])) token session hold heq
    · exact hnone token session hold heq
  · have hpending := hkeeps (huser.trans heq) hfault hfree
    exact hdone (hp.pending_of_ne hpending (by simp))

theorem Kicking.voiceTokens_perform (h : Kicking u k) {x : Choice} (hkeeps : KeepsKick k u x a)
    (hact : act k.shared x a = (w', acts)) (hp : system.Performs k t g a w' acts) :
    Goroutines.Pending (system.step k t) (.revokeVoiceTokens u) ∨
      NoVoiceToken (system.step k t).shared u := by
  rw [or_iff_not_imp_left]
  intro hdone token vt hget hfresh heq
  have hw' : w' = (act k.shared x a).1 := by rw [hact]
  rw [hp.shared, hw'] at hget
  have hsplit : a = .revokeVoiceTokens u ∨ NoVoiceToken k.shared u := by
    obtain hpending | hnone := h.voiceTokens
    · exact .inl ((hp.pending_or_eq hpending).resolve_right hdone).symm
    · exact .inr hnone
  obtain ⟨hold, hfault⟩ | ⟨c, room, rfl, huser, hfault, hfree⟩ := voiceToken_act hget hfresh
  · obtain rfl | hnone := hsplit
    · exact hkeeps rfl (hfault (by rw [heq])) token vt hold hfresh heq
    · exact hnone token vt hold hfresh heq
  · have hpending := hkeeps (huser.trans heq) hfault hfree
    exact hdone (hp.pending_of_ne hpending (by simp))

/-- Once the hub region of the kick has run, every registered connection of the
user is to be disconnected or has not yet reached `userClients`. -/
theorem Kicking.clients_perform (h : Kicking u k) {x : Choice} (hkeeps : KeepsKick k u x a)
    (hact : act k.shared x a = (w', acts)) (hp : system.Performs k t g a w' acts) :
    Goroutines.Pending (system.step k t) (.kickMember u) ∨
      ∀ c, (system.step k t).shared.hub.Registered c → (system.step k t).shared.hub.AuthenticatedAs u c →
        Goroutines.Pending (system.step k t) (.handleClientDisconnect c) ∨
          .addUserClient u c ∈ (system.step k t).todo (.readPump c) := by
  rw [or_iff_not_imp_left]
  intro hdone c hreg' hmine'
  have horderly := (h.orderly.perform hp).listed c hreg' hmine'.1
  rw [hmine'.2] at horderly
  by_cases hadd : .addUserClient u c ∈ (system.step k t).todo (.readPump c)
  · exact .inr hadd
  left
  have hlisted' := horderly.resolve_right hadd
  have hidentity := identity_act k.shared x a c
  have hregistered := registered_act k.shared x a c
  rw [hact, ← hp.shared] at hidentity hregistered
  obtain ⟨user, rfl, hconn⟩ | ⟨huser, hauth⟩ := hidentity
  · -- the sign-in itself has `addUserClient` still before it
    obtain ⟨rfl, -, hscript⟩ := h.orderly.script hp rfl
    obtain ⟨rest, htodo, hstep⟩ := hp.head
    rw [htodo] at hscript
    cases hscript
    cases hact
    have hu : user.id = u := by
      rw [← hmine'.2, hconn]
      rfl
    rw [hstep, hu] at hadd
    exact absurd (by simp) hadd
  · have hmine : k.shared.hub.AuthenticatedAs u c := ⟨hauth.symm.trans hmine'.1, huser.symm.trans hmine'.2⟩
    have hreg := h.orderly.registered_before hp hreg' hmine.1
    have hstays := (hregistered.mp hreg').2
    obtain hpending | hall := h.clients
    · -- this is the hub region of the kick
      have ha := ((hp.pending_or_eq hpending).resolve_right hdone).symm
      subst ha
      cases hact
      apply hp.pending_of_mem
      have hlisted : k.shared.hub.Listed u c := by
        rw [hp.shared] at hlisted'
        rw [Hub.Listed, ← (k.shared.hub.kickMember_spec u).2.2.1]
        exact hlisted'
      have hmem : c ∈ (k.shared.hub.kickMember u).2 := by
        rw [(k.shared.hub.kickMember_spec u).1]
        exact Hub.mem_clientsOf.mpr hlisted
      exact List.mem_cons_of_mem _ (List.mem_map_of_mem (mem_visits.mpr hmem))
    · obtain hpending | hmem := hall c hreg hmine
      · exact hp.pending_of_ne hpending (Ne.symm hstays)
      · by_cases ha : a = .addUserClient u c
        · subst ha
          obtain hkick | hpending := hkeeps rfl hreg
          · exact absurd (hp.pending_of_ne hkick (by simp)) hdone
          · exact hp.pending_of_ne hpending (by simp)
        · exact absurd (hp.mem_of_ne hmem (Ne.symm ha)) hadd

/-- A voice state that comes up behind the kick belongs to a connection that is
to be disconnected from voice. -/
theorem Kicking.voiceState_perform (h : Kicking u k) {x : Choice} (hkeeps : KeepsKick k u x a)
    (hact : act k.shared x a = (w', acts)) (hp : system.Performs k t g a w' acts) :
    Goroutines.Pending (system.step k t) (.kickMember u) ∨
      (system.step k t).shared.hub.voiceStates.get? u = none ∨ ∃ c, Closing (system.step k t) u c := by
  obtain hpending | hnone | ⟨c, hclosing⟩ := h.voiceState
  · obtain rfl | hstill := hp.pending_or_eq hpending
    · cases hact
      refine .inr (.inl ?_)
      rw [hp.shared]
      exact ((k.shared.hub.kickMember_spec u).2.2.2.2.1 u).trans (if_pos rfl)
    · exact .inl hstill
  · rw [or_iff_not_imp_left]
    intro hdone
    have hchange := voiceChange_act k.shared x a u
    rw [hact, ← hp.shared, Hub.standing?, hnone] at hchange
    have hgone : ∀ hub : Hub, hub.standing? u = none → hub.voiceStates.get? u = none := by
      intro hub heq
      simpa [Hub.standing?] using heq
    generalize hst : (system.step k t).shared.hub.standing? u = st at hchange
    cases hchange with
    | kept => exact .inl (hgone _ hst)
    | left => exact .inl (hgone _ hst)
    | dropped => exact .inl (hgone _ hst)
    | @joined _ c room channel selfMuted selfDeafened h' ha hok hu =>
      right
      subst ha
      obtain ⟨rfl, -, hscript⟩ := h.orderly.script hp rfl
      obtain ⟨rest, htodo, hstep⟩ := hp.head
      rw [htodo] at hscript
      cases hscript with
      | joinVoice hauth hroom =>
        obtain ⟨hreg, -, hclients, -, hconn, -⟩ := Hub.joinVoice_ok hok
        simp only [act, hok, Prod.mk.injEq] at hact
        obtain ⟨rfl, rfl⟩ := hact
        have hpending : Goroutines.Pending k (.handleClientDisconnect c) := by
          obtain hkick | hall := h.clients
          · exact absurd (hp.pending_of_ne hkick (by simp)) hdone
          · obtain hpending | hmem := hall c hreg ⟨hauth, hu.symm⟩
            · exact hpending
            · rw [htodo] at hmem
              simp at hmem
        refine ⟨c, ?_, ?_, ?_, hp.pending_of_ne hpending (by simp), ?_⟩
        · rw [hp.shared, Hub.Registered, hclients]
          exact hreg
        · rw [hp.shared, Hub.AuthenticatedAs]
          simp only [hconn, Function.update_self]
          exact ⟨hauth, hu.symm⟩
        · rw [hp.shared]
          simp only [hconn, Function.update_self]
          exact UInt32.pos_iff_ne_zero.mpr hroom
        · intro b hb
          rw [hstep] at hb
          simp only [Function.update_self, List.append_nil, List.mem_singleton] at hb
          rw [hb]
          rfl
  · obtain hstill | ⟨-, hgone⟩ := hclosing.perform h.orderly hkeeps hact hp
    · exact .inr (.inr ⟨c, hstill⟩)
    · exact .inr (.inl hgone)

/-- Until the last `RemoveSession` of the user the media plane may hold anything
of the user; from then on it holds nothing. -/
theorem Kicking.session_perform (h : Kicking u k) {x : Choice} (hkeeps : KeepsKick k u x a)
    (hact : act k.shared x a = (w', acts)) (hp : system.Performs k t g a w' acts) :
    RemovalAhead (system.step k t) u ∨ (system.step k t).shared.sessions.Forgets u := by
  by_cases hahead : RemovalAhead k u
  · obtain hpending | hpending | ⟨c, hclosing⟩ := hahead
    · obtain rfl | hstill := hp.pending_or_eq hpending
      · cases hact
        exact .inl (.inr (.inl (hp.pending_of_mem List.mem_cons_self)))
      · exact .inl (.inl hstill)
    · obtain rfl | hstill := hp.pending_or_eq hpending
      · right
        cases hact
        rw [hp.shared]
        exact SessionManager.forgets_removeSession (hkeeps rfl)
      · exact .inl (.inr (.inl hstill))
    · obtain hstill | ⟨hpending, -⟩ := hclosing.perform h.orderly hkeeps hact hp
      · exact .inl (.inr (.inr ⟨c, hstill⟩))
      · exact .inl (.inr (.inl hpending))
  · right
    have hforgets : (act k.shared x a).1.sessions.Forgets u := by
      refine forgets_act (h.session.resolve_left hahead) h.owned x ?_ ?_
      · intro vt ha heq
        subst ha
        exact hahead (hkeeps heq)
      · intro s ha heq
        subst ha
        exact hahead (hkeeps heq)
    rwa [hact, ← hp.shared] at hforgets

theorem Kicking.tidy_perform (h : Kicking u k) {x : Choice} (hkeeps : KeepsKick k u x a)
    (hact : act k.shared x a = (w', acts)) (hp : system.Performs k t g a w' acts) (c : ClientID)
    (hmine' : (system.step k t).shared.hub.AuthenticatedAs u c) :
    (system.step k t).shared.hub.Tidy c := by
  have hidentity := identity_act k.shared x a c
  rw [hact, ← hp.shared] at hidentity
  have hbefore : k.shared.hub.Tidy c ∧
      ∀ v room, a = .moveMember v room → ¬ k.shared.hub.Listed v c := by
    obtain ⟨user, rfl, hconn⟩ | ⟨huser, hauth⟩ := hidentity
    · refine ⟨hkeeps ?_, by simp⟩
      rw [← hmine'.2, hconn]
      rfl
    · have hmine : k.shared.hub.AuthenticatedAs u c :=
        ⟨hauth.symm.trans hmine'.1, huser.symm.trans hmine'.2⟩
      refine ⟨h.tidy c hmine, ?_⟩
      intro v room ha hlisted
      subst ha
      exact hkeeps c hlisted hmine
  have htidy := tidy_act (x := x) (a := a) hbefore.1 ?_ hbefore.2
  · rwa [hact, ← hp.shared] at htidy
  · intro room channel selfMuted selfDeafened ha
    subst ha
    obtain ⟨rfl, -, hscript⟩ := h.orderly.script hp rfl
    obtain ⟨rest, htodo, -⟩ := hp.head
    rw [htodo] at hscript
    cases hscript with
    | joinVoice hauth hroom => exact ⟨hroom, hauth⟩

/-- One action that keeps the kick keeps the invariant. -/
theorem Kicking.perform (h : Kicking u k) (hok : KeepsKickAt u k t) (hp : system.Performs k t g a w' acts) :
    Kicking u (system.step k t) := by
  obtain ⟨x, hdoes, hact⟩ := exists_does hp
  have hkeeps : KeepsKick k u x a := hok a x hdoes
  exact ⟨h.orderly.perform hp, owned_performs h.owned hp, h.sessionRows_perform hkeeps hact hp,
    h.voiceTokens_perform hkeeps hact hp, h.clients_perform hkeeps hact hp,
    h.voiceState_perform hkeeps hact hp, h.session_perform hkeeps hact hp, h.tidy_perform hkeeps hact hp⟩

end step

omit [DecidableEq Addr] in
/-- No request that starts anew signs in on a connection of the user. -/
theorem signsIn_program {w : World Addr} {u : UInt32} {c : ClientID} {r : Request Addr}
    (hnew : ¬ StartsFor w u r) (hmine : w.hub.AuthenticatedAs u c) (howner : r.owner = .readPump c) :
    ∀ a ∈ program w r, a.signsIn = false := by
  intro a ha
  cases r with
  | auth c' token =>
    cases howner
    exact absurd (.inl hmine) hnew
  | login c' user | register c' user =>
    cases howner
    exact absurd (.inl hmine) hnew
  | serveWs | joinVoice | leaveVoice | setVoiceState | moveMember | setFlag | kickMember | hangUp |
    unregister | handshake | cleanup =>
    simp only [program, handle, gated, Request.connection?] at ha
    grind [Act.signsIn]

/-- A request that starts anew keeps the invariant. -/
theorem Kicking.serve {k : State Addr} {u : UInt32} (h : Kicking u k) {r : Request Addr}
    (hnew : ¬ StartsFor k.shared u r) (hidle : k.todo r.owner = []) :
    Kicking u { k with todo := Function.update k.todo r.owner (program k.shared r) } := by
  have hclosing : ∀ c, Closing k u c →
      Closing { k with todo := Function.update k.todo r.owner (program k.shared r) } u c := by
    intro c hc
    refine ⟨hc.registered, hc.mine, hc.active, hc.disconnect.serve hidle _, ?_⟩
    intro a ha
    by_cases howner : Routine.readPump c = r.owner
    · rw [howner] at ha
      simp only [Function.update_self] at ha
      exact signsIn_program hnew hc.mine howner.symm a ha
    · simp only [Function.update_of_ne howner] at ha
      exact hc.settled a ha
  refine ⟨h.orderly.serve r hidle, h.owned, h.sessionRows.imp_left (·.serve hidle _),
    h.voiceTokens.imp_left (·.serve hidle _), ?_, ?_, ?_, h.tidy⟩
  · obtain hpending | hall := h.clients
    · exact .inl (hpending.serve hidle _)
    · right
      intro c hreg hmine
      obtain hpending | hmem := hall c hreg hmine
      · exact .inl (hpending.serve hidle _)
      · exact .inr (Goroutines.mem_serve hmem hidle _)
  · obtain hpending | hnone | ⟨c, hc⟩ := h.voiceState
    · exact .inl (hpending.serve hidle _)
    · exact .inr (.inl hnone)
    · exact .inr (.inr ⟨c, hclosing c hc⟩)
  · obtain (hpending | hpending | ⟨c, hc⟩) | hforgets := h.session
    · exact .inl (.inl (hpending.serve hidle _))
    · exact .inl (.inr (.inl (hpending.serve hidle _)))
    · exact .inl (.inr (.inr ⟨c, hclosing c hc⟩))
    · exact .inr hforgets

/-- The invariant holds once the kick has been taken up. -/
theorem kicking_start {k : State Addr} {m : ClientID} {u : UInt32} (horderly : Orderly k)
    (howned : k.shared.sessions.Owned) (hkick : Kicks k m u)
    (htidy : ∀ c, k.shared.hub.AuthenticatedAs u c → k.shared.hub.Tidy c) :
    Kicking u (system.step k (.serve (.kickMember m u))) := by
  have hstep : system.step k (.serve (.kickMember m u)) =
      { k with todo := Function.update k.todo (.readPump m) (program k.shared (.kickMember m u)) } :=
    if_pos hkick.1
  have hpending : ∀ a ∈ program k.shared (.kickMember m u),
      Goroutines.Pending (system.step k (.serve (.kickMember m u))) a := by
    intro a ha
    rw [hstep]
    exact ⟨.readPump m, by simpa using ha⟩
  rw [hkick.2] at hpending
  have hdelete := hpending (.deleteUserSessions u) (by simp)
  have hrevoke := hpending (.revokeVoiceTokens u) (by simp)
  have hregion := hpending (.kickMember u) (by simp)
  have horderly' := horderly.serve (.kickMember m u) hkick.1
  refine ⟨?_, ?_, .inl hdelete, .inl hrevoke, .inl hregion, .inl hregion, .inl (.inl hregion), ?_⟩
  · rw [hstep]
    exact horderly'
  · rw [hstep]
    exact howned
  · rw [hstep]
    exact htidy

/-- The invariant once all requests have finished. -/
theorem Kicking.nothingLeft {k : State Addr} {u : UInt32} (h : Kicking u k) (hquiet : Quiet k) :
    NothingLeft k.shared u := by
  have hclients : ∀ c, k.shared.hub.Registered c → ¬ k.shared.hub.AuthenticatedAs u c := by
    intro c hreg hmine
    obtain hpending | hmem := h.clients.resolve_left (hquiet.not_pending _) c hreg hmine
    · exact hquiet.not_pending _ hpending
    · rw [hquiet] at hmem
      cases hmem
  have hclosing : ¬ ∃ c, Closing k u c := by
    intro hc
    obtain ⟨c, hc⟩ := hc
    exact hclients c hc.registered hc.mine
  have hforgets : k.shared.sessions.Forgets u := by
    refine h.session.resolve_left ?_
    intro hahead
    obtain hpending | hpending | hc := hahead
    · exact hquiet.not_pending _ hpending
    · exact hquiet.not_pending _ hpending
    · exact hclosing hc
  refine ⟨hclients, ?_, ?_, hforgets, ?_, h.sessionRows.resolve_left (hquiet.not_pending _),
    h.voiceTokens.resolve_left (hquiet.not_pending _)⟩
  · exact (h.voiceState.resolve_left (hquiet.not_pending _)).resolve_right hclosing
  · intro room c hroom hmine
    obtain ⟨-, -, hreg, -⟩ := h.tidy c hmine room hroom
    exact hclients c hreg hmine
  · intro a ref hr
    exact hforgets.1.addr h.owned hr

/-- In every run in which a kick is taken up, no sign-in or join of the user
starts afterwards and every step keeps the kick, nothing of the user is left
once all requests have finished. -/
theorem nothingLeft_of_kickKept (voiceTokens : VoiceTokens) (userSessions : UserSessions)
    (pre : List (Turn Addr)) (m : ClientID) (u : UInt32) (rest : List (Turn Addr))
    (hkick : Kicks (after (World.new voiceTokens userSessions) pre) m u)
    (hnone : NoneStarts (World.new voiceTokens userSessions) pre m u rest)
    (hkept : KickKept (World.new voiceTokens userSessions) pre m u rest)
    (hquiet : Quiet (after (World.new voiceTokens userSessions) (kicked pre m u rest))) :
    NothingLeft (after (World.new voiceTokens userSessions) (kicked pre m u rest)).shared u := by
  have hrun : ∀ mid, after (World.new voiceTokens userSessions) (kicked pre m u mid) =
      system.machine.run (system.step (after (World.new voiceTokens userSessions) pre)
        (.serve (.kickMember m u))) mid := by
    intro mid
    rw [after, kicked, Machine.run_append, Machine.run_cons]
    rfl
  have hkicking : Kicking u (after (World.new voiceTokens userSessions) (kicked pre m u rest)) := by
    rw [hrun]
    refine system.run_rule
      (fun k t => KeepsKickAt u k t ∧ ∀ r, t = .serve r → ¬ StartsFor k.shared u r) (Kicking u)
      (kicking_start (orderly_after _ _ pre) (owned_after _ _ pre) hkick hkept.start) ?_ ?_ rest ?_
    · intro k r hinv hok hidle
      exact hinv.serve (hok.2 r rfl) hidle
    · intro k t g a w' acts hinv hok hp
      exact hinv.perform hok.1 hp
    · intro mid t post heq
      have hsteps := hkept.steps mid t post heq
      have hstarts := hnone mid t post heq
      simp only [hrun] at hsteps hstarts
      exact ⟨hsteps, hstarts⟩
  exact hkicking.nothingLeft hquiet

/-- Connection 9 logs in as user 3, who may kick. -/
def moderator : List (Turn Nat) :=
  [.serve (.serveWs 1 9), .advance (.accept 1) (calm []), .serve (.login 9 ⟨3, "mod", permKickMembers⟩),
    .advance (.readPump 9) (calm [0x6d]), .advance (.readPump 9) (calm []), .advance (.readPump 9) (calm [])]

/-- The kick of a user with one connection in voice runs to its end. -/
def kickRuns : List (Turn Nat) := List.replicate 6 (.advance (.readPump 9) (calm []))

theorem noneStarts_of_advance {w : World Nat} {pre rest : List (Turn Nat)} {m : ClientID} {u : UInt32}
    (h : ∀ t ∈ rest, ∃ g x, t = .advance g x) : NoneStarts w pre m u rest := by
  intro mid t post heq r hserve
  obtain ⟨g, x, hadvance⟩ := h t (by simp [heq])
  rw [hserve] at hadvance
  cases hadvance

theorem kickKept_joined : KickKept (World.new ∅ ∅) (moderator ++ joined) 9 7 kickRuns where
  start := by
    intro c _
    refine tidy_after ∅ ∅ (moderator ++ joined) ?_
    simp only [NeverMoved, moderator, joined, List.cons_append, List.nil_append, Machine.along_cons_iff]
    refine ⟨?_, ?_, ?_, ?_, ?_, ?_, ?_, ?_, ?_, ?_, ?_, ?_, ?_, ?_, ?_, ?_, ?_, Machine.along_nil⟩
    all_goals
      intro x v room hdoes
      obtain ⟨g, rest, hturn, htodo⟩ := hdoes
      cases hturn <;> cases htodo
  steps := by
    simp only [kickRuns, List.replicate, Machine.along_cons_iff]
    refine ⟨?_, ?_, ?_, ?_, ?_, ?_, Machine.along_nil⟩
    all_goals
      intro a x hdoes
      obtain ⟨g, rest, hturn, htodo⟩ := hdoes
      cases hturn
      cases htodo
    case refine_1 | refine_2 =>
      intro _ hfault
      cases hfault
    case refine_4 | refine_6 => exact fun _ room hne => absurd rfl hne
    all_goals trivial

theorem nothingLeft_of_kickKept_joined :
    NothingLeft (after (World.new ∅ ∅) (kicked (moderator ++ joined) 9 7 kickRuns)).shared 7 :=
  nothingLeft_of_kickKept ∅ ∅ (moderator ++ joined) 9 7 kickRuns ⟨rfl, rfl⟩
    (noneStarts_of_advance (by simp [kickRuns])) kickKept_joined (system.quiet_of_all _ rfl)

/-- A `join_voice` that has left the hub region issues its token behind the kick. -/
theorem join_in_progress_outlives_kick :
    ¬ ∀ (pre rest : List (Turn Nat)) (m : ClientID) (u : UInt32), Kicks (after (World.new ∅ ∅) pre) m u →
      NoneStarts (World.new ∅ ∅) pre m u rest → Quiet (after (World.new ∅ ∅) (kicked pre m u rest)) →
      NothingLeft (after (World.new ∅ ∅) (kicked pre m u rest)).shared u := by
  intro hall
  have hleft := hall (moderator ++ joined.take 9)
    (kickRuns ++ [.advance (.readPump 1) (calm [0x78]), .advance (.readPump 1) (calm [])]) 9 7 ⟨rfl, rfl⟩
    (noneStarts_of_advance (by simp [kickRuns])) (system.quiet_of_all _ rfl)
  exact hleft.sessions.2 [0x78] _ rfl rfl

end low_latency_voice.control.server

import LowLatencyVoice.Client.WebSocketService

namespace low_latency_voice.client.WebSocketService

/-- The channel is open or listened to. -/
def InUse (s : WebSocketService) (channel : AttemptID) : Prop :=
  s.channels channel = .established ∨ s.listened channel = true

/-- The service is disconnected, and no timer is set to change that. -/
def ShutDown (s : WebSocketService) : Prop := s.status = .disconnected ∧ s.reconnectTimer = false

/-- The call runs `disconnect()`. -/
def Disconnects (dart : DartLibrary) (s : WebSocketService) : ServiceCall → Prop
  | .disconnect | .dispose => True
  | .configure host port _ => (retarget dart s host port).2 = true
  | .connect host port force => ((retarget dart s host port).2 || force) = true
  | _ => False

/-- The call is one of `connect()` by the application. -/
def connects : ServiceCall → Bool
  | .connect _ _ _ => true
  | _ => false

/-- One connection at a time; `disconnect()` leaves no channel open; and from
then on the service stays disconnected until the application connects. -/
structure Lifecycle (dart : DartLibrary) (ts : List Turn) : Prop where
  single : ∀ pre post, ts = pre ++ post → ∀ channel channel', InUse (after dart pre).shared channel →
    InUse (after dart pre).shared channel' → channel = channel'
  closed : ∀ pre t post c x, ts = pre ++ t :: post → Goroutines.Does (after dart pre) t (.call c) x →
    Disconnects dart (after dart pre).shared c →
    ∀ channel, (after dart (pre ++ [t])).shared.channels channel ≠ .established
  final : ∀ pre t mid post c x, ts = pre ++ t :: (mid ++ post) →
    Goroutines.Does (after dart pre) t (.call c) x → Disconnects dart (after dart pre).shared c →
    connects c = false →
    Machine.Along (fun front t' => ∀ c' x', Goroutines.Does (after dart (pre ++ t :: front)) t' (.call c') x' →
      connects c' = false) mid →
    (after dart (pre ++ t :: mid)).shared.status = .disconnected

/-- The call that resumes has not been superseded. A handshake finds its own
completer in place; one that failed, a sign-in or a retry finds that the service
was not shut down in between, and the retry that no other attempt has begun. -/
def Unsuperseded (s : WebSocketService) (x : Handshake) : ServiceAct → Prop
  | .ready channel =>
    match x with
    | .succeeded => s.connectingCompleter = some channel ∧ s.completers channel = .pending
    | .failed | .timedOut => ¬ ShutDown s
  | .connecting completer =>
    s.completers completer = .failed → s.status = .disconnected ∧ s.reconnectTimer = true
  | .authenticated _ request _ =>
    s.requests request = .completed ∨ s.requests request = .failed → ¬ ShutDown s
  | .signedIn request _ => s.requests request = .completed → ¬ ShutDown s
  | .call (.lateHandshake channel) => s.channels channel ≠ .abandoned
  | .call _ => True

/-- No call that resumes has been superseded, and no handshake succeeds after
the four seconds. -/
def NoneSuperseded (dart : DartLibrary) (ts : List Turn) : Prop :=
  Machine.Along (fun pre t => ∀ a x, Goroutines.Does (after dart pre) t a x →
    Unsuperseded (after dart pre).shared x a) ts

/-- No open channel and no subscription is lost. -/
structure Tracked (s : WebSocketService) : Prop where
  channel : ∀ channel, s.channels channel = .established → s.channel = some channel
  subscription : ∀ channel, s.listened channel = true → s.subscription = some channel

/-- What holds in every state: the one channel that is open is the one that is
listened to, and a pending attempt finds none. -/
structure Sound (s : WebSocketService) : Prop where
  established : ∀ channel, s.channels channel = .established ↔ s.channel = some channel
  listened : ∀ channel, s.listened channel = true ↔ s.channel = some channel
  subscription : s.subscription = s.channel
  idle : s.status = .disconnected → s.channel = none ∧ s.connectingCompleter = none
  pending : ∀ channel, s.connectingCompleter = some channel → s.completers channel = .pending →
    s.channel = none

theorem Sound.tracked {s : WebSocketService} (h : Sound s) : Tracked s where
  channel := fun channel => (h.established channel).mp
  subscription := by
    intro channel hlistened
    rw [h.subscription]
    exact (h.listened channel).mp hlistened

theorem sound_new : Sound new := by
  constructor <;> simp [new]

theorem ChannelState.close_ne_established (state : ChannelState) : state.close ≠ .established := by
  cases state <;> simp [ChannelState.close]

/-- The cleanup leaves nothing in use. -/
theorem Tracked.cleanupConnection {s : WebSocketService} (h : Tracked s) : Sound s.cleanupConnection := by
  have hchannels : ∀ channel, s.cleanupConnection.channels channel ≠ .established := by
    intro channel hopen
    simp only [WebSocketService.cleanupConnection] at hopen
    cases hcurrent : s.channel with
    | none =>
      rw [hcurrent] at hopen
      rw [h.channel channel hopen] at hcurrent
      cases hcurrent
    | some current =>
      simp only [hcurrent] at hopen
      by_cases hc : channel = current
      · subst hc
        rw [Function.update_self] at hopen
        exact ChannelState.close_ne_established _ hopen
      · rw [Function.update_of_ne hc] at hopen
        rw [h.channel channel hopen] at hcurrent
        exact hc (Option.some.inj hcurrent)
  have hlistened : ∀ channel, s.cleanupConnection.listened channel ≠ true := by
    intro channel hheard
    simp only [WebSocketService.cleanupConnection] at hheard
    cases hcurrent : s.subscription with
    | none =>
      rw [hcurrent] at hheard
      rw [h.subscription channel hheard] at hcurrent
      cases hcurrent
    | some current =>
      simp only [hcurrent] at hheard
      by_cases hc : channel = current
      · subst hc
        rw [Function.update_self] at hheard
        cases hheard
      · rw [Function.update_of_ne hc] at hheard
        rw [h.subscription channel hheard] at hcurrent
        exact hc (Option.some.inj hcurrent)
  constructor
  · exact fun channel => iff_of_false (hchannels channel) (by simp [WebSocketService.cleanupConnection])
  · exact fun channel => iff_of_false (hlistened channel) (by simp [WebSocketService.cleanupConnection])
  · rfl
  · exact fun _ => ⟨rfl, rfl⟩
  · exact fun _ _ _ => rfl

theorem Tracked.onError {s : WebSocketService} (h : Tracked s) : Sound s.onError := by
  have hclean := h.cleanupConnection
  unfold WebSocketService.onError WebSocketService.scheduleReconnect
  simp only
  split
  · exact ⟨hclean.established, hclean.listened, hclean.subscription, hclean.idle, hclean.pending⟩
  · split
    · exact hclean
    · exact ⟨hclean.established, hclean.listened, hclean.subscription, hclean.idle, hclean.pending⟩

theorem Tracked.disconnect {s : WebSocketService} (h : Tracked s) : Sound s.disconnect :=
  Tracked.cleanupConnection ⟨h.channel, h.subscription⟩

theorem Sound.finish {s : WebSocketService} (h : Sound s) (completer : AttemptID) :
    Sound (s.finish completer) := by
  unfold WebSocketService.finish
  split
  · refine ⟨h.established, h.listened, h.subscription, ?_, ?_⟩
    · exact fun hidle => ⟨(h.idle hidle).1, rfl⟩
    · intro channel hnone
      cases hnone
  · exact h

theorem Tracked.fail {s : WebSocketService} (h : Tracked s) (completer : AttemptID) :
    Sound (s.fail completer) := by
  have hfailed : Tracked { s with
      completers := Function.update s.completers completer (s.completers completer).completeError } :=
    ⟨h.channel, h.subscription⟩
  exact hfailed.onError.finish completer

/-- A channel that comes to nothing is none to keep track of. -/
theorem Tracked.setChannel {s : WebSocketService} (h : Tracked s) {channel : AttemptID}
    {state : ChannelState} (hstate : state ≠ .established) :
    Tracked { s with channels := Function.update s.channels channel state } where
  channel := by
    intro channel' hopen
    by_cases hc : channel' = channel
    · subst hc
      simp only [Function.update_self] at hopen
      exact absurd hopen hstate
    · simp only [Function.update_of_ne hc] at hopen
      exact h.channel channel' hopen
  subscription := h.subscription

theorem Sound.attempt {s : WebSocketService} (h : Sound s) (hnone : s.channel = none) :
    Sound s.attempt.1 := by
  refine ⟨?_, h.listened, h.subscription, ?_, ?_⟩
  · intro channel
    simp only [WebSocketService.attempt, hnone, reduceCtorEq, iff_false]
    by_cases hc : channel = s.allocated
    · subst hc
      simp
    · rw [Function.update_of_ne hc, h.established, hnone]
      simp
  · intro hidle
    cases hidle
  · exact fun _ _ _ => hnone

theorem Sound.retarget {s : WebSocketService} (h : Sound s) (dart : DartLibrary)
    (host : Option (List Char)) (port : Option Int) :
    Sound (WebSocketService.retarget dart s host port).1 := by
  unfold WebSocketService.retarget
  split
  · exact h
  · exact ⟨h.established, h.listened, h.subscription, h.idle, h.pending⟩

theorem Sound.connect {s : WebSocketService} (h : Sound s) (dart : DartLibrary)
    (host : Option (List Char)) (port : Option Int) (force : Bool) :
    Sound (s.connect dart host port force).1 := by
  have htarget := h.retarget dart host port
  unfold WebSocketService.connect
  simp only
  split
  · exact htarget.tracked.disconnect.attempt rfl
  · split
    · exact htarget
    · exact htarget
    · split <;> exact htarget
    · rename_i hidle
      exact htarget.attempt (htarget.idle hidle).1

/-- The handshake of the current attempt makes the one open channel. -/
theorem Sound.opened {s : WebSocketService} (h : Sound s) {channel : AttemptID}
    (hcurrent : s.connectingCompleter = some channel) (hpending : s.completers channel = .pending) :
    Sound (s.opened channel).1 := by
  have hnone := h.pending channel hcurrent hpending
  have hbefore : ∀ channel', s.channels channel' ≠ .established := by
    intro channel' hopen
    rw [h.established, hnone] at hopen
    cases hopen
  have hunheard : ∀ channel', s.listened channel' ≠ true := by
    intro channel' hheard
    rw [h.listened, hnone] at hheard
    cases hheard
  have hsound : Sound { s with
      channels := Function.update s.channels channel .established
      channel := some channel
      status := .connected
      subscription := some channel
      listened := Function.update s.listened channel true
      completers := Function.update s.completers channel (s.completers channel).complete } := by
    constructor
    · intro channel'
      by_cases hc : channel' = channel
      · simp [hc]
      · simp only [Function.update_of_ne hc]
        exact iff_of_false (hbefore channel') fun heq => hc (Option.some.inj heq).symm
    · intro channel'
      by_cases hc : channel' = channel
      · simp [hc]
      · simp only [Function.update_of_ne hc]
        exact iff_of_false (hunheard channel') fun heq => hc (Option.some.inj heq).symm
    · rfl
    · intro hidle
      cases hidle
    · intro channel' hcurrent' hpending'
      have heq : channel = channel' := Option.some.inj (hcurrent.symm.trans hcurrent')
      subst heq
      simp [hpending, Completer.complete] at hpending'
  unfold WebSocketService.opened
  simp only
  split
  · exact hsound.finish channel
  · exact hsound.finish channel
  · exact ⟨hsound.established, hsound.listened, hsound.subscription, hsound.idle, hsound.pending⟩

theorem Sound.drop {s : WebSocketService} (h : Sound s) (channel : AttemptID) (closeCode : Option Nat) :
    Sound (s.drop channel closeCode) := by
  unfold WebSocketService.drop
  simp only
  split
  · rename_i hopen
    have hcurrent := (h.established channel).mp hopen
    rw [if_pos ((h.listened channel).mpr hcurrent)]
    refine Tracked.onError ⟨(h.tracked.setChannel (by simp)).channel, ?_⟩
    intro channel' hheard
    by_cases hc : channel' = channel
    · subst hc
      simp only [Function.update_self] at hheard
      cases hheard
    · simp only [Function.update_of_ne hc] at hheard
      exact h.tracked.subscription channel' hheard
  · exact h

theorem Sound.call {s : WebSocketService} (h : Sound s) (dart : DartLibrary) {c : ServiceCall}
    (hc : ∀ channel, c = .lateHandshake channel → s.channels channel ≠ .abandoned) :
    Sound (s.call dart c).1 := by
  cases c with
  | configure host port token =>
    have htarget := Sound.retarget (s := { s with sessionToken := token.or s.sessionToken })
      ⟨h.established, h.listened, h.subscription, h.idle, h.pending⟩ dart host port
    simp only [WebSocketService.call, WebSocketService.configure]
    split
    · exact htarget.tracked.disconnect
    · exact htarget
  | connect host port force => exact h.connect dart host port force
  | disconnect => exact h.tracked.disconnect
  | dispose => exact Tracked.disconnect ⟨h.tracked.channel, h.tracked.subscription⟩
  | signIn token =>
    simp only [WebSocketService.call, WebSocketService.signIn]
    split
    · exact h
    · exact ⟨h.established, h.listened, h.subscription, h.idle, h.pending⟩
  | reconnectTimer =>
    simp only [WebSocketService.call, WebSocketService.reconnect]
    split
    · exact h
    · split
      · rename_i hidle
        exact Sound.attempt ⟨h.established, h.listened, h.subscription, h.idle, h.pending⟩ (h.idle hidle).1
      · exact ⟨h.established, h.listened, h.subscription, h.idle, h.pending⟩
  | response request ok => exact ⟨h.established, h.listened, h.subscription, h.idle, h.pending⟩
  | dropped channel closeCode => exact h.drop channel closeCode
  | lateHandshake channel =>
    simp only [WebSocketService.call, WebSocketService.lateHandshake, if_neg (hc channel rfl)]
    exact h

theorem Sound.signedIn {s : WebSocketService} (h : Sound s) (token : Option (List Char)) :
    Sound (s.signedIn token) := by
  refine ⟨h.established, h.listened, h.subscription, ?_, h.pending⟩
  intro hidle
  cases hidle

/-- One step of a call keeps the connection sound. -/
theorem Sound.perform {dart : DartLibrary} {s s' : WebSocketService} {x : Handshake} {a : ServiceAct}
    {acts : List ServiceAct} (h : Sound s) (hok : Unsuperseded s x a)
    (hperform : s.perform dart x a = some (s', acts)) : Sound s' := by
  cases a with
  | call c =>
    have hcall : s.call dart c = (s', acts) := Option.some.inj hperform
    have hsound := h.call dart (c := c) ?_
    · rwa [hcall] at hsound
    · intro channel hc
      subst hc
      exact hok
  | connecting completer =>
    simp only [WebSocketService.perform] at hperform
    split at hperform
    · cases hperform
      exact h
    · rename_i hfailed
      cases hperform
      exact h.attempt (h.idle (hok hfailed).1).1
    · cases hperform
    · cases hperform
  | ready channel =>
    cases x with
    | succeeded =>
      simp only [WebSocketService.perform, Option.some.injEq] at hperform
      have hopened := h.opened hok.1 hok.2
      rwa [hperform] at hopened
    | failed | timedOut =>
      cases hperform
      exact (h.tracked.setChannel (by simp)).fail channel
  | authenticated channel request token =>
    simp only [WebSocketService.perform] at hperform
    split at hperform
    · cases hperform
      exact (h.signedIn _).finish channel
    · cases hperform
      exact h.tracked.fail channel
    · cases hperform
    · cases hperform
  | signedIn request token =>
    simp only [WebSocketService.perform] at hperform
    split at hperform
    · cases hperform
      exact h.signedIn token
    · cases hperform
      exact h
    · cases hperform
    · cases hperform

theorem retarget_fields (dart : DartLibrary) (s : WebSocketService) (host : Option (List Char))
    (port : Option Int) : (retarget dart s host port).1.status = s.status ∧
      (retarget dart s host port).1.reconnectTimer = s.reconnectTimer := by
  unfold retarget
  split <;> exact ⟨rfl, rfl⟩

/-- Whatever ran `disconnect()` is left without a channel. -/
theorem channel_of_disconnects {dart : DartLibrary} {s : WebSocketService} {c : ServiceCall}
    (h : Disconnects dart s c) : (s.call dart c).1.channel = none := by
  cases c with
  | configure host port token =>
    have hchanged : (retarget dart { s with sessionToken := token.or s.sessionToken } host port).2 = true := by
      rw [← h]
      unfold retarget
      split <;> rfl
    simp only [call, configure, hchanged, if_true]
    rfl
  | connect host port force =>
    have hforced : ((retarget dart s host port).2 || force) = true := h
    simp only [call, connect, hforced, if_true]
    rfl
  | disconnect | dispose => rfl
  | signIn | reconnectTimer | response | dropped | lateHandshake => cases h

/-- Unless it is a `connect`, it leaves the service shut down. -/
theorem shutDown_of_disconnects {dart : DartLibrary} {s : WebSocketService} {c : ServiceCall}
    (h : Disconnects dart s c) (hc : connects c = false) : ShutDown (s.call dart c).1 := by
  cases c with
  | configure host port token =>
    have hchanged : (retarget dart { s with sessionToken := token.or s.sessionToken } host port).2 = true := by
      rw [← h]
      unfold retarget
      split <;> rfl
    simp only [call, configure, hchanged, if_true]
    exact ⟨rfl, rfl⟩
  | connect host port force => cases hc
  | disconnect | dispose => exact ⟨rfl, rfl⟩
  | signIn | reconnectTimer | response | dropped | lateHandshake => cases h

/-- Only `connect` ends a shutdown. -/
theorem ShutDown.call {s : WebSocketService} (h : ShutDown s) (hsound : Sound s) (dart : DartLibrary)
    {c : ServiceCall} (hc : connects c = false)
    (hlate : ∀ channel, c = .lateHandshake channel → s.channels channel ≠ .abandoned) :
    ShutDown (s.call dart c).1 := by
  have hnone := (hsound.idle h.1).1
  cases c with
  | configure host port token =>
    obtain ⟨hstatus, htimer⟩ :=
      retarget_fields dart { s with sessionToken := token.or s.sessionToken } host port
    simp only [WebSocketService.call, configure]
    split
    · exact ⟨rfl, rfl⟩
    · exact ⟨hstatus.trans h.1, htimer.trans h.2⟩
  | connect host port force => cases hc
  | disconnect | dispose => exact ⟨rfl, rfl⟩
  | signIn token =>
    simp only [WebSocketService.call, signIn, if_pos hnone]
    exact h
  | reconnectTimer =>
    simp only [WebSocketService.call, reconnect, if_pos h.2]
    exact h
  | response request ok => exact h
  | dropped channel closeCode =>
    have hclosed : s.channels channel ≠ .established := by
      rw [Ne, hsound.established, hnone]
      simp
    simp only [WebSocketService.call, WebSocketService.drop, if_neg hclosed]
    exact h
  | lateHandshake channel =>
    simp only [WebSocketService.call, WebSocketService.lateHandshake, if_neg (hlate channel rfl)]
    exact h

theorem ShutDown.perform {dart : DartLibrary} {s s' : WebSocketService} {x : Handshake} {a : ServiceAct}
    {acts : List ServiceAct} (h : ShutDown s) (hsound : Sound s) (hok : Unsuperseded s x a)
    (hc : ∀ c, a = .call c → connects c = false) (hperform : s.perform dart x a = some (s', acts)) :
    ShutDown s' := by
  cases a with
  | call c =>
    have hcall : s.call dart c = (s', acts) := Option.some.inj hperform
    have hshut := h.call hsound dart (hc c rfl) ?_
    · rwa [hcall] at hshut
    · intro channel hlate
      subst hlate
      exact hok
  | connecting completer =>
    simp only [WebSocketService.perform] at hperform
    split at hperform
    · cases hperform
      exact h
    · rename_i hfailed
      have hscheduled := (hok hfailed).2
      rw [h.2] at hscheduled
      cases hscheduled
    · cases hperform
    · cases hperform
  | ready channel =>
    cases x with
    | succeeded =>
      have hcurrent := hok.1
      rw [(hsound.idle h.1).2] at hcurrent
      cases hcurrent
    | failed | timedOut => exact absurd h hok
  | authenticated channel request token =>
    simp only [WebSocketService.perform] at hperform
    split at hperform
    · exact absurd h (hok (.inl ‹_›))
    · exact absurd h (hok (.inr ‹_›))
    · cases hperform
    · cases hperform
  | signedIn request token =>
    simp only [WebSocketService.perform] at hperform
    split at hperform
    · exact absurd h (hok ‹_›)
    · cases hperform
      exact h
    · cases hperform
    · cases hperform

/-- The connection is sound after every schedule that resumes no superseded call. -/
theorem sound_after {dart : DartLibrary} {ts : List Turn} (h : NoneSuperseded dart ts) :
    Sound (after dart ts).shared := by
  refine (system dart).run_rule
    (fun k t => ∀ a x, Goroutines.Does k t a x → Unsuperseded k.shared x a)
    (fun k => Sound k.shared) sound_new ?_ ?_ ts h
  · exact fun k r hsound _ _ => hsound
  · intro k t g a s' acts hsound hok hp
    obtain ⟨x, hdoes, hperform⟩ := hp.exists_does
    rw [hp.shared]
    exact hsound.perform (hok a x hdoes) hperform

/-- What a call does before its first `await`. -/
theorem shared_of_does_call {dart : DartLibrary} {k : State} {t : Turn} {c : ServiceCall} {x : Handshake}
    (h : Goroutines.Does k t (.call c) x) :
    ((system dart).step k t).shared = (k.shared.call dart c).1 := by
  obtain ⟨g, rest, rfl, htodo⟩ := h
  simp only [Goroutines.step, htodo, system, perform]

/-- In every run in which no call that resumes has been superseded, the service
has one connection at a time, closes what it opened, and stays disconnected. -/
theorem lifecycle_of_noneSuperseded (dart : DartLibrary) (ts : List Turn) (h : NoneSuperseded dart ts) :
    Lifecycle dart ts where
  single := by
    intro pre post hts channel channel' hused hused'
    subst hts
    have hsound := sound_after h.front
    have hcurrent : ∀ channel, InUse (after dart pre).shared channel →
        (after dart pre).shared.channel = some channel := by
      intro channel hused
      exact hused.elim (hsound.established channel).mp (hsound.listened channel).mp
    exact Option.some.inj ((hcurrent channel hused).symm.trans (hcurrent channel' hused'))
  closed := by
    intro pre t post c x hts hdoes hdisconnects channel hopen
    subst hts
    have hfront : NoneSuperseded dart (pre ++ [t]) := by
      have hsplit : pre ++ t :: post = (pre ++ [t]) ++ post := by simp
      rw [hsplit] at h
      exact h.front
    have hcurrent := ((sound_after hfront).established channel).mp hopen
    have hnone : (after dart (pre ++ [t])).shared.channel = none := by
      rw [after, Machine.run_concat]
      exact (congrArg WebSocketService.channel (shared_of_does_call hdoes)).trans
        (channel_of_disconnects hdisconnects)
    rw [hnone] at hcurrent
    cases hcurrent
  final := by
    intro pre t mid post c x hts hdoes hdisconnects hc hmid
    subst hts
    have hrun : ∀ front, after dart (pre ++ t :: front) =
        (system dart).machine.run ((system dart).step (after dart pre) t) front := by
      intro front
      rw [after, Machine.run_append, Machine.run_cons]
      rfl
    have hshut : Sound (after dart (pre ++ t :: mid)).shared ∧
        ShutDown (after dart (pre ++ t :: mid)).shared := by
      rw [hrun]
      refine (system dart).run_rule
        (fun k t => (∀ a x, Goroutines.Does k t a x → Unsuperseded k.shared x a) ∧
          ∀ c x, Goroutines.Does k t (.call c) x → connects c = false)
        (fun k => Sound k.shared ∧ ShutDown k.shared) ⟨?_, ?_⟩ ?_ ?_ mid ?_
      · have hfront : NoneSuperseded dart (pre ++ [t]) := by
          have hsplit : pre ++ t :: (mid ++ post) = (pre ++ [t]) ++ (mid ++ post) := by simp
          rw [hsplit] at h
          exact h.front
        have hsound := sound_after hfront
        rwa [hrun] at hsound
      · rw [shared_of_does_call hdoes]
        exact shutDown_of_disconnects hdisconnects hc
      · exact fun k r hinv _ _ => hinv
      · intro k t g a s' acts hinv hok hp
        obtain ⟨x, hdoes, hperform⟩ := hp.exists_does
        have hunsuperseded := hok.1 a x hdoes
        rw [hp.shared]
        refine ⟨hinv.1.perform hunsuperseded hperform, hinv.2.perform hinv.1 hunsuperseded ?_ hperform⟩
        intro c hcall
        subst hcall
        exact hok.2 c x hdoes
      · intro front t' rest hsplit
        rw [← hrun]
        refine ⟨h (pre ++ t :: front) t' (rest ++ post) (by simp [hsplit]), ?_⟩
        exact fun c x => hmid front t' rest hsplit c x
    exact hshut.2.1

/-- A library that leaves texts alone and reads no port. -/
def plainDart : DartLibrary where
  trim := id
  tryParse := fun _ => none

/-- The service connects, and disconnects once it is connected. -/
def connectsOnce : List Turn :=
  [.serve (0, .connect none none false), .advance 0 .succeeded, .advance 0 .succeeded,
    .serve (0, .disconnect), .advance 0 .succeeded]

theorem noneSuperseded_connectsOnce : NoneSuperseded plainDart connectsOnce := by
  simp only [NoneSuperseded, connectsOnce, Machine.along_cons_iff]
  refine ⟨?_, ?_, ?_, ?_, ?_, Machine.along_nil⟩
  all_goals
    intro a x hdoes
    obtain ⟨g, rest, hturn, htodo⟩ := hdoes
    cases hturn <;> cases htodo
  case refine_3 => exact ⟨rfl, rfl⟩
  all_goals trivial

theorem lifecycle_connectsOnce : Lifecycle plainDart connectsOnce :=
  lifecycle_of_noneSuperseded plainDart connectsOnce noneSuperseded_connectsOnce

/-- An attempt that is still opening connects the service after `disconnect()`. -/
theorem attempt_outlives_disconnect : ¬ ∀ ts : List Turn, Lifecycle plainDart ts := by
  intro hall
  have hstatus := (hall [.serve (0, .connect none none false), .advance 0 .succeeded,
    .serve (1, .disconnect), .advance 1 .succeeded, .advance 0 .succeeded]).final
    [.serve (0, .connect none none false), .advance 0 .succeeded, .serve (1, .disconnect)]
    (.advance 1 .succeeded) [.advance 0 .succeeded] [] .disconnect .succeeded rfl
    ⟨1, [], rfl, rfl⟩ trivial rfl ?_
  · cases hstatus
  · refine Machine.along_cons_iff.mpr ⟨?_, Machine.along_nil⟩
    intro c x hdoes
    obtain ⟨g, rest, hturn, htodo⟩ := hdoes
    cases hturn
    cases htodo

end low_latency_voice.client.WebSocketService

import LowLatencyVoice.Client.VoiceCalls

namespace low_latency_voice.client

open state (VoiceConnectionStatus)

/-- Nothing is captured or sent. -/
structure VoiceSession.Silent (s : VoiceSession) : Prop where
  captureSub : s.notifier.captureSub = false
  disconnected : s.notifier.voiceClient.isConnected = false
  engine : s.notifier.audioEngine.isCapturing = false
  native : s.notifier.audioEngine.hasLibrary = true → s.notifier.audioEngine.engine.capturing = false
  status : s.status = .disconnected

/-- `VoiceClient` sends what it is given, with the channel. -/
structure VoiceSession.SendsTo (s : VoiceSession) (channelId : UInt32) : Prop where
  connected : s.notifier.voiceClient.isConnected = true
  socket : s.notifier.voiceClient.hasSocket = true
  address : s.notifier.voiceClient.hasServerAddress = true
  channel : s.notifier.voiceClient.channelId = channelId

/-- The client shows the channel as connected and sends to it. -/
structure VoiceSession.ConnectedTo (s : VoiceSession) (channelId : UInt32) : Prop where
  status : s.status = .connected
  shown : s.connectedChannelId = some channelId
  sends : s.SendsTo channelId

/-- The last call has its way, unless it is a `joinVoice` that met an error, and
at most one socket is open. -/
structure VoiceWorld.LastIntentWins (w : VoiceWorld) : Prop where
  left : w.ledger.intent = .disconnect → w.session.Silent
  joined : ∀ channelId, w.ledger.intent = .join channelId → w.ledger.failed = false →
    w.session.ConnectedTo channelId
  socket : ∀ i j, w.session.openSockets i = true → w.session.openSockets j = true → i = j

theorem AudioEngineService.isCapturing_stopCapture (engine : AudioEngineService) :
    engine.stopCapture.isCapturing = false := by
  unfold AudioEngineService.stopCapture AudioEngineService.native
  split <;> rfl

theorem AudioEngineService.capturing_stopCapture (engine : AudioEngineService)
    (hlibrary : engine.stopCapture.hasLibrary = true) : engine.stopCapture.engine.capturing = false := by
  unfold AudioEngineService.stopCapture AudioEngineService.native at hlibrary ⊢
  split at hlibrary
  · rw [if_pos ‹_›]
    rfl
  · contradiction

namespace VoiceAct

/-- The call has not begun. -/
def starts : VoiceAct → Bool
  | .joinVoice _ | .disconnect => true
  | .joinAnswered _ _ | .clientDisconnected _ _ _ | .lookedUp _ _ | .socketBound _ _
  | .clientConnected _ _ | .connectFailed _ _ | .left _ | .released _ => false

/-- A `joinVoice` behind the server's answer. -/
def joining : VoiceAct → Bool
  | .clientDisconnected _ _ _ | .lookedUp _ _ | .socketBound _ _ | .clientConnected _ _
  | .connectFailed _ _ => true
  | _ => false

/-- A `disconnect` behind the server's answer. -/
def releasing : VoiceAct → Bool
  | .released _ => true
  | _ => false

/-- The ticket of a call that has begun. -/
def ticket? : VoiceAct → Option Ticket
  | .joinVoice _ | .disconnect => none
  | .joinAnswered ticket _ | .clientDisconnected ticket _ _ | .lookedUp ticket _ | .socketBound ticket _
  | .clientConnected ticket _ | .connectFailed ticket _ | .left ticket | .released ticket => some ticket

/-- The channel a `joinVoice` behind the answer is for. -/
def channel? : VoiceAct → Option UInt32
  | .clientDisconnected _ _ channelId | .lookedUp _ channelId | .socketBound _ channelId
  | .clientConnected _ channelId | .connectFailed _ channelId => some channelId
  | _ => none

end VoiceAct

namespace VoiceWorld

/-- The call does not resume into the work of another one. A `joinVoice` gets
behind the answer while the user is signed in, no other call is behind it and no
later one has been; a `disconnect` while no `joinVoice` is behind it and no later
one has been; a `joinVoice` fails while the client is not connected, and returns
at once while nothing else is in progress. -/
def InTurn (k : State) (x : VoiceChoice) : VoiceAct → Prop
  | .joinVoice channelId =>
    k.shared.session.connectedTo channelId = true → ∀ a, Goroutines.Pending k a → a.starts = true
  | .joinAnswered ticket _ =>
    if x.ok then
      x.user ≠ none ∧ k.shared.ledger.answered < ticket ∧
        ∀ a, Goroutines.Pending k a → a.joining = false ∧ a.releasing = false
    else k.shared.session.status ≠ .connected
  | .left ticket =>
    k.shared.ledger.joined < ticket ∧ ∀ a, Goroutines.Pending k a → a.joining = false
  | _ => True

/-- Every step of the schedule is in turn. -/
def AllInTurn (w : VoiceWorld) (ts : List Turn) : Prop :=
  Machine.Along (fun pre t => ∀ a x, Goroutines.Does (after w pre) t a x → InTurn (after w pre) x a) ts

/-- What a `joinVoice` behind the answer finds when it resumes. -/
def Underway (s : VoiceSession) : VoiceAct → Prop
  | .clientDisconnected _ _ _ => s.socket = none
  | .lookedUp _ channelId => s.socket = none ∧ s.notifier.voiceClient.channelId = channelId
  | .socketBound _ channelId =>
    s.socket = none ∧ s.notifier.voiceClient.channelId = channelId ∧
      s.notifier.voiceClient.hasServerAddress = true
  | .clientConnected _ channelId => s.SendsTo channelId
  | _ => True

/-- No call is behind the server's answer. -/
def Undisturbed (k : State) : Prop :=
  ∀ a, Goroutines.Pending k a → a.joining = false ∧ a.releasing = false

/-- The last call is a `disconnect` behind the answer, and no `joinVoice` comes there. -/
structure Leaving (k : State) : Prop where
  answered : k.shared.ledger.answered = k.shared.ledger.started
  alone : ∀ a, Goroutines.Pending k a → a.joining = false
  captureSub : k.shared.session.notifier.captureSub = false
  disconnected : k.shared.session.notifier.voiceClient.isConnected = false
  ending : Goroutines.Pending k (.released k.shared.ledger.started) ∨ k.shared.session.Silent

/-- The last call is a `joinVoice` behind the answer, and no other call comes there. -/
structure Joining (k : State) (channelId : UInt32) : Prop where
  joined : k.shared.ledger.joined = k.shared.ledger.started
  answered : k.shared.ledger.answered = k.shared.ledger.started
  ending : (∃ a, Goroutines.Pending k a ∧ a.joining = true ∧ a.ticket? = some k.shared.ledger.started ∧
      a.channel? = some channelId) ∨
    Undisturbed k ∧ k.shared.session.ConnectedTo channelId

/-- How far the last call has come. -/
def Progress (k : State) : Prop :=
  match k.shared.ledger.intent with
  | .nothing => True
  | .disconnect => Goroutines.Pending k (.left k.shared.ledger.started) ∨ Leaving k
  | .join channelId =>
    k.shared.ledger.failed = true ∨
      Goroutines.Pending k (.joinAnswered k.shared.ledger.started channelId) ∨ Joining k channelId

/-- What holds in every state: a call has a ticket of its own, and what is behind
the answer is one `joinVoice` or any number of `disconnect`s. -/
structure Ordered (k : State) : Prop where
  single : Goroutines.Single k
  begun : ∀ g a ticket, a ∈ k.todo g → a.ticket? = some ticket → ticket ≤ k.shared.ledger.started
  owner : ∀ g g' a a' ticket, a ∈ k.todo g → a' ∈ k.todo g' → a.ticket? = some ticket →
    a'.ticket? = some ticket → g = g'
  alone : ∀ g g' a a', a ∈ k.todo g → a' ∈ k.todo g' → a.joining = true →
    a'.joining = true ∨ a'.releasing = true → g = g'
  answered : k.shared.ledger.answered ≤ k.shared.ledger.started
  sockets : ∀ i, k.shared.session.openSockets i = true → k.shared.session.socket = some i
  underway : ∀ g a, a ∈ k.todo g → Underway k.shared.session a
  steady : k.shared.session.status = .connected →
    (∃ a, Goroutines.Pending k a ∧ (a.joining = true ∨ a.releasing = true)) ∨
      ∃ channelId, k.shared.session.ConnectedTo channelId
  progress : Progress k

section perform

variable {w : VoiceWorld} {x : VoiceChoice} {a b : VoiceAct}

theorem length_perform (w : VoiceWorld) (x : VoiceChoice) (a : VoiceAct) :
    (w.perform x a).2.length ≤ 1 := by
  cases a <;> simp only [perform] <;> repeat' split
  all_goals simp

theorem started_perform (w : VoiceWorld) (x : VoiceChoice) (a : VoiceAct) :
    (w.perform x a).1.ledger.started = if a.starts then w.ledger.started + 1 else w.ledger.started := by
  cases a <;> simp only [perform, VoiceAct.starts] <;> repeat' split
  all_goals first | rfl | simp_all

/-- A call keeps its ticket, and takes the next one when it begins. -/
theorem ticket?_of_mem_perform (hb : b ∈ (w.perform x a).2) :
    b.ticket? = if a.starts then some (w.ledger.started + 1) else a.ticket? := by
  cases a <;> simp only [perform, VoiceAct.starts] at hb ⊢ <;> repeat' split at hb
  all_goals simp_all [VoiceAct.ticket?, start]

theorem joining_of_mem_perform (hb : b ∈ (w.perform x a).2) (hjoining : b.joining = true) :
    a.joining = true ∨ x.ok = true ∧ ∃ ticket channelId, a = .joinAnswered ticket channelId := by
  cases a <;> simp only [perform] at hb <;> repeat' split at hb
  all_goals simp_all [VoiceAct.joining]

theorem releasing_of_mem_perform (hb : b ∈ (w.perform x a).2) (hreleasing : b.releasing = true) :
    ∃ ticket, a = .left ticket := by
  cases a <;> simp only [perform] at hb <;> repeat' split at hb
  all_goals simp_all [VoiceAct.releasing]

/-- Only a call that gets behind the answer, or is behind it, touches `VoiceClient`. -/
theorem client_perform (hjoining : a.joining = false) (hleft : ∀ ticket, a ≠ .left ticket)
    (hanswered : ∀ ticket channelId, a = .joinAnswered ticket channelId → x.ok = false) :
    (w.perform x a).1.session.socket = w.session.socket ∧
      (w.perform x a).1.session.openSockets = w.session.openSockets ∧
      (w.perform x a).1.session.notifier.voiceClient = w.session.notifier.voiceClient ∧
      (w.perform x a).1.session.notifier.captureSub = w.session.notifier.captureSub := by
  cases a with
  | joinVoice channelId =>
    simp only [perform]
    split <;> exact ⟨rfl, rfl, rfl, rfl⟩
  | joinAnswered ticket channelId =>
    simp only [perform, if_pos (hanswered ticket channelId rfl)]
    exact ⟨rfl, rfl, rfl, rfl⟩
  | disconnect | released => exact ⟨rfl, rfl, rfl, rfl⟩
  | left ticket => exact absurd rfl (hleft ticket)
  | clientDisconnected | lookedUp | socketBound | clientConnected | connectFailed => cases hjoining

theorem Underway.congr {s s' : VoiceSession} (h : Underway s b) (hsocket : s'.socket = s.socket)
    (hclient : s'.notifier.voiceClient = s.notifier.voiceClient) : Underway s' b := by
  cases b with
  | clientDisconnected | lookedUp | socketBound =>
    simp only [Underway, hsocket, hclient] at h ⊢
    exact h
  | clientConnected =>
    refine ⟨?_, ?_, ?_, ?_⟩ <;> rw [hclient]
    · exact h.connected
    · exact h.socket
    · exact h.address
    · exact h.channel
  | joinVoice | joinAnswered | connectFailed | disconnect | left | released => trivial

theorem closed_clientDisconnect {s : VoiceSession}
    (h : ∀ i, s.openSockets i = true → s.socket = some i) (i : SocketID) :
    s.clientDisconnect.openSockets i = false := by
  simp only [VoiceSession.clientDisconnect]
  cases hsocket : s.socket with
  | none =>
    by_contra hopen
    rw [Bool.not_eq_false] at hopen
    rw [h i hopen] at hsocket
    cases hsocket
  | some socket =>
    by_cases hi : i = socket
    · simp [hi]
    · simp only [Function.update_of_ne hi]
      by_contra hopen
      rw [Bool.not_eq_false] at hopen
      rw [h i hopen] at hsocket
      exact hi (Option.some.inj hsocket)

end perform

section step

variable {k : State} {t : Turn} {g : Nat} {a : VoiceAct} {x : VoiceChoice}

/-- What a call that resumes leads to has no ticket of another call. -/
theorem Ordered.ticket_ne (h : Ordered k) (ha : a ∈ k.todo g) {g' : Nat} (hg : g' ≠ g) {b b' : VoiceAct}
    (hb : b ∈ (k.shared.perform x a).2) (hb' : b' ∈ k.todo g') {ticket : Ticket}
    (hticket : b.ticket? = some ticket) : b'.ticket? ≠ some ticket := by
  intro hticket'
  rw [ticket?_of_mem_perform hb] at hticket
  split at hticket
  · cases hticket
    exact Nat.not_succ_le_self _ (h.begun g' b' _ hb' hticket')
  · exact hg (h.owner g g' a b' ticket ha hb' hticket hticket').symm

/-- And what it leads to behind the answer finds no other call there. -/
theorem Ordered.alone_perform (h : Ordered k) (hok : InTurn k x a) (ha : a ∈ k.todo g) {g' : Nat}
    (hg : g' ≠ g) {b b' : VoiceAct} (hb : b ∈ (k.shared.perform x a).2) (hb' : b' ∈ k.todo g') :
    (b.joining = true → b'.joining = false ∧ b'.releasing = false) ∧
      (b.releasing = true → b'.joining = false) := by
  constructor
  · intro hjoining
    obtain hjoining | ⟨hanswered, ticket, channelId, rfl⟩ := joining_of_mem_perform hb hjoining
    · have hother : ¬ (b'.joining = true ∨ b'.releasing = true) := by
        intro hcritical
        exact hg (h.alone g g' a b' ha hb' hjoining hcritical).symm
      simpa using hother
    · rw [InTurn, if_pos hanswered] at hok
      exact hok.2.2 b' ⟨g', hb'⟩
  · intro hreleasing
    obtain ⟨ticket, rfl⟩ := releasing_of_mem_perform hb hreleasing
    exact hok.2 b' ⟨g', hb'⟩

variable {w' : VoiceWorld} {acts : List VoiceAct}

theorem Ordered.owner_perform (h : Ordered k) (hp : system.Performs k t g a w' acts)
    (hact : k.shared.perform x a = (w', acts)) {g₁ g₂ : Nat} {b₁ b₂ : VoiceAct} {ticket : Ticket}
    (h₁ : b₁ ∈ (system.step k t).todo g₁) (h₂ : b₂ ∈ (system.step k t).todo g₂)
    (hticket₁ : b₁.ticket? = some ticket) (hticket₂ : b₂.ticket? = some ticket) : g₁ = g₂ := by
  have hacts : (k.shared.perform x a).2 = acts := congrArg Prod.snd hact
  rw [h.single.mem_step_iff hp, ← hacts] at h₁ h₂
  obtain ⟨rfl, hnew₁⟩ | ⟨hg₁, hold₁⟩ := h₁
  · obtain ⟨rfl, -⟩ | ⟨hg₂, hold₂⟩ := h₂
    · rfl
    · exact absurd hticket₂ (h.ticket_ne hp.mem_todo hg₂ hnew₁ hold₂ hticket₁)
  · obtain ⟨rfl, hnew₂⟩ | ⟨-, hold₂⟩ := h₂
    · exact absurd hticket₁ (h.ticket_ne hp.mem_todo hg₁ hnew₂ hold₁ hticket₂)
    · exact h.owner g₁ g₂ b₁ b₂ ticket hold₁ hold₂ hticket₁ hticket₂

theorem Ordered.begun_perform (h : Ordered k) (hp : system.Performs k t g a w' acts)
    (hact : k.shared.perform x a = (w', acts)) {g' : Nat} {b : VoiceAct} {ticket : Ticket}
    (hb : b ∈ (system.step k t).todo g') (hticket : b.ticket? = some ticket) :
    ticket ≤ w'.ledger.started := by
  have hstarted := started_perform k.shared x a
  have hacts : (k.shared.perform x a).2 = acts := congrArg Prod.snd hact
  rw [h.single.mem_step_iff hp, ← hacts] at hb
  rw [hact] at hstarted
  obtain ⟨-, hnew⟩ | ⟨-, hold⟩ := hb
  · rw [ticket?_of_mem_perform hnew] at hticket
    split at hticket
    · rename_i hstarts
      cases hticket
      rw [hstarted, if_pos hstarts]
    · rename_i hstarts
      rw [hstarted, if_neg hstarts]
      exact h.begun g a ticket hp.mem_todo hticket
  · have hbegun := h.begun g' b ticket hold hticket
    rw [hstarted]
    split
    · exact Nat.le_succ_of_le hbegun
    · exact hbegun

theorem Ordered.alone_step (h : Ordered k) (hok : InTurn k x a) (hp : system.Performs k t g a w' acts)
    (hact : k.shared.perform x a = (w', acts)) {g₁ g₂ : Nat} {b₁ b₂ : VoiceAct}
    (h₁ : b₁ ∈ (system.step k t).todo g₁) (h₂ : b₂ ∈ (system.step k t).todo g₂)
    (hjoining : b₁.joining = true) (hcritical : b₂.joining = true ∨ b₂.releasing = true) : g₁ = g₂ := by
  have hacts : (k.shared.perform x a).2 = acts := congrArg Prod.snd hact
  rw [h.single.mem_step_iff hp, ← hacts] at h₁ h₂
  obtain ⟨rfl, hnew₁⟩ | ⟨hg₁, hold₁⟩ := h₁
  · obtain ⟨rfl, -⟩ | ⟨hg₂, hold₂⟩ := h₂
    · rfl
    · have hother := (h.alone_perform hok hp.mem_todo hg₂ hnew₁ hold₂).1 hjoining
      rw [hother.1, hother.2] at hcritical
      simp at hcritical
  · obtain ⟨rfl, hnew₂⟩ | ⟨-, hold₂⟩ := h₂
    · have hother := h.alone_perform hok hp.mem_todo hg₁ hnew₂ hold₁
      have hfree : b₁.joining = false := hcritical.elim (fun hj => (hother.1 hj).1) hother.2
      rw [hjoining] at hfree
      cases hfree
    · exact h.alone g₁ g₂ b₁ b₂ hold₁ hold₂ hjoining hcritical

/-- While a `joinVoice` is behind the answer, no other call is. -/
theorem Ordered.joining_eq (h : Ordered k) (ha : a ∈ k.todo g) {b : VoiceAct} (hb : Goroutines.Pending k b)
    (hjoining : b.joining = true) (hcritical : a.joining = true ∨ a.releasing = true) : b = a := by
  obtain ⟨g', hmem⟩ := hb
  have hg := h.alone g' g b a hmem ha hjoining hcritical
  subst hg
  have hlength := h.single g'
  match htodo : k.todo g' with
  | [] => simp [htodo] at ha
  | [c] =>
    rw [htodo, List.mem_singleton] at ha hmem
    exact hmem.trans ha.symm
  | c :: c' :: rest =>
    rw [htodo] at hlength
    simp at hlength

theorem Ordered.sockets_perform (h : Ordered k) (ha : a ∈ k.todo g)
    (hact : k.shared.perform x a = (w', acts)) (i : SocketID) (hopen : w'.session.openSockets i = true) :
    w'.session.socket = some i := by
  have hunderway := h.underway g a ha
  have hclosed := closed_clientDisconnect h.sockets
  cases a with
  | joinVoice channelId =>
    simp only [perform] at hact
    split at hact <;> cases hact <;> exact h.sockets i hopen
  | joinAnswered ticket channelId =>
    simp only [perform] at hact
    split at hact
    · cases hact
      exact h.sockets i hopen
    · split at hact
      · cases hact
        exact h.sockets i hopen
      · cases hact
        exact absurd ((hclosed i).symm.trans hopen) Bool.false_ne_true
  | clientDisconnected ticket userId channelId =>
    simp only [perform] at hact
    split at hact <;> cases hact <;> exact h.sockets i hopen
  | lookedUp ticket channelId =>
    simp only [perform] at hact
    split at hact <;> cases hact <;> exact h.sockets i hopen
  | socketBound ticket channelId =>
    simp only [perform] at hact
    split at hact
    · cases hact
      simp only [update, VoiceSession.bind] at hopen ⊢
      by_cases hi : i = k.shared.session.bound
      · rw [hi]
      · rw [Function.update_of_ne hi] at hopen
        have hsocket := h.sockets i hopen
        rw [hunderway.1] at hsocket
        cases hsocket
    · cases hact
      exact h.sockets i hopen
  | clientConnected | connectFailed | disconnect | released =>
    cases hact
    exact h.sockets i hopen
  | left ticket =>
    cases hact
    exact absurd ((hclosed i).symm.trans hopen) Bool.false_ne_true

theorem Ordered.underway_perform (h : Ordered k) (hok : InTurn k x a) (hp : system.Performs k t g a w' acts)
    (hact : k.shared.perform x a = (w', acts)) {g' : Nat} {b : VoiceAct}
    (hb : b ∈ (system.step k t).todo g') : Underway w'.session b := by
  have hunderway := h.underway g a hp.mem_todo
  rw [h.single.mem_step_iff hp] at hb
  obtain ⟨-, hnew⟩ | ⟨hg, hold⟩ := hb
  · cases a with
    | joinVoice channelId =>
      simp only [perform] at hact
      split at hact <;> cases hact <;> simp at hnew
      subst hnew
      trivial
    | joinAnswered ticket channelId =>
      simp only [perform] at hact
      repeat' split at hact
      all_goals cases hact
      · cases hnew
      · cases hnew
      · cases List.mem_singleton.mp hnew
        rfl
    | clientDisconnected ticket userId channelId =>
      simp only [perform] at hact
      split at hact <;> cases hact <;> cases List.mem_singleton.mp hnew
      · exact ⟨hunderway, rfl, rfl⟩
      · exact ⟨hunderway, rfl⟩
    | lookedUp ticket channelId =>
      simp only [perform] at hact
      split at hact <;> cases hact <;> cases List.mem_singleton.mp hnew
      · exact ⟨hunderway.1, hunderway.2, rfl⟩
      · trivial
    | socketBound ticket channelId =>
      simp only [perform] at hact
      split at hact <;> cases hact <;> cases List.mem_singleton.mp hnew
      · exact ⟨rfl, rfl, hunderway.2.2, hunderway.2.1⟩
      · trivial
    | clientConnected | connectFailed | released =>
      cases hact
      cases hnew
    | disconnect | left =>
      cases hact
      cases List.mem_singleton.mp hnew
      trivial
  · have hbefore := h.underway g' b hold
    cases hjoining : b.joining with
    | false =>
      cases b with
      | joinVoice | joinAnswered | disconnect | left | released => trivial
      | clientDisconnected | lookedUp | socketBound | clientConnected | connectFailed => cases hjoining
    | true =>
      have halone : ¬ (a.joining = true ∨ a.releasing = true) := fun hcritical =>
        hg (h.alone g' g b a hold hp.mem_todo hjoining hcritical)
      have hclient := client_perform (w := k.shared) (x := x) (a := a)
        (by simpa using fun hj => halone (.inl hj)) ?_ ?_
      · rw [hact] at hclient
        exact hbefore.congr hclient.1 hclient.2.2.1
      · intro ticket hleft
        subst hleft
        have hfree := hok.2 b ⟨g', hold⟩
        rw [hjoining] at hfree
        cases hfree
      · intro ticket channelId hanswered
        subst hanswered
        by_contra hyes
        rw [InTurn, if_pos (by simpa using hyes)] at hok
        have hfree := (hok.2.2 b ⟨g', hold⟩).1
        rw [hjoining] at hfree
        cases hfree

theorem Ordered.steady_perform (h : Ordered k) (hok : InTurn k x a) (hp : system.Performs k t g a w' acts)
    (hact : k.shared.perform x a = (w', acts)) (hstatus : w'.session.status = .connected) :
    (∃ b, Goroutines.Pending (system.step k t) b ∧ (b.joining = true ∨ b.releasing = true)) ∨
      ∃ channelId, w'.session.ConnectedTo channelId := by
  have hunderway := h.underway g a hp.mem_todo
  cases a with
  | joinVoice channelId =>
    simp only [perform] at hact
    split at hact
    · rename_i hconnected
      cases hact
      obtain ⟨b, hpending, hcritical⟩ | hsteady := h.steady hstatus
      · have hstarts := hok hconnected b hpending
        cases b <;> simp [VoiceAct.starts, VoiceAct.joining, VoiceAct.releasing] at hstarts hcritical
      · exact .inr hsteady
    · cases hact
      cases hstatus
  | joinAnswered ticket channelId =>
    simp only [perform] at hact
    split at hact
    · cases hact
      cases hstatus
    · rename_i hyes
      rw [InTurn, if_pos (by simpa using hyes)] at hok
      split at hact
      · rename_i hnone
        exact absurd hnone hok.1
      · cases hact
        exact .inl ⟨_, hp.pending_of_mem (List.mem_singleton_self _), .inl rfl⟩
  | clientDisconnected ticket userId channelId =>
    simp only [perform] at hact
    split at hact <;> cases hact
    · exact .inl ⟨_, hp.pending_of_mem (List.mem_singleton_self _), .inl rfl⟩
    · exact .inl ⟨_, hp.pending_of_mem (List.mem_singleton_self _), .inl rfl⟩
  | lookedUp ticket channelId | socketBound ticket channelId =>
    simp only [perform] at hact
    split at hact <;> cases hact
    · exact .inl ⟨_, hp.pending_of_mem (List.mem_singleton_self _), .inl rfl⟩
    · exact .inl ⟨_, hp.pending_of_mem (List.mem_singleton_self _), .inl rfl⟩
  | clientConnected ticket channelId =>
    cases hact
    exact .inr ⟨channelId, rfl, rfl, hunderway.connected, hunderway.socket, hunderway.address,
      hunderway.channel⟩
  | connectFailed | released =>
    cases hact
    cases hstatus
  | left ticket =>
    cases hact
    exact .inl ⟨_, hp.pending_of_mem (List.mem_singleton_self _), .inr rfl⟩
  | disconnect =>
    cases hact
    obtain ⟨b, hpending, hcritical⟩ | hsteady := h.steady hstatus
    · refine .inl ⟨b, hp.pending_of_ne hpending ?_, hcritical⟩
      intro hb
      subst hb
      simp [VoiceAct.joining, VoiceAct.releasing] at hcritical
    · exact .inr hsteady

/-- A call that begins is the last one, and has come no further. -/
theorem Ordered.progress_start (h : Ordered k) (hok : InTurn k x a) (hp : system.Performs k t g a w' acts)
    (hact : k.shared.perform x a = (w', acts)) (hstarts : a.starts = true) :
    Progress (system.step k t) := by
  cases a with
  | joinVoice channelId =>
    simp only [perform] at hact
    split at hact
    · rename_i hconnected
      cases hact
      have hquiet : ∀ b, Goroutines.Pending k b → b.joining = false ∧ b.releasing = false := by
        intro b hb
        have hbegins := hok hconnected b hb
        cases b <;> simp [VoiceAct.starts, VoiceAct.joining, VoiceAct.releasing] at hbegins ⊢
      have hshown : k.shared.session.connectedChannelId = some channelId ∧
          k.shared.session.status = .connected := by
        simpa [VoiceSession.connectedTo, start] using hconnected
      obtain ⟨b, hpending, hcritical⟩ | ⟨channelId', hsteady⟩ := h.steady hshown.2
      · simp [hquiet b hpending] at hcritical
      · have hsame : channelId' = channelId := Option.some.inj (hsteady.shown.symm.trans hshown.1)
        subst hsame
        have hjoining : Joining (system.step k t) channelId' := by
          refine ⟨by rw [hp.shared]; rfl, by rw [hp.shared]; rfl, .inr ⟨?_, ?_⟩⟩
          · intro b hb
            obtain ⟨g', hmem⟩ := hb
            obtain ⟨-, hnew⟩ | ⟨-, hold⟩ := (h.single.mem_step_iff hp).mp hmem
            · cases hnew
            · exact hquiet b ⟨g', hold⟩
          · rw [hp.shared]
            exact hsteady
        simp only [Progress, hp.shared]
        exact .inr (.inr hjoining)
    · cases hact
      simp only [Progress, hp.shared]
      exact .inr (.inl (hp.pending_of_mem (List.mem_singleton_self _)))
  | disconnect =>
    cases hact
    simp only [Progress, hp.shared]
    exact .inl (hp.pending_of_mem (List.mem_singleton_self _))
  | joinAnswered | clientDisconnected | lookedUp | socketBound | clientConnected | connectFailed | left |
    released => cases hstarts

/-- A call that is not the last one cannot get behind the answer once the last has. -/
theorem Ordered.not_answered (h : Ordered k) (hok : InTurn k x a) (ha : a ∈ k.todo g)
    (hanswered : k.shared.ledger.answered = k.shared.ledger.started) :
    ∀ ticket channelId, a = .joinAnswered ticket channelId → x.ok = false := by
  intro ticket channelId hself
  subst hself
  by_contra hyes
  rw [InTurn, if_pos (by simpa using hyes)] at hok
  have hlate := h.begun g _ ticket ha rfl
  rw [← hanswered] at hlate
  exact Nat.lt_irrefl _ (Nat.lt_of_lt_of_le hok.2.1 hlate)

/-- Once a `disconnect` is the last call behind the answer, nothing undoes it. -/
theorem Ordered.leaving_perform (h : Ordered k) (hok : InTurn k x a) (hp : system.Performs k t g a w' acts)
    (hact : k.shared.perform x a = (w', acts)) (hstarts : a.starts = false) (hleaving : Leaving k) :
    Leaving (system.step k t) := by
  have hfree : a.joining = false := hleaving.alone a ⟨g, hp.mem_todo⟩
  have hturn := h.not_answered hok hp.mem_todo hleaving.answered
  have halone : ∀ b, Goroutines.Pending (system.step k t) b → b.joining = false := by
    intro b hb
    obtain ⟨g', hmem⟩ := hb
    rw [h.single.mem_step_iff hp] at hmem
    obtain ⟨-, hnew⟩ | ⟨-, hold⟩ := hmem
    · by_contra hjoining
      rw [Bool.not_eq_false] at hjoining
      have hacts : (k.shared.perform x a).2 = acts := congrArg Prod.snd hact
      rw [← hacts] at hnew
      obtain hself | ⟨hyes, ticket, channelId, ha⟩ := joining_of_mem_perform hnew hjoining
      · rw [hfree] at hself
        cases hself
      · rw [hturn ticket channelId ha] at hyes
        cases hyes
    · exact hleaving.alone b ⟨g', hold⟩
  cases a with
  | joinVoice | disconnect => cases hstarts
  | clientDisconnected | lookedUp | socketBound | clientConnected | connectFailed => cases hfree
  | joinAnswered ticket channelId =>
    simp only [perform, if_pos (hturn ticket channelId rfl)] at hact
    cases hact
    refine ⟨?_, halone, ?_, ?_, ?_⟩ <;> rw [hp.shared]
    · exact hleaving.answered
    · exact hleaving.captureSub
    · exact hleaving.disconnected
    · obtain hpending | hsilent := hleaving.ending
      · exact .inl (hp.pending_of_ne hpending (by simp))
      · exact .inr ⟨hsilent.captureSub, hsilent.disconnected, hsilent.engine, hsilent.native, rfl⟩
  | left ticket =>
    cases hact
    have hlate := h.begun g _ ticket hp.mem_todo rfl
    refine ⟨?_, halone, ?_, ?_, ?_⟩ <;> rw [hp.shared]
    · change max k.shared.ledger.answered ticket = k.shared.ledger.started
      rw [hleaving.answered]
      exact Nat.max_eq_left hlate
    · rfl
    · rfl
    · obtain hpending | hsilent := hleaving.ending
      · exact .inl (hp.pending_of_ne hpending (by simp))
      · exact .inr ⟨rfl, rfl, hsilent.engine, hsilent.native, hsilent.status⟩
  | released ticket =>
    cases hact
    refine ⟨?_, halone, ?_, ?_, ?_⟩ <;> rw [hp.shared]
    · exact hleaving.answered
    · exact hleaving.captureSub
    · exact hleaving.disconnected
    · refine .inr ⟨hleaving.captureSub, hleaving.disconnected, ?_, ?_, rfl⟩
      · exact AudioEngineService.isCapturing_stopCapture _
      · exact AudioEngineService.capturing_stopCapture _

/-- Once a `joinVoice` is the last call behind the answer, it runs to its end there. -/
theorem Ordered.joining_perform (h : Ordered k) (hok : InTurn k x a) (hp : system.Performs k t g a w' acts)
    (hact : k.shared.perform x a = (w', acts)) (hstarts : a.starts = false) {channelId : UInt32}
    (hjoining : Joining k channelId) :
    w'.ledger.failed = true ∨ Joining (system.step k t) channelId := by
  have hunderway := h.underway g a hp.mem_todo
  have hturn := h.not_answered hok hp.mem_todo hjoining.answered
  have hnext : ∀ b, acts = [b] → b.joining = true → b.ticket? = some k.shared.ledger.started →
      b.channel? = some channelId → w'.ledger = k.shared.ledger → Joining (system.step k t) channelId := by
    intro b hacts hb hticket hchannel hledger
    refine ⟨?_, ?_, .inl ⟨b, ?_, hb, ?_, hchannel⟩⟩
    · rw [hp.shared, hledger]
      exact hjoining.joined
    · rw [hp.shared, hledger]
      exact hjoining.answered
    · exact hp.pending_of_mem (hacts ▸ List.mem_singleton_self b)
    · rw [hp.shared, hledger]
      exact hticket
  -- behind the answer there is nothing but the last call
  have hlast : a.joining = true ∨ a.releasing = true →
      a.ticket? = some k.shared.ledger.started ∧ a.channel? = some channelId := by
    intro hcritical
    obtain ⟨b, hpending, hb, hticket, hchannel⟩ | ⟨hundisturbed, -⟩ := hjoining.ending
    · rw [← h.joining_eq hp.mem_todo hpending hb hcritical]
      exact ⟨hticket, hchannel⟩
    · have hfree := hundisturbed a ⟨g, hp.mem_todo⟩
      rw [hfree.1, hfree.2] at hcritical
      simp at hcritical
  cases a with
  | joinVoice | disconnect => cases hstarts
  | joinAnswered ticket channelId' =>
    simp only [perform, if_pos (hturn ticket channelId' rfl)] at hact
    rw [InTurn, if_neg (by simp [hturn ticket channelId' rfl])] at hok
    cases hact
    refine .inr ⟨?_, ?_, ?_⟩ <;> rw [hp.shared]
    · exact hjoining.joined
    · exact hjoining.answered
    · obtain ⟨b, hpending, hb, hticket, hchannel⟩ | ⟨-, hconnected⟩ := hjoining.ending
      · refine .inl ⟨b, hp.pending_of_ne hpending ?_, hb, hticket, hchannel⟩
        intro heq
        subst heq
        cases hb
      · exact absurd hconnected.status hok
  | clientDisconnected ticket userId channelId' =>
    obtain ⟨hticket, hchannel⟩ := hlast (.inl rfl)
    simp only [perform] at hact
    split at hact <;> cases hact <;> exact .inr (hnext _ rfl rfl hticket hchannel rfl)
  | lookedUp ticket channelId' | socketBound ticket channelId' =>
    obtain ⟨hticket, hchannel⟩ := hlast (.inl rfl)
    simp only [perform] at hact
    split at hact <;> cases hact <;> exact .inr (hnext _ rfl rfl hticket hchannel rfl)
  | clientConnected ticket channelId' =>
    obtain ⟨hticket, hchannel⟩ := hlast (.inl rfl)
    cases hact
    cases hchannel
    refine .inr ⟨?_, ?_, .inr ⟨?_, ?_⟩⟩
    · rw [hp.shared]
      exact hjoining.joined
    · rw [hp.shared]
      exact hjoining.answered
    · intro b hb
      obtain ⟨g', hmem⟩ := hb
      obtain ⟨-, hnew⟩ | ⟨hg, hold⟩ := (h.single.mem_step_iff hp).mp hmem
      · cases hnew
      · have hother : ¬ (b.joining = true ∨ b.releasing = true) := fun hcritical =>
          hg (h.alone g g' _ b hp.mem_todo hold rfl hcritical).symm
        simpa using hother
    · rw [hp.shared]
      exact ⟨rfl, rfl, hunderway.connected, hunderway.socket, hunderway.address, hunderway.channel⟩
  | connectFailed ticket channelId' =>
    obtain ⟨hticket, -⟩ := hlast (.inl rfl)
    cases hact
    cases hticket
    exact .inl (by simp [fail])
  | left ticket =>
    have hlate := h.begun g _ ticket hp.mem_todo rfl
    rw [← hjoining.joined] at hlate
    exact absurd (Nat.lt_of_lt_of_le hok.1 hlate) (Nat.lt_irrefl _)
  | released ticket =>
    have hchannel := (hlast (.inr rfl)).2
    cases hchannel

/-- A call that has begun changes neither what was asked for last nor, unless it
is that call, whether it failed. -/
theorem ledger_perform (w : VoiceWorld) (x : VoiceChoice) {a : VoiceAct} (hstarts : a.starts = false) :
    (w.perform x a).1.ledger.intent = w.ledger.intent ∧
      (w.ledger.failed = true → (w.perform x a).1.ledger.failed = true) := by
  cases a with
  | joinVoice | disconnect => cases hstarts
  | joinAnswered | clientDisconnected | lookedUp | socketBound =>
    simp only [perform]
    repeat' split
    all_goals exact ⟨rfl, fun hfailed => by simp_all [fail, admitJoin, update]⟩
  | clientConnected | connectFailed | left | released =>
    exact ⟨rfl, fun hfailed => by simp_all [perform, fail, admitLeave, update]⟩

/-- The last call gets behind the answer, or stays where it is. -/
theorem Ordered.progress_perform (h : Ordered k) (hok : InTurn k x a) (hp : system.Performs k t g a w' acts)
    (hact : k.shared.perform x a = (w', acts)) (hstarts : a.starts = false) :
    Progress (system.step k t) := by
  have hprogress := h.progress
  obtain ⟨hintent, hfailed⟩ := ledger_perform k.shared x hstarts
  have hstarted := started_perform k.shared x a
  rw [hact] at hintent hfailed hstarted
  rw [hstarts] at hstarted
  simp only [Bool.false_eq_true, if_false] at hstarted
  unfold Progress at hprogress ⊢
  rw [hp.shared, hintent, hstarted]
  cases hlast : k.shared.ledger.intent with
  | nothing => trivial
  | disconnect =>
    rw [hlast] at hprogress
    obtain hpending | hleaving := hprogress
    · by_cases ha : a = .left k.shared.ledger.started
      · subst ha
        cases hact
        have hle := h.answered
        refine .inr ⟨?_, ?_, ?_, ?_, ?_⟩ <;> try rw [hp.shared]
        · exact Nat.max_eq_right hle
        · intro b hb
          obtain ⟨g', hmem⟩ := hb
          obtain ⟨-, hnew⟩ | ⟨-, hold⟩ := (h.single.mem_step_iff hp).mp hmem
          · cases List.mem_singleton.mp hnew
            rfl
          · exact hok.2 b ⟨g', hold⟩
        · rfl
        · rfl
        · exact .inl (hp.pending_of_mem (List.mem_singleton_self _))
      · exact .inl (hp.pending_of_ne hpending (Ne.symm ha))
    · exact .inr (h.leaving_perform hok hp hact hstarts hleaving)
  | join channelId =>
    rw [hlast] at hprogress
    obtain hfail | hpending | hjoining := hprogress
    · exact .inl (hfailed hfail)
    · by_cases ha : a = .joinAnswered k.shared.ledger.started channelId
      · subst ha
        simp only [perform] at hact
        split at hact
        · cases hact
          exact .inl (by simp [fail])
        · rename_i hyes
          rw [InTurn, if_pos (by simpa using hyes)] at hok
          split at hact
          · rename_i hnone
            exact absurd hnone hok.1
          · cases hact
            refine .inr (.inr ⟨?_, ?_, .inl ⟨_, hp.pending_of_mem (List.mem_singleton_self _), rfl, ?_, rfl⟩⟩)
            all_goals
              rw [hp.shared]
              rfl
      · exact .inr (.inl (hp.pending_of_ne hpending (Ne.symm ha)))
    · obtain hfail | hjoining' := h.joining_perform hok hp hact hstarts hjoining
      · exact .inl hfail
      · exact .inr (.inr hjoining')

theorem Ordered.answered_perform (h : Ordered k) (ha : a ∈ k.todo g)
    (hact : k.shared.perform x a = (w', acts)) : w'.ledger.answered ≤ w'.ledger.started := by
  have hle := h.answered
  cases a with
  | joinVoice channelId =>
    simp only [perform] at hact
    split at hact <;> cases hact
    · exact Nat.le_refl _
    · exact Nat.le_succ_of_le hle
  | joinAnswered ticket channelId =>
    have hbegun := h.begun g _ ticket ha rfl
    simp only [perform] at hact
    repeat' split at hact
    all_goals cases hact
    · exact hle
    · exact hle
    · exact hbegun
  | clientDisconnected | lookedUp | socketBound =>
    simp only [perform] at hact
    split at hact <;> cases hact <;> exact hle
  | clientConnected | connectFailed | released =>
    cases hact
    exact hle
  | disconnect =>
    cases hact
    exact Nat.le_succ_of_le hle
  | left ticket =>
    cases hact
    exact Nat.max_le.mpr ⟨hle, h.begun g _ ticket ha rfl⟩

/-- One step in turn keeps the calls in order. -/
theorem Ordered.perform (h : Ordered k) (hok : ∀ a x, Goroutines.Does k t a x → InTurn k x a)
    (hp : system.Performs k t g a w' acts) : Ordered (system.step k t) := by
  obtain ⟨x, hdoes, hperform⟩ := hp.exists_does
  have hact : k.shared.perform x a = (w', acts) := Option.some.inj hperform
  have hturn := hok a x hdoes
  have hlength := length_perform k.shared x a
  rw [hact] at hlength
  refine ⟨h.single.perform hp hlength, ?_, ?_, ?_, ?_, ?_, ?_, ?_, ?_⟩
  · rw [hp.shared]
    exact fun g' b ticket hb hticket => h.begun_perform hp hact hb hticket
  · exact fun g₁ g₂ b₁ b₂ ticket h₁ h₂ => h.owner_perform hp hact h₁ h₂
  · exact fun g₁ g₂ b₁ b₂ h₁ h₂ => h.alone_step hturn hp hact h₁ h₂
  · rw [hp.shared]
    exact h.answered_perform hp.mem_todo hact
  · rw [hp.shared]
    exact fun i hopen => h.sockets_perform hp.mem_todo hact i hopen
  · rw [hp.shared]
    exact fun g' b hb => h.underway_perform hturn hp hact hb
  · rw [hp.shared]
    exact h.steady_perform hturn hp hact
  · cases hstarts : a.starts with
    | true => exact h.progress_start hturn hp hact hstarts
    | false => exact h.progress_perform hturn hp hact hstarts

end step

/-- A request that is taken up has not begun. -/
theorem starts_of_mem_program {w : VoiceWorld} {r : Nat × Request} {b : VoiceAct}
    (hb : b ∈ system.program w r) : b.starts = true := by
  obtain ⟨g, request⟩ := r
  cases request <;> cases List.mem_singleton.mp hb <;> rfl

/-- Taking up a request keeps the calls in order. -/
theorem Ordered.serve {k : State} (h : Ordered k) (r : Nat × Request)
    (hidle : k.todo (system.owner r) = []) :
    Ordered { k with todo := Function.update k.todo (system.owner r) (system.program k.shared r) } := by
  have hmem : ∀ g b, b ∈ Function.update k.todo (system.owner r) (system.program k.shared r) g →
      b.starts = true ∨ b ∈ k.todo g := by
    intro g b hb
    by_cases hg : g = system.owner r
    · subst hg
      rw [Function.update_self] at hb
      exact .inl (starts_of_mem_program hb)
    · rw [Function.update_of_ne hg] at hb
      exact .inr hb
  have hpending : ∀ b, Goroutines.Pending { k with
      todo := Function.update k.todo (system.owner r) (system.program k.shared r) } b →
      b.starts = true ∨ Goroutines.Pending k b := by
    intro b hb
    obtain ⟨g, hg⟩ := hb
    exact (hmem g b hg).imp_right fun hold => ⟨g, hold⟩
  have hnone : ∀ b : VoiceAct, b.starts = true →
      b.ticket? = none ∧ b.joining = false ∧ b.releasing = false := by
    intro b hb
    cases b <;> first | exact ⟨rfl, rfl, rfl⟩ | cases hb
  have hstay : ∀ {b}, Goroutines.Pending k b → Goroutines.Pending { k with
      todo := Function.update k.todo (system.owner r) (system.program k.shared r) } b :=
    fun hb => hb.serve hidle _
  have hfree : (∀ b, Goroutines.Pending k b → b.joining = false) → ∀ b, Goroutines.Pending { k with
      todo := Function.update k.todo (system.owner r) (system.program k.shared r) } b →
      b.joining = false := by
    intro hall b hb
    exact (hpending b hb).elim (fun hstarts => (hnone b hstarts).2.1) (hall b)
  refine ⟨?_, ?_, ?_, ?_, h.answered, h.sockets, ?_, ?_, ?_⟩
  · refine h.single.serve _ ?_
    obtain ⟨g, request⟩ := r
    cases request <;> simp [system]
  · intro g b ticket hb hticket
    obtain hstarts | hold := hmem g b hb
    · simp [(hnone b hstarts).1] at hticket
    · exact h.begun g b ticket hold hticket
  · intro g g' b b' ticket hb hb' hticket hticket'
    obtain hstarts | hold := hmem g b hb
    · simp [(hnone b hstarts).1] at hticket
    · obtain hstarts | hold' := hmem g' b' hb'
      · simp [(hnone b' hstarts).1] at hticket'
      · exact h.owner g g' b b' ticket hold hold' hticket hticket'
  · intro g g' b b' hb hb' hjoining hcritical
    obtain hstarts | hold := hmem g b hb
    · simp [(hnone b hstarts).2.1] at hjoining
    · obtain hstarts | hold' := hmem g' b' hb'
      · simp [(hnone b' hstarts).2] at hcritical
      · exact h.alone g g' b b' hold hold' hjoining hcritical
  · intro g b hb
    obtain hstarts | hold := hmem g b hb
    · cases b <;> trivial
    · exact h.underway g b hold
  · intro hstatus
    refine (h.steady hstatus).imp_left ?_
    intro hcritical
    obtain ⟨b, hb, hcase⟩ := hcritical
    exact ⟨b, hstay hb, hcase⟩
  · have hprogress := h.progress
    unfold Progress at hprogress ⊢
    cases hlast : k.shared.ledger.intent with
    | nothing => trivial
    | disconnect =>
      rw [hlast] at hprogress
      refine hprogress.imp hstay fun hleaving => ?_
      exact ⟨hleaving.answered, hfree hleaving.alone, hleaving.captureSub, hleaving.disconnected,
        hleaving.ending.imp_left hstay⟩
    | join channelId =>
      rw [hlast] at hprogress
      refine hprogress.imp_right (Or.imp hstay fun hjoining => ?_)
      refine ⟨hjoining.joined, hjoining.answered, hjoining.ending.imp ?_ ?_⟩
      · intro hlater
        obtain ⟨b, hb, hcase⟩ := hlater
        exact ⟨b, hstay hb, hcase⟩
      · intro hdone
        refine ⟨fun b hb => ?_, hdone.2⟩
        exact (hpending b hb).elim (fun hstarts => (hnone b hstarts).2) (hdone.1 b)

/-- Calls are in order when the client starts. -/
theorem ordered_new (notifier : VoiceNotifier) : Ordered (Goroutines.idle (new notifier)) := by
  refine ⟨?_, ?_, ?_, ?_, ?_, ?_, ?_, ?_, trivial⟩
  · exact fun _ => Nat.zero_le 1
  · intro g a ticket ha
    cases ha
  · intro g g' a a' ticket ha
    cases ha
  · intro g g' a a' ha
    cases ha
  · exact Nat.le_refl 0
  · intro i hopen
    cases hopen
  · intro g a ha
    cases ha
  · intro hstatus
    cases hstatus

/-- The calls are in order after every schedule in turn. -/
theorem ordered_after (notifier : VoiceNotifier) (ts : List Turn) (h : AllInTurn (new notifier) ts) :
    Ordered (after (new notifier) ts) := by
  refine system.run_rule (fun k t => ∀ a x, Goroutines.Does k t a x → InTurn k x a) Ordered
    (ordered_new notifier) ?_ ?_ ts h
  · exact fun k r hordered _ hidle => hordered.serve r hidle
  · exact fun k t g a w' acts hordered hok hp => hordered.perform hok hp

/-- In every run in which no call resumes into the work of another one, once
every call has finished the last one has had its way. -/
theorem lastIntentWins_of_inTurn (notifier : VoiceNotifier) (ts : List Turn)
    (h : AllInTurn (new notifier) ts) (hquiet : Goroutines.Quiet (after (new notifier) ts)) :
    (after (new notifier) ts).shared.LastIntentWins := by
  have hordered := ordered_after notifier ts h
  have hprogress := hordered.progress
  unfold Progress at hprogress
  refine ⟨?_, ?_, ?_⟩
  · intro hlast
    rw [hlast] at hprogress
    obtain hpending | hleaving := hprogress
    · exact absurd hpending (hquiet.not_pending _)
    · exact hleaving.ending.resolve_left (hquiet.not_pending _)
  · intro channelId hlast hfailed
    rw [hlast] at hprogress
    obtain hfail | hpending | hjoining := hprogress
    · rw [hfailed] at hfail
      cases hfail
    · exact absurd hpending (hquiet.not_pending _)
    · obtain ⟨b, hpending, -⟩ | ⟨-, hconnected⟩ := hjoining.ending
      · exact absurd hpending (hquiet.not_pending _)
      · exact hconnected
  · intro i j hi hj
    exact Option.some.inj ((hordered.sockets i hi).symm.trans (hordered.sockets j hj))

/-- A choice under which every `await` succeeds. -/
def calm : VoiceChoice where
  ok := true
  user := some 7
  isAddress := true

/-- The steps of one `joinVoice` to an address. -/
def joins (g : Nat) (channelId : UInt32) : List Turn :=
  .serve (g, .joinVoice channelId) :: List.replicate 5 (.advance g calm)

/-- The steps of one `disconnect`. -/
def leaves (g : Nat) : List Turn := .serve (g, .disconnect) :: List.replicate 3 (.advance g calm)

/-- The notifier after start-up, with voice activation. -/
def idleNotifier : VoiceNotifier := .init true 200 .voiceActivity 0

theorem allInTurn_joins_leaves : AllInTurn (new idleNotifier) (joins 0 2 ++ leaves 1) := by
  simp only [AllInTurn, joins, leaves, List.replicate, List.cons_append, List.nil_append,
    Machine.along_cons_iff]
  refine ⟨?_, ?_, ?_, ?_, ?_, ?_, ?_, ?_, ?_, ?_, Machine.along_nil⟩
  all_goals
    intro a x hdoes
    obtain ⟨g, rest, hturn, htodo⟩ := hdoes
    cases hturn <;> cases htodo
  case refine_2 =>
    intro hconnected
    cases hconnected
  case refine_3 =>
    refine ⟨by simp [calm], Nat.zero_lt_one, fun b hb => ?_⟩
    obtain ⟨t, ht, hmem⟩ := system.exists_of_pending _ hb
    simp only [List.mem_cons, List.not_mem_nil, or_false] at ht
    obtain rfl | rfl := ht <;> cases List.mem_singleton.mp hmem <;> exact ⟨rfl, rfl⟩
  case refine_9 =>
    refine ⟨Nat.one_lt_two, fun b hb => ?_⟩
    obtain ⟨t, ht, hmem⟩ := system.exists_of_pending _ hb
    simp only [List.mem_cons, List.not_mem_nil, or_false] at ht
    obtain rfl | rfl | rfl | rfl | rfl | rfl | rfl | rfl := ht
    all_goals first | cases List.mem_singleton.mp hmem <;> rfl | cases hmem
  all_goals trivial

theorem lastIntentWins_of_inTurn_joins_leaves :
    (after (new idleNotifier) (joins 0 2 ++ leaves 1)).shared.LastIntentWins :=
  lastIntentWins_of_inTurn idleNotifier (joins 0 2 ++ leaves 1) allInTurn_joins_leaves
    (system.quiet_of_all _ rfl)

/-- A `disconnect` whose answer arrives while the socket of a `joinVoice` is being
bound is undone by that call. -/
theorem join_outlives_disconnect :
    ¬ ∀ ts : List Turn, Goroutines.Quiet (after (new idleNotifier) ts) →
      (after (new idleNotifier) ts).shared.LastIntentWins := by
  intro hall
  have hwins := hall (.serve (0, .joinVoice 2) :: .advance 0 calm :: .serve (1, .disconnect) ::
    .advance 1 calm :: .advance 0 calm :: .advance 0 calm :: .advance 1 calm :: .advance 1 calm ::
    [.advance 0 calm, .advance 0 calm]) (system.quiet_of_all _ rfl)
  have hcaptureSub := (hwins.left rfl).captureSub
  cases hcaptureSub

end VoiceWorld

end low_latency_voice.client

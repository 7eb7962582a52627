import LowLatencyVoice.Client.Chat

open low_latency_voice.model

namespace low_latency_voice.client.state.ChatWorld

/-- Each message is shown once: no list has a positive number twice, and an optimistic
message whose answer was processed does not stand beside the message. -/
structure ShowsOnce (w : ChatWorld) : Prop where
  once : ∀ ch, ∀ n : Int, 0 < n → ((w.chat.getMessagesFor ch).map Message.id).count n ≤ 1
  settled : ∀ req n, (req, n) ∈ w.settled → ∀ ch, ∀ item ∈ w.chat.getMessagesFor ch,
    item.request = some req → ∀ confirmed ∈ w.chat.getMessagesFor ch, confirmed.id ≠ n

/-- A step that shows nothing twice. An event for a message that is not shown does not
find its settled optimistic message. A page for `loadMore` has none of the messages the
load began with, and with it no settled optimistic message comes back to its message.
At the answer to a send there is one optimistic message and not yet the message, or
no optimistic message. -/
def KeepsOnce (w : ChatWorld) : ChatAct → Prop
  | .chatMessage i =>
    match w.broadcasts[i]? with
    | none => True
    | some message =>
      (∃ item ∈ w.chat.getMessagesFor message.channelID, item.id = message.id) ∨
        ∀ req, (req, message.id) ∈ w.settled →
          ∀ item ∈ w.chat.getMessagesFor message.channelID, item.request ≠ some req
  | .respond req =>
    match w.pendingRequests.get? req with
    | some (.getChatHistory _ loadMore currentMessages _, some (.history messages _)) =>
      loadMore = true →
        (∀ m ∈ messages, ∀ old ∈ currentMessages, old.id ≠ m.id) ∧
          ∀ req n, (req, n) ∈ w.settled → ∀ item ∈ currentMessages, item.request = some req →
            (∀ m ∈ messages, m.id ≠ n) ∧ ∀ old ∈ currentMessages, old.id ≠ n
    | some (.sendChat channelId tempId _, some (.sent message)) =>
      ((w.chat.getMessagesFor channelId).map Message.id).count tempId +
        ((w.chat.getMessagesFor channelId).map Message.id).count (message.id : Int) ≤ 1
    | _ => True
  | _ => True

/-- An optimistic message in a list of the channel `ch`: the request it stands for has
begun, and while it is pending it is a send to `ch` with this `tempId`. -/
def Tracks (w : ChatWorld) (ch : UInt32) (item : Message) : Prop :=
  ∀ req, item.request = some req → req ≤ w.requestIdCounter ∧
    ∀ ch' tempId content reply,
      w.pendingRequests.get? req = some (.sendChat ch' tempId content, reply) → ch' = ch ∧ item.id = tempId

/-- The numbers of requests and messages are each used once, and optimistic messages are
where their requests say. -/
structure Tracked (w : ChatWorld) : Prop where
  settled : ∀ req n, (req, n) ∈ w.settled → req ≤ w.requestIdCounter ∧ 0 < n ∧
    n ≤ w.database.messages.seq ∧ w.pendingRequests.get? req = none ∧
    ∀ req' request message, w.pendingRequests.get? req' = some (request, some (.sent message)) → message.id ≠ n
  pending : ∀ req waiting, w.pendingRequests.get? req = some waiting → req ≤ w.requestIdCounter
  sent : ∀ req req' request request' message message',
    w.pendingRequests.get? req = some (request, some (.sent message)) →
      w.pendingRequests.get? req' = some (request', some (.sent message')) →
        message.id = message'.id → req = req'
  shown : ∀ ch, ∀ item ∈ w.chat.getMessagesFor ch, w.Tracks ch item
  remembered : ∀ req ch loadMore currentMessages beforeId reply,
    w.pendingRequests.get? req = some (.getChatHistory ch loadMore currentMessages beforeId, reply) →
      ∀ item ∈ currentMessages, w.Tracks ch item

/-- An item stays tracked when its request changes only its answer or ends. -/
theorem Tracks.mono {w w' : ChatWorld} {ch : UInt32} {item : Message} (h : w.Tracks ch item)
    (hle : w.requestIdCounter ≤ w'.requestIdCounter)
    (hpending : ∀ req ch' tempId content reply, req ≤ w.requestIdCounter →
      w'.pendingRequests.get? req = some (.sendChat ch' tempId content, reply) →
        ∃ reply', w.pendingRequests.get? req = some (.sendChat ch' tempId content, reply')) :
    w'.Tracks ch item := by
  intro req hreq
  obtain ⟨hbegun, hwaiting⟩ := h req hreq
  refine ⟨Nat.le_trans hbegun hle, fun ch' tempId content reply hget => ?_⟩
  obtain ⟨reply', hold⟩ := hpending req ch' tempId content reply hbegun hget
  exact hwaiting ch' tempId content reply' hold

theorem tracks_of_request_eq_none {w : ChatWorld} {ch : UInt32} {item : Message}
    (h : item.request = none) : w.Tracks ch item := by
  intro req hreq
  rw [h] at hreq
  cases hreq

/-- A step that changes the lists and the numbering at most. -/
theorem Tracked.of_lists {w w' : ChatWorld} (h : Tracked w)
    (hcounter : w'.requestIdCounter = w.requestIdCounter)
    (hseq : w.database.messages.seq ≤ w'.database.messages.seq)
    (hpending : w'.pendingRequests = w.pendingRequests) (hsettled : w'.settled = w.settled)
    (hshown : ∀ ch, ∀ item ∈ w'.chat.getMessagesFor ch, item.request = none ∨ w.Tracks ch item) :
    Tracked w' := by
  have htracks : ∀ {ch item}, w.Tracks ch item → w'.Tracks ch item := by
    intro ch item htracks
    refine htracks.mono (Nat.le_of_eq hcounter.symm) fun req ch' tempId content reply _ hget => ?_
    rw [hpending] at hget
    exact ⟨reply, hget⟩
  constructor
  · intro req n hmem
    rw [hsettled] at hmem
    obtain ⟨hbegun, hpos, hle, hended, hother⟩ := h.settled req n hmem
    rw [hcounter, hpending]
    exact ⟨hbegun, hpos, Nat.le_trans hle hseq, hended, hother⟩
  · rw [hcounter, hpending]
    exact h.pending
  · rw [hpending]
    exact h.sent
  · intro ch item hitem
    rcases hshown ch item hitem with hnone | hold
    · exact tracks_of_request_eq_none hnone
    · exact htracks hold
  · intro req ch loadMore currentMessages beforeId reply hget item hitem
    rw [hpending] at hget
    exact htracks (h.remembered req ch loadMore currentMessages beforeId reply hget item hitem)

/-- A new request. -/
theorem Tracked.sendRequest {w : ChatWorld} (h : Tracked w) (chat : ChatState) (request : ChatRequest)
    (hshown : ∀ ch, ∀ item ∈ chat.getMessagesFor ch, w.Tracks ch item ∨
      ∃ content, item.request = some (w.requestIdCounter + 1) ∧ request = .sendChat ch item.id content)
    (hremembered : ∀ ch loadMore currentMessages beforeId,
      request = .getChatHistory ch loadMore currentMessages beforeId →
        ∀ item ∈ currentMessages, w.Tracks ch item) :
    Tracked (({ w with chat } : ChatWorld).sendRequest request) := by
  have htracks : ∀ {ch item}, w.Tracks ch item →
      (({ w with chat } : ChatWorld).sendRequest request).Tracks ch item := by
    intro ch item htracks
    refine htracks.mono (Nat.le_succ _) fun req ch' tempId content reply hbegun hget => ?_
    simp only [ChatWorld.sendRequest, GoMap.get?_set] at hget
    rw [if_neg (by omega)] at hget
    exact ⟨reply, hget⟩
  constructor
  · intro req n hmem
    obtain ⟨hbegun, hpos, hle, hended, hother⟩ := h.settled req n hmem
    refine ⟨Nat.le_succ_of_le hbegun, hpos, hle, ?_, ?_⟩
    · simp only [ChatWorld.sendRequest, GoMap.get?_set]
      rw [if_neg (by omega)]
      exact hended
    · intro req' request' message hget
      simp only [ChatWorld.sendRequest, GoMap.get?_set] at hget
      split at hget
      · cases hget
      · exact hother req' request' message hget
  · intro req waiting hget
    simp only [ChatWorld.sendRequest, GoMap.get?_set] at hget ⊢
    split at hget
    · omega
    · exact Nat.le_succ_of_le (h.pending req waiting hget)
  · intro req req' request₁ request₂ message message' hget hget' hid
    simp only [ChatWorld.sendRequest, GoMap.get?_set] at hget hget'
    split at hget
    · cases hget
    · split at hget'
      · cases hget'
      · exact h.sent req req' request₁ request₂ message message' hget hget' hid
  · intro ch item hitem
    rcases hshown ch item hitem with hold | ⟨content, hreq, rfl⟩
    · exact htracks hold
    · intro req hreq'
      rw [hreq] at hreq'
      cases hreq'
      refine ⟨Nat.le_refl _, fun ch' tempId content' reply hget => ?_⟩
      simp only [ChatWorld.sendRequest, GoMap.get?_set, if_true, Option.some.injEq, Prod.mk.injEq,
        ChatRequest.sendChat.injEq] at hget
      exact ⟨hget.1.1.symm, hget.1.2.1⟩
  · intro req ch loadMore currentMessages beforeId reply hget item hitem
    simp only [ChatWorld.sendRequest, GoMap.get?_set] at hget
    split at hget
    · simp only [Option.some.injEq, Prod.mk.injEq] at hget
      exact htracks (hremembered ch loadMore currentMessages beforeId hget.1 item hitem)
    · exact htracks (h.remembered req ch loadMore currentMessages beforeId reply hget item hitem)

/-- A request that ends; a send that succeeded is settled. -/
theorem Tracked.ended {w w' : ChatWorld} (h : Tracked w) {req : Nat} {waiting : ChatRequest × Option ChatAnswer}
    (hget : w.pendingRequests.get? req = some waiting)
    (hcounter : w'.requestIdCounter = w.requestIdCounter) (hdatabase : w'.database = w.database)
    (hpending : w'.pendingRequests = w.pendingRequests.delete req)
    (hsettled : w'.settled = w.settled ∨ ∃ message, waiting.2 = some (.sent message) ∧ 0 < message.id ∧
      message.id ≤ w.database.messages.seq ∧ w'.settled = (req, message.id) :: w.settled)
    (hshown : ∀ ch, ∀ item ∈ w'.chat.getMessagesFor ch, item.request = none ∨ w.Tracks ch item) :
    Tracked w' := by
  have hother : ∀ {req' waiting'}, w'.pendingRequests.get? req' = some waiting' →
      req' ≠ req ∧ w.pendingRequests.get? req' = some waiting' := by
    intro req' waiting' hget'
    rw [hpending, GoMap.get?_delete] at hget'
    split at hget'
    · cases hget'
    · rename_i hne
      exact ⟨hne, hget'⟩
  have htracks : ∀ {ch item}, w.Tracks ch item → w'.Tracks ch item := fun htracks =>
    htracks.mono (Nat.le_of_eq hcounter.symm) fun _ _ _ _ reply _ hget' => ⟨reply, (hother hget').2⟩
  have hold : ∀ req' n, (req', n) ∈ w.settled → req' ≤ w'.requestIdCounter ∧ 0 < n ∧
      n ≤ w'.database.messages.seq ∧ w'.pendingRequests.get? req' = none ∧
      ∀ req'' request message, w'.pendingRequests.get? req'' = some (request, some (.sent message)) →
        message.id ≠ n := by
    intro req' n hmem
    obtain ⟨hbegun, hpos, hle, hended, hdifferent⟩ := h.settled req' n hmem
    rw [hcounter, hdatabase]
    refine ⟨hbegun, hpos, hle, ?_, fun req'' request message hget' =>
      hdifferent req'' request message (hother hget').2⟩
    rw [hpending, GoMap.get?_delete, hended]
    split <;> rfl
  constructor
  · intro req' n hmem
    rcases hsettled with hsame | ⟨message, hreply, hpos, hle, hcons⟩
    · rw [hsame] at hmem
      exact hold req' n hmem
    · rw [hcons] at hmem
      rcases List.mem_cons.mp hmem with heq | hmem
      · cases heq
        refine ⟨hcounter ▸ h.pending req waiting hget, hpos, hdatabase ▸ hle, ?_, ?_⟩
        · rw [hpending, GoMap.get?_delete, if_pos rfl]
        · intro req'' request message' hget' hid
          obtain ⟨hne, hget'⟩ := hother hget'
          have hwaiting : waiting = (waiting.1, some (.sent message)) := by rw [← hreply]
          rw [hwaiting] at hget
          exact hne (h.sent req'' req request waiting.1 message' message hget' hget hid)
      · exact hold req' n hmem
  · intro req' waiting' hget'
    rw [hcounter]
    exact h.pending req' waiting' (hother hget').2
  · intro req₁ req₂ request₁ request₂ message₁ message₂ hget₁ hget₂ hid
    exact h.sent req₁ req₂ request₁ request₂ message₁ message₂ (hother hget₁).2 (hother hget₂).2 hid
  · intro ch item hitem
    rcases hshown ch item hitem with hnone | hold
    · exact tracks_of_request_eq_none hnone
    · exact htracks hold
  · intro req' ch loadMore currentMessages beforeId reply hget' item hitem
    exact htracks (h.remembered req' ch loadMore currentMessages beforeId reply (hother hget').2 item hitem)

/-- A request that gets its answer. -/
theorem Tracked.serve {w : ChatWorld} (hserved : Served w) (h : Tracked w) {req : Nat} {request : ChatRequest}
    (hget : w.pendingRequests.get? req = some (request, none)) (refused : Option String) :
    Tracked { (w.serve request refused).1 with
      pendingRequests := (w.serve request refused).1.pendingRequests.set req
        (request, some (w.serve request refused).2) } := by
  obtain ⟨hchat, hpending, hcounter, hsettled⟩ := serve_frame w request refused
  obtain ⟨hseq, hnumber⟩ := serve_numbers w request refused
  generalize (w.serve request refused).1 = served at hchat hpending hcounter hsettled hseq hnumber ⊢
  generalize (w.serve request refused).2 = reply at hnumber ⊢
  have hold : ∀ {req' request' reply'}, (served.pendingRequests.set req (request, some reply)).get? req' =
      some (request', reply') → req' = req ∧ request' = request ∧ reply' = some reply ∨
        req' ≠ req ∧ w.pendingRequests.get? req' = some (request', reply') := by
    intro req' request' reply' hget'
    rw [GoMap.get?_set, hpending] at hget'
    split at hget'
    · rename_i heq
      cases hget'
      exact .inl ⟨heq, rfl, rfl⟩
    · rename_i hne
      exact .inr ⟨hne, hget'⟩
  have hbounded : ∀ {req' request' message},
      w.pendingRequests.get? req' = some (request', some (.sent message)) →
      message.id ≤ w.database.messages.seq := by
    intro req' request' message hget'
    have hanswers := hserved.answers _ _ _ hget'
    cases request' with
    | getChatHistory => exact hanswers.elim
    | sendChat => exact hanswers.2.1.2
  have htracks : ∀ {ch item}, w.Tracks ch item → ({ served with
      pendingRequests := served.pendingRequests.set req (request, some reply) } : ChatWorld).Tracks
        ch item := by
    intro ch item htracks
    refine htracks.mono (Nat.le_of_eq hcounter.symm) fun req' ch' tempId content reply' _ hget' => ?_
    rcases hold hget' with ⟨rfl, rfl, -⟩ | ⟨-, hget'⟩
    · exact ⟨none, hget⟩
    · exact ⟨reply', hget'⟩
  constructor
  · intro req' n hmem
    rw [hsettled] at hmem
    obtain ⟨hbegun, hpos, hle, hended, hother⟩ := h.settled req' n hmem
    refine ⟨hcounter ▸ hbegun, hpos, Nat.le_trans hle hseq, ?_, ?_⟩
    · have hne : req' ≠ req := by
        rintro rfl
        rw [hget] at hended
        cases hended
      simp only [GoMap.get?_set, hpending, if_neg hne, hended]
    · intro req'' request' message hget'
      rcases hold hget' with ⟨-, -, hreply⟩ | ⟨-, hget'⟩
      · have hid := (hnumber message (Option.some.inj hreply).symm).1
        omega
      · exact hother req'' request' message hget'
  · intro req' waiting hget'
    obtain ⟨request', reply'⟩ := waiting
    simp only [hcounter]
    rcases hold hget' with ⟨rfl, -, -⟩ | ⟨-, hget'⟩
    · exact h.pending req' _ hget
    · exact h.pending req' _ hget'
  · intro req₁ req₂ request₁ request₂ message₁ message₂ hget₁ hget₂ hid
    rcases hold hget₁ with ⟨rfl, -, hreply⟩ | ⟨-, hold₁⟩
    · rcases hold hget₂ with ⟨rfl, -, -⟩ | ⟨-, hold₂⟩
      · rfl
      · have hnew := (hnumber message₁ (Option.some.inj hreply).symm).1
        have hle := hbounded hold₂
        omega
    · rcases hold hget₂ with ⟨rfl, -, hreply⟩ | ⟨-, hold₂⟩
      · have hnew := (hnumber message₂ (Option.some.inj hreply).symm).1
        have hle := hbounded hold₁
        omega
      · exact h.sent req₁ req₂ request₁ request₂ message₁ message₂ hold₁ hold₂ hid
  · intro ch item hitem
    simp only [hchat] at hitem
    exact htracks (h.shown ch item hitem)
  · intro req' ch loadMore currentMessages beforeId reply' hget' item hitem
    rcases hold hget' with ⟨rfl, heq, -⟩ | ⟨-, hget'⟩
    · exact htracks (h.remembered req' ch loadMore currentMessages beforeId none (heq ▸ hget) item hitem)
    · exact htracks (h.remembered req' ch loadMore currentMessages beforeId reply' hget' item hitem)

theorem Tracked.resume {w : ChatWorld} (h : Tracked w) {req : Nat} {request : ChatRequest}
    {reply : Option ChatAnswer} (hget : w.pendingRequests.get? req = some (request, reply))
    {reply' : ChatAnswer}
    (hanswers : w.Answers request (some reply'))
    (hsent : ∀ message, reply' = .sent message → reply = some (.sent message)) :
    Tracked (ChatWorld.resume { w with pendingRequests := w.pendingRequests.delete req } req request
      reply').1 := by
  have hsame : ∀ ch, ∀ item ∈ w.chat.getMessagesFor ch, item.request = none ∨ w.Tracks ch item :=
    fun ch item hitem => .inr (h.shown ch item hitem)
  cases request with
  | getChatHistory channelId loadMore currentMessages beforeId =>
    cases reply' with
    | history messages hasMore =>
      refine h.ended hget rfl rfl rfl (.inl rfl) fun ch item hitem => ?_
      obtain hold | ⟨rfl, hpage | hcurrent⟩ := ChatNotifier.mem_historyLoaded hitem
      · exact hsame ch item hold
      · obtain ⟨m, -, rfl⟩ := List.mem_map.mp hpage
        exact .inl rfl
      · exact .inr (h.remembered _ _ _ _ _ _ hget item hcurrent)
    | sent message => exact hanswers.elim
    | error text => exact h.ended hget rfl rfl rfl (.inl rfl) hsame
  | sendChat channelId tempId content =>
    cases reply' with
    | history messages hasMore => exact hanswers.elim
    | sent message =>
      obtain ⟨-, hnumbered, -⟩ := hanswers
      refine h.ended hget rfl rfl rfl (.inr ⟨message, hsent message rfl, hnumbered.1, hnumbered.2, rfl⟩)
        fun ch item hitem => ?_
      obtain hold | ⟨rfl, rfl⟩ := ChatNotifier.mem_messageSent hitem
      · exact hsame ch item hold
      · exact .inl rfl
    | error text =>
      refine h.ended hget rfl rfl rfl (.inl rfl) fun ch item hitem => ?_
      obtain ⟨old, hold, hid, hreq⟩ := ChatNotifier.mem_sendFailed hitem
      have htracks := h.shown ch old hold
      unfold Tracks at htracks ⊢
      rw [hid, hreq] at htracks
      exact .inr htracks

theorem Tracked.step (trim : String → String) {w : ChatWorld} (hserved : Served w) (h : Tracked w)
    (e : ChatAct) : Tracked (w.step trim e).1 := by
  cases e with
  | change c =>
    exact h.of_lists rfl (w.database.seq_le_change c) rfl rfl fun ch item hitem => .inr (h.shown ch item hitem)
  | post p =>
    simp only [ChatWorld.step]
    rcases post_cases w p with hnone | ⟨message, -, -, hseq, hpost⟩
    · rw [hnone]
      exact h
    · rw [hpost]
      exact h.of_lists rfl (by simp only; omega) rfl rfl fun ch item hitem => .inr (h.shown ch item hitem)
  | chatMessage i =>
    simp only [ChatWorld.step]
    split
    · exact h
    · rename_i message hmessage
      have hpos := (hserved.broadcasts message (List.mem_of_getElem? hmessage)).1
      refine h.of_lists rfl (Nat.le_refl _) rfl rfl fun ch item hitem => ?_
      obtain hold | ⟨-, rfl⟩ :=
        ChatNotifier.mem_appendIncomingMessage (Message.fromJson_id_ne_zero hpos) hitem
      · exact .inr (h.shown ch item hold)
      · exact .inl rfl
  | loadMessages channelId loadMore =>
    simp only [ChatWorld.step, ChatNotifier.loadMessages]
    by_cases hloading : w.chat.isLoadingHistory = true
    · rw [if_pos hloading]
      exact h
    · rw [if_neg hloading]
      refine h.sendRequest _ _ (fun ch item hitem => .inl (h.shown ch item hitem)) ?_
      intro ch loadMore' currentMessages beforeId heq item hitem
      cases heq
      exact h.shown channelId item hitem
  | sendMessage channelId content senderName senderId now =>
    simp only [ChatWorld.step]
    split
    · exact h
    · refine h.sendRequest _ _ (fun ch item hitem => ?_) fun _ _ _ _ heq => by cases heq
      obtain hold | ⟨rfl, rfl⟩ := ChatNotifier.mem_sendMessage hitem
      · exact .inl (h.shown ch item hold)
      · exact .inr ⟨trim content, rfl, rfl⟩
  | serve req refused =>
    simp only [ChatWorld.step]
    split
    · rename_i request hget
      exact h.serve hserved hget refused
    · exact h
  | respond req =>
    simp only [ChatWorld.step]
    split
    · rename_i request reply hget
      exact h.resume hget (hserved.answers _ _ _ hget) fun message heq => heq ▸ rfl
    · exact h
  | fail req error =>
    simp only [ChatWorld.step]
    split
    · rename_i request reply hget
      exact h.resume hget ((hserved.answers _ _ _ hget).error error) fun message heq => by cases heq
    · exact h

/-- The lists that pending loads remember have no positive number twice. -/
def RemembersOnce (w : ChatWorld) : Prop :=
  ∀ req ch loadMore currentMessages beforeId reply,
    w.pendingRequests.get? req = some (.getChatHistory ch loadMore currentMessages beforeId, reply) →
      ∀ n : Int, 0 < n → (currentMessages.map Message.id).count n ≤ 1

/-- A step that writes other fields of the messages only. -/
theorem ShowsOnce.of_lists {w w' : ChatWorld} (h : ShowsOnce w) (hsettled : w'.settled = w.settled)
    (hlists : ∀ ch, ∃ f : Message → Message, w'.chat.getMessagesFor ch = (w.chat.getMessagesFor ch).map f ∧
      ∀ m, (f m).id = m.id ∧ (f m).request = m.request) : ShowsOnce w' := by
  constructor
  · intro ch n hn
    obtain ⟨f, hlist, hf⟩ := hlists ch
    have hids : Message.id ∘ f = Message.id := funext fun m => (hf m).1
    rw [hlist, List.map_map, hids]
    exact h.once ch n hn
  · intro req n hmem ch item hitem hreq confirmed hconfirmed
    obtain ⟨f, hlist, hf⟩ := hlists ch
    rw [hlist] at hitem hconfirmed
    obtain ⟨old, hold, rfl⟩ := List.mem_map.mp hitem
    obtain ⟨old', hold', rfl⟩ := List.mem_map.mp hconfirmed
    rw [(hf old).2] at hreq
    rw [(hf old').1]
    exact h.settled req n (hsettled ▸ hmem) ch old hold hreq old' hold'

theorem ShowsOnce.of_same {w w' : ChatWorld} (h : ShowsOnce w) (hsettled : w'.settled = w.settled)
    (hlists : ∀ ch, w'.chat.getMessagesFor ch = w.chat.getMessagesFor ch) : ShowsOnce w' :=
  h.of_lists hsettled fun ch => ⟨id, by rw [hlists ch, List.map_id], fun _ => ⟨rfl, rfl⟩⟩

/-- An event repeats nothing unless a settled optimistic message waits for it. -/
theorem showsOnce_chatMessage_iff {w : ChatWorld} (h : ShowsOnce w) {message : storage.Message}
    (hpos : 0 < message.id) (broadcasts : List storage.Message) :
    ShowsOnce { w with
        broadcasts
        chat := ChatNotifier.appendIncomingMessage w.chat (Message.fromJson message) } ↔
      (∃ item ∈ w.chat.getMessagesFor message.channelID, item.id = message.id) ∨
        ∀ req, (req, message.id) ∈ w.settled →
          ∀ item ∈ w.chat.getMessagesFor message.channelID, item.request ≠ some req := by
  have hid : (Message.fromJson message).id ≠ 0 := Message.fromJson_id_ne_zero hpos
  have hlist := ChatNotifier.getMessagesFor_appendIncomingMessage w.chat hid
  by_cases hshown : ∃ item ∈ w.chat.getMessagesFor message.channelID, item.id = message.id
  · refine iff_of_true (h.of_same rfl fun ch => ?_) (.inl hshown)
    simp only [hlist]
    rw [if_neg]
    rintro ⟨rfl, hnone⟩
    obtain ⟨item, hitem, heq⟩ := hshown
    exact hnone item hitem heq
  · have hnew : ∀ item ∈ w.chat.getMessagesFor message.channelID, item.id ≠ message.id :=
      fun item hitem heq => hshown ⟨item, hitem, heq⟩
    rw [or_iff_right hshown]
    constructor
    · intro hafter req hmem item hitem hreq
      have hin : item ∈ (ChatNotifier.appendIncomingMessage w.chat (Message.fromJson message)).getMessagesFor
          message.channelID := by
        rw [hlist, if_pos ⟨rfl, hnew⟩]
        exact List.mem_append_left _ hitem
      have hlast : Message.fromJson message ∈ (ChatNotifier.appendIncomingMessage w.chat
          (Message.fromJson message)).getMessagesFor message.channelID := by
        rw [hlist, if_pos ⟨rfl, hnew⟩]
        exact List.mem_append_right _ List.mem_cons_self
      exact hafter.settled req message.id hmem message.channelID item hin hreq _ hlast rfl
    · intro hsettled
      constructor
      · intro ch n hn
        simp only [hlist]
        split
        · rename_i hcond
          obtain ⟨rfl, hnone⟩ := hcond
          rw [List.map_append, List.count_append, List.map_singleton]
          by_cases heq : n = (Message.fromJson message).id
          · have hzero : ((w.chat.getMessagesFor message.channelID).map Message.id).count n = 0 := by
              rw [List.count_eq_zero, List.mem_map]
              rintro ⟨item, hitem, hitemId⟩
              exact hnew item hitem (hitemId.trans heq)
            rw [show (Message.fromJson message).channelId = message.channelID from rfl, hzero, heq,
              List.count_singleton_self]
          · have hone := h.once message.channelID n hn
            rw [List.count_singleton, beq_eq_false_iff_ne.mpr (Ne.symm heq), if_neg Bool.false_ne_true]
            exact hone
        · exact h.once ch n hn
      · intro req n hmem ch item hitem hreq confirmed hconfirmed heq
        simp only [hlist] at hitem hconfirmed
        split at hitem
        · rename_i hcond
          rw [if_pos hcond] at hconfirmed
          obtain ⟨rfl, -⟩ := hcond
          rcases List.mem_append.mp hitem with hold | hlast
          · rcases List.mem_append.mp hconfirmed with hold' | hlast'
            · exact h.settled req n hmem _ item hold hreq confirmed hold' heq
            · rw [List.mem_singleton.mp hlast'] at heq
              have hn : message.id = n := by
                simp only [Message.fromJson] at heq
                omega
              exact hsettled req (hn ▸ hmem) item hold hreq
          · rw [List.mem_singleton.mp hlast] at hreq
            cases hreq
        · rename_i hcond
          rw [if_neg hcond] at hconfirmed
          exact h.settled req n hmem ch item hitem hreq confirmed hconfirmed heq

/-- A page repeats nothing exactly when the load did not begin with one of its messages. -/
theorem showsOnce_historyLoaded_iff {w : ChatWorld} (h : ShowsOnce w) (hremembers : RemembersOnce w)
    {req : Nat} {channelId : UInt32} {loadMore : Bool} {currentMessages : List Message} {beforeId : Int}
    {reply : Option ChatAnswer}
    (hget : w.pendingRequests.get? req =
      some (.getChatHistory channelId loadMore currentMessages beforeId, reply))
    {messages : List storage.Message} {hasMore : Bool} (hpos : ∀ m ∈ messages, 0 < m.id)
    (hnodup : (messages.map storage.Message.id).Nodup) :
    ShowsOnce (resume { w with pendingRequests := w.pendingRequests.delete req } req
        (.getChatHistory channelId loadMore currentMessages beforeId) (.history messages hasMore)).1 ↔
      (loadMore = true →
        (∀ m ∈ messages, ∀ old ∈ currentMessages, old.id ≠ m.id) ∧
          ∀ req n, (req, n) ∈ w.settled → ∀ item ∈ currentMessages, item.request = some req →
            (∀ m ∈ messages, m.id ≠ n) ∧ ∀ old ∈ currentMessages, old.id ≠ n) := by
  have hlist : ∀ ch, (resume { w with pendingRequests := w.pendingRequests.delete req } req
      (.getChatHistory channelId loadMore currentMessages beforeId)
      (.history messages hasMore)).1.chat.getMessagesFor ch =
        if ch = channelId then messages.map Message.fromJson ++ (if loadMore then currentMessages else [])
        else w.chat.getMessagesFor ch :=
    fun ch => ChatNotifier.getMessagesFor_historyLoaded w.chat channelId ch loadMore currentMessages _ hasMore
  have hcount : ∀ n : Int, ((messages.map Message.fromJson).map Message.id).count n ≤ 1 := by
    intro n
    have hids : (messages.map Message.fromJson).map Message.id =
        (messages.map storage.Message.id).map fun id : Nat => (id : Int) := by
      rw [List.map_map, List.map_map]
      rfl
    rw [hids]
    exact List.nodup_iff_count_le_one.mp (hnodup.map fun _ _ => Int.ofNat_inj.mp) n
  constructor
  · rintro hafter rfl
    simp only [if_true] at hlist
    constructor
    · intro m hm old hold hid
      have honce := hafter.once channelId (m.id : Int) (by have := hpos m hm; omega)
      rw [hlist, if_pos rfl, List.map_append, List.count_append] at honce
      have hpage : 0 < ((messages.map Message.fromJson).map Message.id).count (m.id : Int) :=
        List.count_pos_iff.mpr (List.mem_map.mpr ⟨_, List.mem_map_of_mem hm, rfl⟩)
      have hcurrent : 0 < (currentMessages.map Message.id).count (m.id : Int) :=
        List.count_pos_iff.mpr (List.mem_map.mpr ⟨old, hold, hid⟩)
      omega
    · intro req' n hmem item hitem hreq
      have hitem' := List.mem_append_right (messages.map Message.fromJson) hitem
      have hsettled := hafter.settled req' n hmem channelId item (by rw [hlist, if_pos rfl]; exact hitem') hreq
      rw [hlist, if_pos rfl] at hsettled
      constructor
      · intro m hm hid
        exact hsettled (Message.fromJson m) (List.mem_append_left _ (List.mem_map_of_mem hm))
          (by simp only [Message.fromJson]; omega)
      · exact fun old hold => hsettled old (List.mem_append_right _ hold)
  · intro hkeeps
    constructor
    · intro ch n hn
      rw [hlist]
      split
      · rw [List.map_append, List.count_append]
        have hpage := hcount n
        cases loadMore with
        | false => simpa using hpage
        | true =>
          have hcurrent := hremembers _ _ _ _ _ _ hget n hn
          by_cases hboth : 0 < ((messages.map Message.fromJson).map Message.id).count n ∧
              0 < (currentMessages.map Message.id).count n
          · obtain ⟨item, hitem, hid⟩ := List.mem_map.mp (List.count_pos_iff.mp hboth.1)
            obtain ⟨m, hm, rfl⟩ := List.mem_map.mp hitem
            obtain ⟨old, hold, hid'⟩ := List.mem_map.mp (List.count_pos_iff.mp hboth.2)
            exact ((hkeeps rfl).1 m hm old hold (hid'.trans hid.symm)).elim
          · simp only [if_true]
            omega
      · exact h.once ch n hn
    · intro req' n hmem ch item hitem hreq confirmed hconfirmed hid
      rw [hlist] at hitem hconfirmed
      split at hitem
      · rw [if_pos (by assumption)] at hconfirmed
        rcases List.mem_append.mp hitem with hpage | hcurrent
        · obtain ⟨m, -, rfl⟩ := List.mem_map.mp hpage
          cases hreq
        · cases loadMore with
          | false => cases hcurrent
          | true =>
            obtain ⟨hnotPage, hnotCurrent⟩ := (hkeeps rfl).2 req' n hmem item hcurrent hreq
            rcases List.mem_append.mp hconfirmed with hpage' | hcurrent'
            · obtain ⟨m, hm, rfl⟩ := List.mem_map.mp hpage'
              exact hnotPage m hm (by simp only [Message.fromJson] at hid; omega)
            · exact hnotCurrent confirmed hcurrent' hid
      · rw [if_neg (by assumption)] at hconfirmed
        exact h.settled req' n hmem ch item hitem hreq confirmed hconfirmed hid

/-- Renaming an optimistic message adds its copies to those of the message. -/
theorem count_messageSent (tempId : Int) (confirmedMsg : Message) (n : Int) (hn : n ≠ tempId)
    (messages : List Message) :
    ((messages.map fun m => if m.id = tempId then confirmedMsg else m).map Message.id).count n =
      (messages.map Message.id).count n +
        if n = confirmedMsg.id then (messages.map Message.id).count tempId else 0 := by
  induction messages with
  | nil => split <;> rfl
  | cons m messages ih =>
    simp only [List.map_cons, List.count_cons, beq_iff_eq]
    rw [ih]
    by_cases htemp : m.id = tempId
    · by_cases hconfirmed : n = confirmedMsg.id
      · simp only [htemp, hconfirmed, if_true]
        rw [if_neg (by omega : tempId ≠ confirmedMsg.id)]
        omega
      · simp only [htemp, if_true, if_neg hconfirmed]
        rw [if_neg (Ne.symm hconfirmed), if_neg (Ne.symm hn)]
    · simp only [if_neg htemp]
      split <;> split <;> omega

/-- The answer to a send repeats nothing exactly when it finds one optimistic message and
not yet the message, or no optimistic message. -/
theorem showsOnce_messageSent_iff {w : ChatWorld} (htracked : Tracked w) (h : ShowsOnce w)
    {req : Nat} {channelId : UInt32} {tempId : Int} {content : String} {message : storage.Message}
    (hget : w.pendingRequests.get? req = some (.sendChat channelId tempId content, some (.sent message)))
    (htemp : tempId ≤ 0) (hpos : 0 < message.id) :
    ShowsOnce (resume { w with pendingRequests := w.pendingRequests.delete req } req
        (.sendChat channelId tempId content) (.sent message)).1 ↔
      ((w.chat.getMessagesFor channelId).map Message.id).count tempId +
        ((w.chat.getMessagesFor channelId).map Message.id).count (message.id : Int) ≤ 1 := by
  have hlist : ∀ ch, (resume { w with pendingRequests := w.pendingRequests.delete req } req
      (.sendChat channelId tempId content) (.sent message)).1.chat.getMessagesFor ch =
        if ch = channelId
        then (w.chat.getMessagesFor channelId).map fun m =>
          if m.id = tempId then Message.fromJson message else m
        else w.chat.getMessagesFor ch :=
    fun ch => ChatNotifier.getMessagesFor_messageSent w.chat channelId ch tempId _
  have hcount := fun n hn => count_messageSent tempId (Message.fromJson message) n hn
    (w.chat.getMessagesFor channelId)
  constructor
  · intro hafter
    have honce := hafter.once channelId (message.id : Int) (by omega)
    rw [hlist, if_pos rfl, hcount _ (by omega)] at honce
    simp only [Message.fromJson, if_true] at honce
    omega
  · intro hkeeps
    constructor
    · intro ch n hn
      rw [hlist]
      split
      · rename_i hch
        subst hch
        rw [hcount n (by omega)]
        have hone := h.once ch n hn
        split
        · rename_i heq
          subst heq
          simp only [Message.fromJson]
          omega
        · omega
      · exact h.once ch n hn
    · intro req' n hmem ch item hitem hreq confirmed hconfirmed hid
      -- An item that still stands for a request was not renamed.
      have hold : item ∈ w.chat.getMessagesFor ch ∧ ¬ (ch = channelId ∧ item.id = tempId) := by
        rw [hlist] at hitem
        split at hitem
        · rename_i hch
          subst hch
          obtain ⟨old, hold, heq⟩ := List.mem_map.mp hitem
          split at heq
          · subst heq
            cases hreq
          · rename_i hne
            subst heq
            exact ⟨hold, fun hboth => hne hboth.2⟩
        · rename_i hch
          exact ⟨hitem, fun hboth => hch hboth.1⟩
      rcases List.mem_cons.mp hmem with heq | hbefore
      · cases heq
        obtain ⟨hch, hid'⟩ := (htracked.shown ch item hold.1 req hreq).2 _ _ _ _ hget
        exact hold.2 ⟨hch.symm, hid'⟩
      · have hdifferent := (htracked.settled req' n hbefore).2.2.2.2 req _ message hget
        rw [hlist] at hconfirmed
        split at hconfirmed
        · rename_i hch
          subst hch
          obtain ⟨old', hold', heq⟩ := List.mem_map.mp hconfirmed
          split at heq
          · subst heq
            simp only [Message.fromJson] at hid
            omega
          · subst heq
            exact h.settled req' n hbefore ch item hold.1 hreq old' hold' hid
        · exact h.settled req' n hbefore ch item hold.1 hreq confirmed hconfirmed hid

/-- An optimistic message has a number of its own kind and a new request. -/
theorem ShowsOnce.sendMessage {w : ChatWorld} (h : ShowsOnce w) (htracked : Tracked w) {chat : ChatState}
    {channelId : UInt32} {optimisticMsg : Message} (htemp : optimisticMsg.id ≤ 0)
    (hrequest : optimisticMsg.request = some (w.requestIdCounter + 1))
    (hlist : ∀ ch, chat.getMessagesFor ch =
      if ch = channelId then w.chat.getMessagesFor channelId ++ [optimisticMsg] else w.chat.getMessagesFor ch)
    (request : ChatRequest) : ShowsOnce (({ w with chat } : ChatWorld).sendRequest request) := by
  constructor
  · intro ch n hn
    simp only [ChatWorld.sendRequest, hlist]
    split
    · rename_i hch
      subst hch
      have hone := h.once ch n hn
      have hzero : [optimisticMsg.id].count n = 0 := by
        rw [List.count_eq_zero, List.mem_singleton]
        omega
      rw [List.map_append, List.map_singleton, List.count_append, hzero]
      exact hone
    · exact h.once ch n hn
  · intro req n hmem ch item hitem hreq confirmed hconfirmed hid
    have hbefore := htracked.settled req n hmem
    simp only [ChatWorld.sendRequest, hlist] at hitem hconfirmed
    split at hitem
    · rename_i hch
      rw [if_pos hch] at hconfirmed
      subst hch
      rcases List.mem_append.mp hitem with hold | hlast
      · rcases List.mem_append.mp hconfirmed with hold' | hlast'
        · exact h.settled req n hmem ch item hold hreq confirmed hold' hid
        · rw [List.mem_singleton.mp hlast'] at hid
          omega
      · rw [List.mem_singleton.mp hlast, hrequest] at hreq
        cases hreq
        omega
    · rename_i hch
      rw [if_neg hch] at hconfirmed
      exact h.settled req n hmem ch item hitem hreq confirmed hconfirmed hid

/-- A failed request leaves the numbers alone. -/
theorem ShowsOnce.failed {w : ChatWorld} (h : ShowsOnce w) (req : Nat) (request : ChatRequest) (text : String) :
    ShowsOnce (resume { w with pendingRequests := w.pendingRequests.delete req } req request
      (.error text)).1 := by
  cases request with
  | getChatHistory channelId loadMore currentMessages beforeId => exact h.of_same rfl fun ch => rfl
  | sendChat channelId tempId content =>
    refine h.of_lists rfl fun ch => ?_
    by_cases hch : ch = channelId
    · subst hch
      refine ⟨fun m => if m.id = tempId then { m with isPending := false, hasFailed := true } else m, ?_, ?_⟩
      · simp only [ChatWorld.resume, ChatNotifier.getMessagesFor_sendFailed, if_true]
      · intro m
        by_cases htemp : m.id = tempId
        · simp only [if_pos htemp, and_self]
        · simp only [if_neg htemp, and_self]
    · refine ⟨id, ?_, fun _ => ⟨rfl, rfl⟩⟩
      simp only [ChatWorld.resume, ChatNotifier.getMessagesFor_sendFailed, if_neg hch, List.map_id]

/-- One step: everything is shown once afterwards exactly when the step repeats nothing. -/
theorem showsOnce_step_iff (trim : String → String) {w : ChatWorld} (hserved : Served w)
    (htracked : Tracked w) (hremembers : RemembersOnce w) (h : ShowsOnce w) (e : ChatAct) :
    ShowsOnce (w.step trim e).1 ↔ w.KeepsOnce e := by
  cases e with
  | change c => exact iff_of_true (h.of_same rfl fun ch => rfl) trivial
  | post p =>
    refine iff_of_true ?_ trivial
    simp only [ChatWorld.step]
    rcases post_cases w p with hnone | ⟨message, -, -, -, hpost⟩
    · rw [hnone]
      exact h
    · rw [hpost]
      exact h.of_same rfl fun ch => rfl
  | chatMessage i =>
    simp only [ChatWorld.step, KeepsOnce]
    cases hmessage : w.broadcasts[i]? with
    | none => exact iff_of_true h trivial
    | some message =>
      have hpos := (hserved.broadcasts message (List.mem_of_getElem? hmessage)).1
      exact showsOnce_chatMessage_iff h hpos _
  | loadMessages channelId loadMore =>
    refine iff_of_true ?_ trivial
    simp only [ChatWorld.step, ChatNotifier.loadMessages]
    by_cases hloading : w.chat.isLoadingHistory = true
    · rw [if_pos hloading]
      exact h
    · rw [if_neg hloading]
      exact h.of_same rfl fun ch => rfl
  | sendMessage channelId content senderName senderId now =>
    refine iff_of_true ?_ trivial
    simp only [ChatWorld.step]
    split
    · exact h
    · exact h.sendMessage htracked (by simp only; omega) rfl
        (fun ch => ChatNotifier.getMessagesFor_sendMessage w.chat channelId ch _ _ _ _ _) _
  | serve req refused =>
    refine iff_of_true ?_ trivial
    simp only [ChatWorld.step]
    split
    · rename_i request hget
      obtain ⟨hchat, -, -, hsettled⟩ := serve_frame w request refused
      exact h.of_same hsettled fun ch => congrArg (fun chat => chat.getMessagesFor ch) hchat
    · exact h
  | respond req =>
    simp only [ChatWorld.step, KeepsOnce]
    cases hget : w.pendingRequests.get? req with
    | none => exact iff_of_true h trivial
    | some waiting =>
      obtain ⟨request, reply⟩ := waiting
      have hanswers := hserved.answers _ _ _ hget
      cases reply with
      | none => cases request <;> exact iff_of_true h trivial
      | some reply =>
        cases request with
        | getChatHistory channelId loadMore currentMessages beforeId =>
          cases reply with
          | history messages hasMore =>
            exact showsOnce_historyLoaded_iff h hremembers hget (fun m hm => (hanswers.1 m hm).1.1) hanswers.2
          | sent message => exact hanswers.elim
          | error text => exact iff_of_true (h.failed req _ text) trivial
        | sendChat channelId tempId content =>
          cases reply with
          | history messages hasMore => exact hanswers.elim
          | sent message => exact showsOnce_messageSent_iff htracked h hget hanswers.1 hanswers.2.1.1
          | error text => exact iff_of_true (h.failed req (.sendChat channelId tempId content) text) trivial
  | fail req error =>
    refine iff_of_true ?_ trivial
    simp only [ChatWorld.step]
    split
    · exact h.failed req _ error
    · exact h

/-- What a load remembers is a list the channel showed. -/
theorem RemembersOnce.step (trim : String → String) {w : ChatWorld} (hremembers : RemembersOnce w)
    (h : ShowsOnce w) (e : ChatAct) : RemembersOnce (w.step trim e).1 := by
  have hdelete : ∀ {w' : ChatWorld} {req : Nat}, w'.pendingRequests = w.pendingRequests.delete req →
      RemembersOnce w' := by
    intro w' req hpending req' ch loadMore currentMessages beforeId reply hget
    rw [hpending, GoMap.get?_delete] at hget
    split at hget
    · cases hget
    · exact hremembers _ _ _ _ _ _ hget
  cases e with
  | change c => exact hremembers
  | post p =>
    simp only [ChatWorld.step]
    rcases post_cases w p with hnone | ⟨message, -, -, -, hpost⟩
    · rw [hnone]
      exact hremembers
    · rw [hpost]
      exact hremembers
  | chatMessage i =>
    simp only [ChatWorld.step]
    split <;> exact hremembers
  | loadMessages channelId loadMore =>
    simp only [ChatWorld.step, ChatNotifier.loadMessages]
    by_cases hloading : w.chat.isLoadingHistory = true
    · rw [if_pos hloading]
      exact hremembers
    · rw [if_neg hloading]
      intro req ch loadMore' currentMessages beforeId reply hget
      simp only [sendRequest, GoMap.get?_set] at hget
      split at hget
      · cases hget
        exact h.once channelId
      · exact hremembers _ _ _ _ _ _ hget
  | sendMessage channelId content senderName senderId now =>
    simp only [ChatWorld.step]
    split
    · exact hremembers
    · intro req ch loadMore currentMessages beforeId reply hget
      simp only [sendRequest, GoMap.get?_set] at hget
      split at hget
      · cases hget
      · exact hremembers _ _ _ _ _ _ hget
  | serve req refused =>
    simp only [ChatWorld.step]
    split
    · rename_i request hget
      obtain ⟨-, hpending, -⟩ := serve_frame w request refused
      intro req' ch loadMore currentMessages beforeId reply hget'
      simp only [hpending, GoMap.get?_set] at hget'
      split at hget'
      · cases hget'
        exact hremembers _ _ _ _ _ _ hget
      · exact hremembers _ _ _ _ _ _ hget'
    · exact hremembers
  | respond req =>
    simp only [ChatWorld.step]
    split
    · unfold resume
      split <;> exact hdelete rfl
    · exact hremembers
  | fail req error =>
    simp only [ChatWorld.step]
    split
    · unfold resume
      split <;> exact hdelete rfl
    · exact hremembers

/-- The chat client shows each message once, exactly as long as no step repeats one. -/
theorem showsOnce_run_iff (trim : String → String) (changes : List storage.Database.Change)
    (userID : UInt32) (es : List ChatAct) :
    (∀ pre post, es = pre ++ post → ShowsOnce ((machine trim).run (initial changes userID) pre)) ↔
      Machine.Along (fun pre e => ((machine trim).run (initial changes userID) pre).KeepsOnce e) es := by
  generalize hw₀ : initial changes userID = w₀
  have hempty : ∀ ch, w₀.chat.getMessagesFor ch = [] := by
    intro ch
    simp [← hw₀, initial, ChatState.initial, ChatState.getMessagesFor]
  have hnone : ∀ req, w₀.pendingRequests.get? req = none := by
    intro req
    simp [← hw₀, initial]
  have hsettled : w₀.settled = [] := by simp [← hw₀, initial]
  have hinit : ShowsOnce w₀ := by
    constructor
    · intro ch n _
      simp [hempty]
    · intro req n hmem
      simp [hsettled] at hmem
  rw [Machine.forall_front_iff (P := fun pre => ShowsOnce ((machine trim).run w₀ pre)) hinit]
  refine Machine.along_iff_along (fun _ _ => True)
    (fun pre => Served ((machine trim).run w₀ pre) ∧ Tracked ((machine trim).run w₀ pre) ∧
      RemembersOnce ((machine trim).run w₀ pre) ∧ ShowsOnce ((machine trim).run w₀ pre)) ?_ ?_ ?_ es
    fun _ _ _ _ => trivial
  · refine ⟨hw₀ ▸ served_initial changes userID, ?_, ?_, hinit⟩
    · constructor <;> simp [hempty, hnone, hsettled]
    · intro req ch loadMore currentMessages beforeId reply hget
      simp [hnone] at hget
  · rintro pre e - ⟨hserved, htracked, hremembers, hshows⟩
    rw [← showsOnce_step_iff trim hserved htracked hremembers hshows e, Machine.run_concat]
    rfl
  · rintro pre e - ⟨hserved, htracked, hremembers, hshows⟩ hkeeps
    rw [Machine.run_concat]
    exact ⟨hserved.step trim e, htracked.step trim hserved e, hremembers.step trim hshows e,
      (showsOnce_step_iff trim hserved htracked hremembers hshows e).mpr hkeeps⟩

/-- The event of a message that arrives before the answer to its send leaves two copies. -/
theorem not_showsOnce_event_first :
    ¬ ∀ es pre post, es = pre ++ post →
      ShowsOnce ((machine id).run (initial [.createUser "ann" "hash"] 1) pre) := by
  intro h
  have hrun := h [.sendMessage 1 "hi" "ann" 1 1000, .serve 1 none, .chatMessage 0, .respond 1] _ []
    (List.append_nil _).symm
  have hcount : (((machine id).run (initial [.createUser "ann" "hash"] 1)
      [.sendMessage 1 "hi" "ann" 1 1000, .serve 1 none, .chatMessage 0,
        .respond 1]).chat.getMessagesFor 1).map Message.id = [1, 1] := rfl
  have honce := hrun.once 1 1 (by decide)
  rw [hcount] at honce
  exact absurd honce (by decide)

end low_latency_voice.client.state.ChatWorld

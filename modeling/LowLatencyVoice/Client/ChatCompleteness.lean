import LowLatencyVoice.Client.Chat

open low_latency_voice.model

namespace low_latency_voice.client.state.ChatWorld

/-- The client shows a message in its channel. -/
def Shows (w : ChatWorld) (m : storage.Message) : Prop :=
  ∃ item ∈ w.chat.getMessagesFor m.channelID, item.id = m.id

/-- A step that drops nothing: a page holds every confirmed message the channel shows
now, or with `loadMore` it showed it when the load began; and when the answer to a
send arrives, its optimistic message is still there, or the message itself. -/
def KeepsMessages (w : ChatWorld) : ChatAct → Prop
  | .respond req =>
    match w.pendingRequests.get? req with
    | some (.getChatHistory channelId loadMore currentMessages _, some (.history messages _)) =>
      ∀ item ∈ w.chat.getMessagesFor channelId, 0 < item.id →
        (∃ m ∈ messages, (m.id : Int) = item.id) ∨ loadMore = true ∧ ∃ old ∈ currentMessages, old.id = item.id
    | some (.sendChat channelId tempId _, some (.sent message)) =>
      ∃ item ∈ w.chat.getMessagesFor channelId, item.id = tempId ∨ item.id = message.id
    | _ => True
  | _ => True

/-- The messages received so far: whatever has a positive number in a list, or in a list
that a pending load remembers, is one of them. -/
structure Accounted (received : storage.Message → Prop) (w : ChatWorld) : Prop where
  pos : ∀ m, received m → 0 < m.id
  shown : ∀ ch, ∀ item ∈ w.chat.getMessagesFor ch, 0 < item.id →
    ∃ m, received m ∧ m.channelID = ch ∧ (m.id : Int) = item.id
  remembered : ∀ req ch loadMore currentMessages beforeId reply,
    w.pendingRequests.get? req = some (.getChatHistory ch loadMore currentMessages beforeId, reply) →
      ∀ item ∈ currentMessages, 0 < item.id → ∃ m, received m ∧ m.channelID = ch ∧ (m.id : Int) = item.id

/-- What a step has to show of the lists it leaves. -/
theorem Accounted.of_lists {received received' : storage.Message → Prop} {w w' : ChatWorld}
    (h : Accounted received w) (hmore : ∀ m, received m → received' m)
    (hpos : ∀ m, received' m → 0 < m.id)
    (hshown : ∀ ch, ∀ item ∈ w'.chat.getMessagesFor ch, 0 < item.id →
      (∃ old ∈ w.chat.getMessagesFor ch, old.id = item.id) ∨
        ∃ m, received' m ∧ m.channelID = ch ∧ (m.id : Int) = item.id)
    (hremembered : ∀ req ch loadMore currentMessages beforeId reply,
      w'.pendingRequests.get? req = some (.getChatHistory ch loadMore currentMessages beforeId, reply) →
        (∃ reply', w.pendingRequests.get? req =
          some (.getChatHistory ch loadMore currentMessages beforeId, reply')) ∨
        currentMessages = w.chat.getMessagesFor ch) :
    Accounted received' w' := by
  refine ⟨hpos, fun ch item hitem hid => ?_, fun req ch loadMore currentMessages beforeId reply hget item
    hitem hid => ?_⟩
  · rcases hshown ch item hitem hid with ⟨old, hold, heq⟩ | hnew
    · obtain ⟨m, hm, hch, hmid⟩ := h.shown ch old hold (by omega)
      exact ⟨m, hmore m hm, hch, hmid.trans heq⟩
    · exact hnew
  · rcases hremembered req ch loadMore currentMessages beforeId reply hget with ⟨reply', hold⟩ | hlist
    · obtain ⟨m, hm, hch, hmid⟩ :=
        h.remembered req ch loadMore currentMessages beforeId reply' hold item hitem hid
      exact ⟨m, hmore m hm, hch, hmid⟩
    · rw [hlist] at hitem
      obtain ⟨m, hm, hch, hmid⟩ := h.shown ch item hitem hid
      exact ⟨m, hmore m hm, hch, hmid⟩

/-- A request that is removed leaves the others. -/
theorem remembered_delete {w : ChatWorld} (req : Nat) :
    ∀ req' ch loadMore currentMessages beforeId reply,
      (w.pendingRequests.delete req).get? req' =
        some (ChatRequest.getChatHistory ch loadMore currentMessages beforeId, reply) →
      (∃ reply', w.pendingRequests.get? req' =
          some (.getChatHistory ch loadMore currentMessages beforeId, reply')) ∨
        currentMessages = w.chat.getMessagesFor ch := by
  intro req' ch loadMore currentMessages beforeId reply hget
  rw [GoMap.get?_delete] at hget
  split at hget
  · cases hget
  · exact .inl ⟨reply, hget⟩

theorem Accounted.resume {received : storage.Message → Prop} {w : ChatWorld} (h : Accounted received w)
    {req : Nat} {request : ChatRequest} {reply : Option ChatAnswer}
    (hget : w.pendingRequests.get? req = some (request, reply)) (reply' : ChatAnswer)
    (hanswers : w.Answers request (some reply')) :
    Accounted
      (fun m => m ∈ (resume { w with pendingRequests := w.pendingRequests.delete req } req request reply').2 ∨
        received m)
      (resume { w with pendingRequests := w.pendingRequests.delete req } req request reply').1 := by
  cases request with
  | getChatHistory channelId loadMore currentMessages beforeId =>
    cases reply' with
    | history messages hasMore =>
      refine h.of_lists (fun m hm => .inr hm) ?_ ?_ (remembered_delete req)
      · rintro m (hm | hm)
        · exact (hanswers.1 m hm).1.1
        · exact h.pos m hm
      · intro ch item hitem hid
        obtain hold | ⟨rfl, hpage | hcurrent⟩ := ChatNotifier.mem_historyLoaded hitem
        · exact .inl ⟨item, hold, rfl⟩
        · obtain ⟨m, hm, rfl⟩ := List.mem_map.mp hpage
          exact .inr ⟨m, .inl hm, (hanswers.1 m hm).2, rfl⟩
        · obtain ⟨m, hm, hch, hmid⟩ := h.remembered _ _ _ _ _ _ hget item hcurrent hid
          exact .inr ⟨m, .inr hm, hch, hmid⟩
    | sent message =>
      exact h.of_lists (fun m hm => .inr hm) (by rintro m (hm | hm); cases hm; exact h.pos m hm)
        (fun ch item hitem hid => .inl ⟨item, hitem, rfl⟩) (remembered_delete req)
    | error text =>
      exact h.of_lists (fun m hm => .inr hm) (by rintro m (hm | hm); cases hm; exact h.pos m hm)
        (fun ch item hitem hid => .inl ⟨item, hitem, rfl⟩) (remembered_delete req)
  | sendChat channelId tempId content =>
    cases reply' with
    | history messages hasMore =>
      exact h.of_lists (fun m hm => .inr hm) (by rintro m (hm | hm); cases hm; exact h.pos m hm)
        (fun ch item hitem hid => .inl ⟨item, hitem, rfl⟩) (remembered_delete req)
    | sent message =>
      obtain ⟨htemp, hnumbered, hchannel⟩ := hanswers
      refine h.of_lists (fun m hm => .inr hm) ?_ ?_ (remembered_delete req)
      · rintro m (hm | hm)
        · rw [List.mem_singleton.mp hm]
          exact hnumbered.1
        · exact h.pos m hm
      · intro ch item hitem hid
        obtain hold | ⟨rfl, rfl⟩ := ChatNotifier.mem_messageSent hitem
        · exact .inl ⟨item, hold, rfl⟩
        · exact .inr ⟨message, .inl List.mem_cons_self, hchannel, rfl⟩
    | error text =>
      refine h.of_lists (fun m hm => .inr hm) (by rintro m (hm | hm); cases hm; exact h.pos m hm) ?_
        (remembered_delete req)
      intro ch item hitem _
      obtain ⟨old, hold, hid, -⟩ := ChatNotifier.mem_sendFailed hitem
      exact .inl ⟨old, hold, hid⟩

theorem Accounted.step (trim : String → String) {received : storage.Message → Prop} {w : ChatWorld}
    (hserved : Served w) (h : Accounted received w) (e : ChatAct) :
    Accounted (fun m => m ∈ (w.step trim e).2 ∨ received m) (w.step trim e).1 := by
  have hnothing : ∀ m, m ∈ ([] : List storage.Message) ∨ received m → 0 < m.id := by
    rintro m (hm | hm)
    · cases hm
    · exact h.pos m hm
  have hsame : Accounted (fun m => m ∈ ([] : List storage.Message) ∨ received m) w :=
    h.of_lists (fun m hm => .inr hm) hnothing (fun ch item hitem hid => .inl ⟨item, hitem, rfl⟩)
      fun _ _ _ _ _ _ hget => .inl ⟨_, hget⟩
  cases e with
  | change c => exact ⟨hsame.pos, hsame.shown, hsame.remembered⟩
  | post p =>
    simp only [ChatWorld.step]
    rcases post_cases w p with hnone | ⟨message, -, -, -, hpost⟩
    · rw [hnone]
      exact hsame
    · rw [hpost]
      exact ⟨hsame.pos, hsame.shown, hsame.remembered⟩
  | chatMessage i =>
    simp only [ChatWorld.step]
    split
    · exact hsame
    · rename_i message hmessage
      have hpos := (hserved.broadcasts message (List.mem_of_getElem? hmessage)).1
      refine h.of_lists (fun m hm => .inr hm) ?_ ?_ fun _ _ _ _ _ _ hget => .inl ⟨_, hget⟩
      · rintro m (hm | hm)
        · rw [List.mem_singleton.mp hm]
          exact hpos
        · exact h.pos m hm
      · intro ch item hitem _
        obtain hold | ⟨hch, rfl⟩ :=
          ChatNotifier.mem_appendIncomingMessage (Message.fromJson_id_ne_zero hpos) hitem
        · exact .inl ⟨item, hold, rfl⟩
        · exact .inr ⟨message, .inl List.mem_cons_self, hch.symm, rfl⟩
  | loadMessages channelId loadMore =>
    simp only [ChatWorld.step, ChatNotifier.loadMessages]
    by_cases hloading : w.chat.isLoadingHistory = true
    · rw [if_pos hloading]
      exact hsame
    · rw [if_neg hloading]
      refine h.of_lists (fun m hm => .inr hm) hnothing (fun ch item hitem _ => .inl ⟨item, hitem, rfl⟩) ?_
      intro req ch loadMore' currentMessages beforeId reply hget
      simp only [sendRequest, GoMap.get?_set] at hget
      split at hget
      · cases hget
        exact .inr rfl
      · exact .inl ⟨_, hget⟩
  | sendMessage channelId content senderName senderId now =>
    simp only [ChatWorld.step]
    split
    · exact hsame
    · refine h.of_lists (fun m hm => .inr hm) hnothing ?_ ?_
      · intro ch item hitem hid
        obtain hold | ⟨rfl, rfl⟩ := ChatNotifier.mem_sendMessage hitem
        · exact .inl ⟨item, hold, rfl⟩
        · simp only at hid
          omega
      · intro req ch loadMore currentMessages beforeId reply hget
        simp only [sendRequest, GoMap.get?_set] at hget
        split at hget
        · cases hget
        · exact .inl ⟨_, hget⟩
  | serve req refused =>
    simp only [ChatWorld.step]
    split
    · rename_i request hget
      obtain ⟨hchat, hpending, -⟩ := serve_frame w request refused
      refine h.of_lists (fun m hm => .inr hm) hnothing ?_ ?_
      · intro ch item hitem _
        simp only [hchat] at hitem
        exact .inl ⟨item, hitem, rfl⟩
      · intro req' ch loadMore currentMessages beforeId reply hget'
        simp only [hpending, GoMap.get?_set] at hget'
        split at hget'
        · rename_i heq
          cases hget'
          exact .inl ⟨none, heq ▸ hget⟩
        · exact .inl ⟨_, hget'⟩
    · exact hsame
  | respond req =>
    simp only [ChatWorld.step]
    split
    · rename_i request reply hget
      exact h.resume hget reply (hserved.answers _ _ _ hget)
    · exact hsame
  | fail req error =>
    simp only [ChatWorld.step]
    split
    · rename_i request reply hget
      exact h.resume hget _ ((hserved.answers _ _ _ hget).error error)
    · exact hsame

/-- Lists that keep every positive number keep showing what they showed. -/
theorem shows_of_lists {received : storage.Message → Prop} {w w' : ChatWorld}
    (hpos : ∀ m, received m → 0 < m.id) (hshown : ∀ m, received m → w.Shows m)
    (hlists : ∀ ch, ∀ old ∈ w.chat.getMessagesFor ch, 0 < old.id →
      ∃ item ∈ w'.chat.getMessagesFor ch, item.id = old.id) :
    ∀ m, m ∈ ([] : List storage.Message) ∨ received m → w'.Shows m := by
  rintro m (hm | hm)
  · cases hm
  · obtain ⟨old, hold, hid⟩ := hshown m hm
    have hmpos := hpos m hm
    obtain ⟨item, hitem, heq⟩ := hlists m.channelID old hold (by omega)
    exact ⟨item, hitem, heq.trans hid⟩

/-- A page keeps what was received exactly when it keeps what the channel shows. -/
theorem shows_historyLoaded_iff {received : storage.Message → Prop} {w : ChatWorld}
    (h : Accounted received w) (hshown : ∀ m, received m → w.Shows m) {req : Nat} {channelId : UInt32}
    {loadMore : Bool} {currentMessages : List Message} {beforeId : Int} {messages : List storage.Message}
    {hasMore : Bool} (hchannel : ∀ m ∈ messages, m.channelID = channelId) :
    (∀ m, m ∈ messages ∨ received m →
      (resume { w with pendingRequests := w.pendingRequests.delete req } req
        (.getChatHistory channelId loadMore currentMessages beforeId) (.history messages hasMore)).1.Shows m) ↔
      ∀ item ∈ w.chat.getMessagesFor channelId, 0 < item.id →
        (∃ m ∈ messages, (m.id : Int) = item.id) ∨
          loadMore = true ∧ ∃ old ∈ currentMessages, old.id = item.id := by
  simp only [Shows, ChatWorld.resume, ChatNotifier.getMessagesFor_historyLoaded]
  constructor
  · intro hkept item hitem hid
    obtain ⟨m, hm, hch, hmid⟩ := h.shown channelId item hitem hid
    obtain ⟨item', hitem', heq⟩ := hkept m (.inr hm)
    rw [if_pos hch] at hitem'
    rcases List.mem_append.mp hitem' with hpage | hcurrent
    · obtain ⟨m', hm', rfl⟩ := List.mem_map.mp hpage
      exact .inl ⟨m', hm', heq.trans hmid⟩
    · split at hcurrent
      · rename_i hmore
        exact .inr ⟨hmore, item', hcurrent, heq.trans hmid⟩
      · cases hcurrent
  · rintro hkeeps m (hm | hm)
    · rw [if_pos (hchannel m hm)]
      exact ⟨Message.fromJson m, List.mem_append_left _ (List.mem_map_of_mem hm), rfl⟩
    · obtain ⟨old, hold, hid⟩ := hshown m hm
      have hpos := h.pos m hm
      by_cases hch : m.channelID = channelId
      · rw [if_pos hch]
        rw [hch] at hold
        rcases hkeeps old hold (by omega) with ⟨m', hm', heq⟩ | ⟨hmore, old', hold', heq⟩
        · exact ⟨Message.fromJson m', List.mem_append_left _ (List.mem_map_of_mem hm'), heq.trans hid⟩
        · refine ⟨old', List.mem_append_right _ ?_, heq.trans hid⟩
          rw [if_pos hmore]
          exact hold'
      · rw [if_neg hch]
        exact ⟨old, hold, hid⟩

/-- The answer to a send is shown exactly when its optimistic message is still there,
or the message itself. -/
theorem shows_messageSent_iff {received : storage.Message → Prop} {w : ChatWorld}
    (h : Accounted received w) (hshown : ∀ m, received m → w.Shows m) {req : Nat} {channelId : UInt32}
    {tempId : Int} {content : String} {message : storage.Message} (htemp : tempId ≤ 0)
    (hchannel : message.channelID = channelId) :
    (∀ m, m ∈ [message] ∨ received m →
      (resume { w with pendingRequests := w.pendingRequests.delete req } req
        (.sendChat channelId tempId content) (.sent message)).1.Shows m) ↔
      ∃ item ∈ w.chat.getMessagesFor channelId, item.id = tempId ∨ item.id = message.id := by
  simp only [Shows, ChatWorld.resume, ChatNotifier.getMessagesFor_messageSent]
  constructor
  · intro hkept
    obtain ⟨item, hitem, hid⟩ := hkept message (.inl List.mem_cons_self)
    rw [if_pos hchannel] at hitem
    obtain ⟨old, hold, heq⟩ := List.mem_map.mp hitem
    split at heq
    · rename_i htempId
      exact ⟨old, hold, .inl htempId⟩
    · rw [heq] at hold
      exact ⟨item, hold, .inr hid⟩
  · rintro ⟨old, hold, hid⟩ m (hm | hm)
    · rw [List.mem_singleton.mp hm, if_pos hchannel]
      by_cases htempId : old.id = tempId
      · refine ⟨Message.fromJson message, List.mem_map.mpr ⟨old, hold, if_pos htempId⟩, rfl⟩
      · refine ⟨old, List.mem_map.mpr ⟨old, hold, if_neg htempId⟩, ?_⟩
        exact hid.resolve_left htempId
    · obtain ⟨old', hold', hid'⟩ := hshown m hm
      have hpos := h.pos m hm
      by_cases hch : m.channelID = channelId
      · rw [if_pos hch]
        rw [hch] at hold'
        exact ⟨old', List.mem_map.mpr ⟨old', hold', if_neg (by omega)⟩, hid'⟩
      · rw [if_neg hch]
        exact ⟨old', hold', hid'⟩

/-- A failed request leaves every number in its list. -/
theorem shows_failed {received : storage.Message → Prop} {w : ChatWorld} (h : Accounted received w)
    (hshown : ∀ m, received m → w.Shows m) (req : Nat) (request : ChatRequest) (text : String) :
    ∀ m, m ∈ (resume { w with pendingRequests := w.pendingRequests.delete req } req request (.error text)).2 ∨
        received m →
      (resume { w with pendingRequests := w.pendingRequests.delete req } req request
        (.error text)).1.Shows m := by
  cases request with
  | getChatHistory channelId loadMore currentMessages beforeId =>
    exact shows_of_lists h.pos hshown fun ch old hold _ => ⟨old, hold, rfl⟩
  | sendChat channelId tempId content =>
    refine shows_of_lists h.pos hshown fun ch old hold hid => ?_
    simp only [ChatWorld.resume, ChatNotifier.getMessagesFor_sendFailed]
    split
    · rename_i hch
      subst hch
      refine ⟨_, List.mem_map_of_mem hold, ?_⟩
      split <;> rfl
    · exact ⟨old, hold, rfl⟩

/-- An incoming message is appended, unless its number is in the list. -/
theorem shows_appendIncomingMessage {received : storage.Message → Prop} {w : ChatWorld}
    (hshown : ∀ m, received m → w.Shows m) {message : storage.Message} (hpos : 0 < message.id) :
    ∀ m, m ∈ [message] ∨ received m →
      ChatWorld.Shows { w with chat := ChatNotifier.appendIncomingMessage w.chat (Message.fromJson message) } m := by
  simp only [Shows, ChatNotifier.getMessagesFor_appendIncomingMessage _ (Message.fromJson_id_ne_zero hpos)]
  rintro m (hm | hm)
  · rw [List.mem_singleton.mp hm]
    by_cases hnew : ∀ item ∈ w.chat.getMessagesFor message.channelID,
        item.id ≠ (Message.fromJson message).id
    · rw [if_pos ⟨rfl, hnew⟩]
      exact ⟨Message.fromJson message, by simp, rfl⟩
    · rw [if_neg (by tauto)]
      push Not at hnew
      exact hnew
  · obtain ⟨old, hold, heq⟩ := hshown m hm
    split
    · exact ⟨old, List.mem_append_left _ hold, heq⟩
    · exact ⟨old, hold, heq⟩

/-- One step: everything received is shown afterwards exactly when the step drops
nothing. -/
theorem shows_step_iff (trim : String → String) {received : storage.Message → Prop} {w : ChatWorld}
    (hserved : Served w) (h : Accounted received w) (hshown : ∀ m, received m → w.Shows m) (e : ChatAct) :
    (∀ m, m ∈ (w.step trim e).2 ∨ received m → (w.step trim e).1.Shows m) ↔ w.KeepsMessages e := by
  have hsame : ∀ m, m ∈ ([] : List storage.Message) ∨ received m → w.Shows m :=
    shows_of_lists h.pos hshown fun ch old hold _ => ⟨old, hold, rfl⟩
  cases e with
  | change c => exact iff_of_true hsame trivial
  | post p =>
    refine iff_of_true ?_ trivial
    simp only [ChatWorld.step]
    rcases post_cases w p with hnone | ⟨message, -, -, -, hpost⟩
    · rw [hnone]
      exact hsame
    · rw [hpost]
      exact hsame
  | chatMessage i =>
    refine iff_of_true ?_ trivial
    simp only [ChatWorld.step]
    split
    · exact hsame
    · rename_i message hmessage
      exact shows_appendIncomingMessage hshown (hserved.broadcasts message (List.mem_of_getElem? hmessage)).1
  | loadMessages channelId loadMore =>
    refine iff_of_true ?_ trivial
    simp only [ChatWorld.step, ChatNotifier.loadMessages]
    by_cases hloading : w.chat.isLoadingHistory = true
    · rw [if_pos hloading]
      exact hsame
    · rw [if_neg hloading]
      exact hsame
  | sendMessage channelId content senderName senderId now =>
    refine iff_of_true ?_ trivial
    simp only [ChatWorld.step]
    split
    · exact hsame
    · refine shows_of_lists h.pos hshown fun ch old hold _ => ?_
      simp only [sendRequest, ChatNotifier.getMessagesFor_sendMessage]
      split
      · rename_i hch
        subst hch
        exact ⟨old, List.mem_append_left _ hold, rfl⟩
      · exact ⟨old, hold, rfl⟩
  | serve req refused =>
    refine iff_of_true ?_ trivial
    simp only [ChatWorld.step]
    split
    · rename_i request hget
      obtain ⟨hchat, -⟩ := serve_frame w request refused
      simp only [Shows, hchat]
      exact hsame
    · exact hsame
  | respond req =>
    simp only [ChatWorld.step, KeepsMessages]
    cases hget : w.pendingRequests.get? req with
    | none => exact iff_of_true hsame trivial
    | some waiting =>
      obtain ⟨request, reply⟩ := waiting
      have hanswers := hserved.answers _ _ _ hget
      cases reply with
      | none => cases request <;> exact iff_of_true hsame trivial
      | some reply =>
        cases request with
        | getChatHistory channelId loadMore currentMessages beforeId =>
          cases reply with
          | history messages hasMore =>
            exact shows_historyLoaded_iff h hshown fun m hm => (hanswers.1 m hm).2
          | sent message => exact iff_of_true hsame trivial
          | error text => exact iff_of_true hsame trivial
        | sendChat channelId tempId content =>
          cases reply with
          | history messages hasMore => exact iff_of_true hsame trivial
          | sent message => exact shows_messageSent_iff h hshown hanswers.1 hanswers.2.2
          | error text => exact iff_of_true (shows_failed h hshown req (.sendChat channelId tempId content) text) trivial
  | fail req error =>
    refine iff_of_true ?_ trivial
    simp only [ChatWorld.step]
    split
    · exact shows_failed h hshown req _ error
    · exact hsame

/-- A message the client has received: by an event, as the answer to a send, or in a
page that was applied. -/
def Received (trim : String → String) (w : ChatWorld) (es : List ChatAct) (m : storage.Message) : Prop :=
  Machine.Earlier (fun pre e => m ∈ (machine trim).out ((machine trim).run w pre) e) es

/-- At every point of the run the client shows everything it has received. -/
def LosesNothing (trim : String → String) (w : ChatWorld) (es : List ChatAct) : Prop :=
  ∀ pre post, es = pre ++ post → ∀ m, Received trim w pre m → ((machine trim).run w pre).Shows m

/-- The chat client loses no message exactly as long as every page that is applied has
the confirmed messages its channel shows (or the load began with them) and every answer
to a send finds its optimistic message or the message itself. -/
theorem losesNothing_iff (trim : String → String) (changes : List storage.Database.Change)
    (userID : UInt32) (es : List ChatAct) :
    LosesNothing trim (initial changes userID) es ↔
      Machine.Along (fun pre e => ((machine trim).run (initial changes userID) pre).KeepsMessages e) es := by
  generalize hw₀ : initial changes userID = w₀
  have hnone : ∀ m, ¬ Received trim w₀ [] m := fun m h => Machine.not_since_nil h
  have hmore : ∀ pre e m, Received trim w₀ (pre ++ [e]) m ↔
      m ∈ (((machine trim).run w₀ pre).step trim e).2 ∨ Received trim w₀ pre m :=
    fun pre e m => Machine.earlier_concat_iff
  unfold LosesNothing
  rw [Machine.forall_front_iff (P := fun pre => ∀ m, Received trim w₀ pre m →
    ((machine trim).run w₀ pre).Shows m) fun m hm => absurd hm (hnone m)]
  refine Machine.along_iff_along (fun _ _ => True)
    (fun pre => Served ((machine trim).run w₀ pre) ∧
      Accounted (Received trim w₀ pre) ((machine trim).run w₀ pre) ∧
      ∀ m, Received trim w₀ pre m → ((machine trim).run w₀ pre).Shows m) ?_ ?_ ?_ es fun _ _ _ _ => trivial
  · refine ⟨hw₀ ▸ served_initial changes userID, ⟨?_, ?_, ?_⟩, fun m hm => absurd hm (hnone m)⟩
    · exact fun m hm => absurd hm (hnone m)
    · intro ch item hitem
      simp [← hw₀, initial, ChatState.initial, ChatState.getMessagesFor] at hitem
    · intro req ch loadMore currentMessages beforeId reply hget
      simp [← hw₀, initial] at hget
  · rintro pre e - ⟨hserved, haccounted, hshown⟩
    rw [← shows_step_iff trim hserved haccounted hshown e]
    simp only [Machine.run_concat, hmore]
    rfl
  · rintro pre e - ⟨hserved, haccounted, hshown⟩ hkeeps
    have hstep := haccounted.step trim hserved e
    simp only [Machine.run_concat, hmore]
    refine ⟨hserved.step trim e, ?_, (shows_step_iff trim hserved haccounted hshown e).mpr hkeeps⟩
    have hsame : Received trim w₀ (pre ++ [e]) = fun m =>
        m ∈ (((machine trim).run w₀ pre).step trim e).2 ∨ Received trim w₀ pre m :=
      funext fun m => propext (hmore pre e m)
    rw [hsame]
    exact hstep

/-- A page that was read before a message arrived drops the message. -/
theorem not_losesNothing_stale_page :
    ¬ LosesNothing id (initial [.createUser "ann" "hash", .createUser "ben" "hash"] 1)
      [.loadMessages 1 false, .serve 1 none, .post ⟨1, 2, "hi"⟩, .chatMessage 0, .respond 1] := by
  intro h
  have hreceived : Received id (initial [.createUser "ann" "hash", .createUser "ben" "hash"] 1)
      [.loadMessages 1 false, .serve 1 none, .post ⟨1, 2, "hi"⟩, .chatMessage 0, .respond 1]
      ⟨1, 1, 2, "ben", "hi"⟩ :=
    ⟨[.loadMessages 1 false, .serve 1 none, .post ⟨1, 2, "hi"⟩], .chatMessage 0, [.respond 1], rfl,
      List.mem_cons_self, fun _ _ => id⟩
  obtain ⟨item, hitem, -⟩ := h _ [] (List.append_nil _).symm _ hreceived
  have hempty : (((machine id).run (initial [.createUser "ann" "hash", .createUser "ben" "hash"] 1)
      [.loadMessages 1 false, .serve 1 none, .post ⟨1, 2, "hi"⟩, .chatMessage 0,
        .respond 1]).chat.getMessagesFor 1) = [] := rfl
  rw [hempty] at hitem
  cases hitem

end low_latency_voice.client.state.ChatWorld

import LowLatencyVoice.Lib.Machine
import LowLatencyVoice.Storage.Messages

open low_latency_voice.model

namespace low_latency_voice.client.state

/-- The client's `Message`. An optimistic one has a negative `id`; `request` is the
number of the `send_chat` request it stands for, which the source does not keep. -/
structure Message where
  id : Int
  channelId : UInt32
  senderId : UInt32
  senderName : String
  content : String
  isPending : Bool
  hasFailed : Bool
  request : Option Nat
  deriving DecidableEq, Repr

/-- `Message.fromJson`: an event and a page carry the number as `id`, the answer to
`send_chat` as `message_id`. -/
def Message.fromJson (json : storage.Message) : Message where
  id := json.id
  channelId := json.channelID
  senderId := json.senderID
  senderName := json.senderName
  content := json.content
  isPending := false
  hasFailed := false
  request := none

theorem Message.fromJson_id_ne_zero {json : storage.Message} (hpos : 0 < json.id) :
    (Message.fromJson json).id ≠ 0 := by
  simp only [fromJson]
  omega

/-- `ChatState`. -/
structure ChatState where
  messagesByChannel : GoMap UInt32 (List Message)
  hasMoreByChannel : GoMap UInt32 Bool
  isLoadingHistory : Bool
  errorMessage : Option String

/-- `const ChatState()`. -/
def ChatState.initial : ChatState := ⟨∅, ∅, false, none⟩

/-- `getMessagesFor`, of a channel. -/
def ChatState.getMessagesFor (state : ChatState) (channelId : UInt32) : List Message :=
  (state.messagesByChannel.get? channelId).getD []

/-- `copyWith(messagesByChannel: ...)` with one list changed; it clears the error. -/
def ChatState.withMessages (state : ChatState) (channelId : UInt32) (messages : List Message) : ChatState :=
  { state with
    messagesByChannel := state.messagesByChannel.set channelId messages
    errorMessage := none }

@[simp] theorem ChatState.getMessagesFor_withMessages (state : ChatState) (channelId ch : UInt32)
    (messages : List Message) :
    (state.withMessages channelId messages).getMessagesFor ch =
      if ch = channelId then messages else state.getMessagesFor ch := by
  simp only [getMessagesFor, withMessages, GoMap.get?_set]
  split <;> rfl

namespace ChatNotifier

/-- `_appendIncomingMessage`. -/
def appendIncomingMessage (state : ChatState) (message : Message) : ChatState :=
  let currentList := state.getMessagesFor message.channelId
  if currentList.any (fun m => m.id == message.id && message.id != 0) then state
  else state.withMessages message.channelId (currentList ++ [message])

/-- `loadMessages` up to its await, with the `before_id` it asks for. -/
def loadMessages (state : ChatState) (channelId : UInt32) (loadMore : Bool) : Option (ChatState × Int) :=
  if state.isLoadingHistory then none
  else
    let currentMessages := state.getMessagesFor channelId
    let beforeId := if loadMore then (currentMessages.head?.map Message.id).getD 0 else 0
    some ({ state with isLoadingHistory := true, errorMessage := none }, beforeId)

/-- `loadMessages` after its await. `currentMessages` is the list from before it. -/
def historyLoaded (state : ChatState) (channelId : UInt32) (loadMore : Bool)
    (currentMessages fetchedMessages : List Message) (hasMore : Bool) : ChatState :=
  let updated := if loadMore then fetchedMessages ++ currentMessages else fetchedMessages
  { state.withMessages channelId updated with
    hasMoreByChannel := state.hasMoreByChannel.set channelId hasMore
    isLoadingHistory := false }

/-- The `catch` of `loadMessages`. -/
def historyFailed (state : ChatState) (error : String) : ChatState :=
  { state with isLoadingHistory := false, errorMessage := some error }

/-- `sendMessage` up to its await, for a content that is trimmed and not empty. -/
def sendMessage (state : ChatState) (channelId : UInt32) (tempId : Int) (trimmed senderName : String)
    (senderId : UInt32) (request : Nat) : ChatState :=
  let optimisticMsg : Message :=
    { id := tempId, channelId, senderId, senderName, content := trimmed, isPending := true,
      hasFailed := false, request := some request }
  state.withMessages channelId (state.getMessagesFor channelId ++ [optimisticMsg])

/-- `sendMessage` after its await. -/
def messageSent (state : ChatState) (channelId : UInt32) (tempId : Int) (confirmedMsg : Message) : ChatState :=
  state.withMessages channelId
    ((state.getMessagesFor channelId).map fun m => if m.id = tempId then confirmedMsg else m)

/-- The `catch` of `sendMessage`. -/
def sendFailed (state : ChatState) (channelId : UInt32) (tempId : Int) (error : String) : ChatState :=
  { state.withMessages channelId
      ((state.getMessagesFor channelId).map fun m =>
        if m.id = tempId then { m with isPending := false, hasFailed := true } else m) with
    errorMessage := some error }

/-- An arriving message joins its list unless the list has its number. -/
theorem getMessagesFor_appendIncomingMessage (state : ChatState) {message : Message} (hid : message.id ≠ 0)
    (ch : UInt32) :
    (appendIncomingMessage state message).getMessagesFor ch =
      if ch = message.channelId ∧ ∀ m ∈ state.getMessagesFor ch, m.id ≠ message.id
      then state.getMessagesFor ch ++ [message] else state.getMessagesFor ch := by
  unfold appendIncomingMessage
  by_cases hknown : (state.getMessagesFor message.channelId).any
      (fun m => m.id == message.id && message.id != 0) = true
  · rw [if_pos hknown, if_neg]
    rintro ⟨rfl, hnone⟩
    simp only [List.any_eq_true, Bool.and_eq_true, beq_iff_eq] at hknown
    obtain ⟨m, hm, heq, -⟩ := hknown
    exact hnone m hm heq
  · rw [if_neg hknown, ChatState.getMessagesFor_withMessages]
    by_cases hch : ch = message.channelId
    · subst hch
      rw [if_pos rfl, if_pos]
      refine ⟨rfl, fun m hm heq => hknown ?_⟩
      simp only [List.any_eq_true, Bool.and_eq_true, beq_iff_eq, bne_iff_ne]
      exact ⟨m, hm, heq, hid⟩
    · rw [if_neg hch, if_neg (by tauto)]

@[simp] theorem getMessagesFor_historyLoaded (state : ChatState) (channelId ch : UInt32) (loadMore : Bool)
    (currentMessages fetchedMessages : List Message) (hasMore : Bool) :
    (historyLoaded state channelId loadMore currentMessages fetchedMessages hasMore).getMessagesFor ch =
      if ch = channelId then fetchedMessages ++ (if loadMore then currentMessages else [])
      else state.getMessagesFor ch := by
  cases loadMore <;> simp [historyLoaded, ChatState.getMessagesFor, ChatState.withMessages] <;> split <;> rfl

@[simp] theorem getMessagesFor_sendMessage (state : ChatState) (channelId ch : UInt32) (tempId : Int)
    (trimmed senderName : String) (senderId : UInt32) (request : Nat) :
    (sendMessage state channelId tempId trimmed senderName senderId request).getMessagesFor ch =
      if ch = channelId then state.getMessagesFor channelId ++
        [⟨tempId, channelId, senderId, senderName, trimmed, true, false, some request⟩]
      else state.getMessagesFor ch :=
  ChatState.getMessagesFor_withMessages state channelId ch _

@[simp] theorem getMessagesFor_messageSent (state : ChatState) (channelId ch : UInt32) (tempId : Int)
    (confirmedMsg : Message) :
    (messageSent state channelId tempId confirmedMsg).getMessagesFor ch =
      if ch = channelId
      then (state.getMessagesFor channelId).map fun m => if m.id = tempId then confirmedMsg else m
      else state.getMessagesFor ch :=
  ChatState.getMessagesFor_withMessages state channelId ch _

@[simp] theorem getMessagesFor_sendFailed (state : ChatState) (channelId ch : UInt32) (tempId : Int)
    (error : String) :
    (sendFailed state channelId tempId error).getMessagesFor ch =
      if ch = channelId
      then (state.getMessagesFor channelId).map fun m =>
        if m.id = tempId then { m with isPending := false, hasFailed := true } else m
      else state.getMessagesFor ch :=
  ChatState.getMessagesFor_withMessages state channelId ch _

section mem

variable {state : ChatState} {channelId ch : UInt32} {item : Message}

theorem mem_appendIncomingMessage {message : Message} (hid : message.id ≠ 0)
    (h : item ∈ (appendIncomingMessage state message).getMessagesFor ch) :
    item ∈ state.getMessagesFor ch ∨ ch = message.channelId ∧ item = message := by
  rw [getMessagesFor_appendIncomingMessage state hid] at h
  split at h
  · rename_i hnew
    rw [List.mem_append, List.mem_singleton] at h
    exact h.imp_right fun heq => ⟨hnew.1, heq⟩
  · exact .inl h

theorem mem_historyLoaded {loadMore : Bool} {currentMessages fetchedMessages : List Message} {hasMore : Bool}
    (h : item ∈ (historyLoaded state channelId loadMore currentMessages fetchedMessages hasMore).getMessagesFor
      ch) :
    item ∈ state.getMessagesFor ch ∨ ch = channelId ∧
      (item ∈ fetchedMessages ∨ item ∈ currentMessages) := by
  rw [getMessagesFor_historyLoaded] at h
  split at h
  · rename_i hch
    obtain hpage | hcurrent := List.mem_append.mp h
    · exact .inr ⟨hch, .inl hpage⟩
    · split at hcurrent
      · exact .inr ⟨hch, .inr hcurrent⟩
      · cases hcurrent
  · exact .inl h

theorem mem_sendMessage {tempId : Int} {trimmed senderName : String} {senderId : UInt32} {request : Nat}
    (h : item ∈ (sendMessage state channelId tempId trimmed senderName senderId request).getMessagesFor ch) :
    item ∈ state.getMessagesFor ch ∨
      ch = channelId ∧
        item = ⟨tempId, channelId, senderId, senderName, trimmed, true, false, some request⟩ := by
  rw [getMessagesFor_sendMessage] at h
  split at h
  · rename_i hch
    subst hch
    rw [List.mem_append, List.mem_singleton] at h
    exact h.imp_right fun heq => ⟨rfl, heq⟩
  · exact .inl h

theorem mem_messageSent {tempId : Int} {confirmedMsg : Message}
    (h : item ∈ (messageSent state channelId tempId confirmedMsg).getMessagesFor ch) :
    item ∈ state.getMessagesFor ch ∨ ch = channelId ∧ item = confirmedMsg := by
  rw [getMessagesFor_messageSent] at h
  split at h
  · rename_i hch
    subst hch
    obtain ⟨old, hold, heq⟩ := List.mem_map.mp h
    split at heq
    · exact .inr ⟨rfl, heq.symm⟩
    · exact .inl (heq ▸ hold)
  · exact .inl h

theorem mem_sendFailed {tempId : Int} {error : String}
    (h : item ∈ (sendFailed state channelId tempId error).getMessagesFor ch) :
    ∃ old ∈ state.getMessagesFor ch, old.id = item.id ∧ old.request = item.request := by
  rw [getMessagesFor_sendFailed] at h
  split at h
  · rename_i hch
    subst hch
    obtain ⟨old, hold, rfl⟩ := List.mem_map.mp h
    refine ⟨old, hold, ?_, ?_⟩
    all_goals split <;> rfl
  · exact ⟨item, h, rfl, rfl⟩

end mem

end ChatNotifier

/-- A request of the notifier that waits for its answer, with what its continuation
remembers. -/
inductive ChatRequest where
  | getChatHistory (channelId : UInt32) (loadMore : Bool) (currentMessages : List Message) (beforeId : Int)
  | sendChat (channelId : UInt32) (tempId : Int) (content : String)

/-- The server's answer. -/
inductive ChatAnswer where
  | history (messages : List storage.Message) (hasMore : Bool)
  | sent (message : storage.Message)
  | error (message : String)

/-- One client's `ChatNotifier` and the server it talks to: the events on their way
to the client, the requests whose future is not completed, and the sends whose answer
was processed, with the number of their message. -/
structure ChatWorld where
  database : storage.Database
  userID : UInt32
  broadcasts : List storage.Message
  chat : ChatState
  requestIdCounter : Nat
  pendingRequests : GoMap Nat (ChatRequest × Option ChatAnswer)
  settled : List (Nat × Nat)

/-- What happens next. The awaits of the notifier end at `respond` and `fail`. -/
inductive ChatAct where
  /-- The tables change, without an event for this client. -/
  | change (c : storage.Database.Change)
  /-- Another client posts. -/
  | post (p : storage.Database.Post)
  /-- A `chat_message` event arrives. -/
  | chatMessage (i : Nat)
  | loadMessages (channelId : UInt32) (loadMore : Bool)
  | sendMessage (channelId : UInt32) (content senderName : String) (senderId : UInt32) (now : Nat)
  /-- The server handles a request; a check of the handler may refuse it. -/
  | serve (req : Nat) (refused : Option String)
  /-- The answer arrives. -/
  | respond (req : Nat)
  /-- The future fails without an answer: a timeout or a closed connection. -/
  | fail (req : Nat) (error : String)

namespace ChatWorld

/-- `CreateMessage` and the event that follows. -/
def post (w : ChatWorld) (p : storage.Database.Post) : ChatWorld × Option storage.Message :=
  match w.database.createMessage p.channelID p.senderID p.content with
  | .error _ => (w, none)
  | .ok (database, id, senderName) =>
    let message : storage.Message := ⟨id, p.channelID, p.senderID, senderName, p.content⟩
    ({ w with database, broadcasts := w.broadcasts ++ [message] }, some message)

/-- The page size `loadMessages` asks for. -/
def historyLimit : Int := 50

/-- The server's answer to a request that no check refuses. A negative `before_id` is
no value the database accepts. -/
def answer (w : ChatWorld) : ChatRequest → ChatWorld × ChatAnswer
  | .getChatHistory channelId _ _ beforeId =>
    if beforeId < 0 then (w, .error "failed to query messages")
    else
      match w.database.getMessages channelId beforeId.toNat historyLimit with
      | none => (w, .error "Channel not found")
      | some (messages, hasMore) => (w, .history messages hasMore)
  | .sendChat channelId _ content =>
    match w.post ⟨channelId, w.userID, content⟩ with
    | (w, none) => (w, .error "Channel not found")
    | (w, some message) => (w, .sent message)

/-- What the server does with a request. -/
def serve (w : ChatWorld) (request : ChatRequest) : Option String → ChatWorld × ChatAnswer
  | some refusal => (w, .error refusal)
  | none => w.answer request

/-- The continuation of a request whose future completed. -/
def resume (w : ChatWorld) (req : Nat) : ChatRequest → ChatAnswer → ChatWorld × List storage.Message
  | .getChatHistory channelId loadMore currentMessages _, .history messages hasMore =>
    let chat := ChatNotifier.historyLoaded w.chat channelId loadMore currentMessages
      (messages.map Message.fromJson) hasMore
    ({ w with chat }, messages)
  | .sendChat channelId tempId _, .sent message =>
    let chat := ChatNotifier.messageSent w.chat channelId tempId (Message.fromJson message)
    ({ w with chat, settled := (req, message.id) :: w.settled }, [message])
  | .getChatHistory .., .error message => ({ w with chat := ChatNotifier.historyFailed w.chat message }, [])
  | .sendChat channelId tempId _, .error message =>
    ({ w with chat := ChatNotifier.sendFailed w.chat channelId tempId message }, [])
  | _, _ => (w, [])

/-- `sendRequest`. -/
def sendRequest (w : ChatWorld) (request : ChatRequest) : ChatWorld :=
  { w with
    requestIdCounter := w.requestIdCounter + 1
    pendingRequests := w.pendingRequests.set (w.requestIdCounter + 1) (request, none) }

/-- One step, with the confirmed messages the client receives in it. -/
def step (trim : String → String) (w : ChatWorld) : ChatAct → ChatWorld × List storage.Message
  | .change c => ({ w with database := w.database.change c }, [])
  | .post p => ((w.post p).1, [])
  | .chatMessage i =>
    match w.broadcasts[i]? with
    | none => (w, [])
    | some message =>
      ({ w with
          broadcasts := w.broadcasts.eraseIdx i
          chat := ChatNotifier.appendIncomingMessage w.chat (Message.fromJson message) }, [message])
  | .loadMessages channelId loadMore =>
    match ChatNotifier.loadMessages w.chat channelId loadMore with
    | none => (w, [])
    | some (chat, beforeId) =>
      (sendRequest { w with chat }
        (.getChatHistory channelId loadMore (w.chat.getMessagesFor channelId) beforeId), [])
  | .sendMessage channelId content senderName senderId now =>
    let trimmed := trim content
    if trimmed = "" then (w, [])
    else
      let tempId : Int := -now
      let chat := ChatNotifier.sendMessage w.chat channelId tempId trimmed senderName senderId
        (w.requestIdCounter + 1)
      (sendRequest { w with chat } (.sendChat channelId tempId trimmed), [])
  | .serve req refused =>
    match w.pendingRequests.get? req with
    | some (request, none) =>
      let (served, reply) := w.serve request refused
      ({ served with pendingRequests := served.pendingRequests.set req (request, some reply) }, [])
    | _ => (w, [])
  | .respond req =>
    match w.pendingRequests.get? req with
    | some (request, some reply) =>
      resume { w with pendingRequests := w.pendingRequests.delete req } req request reply
    | _ => (w, [])
  | .fail req error =>
    match w.pendingRequests.get? req with
    | some (request, _) =>
      resume { w with pendingRequests := w.pendingRequests.delete req } req request (.error error)
    | none => (w, [])

/-- The client and its server as a machine. -/
def machine (trim : String → String) : Machine ChatWorld ChatAct (List storage.Message) := ⟨step trim⟩

/-- A notifier that has just started, on a database the repository built. -/
def initial (changes : List storage.Database.Change) (userID : UInt32) : ChatWorld where
  database := changes.foldl storage.Database.change storage.Database.seeded
  userID := userID
  broadcasts := []
  chat := .initial
  requestIdCounter := 0
  pendingRequests := ∅
  settled := []

/-- A message the server has numbered. -/
def Numbered (w : ChatWorld) (m : storage.Message) : Prop := 0 < m.id ∧ m.id ≤ w.database.messages.seq

/-- What an answer holds, for the request it answers. -/
def Answers (w : ChatWorld) : ChatRequest → Option ChatAnswer → Prop
  | .getChatHistory channelId _ _ _, some (.history messages _) =>
    (∀ m ∈ messages, w.Numbered m ∧ m.channelID = channelId) ∧ (messages.map storage.Message.id).Nodup
  | .sendChat channelId tempId _, some (.sent message) =>
    tempId ≤ 0 ∧ w.Numbered message ∧ message.channelID = channelId
  | .getChatHistory .., some (.sent _) => False
  | .sendChat .., some (.history ..) => False
  | .sendChat _ tempId _, _ => tempId ≤ 0
  | .getChatHistory .., _ => True

/-- What the server promises its client. -/
structure Served (w : ChatWorld) : Prop where
  database : storage.Database.SoundMessages w.database
  broadcasts : ∀ m ∈ w.broadcasts, w.Numbered m
  answers : ∀ req request reply, w.pendingRequests.get? req = some (request, reply) →
    w.Answers request reply

theorem Numbered.mono {w w' : ChatWorld} (hle : w.database.messages.seq ≤ w'.database.messages.seq)
    {m : storage.Message} (h : w.Numbered m) : w'.Numbered m := ⟨h.1, Nat.le_trans h.2 hle⟩

theorem Answers.mono {w w' : ChatWorld} (hle : w.database.messages.seq ≤ w'.database.messages.seq)
    {request : ChatRequest} {reply : Option ChatAnswer} (h : w.Answers request reply) :
    w'.Answers request reply := by
  unfold Answers at h ⊢
  split at h
  · exact ⟨fun m hm => ⟨(h.1 m hm).1.mono hle, (h.1 m hm).2⟩, h.2⟩
  · exact ⟨h.1, h.2.1.mono hle, h.2.2⟩
  · exact h
  · exact h
  · exact h
  · trivial

/-- `CreateMessage` fails and changes nothing, or the message gets the next number and
its event is sent. -/
theorem post_cases (w : ChatWorld) (p : storage.Database.Post) :
    w.post p = (w, none) ∨ ∃ message : storage.Message,
      message.id = w.database.messages.seq + 1 ∧ message.channelID = p.channelID ∧
        (w.database.post p).messages.seq = w.database.messages.seq + 1 ∧
        w.post p = ({ w with
          database := w.database.post p
          broadcasts := w.broadcasts ++ [message] }, some message) := by
  unfold post storage.Database.post storage.Database.createMessage
  cases w.database.getChannelByID p.channelID with
  | none => exact .inl rfl
  | some channel =>
    by_cases htext : channel.type ≠ "text"
    · simp only [if_pos htext, true_or]
    · simp only [if_neg htext]
      cases w.database.users.get? p.senderID.toNat with
      | none => exact .inl rfl
      | some sender => exact .inr ⟨_, rfl, rfl, rfl, rfl⟩

/-- The server leaves the client alone. -/
theorem serve_frame (w : ChatWorld) (request : ChatRequest) (refused : Option String) :
    (w.serve request refused).1.chat = w.chat ∧
      (w.serve request refused).1.pendingRequests = w.pendingRequests ∧
      (w.serve request refused).1.requestIdCounter = w.requestIdCounter ∧
      (w.serve request refused).1.settled = w.settled := by
  cases refused with
  | some text => exact ⟨rfl, rfl, rfl, rfl⟩
  | none =>
    cases request with
    | getChatHistory channelId loadMore currentMessages beforeId =>
      simp only [serve, answer]
      split
      · exact ⟨rfl, rfl, rfl, rfl⟩
      · split <;> exact ⟨rfl, rfl, rfl, rfl⟩
    | sendChat channelId tempId content =>
      simp only [serve, answer]
      rcases post_cases w ⟨channelId, w.userID, content⟩ with hnone | ⟨message, -, -, -, hpost⟩
      · rw [hnone]
        exact ⟨rfl, rfl, rfl, rfl⟩
      · rw [hpost]
        exact ⟨rfl, rfl, rfl, rfl⟩

/-- Only a send that is accepted gets a new number. -/
theorem serve_numbers (w : ChatWorld) (request : ChatRequest) (refused : Option String) :
    w.database.messages.seq ≤ (w.serve request refused).1.database.messages.seq ∧
      ∀ message, (w.serve request refused).2 = .sent message →
        message.id = w.database.messages.seq + 1 ∧
          (w.serve request refused).1.database.messages.seq = w.database.messages.seq + 1 := by
  cases refused with
  | some text => exact ⟨Nat.le_refl _, fun message h => by cases h⟩
  | none =>
    cases request with
    | getChatHistory channelId loadMore currentMessages beforeId =>
      simp only [serve, answer]
      split
      · exact ⟨Nat.le_refl _, fun message h => by cases h⟩
      · split <;> exact ⟨Nat.le_refl _, fun message h => by cases h⟩
    | sendChat channelId tempId content =>
      simp only [serve, answer]
      rcases post_cases w ⟨channelId, w.userID, content⟩ with hnone | ⟨message, hid, -, hseq, hpost⟩
      · rw [hnone]
        exact ⟨Nat.le_refl _, fun message h => by cases h⟩
      · rw [hpost]
        refine ⟨by simp only; omega, fun message' h => ?_⟩
        cases h
        exact ⟨hid, hseq⟩

/-- Any request may fail. -/
theorem Answers.error {w : ChatWorld} {request : ChatRequest} {reply : Option ChatAnswer}
    (h : w.Answers request reply) (text : String) : w.Answers request (some (.error text)) := by
  cases request with
  | getChatHistory channelId loadMore currentMessages beforeId => trivial
  | sendChat channelId tempId content =>
    cases reply with
    | none => exact h
    | some reply =>
      cases reply with
      | history messages hasMore => exact h.elim
      | sent message => exact h.1
      | error message => exact h

/-- The server's promises hold of a world with the same server. -/
theorem Served.of_server {w w' : ChatWorld} (h : Served w) (hdatabase : w'.database = w.database)
    (hbroadcasts : ∀ m ∈ w'.broadcasts, m ∈ w.broadcasts)
    (hpending : ∀ req request reply, w'.pendingRequests.get? req = some (request, reply) →
      w.pendingRequests.get? req = some (request, reply) ∨ w'.Answers request reply) :
    Served w' := by
  have hle : w.database.messages.seq ≤ w'.database.messages.seq := by rw [hdatabase]
  constructor
  · rw [hdatabase]
    exact h.database
  · exact fun m hm => (h.broadcasts m (hbroadcasts m hm)).mono hle
  · intro req request reply hget
    rcases hpending req request reply hget with hold | hnew
    · exact (h.answers req request reply hold).mono hle
    · exact hnew

theorem Served.post {w : ChatWorld} (h : Served w) (p : storage.Database.Post) : Served (w.post p).1 := by
  rcases post_cases w p with hnone | ⟨message, hid, -, hseq, hpost⟩
  · rw [hnone]
    exact h
  · rw [hpost]
    have hle : w.database.messages.seq ≤ (w.database.post p).messages.seq := by omega
    constructor
    · exact h.database.post p
    · intro m hm
      rcases List.mem_append.mp hm with hold | hnew
      · exact (h.broadcasts m hold).mono hle
      · rw [List.mem_singleton] at hnew
        subst hnew
        exact ⟨by omega, by simp only; omega⟩
    · exact fun req request reply hget => (h.answers req request reply hget).mono hle

/-- Handling a request keeps the promises, and the answer is as promised. -/
theorem Served.serve {w : ChatWorld} (h : Served w) (request : ChatRequest) (refused : Option String)
    (hrequest : w.Answers request none) :
    Served (w.serve request refused).1 ∧
      (w.serve request refused).1.Answers request (some (w.serve request refused).2) := by
  have herror := fun text => hrequest.error text
  cases refused with
  | some text => exact ⟨h, herror text⟩
  | none =>
    cases request with
    | getChatHistory channelId loadMore currentMessages beforeId =>
      simp only [ChatWorld.serve, answer]
      split
      · exact ⟨h, herror _⟩
      · split
        · exact ⟨h, herror _⟩
        · rename_i messages hasMore hpage
          obtain ⟨hmem, hnodup⟩ := storage.Database.mem_of_getMessages hpage
          refine ⟨h, ?_, hnodup⟩
          intro m hm
          obtain ⟨hstored, hchannel⟩ := hmem m hm
          exact ⟨⟨Nat.pos_of_ne_zero (hstored.id_ne_zero h.database), hstored.id_le⟩, hchannel⟩
    | sendChat channelId tempId content =>
      have hposted := h.post ⟨channelId, w.userID, content⟩
      simp only [ChatWorld.serve, answer]
      rcases post_cases w ⟨channelId, w.userID, content⟩ with hnone | ⟨message, hid, hchannel, hseq, hpost⟩
      · rw [hnone]
        exact ⟨h, herror _⟩
      · rw [hpost] at hposted ⊢
        exact ⟨hposted, hrequest, ⟨by omega, by simp only; omega⟩, hchannel⟩

/-- A new request. -/
theorem Served.sendRequest {w : ChatWorld} (h : Served w) (chat : ChatState) (request : ChatRequest)
    (hrequest : w.Answers request none) : Served (({ w with chat } : ChatWorld).sendRequest request) := by
  refine h.of_server rfl (fun m hm => hm) fun req request' reply hget => ?_
  simp only [ChatWorld.sendRequest, GoMap.get?_set] at hget
  split at hget
  · cases hget
    exact .inr (hrequest.mono (Nat.le_refl _))
  · exact .inl hget

/-- A request that ends. -/
theorem Served.resume {w : ChatWorld} (h : Served w) (req : Nat) (request : ChatRequest)
    (reply : ChatAnswer) :
    Served (ChatWorld.resume { w with pendingRequests := w.pendingRequests.delete req } req request
      reply).1 := by
  have hdelete : ∀ {w' : ChatWorld}, w'.pendingRequests = w.pendingRequests.delete req →
      ∀ req' request reply, w'.pendingRequests.get? req' = some (request, reply) →
        w.pendingRequests.get? req' = some (request, reply) ∨ w'.Answers request reply := by
    intro w' hpending req' request reply hget
    rw [hpending, GoMap.get?_delete] at hget
    split at hget
    · cases hget
    · exact .inl hget
  unfold ChatWorld.resume
  split
  all_goals exact h.of_server rfl (fun m hm => hm) (hdelete rfl)

theorem Served.step (trim : String → String) {w : ChatWorld} (h : Served w) (e : ChatAct) :
    Served (w.step trim e).1 := by
  cases e with
  | change c =>
    refine ⟨h.database.change c, ?_, ?_⟩
    · exact fun m hm => (h.broadcasts m hm).mono (w.database.seq_le_change c)
    · exact fun req request reply hget => (h.answers req request reply hget).mono (w.database.seq_le_change c)
  | post p => exact h.post p
  | chatMessage i =>
    simp only [ChatWorld.step]
    split
    · exact h
    · exact h.of_server rfl (fun m hm => List.mem_of_mem_eraseIdx hm) fun _ _ _ hget => .inl hget
  | loadMessages channelId loadMore =>
    simp only [ChatWorld.step]
    split
    · exact h
    · exact h.sendRequest _ _ trivial
  | sendMessage channelId content senderName senderId now =>
    simp only [ChatWorld.step]
    split
    · exact h
    · refine h.sendRequest _ _ ?_
      simp only [Answers]
      omega
  | serve req refused =>
    simp only [ChatWorld.step]
    split
    · rename_i request hget
      obtain ⟨hserved, hreply⟩ := h.serve request refused (h.answers _ _ _ hget)
      refine hserved.of_server rfl (fun m hm => hm) fun req' request' reply' hget' => ?_
      simp only [GoMap.get?_set] at hget'
      split at hget'
      · cases hget'
        exact .inr (hreply.mono (Nat.le_refl _))
      · exact .inl hget'
    · exact h
  | respond req =>
    simp only [ChatWorld.step]
    split
    · exact h.resume req _ _
    · exact h
  | fail req error =>
    simp only [ChatWorld.step]
    split
    · exact h.resume req _ _
    · exact h

theorem served_initial (changes : List storage.Database.Change) (userID : UInt32) :
    Served (initial changes userID) := by
  refine ⟨storage.Database.soundMessages_seeded changes, fun m hm => ?_, fun req request reply hget => ?_⟩
  · simp [initial] at hm
  · simp [initial] at hget

end ChatWorld

end low_latency_voice.client.state

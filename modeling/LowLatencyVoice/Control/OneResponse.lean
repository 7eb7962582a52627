import LowLatencyVoice.Control.EventOrder
import LowLatencyVoice.Control.RequestIds
import LowLatencyVoice.Control.Requests

open low_latency_voice.model low_latency_voice.storage low_latency_voice.auth

namespace low_latency_voice.control

/-- What leaves a handler. -/
inductive Output where
  | response (r : Response)
  | event (e : Event)

def Effect.output : Effect → List Output
  | .sendJSON v => [.response v]
  | .broadcastEvent e => [.event e]
  | _ => []

/-- The arguments of the calls of `SendJSON`. -/
def responses (os : List Output) : List Response :=
  os.filterMap fun o => match o with
    | .response r => some r
    | .event _ => none

def broadcasts (os : List Output) : List Event :=
  os.filterMap fun o => match o with
    | .response _ => none
    | .event e => some e

@[simp] theorem responses_nil : responses [] = [] := rfl

@[simp] theorem responses_response (r : Response) (os : List Output) :
    responses (.response r :: os) = r :: responses os := rfl

@[simp] theorem responses_event (e : Event) (os : List Output) :
    responses (.event e :: os) = responses os := rfl

@[simp] theorem responses_append (os os' : List Output) :
    responses (os ++ os') = responses os ++ responses os' := List.filterMap_append

theorem broadcasts_append (os os' : List Output) :
    broadcasts (os ++ os') = broadcasts os ++ broadcasts os' := List.filterMap_append

/-- The connection is registered, and so is open. -/
structure Attached (c : ClientID) (h : Hub) : Prop where
  opened : events.Opened h
  registered : h.Registered c

/-- Whatever the rest of the server does between two steps of a request, it does not
unregister the client. -/
def Others (c : ClientID) (h h' : Hub) : Prop := Attached c h → Attached c h'

/-- A call during a request of `c`. The storage and the auth service may answer anything. -/
def Effect.Does (c : ClientID) : (k : Effect) → Hub → k.Answer → Hub → Prop
  | .region r, h, answer, h' => ∃ now order, r.run c now order h = (answer, h')
  | _, h, _, h' => h' = h

/-- Every step of the server that leaves the client registered counts as others'. -/
theorem others_step {s : events.EventHub} (hsteady : events.Steady s) (t : events.Step) {c : ClientID}
    (hreg : (s.step t).hub.Registered c) : Others c s.hub (s.step t).hub :=
  fun _ => ⟨(hsteady.step t).opened, hreg⟩

/-- The hub is in order whatever has happened. -/
theorem attached_after (ts : List events.Step) {c : ClientID} (hreg : (events.after ts).hub.Registered c) :
    Attached c (events.after ts).hub := ⟨(events.steady_after ts).opened, hreg⟩

/-- A registered client is let into the region of `join_voice`. -/
theorem Attached.joinVoice_ne_disconnected {c : ClientID} {h : Hub} (hc : Attached c h) (now : Time)
    (channelID : UInt32) (channel : Channel) (selfMuted selfDeafened : Bool) :
    h.joinVoice now c channelID channel selfMuted selfDeafened ≠ .error .disconnected := by
  have hthere : h.clients.get? c ≠ none := fun hnone =>
    Hub.get?_eq_none_iff_not_registered.mp hnone hc.registered
  unfold Hub.joinVoice
  simp only [hthere, hc.opened.registered c hc.registered, Bool.false_eq_true, or_self, if_false]
  split <;> simp

/-- One response, to the request of this id, whose fields the payload has not touched. A
success may come with events; nothing goes out beside an error. -/
inductive Answered (id : Json) (os : List Output) : Prop where
  | success (action : String) (payload : List (String × Value))
      (hone : responses os = [.success (newSuccessResponse id action (.map payload))])
      (hanswers : (Response.success (newSuccessResponse id action (.map payload))).Answers id "ok" action)
  | error (action : String) (code : Int) (message : String)
      (hall : os = [.response (.error (newErrorResponse id action code message))])

/-- Whatever is answered, what a handler sends on a request of `c` meets `Q`. -/
abbrev Sends (c : ClientID) (I : Hub → Prop) (Q : List Output → Prop) (p : Handler) : Prop :=
  p.Shows (Others c) (Effect.Does c) Effect.output I Q

/-- Nothing is known of the hub. -/
def AnyHub (_ : Hub) : Prop := True

section rules

variable {c : ClientID} {Q : List Output → Prop}

/-- A call that sends nothing. -/
theorem sends_call {k : Effect} {next : k.Answer → Handler} (hquiet : k.output = [])
    (h : ∀ answer, Sends c AnyHub Q (next answer)) : Sends c AnyHub Q (Handler.call k >>= next) := by
  refine Program.Shows.perform_bind (fun _ _ _ _ => trivial) (fun _ _ _ _ _ => trivial) fun answer _ => ?_
  rw [hquiet]
  exact h answer

/-- A call that sends nothing and leaves the hub alone. -/
theorem sends_attached {k : Effect} {next : k.Answer → Handler} (hquiet : k.output = [])
    (hkeeps : ∀ h answer h', Effect.Does c k h answer h' → h' = h)
    (h : ∀ answer, Sends c (Attached c) Q (next answer)) :
    Sends c (Attached c) Q (Handler.call k >>= next) := by
  apply Program.Shows.perform_bind (J := Attached c) (fun _ _ hc hothers => hothers hc)
  · intro h₁ answer h₂ hc hdoes
    rwa [hkeeps h₁ answer h₂ hdoes]
  · intro answer _
    rw [hquiet]
    exact h answer

/-- What holds for any hub. -/
theorem sends_of_any {I : Hub → Prop} {p : Handler} (h : Sends c AnyHub Q p) : Sends c I Q p :=
  h.mono (fun _ _ => trivial) fun _ => id

/-- A handler that only sends events. -/
abbrev Silent (c : ClientID) (p : Handler) : Prop := Sends c AnyHub (fun os => responses os = []) p

theorem silent_event (e : Event) : Silent c (Handler.call (.broadcastEvent e)) := by
  apply Program.Shows.call (fun _ _ _ _ => trivial) (fun _ _ _ _ _ => trivial)
  intro _ _
  exact .done rfl

theorem silent_events {e : Event} {next : Unit → Handler} (h : Silent c (next ())) :
    Silent c (Handler.call (.broadcastEvent e) >>= next) :=
  Program.Shows.perform_bind (fun _ _ _ _ => trivial) (fun _ _ _ _ _ => trivial) fun _ _ => h

theorem silent_done : Silent c (pure ()) := .done rfl

/-- An error is the whole answer. -/
theorem sends_sendError {I : Hub → Prop} (id : Json) (action : String) (code : Int) (message : String) :
    Sends c I (Answered id) (Handler.sendError id action code message) := by
  apply sends_of_any
  apply Program.Shows.call (fun _ _ _ _ => trivial) (fun _ _ _ _ _ => trivial)
  intro _ _
  exact .done (.error action code message rfl)

/-- A request is refused, or goes on. -/
theorem sends_guard {I : Hub → Prop} {test : Prop} [Decidable test] {id : Json} {action : String} {code : Int}
    {message : String} {p : Handler} (h : Sends c I (Answered id) p) :
    Sends c I (Answered id) (if test then Handler.sendError id action code message else p) := by
  split
  · apply sends_sendError
  · exact h

/-- Before a success and after it there are only events. -/
theorem sends_sendSuccess_after (os : List Output) (hos : responses os = []) (id : Json) {action : String}
    (haction : action ≠ "") {payload : List (String × Value)} (hpayload : payload.lookup "request_id" = none)
    {next : Unit → Handler} (h : Silent c (next ())) :
    Sends c AnyHub (fun os' => Answered id (os ++ os')) (Handler.sendSuccess id action payload >>= next) := by
  apply Program.Shows.perform_bind (fun _ _ _ _ => trivial) (fun _ _ _ _ _ => trivial)
  intro _ _
  refine Program.Shows.mono h (fun _ h => h) fun os' hos' => ?_
  refine .success action payload ?_ (answers_newSuccessResponse id haction hpayload)
  rw [responses_append, hos]
  change _ :: responses os' = _
  rw [hos']

theorem sends_sendSuccess (id : Json) {action : String} (haction : action ≠ "")
    {payload : List (String × Value)} (hpayload : payload.lookup "request_id" = none)
    {next : Unit → Handler} (h : Silent c (next ())) :
    Sends c AnyHub (Answered id) (Handler.sendSuccess id action payload >>= next) :=
  sends_sendSuccess_after [] rfl id haction hpayload h

/-- A success with no event after it. -/
theorem sends_sendSuccess_last (id : Json) {action : String} (haction : action ≠ "")
    {payload : List (String × Value)} (hpayload : payload.lookup "request_id" = none) :
    Sends c AnyHub (Answered id) (Handler.sendSuccess id action payload) :=
  sends_sendSuccess id haction hpayload silent_done

end rules

section handlers

variable {c : ClientID} (go : GoLibrary) (reqID : Json) (params : Params)

open Handler

/-- The calls before a sign-in succeeds. -/
theorem sends_signIn {Q : List Output → Prop} {user : User} {userID : UInt32} {next : Int → Handler}
    (h : ∀ udpPort, Sends c AnyHub Q (next udpPort)) :
    Sends c AnyHub Q (do
      access (.signIn user)
      access (.addUserClient userID)
      let udpPort ← call .udpPort
      next udpPort) := by
  apply sends_call rfl
  intro _
  apply sends_call rfl
  intro _
  exact sends_call rfl h

theorem sends_handleRegister : Sends c AnyHub (Answered reqID) (handleRegister go reqID params) := by
  apply sends_call rfl
  intro answer
  cases answer with
  | error failure =>
    obtain ⟨e, text⟩ := failure
    cases e <;> apply sends_sendError
  | ok res =>
    apply sends_signIn
    intro udpPort
    apply sends_sendSuccess reqID (by decide) rfl
    apply silent_events
    apply silent_event

theorem sends_handleLogin : Sends c AnyHub (Answered reqID) (handleLogin go reqID params) := by
  apply sends_call rfl
  intro answer
  cases answer with
  | error failure =>
    obtain ⟨e, text⟩ := failure
    cases e <;> apply sends_sendError
  | ok res =>
    apply sends_signIn
    intro udpPort
    apply sends_sendSuccess reqID (by decide) rfl
    apply silent_event

theorem sends_handleAuth : Sends c AnyHub (Answered reqID) (handleAuth go reqID params) := by
  unfold handleAuth
  apply sends_guard
  apply sends_call rfl
  intro answer
  cases answer with
  | none => apply sends_sendError
  | some session =>
    apply sends_call rfl
    intro answer
    cases answer with
    | none => apply sends_sendError
    | some user =>
      apply sends_signIn
      intro udpPort
      apply sends_sendSuccess reqID (by decide) rfl
      apply silent_event

theorem sends_handleGetChannels : Sends c AnyHub (Answered reqID) (handleGetChannels reqID) := by
  apply sends_call rfl
  intro answer
  cases answer with
  | none => apply sends_sendError
  | some channels => exact sends_sendSuccess_last reqID (by decide) rfl

theorem sends_handleCreateChannel : Sends c AnyHub (Answered reqID) (handleCreateChannel go reqID params) := by
  apply sends_call rfl
  intro client
  apply sends_guard
  apply sends_guard
  apply sends_call rfl
  intro answer
  cases answer with
  | error text => apply sends_sendError
  | ok ch =>
    apply sends_sendSuccess reqID (by decide) rfl
    apply silent_event

theorem sends_handleDeleteChannel : Sends c AnyHub (Answered reqID) (handleDeleteChannel reqID params) := by
  apply sends_call rfl
  intro client
  apply sends_guard
  apply sends_guard
  apply sends_call rfl
  intro answer
  cases answer with
  | error e => cases e <;> apply sends_sendError
  | ok =>
    apply sends_sendSuccess reqID (by decide) rfl
    apply silent_event

theorem sends_handleSendChat : Sends c AnyHub (Answered reqID) (handleSendChat go reqID params) := by
  apply sends_call rfl
  intro client
  apply sends_guard
  apply sends_guard
  apply sends_guard
  apply sends_guard
  apply sends_call rfl
  intro allowed
  apply sends_guard
  apply sends_call rfl
  intro answer
  cases answer with
  | error e => cases e <;> apply sends_sendError
  | ok created =>
    apply sends_sendSuccess reqID (by decide) rfl
    apply silent_event

theorem sends_handleGetChatHistory : Sends c AnyHub (Answered reqID) (handleGetChatHistory reqID params) := by
  unfold handleGetChatHistory
  apply sends_guard
  apply sends_call rfl
  intro answer
  cases answer with
  | error e => cases e <;> apply sends_sendError
  | ok page => exact sends_sendSuccess_last reqID (by decide) rfl

/-- The one exit without an answer is for clients that are gone. -/
theorem sends_handleJoinVoice : Sends c (Attached c) (Answered reqID) (handleJoinVoice reqID params) := by
  apply sends_attached rfl
  · rintro h answer h' ⟨now, order, hrun⟩
    cases hrun
    rfl
  intro client
  apply sends_guard
  apply sends_guard
  apply sends_attached (k := .getChannelByID _) rfl fun _ _ _ hdoes => hdoes
  intro answer
  cases answer with
  | none => apply sends_sendError
  | some ch =>
    apply sends_guard
    apply Program.Shows.perform_bind (J := AnyHub) (fun _ _ hc hothers => hothers hc) fun _ _ _ _ _ => trivial
    rintro answer ⟨h, h', hc, now, order, hrun⟩
    cases answer with
    | error refusal =>
      cases refusal with
      | disconnected =>
        have hjoin := hc.joinVoice_ne_disconnected now (getUInt32 params "channel_id") ⟨ch.type, ch.userLimit⟩
          (getBool params "self_muted") (getBool params "self_deafened")
        simp only [Region.run] at hrun
        split at hrun
        · rename_i refusal hrefused
          cases hrun
          exact absurd hrefused hjoin
        · cases hrun
      | channelFull => apply sends_sendError
    | ok =>
      apply sends_call rfl
      intro answer
      cases answer with
      | none => apply sends_sendError
      | some vt =>
        apply sends_call rfl
        intro _
        apply sends_call rfl
        intro udpPort
        apply sends_sendSuccess reqID (by decide) rfl
        apply silent_event

theorem sends_handleLeaveVoice : Sends c AnyHub (Answered reqID) (handleLeaveVoice reqID) := by
  apply sends_call rfl
  intro client
  apply sends_call rfl
  intro chID
  apply sends_call rfl
  intro _
  apply sends_sendSuccess reqID (by decide) rfl
  split
  · apply silent_event
  · exact silent_done

theorem sends_handleSetVoiceState : Sends c AnyHub (Answered reqID) (handleSetVoiceState reqID params) := by
  apply sends_call rfl
  intro client
  apply sends_call rfl
  intro chID
  apply sends_sendSuccess reqID (by decide) rfl
  apply silent_event

theorem sends_handleGetRoster : Sends c AnyHub (Answered reqID) (handleGetRoster reqID) := by
  apply sends_call rfl
  intro answer
  cases answer with
  | none => apply sends_sendError
  | some users =>
    apply sends_call rfl
    intro members
    exact sends_sendSuccess_last reqID (by decide) rfl

theorem sends_handleMoveMember : Sends c AnyHub (Answered reqID) (handleMoveMember reqID params) := by
  apply sends_call rfl
  intro client
  apply sends_guard
  apply sends_call rfl
  intro answer
  cases answer with
  | none => apply sends_sendError
  | some fromChannelID =>
    apply sends_call rfl
    intro _
    apply sends_sendSuccess reqID (by decide) rfl
    apply silent_events
    apply silent_event

theorem sends_handleSetServerFlag (flag : ModFlag) {action field : String} (key denied : String)
    (haction : action ≠ "") (hfield : field ≠ "request_id") :
    Sends c AnyHub (Answered reqID) (handleSetServerFlag reqID params flag action key field denied) := by
  apply sends_call rfl
  intro client
  apply sends_guard
  apply sends_call rfl
  intro _
  apply sends_call rfl
  intro _
  apply sends_sendSuccess reqID haction
  · have hother : ("request_id" == field) = false := beq_eq_false_iff_ne.mpr (Ne.symm hfield)
    simp [List.lookup_cons, hother]
  apply silent_event

theorem silent_unregisterClient (client : ClientID) : Silent c (unregisterClient client) := by
  apply sends_call rfl
  intro answer
  cases answer with
  | none => exact silent_done
  | some d =>
    apply Program.Shows.bind (P := fun os => responses os = [])
    · unfold announceLeft
      split
      · apply sends_call rfl
        intro _
        apply silent_event
      · exact silent_done
    intro os hos _
    have hrest : Silent c (do
        let remaining ← access (.remainingSessions d.userID)
        if remaining = 0 then call (.broadcastEvent (.presenceUpdate d.userID d.username false)) else pure ()) := by
      apply sends_call rfl
      intro remaining
      split
      · apply silent_event
      · exact silent_done
    refine hrest.mono (fun _ h => h) fun os' hos' => ?_
    rw [responses_append, hos, hos', List.append_nil]

theorem silent_closeClient (reason : String) (client : ClientID) : Silent c (closeClient reason client) := by
  apply sends_call rfl
  intro _
  apply silent_unregisterClient

/-- The clients that are kicked may include `c`, but their events come with a success. -/
theorem sends_handleKickMember : Sends c AnyHub (Answered reqID) (handleKickMember go reqID params) := by
  apply sends_call rfl
  intro client
  apply sends_guard
  apply sends_guard
  apply sends_call rfl
  intro _
  apply sends_call rfl
  intro _
  apply sends_call rfl
  intro answer
  obtain ⟨clientsToClose, hadVoiceChannel⟩ := answer
  apply sends_call rfl
  intro _
  apply Program.Shows.bind (P := fun os => responses os = [])
  · apply Program.Shows.forEach (P := fun os => responses os = []) rfl
    · intro os os' hos hos'
      rw [responses_append, hos, hos', List.append_nil]
    · apply silent_closeClient
  intro os hos _
  apply sends_sendSuccess_after os hos reqID (by decide) rfl
  apply silent_events
  split
  · apply silent_event
  · exact silent_done

theorem sends_handlePing : Sends c AnyHub (Answered reqID) (handlePing reqID) := by
  apply sends_call rfl
  intro now
  exact sends_sendSuccess_last reqID (by decide) rfl

/-- Every handler answers, once. -/
theorem sends_handleAction (a : Action) : Sends c (Attached c) (Answered reqID) (handleAction go reqID params a) := by
  cases a with
  | register => exact sends_of_any (sends_handleRegister go reqID params)
  | login => exact sends_of_any (sends_handleLogin go reqID params)
  | auth => exact sends_of_any (sends_handleAuth go reqID params)
  | getChannels => exact sends_of_any (sends_handleGetChannels reqID)
  | createChannel => exact sends_of_any (sends_handleCreateChannel go reqID params)
  | deleteChannel => exact sends_of_any (sends_handleDeleteChannel reqID params)
  | sendChat => exact sends_of_any (sends_handleSendChat go reqID params)
  | getChatHistory => exact sends_of_any (sends_handleGetChatHistory reqID params)
  | joinVoice => exact sends_handleJoinVoice reqID params
  | leaveVoice => exact sends_of_any (sends_handleLeaveVoice reqID)
  | setVoiceState => exact sends_of_any (sends_handleSetVoiceState reqID params)
  | getRoster => exact sends_of_any (sends_handleGetRoster reqID)
  | moveMember => exact sends_of_any (sends_handleMoveMember reqID params)
  | setServerFlag flag =>
    apply sends_of_any
    cases flag <;> exact sends_handleSetServerFlag reqID params _ _ _ (by decide) (by decide)
  | kickMember => exact sends_of_any (sends_handleKickMember go reqID params)
  | ping => exact sends_of_any (sends_handlePing reqID)

end handlers

/-- The id of the answer to a frame: its `id` as Go reads it, or its `request_id` where
that is absent or null. -/
def JsonLibrary.answerID (json : JsonLibrary) : Option Json → Json
  | some (.object members) =>
    if json.decodes members then
      match ((json.valuesOf "id" members).getLast?.map Json.decoded).getD .null with
      | .null =>
        let requestID := JsonLibrary.stringOf (json.valuesOf "request_id" members)
        if requestID = "" then .null else .string requestID
      | id => id
    else .null
  | _ => .null

theorem JsonLibrary.request_reqID (json : JsonLibrary) (raw : GoBytes) :
    ((json.request raw).map Request.reqID).getD .null = json.answerID (json.parse raw) := by
  unfold request
  cases json.parse raw with
  | none => rfl
  | some doc =>
    cases doc with
    | object members =>
      simp only [Option.bind_some, unmarshal, answerID]
      split
      · have hid : idField (json.valuesOf "id" members) =
            ((json.valuesOf "id" members).getLast?.map Json.decoded).getD .null := by
          unfold idField
          cases (json.valuesOf "id" members).getLast? <;> rfl
        simp only [Option.map_some, Option.getD_some, Request.reqID, Json.members, hid]
        generalize ((json.valuesOf "id" members).getLast?.map Json.decoded).getD .null = id
        cases id with
        | null =>
          by_cases hempty : stringOf (json.valuesOf "request_id" members) = ""
          · simp [hempty]
          · simp [hempty]
        | _ => rfl
      · rfl
    | _ => rfl

theorem sends_handleMessage (c : ClientID) (json : JsonLibrary) (raw : GoBytes) :
    Sends c (Attached c) (Answered (json.answerID (json.parse raw))) (handleMessage json raw) := by
  rw [← json.request_reqID]
  unfold handleMessage
  cases json.request raw with
  | none => apply sends_sendError
  | some env =>
    dsimp only [Option.map_some, Option.getD_some]
    apply sends_guard
    apply sends_attached rfl
    · rintro h answer h' ⟨now, order, hrun⟩
      cases hrun
      rfl
    intro client
    apply sends_guard
    split
    · apply sends_handleAction
    · apply sends_sendError

/-- Every call can be answered. -/
theorem Effect.exists_does (c : ClientID) (k : Effect) (h : Hub) : ∃ answer h', Effect.Does c k h answer h' := by
  cases k with
  | region r => exact ⟨_, _, 0, [], rfl⟩
  | register | login => exact ⟨.error (.internal, ""), h, rfl⟩
  | validateSession | getUserWithRoles | getChannels | getChannelByID | generateUDPToken |
    getAllUsersWithRoles => exact ⟨none, h, rfl⟩
  | createChannel => exact ⟨.error "", h, rfl⟩
  | deleteChannel | createMessage | getMessages => exact ⟨.error (.other ""), h, rfl⟩
  | udpPort | now => exact ⟨(0 : Int), h, rfl⟩
  | allowMessage => exact ⟨true, h, rfl⟩
  | _ => exact ⟨(), h, rfl⟩

/-- `HandleMessage` of `c` on a frame, in one of its runs. -/
abbrev HandlesMessage (json : JsonLibrary) (c : ClientID) (raw : GoBytes) (h : Hub)
    (trace : List (Program.Exchange Effect.Answer)) (h' : Hub) : Prop :=
  Program.Runs (Others c) (Effect.Does c) (handleMessage json raw) h trace () h'

theorem exists_handlesMessage (json : JsonLibrary) (c : ClientID) (raw : GoBytes) (h : Hub) :
    ∃ trace h', HandlesMessage json c raw h trace h' := by
  have hcompletes : ∃ trace u h', Program.Runs (Others c) (Effect.Does c) (handleMessage json raw) h trace u h' :=
    Program.exists_runs (fun _ hkept => hkept) (Effect.exists_does c) (handleMessage json raw) h
  obtain ⟨trace, u, h', hrun⟩ := hcompletes
  exact ⟨trace, h', hrun⟩

/-- A client that is registered, and stays so unless its own request ends it, gets one
response to a frame. It is a success or an error, with the id of the frame; no payload
gets at its fields; and an error is all that goes out. -/
theorem handleMessage_answers_once (json : JsonLibrary) (raw : GoBytes) {c : ClientID} {h : Hub}
    (hc : Attached c h) :
    (∃ trace h', HandlesMessage json c raw h trace h') ∧
      ∀ trace h', HandlesMessage json c raw h trace h' →
        ∃ r action, responses (Program.shown Effect.output trace) = [r] ∧
          ((∃ payload, r = .success (newSuccessResponse (json.answerID (json.parse raw)) action (.map payload))) ∧
              r.Answers (json.answerID (json.parse raw)) "ok" action ∨
            (∃ code message, r = .error (newErrorResponse (json.answerID (json.parse raw)) action code message)) ∧
              r.Answers (json.answerID (json.parse raw)) "error" action ∧
              broadcasts (Program.shown Effect.output trace) = []) := by
  refine ⟨exists_handlesMessage json c raw h, ?_⟩
  intro trace h' hrun
  cases (sends_handleMessage c json raw).run h trace () h' hc hrun with
  | success action payload hone hanswers => exact ⟨_, action, hone, .inl ⟨⟨payload, rfl⟩, hanswers⟩⟩
  | error action code message hall =>
    rw [hall]
    have hanswers := answers_newErrorResponse (json.answerID (json.parse raw)) action code message
    exact ⟨_, action, rfl, .inr ⟨⟨code, message, rfl⟩, hanswers, rfl⟩⟩

/-- A ping whose id is no double. -/
def longID : List (String × Json) :=
  [("id", .integer false 9007199254740993), ("action", .string "ping")]

/-- A ping whose id is null. -/
def nullID : List (String × Json) :=
  [("id", .null), ("request_id", .string "r"), ("action", .string "ping")]

theorem handleMessage_answers_once_longID :
    (∃ trace h', HandlesMessage (Backend.oneFrame (.object longID)) 1 [] (Hub.new.registerClient 1) trace h') ∧
      ∀ trace h', HandlesMessage (Backend.oneFrame (.object longID)) 1 [] (Hub.new.registerClient 1) trace h' →
        ∃ r action, responses (Program.shown Effect.output trace) = [r] ∧
          ((∃ payload, r = .success (newSuccessResponse
              ((Backend.oneFrame (.object longID)).answerID (some (.object longID))) action (.map payload))) ∧
              r.Answers ((Backend.oneFrame (.object longID)).answerID (some (.object longID))) "ok" action ∨
            (∃ code message, r = .error (newErrorResponse
              ((Backend.oneFrame (.object longID)).answerID (some (.object longID))) action code message)) ∧
              r.Answers ((Backend.oneFrame (.object longID)).answerID (some (.object longID))) "error" action ∧
              broadcasts (Program.shown Effect.output trace) = []) :=
  handleMessage_answers_once (Backend.oneFrame (.object longID)) []
    (attached_after [.update (.registerClient 1)] rfl)

section ids

/-- A frame with an id gets that very id back. -/
def RepeatsID (json : JsonLibrary) (raw : GoBytes) (c : ClientID) (h : Hub) : Prop :=
  ∀ members id, json.parse raw = some (.object members) → json.decodes members = true →
    (json.valuesOf "id" members).getLast? = some id →
    ∀ trace h', HandlesMessage json c raw h trace h' →
      ∀ r ∈ responses (Program.shown Effect.output trace), r.field "id" = some (.decoded id)

theorem RepeatsID.answerID_eq {json : JsonLibrary} {raw : GoBytes} {c : ClientID} {h : Hub}
    (hc : Attached c h) (hrepeats : RepeatsID json raw c h) {members : List (String × Json)} {id : Json}
    (hparse : json.parse raw = some (.object members)) (hdecodes : json.decodes members = true)
    (hid : (json.valuesOf "id" members).getLast? = some id) :
    json.answerID (some (.object members)) = id := by
  obtain ⟨trace, h', hrun⟩ := exists_handlesMessage json c raw h
  have hsent := (sends_handleMessage c json raw).run h trace () h' hc hrun
  rw [hparse] at hsent
  have hfield := hrepeats members id hparse hdecodes hid trace h' hrun
  have hid_eq : ∀ {r : Response} {status action : String},
      r.Answers (json.answerID (some (.object members))) status action → r.field "id" = some (.decoded id) →
        json.answerID (some (.object members)) = id := by
    intro r status action hanswers hsame
    rw [hanswers.hasID] at hsame
    exact Value.decoded.inj (Option.some.inj hsame)
  cases hsent with
  | success action payload hone hanswers =>
    rw [hone] at hfield
    exact hid_eq hanswers (hfield _ (List.mem_singleton.mpr rfl))
  | error action code message hall =>
    rw [hall] at hfield
    exact hid_eq (answers_newErrorResponse _ action code message) (hfield _ (List.mem_singleton.mpr rfl))

/-- The first id comes back as 9007199254740992, the second as "r". -/
theorem ids_come_back_changed :
    Attached 1 (Hub.new.registerClient 1) ∧
      ¬ RepeatsID (Backend.oneFrame (.object longID)) [] 1 (Hub.new.registerClient 1) ∧
      ¬ RepeatsID (Backend.oneFrame (.object nullID)) [] 1 (Hub.new.registerClient 1) := by
  have hc : Attached 1 (Hub.new.registerClient 1) := attached_after [.update (.registerClient 1)] rfl
  refine ⟨hc, ?_, ?_⟩
  · intro hrepeats
    have hdecodes : (Backend.oneFrame (.object longID)).decodes longID = true := by decide +kernel
    have hsame := hrepeats.answerID_eq hc rfl hdecodes rfl
    have hlast : ((Backend.oneFrame (.object longID)).valuesOf "id" longID).getLast? =
        some (.integer false 9007199254740993) := rfl
    rw [JsonLibrary.answerID, if_pos hdecodes, hlast] at hsame
    have hdigits := (Json.integer.inj hsame).2
    exact absurd hdigits (by decide +kernel)
  · intro hrepeats
    have hdecodes : (Backend.oneFrame (.object nullID)).decodes nullID = true := by decide +kernel
    have hsame := hrepeats.answerID_eq hc rfl hdecodes rfl
    have hanswer := congrArg idString hsame
    exact absurd hanswer (by decide +kernel)

end ids

end low_latency_voice.control

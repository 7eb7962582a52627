import LowLatencyVoice.Control.Requests

open low_latency_voice.model low_latency_voice.storage

namespace low_latency_voice.control

/-- The longest frame that is read, in bytes. -/
def maxMessageSize : Nat := 64 * 1024

/-- What `json.Marshal` writes for a part of a request, for a token and for a time. -/
structure GoEncoder where
  decoded : Json → Json
  string : ∀ s, decoded (.string s) = .string s
  null : decoded .null = .null
  token : Token → String
  time : Time → String

instance : Inhabited GoEncoder := ⟨fun doc => doc, fun _ => rfl, rfl, fun _ => "", fun _ => ""⟩

namespace GoEncoder

variable (encoder : GoEncoder)

/-- A slice that only `append` has touched is nil while it is empty. -/
def slice : List Json → Json
  | [] => .null
  | items => .array items

def natural (n : Nat) : Json := .integer false n

/-- The creation times of channels and messages are left out. -/
def channel (ch : StoredChannel) : Json :=
  .object [("id", natural ch.id.toNat), ("name", .string ch.row.name), ("type", .string ch.row.type),
    ("category", .string ch.row.category), ("position", .ofInt ch.row.position), ("bitrate", .ofInt ch.row.bitrate),
    ("user_limit", .ofInt ch.row.userLimit)]

def message (m : Message) : Json :=
  .object [("id", natural m.id), ("channel_id", natural m.channelID.toNat), ("sender_id", natural m.senderID.toNat),
    ("sender_name", .string m.senderName), ("content", .string m.content)]

def voiceState (state : VoiceState) : Json :=
  .object [("user_id", natural state.userID.toNat), ("username", .string state.username),
    ("channel_id", natural state.channelID.toNat), ("is_speaking", .bool state.isSpeaking),
    ("self_muted", .bool state.selfMuted), ("self_deafened", .bool state.selfDeafened),
    ("server_muted", .bool state.serverMuted), ("server_deafened", .bool state.serverDeafened),
    ("updated_at", .string (encoder.time state.updatedAt))]

/-- A nil pointer is null, or is left out where the tag says so. -/
def rosterMember (m : RosterMember) : Json :=
  .object ([("user_id", natural m.userID.toNat), ("username", .string m.username),
    ("roles", slice (m.roles.map Json.string)), ("is_admin", .bool m.isAdmin), ("online", .bool m.online),
    ("voice_channel_id", (m.voiceChannelID.map fun id => natural id.toNat).getD .null)] ++
      (m.voiceState.map fun state => ("voice_state", encoder.voiceState state)).toList)

mutual

def value : Value → Json
  | .decoded doc => encoder.decoded doc
  | .bool b => .bool b
  | .int n => .ofInt n
  | .uint32 n => natural n.toNat
  | .uint64 n => natural n
  | .string s => .string s
  | .token t => .string (encoder.token t)
  | .strings ss => slice (ss.map Json.string)
  | .channel ch => channel ch
  | .channels chs => slice (chs.map channel)
  | .messages ms => .array (ms.map message)
  | .members ms => .array (ms.map encoder.rosterMember)
  | .detail code message => .object [("code", .ofInt code), ("message", .string message)]
  | .map entries => .object (Json.sortKeys (values entries))

def values : List (String × Value) → List (String × Json)
  | [] => []
  | entry :: entries => (entry.1, value entry.2) :: values entries

end

/-- A struct is written in the order of its fields, a map in that of its keys. -/
def response : Response → Json
  | .success fields => .object (Json.sortKeys (encoder.values fields.pairs))
  | .error e => .object (encoder.values e.members)

theorem values_eq_map (entries : List (String × Value)) :
    encoder.values entries = entries.map fun entry => (entry.1, encoder.value entry.2) := by
  induction entries with
  | nil => rfl
  | cons entry rest ih => rw [values, ih, List.map_cons]

theorem map_fst_values (entries : List (String × Value)) :
    (encoder.values entries).map Prod.fst = entries.map Prod.fst := by
  rw [values_eq_map, List.map_map]
  rfl

theorem lookup_values (entries : List (String × Value)) (key : String) :
    (encoder.values entries).lookup key = (entries.lookup key).map encoder.value := by
  rw [values_eq_map]
  exact Json.lookup_map encoder.value entries key

/-- The members of an error have different names. -/
theorem nodup_members (e : ErrorResponse) : (e.members.map Prod.fst).Nodup := by
  by_cases haction : e.action = "" <;> by_cases hrequest : e.requestID = "" <;>
    simp [ErrorResponse.members, omitEmpty, haction, hrequest]

theorem lookup_pairs (fields : GoMap String Value) (key : String) : fields.pairs.lookup key = fields.get? key := by
  ext v
  exact (Json.lookup_eq_some_iff_mem fields.nodup_pairs_keys).trans (fields.mem_pairs_iff key v)

/-- A reader finds the fields of a response under their names. -/
theorem lookup_response (r : Response) (key : String) :
    (encoder.response r).members.reverse.lookup key = (r.field key).map encoder.value := by
  cases r with
  | success fields =>
    have hkeys : ((encoder.values fields.pairs).map Prod.fst).Nodup := by
      rw [map_fst_values]
      exact fields.nodup_pairs_keys
    have hsorted : (Json.sortKeys (encoder.values fields.pairs)).reverse.lookup key = _ :=
      Json.lookup_sortKeys hkeys
    exact hsorted.trans ((encoder.lookup_values fields.pairs key).trans (by rw [lookup_pairs]; rfl))
  | error e =>
    have hkeys : ((encoder.values e.members).map Prod.fst).Nodup := by
      rw [map_fst_values]
      exact nodup_members e
    have hreversed : (encoder.values e.members).reverse.lookup key = _ :=
      Json.lookup_of_perm hkeys (List.reverse_perm _)
    exact hreversed.trans (encoder.lookup_values e.members key)

/-- A response to a request whose id is a string has it as both of its ids. -/
theorem lookup_request_id {r : Response} {id status action : String} (h : r.Answers (.string id) status action)
    (hid : id ≠ "") : (encoder.response r).members.reverse.lookup "request_id" = some (.string id) := by
  rw [lookup_response, h.hasRequestID, idString, omitEmpty, if_neg hid]
  rfl

/-- One to a request without an id names none. -/
theorem lookup_of_no_id {r : Response} {status action : String} (h : r.Answers .null status action) :
    (encoder.response r).members.reverse.lookup "request_id" = none ∧
      (encoder.response r).members.reverse.lookup "id" = some .null := by
  constructor
  · rw [lookup_response, h.hasRequestID]
    rfl
  · rw [lookup_response, h.hasID]
    exact congrArg some encoder.null

end GoEncoder

/-- An error says so under the name, and no success has anything there. -/
def Response.ErrorsOnly : Response → Prop
  | .success fields => fields.get? "error" = none
  | .error _ => True

/-- What a call sends. -/
def Effect.sent : Effect → Option Response
  | .sendJSON r => some r
  | _ => none

/-- A call that sends a response sends such a one. -/
def Effect.SendsErrorsOnly (k : Effect) : Prop := ∀ r, k.sent = some r → r.ErrorsOnly

theorem errorsOnly_newSuccessResponse (id : Json) (action : String) {payload : List (String × Value)}
    (hpayload : payload.lookup "error" = none) :
    (Response.success (newSuccessResponse id action (.map payload))).ErrorsOnly := by
  have henvelope : (successEnvelope id action (.map payload)).get? "error" = none := by
    unfold successEnvelope
    simp only
    split <;> simp [GoMap.get?_ofList, List.lookup_cons]
  change (flatten (successEnvelope id action (.map payload)) payload).get? "error" = none
  rw [get?_flatten, henvelope, hpayload]
  rfl

/-- Whatever is answered, a handler sends such responses. -/
abbrev ErrorsOnly (p : Handler) : Prop := p.Every Effect.SendsErrorsOnly

section handlers

open Handler

/-- A call that sends nothing. -/
theorem errorsOnly_call {k : Effect} {next : k.Answer → Handler} (hquiet : k.sent = none)
    (h : ∀ answer, ErrorsOnly (next answer)) : ErrorsOnly (Handler.call k >>= next) := by
  refine Program.Every.perform_bind (fun r hr => ?_) h
  rw [hquiet] at hr
  cases hr

theorem errorsOnly_send {r : Response} (hr : r.ErrorsOnly) : (Effect.sendJSON r).SendsErrorsOnly := by
  rintro _ ⟨⟩
  exact hr

theorem errorsOnly_sendError (id : Json) (action : String) (code : Int) (message : String) :
    ErrorsOnly (Handler.sendError id action code message) := Program.Every.perform (errorsOnly_send trivial)

theorem errorsOnly_guard {test : Prop} [Decidable test] {p q : Handler} (hp : ErrorsOnly p) (hq : ErrorsOnly q) :
    ErrorsOnly (if test then p else q) := by
  split
  · exact hp
  · exact hq

theorem errorsOnly_sendSuccess (id : Json) (action : String) {payload : List (String × Value)}
    (hpayload : payload.lookup "error" = none) {next : Unit → Handler} (h : ErrorsOnly (next ())) :
    ErrorsOnly (Handler.sendSuccess id action payload >>= next) :=
  Program.Every.perform_bind (errorsOnly_send (errorsOnly_newSuccessResponse id action hpayload)) fun _ => h

theorem errorsOnly_sendSuccess_last (id : Json) (action : String) {payload : List (String × Value)}
    (hpayload : payload.lookup "error" = none) : ErrorsOnly (Handler.sendSuccess id action payload) :=
  Program.Every.perform (errorsOnly_send (errorsOnly_newSuccessResponse id action hpayload))

theorem errorsOnly_event (e : Event) : ErrorsOnly (Handler.call (.broadcastEvent e)) :=
  errorsOnly_call rfl fun _ => trivial

theorem errorsOnly_done : ErrorsOnly (pure ()) := trivial

variable (go : GoLibrary) (reqID : Json) (params : Params)

theorem errorsOnly_signIn {user : User} {userID : UInt32} {next : Int → Handler}
    (h : ∀ udpPort, ErrorsOnly (next udpPort)) :
    ErrorsOnly (do
      access (.signIn user)
      access (.addUserClient userID)
      let udpPort ← call .udpPort
      next udpPort) := by
  apply errorsOnly_call rfl
  intro _
  apply errorsOnly_call rfl
  intro _
  exact errorsOnly_call rfl h

theorem errorsOnly_handleRegister : ErrorsOnly (handleRegister go reqID params) := by
  apply errorsOnly_call rfl
  intro answer
  cases answer with
  | error failure =>
    obtain ⟨e, text⟩ := failure
    cases e <;> apply errorsOnly_sendError
  | ok res =>
    apply errorsOnly_signIn
    intro udpPort
    apply errorsOnly_sendSuccess reqID "register" rfl
    apply errorsOnly_call rfl
    intro _
    apply errorsOnly_event

theorem errorsOnly_handleLogin : ErrorsOnly (handleLogin go reqID params) := by
  apply errorsOnly_call rfl
  intro answer
  cases answer with
  | error failure =>
    obtain ⟨e, text⟩ := failure
    cases e <;> apply errorsOnly_sendError
  | ok res =>
    apply errorsOnly_signIn
    intro udpPort
    apply errorsOnly_sendSuccess reqID "login" rfl
    apply errorsOnly_event

theorem errorsOnly_handleAuth : ErrorsOnly (handleAuth go reqID params) := by
  apply errorsOnly_guard (errorsOnly_sendError ..)
  apply errorsOnly_call rfl
  intro answer
  cases answer with
  | none => apply errorsOnly_sendError
  | some session =>
    apply errorsOnly_call rfl
    intro answer
    cases answer with
    | none => apply errorsOnly_sendError
    | some user =>
      apply errorsOnly_signIn
      intro udpPort
      apply errorsOnly_sendSuccess reqID "auth" rfl
      apply errorsOnly_event

theorem errorsOnly_handleGetChannels : ErrorsOnly (handleGetChannels reqID) := by
  apply errorsOnly_call rfl
  intro answer
  cases answer with
  | none => apply errorsOnly_sendError
  | some channels => exact errorsOnly_sendSuccess_last reqID "get_channels" rfl

theorem errorsOnly_handleCreateChannel : ErrorsOnly (handleCreateChannel go reqID params) := by
  apply errorsOnly_call rfl
  intro client
  apply errorsOnly_guard (errorsOnly_sendError ..)
  apply errorsOnly_guard (errorsOnly_sendError ..)
  apply errorsOnly_call rfl
  intro answer
  cases answer with
  | error text => apply errorsOnly_sendError
  | ok ch =>
    apply errorsOnly_sendSuccess reqID "create_channel" rfl
    apply errorsOnly_event

theorem errorsOnly_handleDeleteChannel : ErrorsOnly (handleDeleteChannel reqID params) := by
  apply errorsOnly_call rfl
  intro client
  apply errorsOnly_guard (errorsOnly_sendError ..)
  apply errorsOnly_guard (errorsOnly_sendError ..)
  apply errorsOnly_call rfl
  intro answer
  cases answer with
  | error e => cases e <;> apply errorsOnly_sendError
  | ok =>
    apply errorsOnly_sendSuccess reqID "delete_channel" rfl
    apply errorsOnly_event

theorem errorsOnly_handleSendChat : ErrorsOnly (handleSendChat go reqID params) := by
  apply errorsOnly_call rfl
  intro client
  apply errorsOnly_guard (errorsOnly_sendError ..)
  apply errorsOnly_guard (errorsOnly_sendError ..)
  apply errorsOnly_guard (errorsOnly_sendError ..)
  apply errorsOnly_guard (errorsOnly_sendError ..)
  apply errorsOnly_call rfl
  intro allowed
  apply errorsOnly_guard (errorsOnly_sendError ..)
  apply errorsOnly_call rfl
  intro answer
  cases answer with
  | error e => cases e <;> apply errorsOnly_sendError
  | ok created =>
    apply errorsOnly_sendSuccess reqID "send_chat" rfl
    apply errorsOnly_event

theorem errorsOnly_handleGetChatHistory : ErrorsOnly (handleGetChatHistory reqID params) := by
  apply errorsOnly_guard (errorsOnly_sendError ..)
  apply errorsOnly_call rfl
  intro answer
  cases answer with
  | error e => cases e <;> apply errorsOnly_sendError
  | ok page => exact errorsOnly_sendSuccess_last reqID "get_chat_history" rfl

theorem errorsOnly_handleJoinVoice : ErrorsOnly (handleJoinVoice reqID params) := by
  apply errorsOnly_call rfl
  intro client
  apply errorsOnly_guard (errorsOnly_sendError ..)
  apply errorsOnly_guard (errorsOnly_sendError ..)
  apply errorsOnly_call rfl
  intro answer
  cases answer with
  | none => apply errorsOnly_sendError
  | some ch =>
    apply errorsOnly_guard (errorsOnly_sendError ..)
    apply errorsOnly_call rfl
    intro answer
    cases answer with
    | error refusal =>
      cases refusal with
      | disconnected => exact errorsOnly_done
      | channelFull => apply errorsOnly_sendError
    | ok =>
      apply errorsOnly_call rfl
      intro answer
      cases answer with
      | none => apply errorsOnly_sendError
      | some vt =>
        apply errorsOnly_call rfl
        intro _
        apply errorsOnly_call rfl
        intro udpPort
        apply errorsOnly_sendSuccess reqID "join_voice" rfl
        apply errorsOnly_event

theorem errorsOnly_handleLeaveVoice : ErrorsOnly (handleLeaveVoice reqID) := by
  apply errorsOnly_call rfl
  intro client
  apply errorsOnly_call rfl
  intro chID
  apply errorsOnly_call rfl
  intro _
  apply errorsOnly_sendSuccess reqID "leave_voice" rfl
  exact errorsOnly_guard (errorsOnly_event _) errorsOnly_done

theorem errorsOnly_handleSetVoiceState : ErrorsOnly (handleSetVoiceState reqID params) := by
  apply errorsOnly_call rfl
  intro client
  apply errorsOnly_call rfl
  intro chID
  apply errorsOnly_sendSuccess reqID "set_voice_state" rfl
  apply errorsOnly_event

theorem errorsOnly_handleGetRoster : ErrorsOnly (handleGetRoster reqID) := by
  apply errorsOnly_call rfl
  intro answer
  cases answer with
  | none => apply errorsOnly_sendError
  | some users =>
    apply errorsOnly_call rfl
    intro members
    exact errorsOnly_sendSuccess_last reqID "get_roster" rfl

theorem errorsOnly_handleMoveMember : ErrorsOnly (handleMoveMember reqID params) := by
  apply errorsOnly_call rfl
  intro client
  apply errorsOnly_guard (errorsOnly_sendError ..)
  apply errorsOnly_call rfl
  intro answer
  cases answer with
  | none => apply errorsOnly_sendError
  | some fromChannelID =>
    apply errorsOnly_call rfl
    intro _
    apply errorsOnly_sendSuccess reqID "move_member" rfl
    apply errorsOnly_call rfl
    intro _
    apply errorsOnly_event

theorem errorsOnly_handleSetServerFlag (flag : ModFlag) {field : String} (action key denied : String)
    (hfield : field ≠ "error") : ErrorsOnly (handleSetServerFlag reqID params flag action key field denied) := by
  apply errorsOnly_call rfl
  intro client
  apply errorsOnly_guard (errorsOnly_sendError ..)
  apply errorsOnly_call rfl
  intro _
  apply errorsOnly_call rfl
  intro _
  apply errorsOnly_sendSuccess reqID action
  · have hother : ("error" == field) = false := beq_eq_false_iff_ne.mpr (Ne.symm hfield)
    simp [List.lookup_cons, hother]
  apply errorsOnly_event

theorem errorsOnly_unregisterClient (client : ClientID) : ErrorsOnly (unregisterClient client) := by
  apply errorsOnly_call rfl
  intro answer
  cases answer with
  | none => exact errorsOnly_done
  | some d =>
    apply Program.Every.bind
    · apply errorsOnly_guard _ errorsOnly_done
      apply errorsOnly_call rfl
      intro _
      apply errorsOnly_event
    · intro _
      apply errorsOnly_call rfl
      intro remaining
      exact errorsOnly_guard (errorsOnly_event _) errorsOnly_done

theorem errorsOnly_handleKickMember : ErrorsOnly (handleKickMember go reqID params) := by
  apply errorsOnly_call rfl
  intro client
  apply errorsOnly_guard (errorsOnly_sendError ..)
  apply errorsOnly_guard (errorsOnly_sendError ..)
  apply errorsOnly_call rfl
  intro _
  apply errorsOnly_call rfl
  intro _
  apply errorsOnly_call rfl
  intro answer
  obtain ⟨clientsToClose, hadVoiceChannel⟩ := answer
  apply errorsOnly_call rfl
  intro _
  apply Program.Every.bind
  · apply Program.Every.forEach
    intro client
    apply errorsOnly_call rfl
    intro _
    apply errorsOnly_unregisterClient
  · intro _
    apply errorsOnly_sendSuccess reqID "kick_member" rfl
    apply errorsOnly_call rfl
    intro _
    exact errorsOnly_guard (errorsOnly_event _) errorsOnly_done

theorem errorsOnly_handlePing : ErrorsOnly (handlePing reqID) := by
  apply errorsOnly_call rfl
  intro now
  exact errorsOnly_sendSuccess_last reqID "pong" rfl

theorem errorsOnly_handleAction (a : Action) : ErrorsOnly (handleAction go reqID params a) := by
  cases a with
  | register => apply errorsOnly_handleRegister
  | login => apply errorsOnly_handleLogin
  | auth => apply errorsOnly_handleAuth
  | getChannels => apply errorsOnly_handleGetChannels
  | createChannel => apply errorsOnly_handleCreateChannel
  | deleteChannel => apply errorsOnly_handleDeleteChannel
  | sendChat => apply errorsOnly_handleSendChat
  | getChatHistory => apply errorsOnly_handleGetChatHistory
  | joinVoice => apply errorsOnly_handleJoinVoice
  | leaveVoice => apply errorsOnly_handleLeaveVoice
  | setVoiceState => apply errorsOnly_handleSetVoiceState
  | getRoster => apply errorsOnly_handleGetRoster
  | moveMember => apply errorsOnly_handleMoveMember
  | setServerFlag flag => cases flag <;> exact errorsOnly_handleSetServerFlag reqID params _ _ _ _ (by decide)
  | kickMember => apply errorsOnly_handleKickMember
  | ping => apply errorsOnly_handlePing

/-- Only the errors of the server say `error`. -/
theorem errorsOnly_handleMessage (json : JsonLibrary) (raw : GoBytes) : ErrorsOnly (handleMessage json raw) := by
  unfold handleMessage
  cases json.request raw with
  | none => apply errorsOnly_sendError
  | some env =>
    apply errorsOnly_guard (errorsOnly_sendError ..)
    apply errorsOnly_call rfl
    intro client
    apply errorsOnly_guard (errorsOnly_sendError ..)
    cases Action.ofString (json.toLower (json.trimSpace env.action)) with
    | none => apply errorsOnly_sendError
    | some a => apply errorsOnly_handleAction

end handlers

end low_latency_voice.control

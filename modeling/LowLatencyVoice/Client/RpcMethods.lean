import LowLatencyVoice.Control.Marshal
import LowLatencyVoice.Control.OneResponse

open low_latency_voice.control

namespace low_latency_voice.client

/-- The methods of `WebSocketService` that send a request, and the ping of its heartbeat.
An int of Dart has 64 bits. -/
inductive RpcMethod where
  | login (username password clientVersion : String)
  | register (username password clientVersion : String)
  | authenticate (token : String)
  | getChannels
  | createChannel (name type category : String) (position bitrate userLimit : Int64)
  | deleteChannel (channelId : Int64)
  | sendChat (channelId : Int64) (content : String)
  | getChatHistory (channelId beforeId limit : Int64)
  | joinVoice (channelId : Int64) (selfMuted selfDeafened : Bool)
  | leaveVoice
  | setVoiceState (selfMuted selfDeafened isSpeaking : Bool)
  | getRoster
  | moveMember (targetUserId toChannelId : Int64)
  | setServerMute (targetUserId : Int64) (muted : Bool)
  | setServerDeafen (targetUserId : Int64) (deafened : Bool)
  | kickMember (targetUserId : Int64) (reason : String)
  | ping

namespace RpcMethod

def action : RpcMethod → String
  | login .. => "login"
  | register .. => "register"
  | authenticate _ => "auth"
  | getChannels => "get_channels"
  | createChannel .. => "create_channel"
  | deleteChannel _ => "delete_channel"
  | sendChat .. => "send_chat"
  | getChatHistory .. => "get_chat_history"
  | joinVoice .. => "join_voice"
  | leaveVoice => "leave_voice"
  | setVoiceState .. => "set_voice_state"
  | getRoster => "get_roster"
  | moveMember .. => "move_member"
  | setServerMute .. => "set_server_mute"
  | setServerDeafen .. => "set_server_deafen"
  | kickMember .. => "kick_member"
  | ping => "ping"

def int (key : String) (n : Int64) : String × Json := (key, .ofInt n.toInt)

def params : RpcMethod → List (String × Json)
  | login username password clientVersion | register username password clientVersion =>
    [("username", .string username), ("password", .string password), ("client_version", .string clientVersion)]
  | authenticate token => [("token", .string token), ("client_version", .string "1.0.0")]
  | createChannel name type category position bitrate userLimit =>
    [("name", .string name), ("type", .string type), ("category", .string category), int "position" position,
      int "bitrate" bitrate, int "user_limit" userLimit]
  | deleteChannel channelId => [int "channel_id" channelId]
  | sendChat channelId content => [int "channel_id" channelId, ("content", .string content)]
  | getChatHistory channelId beforeId limit =>
    [int "channel_id" channelId, int "before_id" beforeId, int "limit" limit]
  | joinVoice channelId selfMuted selfDeafened =>
    [int "channel_id" channelId, ("self_muted", .bool selfMuted), ("self_deafened", .bool selfDeafened)]
  | setVoiceState selfMuted selfDeafened isSpeaking =>
    [("self_muted", .bool selfMuted), ("self_deafened", .bool selfDeafened), ("is_speaking", .bool isSpeaking)]
  | moveMember targetUserId toChannelId => [int "target_user_id" targetUserId, int "to_channel_id" toChannelId]
  | setServerMute targetUserId muted => [int "target_user_id" targetUserId, ("muted", .bool muted)]
  | setServerDeafen targetUserId deafened => [int "target_user_id" targetUserId, ("deafened", .bool deafened)]
  | kickMember targetUserId reason => [int "target_user_id" targetUserId, ("reason", .string reason)]
  | getChannels | leaveVoice | getRoster | ping => []

/-- The members of the envelope of `sendRequest`: the parameters stand in it twice. -/
def envelope (id : String) (m : RpcMethod) : List (String × Json) :=
  [("id", .string id), ("action", .string m.action), ("params", .object m.params)] ++ m.params

/-- The arguments the server takes as an unsigned integer of this many bits. -/
def unsigned : RpcMethod → List (Nat × Int64)
  | deleteChannel channelId | sendChat channelId _ | joinVoice channelId _ _ => [(32, channelId)]
  | getChatHistory channelId beforeId _ => [(32, channelId), (64, beforeId)]
  | moveMember targetUserId toChannelId => [(32, targetUserId), (32, toChannelId)]
  | setServerMute targetUserId _ | setServerDeafen targetUserId _ | kickMember targetUserId _ => [(32, targetUserId)]
  | _ => []

/-- They are none too large, and none is negative. -/
def Fits (m : RpcMethod) : Prop := ∀ arg ∈ m.unsigned, 0 ≤ arg.2.toInt ∧ arg.2.toInt < 2 ^ arg.1

instance (m : RpcMethod) : Decidable m.Fits := inferInstanceAs (Decidable (∀ arg ∈ m.unsigned, _))

end RpcMethod

/-- What is documented of the library: the names of members are compared up to case, and a
text of small letters and underscores is left alone. -/
structure Documented (json : JsonLibrary) : Prop where
  folds : ∀ a b : String, (∀ c ∈ a.toList ++ b.toList, c.toNat < 128) →
    (json.foldName a = json.foldName b ↔ a.toList.map Char.toLower = b.toList.map Char.toLower)
  keeps : ∀ s : String, (∀ c ∈ s.toList, c.isLower ∨ c = '_') → json.toLower (json.trimSpace s) = s

section fields

variable {json : JsonLibrary}

/-- A member with the very name of a field is for that field. -/
theorem fieldOf_tag {name : String} {type : FieldType} (htag : (name, type) ∈ RequestEnvelope.fieldTypes) :
    json.fieldOf name = some (name, type) := by
  have hfirst : ∀ field ∈ RequestEnvelope.fieldTypes,
      (RequestEnvelope.fieldTypes.find? fun field' => field'.1 = field.1) = some field := by decide
  rw [JsonLibrary.fieldOf, hfirst _ htag]
  rfl

/-- There is no field for the one parameter that the server reads from the map only. -/
theorem Documented.fieldOf_is_speaking (h : Documented json) : json.fieldOf "is_speaking" = none := by
  have hascii : ∀ field ∈ RequestEnvelope.fieldTypes,
      (field.1.toList ++ "is_speaking".toList).all (fun c => c.toNat < 128) = true := by decide
  have hother : ∀ field ∈ RequestEnvelope.fieldTypes,
      ¬field.1.toList.map Char.toLower = "is_speaking".toList.map Char.toLower := by decide
  have hfold : ∀ field ∈ RequestEnvelope.fieldTypes, ¬json.foldName field.1 = json.foldName "is_speaking" := by
    intro field hfield
    rw [h.folds field.1 "is_speaking" (by simpa only [List.all_eq_true, decide_eq_true_eq] using hascii field hfield)]
    exact hother field hfield
  have hnone : (RequestEnvelope.fieldTypes.find? fun field => json.foldName field.1 = json.foldName "is_speaking") =
      none := by
    rw [List.find?_eq_none]
    intro field hfield
    simpa using hfold field hfield
  have hexact : (RequestEnvelope.fieldTypes.find? fun field => field.1 = "is_speaking") = none := by decide
  rw [JsonLibrary.fieldOf, hexact, hnone]
  rfl

theorem fits_uint (bits : Nat) (n : Int64) :
    json.fits (.uint bits) (.ofInt n.toInt) = decide (0 ≤ n.toInt ∧ n.toInt < 2 ^ bits) := by
  have hnat : n.toInt.natAbs < 2 ^ bits ↔ (n.toInt.natAbs : Int) < 2 ^ bits := by
    rw [← Int.ofNat_lt, Int.natCast_pow]
    rfl
  simp only [Json.ofInt, JsonLibrary.fits, hnat]
  by_cases hneg : n.toInt < 0
  · simp [hneg]
  · have hnonneg : 0 ≤ n.toInt := Int.not_lt.mp hneg
    simp [hneg, hnonneg, Int.natAbs_of_nonneg hnonneg]

theorem fits_int (n : Int64) : json.fits .int (.ofInt n.toInt) = true := by
  have hlow := n.le_toInt
  have hhigh := n.toInt_lt
  simp only [Json.ofInt, JsonLibrary.fits]
  by_cases hneg : n.toInt < 0
  · rw [decide_eq_true hneg, if_pos rfl, decide_eq_true_iff]
    omega
  · rw [decide_eq_false hneg, if_neg Bool.false_ne_true, decide_eq_true_iff]
    omega

/-- Every int of Dart is some float64. -/
theorem isFloat64_int (n : Int64) : json.isFloat64 (.ofInt n.toInt) = true := by
  have hlow := n.le_toInt
  have hhigh := n.toInt_lt
  have habs : n.toInt.natAbs < 2 ^ 64 := by omega
  have hlog : (Float64.roundNat n.toInt.natAbs).log2 < 1024 :=
    Float64.log2_lt_of_lt ((Float64.roundNat_le _).trans_lt (by omega)) (by decide)
  rw [Json.ofInt, JsonLibrary.isFloat64, Float64.ofLiteral, if_pos hlog]
  rfl

/-- The params decode into a map whatever they are. -/
theorem membersMeet_params (m : RpcMethod) : Json.membersMeet json.isFloat64 m.params = true := by
  have hint : ∀ n : Int64, (Json.ofInt n.toInt).numbersMeet json.isFloat64 = true := fun n =>
    @isFloat64_int json n
  cases m <;> simp [RpcMethod.params, RpcMethod.int, Json.membersMeet, Json.numbersMeet, hint]

/-- The names of the fields, written out. -/
theorem fieldOf_tags : ∀ field ∈ RequestEnvelope.fieldTypes, json.fieldOf field.1 = some field :=
  fun _ => fieldOf_tag

/-- Parameters that do not fit are the only ones that do not decode. -/
theorem Documented.decodes_params (h : Documented json) (m : RpcMethod) :
    json.decodes m.params = decide m.Fits := by
  have htags : ∀ field ∈ RequestEnvelope.fieldTypes, json.fieldOf field.1 = some field := fieldOf_tags
  simp only [RequestEnvelope.fieldTypes, List.forall_mem_cons] at htags
  have hstring : ∀ s, json.fits .string (.string s) = true := fun _ => rfl
  have hbool : ∀ b, json.fits .bool (.bool b) = true := fun _ => rfl
  cases m <;>
    simp [JsonLibrary.decodes, RpcMethod.params, RpcMethod.int, RpcMethod.Fits, RpcMethod.unsigned, htags,
      h.fieldOf_is_speaking, fits_uint, fits_int, hstring, hbool]

theorem Documented.decodes_envelope (h : Documented json) (id : String) (m : RpcMethod) :
    json.decodes (m.envelope id) = decide m.Fits := by
  have htags : ∀ field ∈ RequestEnvelope.fieldTypes, json.fieldOf field.1 = some field := fieldOf_tags
  simp only [RequestEnvelope.fieldTypes, List.forall_mem_cons] at htags
  have hstring : ∀ s, json.fits .string (.string s) = true := fun _ => rfl
  have hany : ∀ s, json.fits .any (.string s) = true := fun _ => rfl
  have hparams : json.fits .params (.object m.params) = true := membersMeet_params m
  rw [← h.decodes_params m, RpcMethod.envelope, JsonLibrary.decodes, List.all_append]
  simp [htags, hstring, hany, hparams, JsonLibrary.decodes]

/-- No parameter is for a field of the envelope. -/
theorem Documented.fieldOf_params (h : Documented json) (m : RpcMethod) {name : String}
    (hname : name = "id" ∨ name = "action" ∨ name = "params") :
    ∀ member ∈ m.params, (json.fieldOf member.1).map Prod.fst ≠ some name := by
  have htags : ∀ field ∈ RequestEnvelope.fieldTypes, json.fieldOf field.1 = some field := fieldOf_tags
  simp only [RequestEnvelope.fieldTypes, List.forall_mem_cons] at htags
  obtain rfl | rfl | rfl := hname <;> cases m <;>
    simp [RpcMethod.params, RpcMethod.int, htags, h.fieldOf_is_speaking]

/-- The fields of the envelope have the values it gives them. -/
theorem Documented.valuesOf_envelope (h : Documented json) (id : String) (m : RpcMethod) :
    json.valuesOf "id" (m.envelope id) = [.string id] ∧ json.valuesOf "action" (m.envelope id) = [.string m.action] ∧
      json.valuesOf "params" (m.envelope id) = [.object m.params] := by
  have htags : ∀ field ∈ RequestEnvelope.fieldTypes, json.fieldOf field.1 = some field := fieldOf_tags
  simp only [RequestEnvelope.fieldTypes, List.forall_mem_cons] at htags
  have hnone : ∀ name, name = "id" ∨ name = "action" ∨ name = "params" →
      (m.params.filter fun member => (json.fieldOf member.1).map Prod.fst = some name) = [] := by
    intro name hname
    rw [List.filter_eq_nil_iff]
    intro member hmember
    simpa using h.fieldOf_params m hname member hmember
  refine ⟨?_, ?_, ?_⟩ <;>
    rw [JsonLibrary.valuesOf, RpcMethod.envelope, List.filter_append, hnone _ (by simp)] <;> simp [htags]

/-- The response has the id of the request, unless an argument does not fit. Then it has
none. -/
theorem Documented.answerID_envelope (h : Documented json) (id : String) (m : RpcMethod) :
    json.answerID (some (.object (m.envelope id))) = if m.Fits then .string id else .null := by
  rw [JsonLibrary.answerID, h.decodes_envelope id m]
  by_cases hfits : m.Fits
  · rw [if_pos (decide_eq_true hfits), if_pos hfits, (h.valuesOf_envelope id m).1]
    rfl
  · rw [decide_eq_false hfits, if_neg Bool.false_ne_true, if_neg hfits]

end fields

section arguments

/-- The case of the `switch` that is for the method. -/
def RpcMethod.asks : RpcMethod → Action
  | .login .. => .login
  | .register .. => .register
  | .authenticate _ => .auth
  | .getChannels => .getChannels
  | .createChannel .. => .createChannel
  | .deleteChannel _ => .deleteChannel
  | .sendChat .. => .sendChat
  | .getChatHistory .. => .getChatHistory
  | .joinVoice .. => .joinVoice
  | .leaveVoice => .leaveVoice
  | .setVoiceState .. => .setVoiceState
  | .getRoster => .getRoster
  | .moveMember .. => .moveMember
  | .setServerMute .. => .setServerFlag .muted
  | .setServerDeafen .. => .setServerFlag .deafened
  | .kickMember .. => .kickMember
  | .ping => .ping

/-- The methods for a client who is not signed in. -/
def RpcMethod.Open (m : RpcMethod) : Prop :=
  m.asks = .auth ∨ m.asks = .login ∨ m.asks = .register ∨ m.asks = .ping

instance (m : RpcMethod) : Decidable m.Open := inferInstanceAs (Decidable (_ ∨ _ ∨ _ ∨ _))

/-- An int after its way through a float64. -/
def throughFloat64 (json : JsonLibrary) (n : Int64) : Int64 := (json.int (decide (n.toInt < 0)) n.toInt.natAbs).getD 0

/-- An id the handlers take for this argument. -/
def toUInt32 (n : Int64) : UInt32 := UInt32.ofNat n.toInt.toNat

/-- What the handler of the method reads are its arguments: texts without the space around
them, ids and flags as they are, and other ints as far as a float64 has them. -/
def RpcMethod.Reads (json : JsonLibrary) (params : Params) : RpcMethod → Prop
  | .login username password clientVersion | .register username password clientVersion =>
    getString json.go params "username" = json.trimSpace username ∧
      getString json.go params "password" = json.trimSpace password ∧
      getString json.go params "client_version" = json.trimSpace clientVersion
  | .authenticate token => getString json.go params "token" = json.trimSpace token
  | .createChannel name type category position bitrate userLimit =>
    getString json.go params "name" = json.trimSpace name ∧ getString json.go params "type" = json.trimSpace type ∧
      getString json.go params "category" = json.trimSpace category ∧
      getInt params "position" = throughFloat64 json position ∧
      getInt params "bitrate" = throughFloat64 json bitrate ∧
      getInt params "user_limit" = throughFloat64 json userLimit
  | .deleteChannel channelId => getUInt32 params "channel_id" = toUInt32 channelId
  | .sendChat channelId content =>
    getUInt32 params "channel_id" = toUInt32 channelId ∧ getString json.go params "content" = json.trimSpace content
  | .getChatHistory channelId beforeId limit =>
    getUInt32 params "channel_id" = toUInt32 channelId ∧ getInt params "before_id" = throughFloat64 json beforeId ∧
      getInt params "limit" = throughFloat64 json limit
  | .joinVoice channelId selfMuted selfDeafened =>
    getUInt32 params "channel_id" = toUInt32 channelId ∧ getBool params "self_muted" = selfMuted ∧
      getBool params "self_deafened" = selfDeafened
  | .setVoiceState selfMuted selfDeafened isSpeaking =>
    getBool params "self_muted" = selfMuted ∧ getBool params "self_deafened" = selfDeafened ∧
      getBool params "is_speaking" = isSpeaking
  | .moveMember targetUserId toChannelId =>
    getUInt32 params "target_user_id" = toUInt32 targetUserId ∧
      getUInt32 params "to_channel_id" = toUInt32 toChannelId
  | .setServerMute targetUserId muted =>
    getUInt32 params "target_user_id" = toUInt32 targetUserId ∧ getBool params "muted" = muted
  | .setServerDeafen targetUserId deafened =>
    getUInt32 params "target_user_id" = toUInt32 targetUserId ∧ getBool params "deafened" = deafened
  | .kickMember targetUserId reason =>
    getUInt32 params "target_user_id" = toUInt32 targetUserId ∧
      getString json.go params "reason" = json.trimSpace reason
  | .getChannels | .leaveVoice | .getRoster | .ping => True

variable {json : JsonLibrary}

/-- A float64 has every integer of 53 bits. -/
theorem throughFloat64_eq {n : Int64} (h : n.toInt.natAbs < 2 ^ 53) : throughFloat64 json n = n := by
  have hlow := n.le_toInt
  have hhigh := n.toInt_lt
  rw [throughFloat64, JsonLibrary.int, Float64.ofLiteral_eq h, Option.map_some, Option.getD_some, Json.value_ofInt,
    if_pos ⟨hlow, hhigh⟩, Int64.ofInt_toInt]

variable {members : List (String × Json)} {key : String}

theorem getString_toMap {s : String} (h : members.reverse.lookup key = some (.string s)) :
    getString json.go (json.toMap members) key = json.trimSpace s := by
  rw [getString, json.get?_toMap, h]
  rfl

theorem getBool_toMap {b : Bool} (h : members.reverse.lookup key = some (.bool b)) :
    getBool (json.toMap members) key = b := by
  rw [getBool, json.get?_toMap, h]
  rfl

theorem getInt_toMap {n : Int64} (h : members.reverse.lookup key = some (.ofInt n.toInt)) :
    getInt (json.toMap members) key = throughFloat64 json n := by
  have hnumber : json.toInterface (.ofInt n.toInt) =
      ((json.int (decide (n.toInt < 0)) n.toInt.natAbs).map JsonValue.number).getD .other := rfl
  rw [getInt, json.get?_toMap, h, Option.map_some, hnumber, throughFloat64]
  cases json.int (decide (n.toInt < 0)) n.toInt.natAbs <;> rfl

theorem getUInt32_toMap {n : Int64} (h : members.reverse.lookup key = some (.ofInt n.toInt))
    (hrange : 0 ≤ n.toInt ∧ n.toInt < 2 ^ 32) : getUInt32 (json.toMap members) key = toUInt32 n := by
  have hid : ((json.idOf (some (.ofInt n.toInt))).toNat : Int) = Json.value (decide (n.toInt < 0)) n.toInt.natAbs :=
    json.idOf_integer (by simpa using hrange.1) (by simpa using hrange.2)
  rw [Json.value_ofInt] at hid
  have hread : getUInt32 (json.toMap members) key = json.idOf (some (.ofInt n.toInt)) := by
    rw [getUInt32, getInt_toMap h]
    rfl
  have hnat : n.toInt.toNat = (json.idOf (some (.ofInt n.toInt))).toNat := by omega
  rw [hread, toUInt32, hnat, UInt32.ofNat_toNat]

theorem reads_params {m : RpcMethod} (hfits : m.Fits) : m.Reads json (json.toMap m.params) := by
  have hunsigned : ∀ arg ∈ m.unsigned, 0 ≤ arg.2.toInt ∧ arg.2.toInt < 2 ^ arg.1 := hfits
  cases m with
  | login | register => exact ⟨getString_toMap rfl, getString_toMap rfl, getString_toMap rfl⟩
  | authenticate => exact getString_toMap rfl
  | createChannel =>
    exact ⟨getString_toMap rfl, getString_toMap rfl, getString_toMap rfl, getInt_toMap rfl, getInt_toMap rfl,
      getInt_toMap rfl⟩
  | deleteChannel channelId => exact getUInt32_toMap rfl (hunsigned (32, channelId) (by simp [RpcMethod.unsigned]))
  | sendChat channelId content =>
    exact ⟨getUInt32_toMap rfl (hunsigned (32, channelId) (by simp [RpcMethod.unsigned])), getString_toMap rfl⟩
  | getChatHistory channelId beforeId limit =>
    exact ⟨getUInt32_toMap rfl (hunsigned (32, channelId) (by simp [RpcMethod.unsigned])), getInt_toMap rfl,
      getInt_toMap rfl⟩
  | joinVoice channelId =>
    exact ⟨getUInt32_toMap rfl (hunsigned (32, channelId) (by simp [RpcMethod.unsigned])), getBool_toMap rfl,
      getBool_toMap rfl⟩
  | setVoiceState => exact ⟨getBool_toMap rfl, getBool_toMap rfl, getBool_toMap rfl⟩
  | moveMember targetUserId toChannelId =>
    exact ⟨getUInt32_toMap rfl (hunsigned (32, targetUserId) (by simp [RpcMethod.unsigned])),
      getUInt32_toMap rfl (hunsigned (32, toChannelId) (by simp [RpcMethod.unsigned]))⟩
  | setServerMute targetUserId =>
    exact ⟨getUInt32_toMap rfl (hunsigned (32, targetUserId) (by simp [RpcMethod.unsigned])), getBool_toMap rfl⟩
  | setServerDeafen targetUserId =>
    exact ⟨getUInt32_toMap rfl (hunsigned (32, targetUserId) (by simp [RpcMethod.unsigned])), getBool_toMap rfl⟩
  | kickMember targetUserId =>
    exact ⟨getUInt32_toMap rfl (hunsigned (32, targetUserId) (by simp [RpcMethod.unsigned])), getString_toMap rfl⟩
  | getChannels | leaveVoice | getRoster | ping => trivial

/-- The frame of a request as the server decodes it. -/
theorem Documented.request_envelope (h : Documented json) {raw : GoBytes} {id : String} {m : RpcMethod}
    (hparse : json.parse raw = some (.object (m.envelope id))) (hfits : m.Fits) :
    ∃ env, json.request raw = some env ∧ env.reqID = .string id ∧ env.action = m.action ∧
      env.params = some (json.toMap m.params) := by
  have hdecodes : json.decodes (m.envelope id) = true := (h.decodes_envelope id m).trans (decide_eq_true hfits)
  obtain ⟨hid, haction, hparams⟩ := h.valuesOf_envelope id m
  refine ⟨_, by rw [JsonLibrary.request, hparse, Option.bind_some, json.unmarshal_object hdecodes, Option.map_some],
    ?_, ?_, ?_⟩
  · simp only [Request.reqID, Json.members, hid]
    rfl
  · simp only [JsonLibrary.envelope, haction]
    rfl
  · simp only [JsonLibrary.envelope, hparams]
    rfl

/-- The case of the `switch` is the one for the method. -/
theorem Documented.action_envelope (h : Documented json) (m : RpcMethod) :
    json.toLower (json.trimSpace m.action) = m.action := by
  apply h.keeps
  have hsmall : m.action.toList.all (fun c => c.isLower || c = '_') = true := by
    cases m <;> simp only [RpcMethod.action] <;> decide
  simpa only [List.all_eq_true, Bool.or_eq_true, decide_eq_true_eq] using hsmall

theorem ofString_action (m : RpcMethod) : Action.ofString m.action = some m.asks := by
  cases m <;> rfl

/-- A request that does not fit is refused unread, and with no id. -/
theorem Documented.refused_envelope (h : Documented json) {raw : GoBytes} {id : String} {m : RpcMethod}
    (hparse : json.parse raw = some (.object (m.envelope id))) (hfits : ¬m.Fits) :
    handleMessage json raw = Handler.sendError .null "" (-32700) "Parse error" := by
  have hdecodes : json.decodes (m.envelope id) = false := (h.decodes_envelope id m).trans (decide_eq_false hfits)
  have hrequest : json.request raw = none := by
    rw [JsonLibrary.request, hparse, Option.bind_some]
    change ((if json.decodes (m.envelope id) then _ else none : Option RequestEnvelope).map _) = none
    rw [hdecodes]
    rfl
  rw [handleMessage, hrequest]

theorem RpcMethod.open_iff (m : RpcMethod) :
    m.Open ↔ ¬(m.action ≠ "auth" ∧ m.action ≠ "login" ∧ m.action ≠ "register" ∧ m.action ≠ "ping") := by
  cases m <;> simp [RpcMethod.Open, RpcMethod.asks, RpcMethod.action]

/-- What a client asks for is what the server does. The frame of a request whose ids fit
goes to the handler of its method, which finds the arguments in its parameters and answers
to the id; a client who is not signed in is turned away from most. Any other frame is
refused unread. -/
theorem request_reaches_handler (h : Documented json) {raw : GoBytes} {id : String} {m : RpcMethod}
    (hparse : json.parse raw = some (.object (m.envelope id))) :
    (m.Fits → ∃ params, m.Reads json params ∧ handleMessage json raw = do
      let client ← Handler.access .client
      if client.isAuthenticated = false ∧ ¬m.Open then
        Handler.sendError (.string id) m.action 4001 "Authentication required"
      else Handler.handleAction json.go (.string id) params m.asks) ∧
    (¬m.Fits → handleMessage json raw = Handler.sendError .null "" (-32700) "Parse error") := by
  refine ⟨fun hfits => ⟨json.toMap m.params, reads_params hfits, ?_⟩, h.refused_envelope hparse⟩
  obtain ⟨env, henv, hid, haction, hparams⟩ := h.request_envelope hparse hfits
  have hnonempty : m.action ≠ "" := by cases m <;> simp [RpcMethod.action]
  rw [handleMessage, henv]
  simp only [hid, haction, hparams, h.action_envelope m, if_neg hnonempty, ofString_action, Option.getD_some]
  refine congrArg (Handler.access .client >>= ·) (funext fun client => if_congr ?_ rfl rfl)
  have hopen := m.open_iff
  rw [Bool.not_eq_true']
  tauto

/-- What `encoding/json` does with one document, names compared up to case. -/
def oneDocument (doc : Json) : JsonLibrary :=
  { Backend.oneFrame doc with foldName := fun s => String.ofList (s.toList.map Char.toLower) }

theorem documented_oneDocument (doc : Json) : Documented (oneDocument doc) where
  folds _ _ _ := String.ofList_inj
  keeps _ _ := rfl

theorem request_reaches_handler_joins :
    (RpcMethod.Fits (.joinVoice 7 true false) → ∃ params,
      RpcMethod.Reads (oneDocument (.object (RpcMethod.envelope "req_1_0" (.joinVoice 7 true false)))) params
        (.joinVoice 7 true false) ∧
      handleMessage (oneDocument (.object (RpcMethod.envelope "req_1_0" (.joinVoice 7 true false)))) [] = do
        let client ← Handler.access .client
        if client.isAuthenticated = false ∧ ¬RpcMethod.Open (.joinVoice 7 true false) then
          Handler.sendError (.string "req_1_0") "join_voice" 4001 "Authentication required"
        else
          Handler.handleAction
            (oneDocument (.object (RpcMethod.envelope "req_1_0" (.joinVoice 7 true false)))).go
            (.string "req_1_0") params .joinVoice) ∧
    (¬RpcMethod.Fits (.joinVoice 7 true false) →
      handleMessage (oneDocument (.object (RpcMethod.envelope "req_1_0" (.joinVoice 7 true false)))) [] =
        Handler.sendError .null "" (-32700) "Parse error") :=
  request_reaches_handler (documented_oneDocument _) rfl

end arguments

end low_latency_voice.client

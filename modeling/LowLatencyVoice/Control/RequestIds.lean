import LowLatencyVoice.Control.Protocol

open low_latency_voice.model low_latency_voice.storage low_latency_voice.audio low_latency_voice.auth

namespace low_latency_voice.control

/-- The parameters of an action that are ids. -/
def Action.idKeys : Action → List String
  | .deleteChannel | .sendChat | .getChatHistory | .joinVoice => ["channel_id"]
  | .moveMember => ["target_user_id", "to_channel_id"]
  | .setServerFlag _ | .kickMember => ["target_user_id"]
  | _ => []

def RequestEnvelope.parameters (env : RequestEnvelope) : Params := env.params.getD env.fields

namespace JsonLibrary

variable (json : JsonLibrary)

/-- The frame decodes and asks for an action. -/
structure Asks (doc : Json) (env : RequestEnvelope) (a : Action) : Prop where
  decoded : json.unmarshal doc = some env
  action : Action.ofString (json.toLower (json.trimSpace env.action)) = some a

variable {json} in
/-- A frame asks for one thing. -/
theorem Asks.unique {doc : Json} {env env' : RequestEnvelope} {a a' : Action} (h : json.Asks doc env a)
    (h' : json.Asks doc env' a') : env' = env ∧ a' = a := by
  obtain rfl := Option.some.inj (h'.decoded.symm.trans h.decoded)
  exact ⟨rfl, Option.some.inj (h'.action.symm.trans h.action)⟩

/-- The frame has the integer at the key, at top level or in its `params`. -/
def Names (doc : Json) (key : String) (n : Int) : Prop :=
  ∃ place ∈ [doc.members, json.parametersOf doc.members], ∃ negative digits,
    place.reverse.lookup key = some (.integer negative digits) ∧ Json.value negative digits = n

/-- What the parameters of the frame have at the key is n. A number with a fraction or
an exponent counts as the `uint32` it is read as, and everything else as 0. -/
def Gives : Option Json → Int → Prop
  | some (.integer negative digits), n => Json.value negative digits = n
  | some (.real text), n => ((((json.real text).getD 0).toUInt64.toUInt32.toNat : Nat) : Int) = n
  | _, n => n = 0

/-- The frame means an integer at the key that is an id, and says so where the handlers
look for it. -/
def Means (doc : Json) (key : String) : Prop :=
  ∀ n, json.Names doc key n →
    0 ≤ n ∧ n < 2 ^ 32 ∧ json.Gives ((json.parametersOf doc.members).reverse.lookup key) n

section ids

/-- `uint32(getInt(..))` of what the parameters have at a key. -/
def idOf : Option Json → UInt32
  | some (.integer negative digits) => ((json.int negative digits).getD 0).toUInt64.toUInt32
  | some (.real text) => ((json.real text).getD 0).toUInt64.toUInt32
  | _ => 0

theorem getUInt32_parameters {doc : Json} {env : RequestEnvelope} (h : json.unmarshal doc = some env)
    (key : String) :
    getUInt32 env.parameters key = json.idOf ((json.parametersOf doc.members).reverse.lookup key) := by
  unfold getUInt32 getInt RequestEnvelope.parameters
  rw [json.get?_parameters h]
  cases (json.parametersOf doc.members).reverse.lookup key with
  | none => rfl
  | some value =>
    cases value with
    | integer negative digits =>
      simp only [Option.map_some, toInterface, idOf]
      cases json.int negative digits <;> rfl
    | real text =>
      simp only [Option.map_some, toInterface, idOf]
      cases json.real text <;> rfl
    | _ => rfl

/-- An integer that is an id survives the way through float64, `int` and `uint32`. -/
theorem idOf_integer {negative : Bool} {digits : Nat} (hnonneg : 0 ≤ Json.value negative digits)
    (hlt : Json.value negative digits < 2 ^ 32) :
    ((json.idOf (some (.integer negative digits))).toNat : Int) = Json.value negative digits := by
  have hdigits : Json.value negative digits = digits := by
    cases negative
    · rfl
    · simp [Json.value] at hnonneg ⊢
      omega
  rw [hdigits] at hlt ⊢
  have hdouble : Float64.ofLiteral negative digits = some (Json.value negative digits) :=
    Float64.ofLiteral_eq (by omega)
  have hint : -2 ^ 63 ≤ (digits : Int) ∧ (digits : Int) < 2 ^ 63 := by omega
  simp only [idOf, int, hdouble, Option.map_some, Option.getD_some, hdigits, if_pos hint]
  rw [Int64.ofInt_eq_ofNat, Int64.toUInt64_ofNat', UInt64.toNat_toUInt32, UInt64.toNat_ofNat']
  omega

/-- The id that is read is the integer the frame names, exactly when the frame means it. -/
theorem forall_names_iff {doc : Json} {env : RequestEnvelope} (h : json.unmarshal doc = some env)
    (key : String) :
    (∀ n, json.Names doc key n → ((getUInt32 env.parameters key).toNat : Int) = n) ↔ json.Means doc key := by
  rw [json.getUInt32_parameters h]
  generalize hread : (json.parametersOf doc.members).reverse.lookup key = read
  constructor
  · intro hexact n hn
    have hid := hexact n hn
    have hlt := (json.idOf read).toNat_lt
    refine ⟨by omega, by omega, ?_⟩
    rw [hread]
    cases read with
    | none => exact hid.symm
    | some value =>
      cases value with
      | integer negative digits =>
        -- the integer that is read is named too
        exact (hexact _ ⟨_, by simp, negative, digits, hread, rfl⟩).symm.trans hid
      | real text => exact hid
      | _ => exact hid.symm
  · intro hmeans n hn
    obtain ⟨hnonneg, hlt, hgives⟩ := hmeans n hn
    rw [hread] at hgives
    cases read with
    | none => exact Eq.symm hgives
    | some value =>
      cases value with
      | integer negative digits =>
        obtain rfl : Json.value negative digits = n := hgives
        exact json.idOf_integer hnonneg hlt
      | real text => exact hgives
      | _ => exact Eq.symm hgives

theorem fieldOf_idKey {a : Action} {key : String} (hkey : key ∈ a.idKeys) :
    json.fieldOf key = some (key, .uint 32) := by
  have hkeys : key = "channel_id" ∨ key = "target_user_id" ∨ key = "to_channel_id" := by
    cases a <;> simp [Action.idKeys] at hkey <;> simp [hkey]
  obtain rfl | rfl | rfl := hkeys <;> rfl

/-- At top level the typed fields let nothing else through. -/
theorem means_of_topLevel {members : List (String × Json)} {env : RequestEnvelope}
    (h : json.unmarshal (.object members) = some env)
    (hparams : paramsOf (json.valuesOf "params" members) = none) {a : Action} {key : String}
    (hkey : key ∈ a.idKeys) : json.Means (.object members) key := by
  have hown : json.parametersOf members = members := by
    rw [parametersOf, hparams]
    rfl
  rintro n ⟨place, hplace, negative, digits, hlookup, rfl⟩
  obtain rfl : place = members := by simpa [Json.members, hown] using hplace
  have hfits : json.fits (.uint 32) (.integer negative digits) = true := by
    have hdecodes : json.decodes place = true := by
      by_contra hnot
      rw [unmarshal, if_neg hnot] at h
      cases h
    have hmem : (key, Json.integer negative digits) ∈ place := by
      obtain ⟨front, back, hsplit, -⟩ := List.lookup_eq_some_iff.mp hlookup
      rw [← List.mem_reverse, hsplit]
      simp
    have hfit := List.all_eq_true.mp hdecodes _ hmem
    simpa [json.fieldOf_idKey hkey] using hfit
  simp only [fits, Bool.and_eq_true, Bool.not_eq_true', decide_eq_true_eq] at hfits
  obtain ⟨rfl, hlt⟩ := hfits
  refine ⟨Int.natCast_nonneg digits, Int.ofNat_lt.mpr hlt, ?_⟩
  change json.Gives ((json.parametersOf place).reverse.lookup key) _
  rw [hown, hlookup]
  rfl

end ids

end JsonLibrary

/-- The answer is an error, and nothing changes. -/
def Handled.Refused {Addr : Type} (h : Handled Addr) (b : Backend Addr) : Prop :=
  h.backend = b ∧ h.broadcasts = [] ∧ ∃ action code message, h.reply = some (.error action code message)

namespace Backend

variable {Addr : Type}

theorem refused_refuse (b : Backend Addr) (action : String) (code : Int) (message : String) :
    (b.refuse action code message).Refused b := ⟨rfl, rfl, action, code, message, rfl⟩

theorem not_refused_success {h : Handled Addr} (b : Backend Addr) {action : String}
    (hsuccess : h.reply = some (.success action)) : ¬ h.Refused b := by
  rintro ⟨-, -, action', code, message, herror⟩
  cases hsuccess.symm.trans herror

/-- The request is one the handler turns down for the id it has read. -/
def Refuses (go : GoLibrary) (b : Backend Addr) (x : Env) (c : ClientID) (params : Params) : Action → Prop
  | .deleteChannel =>
    hasPermission (b.hub.conn c).permissions permManageChannels = false ∨
      getUInt32 params "channel_id" = 0 ∨ x.fails .deleteChannel = true ∨
      b.database.deleteChannel (getUInt32 params "channel_id") = none
  | .sendChat =>
    hasPermission (b.hub.conn c).permissions permSendMessages = false ∨
      getUInt32 params "channel_id" = 0 ∨ go.trimSpace (getString go params "content") = "" ∨
      4000 < (getString go params "content").length ∨ x.allowMessage = false ∨
      x.fails .createMessage = true ∨
      ∃ e, b.database.createMessage (getUInt32 params "channel_id") (b.hub.conn c).userID
        (getString go params "content") = .error e
  | .getChatHistory =>
    getUInt32 params "channel_id" = 0 ∨ x.fails .getMessages = true ∨
      b.database.getChannelByID (getUInt32 params "channel_id") = none
  | .joinVoice =>
    hasPermission (b.hub.conn c).permissions permConnectVoice = false ∨
      getUInt32 params "channel_id" = 0 ∨ x.fails .getChannelByID = true ∨
      ∀ row, b.database.getChannelByID (getUInt32 params "channel_id") = some row → row.type = "voice" →
        match b.hub.joinVoice x.now c (getUInt32 params "channel_id") ⟨row.type, row.userLimit⟩
          (getBool params "self_muted") (getBool params "self_deafened") with
        | .error .disconnected => False
        | .error .channelFull => True
        | .ok hub =>
          -- no voice token can be issued, and joining has changed nothing
          ∃ voiceTokens, generateUDPToken b.voiceTokens x (b.hub.conn c).userID
            (getUInt32 params "channel_id") = (voiceTokens, none) ∧ { b with hub, voiceTokens } = b
  | .moveMember =>
    hasPermission (b.hub.conn c).permissions permMoveMembers = false ∨
      b.hub.moveMember (getUInt32 params "target_user_id") (getUInt32 params "to_channel_id") = none
  | .setServerFlag flag => hasPermission (b.hub.conn c).permissions flag.permission = false
  | .kickMember => hasPermission (b.hub.conn c).permissions permKickMembers = false
  | _ => False

section refusals

variable (go : GoLibrary) (b : Backend Addr) (x : Env) (c : ClientID) (params : Params)

theorem handleDeleteChannel_refused_iff :
    (b.handleDeleteChannel x c params).Refused b ↔ b.Refuses go x c params .deleteChannel := by
  unfold handleDeleteChannel Refuses
  split
  · rename_i hdenied
    exact iff_of_true (b.refused_refuse _ _ _) (.inl (by simpa using hdenied))
  rename_i hallowed
  simp only
  split
  · rename_i hzero
    exact iff_of_true (b.refused_refuse _ _ _) (.inr (.inl hzero))
  rename_i hid
  split
  · rename_i hfails
    exact iff_of_true (b.refused_refuse _ _ _) (.inr (.inr (.inl hfails)))
  rename_i hworks
  split
  · rename_i hnone
    exact iff_of_true (b.refused_refuse _ _ _) (.inr (.inr (.inr hnone)))
  · rename_i database hfound
    refine iff_of_false (not_refused_success b rfl) ?_
    simp only [Bool.not_eq_true, Bool.not_eq_false'] at hallowed hworks
    simp [hallowed, hid, hworks, hfound]

theorem handleSendChat_refused_iff :
    (b.handleSendChat go x c params).Refused b ↔ b.Refuses go x c params .sendChat := by
  unfold handleSendChat Refuses
  simp only
  split
  · rename_i hdenied
    exact iff_of_true (b.refused_refuse _ _ _) (.inl (by simpa using hdenied))
  rename_i hallowed
  split
  · rename_i hzero
    exact iff_of_true (b.refused_refuse _ _ _) (.inr (.inl hzero))
  rename_i hid
  split
  · rename_i hempty
    exact iff_of_true (b.refused_refuse _ _ _) (.inr (.inr (.inl hempty)))
  rename_i hcontent
  split
  · rename_i hlong
    exact iff_of_true (b.refused_refuse _ _ _) (.inr (.inr (.inr (.inl hlong))))
  rename_i hlength
  split
  · rename_i hlimited
    exact iff_of_true (b.refused_refuse _ _ _) (.inr (.inr (.inr (.inr (.inl (by simpa using hlimited))))))
  rename_i hrate
  split
  · rename_i hfails
    exact iff_of_true (b.refused_refuse _ _ _) (.inr (.inr (.inr (.inr (.inr (.inl hfails))))))
  rename_i hworks
  split
  · rename_i herror
    exact iff_of_true (b.refused_refuse _ _ _) (.inr (.inr (.inr (.inr (.inr (.inr ⟨_, herror⟩))))))
  · rename_i herror
    exact iff_of_true (b.refused_refuse _ _ _) (.inr (.inr (.inr (.inr (.inr (.inr ⟨_, herror⟩))))))
  · rename_i herror
    exact iff_of_true (b.refused_refuse _ _ _) (.inr (.inr (.inr (.inr (.inr (.inr ⟨_, herror⟩))))))
  · rename_i hsent
    refine iff_of_false (not_refused_success b rfl) ?_
    simp only [Bool.not_eq_true, Bool.not_eq_false'] at hallowed hrate hworks
    simp [hallowed, hid, hcontent, hlength, hrate, hworks, hsent]

theorem handleGetChatHistory_refused_iff :
    (b.handleGetChatHistory x params).Refused b ↔ b.Refuses go x c params .getChatHistory := by
  unfold handleGetChatHistory Refuses
  simp only
  split
  · rename_i hzero
    exact iff_of_true (b.refused_refuse _ _ _) (.inl hzero)
  rename_i hid
  split
  · rename_i hfails
    exact iff_of_true (b.refused_refuse _ _ _) (.inr (.inl hfails))
  rename_i hworks
  split
  · rename_i hnone
    exact iff_of_true (b.refused_refuse _ _ _) (.inr (.inr hnone))
  · rename_i hfound
    exact iff_of_false (not_refused_success b rfl) (by simp [hid, hworks, hfound])

theorem handleJoinVoice_refused_iff :
    (b.handleJoinVoice x c params).Refused b ↔ b.Refuses go x c params .joinVoice := by
  unfold handleJoinVoice Refuses
  simp only
  split
  · rename_i hdenied
    exact iff_of_true (b.refused_refuse _ _ _) (.inl (by simpa using hdenied))
  rename_i hallowed
  have hperm : hasPermission (b.hub.conn c).permissions permConnectVoice = true := by simpa using hallowed
  split
  · rename_i hzero
    exact iff_of_true (b.refused_refuse _ _ _) (.inr (.inl hzero))
  rename_i hid
  cases hfails : x.fails .getChannelByID with
  | true => exact iff_of_true (b.refused_refuse _ _ _) (.inr (.inr (.inl rfl)))
  | false =>
    simp only [hperm, hid, Bool.true_eq_false, Bool.false_eq_true, if_false, false_or]
    cases hrow : b.database.getChannelByID (getUInt32 params "channel_id") with
    | none => exact iff_of_true (b.refused_refuse _ _ _) (by simp)
    | some row =>
      simp only [Option.some.injEq, forall_eq']
      split
      · rename_i htype
        exact iff_of_true (b.refused_refuse _ _ _) fun hvoice => absurd hvoice htype
      rename_i htype
      simp only [not_not.mp htype, forall_const]
      generalize b.hub.joinVoice x.now c (getUInt32 params "channel_id") ⟨"voice", row.userLimit⟩
        (getBool params "self_muted") (getBool params "self_deafened") = joined
      cases joined with
      | error refusal =>
        cases refusal with
        | disconnected => exact iff_of_false (by rintro ⟨-, -, _, _, _, hreply⟩; cases hreply) id
        | channelFull => exact iff_of_true (b.refused_refuse _ _ _) trivial
      | ok hub =>
        cases htoken : generateUDPToken b.voiceTokens x (b.hub.conn c).userID
          (getUInt32 params "channel_id") with
        | mk voiceTokens vt =>
          cases vt with
          | none =>
            constructor
            · rintro ⟨hsame, -, -⟩
              exact ⟨voiceTokens, rfl, hsame⟩
            · rintro ⟨voiceTokens', htoken', hsame⟩
              cases htoken'
              exact ⟨hsame, rfl, _, _, _, rfl⟩
          | some vt =>
            refine iff_of_false (not_refused_success b rfl) ?_
            rintro ⟨voiceTokens', htoken', -⟩
            cases htoken'

theorem handleMoveMember_refused_iff [DecidableEq Addr] :
    (b.handleMoveMember c params).Refused b ↔ b.Refuses go x c params .moveMember := by
  unfold handleMoveMember Refuses
  simp only
  split
  · rename_i hdenied
    exact iff_of_true (b.refused_refuse _ _ _) (.inl (by simpa using hdenied))
  rename_i hallowed
  split
  · rename_i hnone
    exact iff_of_true (b.refused_refuse _ _ _) (.inr hnone)
  · rename_i hub hmoved
    refine iff_of_false (not_refused_success b rfl) ?_
    simp only [Bool.not_eq_true, Bool.not_eq_false'] at hallowed
    simp [hallowed, hmoved]

theorem handleSetServerFlag_refused_iff [DecidableEq Addr] (flag : ModFlag) (action key denied : String) :
    (b.handleSetServerFlag c params flag action key denied).Refused b ↔
      b.Refuses go x c params (.setServerFlag flag) := by
  unfold handleSetServerFlag Refuses
  simp only
  split
  · rename_i hdenied
    exact iff_of_true (b.refused_refuse _ _ _) (by simpa using hdenied)
  · rename_i hallowed
    exact iff_of_false (not_refused_success b rfl) (by simpa using hallowed)

/-- The guard of the creator refuses too. -/
theorem handleKickMember_refused_iff [DecidableEq Addr] :
    (b.handleKickMember go x c params).Refused b ↔
      b.Refuses go x c params .kickMember ∨ getUInt32 params "target_user_id" = 1 := by
  unfold handleKickMember Refuses
  simp only
  split
  · rename_i hdenied
    exact iff_of_true (b.refused_refuse _ _ _) (.inl (by simpa using hdenied))
  rename_i hallowed
  split
  · rename_i hcreator
    exact iff_of_true (b.refused_refuse _ _ _) (.inr hcreator)
  · rename_i hother
    refine iff_of_false (not_refused_success b rfl) ?_
    simp only [Bool.not_eq_true, Bool.not_eq_false'] at hallowed
    simp [hallowed, hother]

/-- The guard is hit by whoever may kick, with an id that has become 1. -/
theorem handleKickMember_guard_iff [DecidableEq Addr] :
    (b.handleKickMember go x c params).reply = some (.error "kick_member" 4010 "Cannot kick server creator") ↔
      ¬ b.Refuses go x c params .kickMember ∧ getUInt32 params "target_user_id" = 1 := by
  unfold handleKickMember Refuses
  simp only
  split
  · rename_i hdenied
    refine iff_of_false ?_ fun h => h.1 (by simpa using hdenied)
    simp [refuse]
  rename_i hallowed
  split
  · rename_i hcreator
    exact iff_of_true rfl ⟨by simpa using hallowed, hcreator⟩
  · rename_i hother
    exact iff_of_false (by simp) fun h => hother h.2

end refusals

section messages

variable [DecidableEq Addr]

/-- A refusal is for a reason, whatever the action; only the guard of the creator is
left aside. -/
theorem handleAction_refused_iff (go : GoLibrary) (b : Backend Addr) (x : Env) (c : ClientID) (params : Params)
    {a : Action} (hids : a.idKeys ≠ []) (hkick : a ≠ .kickMember) :
    (b.handleAction go x c params a).Refused b ↔ b.Refuses go x c params a := by
  cases a with
  | deleteChannel => exact b.handleDeleteChannel_refused_iff go x c params
  | sendChat => exact b.handleSendChat_refused_iff go x c params
  | getChatHistory => exact b.handleGetChatHistory_refused_iff go x c params
  | joinVoice => exact b.handleJoinVoice_refused_iff go x c params
  | moveMember => exact b.handleMoveMember_refused_iff go x c params
  | setServerFlag flag => cases flag <;> exact b.handleSetServerFlag_refused_iff go x c params _ _ _ _
  | kickMember => exact absurd rfl hkick
  | _ => exact absurd rfl hids

/-- A request that asks for one of the actions with ids needs a sign-in. -/
theorem handleMessage_of_asks {json : JsonLibrary} {b : Backend Addr} (x : Env) {c : ClientID} {raw : GoBytes}
    {doc : Json} (hparse : json.parse raw = some doc) {env : RequestEnvelope} {a : Action}
    (hasks : json.Asks doc env a) (hids : a.idKeys ≠ []) :
    b.handleMessage json.go x c raw =
      if (b.hub.conn c).isAuthenticated then b.handleAction json.go x c env.parameters a
      else b.refuse (json.toLower (json.trimSpace env.action)) 4001 "Authentication required" := by
  have hunmarshal : json.go.unmarshal raw = some env := (json.unmarshal_go hparse).trans hasks.decoded
  have hother : ∀ {action : String} (a' : Action), Action.ofString action = some a' → a'.idKeys = [] →
      json.toLower (json.trimSpace env.action) ≠ action := by
    rintro action a' hof hnil rfl
    cases hasks.action.symm.trans hof
    exact hids hnil
  have hempty : json.toLower (json.trimSpace env.action) ≠ "" := by
    intro hnone
    have haction := hasks.action
    rw [hnone] at haction
    cases haction
  have hgate : json.toLower (json.trimSpace env.action) ≠ "auth" ∧
      json.toLower (json.trimSpace env.action) ≠ "login" ∧
      json.toLower (json.trimSpace env.action) ≠ "register" ∧
      json.toLower (json.trimSpace env.action) ≠ "ping" :=
    ⟨hother .auth rfl rfl, hother .login rfl rfl, hother .register rfl rfl, hother .ping rfl rfl⟩
  unfold handleMessage
  rw [hunmarshal]
  simp only [JsonLibrary.go, hempty, if_false, hgate, ne_eq, not_false_eq_true, and_true, hasks.action]
  cases (b.hub.conn c).isAuthenticated <;> rfl

/-- A frame that does not decode, or asks for nothing there is, is refused. -/
theorem handleMessage_refused {json : JsonLibrary} {b : Backend Addr} (x : Env) {c : ClientID} {raw : GoBytes}
    {doc : Json} (hparse : json.parse raw = some doc) (hnone : ∀ env a, ¬ json.Asks doc env a) :
    (b.handleMessage json.go x c raw).Refused b := by
  unfold handleMessage
  rw [json.unmarshal_go hparse]
  cases hunmarshal : json.unmarshal doc with
  | none =>
    exact b.refused_refuse _ _ _
  | some env =>
    simp only
    split
    · exact b.refused_refuse _ _ _
    split
    · exact b.refused_refuse _ _ _
    split
    · rename_i a haction
      exact absurd ⟨hunmarshal, haction⟩ (hnone env a)
    · exact b.refused_refuse _ _ _

/-- The request is answered with an error and changes nothing, or the ids it reads are
the integers it names; and the guard of user 1 stops whoever ends up as user 1, and
nobody who does not mean him. -/
structure ActsOnNamed (json : JsonLibrary) (b : Backend Addr) (x : Env) (c : ClientID) (raw : GoBytes)
    (doc : Json) : Prop where
  exact : (b.handleMessage json.go x c raw).Refused b ∨
    ∃ env a, json.Asks doc env a ∧ ∀ key ∈ a.idKeys, ∀ n, json.Names doc key n →
      ((getUInt32 env.parameters key).toNat : Int) = n
  guarded : ∀ env, json.Asks doc env .kickMember →
    (getUInt32 env.parameters "target_user_id" = 1 → (b.handleMessage json.go x c raw).Refused b) ∧
      ((b.handleMessage json.go x c raw).reply =
        some (.error "kick_member" 4010 "Cannot kick server creator") →
        ∀ n, json.Names doc "target_user_id" n → n = 1)

/-- Every integer the request names at an id is an id, unless the request is turned down
for another reason. -/
def MeansIds (json : JsonLibrary) (b : Backend Addr) (x : Env) (c : ClientID) (doc : Json) : Prop :=
  ∀ env a, json.Asks doc env a → (b.hub.conn c).isAuthenticated = true →
    ¬ b.Refuses json.go x c env.parameters a → ∀ key ∈ a.idKeys, json.Means doc key

section signedIn

variable {json : JsonLibrary} {b : Backend Addr} {x : Env} {c : ClientID} {raw : GoBytes} {doc : Json}
  {env : RequestEnvelope}

/-- A kick has a guard besides: whoever ends up as user 1 is spared. -/
theorem actsOnNamed_kick_iff (hsigned : (b.hub.conn c).isAuthenticated = true)
    (hasks : json.Asks doc env .kickMember)
    (hmessage : b.handleMessage json.go x c raw = b.handleAction json.go x c env.parameters .kickMember) :
    ActsOnNamed json b x c raw doc ↔ MeansIds json b x c doc := by
  have hread := json.forall_names_iff hasks.decoded
  have hrefused := b.handleKickMember_refused_iff json.go x c env.parameters
  have hguard := b.handleKickMember_guard_iff json.go x c env.parameters
  have hkicked : b.handleMessage json.go x c raw = b.handleKickMember json.go x c env.parameters := hmessage
  rw [← hkicked] at hrefused hguard
  constructor
  · rintro ⟨hexact, hguarded⟩ env' a' hasks' - hpermitted
    obtain ⟨rfl, rfl⟩ := hasks.unique hasks'
    simp only [Action.idKeys, List.mem_singleton, forall_eq]
    refine (hread _).mp fun n hn => ?_
    obtain hturned | ⟨env', a', hasks', hids⟩ := hexact
    · -- the guard was hit
      have hcreator := (hrefused.mp hturned).resolve_left hpermitted
      rw [hcreator, (hguarded env' hasks').2 (hguard.mpr ⟨hpermitted, hcreator⟩) n hn]
      rfl
    · obtain ⟨rfl, rfl⟩ := hasks.unique hasks'
      exact hids _ (by simp [Action.idKeys]) n hn
  · intro hmeans
    by_cases hpermitted : b.Refuses json.go x c env.parameters .kickMember
    · refine ⟨.inl (hrefused.mpr (.inl hpermitted)), fun env' _ => ⟨fun _ => ?_, fun hreply => ?_⟩⟩
      · exact hrefused.mpr (.inl hpermitted)
      · exact absurd hpermitted (hguard.mp hreply).1
    · have hids := hmeans env .kickMember hasks hsigned hpermitted
      simp only [Action.idKeys, List.mem_singleton, forall_eq, ← hread] at hids
      refine ⟨.inr ⟨env, .kickMember, hasks, by simpa [Action.idKeys] using hids⟩, fun env' hasks' => ?_⟩
      obtain ⟨rfl, -⟩ := hasks.unique hasks'
      refine ⟨fun hcreator => hrefused.mpr (.inr hcreator), fun hreply n hn => ?_⟩
      rw [← hids n hn, (hguard.mp hreply).2]
      rfl

theorem actsOnNamed_action_iff (hsigned : (b.hub.conn c).isAuthenticated = true) {a : Action}
    (hasks : json.Asks doc env a) (hids : a.idKeys ≠ []) (hkick : a ≠ .kickMember)
    (hmessage : b.handleMessage json.go x c raw = b.handleAction json.go x c env.parameters a) :
    ActsOnNamed json b x c raw doc ↔ MeansIds json b x c doc := by
  have hread := json.forall_names_iff hasks.decoded
  have hrefused := b.handleAction_refused_iff json.go x c env.parameters hids hkick
  rw [← hmessage] at hrefused
  constructor
  · rintro ⟨hexact, -⟩ env' a' hasks' - hpermitted key hkey
    obtain ⟨rfl, rfl⟩ := hasks.unique hasks'
    refine (hread key).mp ?_
    obtain hturned | ⟨env', a', hasks', hread'⟩ := hexact
    · exact absurd (hrefused.mp hturned) hpermitted
    · obtain ⟨rfl, rfl⟩ := hasks.unique hasks'
      exact hread' key hkey
  · intro hmeans
    refine ⟨?_, fun env' hasks' => absurd (hasks.unique hasks').2.symm hkick⟩
    by_cases hpermitted : b.Refuses json.go x c env.parameters a
    · exact .inl (hrefused.mpr hpermitted)
    · exact .inr ⟨env, a, hasks, fun key hkey =>
        (hread key).mpr (hmeans env a hasks hsigned hpermitted key hkey)⟩

end signedIn

/-- A library that knows one frame. -/
def oneFrame (doc : Json) : JsonLibrary where
  trimSpace := id
  toLower := id
  parse _ := some doc
  foldName := id
  real _ := none
  huge _ := 0

/-- No call fails, and there is nothing to be had. -/
def unfailing : Env where
  now := 0
  fault _ := .none
  errorText := ""
  hash := none
  passwordMatches := true
  sessionToken := none
  voiceToken := none
  allowMessage := true
  order := []

/-- User 2 is signed in as an administrator. -/
def administered : Backend Nat where
  toWorld := { server.World.new ∅ ∅ with
    hub := Hub.new.updateClient 1 fun client => client.signIn ⟨2, "mod", permAdmin⟩ }
  database := .seeded

/-- A request for user 5. -/
def mutesFive : Json :=
  .object [("action", .string "set_server_mute"),
    ("params", .object [("target_user_id", .integer false 5), ("muted", .bool true)])]

/-- A request for user 4294967301, who is user 5 to the handler. -/
def mutesAnother : Json :=
  .object [("action", .string "set_server_mute"),
    ("params", .object [("target_user_id", .integer false 4294967301), ("muted", .bool true)])]

end messages

end Backend

end low_latency_voice.control

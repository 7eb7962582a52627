import LowLatencyVoice.Control.OneResponse

open low_latency_voice.model low_latency_voice.storage low_latency_voice.auth low_latency_voice.audio

namespace low_latency_voice.control

variable {Addr : Type}

/-- The calls of a request that has the server to itself, answered from the tables and
both planes. -/
def serveAlone [DecidableEq Addr] (go : GoLibrary) (udpPort : Int) (x : Env) (c : ClientID) :
    (k : Effect) → Backend Addr → k.Answer × Backend Addr
  | .region r, b => ((r.run c x.now x.order b.hub).1, { b with hub := (r.run c x.now x.order b.hub).2 })
  | .register username password _, b =>
    match AuthService.register go.trimSpace b.accounts x username password with
    | (a, res) => (res.mapError fun e => (e, e.text x), b.withAccounts a)
  | .login username password _, b =>
    match AuthService.login go.trimSpace b.accounts x username password with
    | (a, res) => (res.mapError fun e => (e, e.text x), b.withAccounts a)
  | .validateSession token, b =>
    match validateSession go.trimSpace b.accounts x token with
    | (a, session) => (session, b.withAccounts a)
  | .getUserWithRoles id, b =>
    (if x.fails .getUserWithRoles then none
      else SQLiteRepository.getUserWithRoles b.database (x.fails .getDefaultRole) id, b)
  | .udpPort, b => (udpPort, b)
  | .getChannels, b =>
    (if x.fails .getChannels then none
      else some (b.database.channels.rows.pairs.map fun e => ⟨UInt32.ofNat e.1, e.2⟩), b)
  | .createChannel row, b =>
    match (if x.fails .createChannel then none else b.database.createChannel row) with
    | none => (.error x.errorText, b)
    | some (database, channelID) => (.ok ⟨channelID, row⟩, { b with database })
  | .deleteChannel channelID, b =>
    if x.fails .deleteChannel then (.error (.other x.errorText), b)
    else
      match b.database.deleteChannel channelID with
      | none => (.error .channelNotFound, b)
      | some database =>
        (.ok (), { b with
          database
          voiceTokens := b.voiceTokens.deleteWhere fun _ vt => vt.channelID == channelID })
  | .allowMessage, b => (x.allowMessage, b)
  | .createMessage channelID senderID content, b =>
    if x.fails .createMessage then (.error (.other x.errorText), b)
    else
      match b.database.createMessage channelID senderID content with
      | .error .channelNotFound => (.error .channelNotFound, b)
      | .error .notText => (.error (.other "cannot post message to non-text channel"), b)
      | .error .userNotFound => (.error (.other "user not found"), b)
      | .ok (database, id, senderName) =>
        (.ok (⟨id, channelID, senderID, senderName, content⟩, x.now / 1000000000), { b with database })
  | .getMessages channelID beforeID limit, b =>
    (if x.fails .getMessages then .error (.other x.errorText)
      else
        match b.database.getMessages channelID beforeID.toNat limit.toInt with
        | none => .error .channelNotFound
        | some page => .ok page, b)
  | .getChannelByID id, b =>
    (if x.fails .getChannelByID then none else b.database.getChannelByID id, b)
  | .generateUDPToken userID channelID, b =>
    match generateUDPToken b.voiceTokens x userID channelID with
    | (voiceTokens, vt) => (vt, { b with voiceTokens })
  | .registerPending token userID channelID ssrc expiresAt, b =>
    ((), { b with sessions := b.sessions.registerPending token userID channelID ssrc expiresAt })
  | .removeSession userID, b => ((), { b with sessions := b.sessions.removeSession userID })
  | .moveSession userID toChannelID, b =>
    ((), { b with sessions := b.sessions.moveMember userID toChannelID })
  | .setSessionFlag flag userID value, b =>
    ((), { b with sessions := b.sessions.withSession userID fun s => flag.setSession value s })
  | .getAllUsersWithRoles, b =>
    (if x.fails .getAllUsersWithRoles then none
      else SQLiteRepository.getAllUsersWithRoles b.database (x.fails .getDefaultRole), b)
  | .deleteUserSessions userID, b =>
    ((), { b with userSessions := deleteUserSessions b.userSessions (x.fault .deleteUserSessions) userID })
  | .revokeVoiceTokens userID, b =>
    ((), { b with
      voiceTokens :=
        (if x.fails .revokeVoiceTokens then b.voiceTokens else revokeVoiceTokens b.voiceTokens userID) })
  | .writeControl .., b => ((), b)
  | .now, b => (x.now, b)
  | .sendJSON _, b => ((), b)
  | .broadcastEvent _, b => ((), b)

/-- The answer as the other model of the handlers has it. -/
def Response.reply : Response → Reply
  | .success fields =>
    match fields.get? "action" with
    | some (.string action) => .success action
    | _ => .success ""
  | .error e => .error e.action e.code e.message

theorem reply_newSuccessResponse (id : Json) (action : String) (payload : Value) :
    Response.reply (.success (newSuccessResponse id action payload)) = .success action := by
  have haction := get?_newSuccessResponse (successEnvelope_action id action payload)
  simp only [Response.reply, haction]

section follows

/-- How the calls of a handler are answered on a backend. -/
abbrev Answering (Addr : Type) : Type := (k : Effect) → Backend Addr → k.Answer × Backend Addr

variable (answering : Answering Addr)

/-- Alone on a backend, the handler leaves the backend, gives the answer and makes the
broadcasts that are said. -/
structure Follows (p : Handler) (b : Backend Addr) (handled : Handled Addr) : Prop where
  leaves : (p.exec answering b).2.2 = handled.backend
  answers : (responses (Program.shown Effect.output (p.exec answering b).1)).map Response.reply =
    handled.reply.toList
  announces : (broadcasts (Program.shown Effect.output (p.exec answering b).1)).map broadcastEvent =
    handled.broadcasts

variable {answering} {b b₁ b₂ : Backend Addr} {reply : Option Reply} {bs bs' : List Broadcast}

theorem Follows.done : Follows answering (pure ()) b ⟨b, none, []⟩ := ⟨rfl, rfl, rfl⟩

/-- A call that sends nothing. -/
theorem Follows.call {k : Effect} {next : k.Answer → Handler} {handled : Handled Addr} (hquiet : k.output = [])
    (h : Follows answering (next (answering k b).1) (answering k b).2 handled) :
    Follows answering (Handler.call k >>= next) b handled where
  leaves := h.leaves
  answers := by
    change (responses (k.output ++ _)).map _ = _
    rw [hquiet]
    exact h.answers
  announces := by
    change (broadcasts (k.output ++ _)).map _ = _
    rw [hquiet]
    exact h.announces

/-- A broadcast on the way. -/
theorem Follows.event {e : Event} {next : Unit → Handler}
    (h : Follows answering (next ()) (answering (.broadcastEvent e) b).2 ⟨b₁, reply, bs⟩) :
    Follows answering (Handler.call (.broadcastEvent e) >>= next) b ⟨b₁, reply, broadcastEvent e :: bs⟩ where
  leaves := h.leaves
  answers := h.answers
  announces := congrArg (broadcastEvent e :: ·) h.announces

theorem Follows.bind {p : Handler} {f : Unit → Handler} (hp : Follows answering p b ⟨b₁, none, bs⟩)
    (hf : Follows answering (f ()) b₁ ⟨b₂, reply, bs'⟩) :
    Follows answering (p.bind f) b ⟨b₂, reply, bs ++ bs'⟩ := by
  have hexec := Program.exec_bind answering p f b
  have hmid : (p.exec answering b).2.2 = b₁ := hp.leaves
  rw [hmid] at hexec
  have hsilent : responses (Program.shown Effect.output (p.exec answering b).1) = [] :=
    List.map_eq_nil_iff.mp hp.answers
  refine ⟨?_, ?_, ?_⟩
  · rw [hexec]
    exact hf.leaves
  · rw [hexec, Program.shown_append, responses_append, hsilent]
    exact hf.answers
  · rw [hexec, Program.shown_append, broadcasts_append, List.map_append]
    exact congrArg₂ (· ++ ·) hp.announces hf.announces

end follows

section alone

variable [DecidableEq Addr] (go : GoLibrary) (udpPort : Int) (x : Env) (c : ClientID) (b : Backend Addr)
  (reqID : Json) (params : Params)

theorem follows_sendError (action : String) (code : Int) (message : String) :
    Follows (serveAlone go udpPort x c) (Handler.sendError reqID action code message) b
      (b.refuse action code message) := ⟨rfl, rfl, rfl⟩

/-- Both models make the same test first. -/
theorem follows_guard {test : Prop} [Decidable test] {action : String} {code : Int} {message : String}
    {p : Handler} {handled : Handled Addr} (h : Follows (serveAlone go udpPort x c) p b handled) :
    Follows (serveAlone go udpPort x c) (if test then Handler.sendError reqID action code message else p) b
      (if test then b.refuse action code message else handled) := by
  split
  · apply follows_sendError
  · exact h

theorem follows_sendSuccess {action : String} {payload : List (String × Value)} {next : Unit → Handler}
    {b b' : Backend Addr} {bs : List Broadcast} (h : Follows (serveAlone go udpPort x c) (next ()) b ⟨b', none, bs⟩) :
    Follows (serveAlone go udpPort x c) (Handler.sendSuccess reqID action payload >>= next) b
      ⟨b', some (.success action), bs⟩ where
  leaves := h.leaves
  answers := congrArg₂ (· :: ·) (reply_newSuccessResponse reqID action (.map payload)) h.answers
  announces := h.announces

open Handler

variable {go udpPort x c b} in
/-- The fields of the client itself are read. -/
theorem Follows.client {next : Client → Handler} {handled : Handled Addr}
    (h : Follows (serveAlone go udpPort x c) (next (b.hub.conn c)) b handled) :
    Follows (serveAlone go udpPort x c) (access .client >>= next) b handled := Follows.call rfl h

theorem follows_optional (test : Prop) [Decidable test] (e : Event) :
    Follows (serveAlone go udpPort x c) (if test then call (.broadcastEvent e) else pure ()) b
      ⟨b, none, if test then [broadcastEvent e] else []⟩ := by
  split
  · apply Follows.event Follows.done
  · exact Follows.done

variable {go udpPort x c b} in
/-- The calls before a sign-in succeeds. -/
theorem follows_signIn {user : User} {next : Int → Handler} {handled : Handled Addr}
    (h : Follows (serveAlone go udpPort x c) (next udpPort) (b.signIn c user) handled) :
    Follows (serveAlone go udpPort x c) (do
      access (.signIn user)
      access (.addUserClient user.id)
      let udpPort ← call .udpPort
      next udpPort) b handled := by
  apply Follows.call rfl
  apply Follows.call rfl
  exact Follows.call rfl h

theorem follows_handleRegister :
    Follows (serveAlone go udpPort x c) (handleRegister go reqID params) b (b.handleRegister go x c params) := by
  unfold Backend.handleRegister
  rw [AuthService.register_signedIn]
  apply Follows.call rfl
  dsimp only [serveAlone]
  obtain ⟨a, res⟩ := AuthService.register go.trimSpace b.accounts x (getString go params "username")
    (getString go params "password")
  cases res with
  | error e => cases e <;> apply follows_sendError
  | ok res =>
    apply follows_signIn
    apply follows_sendSuccess
    apply Follows.event
    apply Follows.event Follows.done

theorem follows_handleDeleteChannel :
    Follows (serveAlone go udpPort x c) (handleDeleteChannel reqID params) b
      (b.handleDeleteChannel x c params) := by
  unfold Backend.handleDeleteChannel
  apply Follows.client
  apply follows_guard
  apply follows_guard
  apply Follows.call rfl
  dsimp only [serveAlone]
  cases x.fails .deleteChannel with
  | true => apply follows_sendError
  | false =>
    cases b.database.deleteChannel (getUInt32 params "channel_id") with
    | none => apply follows_sendError
    | some database =>
      apply follows_sendSuccess
      apply Follows.event Follows.done

theorem follows_handleLogin (hdefault : x.fails .getDefaultRole = false) :
    Follows (serveAlone go udpPort x c) (handleLogin go reqID params) b (b.handleLogin go x c params) := by
  unfold Backend.handleLogin
  rw [AuthService.login_signedIn hdefault]
  apply Follows.call rfl
  dsimp only [serveAlone]
  obtain ⟨a, res⟩ := AuthService.login go.trimSpace b.accounts x (getString go params "username")
    (getString go params "password")
  cases res with
  | error e => cases e <;> apply follows_sendError
  | ok res =>
    apply follows_signIn
    apply follows_sendSuccess
    apply Follows.event Follows.done

theorem follows_handleAuth (hdefault : x.fails .getDefaultRole = false) :
    Follows (serveAlone go udpPort x c) (handleAuth go reqID params) b (b.handleAuth go x c params) := by
  unfold Backend.handleAuth
  apply follows_guard
  apply Follows.call rfl
  dsimp only [serveAlone]
  obtain ⟨a, session⟩ := validateSession go.trimSpace b.accounts x (getString go params "token")
  cases session with
  | none => apply follows_sendError
  | some session =>
    apply Follows.call rfl
    dsimp only [serveAlone]
    rw [← SQLiteRepository.getUserWithRoles_user, hdefault]
    cases x.fails .getUserWithRoles with
    | true => apply follows_sendError
    | false =>
      cases SQLiteRepository.getUserWithRoles (b.withAccounts a).database false session.userID with
      | none => apply follows_sendError
      | some user =>
        apply follows_signIn
        apply follows_sendSuccess
        apply Follows.event Follows.done

theorem follows_handleGetChannels :
    Follows (serveAlone go udpPort x c) (handleGetChannels reqID) b (b.handleGetChannels x) := by
  unfold Backend.handleGetChannels
  apply Follows.call rfl
  dsimp only [serveAlone]
  cases x.fails .getChannels with
  | true => apply follows_sendError
  | false =>
    apply follows_sendSuccess
    exact Follows.done

theorem follows_handleCreateChannel :
    Follows (serveAlone go udpPort x c) (handleCreateChannel go reqID params) b
      (b.handleCreateChannel go x c params) := by
  unfold Backend.handleCreateChannel
  apply Follows.client
  apply follows_guard
  apply follows_guard
  apply Follows.call rfl
  dsimp only [serveAlone]
  cases x.fails .createChannel with
  | true => apply follows_sendError
  | false =>
    cases b.database.createChannel (Backend.channelRow go params) with
    | none => apply follows_sendError
    | some created =>
      apply follows_sendSuccess
      apply Follows.event Follows.done

theorem follows_handleSendChat :
    Follows (serveAlone go udpPort x c) (handleSendChat go reqID params) b (b.handleSendChat go x c params) := by
  unfold Backend.handleSendChat
  apply Follows.client
  apply follows_guard
  apply follows_guard
  apply follows_guard
  apply follows_guard
  apply Follows.call rfl
  apply follows_guard
  apply Follows.call rfl
  dsimp only [serveAlone]
  cases x.fails .createMessage with
  | true => apply follows_sendError
  | false =>
    cases b.database.createMessage (getUInt32 params "channel_id") (b.hub.conn c).userID
      (getString go params "content") with
    | error e => cases e <;> apply follows_sendError
    | ok created =>
      apply follows_sendSuccess
      apply Follows.event Follows.done

theorem follows_handleGetChatHistory :
    Follows (serveAlone go udpPort x c) (handleGetChatHistory reqID params) b (b.handleGetChatHistory x params) := by
  unfold Backend.handleGetChatHistory
  apply follows_guard
  apply Follows.call rfl
  dsimp only [serveAlone]
  cases x.fails .getMessages with
  | true => apply follows_sendError
  | false =>
    unfold Database.getMessages
    cases b.database.getChannelByID (getUInt32 params "channel_id") with
    | none => apply follows_sendError
    | some row =>
      apply follows_sendSuccess
      exact Follows.done

theorem follows_handleJoinVoice :
    Follows (serveAlone go udpPort x c) (handleJoinVoice reqID params) b (b.handleJoinVoice x c params) := by
  unfold Backend.handleJoinVoice
  apply Follows.client
  apply follows_guard
  apply follows_guard
  apply Follows.call rfl
  dsimp only [serveAlone]
  cases if x.fails .getChannelByID then none else b.database.getChannelByID (getUInt32 params "channel_id") with
  | none => apply follows_sendError
  | some row =>
    apply follows_guard
    apply Follows.call rfl
    dsimp only [serveAlone, Region.run]
    cases b.hub.joinVoice x.now c (getUInt32 params "channel_id") ⟨row.type, row.userLimit⟩
      (getBool params "self_muted") (getBool params "self_deafened") with
    | error refusal =>
      cases refusal with
      | disconnected => exact Follows.done
      | channelFull => apply follows_sendError
    | ok hub =>
      apply Follows.call rfl
      dsimp only [serveAlone]
      obtain ⟨voiceTokens, vt⟩ := generateUDPToken b.voiceTokens x (b.hub.conn c).userID (getUInt32 params "channel_id")
      cases vt with
      | none => apply follows_sendError
      | some vt =>
        apply Follows.call rfl
        apply Follows.call rfl
        apply follows_sendSuccess
        apply Follows.event Follows.done

theorem follows_handleLeaveVoice :
    Follows (serveAlone go udpPort x c) (handleLeaveVoice reqID) b (b.handleLeaveVoice c) := by
  unfold Backend.handleLeaveVoice
  apply Follows.client
  apply Follows.call rfl
  apply Follows.call rfl
  apply follows_sendSuccess
  apply follows_optional

theorem follows_handleSetVoiceState :
    Follows (serveAlone go udpPort x c) (handleSetVoiceState reqID params) b
      (b.handleSetVoiceState x c params) := by
  unfold Backend.handleSetVoiceState
  apply Follows.client
  apply Follows.call rfl
  apply follows_sendSuccess
  apply Follows.event Follows.done

/-- The other model takes it that the roster can be scanned. -/
theorem follows_handleGetRoster
    (hroster : SQLiteRepository.getAllUsersWithRoles b.database (x.fails .getDefaultRole) ≠ none) :
    Follows (serveAlone go udpPort x c) (handleGetRoster reqID) b (b.handleGetRoster x) := by
  unfold Backend.handleGetRoster
  apply Follows.call rfl
  dsimp only [serveAlone]
  cases x.fails .getAllUsersWithRoles with
  | true => apply follows_sendError
  | false =>
    cases hread : SQLiteRepository.getAllUsersWithRoles b.database (x.fails .getDefaultRole) with
    | none => exact absurd hread hroster
    | some users =>
      apply Follows.call rfl
      apply follows_sendSuccess
      exact Follows.done

theorem follows_handleMoveMember :
    Follows (serveAlone go udpPort x c) (handleMoveMember reqID params) b (b.handleMoveMember c params) := by
  unfold Backend.handleMoveMember
  apply Follows.client
  apply follows_guard
  apply Follows.call rfl
  dsimp only [serveAlone, Region.run]
  cases b.hub.moveMember (getUInt32 params "target_user_id") (getUInt32 params "to_channel_id") with
  | none => apply follows_sendError
  | some hub =>
    apply Follows.call rfl
    apply follows_sendSuccess
    apply Follows.event
    apply Follows.event Follows.done

theorem follows_handleSetServerFlag (flag : ModFlag) (action key field denied : String) :
    Follows (serveAlone go udpPort x c) (handleSetServerFlag reqID params flag action key field denied) b
      (b.handleSetServerFlag c params flag action key denied) := by
  unfold Backend.handleSetServerFlag
  apply Follows.client
  apply follows_guard
  apply Follows.call rfl
  apply Follows.call rfl
  apply follows_sendSuccess
  apply Follows.event Follows.done

theorem follows_announceLeft (d : Departure) :
    Follows (serveAlone go udpPort x c) (announceLeft d) b
      ⟨{ b with sessions := if 0 < d.channelID then b.sessions.removeSession d.userID else b.sessions }, none,
        if 0 < d.channelID then [broadcastEvent (.voiceStateUpdate (.left d.userID (some d.username)))]
        else []⟩ := by
  unfold announceLeft
  by_cases hvoice : 0 < d.channelID
  · rw [if_pos hvoice, if_pos hvoice, if_pos hvoice]
    apply Follows.call rfl
    apply Follows.event Follows.done
  · rw [if_neg hvoice, if_neg hvoice, if_neg hvoice]
    exact Follows.done

theorem follows_unregisterClient (client : ClientID) :
    Follows (serveAlone go udpPort x c) (unregisterClient client) b
      ⟨(b.unregisterClient client).1, none, (b.unregisterClient client).2⟩ := by
  unfold Backend.unregisterClient
  apply Follows.call rfl
  dsimp only [serveAlone, Region.run]
  by_cases hgone : b.hub.clients.get? client = none
  · have hsame : b.hub.handleClientDisconnect client = (b.hub, 0) := by
      unfold Hub.handleClientDisconnect
      rw [if_pos hgone]
    simp only [hgone, hsame, true_or, if_true]
    exact Follows.done
  generalize b.hub.handleClientDisconnect client = disconnected
  obtain ⟨hub, departed⟩ := disconnected
  simp only [hgone, false_or, if_false]
  cases (b.hub.conn client).isAuthenticated with
  | false => exact Follows.done
  | true =>
    simp only [Bool.not_true, Bool.false_eq_true, if_false, if_true]
    apply Follows.bind (follows_announceLeft go udpPort x c _ _)
    apply Follows.call rfl
    simp only [serveAlone, Region.run, List.length_eq_zero_iff]
    apply follows_optional

theorem follows_closeClients (reason : String) (clients : List ClientID) (bs : List Broadcast) :
    ∃ bs', Follows (serveAlone go udpPort x c) (Program.forEach clients (closeClient reason)) b
        ⟨(clients.foldl Backend.closeClient (b, bs)).1, none, bs'⟩ ∧
      (clients.foldl Backend.closeClient (b, bs)).2 = bs ++ bs' := by
  induction clients generalizing b bs with
  | nil => exact ⟨[], Follows.done, (List.append_nil bs).symm⟩
  | cons client rest ih =>
    obtain ⟨bs', hrest, hbroadcasts⟩ := ih (b.unregisterClient client).1 (bs ++ (b.unregisterClient client).2)
    refine ⟨(b.unregisterClient client).2 ++ bs', ?_, ?_⟩
    · apply Follows.bind _ hrest
      apply Follows.call rfl
      apply follows_unregisterClient
    · rw [← List.append_assoc]
      exact hbroadcasts

variable {go udpPort x c b} in
/-- The loop over the connections of a kicked user, and what comes after it. -/
theorem Follows.closeClients {reason : String} {clients : List ClientID} {next : Unit → Handler}
    {b' : Backend Addr} {reply : Option Reply} {bs : List Broadcast}
    (h : Follows (serveAlone go udpPort x c) (next ()) (clients.foldl Backend.closeClient (b, [])).1
      ⟨b', reply, bs⟩) :
    Follows (serveAlone go udpPort x c) (Program.forEach clients (closeClient reason) >>= next) b
      ⟨b', reply, (clients.foldl Backend.closeClient (b, [])).2 ++ bs⟩ := by
  obtain ⟨bs', hloop, hbroadcasts⟩ := follows_closeClients go udpPort x c b reason clients []
  rw [hbroadcasts, List.nil_append]
  exact hloop.bind h

theorem follows_handleKickMember :
    Follows (serveAlone go udpPort x c) (handleKickMember go reqID params) b
      (b.handleKickMember go x c params) := by
  unfold Backend.handleKickMember
  apply Follows.client
  apply follows_guard
  apply follows_guard
  apply Follows.call rfl
  apply Follows.call rfl
  apply Follows.call rfl
  apply Follows.call rfl
  apply Follows.closeClients
  apply follows_sendSuccess
  apply Follows.event
  apply follows_optional

theorem follows_handlePing :
    Follows (serveAlone go udpPort x c) (handlePing reqID) b ⟨b, some (.success "pong"), []⟩ := by
  apply Follows.call rfl
  apply follows_sendSuccess
  exact Follows.done

variable (hdefault : x.fails .getDefaultRole = false)
  (hroster : SQLiteRepository.getAllUsersWithRoles b.database (x.fails .getDefaultRole) ≠ none)

include hdefault hroster

theorem follows_handleAction (a : Action) :
    Follows (serveAlone go udpPort x c) (handleAction go reqID params a) b (b.handleAction go x c params a) := by
  cases a with
  | register => apply follows_handleRegister
  | login => exact follows_handleLogin go udpPort x c b reqID params hdefault
  | auth => exact follows_handleAuth go udpPort x c b reqID params hdefault
  | getChannels => apply follows_handleGetChannels
  | createChannel => apply follows_handleCreateChannel
  | deleteChannel => apply follows_handleDeleteChannel
  | sendChat => apply follows_handleSendChat
  | getChatHistory => apply follows_handleGetChatHistory
  | joinVoice => apply follows_handleJoinVoice
  | leaveVoice => apply follows_handleLeaveVoice
  | setVoiceState => apply follows_handleSetVoiceState
  | getRoster => exact follows_handleGetRoster go udpPort x c b reqID hroster
  | moveMember => apply follows_handleMoveMember
  | setServerFlag flag => cases flag <;> apply follows_handleSetServerFlag
  | kickMember => apply follows_handleKickMember
  | ping => apply follows_handlePing

omit go in
/-- Where a request has the server to itself, the two models of `HandleMessage` agree. -/
theorem follows_handleMessage (json : JsonLibrary) (raw : GoBytes) :
    Follows (serveAlone json.go udpPort x c) (handleMessage json raw) b (b.handleMessage json.go x c raw) := by
  unfold handleMessage Backend.handleMessage
  rw [json.unmarshal_request]
  cases json.request raw with
  | none => apply follows_sendError
  | some env =>
    apply follows_guard
    apply Follows.client
    apply follows_guard
    dsimp only [JsonLibrary.go]
    cases Action.ofString (json.toLower (json.trimSpace env.action)) with
    | none => apply follows_sendError
    | some a => exact follows_handleAction json.go udpPort x c b env.reqID _ hdefault hroster a

end alone

/-- Such a request is one of the runs. -/
theorem does_serveAlone [DecidableEq Addr] (go : GoLibrary) (udpPort : Int) (x : Env) (c : ClientID) (k : Effect)
    (b : Backend Addr) :
    Effect.Does c k b.hub (serveAlone go udpPort x c k b).1 (serveAlone go udpPort x c k b).2.hub := by
  cases k with
  | region r => exact ⟨x.now, x.order, rfl⟩
  | createChannel row =>
    simp only [Effect.Does, serveAlone]
    split <;> rfl
  | deleteChannel id =>
    simp only [Effect.Does, serveAlone]
    split
    · rfl
    · split <;> rfl
  | createMessage channelID senderID content =>
    simp only [Effect.Does, serveAlone]
    split
    · rfl
    · split <;> rfl
  | _ => rfl

/-- One model of `HandleMessage` gives what the other says, so it too has one reply for a
client that is registered, and nothing to announce beside an error. -/
theorem handleMessage_reply [DecidableEq Addr] (json : JsonLibrary) {x : Env} {c : ClientID} {b : Backend Addr}
    (raw : GoBytes) (hc : Attached c b.hub) (hdefault : x.fails .getDefaultRole = false)
    (hroster : SQLiteRepository.getAllUsersWithRoles b.database (x.fails .getDefaultRole) ≠ none) :
    ∃ reply, (b.handleMessage json.go x c raw).reply = some reply ∧
      ∀ action code message, reply = .error action code message →
        (b.handleMessage json.go x c raw).broadcasts = [] := by
  have hsame := follows_handleMessage 0 x c b hdefault hroster json raw
  have hrun : HandlesMessage json c raw b.hub ((handleMessage json raw).exec (serveAlone json.go 0 x c) b).1
      ((handleMessage json raw).exec (serveAlone json.go 0 x c) b).2.2.hub :=
    Program.runs_exec (fun b : Backend Addr => b.hub) (fun _ hkept => hkept) (does_serveAlone json.go 0 x c) _ b
  have hreply := hsame.answers
  cases (sends_handleMessage c json raw).run _ _ _ _ hc hrun with
  | success action payload hone hanswers =>
    rw [hone, List.map_singleton, reply_newSuccessResponse] at hreply
    refine ⟨_, Option.toList_eq_singleton_iff.mp hreply.symm, ?_⟩
    intro _ _ _ herror
    cases herror
  | error action code message hall =>
    have hannounced := hsame.announces
    rw [hall] at hreply hannounced
    exact ⟨_, Option.toList_eq_singleton_iff.mp hreply.symm, fun _ _ _ _ => hannounced.symm⟩

end low_latency_voice.control

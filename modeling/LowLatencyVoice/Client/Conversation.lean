import LowLatencyVoice.Client.Rpc
import LowLatencyVoice.Client.RpcMethods
import Mathlib.Logic.Relation

open Correlation low_latency_voice.control

namespace low_latency_voice.client

/-- A request on its way, with its number at the client. -/
structure ClientFrame where
  request : RequestID
  method : RpcMethod
  raw : GoBytes

/-- What the server puts into `send`: the response to a request, or a broadcast. -/
inductive ServerFrame where
  | response (request : RequestID) (r : Response)
  | event (eventName : String) (data : BroadcastData) (now : Nat)

/-- The request a frame answers. -/
def ServerFrame.request? : ServerFrame → Option RequestID
  | .response request _ => some request
  | .event .. => none

/-- One WebSocket connection: whether the client still listens to it, whether the server has
closed its `Client`, and the frames between them. `todo` is what the handler at work has yet
to send. -/
structure Connection where
  listening : Bool
  closed : Bool
  toServer : List ClientFrame
  todo : List (RequestID × Response)
  send : List ServerFrame
  wire : List ServerFrame

/-- A frame of the server as the client decodes it. -/
def ServerFrame.json (encoder : GoEncoder) : ServerFrame → Json
  | .response _ r => encoder.response r
  | .event eventName data now => newBroadcastPayload eventName data.members now

namespace Connection

/-- No connection, and a new one. -/
def none : Connection := ⟨false, true, [], [], [], []⟩

def opened : Connection := ⟨true, false, [], [], [], []⟩

def frames (k : Connection) : List ServerFrame :=
  k.wire ++ k.send ++ k.todo.map fun answer => .response answer.1 answer.2

/-- The requests under way, and their responses, from the client's end. -/
def requests (k : Connection) : List RequestID :=
  k.frames.filterMap ServerFrame.request? ++ k.toServer.map ClientFrame.request

/-- `Client.Send` takes a frame while the client is open and its buffer has room. -/
def takes (k : Connection) : Bool := !k.closed && decide (k.send.length < sendBufferSize)

def post (k : Connection) (f : ServerFrame) : Connection := if k.takes then { k with send := k.send ++ [f] } else k

end Connection

/-- A client, its connections to the server one after the other, and a record: the method of
each request, what the server has answered, and the responses that `Send` has not taken. -/
structure Conversation where
  rpc : RpcState
  current : Nat
  connections : Nat → Connection
  asked : RequestID → Option RpcMethod
  answered : List (RequestID × Response)
  dropped : List RequestID

namespace Conversation

def new : Conversation := ⟨.new, 0, fun _ => .none, fun _ => none, [], []⟩

/-- The state after a change of one connection. -/
def withConnection (s : Conversation) (i : Nat) (k : Connection) : Conversation :=
  { s with connections := Function.update s.connections i k }

/-- The channel of the client is that of a new connection. -/
def connect (s : Conversation) : Conversation :=
  { s.withConnection (s.current + 1) .opened with
    rpc := { s.rpc with channel := true }
    current := s.current + 1 }

/-- A request is written to the channel. -/
def sendRequest (s : Conversation) (m : RpcMethod) (milliseconds : Int) (raw : GoBytes) : Conversation :=
  let k := s.connections s.current
  let r := s.rpc.requests.issued + 1
  let asked := Function.update s.asked r (some m)
  { s.withConnection s.current { k with toServer := k.toServer ++ [⟨r, m, raw⟩] } with
    rpc := s.rpc.sendRequest milliseconds true
    asked }

/-- The handler of the connection has taken up the next frame, and leaves its responses. -/
def serve (s : Conversation) (i : Nat) (rest : List ClientFrame) (answers : List (RequestID × Response)) :
    Conversation :=
  { s.withConnection i { s.connections i with toServer := rest, todo := answers } with
    answered := s.answered ++ answers }

/-- `SendJSON`. -/
def sendJSON (s : Conversation) (i : Nat) (request : RequestID) (r : Response)
    (rest : List (RequestID × Response)) : Conversation :=
  let k := { s.connections i with todo := rest }
  { s.withConnection i (k.post (.response request r)) with
    dropped := if k.takes then s.dropped else request :: s.dropped }

/-- What happens between a client and the server. A frame is any text that `encoding/json`
reads as the envelope, and the hub is in any state in which the client is registered. -/
inductive Step (json : JsonLibrary) (encoder : GoEncoder) (numbers : DartNumbers) :
    Conversation → Conversation → Prop
  | connect (s : Conversation) : Step json encoder numbers s s.connect
  | sendRequest {s : Conversation} (m : RpcMethod) (milliseconds : Int) {raw : GoBytes}
      (hchannel : s.rpc.channel = true)
      (hraw : json.parse raw =
        some (.object (m.envelope (requestId (s.rpc.requests.issued + 1) milliseconds)))) :
      Step json encoder numbers s (s.sendRequest m milliseconds raw)
  -- there is no channel, or its sink does not take the frame
  | unsent (s : Conversation) (milliseconds : Int) :
      Step json encoder numbers s { s with rpc := s.rpc.sendRequest milliseconds false }
  | serve {s : Conversation} (i : Nat) {f : ClientFrame} {rest : List ClientFrame} {c : ClientID} {hub hub' : Hub}
      {trace : List (Program.Exchange Effect.Answer)} (htodo : (s.connections i).todo = [])
      (hframe : (s.connections i).toServer = f :: rest) (hopen : (s.connections i).closed = false)
      (hsize : f.raw.length ≤ maxMessageSize) (hc : Attached c hub)
      (hrun : HandlesMessage json c f.raw hub trace hub') :
      Step json encoder numbers s
        (s.serve i rest ((responses (Program.shown Effect.output trace)).map fun r => (f.request, r)))
  | sendJSON {s : Conversation} (i : Nat) {request : RequestID} {r : Response} {rest : List (RequestID × Response)}
      (htodo : (s.connections i).todo = (request, r) :: rest) :
      Step json encoder numbers s (s.sendJSON i request r rest)
  | broadcast (s : Conversation) (i : Nat) (eventName : String) (data : BroadcastData) (now : Nat) :
      Step json encoder numbers s (s.withConnection i ((s.connections i).post (.event eventName data now)))
  -- one turn of `writePump`
  | write {s : Conversation} (i : Nat) {f : ServerFrame} {rest : List ServerFrame}
      (hsend : (s.connections i).send = f :: rest) :
      Step json encoder numbers s
        (s.withConnection i { s.connections i with send := rest, wire := (s.connections i).wire ++ [f] })
  | deliver {s : Conversation} (i : Nat) {f : ServerFrame} {rest : List ServerFrame}
      (hlistening : (s.connections i).listening = true) (hwire : (s.connections i).wire = f :: rest) :
      Step json encoder numbers s
        { s.withConnection i { s.connections i with wire := rest } with
          rpc := (s.rpc.onMessageReceived numbers (some (f.json encoder))).1 }
  -- the server closes the client, for whatever reason
  | close (s : Conversation) (i : Nat) :
      Step json encoder numbers s (s.withConnection i { s.connections i with closed := true })
  | timeout (s : Conversation) (request : RequestID) :
      Step json encoder numbers s { s with rpc := s.rpc.timeout request }
  | cleanupConnection (s : Conversation) :
      Step json encoder numbers s
        { s.withConnection s.current { s.connections s.current with listening := false } with
          rpc := s.rpc.cleanupConnection }
  | dispose (s : Conversation) :
      Step json encoder numbers s
        { s.withConnection s.current { s.connections s.current with listening := false } with
          rpc := s.rpc.dispose }

/-- What can come of a client that has just started. -/
def Reached (json : JsonLibrary) (encoder : GoEncoder) (numbers : DartNumbers) (s : Conversation) : Prop :=
  Relation.ReflTransGen (Step json encoder numbers) new s

end Conversation

section responses

/-- How the caller of a request hears of its response. -/
def reply (encoder : GoEncoder) (r : Response) : Completion :=
  match r with
  | .success _ => .value (encoder.response r)
  | .error _ => .serverError (encoder.response r)

variable {json : JsonLibrary} (encoder : GoEncoder) (numbers : DartNumbers)

/-- The response to a request that fits has its id, that to another none. -/
structure Fitting (r : Response) (id : String) (m : RpcMethod) : Prop where
  answers : ∃ status action, r.Answers (if m.Fits then .string id else .null) status action
  errorsOnly : r.ErrorsOnly

theorem outcome_response {r : Response} (hr : r.ErrorsOnly) : outcome (encoder.response r) = reply encoder r := by
  have hfield := encoder.lookup_response r "error"
  unfold outcome present reply
  rw [hfield]
  cases r with
  | success fields =>
    have hnone : (Response.success fields).field "error" = none := hr
    rw [hnone]
    rfl
  | error e =>
    have herror : (Response.error e).field "error" = some (.detail e.code e.message) := by
      by_cases haction : e.action = "" <;> by_cases hrequest : e.requestID = "" <;>
        simp [Response.field, ErrorResponse.members, omitEmpty, haction, hrequest, List.lookup_cons]
    rw [herror]
    rfl

theorem requestId_ne_empty (counter : Nat) (milliseconds : Int) : requestId counter milliseconds ≠ "" := by
  intro hempty
  have hlength := congrArg String.length hempty
  simp [requestId] at hlength

/-- The client reads the id of its request out of the response. -/
theorem Fitting.responseId_response {r : Response} {counter : Nat} {milliseconds : Int} {m : RpcMethod}
    (h : Fitting r (requestId counter milliseconds) m) (hfits : m.Fits) :
    responseId numbers (encoder.response r) = some (requestId counter milliseconds) := by
  obtain ⟨status, action, hanswers⟩ := h.answers
  rw [if_pos hfits] at hanswers
  rw [responseId, present, encoder.lookup_request_id hanswers (requestId_ne_empty counter milliseconds)]
  rfl

/-- A response reads as an answer to its own request only, and to none where that does not
fit. -/
theorem Fitting.of_answers {r : Response} {id id' : String} {m : RpcMethod} (h : Fitting r id m) (hid : id ≠ "")
    (hanswers : Answers (encoder.response r) id') : m.Fits ∧ id' = id := by
  obtain ⟨status, action, hown⟩ := h.answers
  obtain ⟨key, hkey, hlookup⟩ := hanswers
  by_cases hfits : m.Fits
  · rw [if_pos hfits] at hown
    refine ⟨hfits, ?_⟩
    obtain rfl | rfl : key = "request_id" ∨ key = "id" := by simpa using hkey
    · rw [encoder.lookup_request_id hown hid] at hlookup
      exact (Json.string.inj (Option.some.inj hlookup)).symm
    · rw [encoder.lookup_response, hown.hasID, Option.map_some, GoEncoder.value, encoder.string] at hlookup
      exact (Json.string.inj (Option.some.inj hlookup)).symm
  · rw [if_neg hfits] at hown
    obtain ⟨hrequest, hnull⟩ := encoder.lookup_of_no_id hown
    obtain rfl | rfl : key = "request_id" ∨ key = "id" := by simpa using hkey
    · rw [hrequest] at hlookup
      cases hlookup
    · rw [hnull] at hlookup
      cases hlookup

/-- A call that is made may send. -/
theorem exists_sent_of_mem {trace : List (Program.Exchange Effect.Answer)} {r : Response}
    (h : r ∈ responses (Program.shown Effect.output trace)) : ∃ e ∈ trace, e.1.sent = some r := by
  obtain ⟨output, houtput, hr⟩ := List.mem_filterMap.mp h
  obtain ⟨e, he, hshown⟩ := List.mem_flatMap.mp houtput
  refine ⟨e, he, ?_⟩
  obtain ⟨k, answer⟩ := e
  cases k with
  | sendJSON v =>
    obtain rfl := List.mem_singleton.mp hshown
    exact hr
  | broadcastEvent e =>
    obtain rfl := List.mem_singleton.mp hshown
    cases hr
  | _ => cases hshown

/-- A handler leaves one response to the frame of a request, and it fits. -/
theorem Documented.exists_fitting (h : Documented json) {raw : GoBytes} {id : String} {m : RpcMethod}
    (hraw : json.parse raw = some (.object (m.envelope id))) {c : ClientID} {hub hub' : Hub}
    {trace : List (Program.Exchange Effect.Answer)} (hc : Attached c hub)
    (hrun : HandlesMessage json c raw hub trace hub') :
    ∃ r, responses (Program.shown Effect.output trace) = [r] ∧ Fitting r id m := by
  have hsent := (sends_handleMessage c json raw).run hub trace () hub' hc hrun
  rw [hraw, h.answerID_envelope id m] at hsent
  have herrors : ∀ r ∈ responses (Program.shown Effect.output trace), r.ErrorsOnly := by
    intro r hr
    obtain ⟨e, he, hsends⟩ := exists_sent_of_mem hr
    exact (errorsOnly_handleMessage json raw).of_runs hrun e he r hsends
  cases hsent with
  | success action payload hone hanswers =>
    exact ⟨_, hone, ⟨_, _, hanswers⟩, herrors _ (hone ▸ List.mem_singleton.mpr rfl)⟩
  | error action code message hall =>
    exact ⟨.error (newErrorResponse _ action code message), by rw [hall]; rfl,
      ⟨_, _, answers_newErrorResponse _ action code message⟩, trivial⟩

end responses

namespace Conversation

/-- The frame carries the request of its number. -/
def Asked (json : JsonLibrary) (s : Conversation) (f : ClientFrame) : Prop :=
  s.asked f.request = some f.method ∧
    ∃ milliseconds, s.rpc.requests.keys f.request = some (requestId f.request milliseconds) ∧
      json.parse f.raw = some (.object (f.method.envelope (requestId f.request milliseconds)))

/-- The response is one to the request of this number. -/
def Answer (s : Conversation) (request : RequestID) (r : Response) (m : RpcMethod) : Prop :=
  s.asked request = some m ∧
    ∃ milliseconds, s.rpc.requests.keys request = some (requestId request milliseconds) ∧
      Fitting r (requestId request milliseconds) m

/-- A completion is of the connection that closed, or of the response to the request. -/
def Own (encoder : GoEncoder) (s : Conversation) (request : RequestID) (completion : Completion) : Prop :=
  completion = .connectionClosed ∨
    ∃ r m, (request, r) ∈ s.answered ∧ s.asked request = some m ∧ m.Fits ∧ completion = reply encoder r

/-- Who waits has a request or its response under way on a connection that is listened to,
unless the response was dropped or refuses a request that does not fit. -/
def Waits (s : Conversation) (request : RequestID) : Prop :=
  (∃ i, (s.connections i).listening = true ∧ request ∈ (s.connections i).requests) ∨ request ∈ s.dropped ∨
    ∃ m, s.asked request = some m ∧ ¬m.Fits

/-- What holds between a client and the server whatever happens. -/
structure Kept (json : JsonLibrary) (encoder : GoEncoder) (s : Conversation) : Prop where
  ok : s.rpc.Ok
  listens : s.rpc.channel = true → (s.connections s.current).listening = true
  unopened : ∀ i, s.current < i → (s.connections i).requests = []
  ordered : ∀ i, (s.connections i).requests.Pairwise (· < ·)
  known : ∀ i, ∀ r ∈ (s.connections i).requests, r ≤ s.rpc.requests.issued
  apart : ∀ i j r, r ∈ (s.connections i).requests → r ∈ (s.connections j).requests → i = j
  asks : ∀ i, ∀ f ∈ (s.connections i).toServer, Asked json s f
  unanswered : ∀ i, ∀ f ∈ (s.connections i).toServer, f.request ∉ s.answered.map Prod.fst
  carries : ∀ i request r, .response request r ∈ (s.connections i).frames → (request, r) ∈ s.answered
  answers : ∀ a ∈ s.answered, ∃ m, s.Answer a.1 a.2 m
  once : (s.answered.map Prod.fst).Nodup
  own : ∀ r, ∀ completion ∈ s.rpc.requests.completions r, Own encoder s r completion
  waits : ∀ r, s.rpc.requests.waiting r = true → s.Waits r

section steps

variable {json : JsonLibrary} {encoder : GoEncoder} {s : Conversation}

theorem kept_new : Kept json encoder new where
  ok := ok_new
  listens h := by cases h
  unopened _ _ := rfl
  ordered _ := List.Pairwise.nil
  known _ _ h := by cases h
  apart _ _ _ h := by cases h
  asks _ _ h := by cases h
  unanswered _ _ h := by cases h
  carries _ _ _ h := by cases h
  answers _ h := by cases h
  once := List.nodup_nil
  own _ _ h := by cases h
  waits _ h := by cases h

/-- Only the requests of the client change, and none begins to wait. -/
theorem Kept.of_rpc (h : Kept json encoder s) {rpc : RpcState} (hok : rpc.Ok)
    (hchannel : rpc.channel = true → s.rpc.channel = true)
    (hissued : s.rpc.requests.issued ≤ rpc.requests.issued)
    (hkeys : ∀ r k, s.rpc.requests.keys r = some k → rpc.requests.keys r = some k)
    (hcompletions : ∀ r, ∀ completion ∈ rpc.requests.completions r,
      completion ∈ s.rpc.requests.completions r ∨ Own encoder s r completion)
    (hwaiting : ∀ r, rpc.requests.waiting r = true → s.rpc.requests.waiting r = true) :
    Kept json encoder { s with rpc } where
  ok := hok
  listens hthere := h.listens (hchannel hthere)
  unopened := h.unopened
  ordered := h.ordered
  known i r hr := (h.known i r hr).trans hissued
  apart := h.apart
  asks i f hf := by
    obtain ⟨hmethod, milliseconds, hkey, hraw⟩ := h.asks i f hf
    exact ⟨hmethod, milliseconds, hkeys _ _ hkey, hraw⟩
  unanswered := h.unanswered
  carries := h.carries
  answers a ha := by
    obtain ⟨m, hasked, milliseconds, hkey, hfitting⟩ := h.answers a ha
    exact ⟨m, hasked, milliseconds, hkeys _ _ hkey, hfitting⟩
  once := h.once
  own r completion hcompletion := by
    obtain hold | hown := hcompletions r completion hcompletion
    · exact h.own r completion hold
    · exact hown
  waits r hr := h.waits r (hwaiting r hr)

/-- Only one connection changes, and frames on it move on or are lost. -/
theorem Kept.of_connection (h : Kept json encoder s) (i : Nat) {k : Connection} {dropped : List RequestID}
    (hdropped : ∀ r ∈ s.dropped, r ∈ dropped) (hrequests : k.requests.Sublist (s.connections i).requests)
    (htoServer : ∀ f ∈ k.toServer, f ∈ (s.connections i).toServer)
    (hframes : ∀ request r, .response request r ∈ k.frames → .response request r ∈ (s.connections i).frames)
    (hlistening : s.rpc.channel = true → k.listening = (s.connections i).listening)
    (hlost : ∀ r ∈ (s.connections i).requests, (s.connections i).listening = true →
      s.rpc.requests.waiting r = true → (k.listening = true ∧ r ∈ k.requests) ∨ r ∈ dropped ∨
        ∃ m, s.asked r = some m ∧ ¬m.Fits) :
    Kept json encoder { s.withConnection i k with dropped } := by
  have hsublist : ∀ j, ((s.withConnection i k).connections j).requests.Sublist (s.connections j).requests :=
    (Function.forall_update_iff _ (p := fun j (k' : Connection) =>
      k'.requests.Sublist (s.connections j).requests)).mpr ⟨hrequests, fun _ _ => List.Sublist.refl _⟩
  have hframe : ∀ j, ∀ f ∈ ((s.withConnection i k).connections j).toServer, f ∈ (s.connections j).toServer :=
    (Function.forall_update_iff _ (p := fun j (k' : Connection) =>
      ∀ f ∈ k'.toServer, f ∈ (s.connections j).toServer)).mpr ⟨htoServer, fun _ _ _ => id⟩
  have hresponse : ∀ j request r, .response request r ∈ ((s.withConnection i k).connections j).frames →
      .response request r ∈ (s.connections j).frames :=
    (Function.forall_update_iff _ (p := fun j (k' : Connection) =>
      ∀ request r, .response request r ∈ k'.frames → .response request r ∈ (s.connections j).frames)).mpr
        ⟨hframes, fun _ _ _ _ => id⟩
  refine ⟨h.ok, fun hchannel => ?_, fun j hj => ?_, fun j => (h.ordered j).sublist (hsublist j),
    fun j r hr => h.known j r ((hsublist j).subset hr),
    fun j j' r hr hr' => h.apart j j' r ((hsublist j).subset hr) ((hsublist j').subset hr'),
    fun j f hf => h.asks j f (hframe j f hf), fun j f hf => h.unanswered j f (hframe j f hf),
    fun j request r hr => h.carries j request r (hresponse j request r hr), h.answers, h.once, h.own, fun r hr => ?_⟩
  · change (Function.update s.connections i k s.current).listening = true
    rw [Function.update_apply]
    split
    · rename_i hcurrent
      rw [hlistening hchannel, ← hcurrent]
      exact h.listens hchannel
    · exact h.listens hchannel
  · have hnone := hsublist j
    rw [h.unopened j hj] at hnone
    exact List.eq_nil_of_sublist_nil hnone
  · obtain ⟨j, hlistens, hunder⟩ | hgone | hunfit := h.waits r hr
    · by_cases hj : j = i
      · subst hj
        obtain hstill | hlost' := hlost r hunder hlistens hr
        · exact .inl ⟨j, by simpa [withConnection] using hstill⟩
        · exact .inr hlost'
      · refine .inl ⟨j, ?_⟩
        rw [show (s.withConnection i k).connections j = s.connections j from Function.update_of_ne hj _ _]
        exact ⟨hlistens, hunder⟩
    · exact .inr (.inl (hdropped r hgone))
    · exact .inr (.inr hunfit)

/-- The handler sends the next response, or finds no room for it. -/
theorem Kept.sendJSON (h : Kept json encoder s) (i : Nat) {request : RequestID} {r : Response}
    {rest : List (RequestID × Response)} (htodo : (s.connections i).todo = (request, r) :: rest) :
    Kept json encoder (s.sendJSON i request r rest) := by
  have hframes : (s.connections i).frames = (s.connections i).wire ++ (s.connections i).send ++
      .response request r :: rest.map fun answer => .response answer.1 answer.2 := by
    rw [Connection.frames, htodo]
    rfl
  rw [Conversation.sendJSON]
  by_cases htakes : ({ s.connections i with todo := rest } : Connection).takes = true
  · rw [Connection.post, if_pos htakes, if_pos htakes]
    have hsame : ({ s.connections i with
        todo := rest, send := (s.connections i).send ++ [.response request r] } : Connection).frames =
          (s.connections i).frames := by
      rw [hframes]
      simp [Connection.frames]
    refine h.of_connection i (fun _ => id) ?_ (fun _ => id) ?_ (fun _ => rfl) ?_
    · rw [Connection.requests, Connection.requests, hsame]
    · rw [hsame]
      exact fun _ _ => id
    · intro r' hr' hlistens _
      rw [Connection.requests, hsame]
      exact .inl ⟨hlistens, hr'⟩
  · rw [Connection.post, if_neg htakes, if_neg htakes]
    have hrequests : (s.connections i).requests =
        ((s.connections i).wire ++ (s.connections i).send).filterMap ServerFrame.request? ++ request ::
          ((rest.map fun answer => ServerFrame.response answer.1 answer.2).filterMap ServerFrame.request? ++
            (s.connections i).toServer.map ClientFrame.request) := by
      rw [Connection.requests, hframes]
      simp [ServerFrame.request?]
    have hleft : ({ s.connections i with todo := rest } : Connection).requests =
        ((s.connections i).wire ++ (s.connections i).send).filterMap ServerFrame.request? ++
          ((rest.map fun answer => ServerFrame.response answer.1 answer.2).filterMap ServerFrame.request? ++
            (s.connections i).toServer.map ClientFrame.request) := by
      simp [Connection.requests, Connection.frames]
    refine h.of_connection i (fun _ => List.mem_cons_of_mem _) ?_ (fun _ => id) ?_ (fun _ => rfl) ?_
    · rw [hrequests, hleft]
      exact (List.Sublist.refl _).append (List.sublist_cons_self _ _)
    · intro request' r' hr'
      rw [hframes]
      simp only [Connection.frames, List.mem_append] at hr' ⊢
      exact hr'.imp id (List.mem_cons_of_mem _)
    · intro r' hr' hlistens _
      rw [hrequests] at hr'
      rw [hleft]
      by_cases hdropped : r' = request
      · exact .inr (.inl (by simp [hdropped]))
      · refine .inl ⟨hlistens, ?_⟩
        simp only [List.mem_append, List.mem_cons, hdropped, false_or] at hr' ⊢
        exact hr'

theorem Kept.broadcast (h : Kept json encoder s) (i : Nat) (eventName : String) (data : BroadcastData) (now : Nat) :
    Kept json encoder (s.withConnection i ((s.connections i).post (.event eventName data now))) := by
  by_cases htakes : (s.connections i).takes = true
  · have hrequests : ((s.connections i).post (.event eventName data now)).requests = (s.connections i).requests := by
      rw [Connection.post, if_pos htakes]
      simp [Connection.requests, Connection.frames, ServerFrame.request?, List.filterMap_cons]
    refine h.of_connection i (fun _ => id) (by rw [hrequests]) ?_ ?_ ?_ ?_
    · rw [Connection.post, if_pos htakes]
      exact fun _ => id
    · rw [Connection.post, if_pos htakes]
      intro request r hr
      simpa [Connection.frames] using hr
    · rw [Connection.post, if_pos htakes]
      exact fun _ => rfl
    · intro r hr hlistens _
      rw [hrequests, Connection.post, if_pos htakes]
      exact .inl ⟨hlistens, hr⟩
  · rw [Connection.post, if_neg htakes]
    exact h.of_connection i (fun _ => id) (List.Sublist.refl _) (fun _ => id) (fun _ _ => id) (fun _ => rfl)
      fun r hr hlistens _ => .inl ⟨hlistens, hr⟩

theorem Kept.write (h : Kept json encoder s) (i : Nat) {f : ServerFrame} {rest : List ServerFrame}
    (hsend : (s.connections i).send = f :: rest) :
    Kept json encoder
      (s.withConnection i { s.connections i with send := rest, wire := (s.connections i).wire ++ [f] }) := by
  have hsame : ({ s.connections i with send := rest, wire := (s.connections i).wire ++ [f] } : Connection).frames =
      (s.connections i).frames := by
    simp [Connection.frames, hsend]
  refine h.of_connection i (fun _ => id) ?_ (fun _ => id) ?_ (fun _ => rfl) ?_
  · rw [Connection.requests, Connection.requests, hsame]
  · rw [hsame]
    exact fun _ _ => id
  · intro r hr hlistens _
    rw [Connection.requests, hsame]
    exact .inl ⟨hlistens, hr⟩

theorem Kept.close (h : Kept json encoder s) (i : Nat) :
    Kept json encoder (s.withConnection i { s.connections i with closed := true }) :=
  h.of_connection i (fun _ => id) (List.Sublist.refl _) (fun _ => id) (fun _ _ => id) (fun _ => rfl)
    fun _ hr hlistens _ => .inl ⟨hlistens, hr⟩

/-- A frame does to the client what it should: a response completes its own request, if that
one still waits, and nothing else happens. -/
theorem Kept.received (h : Kept json encoder s) (numbers : DartNumbers) {i : Nat} {f : ServerFrame}
    (hf : f ∈ (s.connections i).frames) :
    Kept json encoder { s with rpc := (s.rpc.onMessageReceived numbers (some (f.json encoder))).1 } ∧
      ∀ request, f.request? = some request →
        (s.rpc.onMessageReceived numbers (some (f.json encoder))).1.requests.waiting request = true →
          ∃ m, s.asked request = some m ∧ ¬m.Fits := by
  cases f with
  | event eventName data now =>
    have hsame : (s.rpc.onMessageReceived numbers (some (newBroadcastPayload eventName data.members now))).1 = s.rpc :=
      congrArg Prod.fst (onMessageReceived_broadcast numbers h.ok eventName data now)
    rw [ServerFrame.json, hsame]
    exact ⟨h, fun request hrequest => by cases hrequest⟩
  | response request r =>
    have hanswered := h.carries i request r hf
    obtain ⟨m, hasked, milliseconds, hkey, hfitting⟩ := h.answers _ hanswered
    obtain ⟨frame, request', id, hframe, hwaits, hkey', hanswers, hstep⟩ | hsame :=
      onMessageReceived_cases numbers h.ok (some (encoder.response r))
    · obtain rfl := Option.some.inj hframe
      obtain ⟨hfits, rfl⟩ := hfitting.of_answers encoder (requestId_ne_empty request milliseconds) hanswers
      obtain rfl := h.ok.table.distinct request' request _ hkey' hkey
      have hcompletions := Promises.withdraw_completions (t := s.rpc.requests) request'
      have hsilent := h.ok.table.silent request' (.inl hwaits)
      have hok := h.ok.onMessageReceived numbers (some (encoder.response r))
      rw [ServerFrame.json]
      rw [hstep] at hok ⊢
      constructor
      · refine h.of_rpc hok id (Promises.withdraw_issued request').ge ?_ ?_ ?_
        · intro r' k hk
          simpa only [Promises.complete_keys, Promises.withdraw_keys] using hk
        · intro r' completion hcompletion
          simp only [Promises.complete_completions, hcompletions, hsilent, List.nil_append,
            Function.update_apply] at hcompletion
          split at hcompletion
          · rename_i hr
            subst hr
            rw [List.mem_singleton, outcome_response encoder hfitting.errorsOnly] at hcompletion
            exact .inr (.inr ⟨r, m, hanswered, hasked, hfits, hcompletion⟩)
          · exact .inl hcompletion
        · intro r' hr'
          simp only [Promises.complete_waiting, h.ok.table.withdraw_waiting,
            Function.update_apply] at hr'
          split at hr'
          · cases hr'
          · exact hr'
      · intro request'' hrequest hwaiting
        cases hrequest
        simp [Promises.complete_waiting] at hwaiting
    · rw [ServerFrame.json, hsame]
      refine ⟨h, fun request' hrequest hwaits => ⟨m, ?_, fun hfits => ?_⟩⟩
      · cases hrequest
        exact hasked
      · cases hrequest
        -- the response would have completed the request
        have hdelivers := onMessageReceived_waiting numbers h.ok (hfitting.responseId_response encoder numbers hfits)
          hwaits hkey
        have hout : [RpcOut.consumed request] = s.rpc.addEvent (encoder.response r) :=
          (congrArg Prod.snd hdelivers).symm.trans (congrArg Prod.snd hsame)
        rw [RpcState.addEvent] at hout
        split at hout <;> cases hout

theorem Kept.deliver (h : Kept json encoder s) (numbers : DartNumbers) (i : Nat) {f : ServerFrame}
    {rest : List ServerFrame} (hwire : (s.connections i).wire = f :: rest) :
    Kept json encoder
      { s.withConnection i { s.connections i with wire := rest } with
        rpc := (s.rpc.onMessageReceived numbers (some (f.json encoder))).1 } := by
  have hframes : (s.connections i).frames = f :: ({ s.connections i with wire := rest } : Connection).frames := by
    simp [Connection.frames, hwire]
  obtain ⟨hkept, hdone⟩ := h.received numbers (f := f) (i := i) (by simp [hframes])
  have hrequests : (s.connections i).requests =
      f.request?.toList ++ ({ s.connections i with wire := rest } : Connection).requests := by
    rw [Connection.requests, Connection.requests, hframes, List.filterMap_cons]
    cases f.request? <;> rfl
  refine hkept.of_connection i (fun _ => id) ?_ (fun _ => id) ?_ (fun _ => rfl) ?_
  · change List.Sublist _ (s.connections i).requests
    rw [hrequests]
    exact List.sublist_append_right _ _
  · intro request r hr
    change _ ∈ (s.connections i).frames
    rw [hframes]
    exact List.mem_cons_of_mem _ hr
  · intro r hr hlistens hwaits
    change r ∈ (s.connections i).requests at hr
    rw [hrequests, List.mem_append, Option.mem_toList] at hr
    obtain hself | hstill := hr
    · exact .inr (.inr (hdone r hself hwaits))
    · exact .inl ⟨hlistens, hstill⟩

theorem Kept.timeout (h : Kept json encoder s) (request : RequestID) :
    Kept json encoder { s with rpc := s.rpc.timeout request } := by
  refine h.of_rpc (h.ok.timeout request) ?_ (timeout_issued request).ge ?_ ?_ ?_
  · unfold RpcState.timeout
    split <;> exact id
  · intro r k hk
    unfold RpcState.timeout
    split
    · exact (congrFun (Promises.withdraw_keys request) r).trans hk
    · exact hk
  · intro r completion hcompletion
    rw [timeout_completions] at hcompletion
    exact .inl hcompletion
  · intro r hr
    unfold RpcState.timeout at hr
    split at hr
    · change (s.rpc.requests.withdraw request).waiting r = true at hr
      rw [h.ok.table.withdraw_waiting, Function.update_apply] at hr
      split at hr
      · cases hr
      · exact hr
    · exact hr

/-- The next number is taken, and nobody waits under it. -/
theorem Kept.unsent (h : Kept json encoder s) (milliseconds : Int) :
    Kept json encoder { s with rpc := s.rpc.sendRequest milliseconds false } := by
  by_cases hchannel : s.rpc.channel = true
  · have hissue := h.ok.issue milliseconds
    have hwaits : (s.rpc.issue milliseconds).requests.waiting (s.rpc.requests.issued + 1) = true :=
      Function.update_self ..
    have hstate : s.rpc.sendRequest milliseconds false =
        (s.rpc.issue milliseconds).withdraw (s.rpc.requests.issued + 1) := by
      rw [RpcState.sendRequest, if_pos hchannel, if_neg Bool.false_ne_true]
      rfl
    rw [hstate]
    refine h.of_rpc (hissue.withdraw _) id ?_ ?_ ?_ ?_
    · exact (Nat.le_succ _).trans (Promises.withdraw_issued (t := (s.rpc.issue milliseconds).requests) _).ge
    · intro r k hk
      have hold : r ≠ s.rpc.requests.issued + 1 := by
        rintro rfl
        rw [h.ok.table.keys_next] at hk
        cases hk
      exact (congrFun (Promises.withdraw_keys _) r).trans ((Function.update_of_ne hold _ _).trans hk)
    · intro r completion hcompletion
      have hsame := congrFun (Promises.withdraw_completions (t := (s.rpc.issue milliseconds).requests)
        (s.rpc.requests.issued + 1)) r
      change completion ∈ ((s.rpc.issue milliseconds).requests.withdraw _).completions r at hcompletion
      rw [hsame] at hcompletion
      exact .inl hcompletion
    · intro r hr
      change ((s.rpc.issue milliseconds).requests.withdraw _).waiting r = true at hr
      rw [hissue.table.withdraw_waiting, Function.update_apply] at hr
      split at hr
      · cases hr
      · rename_i hold
        exact (Function.update_of_ne hold _ _).symm.trans hr
  · rw [RpcState.sendRequest, if_neg hchannel]
    exact h

theorem Kept.cleanupConnection (h : Kept json encoder s) :
    Kept json encoder
      { s.withConnection s.current { s.connections s.current with listening := false } with
        rpc := s.rpc.cleanupConnection } := by
  obtain ⟨hkeys, hissued, hcompletions, hidle⟩ := h.ok.table.abort_spec Completion.connectionClosed
  have hkept : Kept json encoder { s with rpc := s.rpc.cleanupConnection } := by
    refine h.of_rpc h.ok.cleanupConnection (fun hchannel => by cases hchannel) hissued.ge ?_ ?_ ?_
    · exact fun r k hk => (congrFun hkeys r).trans hk
    · intro r completion hcompletion
      change completion ∈ (s.rpc.requests.abort _).completions r at hcompletion
      rw [hcompletions r] at hcompletion
      split at hcompletion
      · exact .inr (.inl (List.mem_singleton.mp hcompletion))
      · exact .inl hcompletion
    · intro r hr
      exact absurd ((hidle r).symm.trans hr) Bool.false_ne_true
  refine hkept.of_connection s.current (fun _ => id) (List.Sublist.refl _) (fun _ => id) (fun _ _ => id)
    (fun hchannel => by cases hchannel) fun r _ _ hwaits => ?_
  exact absurd ((hidle r).symm.trans hwaits) Bool.false_ne_true

theorem Kept.dispose (h : Kept json encoder s) :
    Kept json encoder
      { s.withConnection s.current { s.connections s.current with listening := false } with
        rpc := s.rpc.dispose } :=
  h.cleanupConnection.of_rpc (h.ok.cleanupConnection.of_keys h.ok.cleanupConnection.table rfl) id (Nat.le_refl _)
    (fun _ _ => id) (fun _ _ => .inl) fun _ => id

theorem Kept.connect (h : Kept json encoder s) : Kept json encoder s.connect := by
  have hnew : (s.connections (s.current + 1)).requests = [] := h.unopened _ (Nat.lt_succ_self _)
  have hother : ∀ j, j ≠ s.current + 1 → s.connect.connections j = s.connections j := fun j hj =>
    Function.update_of_ne hj _ _
  have hself : s.connect.connections (s.current + 1) = .opened := Function.update_self ..
  have hrequests : ∀ j, (s.connect.connections j).requests = (s.connections j).requests := by
    intro j
    by_cases hj : j = s.current + 1
    · rw [hj, hself, hnew]
      rfl
    · rw [hother j hj]
  have htoServer : ∀ j, ∀ f ∈ (s.connect.connections j).toServer, f ∈ (s.connections j).toServer := by
    intro j f hf
    by_cases hj : j = s.current + 1
    · rw [hj, hself] at hf
      cases hf
    · rwa [hother j hj] at hf
  refine ⟨⟨h.ok.table, h.ok.ids⟩, fun _ => ?_, fun j hj => ?_, fun j => ?_, fun j => ?_, fun j j' => ?_,
    fun j f hf => h.asks j f (htoServer j f hf), fun j f hf => h.unanswered j f (htoServer j f hf),
    fun j request r hr => ?_, h.answers, h.once, h.own, fun r hr => ?_⟩
  · change (s.connect.connections (s.current + 1)).listening = true
    rw [hself]
    rfl
  · rw [hrequests]
    exact h.unopened j ((Nat.lt_succ_self _).trans hj)
  · rw [hrequests]
    exact h.ordered j
  · rw [hrequests]
    exact h.known j
  · rw [hrequests, hrequests]
    exact h.apart j j'
  · by_cases hj : j = s.current + 1
    · rw [hj, hself] at hr
      cases hr
    · rw [hother j hj] at hr
      exact h.carries j request r hr
  · obtain ⟨j, hlistens, hunder⟩ | hrest := h.waits r hr
    · have hj : j ≠ s.current + 1 := by
        rintro rfl
        rw [hnew] at hunder
        cases hunder
      exact .inl ⟨j, by rw [hother j hj]; exact ⟨hlistens, hunder⟩⟩
    · exact .inr hrest

theorem Kept.answered_issued (h : Kept json encoder s) {request : RequestID}
    (hanswered : request ∈ s.answered.map Prod.fst) : request ≤ s.rpc.requests.issued := by
  obtain ⟨a, ha, rfl⟩ := List.mem_map.mp hanswered
  obtain ⟨m, -, milliseconds, hkey, -⟩ := h.answers a ha
  by_contra hpast
  rw [(h.ok.table.keys_iff a.1).mpr (.inr (Nat.lt_of_not_le hpast))] at hkey
  cases hkey

theorem Kept.sendRequest (h : Kept json encoder s) (m : RpcMethod) (milliseconds : Int) {raw : GoBytes}
    (hchannel : s.rpc.channel = true)
    (hraw : json.parse raw = some (.object (m.envelope (requestId (s.rpc.requests.issued + 1) milliseconds)))) :
    Kept json encoder (s.sendRequest m milliseconds raw) := by
  have hrpc : (s.sendRequest m milliseconds raw).rpc = s.rpc.issue milliseconds := by
    rw [Conversation.sendRequest, RpcState.sendRequest, if_pos hchannel, if_pos rfl]
  have hother : ∀ j, j ≠ s.current → (s.sendRequest m milliseconds raw).connections j = s.connections j :=
    fun j hj => Function.update_of_ne hj _ _
  have hself : (s.sendRequest m milliseconds raw).connections s.current = { s.connections s.current with
      toServer := (s.connections s.current).toServer ++ [⟨s.rpc.requests.issued + 1, m, raw⟩] } :=
    Function.update_self ..
  have hrequests : ((s.sendRequest m milliseconds raw).connections s.current).requests =
      (s.connections s.current).requests ++ [s.rpc.requests.issued + 1] := by
    rw [hself]
    simp [Connection.requests, Connection.frames]
  have hmem : ∀ j r, r ∈ ((s.sendRequest m milliseconds raw).connections j).requests ↔
      r ∈ (s.connections j).requests ∨ j = s.current ∧ r = s.rpc.requests.issued + 1 := by
    intro j r
    by_cases hj : j = s.current
    · subst hj
      rw [hrequests]
      simp
    · rw [hother j hj]
      simp [hj]
  have hlistening : ∀ j, ((s.sendRequest m milliseconds raw).connections j).listening =
      (s.connections j).listening := by
    intro j
    by_cases hj : j = s.current
    · subst hj
      rw [hself]
    · rw [hother j hj]
  -- an older request keeps its method and its id
  have hold : ∀ r : Nat, r ≤ s.rpc.requests.issued → (s.sendRequest m milliseconds raw).asked r = s.asked r ∧
      (s.rpc.issue milliseconds).requests.keys r = s.rpc.requests.keys r := fun r hr =>
    have hne := Nat.ne_of_lt (Nat.lt_succ_of_le hr)
    ⟨Function.update_of_ne hne _ _, Function.update_of_ne hne _ _⟩
  have hasked : ∀ f : ClientFrame, f.request ≤ s.rpc.requests.issued → Asked json s f →
      Asked json (s.sendRequest m milliseconds raw) f := by
    rintro f hf ⟨hmethod, milliseconds', hkey, hparse⟩
    exact ⟨(hold _ hf).1.trans hmethod, milliseconds', by rw [hrpc]; exact (hold _ hf).2.trans hkey, hparse⟩
  have hunder : ∀ j, ∀ f ∈ (s.connections j).toServer, f.request ≤ s.rpc.requests.issued := fun j f hf =>
    h.known j _ (List.mem_append_right _ (List.mem_map_of_mem hf))
  have hframe : ∀ j, ∀ f ∈ ((s.sendRequest m milliseconds raw).connections j).toServer,
      f ∈ (s.connections j).toServer ∨ f = ⟨s.rpc.requests.issued + 1, m, raw⟩ := by
    intro j f hf
    by_cases hj : j = s.current
    · subst hj
      rw [hself] at hf
      simpa using hf
    · rw [hother j hj] at hf
      exact .inl hf
  refine ⟨hrpc ▸ h.ok.issue milliseconds, fun _ => ?_, fun j hj => ?_, fun j => ?_, fun j r hr => ?_,
    fun j j' r hr hr' => ?_, fun j f hf => ?_, fun j f hf => ?_, fun j request r hr => ?_, fun a ha => ?_, h.once,
    fun r completion hcompletion => ?_, fun r hr => ?_⟩
  · exact (hlistening s.current).trans (h.listens hchannel)
  · rw [hother j (Nat.ne_of_gt hj)]
    exact h.unopened j hj
  · by_cases hj : j = s.current
    · subst hj
      rw [hrequests]
      refine List.pairwise_append.mpr ⟨h.ordered s.current, List.pairwise_singleton _ _, fun r hr r' hr' => ?_⟩
      obtain rfl := List.mem_singleton.mp hr'
      exact Nat.lt_succ_of_le (h.known s.current r hr)
    · rw [hother j hj]
      exact h.ordered j
  · rw [hrpc]
    change r ≤ s.rpc.requests.issued + 1
    obtain hr | ⟨-, rfl⟩ := (hmem j r).mp hr
    · exact (h.known j r hr).trans (Nat.le_succ _)
    · exact Nat.le_refl _
  · have hfresh : ∀ j r, r ∈ (s.connections j).requests → r ≠ s.rpc.requests.issued + 1 := by
      rintro j r hthere rfl
      exact Nat.not_succ_le_self _ (h.known j _ hthere)
    obtain hthere | ⟨hj, hnew⟩ := (hmem j r).mp hr <;> obtain hthere' | ⟨hj', hnew'⟩ := (hmem j' r).mp hr'
    · exact h.apart j j' r hthere hthere'
    · exact absurd hnew' (hfresh j r hthere)
    · exact absurd hnew (hfresh j' r hthere')
    · exact hj.trans hj'.symm
  · obtain hthere | rfl := hframe j f hf
    · exact hasked f (hunder j f hthere) (h.asks j f hthere)
    · exact ⟨Function.update_self .., milliseconds, by rw [hrpc]; exact Function.update_self .., hraw⟩
  · obtain hthere | rfl := hframe j f hf
    · exact h.unanswered j f hthere
    · intro hanswered
      have hle : s.rpc.requests.issued + 1 ≤ s.rpc.requests.issued := h.answered_issued hanswered
      omega
  · refine h.carries j request r ?_
    by_cases hj : j = s.current
    · subst hj
      rwa [hself] at hr
    · rwa [hother j hj] at hr
  · obtain ⟨m', hmethod, milliseconds', hkey, hfitting⟩ := h.answers a ha
    have hle := h.answered_issued (List.mem_map_of_mem (f := Prod.fst) ha)
    exact ⟨m', (hold _ hle).1.trans hmethod, milliseconds', by rw [hrpc]; exact (hold _ hle).2.trans hkey, hfitting⟩
  · rw [hrpc] at hcompletion
    obtain hclosed | ⟨resp, m', hanswered, hmethod, hfits, hreply⟩ := h.own r completion hcompletion
    · exact .inl hclosed
    · have hle := h.answered_issued (List.mem_map_of_mem (f := Prod.fst) hanswered)
      exact .inr ⟨resp, m', hanswered, (hold _ hle).1.trans hmethod, hfits, hreply⟩
  · by_cases hnew : r = s.rpc.requests.issued + 1
    · exact .inl ⟨s.current, (hlistening _).trans (h.listens hchannel), (hmem _ _).mpr (.inr ⟨rfl, hnew⟩)⟩
    · rw [hrpc] at hr
      have hwaits : s.rpc.requests.waiting r = true := (Function.update_of_ne hnew _ _).symm.trans hr
      obtain ⟨j, hlistens, hthere⟩ | hdropped | ⟨m', hmethod, hunfit⟩ := h.waits r hwaits
      · exact .inl ⟨j, (hlistening j).trans hlistens, (hmem j r).mpr (.inl hthere)⟩
      · exact .inr (.inl hdropped)
      · exact .inr (.inr ⟨m', (Function.update_of_ne hnew _ _).trans hmethod, hunfit⟩)

theorem Kept.serve (h : Kept json encoder s) (i : Nat) {f : ClientFrame} {rest : List ClientFrame}
    (htodo : (s.connections i).todo = []) (hframe : (s.connections i).toServer = f :: rest) {r : Response}
    {m : RpcMethod} (hanswer : s.Answer f.request r m) : Kept json encoder (s.serve i rest [(f.request, r)]) := by
  have hother : ∀ j, j ≠ i → (s.serve i rest [(f.request, r)]).connections j = s.connections j := fun j hj =>
    Function.update_of_ne hj _ _
  have hself : (s.serve i rest [(f.request, r)]).connections i =
      { s.connections i with toServer := rest, todo := [(f.request, r)] } := Function.update_self ..
  have hrequests : ∀ j, ((s.serve i rest [(f.request, r)]).connections j).requests = (s.connections j).requests := by
    intro j
    by_cases hj : j = i
    · subst hj
      rw [hself]
      simp [Connection.requests, Connection.frames, htodo, hframe, ServerFrame.request?]
    · rw [hother j hj]
  have hlistening : ∀ j, ((s.serve i rest [(f.request, r)]).connections j).listening =
      (s.connections j).listening := by
    intro j
    by_cases hj : j = i
    · subst hj
      rw [hself]
    · rw [hother j hj]
  have hpending : f ∈ (s.connections i).toServer := by
    rw [hframe]
    exact List.mem_cons_self
  have htoServer : ∀ j, ∀ f' ∈ ((s.serve i rest [(f.request, r)]).connections j).toServer,
      f' ∈ (s.connections j).toServer ∧ f'.request ≠ f.request := by
    intro j f' hf'
    by_cases hj : j = i
    · subst hj
      rw [hself] at hf'
      have hmem : f' ∈ (s.connections j).toServer := by
        rw [hframe]
        exact List.mem_cons_of_mem _ hf'
      refine ⟨hmem, ?_⟩
      -- the requests of one connection are in the order of their numbers
      have hordered := (List.pairwise_append.mp (h.ordered j)).2.1
      rw [hframe, List.map_cons, List.pairwise_cons] at hordered
      exact Nat.ne_of_gt (hordered.1 _ (List.mem_map_of_mem hf'))
    · rw [hother j hj] at hf'
      refine ⟨hf', fun hsame => hj (h.apart j i f'.request ?_ ?_)⟩
      · exact List.mem_append_right _ (List.mem_map_of_mem hf')
      · rw [hsame]
        exact List.mem_append_right _ (List.mem_map_of_mem hpending)
  refine ⟨h.ok, fun hchannel => (hlistening _).trans (h.listens hchannel), fun j hj => (hrequests j).trans
    (h.unopened j hj), fun j => (hrequests j) ▸ h.ordered j, fun j => (hrequests j) ▸ h.known j, fun j j' => ?_,
    fun j f' hf' => h.asks j f' (htoServer j f' hf').1, fun j f' hf' => ?_, fun j request resp hr => ?_,
    fun a ha => ?_, ?_, fun r' completion hcompletion => ?_, fun r' hr => ?_⟩
  · rw [hrequests, hrequests]
    exact h.apart j j'
  · change f'.request ∉ (s.answered ++ [(f.request, r)]).map Prod.fst
    obtain ⟨hthere, hne⟩ := htoServer j f' hf'
    simpa [hne] using h.unanswered j f' hthere
  · change (request, resp) ∈ s.answered ++ [(f.request, r)]
    by_cases hj : j = i
    · subst hj
      rw [hself] at hr
      have hcases : .response request resp ∈ (s.connections j).frames ∨ (request, resp) = (f.request, r) := by
        simpa [Connection.frames, htodo, or_assoc] using hr
      obtain hthere | hnew := hcases
      · exact List.mem_append_left _ (h.carries j request resp hthere)
      · simp [hnew]
    · rw [hother j hj] at hr
      exact List.mem_append_left _ (h.carries j request resp hr)
  · obtain hthere | hnew := List.mem_append.mp ha
    · exact h.answers a hthere
    · obtain rfl := List.mem_singleton.mp hnew
      exact ⟨m, hanswer⟩
  · change ((s.answered ++ [(f.request, r)]).map Prod.fst).Nodup
    rw [List.map_append, List.map_singleton]
    exact List.nodup_append.mpr ⟨h.once, List.nodup_singleton _, fun q hq q' hq' hsame => by
      rw [hsame, List.mem_singleton.mp hq'] at hq
      exact h.unanswered i f hpending hq⟩
  · obtain hclosed | ⟨resp, m', hanswered, hmethod⟩ := h.own r' completion hcompletion
    · exact .inl hclosed
    · exact .inr ⟨resp, m', List.mem_append_left _ hanswered, hmethod⟩
  · obtain ⟨j, hlistens, hthere⟩ | hrest := h.waits r' hr
    · exact .inl ⟨j, (hlistening j).trans hlistens, (hrequests j).symm ▸ hthere⟩
    · exact .inr hrest

/-- Whatever happens, everything is kept. -/
theorem Kept.step (hjson : Documented json) {numbers : DartNumbers} {s' : Conversation} (h : Kept json encoder s)
    (hstep : Step json encoder numbers s s') : Kept json encoder s' := by
  cases hstep with
  | connect => exact h.connect
  | sendRequest m milliseconds hchannel hraw => exact h.sendRequest m milliseconds hchannel hraw
  | unsent milliseconds => exact h.unsent milliseconds
  | @serve i f rest c hub hub' trace htodo hframe hopen hsize hc hrun =>
    have hpending : f ∈ (s.connections i).toServer := by
      rw [hframe]
      exact List.mem_cons_self
    obtain ⟨hmethod, milliseconds, hkey, hraw⟩ := h.asks i f hpending
    obtain ⟨r, hone, hfitting⟩ := hjson.exists_fitting hraw hc hrun
    rw [hone]
    exact h.serve i htodo hframe ⟨hmethod, milliseconds, hkey, hfitting⟩
  | sendJSON i htodo => exact h.sendJSON i htodo
  | broadcast i eventName data now => exact h.broadcast i eventName data now
  | write i hsend => exact h.write i hsend
  | deliver i hlistening hwire => exact h.deliver numbers i hwire
  | close i => exact h.close i
  | timeout request => exact h.timeout request
  | cleanupConnection => exact h.cleanupConnection
  | dispose => exact h.dispose

theorem Kept.of_reached (hjson : Documented json) {numbers : DartNumbers} (h : Reached json encoder numbers s) :
    Kept json encoder s := by
  induction h with
  | refl => exact kept_new
  | tail _ hstep ih => exact ih.step hjson hstep

end steps

/-- What a client can count on: a request is answered once by the server and completed once
by the client, in the order of the requests of its connection; what completes it is the
response to it, as a value or as an error, or the end of the connection; and while it is
not, the request or its response is under way, unless it was lost for want of room or was
out of range. -/
structure Delivers (encoder : GoEncoder) (s : Conversation) : Prop where
  answeredOnce : (s.answered.map Prod.fst).Nodup
  completedOnce : ∀ r, (s.rpc.requests.completions r).length ≤ 1
  own : ∀ r, ∀ completion ∈ s.rpc.requests.completions r, Own encoder s r completion
  inOrder : ∀ i, (s.connections i).requests.Pairwise (· < ·)
  waits : ∀ r, s.rpc.requests.waiting r = true → s.Waits r

/-- The document of the first request of a client that joins channel 7. -/
def joinsSeven : Json := .object (RpcMethod.envelope (requestId 1 0) (.joinVoice 7 true false))

end Conversation

end low_latency_voice.client

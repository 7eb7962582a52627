import LowLatencyVoice.Lib.Correlation
import LowLatencyVoice.Lib.Machine
import LowLatencyVoice.Client.WebSocketService
import LowLatencyVoice.Client.Frames

open Machine Correlation low_latency_voice.control

namespace low_latency_voice.client

/-- The requests of `WebSocketService`: whether it has a channel, whether its streams are
closed, and the map of pending requests with their completers. -/
structure RpcState where
  channel : Bool
  isDisposed : Bool
  requests : Promises String Completion

/-- What happens to the requests. A frame is what `json.decode` makes of it, if it makes
anything; `written` says whether the sink has taken the request. -/
inductive RpcAct where
  | connected
  | sendRequest (milliseconds : Int) (written : Bool)
  | frame (decoded : Option Json)
  | timeout (request : RequestID)
  | cleanupConnection
  | dispose

/-- `_cleanupConnection` is run. -/
def RpcAct.cleans : RpcAct → Bool
  | .cleanupConnection | .dispose => true
  | _ => false

/-- What a frame comes to. -/
inductive RpcOut where
  | consumed (request : RequestID)
  | event (frame : Json)

namespace RpcState

def new : RpcState := ⟨false, false, Promises.empty⟩

/-- `sendRequest` up to the sink. -/
def issue (s : RpcState) (milliseconds : Int) : RpcState :=
  { s with requests := s.requests.issue (requestId (s.requests.issued + 1) milliseconds) }

/-- The entry of the map is removed. -/
def withdraw (s : RpcState) (request : RequestID) : RpcState :=
  { s with requests := s.requests.withdraw request }

/-- `sendRequest`. -/
def sendRequest (s : RpcState) (milliseconds : Int) (written : Bool) : RpcState :=
  if s.channel then
    if written then s.issue milliseconds
    else (s.issue milliseconds).withdraw (s.issue milliseconds).requests.issued
  else s

/-- The frame is an event, if it has the member. A closed controller throws, and the event
is dropped as a malformed frame is. -/
def addEvent (s : RpcState) (frame : Json) : List RpcOut :=
  if (frame.members.reverse.lookup "event").isSome ∧ s.isDisposed = false then [.event frame] else []

/-- `_onMessageReceived`. -/
def onMessageReceived (numbers : DartNumbers) (s : RpcState) : Option Json → RpcState × List RpcOut
  | some (.object members) =>
    let frame := Json.object members
    match (responseId numbers frame).bind fun reqId =>
      (s.requests.pending.get? reqId).map fun request => (reqId, request) with
    | some (reqId, request) =>
      ({ s with requests := s.requests.answer reqId (outcome frame) }, [.consumed request])
    | none => (s, s.addEvent frame)
  | _ => (s, [])

/-- `onTimeout`. Its timer is off once nobody waits. -/
def timeout (s : RpcState) (request : RequestID) : RpcState :=
  if s.requests.waiting request then s.withdraw request else s

/-- `_cleanupConnection`. -/
def cleanupConnection (s : RpcState) : RpcState :=
  { s with channel := false, requests := s.requests.abort .connectionClosed }

def dispose (s : RpcState) : RpcState := { s.cleanupConnection with isDisposed := true }

end RpcState

/-- The client under any calls, frames, timeouts and losses of the connection. -/
def rpcMachine (numbers : DartNumbers) : Machine RpcState RpcAct (List RpcOut) where
  step s act :=
    match act with
    | .connected => ({ s with channel := true }, [])
    | .sendRequest milliseconds written => (s.sendRequest milliseconds written, [])
    | .frame decoded => s.onMessageReceived numbers decoded
    | .timeout request => (s.timeout request, [])
    | .cleanupConnection => (s.cleanupConnection, [])
    | .dispose => (s.dispose, [])

/-- The table is in order, and every request has the id of its number. -/
structure RpcState.Ok (s : RpcState) : Prop where
  table : s.requests.Ok
  ids : ∀ r k, s.requests.keys r = some k → ∃ milliseconds, k = requestId r milliseconds

section steps

variable (numbers : DartNumbers) {s : RpcState}

theorem ok_new : RpcState.new.Ok := ⟨Promises.ok_empty, fun _ _ h => by cases h⟩

/-- The next id is new. -/
theorem RpcState.Ok.fresh (h : s.Ok) (milliseconds : Int) (r : RequestID) :
    s.requests.keys r ≠ some (requestId (s.requests.issued + 1) milliseconds) := by
  intro hkey
  obtain ⟨milliseconds', hid⟩ := h.ids r _ hkey
  obtain rfl : s.requests.issued + 1 = r := requestId_counter hid
  rw [h.table.keys_next] at hkey
  cases hkey

/-- Only a new request brings an id. -/
theorem RpcState.Ok.of_keys (h : s.Ok) {s' : RpcState} (htable : s'.requests.Ok)
    (hkeys : s'.requests.keys = s.requests.keys) : s'.Ok :=
  ⟨htable, fun r k hk => h.ids r k (hkeys ▸ hk)⟩

theorem RpcState.Ok.issue (h : s.Ok) (milliseconds : Int) : (s.issue milliseconds).Ok := by
  refine ⟨h.table.issue (h.fresh milliseconds), fun r k hk => ?_⟩
  change Function.update s.requests.keys (s.requests.issued + 1) _ r = some k at hk
  by_cases hr : r = s.requests.issued + 1
  · subst r
    rw [Function.update_self] at hk
    exact ⟨milliseconds, (Option.some.inj hk).symm⟩
  · rw [Function.update_of_ne hr] at hk
    exact h.ids r k hk

theorem RpcState.Ok.withdraw (h : s.Ok) (request : RequestID) : (s.withdraw request).Ok :=
  h.of_keys (h.table.withdraw request) (Promises.withdraw_keys request)

theorem RpcState.Ok.timeout (h : s.Ok) (request : RequestID) : (s.timeout request).Ok := by
  unfold RpcState.timeout
  split
  · exact h.withdraw request
  · exact h

/-- A request that cannot be written goes the way of one that times out. -/
theorem sendRequest_unwritten (hchannel : s.channel = true) (milliseconds : Int) :
    s.sendRequest milliseconds false = (s.issue milliseconds).timeout (s.requests.issued + 1) := by
  have hwaits : (s.issue milliseconds).requests.waiting (s.requests.issued + 1) = true :=
    Function.update_self ..
  rw [RpcState.sendRequest, if_pos hchannel, if_neg Bool.false_ne_true, RpcState.timeout, if_pos hwaits]
  rfl

theorem RpcState.Ok.sendRequest (h : s.Ok) (milliseconds : Int) (written : Bool) :
    (s.sendRequest milliseconds written).Ok := by
  by_cases hchannel : s.channel = true
  · cases written with
    | true =>
      rw [RpcState.sendRequest, if_pos hchannel]
      exact h.issue milliseconds
    | false =>
      rw [sendRequest_unwritten hchannel]
      exact (h.issue milliseconds).timeout _
  · rw [RpcState.sendRequest, if_neg hchannel]
    exact h

/-- What a frame does: it answers the request its id belongs to, if that one waits; else
it changes nothing. -/
theorem onMessageReceived_cases (h : s.Ok) (decoded : Option Json) :
    (∃ frame request id, decoded = some frame ∧ s.requests.waiting request = true ∧
        s.requests.keys request = some id ∧ Answers frame id ∧
        s.onMessageReceived numbers decoded =
          ({ s with requests := (s.requests.withdraw request).complete request (outcome frame) },
            [.consumed request])) ∨
      s.onMessageReceived numbers decoded = (s, decoded.elim [] s.addEvent) := by
  unfold RpcState.onMessageReceived
  split
  · rename_i members
    simp only
    split
    · rename_i reqId request hfound
      obtain ⟨id, hid, hpending⟩ := Option.bind_eq_some_iff.mp hfound
      obtain ⟨request', hget, heq⟩ := Option.map_eq_some_iff.mp hpending
      cases heq
      obtain ⟨hwaits, hkey⟩ := (h.table.pending_iff reqId request).mp hget
      obtain ⟨milliseconds, rfl⟩ := h.ids request reqId hkey
      exact .inl ⟨_, request, _, rfl, hwaits, hkey, answers_of_responseId hid, by rw [h.table.answer_eq hget]⟩
    · exact .inr rfl
  · rename_i hobject
    refine .inr ?_
    cases decoded with
    | none => rfl
    | some frame =>
      cases frame with
      | object members => exact absurd rfl (hobject members)
      | null | bool | integer | real | string | array => rfl

theorem RpcState.Ok.onMessageReceived (h : s.Ok) (decoded : Option Json) :
    (s.onMessageReceived numbers decoded).1.Ok := by
  obtain ⟨frame, request, id, -, hwaits, hkey, -, hstep⟩ | hsame :=
    onMessageReceived_cases numbers h decoded
  · rw [hstep]
    refine h.of_keys ?_ (Promises.withdraw_keys request)
    rw [← h.table.answer_eq ((h.table.pending_iff id request).mpr ⟨hwaits, hkey⟩)]
    exact h.table.answer id (outcome frame)
  · rw [hsame]
    exact h

theorem RpcState.Ok.cleanupConnection (h : s.Ok) : s.cleanupConnection.Ok :=
  h.of_keys (h.table.abort _) (h.table.abort_spec _).1

theorem RpcState.Ok.next (h : s.Ok) (act : RpcAct) : ((rpcMachine numbers).next s act).Ok := by
  cases act with
  | connected => exact ⟨h.table, h.ids⟩
  | sendRequest milliseconds written => exact h.sendRequest milliseconds written
  | frame decoded => exact h.onMessageReceived numbers decoded
  | timeout request => exact h.timeout request
  | cleanupConnection => exact h.cleanupConnection
  | dispose => exact h.cleanupConnection.of_keys h.cleanupConnection.table rfl

theorem RpcState.Ok.run (acts : List RpcAct) : ((rpcMachine numbers).run .new acts).Ok :=
  (rpcMachine numbers).run_stable RpcState.Ok (fun _ act h => h.next numbers act) ok_new acts

theorem timeout_completions (request : RequestID) :
    (s.timeout request).requests.completions = s.requests.completions := by
  unfold RpcState.timeout
  split
  · exact Promises.withdraw_completions request
  · rfl

theorem sendRequest_completions (milliseconds : Int) (written : Bool) :
    (s.sendRequest milliseconds written).requests.completions = s.requests.completions := by
  by_cases hchannel : s.channel = true
  · cases written with
    | true =>
      rw [RpcState.sendRequest, if_pos hchannel]
      rfl
    | false =>
      rw [sendRequest_unwritten hchannel, timeout_completions]
      rfl
  · rw [RpcState.sendRequest, if_neg hchannel]

theorem requests_of_cleans {act : RpcAct} (hcleans : act.cleans = true) :
    ((rpcMachine numbers).next s act).requests = s.requests.abort .connectionClosed := by
  cases act with
  | cleanupConnection | dispose => rfl
  | connected | sendRequest | frame | timeout => cases hcleans

theorem RpcState.Ok.cleaned_completions (h : s.Ok) {act : RpcAct} (hcleans : act.cleans = true)
    (r : RequestID) :
    ((rpcMachine numbers).next s act).requests.completions r =
      if s.requests.waiting r then [.connectionClosed] else s.requests.completions r := by
  rw [requests_of_cleans numbers hcleans]
  exact (h.table.abort_spec .connectionClosed).2.2.1 r

/-- A completer that a step completes is completed because the connection goes, or because
a frame with the id of its request arrives. -/
def Completes (numbers : DartNumbers) (s : RpcState) (act : RpcAct) (r : RequestID) : Prop :=
  (act.cleans = true ∧ ((rpcMachine numbers).next s act).requests.completions r = [.connectionClosed]) ∨
    ∃ frame id, act = .frame (some frame) ∧ s.requests.keys r = some id ∧ Answers frame id ∧
      ((rpcMachine numbers).next s act).requests.completions r = [outcome frame] ∧
      (rpcMachine numbers).out s act = [.consumed r]

theorem RpcState.Ok.next_completions (h : s.Ok) (act : RpcAct) (r : RequestID) :
    ((rpcMachine numbers).next s act).requests.completions r = s.requests.completions r ∨
      s.requests.completions r = [] ∧ Completes numbers s act r := by
  by_cases hcleans : act.cleans = true
  · have hafter := h.cleaned_completions numbers hcleans r
    by_cases hwaits : s.requests.waiting r = true
    · rw [if_pos hwaits] at hafter
      exact .inr ⟨h.table.silent r (.inl hwaits), .inl ⟨hcleans, hafter⟩⟩
    · rw [if_neg hwaits] at hafter
      exact .inl hafter
  · cases act with
    | connected => exact .inl rfl
    | sendRequest milliseconds written => exact .inl (congrFun (sendRequest_completions milliseconds written) r)
    | timeout request => exact .inl (congrFun (timeout_completions request) r)
    | cleanupConnection | dispose => exact absurd rfl hcleans
    | frame decoded =>
      obtain ⟨frame, request, id, rfl, hwaits, hkey, hanswers, hstep⟩ | hsame :=
        onMessageReceived_cases numbers h decoded
      · have hnext : (rpcMachine numbers).step s (.frame (some frame)) =
            s.onMessageReceived numbers (some frame) := rfl
        have hcompletions : ∀ r', ((rpcMachine numbers).next s (.frame (some frame))).requests.completions r' =
            Function.update s.requests.completions request
              (s.requests.completions request ++ [outcome frame]) r' := by
          intro r'
          rw [Machine.next, hnext, hstep, ← Promises.withdraw_completions (t := s.requests) request]
          rfl
        have hsilent := h.table.silent request (.inl hwaits)
        by_cases hr : r = request
        · subst r
          refine .inr ⟨hsilent, .inr ⟨frame, id, rfl, hkey, hanswers, ?_, ?_⟩⟩
          · rw [hcompletions, Function.update_self, hsilent]
            rfl
          · rw [Machine.out, hnext, hstep]
        · exact .inl ((hcompletions r).trans (Function.update_of_ne hr _ _))
      · exact .inl (by rw [show (rpcMachine numbers).next s (.frame decoded) = s from congrArg Prod.fst hsame])

/-- The caller of a request gets another error than from the connection: the request could
not be written, or ten seconds have passed. -/
def GaveUp (s : RpcState) (act : RpcAct) (r : RequestID) : Prop :=
  (act = .timeout r ∧ s.requests.waiting r = true) ∨
    ∃ milliseconds, act = .sendRequest milliseconds false ∧ s.channel = true ∧ r = s.requests.issued + 1

/-- The step leaves the request as it was. -/
def Keeps (s s' : RpcState) (r : RequestID) : Prop :=
  r ≤ s.requests.issued ∧ s'.requests.waiting r = s.requests.waiting r ∧
    s'.requests.completions r = s.requests.completions r

theorem timeout_issued (request : RequestID) : (s.timeout request).requests.issued = s.requests.issued := by
  unfold RpcState.timeout
  split
  · exact Promises.withdraw_issued request
  · rfl

/-- A timeout is of its own request. -/
theorem RpcState.Ok.timeout_keeps (h : s.Ok) {request r : RequestID} (hissued : r ≤ s.requests.issued)
    (hne : r ≠ request) : Keeps s (s.timeout request) r := by
  refine ⟨hissued, ?_, congrFun (timeout_completions request) r⟩
  unfold RpcState.timeout
  split
  · exact (congrFun (h.table.withdraw_waiting request) r).trans (Function.update_of_ne hne _ _)
  · rfl

theorem RpcState.Ok.sendRequest_fate (h : s.Ok) (milliseconds : Int) (written : Bool) {r : RequestID}
    (hissued : r ≤ (s.sendRequest milliseconds written).requests.issued) :
    (s.sendRequest milliseconds written).requests.waiting r = true ∨
      GaveUp s (.sendRequest milliseconds written) r ∨ Keeps s (s.sendRequest milliseconds written) r := by
  by_cases hchannel : s.channel = true
  · have hbound : ∀ {n : RequestID}, n ≤ (s.issue milliseconds).requests.issued → n ≠ s.requests.issued + 1 →
        n ≤ s.requests.issued := fun hle hne => Nat.le_of_lt_succ (Nat.lt_of_le_of_ne hle hne)
    have hold : r ≠ s.requests.issued + 1 → (s.issue milliseconds).requests.waiting r = s.requests.waiting r :=
      fun hr => Function.update_of_ne hr _ _
    cases written with
    | true =>
      rw [RpcState.sendRequest, if_pos hchannel, if_pos rfl] at hissued ⊢
      by_cases hr : r = s.requests.issued + 1
      · exact .inl (hr ▸ Function.update_self ..)
      · exact .inr (.inr ⟨hbound hissued hr, hold hr, rfl⟩)
    | false =>
      rw [sendRequest_unwritten hchannel] at hissued ⊢
      rw [timeout_issued] at hissued
      by_cases hr : r = s.requests.issued + 1
      · exact .inr (.inl (.inr ⟨milliseconds, rfl, hchannel, hr⟩))
      · obtain ⟨-, hwaiting, hcompletions⟩ := (h.issue milliseconds).timeout_keeps hissued hr
        exact .inr (.inr ⟨hbound hissued hr, hwaiting.trans (hold hr), hcompletions⟩)
  · rw [RpcState.sendRequest, if_neg hchannel] at hissued ⊢
    exact .inr (.inr ⟨hissued, rfl, rfl⟩)

/-- What a step makes of a request: it waits, has its completion, is given up, or is left alone. -/
theorem RpcState.Ok.next_fate (h : s.Ok) (act : RpcAct) {r : RequestID}
    (hissued : r ≤ ((rpcMachine numbers).next s act).requests.issued) :
    ((rpcMachine numbers).next s act).requests.waiting r = true ∨
      ((rpcMachine numbers).next s act).requests.completions r ≠ [] ∨ GaveUp s act r ∨
      Keeps s ((rpcMachine numbers).next s act) r := by
  by_cases hcleans : act.cleans = true
  · have hcompletions := h.cleaned_completions numbers hcleans r
    by_cases hwaits : s.requests.waiting r = true
    · rw [if_pos hwaits] at hcompletions
      exact .inr (.inl (by simp [hcompletions]))
    · rw [if_neg hwaits] at hcompletions
      obtain ⟨-, hsame, -, hidle⟩ := h.table.abort_spec Completion.connectionClosed
      rw [Bool.not_eq_true] at hwaits
      rw [requests_of_cleans numbers hcleans, hsame] at hissued
      refine .inr (.inr (.inr ⟨hissued, ?_, hcompletions⟩))
      rw [requests_of_cleans numbers hcleans, hidle, hwaits]
  · cases act with
    | connected => exact .inr (.inr (.inr ⟨hissued, rfl, rfl⟩))
    | sendRequest milliseconds written =>
      obtain hwaits | hgone | hkeeps := h.sendRequest_fate milliseconds written hissued
      · exact .inl hwaits
      · exact .inr (.inr (.inl hgone))
      · exact .inr (.inr (.inr hkeeps))
    | timeout request =>
      have hnext : (rpcMachine numbers).next s (.timeout request) = s.timeout request := rfl
      rw [hnext, timeout_issued] at hissued
      rw [hnext]
      by_cases hr : r = request
      · subst r
        by_cases hwaits : s.requests.waiting request = true
        · exact .inr (.inr (.inl (.inl ⟨rfl, hwaits⟩)))
        · rw [RpcState.timeout, if_neg hwaits]
          exact .inr (.inr (.inr ⟨hissued, rfl, rfl⟩))
      · exact .inr (.inr (.inr (h.timeout_keeps hissued hr)))
    | cleanupConnection | dispose => exact absurd rfl hcleans
    | frame decoded =>
      have hnext : (rpcMachine numbers).next s (.frame decoded) = (s.onMessageReceived numbers decoded).1 := rfl
      rw [hnext] at hissued ⊢
      obtain ⟨frame, request, id, -, hwaits, -, -, hstep⟩ | hsame :=
        onMessageReceived_cases numbers h decoded
      · rw [hstep] at hissued ⊢
        by_cases hr : r = request
        · subst r
          exact .inr (.inl (by simp [Promises.complete]))
        · refine .inr (.inr (.inr
            ⟨Nat.le_trans hissued (Nat.le_of_eq (Promises.withdraw_issued request)), ?_, ?_⟩))
          · exact (Function.update_of_ne hr _ _).trans
              ((congrFun (h.table.withdraw_waiting request) r).trans (Function.update_of_ne hr _ _))
          · exact (Function.update_of_ne hr _ _).trans (congrFun (Promises.withdraw_completions request) r)
      · rw [hsame] at hissued ⊢
        exact .inr (.inr (.inr ⟨hissued, rfl, rfl⟩))

/-- Over a run every request waits, has been completed, or was given up on the way. -/
theorem request_fate (acts : List RpcAct) {r : RequestID} (hpos : 0 < r) :
    r ≤ ((rpcMachine numbers).run .new acts).requests.issued →
      ((rpcMachine numbers).run .new acts).requests.waiting r = true ∨
        ((rpcMachine numbers).run .new acts).requests.completions r ≠ [] ∨
        Earlier (fun pre act => GaveUp ((rpcMachine numbers).run .new pre) act r) acts := by
  induction acts using List.reverseRecOn with
  | nil => exact fun hissued => absurd hissued (Nat.not_le_of_lt hpos)
  | append_singleton pre act ih =>
    rw [Machine.run_concat]
    intro hissued
    obtain hwaits | hcompleted | hgone | ⟨hold, hwaiting, hcompletions⟩ :=
      (RpcState.Ok.run numbers pre).next_fate numbers act hissued
    · exact .inl hwaits
    · exact .inr (.inl hcompleted)
    · exact .inr (.inr (earlier_concat_iff.mpr (.inl hgone)))
    · rw [hwaiting, hcompletions, earlier_concat_iff]
      obtain hwaits | hcompleted | hgone := ih hold
      · exact .inl hwaits
      · exact .inr (.inl hcompleted)
      · exact .inr (.inr (.inr hgone))

theorem onMessageReceived_waiting (h : s.Ok) {frame : Json} {id : String} {request : RequestID}
    (hid : responseId numbers frame = some id) (hwaits : s.requests.waiting request = true)
    (hkey : s.requests.keys request = some id) :
    s.onMessageReceived numbers (some frame) =
      ({ s with requests := s.requests.answer id (outcome frame) }, [.consumed request]) := by
  cases frame with
  | object members =>
    have hpending := (h.table.pending_iff id request).mpr ⟨hwaits, hkey⟩
    simp [RpcState.onMessageReceived, hid, hpending]
  | null | bool | integer | real | string | array => simp [responseId, present, Json.members] at hid

/-- A broadcast does nothing but reach the listeners. -/
theorem onMessageReceived_broadcast (h : s.Ok) (eventName : String) (data : BroadcastData) (now : Nat) :
    s.onMessageReceived numbers (some (newBroadcastPayload eventName data.members now)) =
      (s, if s.isDisposed then [] else [.event (newBroadcastPayload eventName data.members now)]) := by
  obtain ⟨frame, request, id, hframe, -, hkey, hanswers, -⟩ | hstep :=
    onMessageReceived_cases numbers h (some (newBroadcastPayload eventName data.members now))
  · obtain rfl := Option.some.inj hframe
    obtain ⟨milliseconds, rfl⟩ := h.ids request id hkey
    exact absurd hanswers (data.not_answers eventName now request milliseconds)
  · rw [hstep, Option.elim_some, RpcState.addEvent, lookup_event]
    cases s.isDisposed <;> simp

/-- So it is with every event of the server. -/
theorem onMessageReceived_event (h : s.Ok) (eventName : String) (event : Event) (now : Nat) :
    s.onMessageReceived numbers (some (newBroadcastPayload eventName (eventData event) now)) =
      (s, if s.isDisposed then [] else [.event (newBroadcastPayload eventName (eventData event) now)]) :=
  onMessageReceived_broadcast numbers h eventName (broadcastData event) now

/-- One step of the client with its requests: what it completes, what it takes a frame for. -/
structure Routes (numbers : DartNumbers) (s : RpcState) (act : RpcAct) : Prop where
  once : ∀ r, (((rpcMachine numbers).next s act).requests.completions r).length ≤ 1
  own : ∀ r, ((rpcMachine numbers).next s act).requests.completions r = s.requests.completions r ∨
    s.requests.completions r = [] ∧ Completes numbers s act r
  reaches : ∀ frame id request, act = .frame (some frame) → responseId numbers frame = some id →
    s.requests.waiting request = true → s.requests.keys request = some id →
      (rpcMachine numbers).out s act = [.consumed request] ∧
      ∀ r, ((rpcMachine numbers).next s act).requests.completions r =
        if r = request then [outcome frame] else s.requests.completions r
  exclusive : ∀ request, .consumed request ∈ (rpcMachine numbers).out s act →
    ∀ frame, .event frame ∉ (rpcMachine numbers).out s act
  broadcast : ∀ eventName (data : BroadcastData) now,
    act = .frame (some (newBroadcastPayload eventName data.members now)) →
      (rpcMachine numbers).step s act =
        (s, if s.isDisposed then [] else [.event (newBroadcastPayload eventName data.members now)])

/-- No request is pending: every one has been completed, or was given up. -/
def NonePending (numbers : DartNumbers) (acts : List RpcAct) : Prop :=
  ((rpcMachine numbers).run .new acts).requests.pending = ∅ ∧
    ∀ r, 0 < r → r ≤ ((rpcMachine numbers).run .new acts).requests.issued →
      ((rpcMachine numbers).run .new acts).requests.completions r ≠ [] ∨
        Earlier (fun pre act => GaveUp ((rpcMachine numbers).run .new pre) act r) acts

theorem RpcState.Ok.routes (h : s.Ok) (act : RpcAct) : Routes numbers s act where
  once r := (h.next numbers act).table.once r
  own r := h.next_completions numbers act r
  reaches frame id request hact hid hwaits hkey := by
    subst hact
    have hstep : (rpcMachine numbers).step s (.frame (some frame)) = _ :=
      onMessageReceived_waiting numbers h hid hwaits hkey
    refine ⟨congrArg Prod.snd hstep, fun r => ?_⟩
    rw [Machine.next, hstep, h.table.answer_eq ((h.table.pending_iff id request).mpr ⟨hwaits, hkey⟩)]
    change Function.update (s.requests.withdraw request).completions request _ r = _
    rw [Promises.withdraw_completions, h.table.silent request (.inl hwaits), Function.update_apply]
    rfl
  exclusive request hconsumed frame hevent := by
    cases act with
    | frame decoded =>
      obtain ⟨_, request', _, -, -, -, -, hstep⟩ | hstep := onMessageReceived_cases numbers h decoded
      · rw [show (rpcMachine numbers).out s (.frame decoded) = [.consumed request'] from
          congrArg Prod.snd hstep] at hevent
        simp at hevent
      · rw [show (rpcMachine numbers).out s (.frame decoded) = decoded.elim [] s.addEvent from
          congrArg Prod.snd hstep] at hconsumed
        cases decoded with
        | none => cases hconsumed
        | some frame' =>
          rw [Option.elim_some, RpcState.addEvent] at hconsumed
          split at hconsumed <;> simp at hconsumed
    | connected | sendRequest | timeout | cleanupConnection | dispose => cases hconsumed
  broadcast eventName data now hact := by
    subst hact
    exact onMessageReceived_broadcast numbers h eventName data now

theorem nonePending_of_cleans (pre : List RpcAct) {act : RpcAct} (hcleans : act.cleans = true) :
    NonePending numbers (pre ++ [act]) := by
  have hrequests : ((rpcMachine numbers).run .new (pre ++ [act])).requests =
      ((rpcMachine numbers).run .new pre).requests.abort .connectionClosed := by
    rw [Machine.run_concat, requests_of_cleans numbers hcleans]
  constructor
  · rw [hrequests]
    rfl
  · intro r hpos hissued
    obtain hwaits | hover := request_fate numbers (pre ++ [act]) hpos hissued
    · rw [hrequests, ((RpcState.Ok.run numbers pre).table.abort_spec Completion.connectionClosed).2.2.2 r] at hwaits
      cases hwaits
    · exact hover

/-- Responses reach exactly their request, whatever order things happen in. -/
theorem responses_reach_their_request (numbers : DartNumbers) (acts : List RpcAct) :
    Along (fun pre act => Routes numbers ((rpcMachine numbers).run .new pre) act ∧
      (act.cleans = true → NonePending numbers (pre ++ [act]))) acts :=
  fun pre act _ _ => ⟨(RpcState.Ok.run numbers pre).routes numbers act, nonePending_of_cleans numbers pre⟩

end steps

section service

/-- How a completed completer looks. -/
def Completion.completer : Completion → Completer
  | .value _ => .completed
  | .serverError _ | .connectionClosed => .failed

/-- The completers as `WebSocketService` has them. That of a request that was given up is
never completed, and its caller has an error all the same. -/
def RpcState.completers (s : RpcState) (r : RequestID) : Completer :=
  if s.requests.keys r = none then .unused
  else if s.requests.waiting r then .pending
  else ((s.requests.completions r).head?.map Completion.completer).getD .failed

theorem Completer.completeError_of_ne {completer : Completer} (h : completer ≠ .pending) :
    completer.completeError = completer := by
  cases completer with
  | pending => exact absurd rfl h
  | unused | completed | failed => rfl

variable {s s' : RpcState} {r : RequestID}

theorem RpcState.Ok.completers_waiting (h : s.Ok) (hwaits : s.requests.waiting r = true) :
    s.completers r = .pending := by
  rw [RpcState.completers, if_neg (h.table.known r hwaits), if_pos hwaits]

theorem completers_ne_pending (hidle : s.requests.waiting r = false) : s.completers r ≠ .pending := by
  rw [RpcState.completers, hidle, if_neg Bool.false_ne_true]
  split
  · exact Completer.noConfusion
  · cases s.requests.completions r with
    | nil => exact Completer.noConfusion
    | cons completion _ => cases completion <;> exact Completer.noConfusion

/-- A request that is over shows its completion, and an error where it has none. -/
theorem completers_over (hknown : s.requests.keys r ≠ none) (hidle : s.requests.waiting r = false) :
    s.completers r = ((s.requests.completions r).head?.map Completion.completer).getD .failed := by
  rw [RpcState.completers, if_neg hknown, hidle, if_neg Bool.false_ne_true]

theorem completers_congr (hkeys : s'.requests.keys r = s.requests.keys r)
    (hwaiting : s'.requests.waiting r = s.requests.waiting r)
    (hcompletions : s'.requests.completions r = s.requests.completions r) :
    s'.completers r = s.completers r := by
  rw [RpcState.completers, RpcState.completers, hkeys, hwaiting, hcompletions]

theorem RpcState.Ok.completers_cleanupConnection (h : s.Ok) :
    s.cleanupConnection.completers = fun r => (s.completers r).completeError := by
  obtain ⟨hkeys, -, hcompletions, hidle⟩ := h.table.abort_spec Completion.connectionClosed
  funext r
  by_cases hwaits : s.requests.waiting r = true
  · have hknown : s.cleanupConnection.requests.keys r ≠ none := by
      rw [show s.cleanupConnection.requests.keys = s.requests.keys from hkeys]
      exact h.table.known r hwaits
    have hclosed : s.cleanupConnection.requests.completions r = [.connectionClosed] :=
      (hcompletions r).trans (if_pos hwaits)
    rw [completers_over hknown (hidle r), hclosed, h.completers_waiting hwaits]
    rfl
  · rw [Bool.not_eq_true] at hwaits
    rw [Completer.completeError_of_ne (completers_ne_pending hwaits)]
    refine completers_congr (congrFun hkeys r) ((hidle r).trans hwaits.symm) ((hcompletions r).trans ?_)
    rw [hwaits, if_neg Bool.false_ne_true]

theorem RpcState.Ok.completers_timeout (h : s.Ok) (request : RequestID) :
    (s.timeout request).completers =
      Function.update s.completers request (s.completers request).completeError := by
  by_cases hwaits : s.requests.waiting request = true
  · have hwaiting := h.table.withdraw_waiting request
    rw [h.completers_waiting hwaits, RpcState.timeout, if_pos hwaits]
    refine Function.eq_update_iff.mpr ⟨?_, fun r hr => ?_⟩
    · rw [completers_over]
      · simp only [RpcState.withdraw, Promises.withdraw_completions, h.table.silent request (.inl hwaits)]
        rfl
      · simp only [RpcState.withdraw, Promises.withdraw_keys]
        exact h.table.known request hwaits
      · simp only [RpcState.withdraw, hwaiting, Function.update_self]
    · refine completers_congr (congrFun (Promises.withdraw_keys request) r) ?_
        (congrFun (Promises.withdraw_completions request) r)
      exact (congrFun hwaiting r).trans (Function.update_of_ne hr _ _)
  · rw [RpcState.timeout, if_neg hwaits]
    rw [Bool.not_eq_true] at hwaits
    rw [Completer.completeError_of_ne (completers_ne_pending hwaits), Function.update_eq_self]

/-- A request that is answered. -/
theorem RpcState.Ok.completers_answered (h : s.Ok) {request : RequestID}
    (hwaits : s.requests.waiting request = true) (completion : Completion) :
    RpcState.completers { s with requests := (s.requests.withdraw request).complete request completion } =
      Function.update s.completers request completion.completer := by
  refine Function.eq_update_iff.mpr ⟨?_, fun r hr => ?_⟩
  · rw [completers_over]
    · simp only [Promises.complete, Function.update_self, Promises.withdraw_completions,
        h.table.silent request (.inl hwaits)]
      rfl
    · simp only [Promises.complete, Promises.withdraw_keys]
      exact h.table.known request hwaits
    · simp only [Promises.complete, Function.update_self]
  · refine completers_congr (congrFun (Promises.withdraw_keys request) r) ?_ ?_
    · exact (Function.update_of_ne hr _ _).trans
        ((congrFun (h.table.withdraw_waiting request) r).trans (Function.update_of_ne hr _ _))
    · exact (Function.update_of_ne hr _ _).trans (congrFun (Promises.withdraw_completions request) r)

/-- A frame is an answer to one request, or changes nothing for any. -/
theorem RpcState.Ok.completers_frame (h : s.Ok) (numbers : DartNumbers) (decoded : Option Json)
    {ws : WebSocketService} (hws : ws.requests = s.completers) :
    (s.onMessageReceived numbers decoded).1.completers = ws.requests ∨
      ∃ request ok, (s.onMessageReceived numbers decoded).1.completers = (ws.respond request ok).requests := by
  obtain ⟨frame, request, -, -, hwaits, -, -, hstep⟩ | hsame := onMessageReceived_cases numbers h decoded
  · right
    rw [hstep, h.completers_answered hwaits]
    have hpending : ws.requests request = .pending := by rw [hws, h.completers_waiting hwaits]
    cases outcome frame with
    | value frame =>
      refine ⟨request, true, ?_⟩
      simp [WebSocketService.respond, hpending, hws, Completion.completer, Completer.complete]
    | serverError frame | connectionClosed =>
      refine ⟨request, false, ?_⟩
      simp [WebSocketService.respond, hpending, hws, Completion.completer, Completer.completeError]
  · left
    rw [hsame, hws]

/-- A new request has a pending completer, and its caller an error at once where it
cannot be written. -/
theorem RpcState.Ok.completers_sendRequest (h : s.Ok) (milliseconds : Int) (written : Bool)
    (hchannel : s.channel = true) :
    (s.sendRequest milliseconds written).completers =
      Function.update s.completers (s.requests.issued + 1) (if written then .pending else .failed) := by
  have hsent : (s.issue milliseconds).completers =
      Function.update s.completers (s.requests.issued + 1) .pending := by
    refine Function.eq_update_iff.mpr ⟨?_, fun r hr => ?_⟩
    · simp [RpcState.completers, RpcState.issue, Promises.issue]
    · exact completers_congr (Function.update_of_ne hr _ _) (Function.update_of_ne hr _ _) rfl
  cases written with
  | true =>
    rw [RpcState.sendRequest, if_pos hchannel, if_pos rfl, if_pos rfl]
    exact hsent
  | false =>
    rw [sendRequest_unwritten hchannel, (h.issue milliseconds).completers_timeout, hsent, Function.update_self,
      Function.update_idem]
    rfl

/-- A step does to the completers what one of `WebSocketService` does: nothing, the answer
or the failure of one request, the end of the connection, or a new request. -/
theorem RpcState.Ok.next_completers (h : s.Ok) (numbers : DartNumbers) (act : RpcAct) {ws : WebSocketService}
    (hws : ws.requests = s.completers) :
    ((rpcMachine numbers).next s act).completers = ws.requests ∨
      (∃ request ok, ((rpcMachine numbers).next s act).completers = (ws.respond request ok).requests) ∨
      ((rpcMachine numbers).next s act).completers = ws.cleanupConnection.requests ∨
      ∃ request completer, ws.requests request = .unused ∧ (completer = .pending ∨ completer = .failed) ∧
        ((rpcMachine numbers).next s act).completers = Function.update ws.requests request completer := by
  cases act with
  | connected => exact .inl hws.symm
  | frame decoded =>
    obtain hsame | hanswered := h.completers_frame numbers decoded hws
    · exact .inl hsame
    · exact .inr (.inl hanswered)
  | timeout request =>
    refine .inr (.inl ⟨request, false, (h.completers_timeout request).trans ?_⟩)
    simp [WebSocketService.respond, hws]
  | cleanupConnection | dispose =>
    refine .inr (.inr (.inl (h.completers_cleanupConnection.trans ?_)))
    simp [WebSocketService.cleanupConnection, hws]
  | sendRequest milliseconds written =>
    by_cases hchannel : s.channel = true
    · refine .inr (.inr (.inr ⟨s.requests.issued + 1, if written then .pending else .failed, ?_, ?_, ?_⟩))
      · rw [hws, RpcState.completers, if_pos h.table.keys_next]
      · cases written with
        | true => exact .inl rfl
        | false => exact .inr rfl
      · rw [hws]
        exact h.completers_sendRequest milliseconds written hchannel
    · refine .inl (.trans ?_ hws.symm)
      change (s.sendRequest milliseconds written).completers = s.completers
      rw [RpcState.sendRequest, if_neg hchannel]

end service

end low_latency_voice.client

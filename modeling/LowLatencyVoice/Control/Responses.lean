import LowLatencyVoice.Control.Protocol
import LowLatencyVoice.Storage.Messages

open low_latency_voice.model low_latency_voice.storage

namespace low_latency_voice.control

/-- `model.Channel`. -/
structure StoredChannel where
  id : UInt32
  row : ChannelRow
  deriving DecidableEq, Repr

/-- The member type of `get_roster`. -/
structure RosterMember where
  userID : UInt32
  username : String
  roles : List String
  isAdmin : Bool
  online : Bool
  voiceChannelID : Option UInt32
  voiceState : Option VoiceState
  deriving DecidableEq, Repr

/-- What the responses hold as an `interface{}`: a part of the request, or a value of the
server. A map has its entries in the order in which `range` visits them. -/
inductive Value where
  | decoded (doc : Json)
  | bool (b : Bool)
  | int (n : Int)
  | uint32 (n : UInt32)
  | uint64 (n : Nat)
  | string (s : String)
  | token (t : Token)
  | strings (ss : List String)
  | channel (ch : StoredChannel)
  | channels (chs : List StoredChannel)
  | messages (ms : List Message)
  | members (ms : List RosterMember)
  | detail (code : Int) (message : String)
  | map (entries : List (String × Value))

/-- `ErrorResponse`. -/
structure ErrorResponse where
  id : Json
  status : String
  action : String
  requestID : String
  code : Int
  message : String

/-- What `SendJSON` gets. -/
inductive Response where
  | success (fields : GoMap String Value)
  | error (response : ErrorResponse)

/-- `id.(string)`, empty for any other type. -/
def idString : Json → String
  | .string s => s
  | _ => ""

/-- `NewErrorResponse`. -/
def newErrorResponse (id : Json) (action : String) (code : Int) (message : String) : ErrorResponse where
  id
  status := "error"
  action
  requestID := idString id
  code
  message

/-- The map `NewSuccessResponse` starts with. -/
def successEnvelope (id : Json) (action : String) (payload : Value) : GoMap String Value :=
  let reqIDStr := idString id
  let resp := GoMap.ofList [("id", .decoded id), ("status", .string "ok"), ("action", .string action),
    ("result", payload), ("data", payload)]
  if reqIDStr ≠ "" then resp.set "request_id" (.string reqIDStr) else resp

/-- The loop that puts entries at the top level, where the key is free. -/
def flatten (resp : GoMap String Value) (entries : List (String × Value)) : GoMap String Value :=
  entries.foldl (fun resp entry =>
    if (resp.get? entry.1).isSome then resp else resp.set entry.1 entry.2) resp

/-- `NewSuccessResponse`. -/
def newSuccessResponse (id : Json) (action : String) (payload : Value) : GoMap String Value :=
  match payload with
  | .map entries => flatten (successEnvelope id action payload) entries
  | _ => successEnvelope id action payload

/-- A string field that is left out when it is empty. -/
def omitEmpty (key s : String) : List (String × Value) := if s = "" then [] else [(key, .string s)]

/-- The members of the JSON object. -/
def ErrorResponse.members (e : ErrorResponse) : List (String × Value) :=
  [("id", .decoded e.id), ("status", .string e.status)] ++ omitEmpty "action" e.action ++
    omitEmpty "request_id" e.requestID ++ [("error", .detail e.code e.message)]

/-- A top-level field of the JSON object. -/
def Response.field (r : Response) (key : String) : Option Value :=
  match r with
  | .success fields => fields.get? key
  | .error e => e.members.lookup key

/-- What is there stays, and the first entry of a name that is not there comes in. -/
theorem get?_flatten (resp : GoMap String Value) (entries : List (String × Value)) (key : String) :
    (flatten resp entries).get? key = (resp.get? key).or (entries.lookup key) := by
  induction entries generalizing resp with
  | nil => simp [flatten]
  | cons entry rest ih =>
    obtain ⟨name, value⟩ := entry
    have hstep : flatten resp ((name, value) :: rest) =
        flatten (if (resp.get? name).isSome then resp else resp.set name value) rest := rfl
    rw [hstep, ih, List.lookup_cons]
    by_cases hkey : key = name
    · subst hkey
      cases hthere : resp.get? key with
      | none => simp
      | some v => simp [hthere]
    · have hother : (key == name) = false := beq_eq_false_iff_ne.mpr hkey
      rw [hother]
      cases resp.get? name with
      | none => simp [hkey]
      | some v => simp

/-- No payload overwrites a field of the envelope. -/
theorem get?_newSuccessResponse {id : Json} {action : String} {payload value : Value} {key : String}
    (h : (successEnvelope id action payload).get? key = some value) :
    (newSuccessResponse id action payload).get? key = some value := by
  unfold newSuccessResponse
  split
  · rw [get?_flatten, h]
    rfl
  · exact h

section envelope

variable (id : Json) (action : String) (payload : Value)

theorem successEnvelope_id : (successEnvelope id action payload).get? "id" = some (.decoded id) := by
  unfold successEnvelope
  simp only
  split <;> simp [GoMap.get?_ofList, List.lookup_cons]

theorem successEnvelope_status : (successEnvelope id action payload).get? "status" = some (.string "ok") := by
  unfold successEnvelope
  simp only
  split <;> simp [GoMap.get?_ofList, List.lookup_cons]

theorem successEnvelope_action : (successEnvelope id action payload).get? "action" = some (.string action) := by
  unfold successEnvelope
  simp only
  split <;> simp [GoMap.get?_ofList, List.lookup_cons]

theorem successEnvelope_requestID :
    (successEnvelope id action payload).get? "request_id" =
      (omitEmpty "request_id" (idString id)).lookup "request_id" := by
  unfold successEnvelope omitEmpty
  simp only
  split
  · simp
  · rename_i h
    simp [not_not.mp h, GoMap.get?_ofList, List.lookup_cons]

end envelope

/-- The response answers the request of this id, in this way. An empty action and an id
that is no string leave their fields out. -/
structure Response.Answers (r : Response) (id : Json) (status action : String) : Prop where
  hasID : r.field "id" = some (.decoded id)
  hasStatus : r.field "status" = some (.string status)
  hasAction : r.field "action" = (omitEmpty "action" action).lookup "action"
  hasRequestID : r.field "request_id" = (omitEmpty "request_id" (idString id)).lookup "request_id"

theorem answers_newErrorResponse (id : Json) (action : String) (code : Int) (message : String) :
    (Response.error (newErrorResponse id action code message)).Answers id "error" action where
  hasID := rfl
  hasStatus := rfl
  hasAction := by
    by_cases haction : action = "" <;> by_cases hid : idString id = "" <;>
      simp [Response.field, ErrorResponse.members, newErrorResponse, omitEmpty, haction, hid, List.lookup_cons]
  hasRequestID := by
    by_cases haction : action = "" <;> by_cases hid : idString id = "" <;>
      simp [Response.field, ErrorResponse.members, newErrorResponse, omitEmpty, haction, hid, List.lookup_cons]

theorem answers_newSuccessResponse (id : Json) {action : String} (haction : action ≠ "")
    {entries : List (String × Value)} (hentries : entries.lookup "request_id" = none) :
    (Response.success (newSuccessResponse id action (.map entries))).Answers id "ok" action where
  hasID := get?_newSuccessResponse (successEnvelope_id id action _)
  hasStatus := get?_newSuccessResponse (successEnvelope_status id action _)
  hasAction := by
    rw [omitEmpty, if_neg haction]
    exact get?_newSuccessResponse (successEnvelope_action id action _)
  hasRequestID := by
    change (flatten (successEnvelope id action (.map entries)) entries).get? "request_id" = _
    rw [get?_flatten, successEnvelope_requestID, hentries, Option.or_none]

end low_latency_voice.control

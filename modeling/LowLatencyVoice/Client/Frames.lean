import LowLatencyVoice.Lib.Json
import LowLatencyVoice.Control.Broadcast

open low_latency_voice.control

namespace low_latency_voice.client

section texts

/-- `toString` of the numbers `json.decode` makes: digits, with a sign, a point or an
exponent. -/
structure DartNumbers where
  text : Json → String
  head : ∀ n, (text n).toList.head? ≠ some 'r'

instance : Inhabited DartNumbers := ⟨⟨fun _ => "0", fun _ => by decide⟩⟩

mutual

/-- `toString` of a decoded value. -/
def toText (numbers : DartNumbers) : Json → String
  | .null => "null"
  | .bool b => if b then "true" else "false"
  | .integer negative digits => numbers.text (.integer negative digits)
  | .real text => numbers.text (.real text)
  | .string s => s
  | .array items => "[" ++ itemsText numbers items ++ "]"
  | .object members => "\x7b" ++ membersText numbers members ++ "\x7d"

def itemsText (numbers : DartNumbers) : List Json → String
  | [] => ""
  | [item] => toText numbers item
  | item :: items => toText numbers item ++ ", " ++ itemsText numbers items

def membersText (numbers : DartNumbers) : List (String × Json) → String
  | [] => ""
  | [member] => member.1 ++ ": " ++ toText numbers member.2
  | member :: members => member.1 ++ ": " ++ toText numbers member.2 ++ ", " ++ membersText numbers members

end

/-- The id of a request, from the counter and the clock. -/
def requestId (counter : Nat) (milliseconds : Int) : String :=
  "req_" ++ Nat.repr counter ++ "_" ++ Int.repr milliseconds

/-- The counter alone tells the ids apart. -/
theorem requestId_counter {counter counter' : Nat} {milliseconds milliseconds' : Int}
    (h : requestId counter milliseconds = requestId counter' milliseconds') : counter = counter' := by
  have hdigits : ∀ (n : Nat) (ms : Int),
      ((requestId n ms).toList.drop 4).takeWhile (· ≠ '_') = Nat.toDigits 10 n := by
    intro n ms
    have hall : ∀ c ∈ Nat.toDigits 10 n, decide (c ≠ '_') = true := by
      intro c hc
      have hne : c ≠ '_' := fun heq => Nat.underscore_not_in_toDigits (heq ▸ hc)
      simpa using hne
    have htext : (requestId n ms).toList =
        "req_".toList ++ (Nat.toDigits 10 n ++ '_' :: (Int.repr ms).toList) := by
      simp [requestId, String.toList_append, Nat.toList_repr]
    rw [htext, List.drop_left' (by decide), List.takeWhile_append_of_pos hall]
    simp
  have hsame : Nat.toDigits 10 counter = Nat.toDigits 10 counter' := by
    rw [← hdigits counter milliseconds, ← hdigits counter' milliseconds', h]
  rw [← Nat.ofDigitChars_ten_toDigits (n := counter), hsame, Nat.ofDigitChars_ten_toDigits]

/-- Nothing but the string itself reads as the id of a request. -/
theorem eq_of_toText_eq_requestId (numbers : DartNumbers) {value : Json} {counter : Nat} {milliseconds : Int}
    (h : toText numbers value = requestId counter milliseconds) :
    value = .string (requestId counter milliseconds) := by
  have hhead : (toText numbers value).toList.head? = some 'r' := by
    rw [h]
    simp [requestId, String.toList_append]
  cases value with
  | null => simp [toText] at hhead
  | bool b => cases b <;> simp [toText] at hhead
  | integer negative digits => exact absurd hhead (numbers.head _)
  | real text => exact absurd hhead (numbers.head _)
  | string s => rw [← h]; rfl
  | array items => simp [toText, String.toList_append] at hhead
  | object members => simp [toText, String.toList_append] at hhead

end texts

section frames

/-- A member of a decoded object that is not null. -/
def present (frame : Json) (key : String) : Option Json :=
  match frame.members.reverse.lookup key with
  | some .null => none
  | value => value

/-- The id a frame answers to: its `request_id`, or else its `id`. -/
def responseId (numbers : DartNumbers) (frame : Json) : Option String :=
  ((present frame "request_id").map (toText numbers)) <|> ((present frame "id").map (toText numbers))

/-- How the completer of a request is completed. -/
inductive Completion where
  | value (frame : Json)
  | serverError (frame : Json)
  | connectionClosed

/-- A response completes its request with its error, or with itself. -/
def outcome (frame : Json) : Completion :=
  match present frame "error" with
  | some _ => .serverError frame
  | none => .value frame

/-- One of the two id members of the frame is the string. -/
def Answers (frame : Json) (id : String) : Prop :=
  ∃ key ∈ ["request_id", "id"], frame.members.reverse.lookup key = some (.string id)

theorem answers_of_responseId {numbers : DartNumbers} {frame : Json} {counter : Nat} {milliseconds : Int}
    (h : responseId numbers frame = some (requestId counter milliseconds)) :
    Answers frame (requestId counter milliseconds) := by
  have hpresent : ∀ {key : String} {value : Json}, present frame key = some value →
      frame.members.reverse.lookup key = some value := by
    intro key value hvalue
    unfold present at hvalue
    split at hvalue
    · cases hvalue
    · exact hvalue
  have hmember : ∀ {key : String},
      (present frame key).map (toText numbers) = some (requestId counter milliseconds) →
        frame.members.reverse.lookup key = some (.string (requestId counter milliseconds)) := by
    intro key hmap
    obtain ⟨value, hvalue, htext⟩ := Option.map_eq_some_iff.mp hmap
    rw [hpresent hvalue, eq_of_toText_eq_requestId numbers htext]
  unfold responseId at h
  cases hfirst : (present frame "request_id").map (toText numbers) with
  | some text =>
    rw [hfirst] at h
    obtain rfl := Option.some.inj h
    exact ⟨"request_id", by simp, hmember hfirst⟩
  | none =>
    rw [hfirst] at h
    exact ⟨"id", by simp, hmember h⟩

/-- `NewBroadcastPayload`: the data is there as a whole, and its members once more at top
level where the envelope has no member of the name. -/
def newBroadcastPayload (eventName : String) (data : List (String × Json)) (now : Nat) : Json :=
  .object ([("event", .string eventName), ("data", .object data), ("timestamp", .integer false now)] ++
    data.filter fun member => member.1 ≠ "event" ∧ member.1 ≠ "data" ∧ member.1 ≠ "timestamp")

/-- The data of a broadcast: it names no request, and an `id` of its own is a number. -/
structure BroadcastData where
  members : List (String × Json)
  no_request : ∀ member ∈ members, member.1 ≠ "request_id"
  numeric_id : ∀ member ∈ members, member.1 = "id" →
    (∃ negative digits, member.2 = .integer negative digits) ∨ ∃ text, member.2 = .real text

/-- A member the server leaves out in some updates. -/
def optionalMember (key : String) (value : Option Json) : List (String × Json) :=
  (value.map fun v => (key, v)).toList

def natNumber (n : Nat) : Json := .integer false n

/-- The data the server broadcasts an event with, as far as its listeners read it. The
members nobody reads have other names. -/
def eventData : Event → List (String × Json)
  | .memberJoined userID username => [("user_id", natNumber userID.toNat), ("username", .string username)]
  | .presenceUpdate userID username online =>
    [("user_id", natNumber userID.toNat), ("username", .string username), ("online", .bool online)]
  | .channelCreated channelID => [("channel", .object [("id", natNumber channelID.toNat)])]
  | .channelDeleted channelID => [("channel_id", natNumber channelID.toNat)]
  | .chatMessage messageID channelID senderID senderName content =>
    [("id", natNumber messageID), ("channel_id", natNumber channelID.toNat),
      ("sender_id", natNumber senderID.toNat), ("sender_name", .string senderName), ("content", .string content)]
  | .voiceStateUpdate update =>
    [("user_id", natNumber update.userID.toNat)] ++
      optionalMember "username" (update.username.map Json.string) ++
      optionalMember "channel_id" (update.channelID.map fun channelID =>
        (channelID.map fun c => natNumber c.toNat).getD .null) ++
      optionalMember "speaking" (update.speaking.map Json.bool) ++
      optionalMember "is_speaking" (update.isSpeaking.map Json.bool) ++
      optionalMember "energy" (update.energy.map fun energy => natNumber energy.toNat) ++
      optionalMember "self_muted" (update.selfMuted.map Json.bool) ++
      optionalMember "self_deafened" (update.selfDeafened.map Json.bool) ++
      optionalMember "server_muted" (update.serverMuted.map Json.bool) ++
      optionalMember "server_deafened" (update.serverDeafened.map Json.bool)
  | .memberMoved userID fromChannelID toChannelID =>
    [("user_id", natNumber userID.toNat), ("from_channel_id", natNumber fromChannelID.toNat),
      ("to_channel_id", natNumber toChannelID.toNat)]
  | .memberKicked userID reason => [("user_id", natNumber userID.toNat), ("reason", .string reason)]

theorem optionalMember_key {key : String} {value : Option Json} {member : String × Json}
    (h : member ∈ optionalMember key value) : member.1 = key := by
  cases value with
  | none => cases h
  | some v =>
    obtain rfl : member = (key, v) := by simpa [optionalMember] using h
    rfl

/-- Of the names the server gives, only that of a chat message is `id`, and it is a number. -/
theorem eventData_key {event : Event} {member : String × Json} (h : member ∈ eventData event) :
    member.1 ≠ "request_id" ∧ (member.1 = "id" → ∃ n, member.2 = natNumber n) := by
  cases event with
  | voiceStateUpdate update =>
    have hkey : member.1 ∈ ["user_id", "username", "channel_id", "speaking", "is_speaking", "energy",
        "self_muted", "self_deafened", "server_muted", "server_deafened"] := by
      simp only [eventData, List.mem_append] at h
      rcases h with ((((((((h | h) | h) | h) | h) | h) | h) | h) | h) | h
      · obtain rfl := List.mem_singleton.mp h
        simp
      all_goals simp [optionalMember_key h]
    constructor
    · intro hrequest
      rw [hrequest] at hkey
      exact absurd hkey (by decide)
    · intro hid
      rw [hid] at hkey
      exact absurd hkey (by decide)
  | chatMessage messageID channelID senderID senderName content =>
    simp only [eventData, List.mem_cons, List.not_mem_nil, or_false] at h
    rcases h with rfl | rfl | rfl | rfl | rfl <;> simp
  | memberMoved userID fromChannelID toChannelID =>
    simp only [eventData, List.mem_cons, List.not_mem_nil, or_false] at h
    rcases h with rfl | rfl | rfl <;> simp
  | presenceUpdate userID username online =>
    simp only [eventData, List.mem_cons, List.not_mem_nil, or_false] at h
    rcases h with rfl | rfl | rfl <;> simp
  | memberJoined userID username =>
    simp only [eventData, List.mem_cons, List.not_mem_nil, or_false] at h
    rcases h with rfl | rfl <;> simp
  | memberKicked userID reason =>
    simp only [eventData, List.mem_cons, List.not_mem_nil, or_false] at h
    rcases h with rfl | rfl <;> simp
  | channelCreated channelID =>
    obtain rfl := List.mem_singleton.mp h
    simp
  | channelDeleted channelID =>
    obtain rfl := List.mem_singleton.mp h
    simp

/-- What the server broadcasts is broadcast data. -/
def broadcastData (event : Event) : BroadcastData where
  members := eventData event
  no_request _ h := (eventData_key h).1
  numeric_id _ h hid := .inl (((eventData_key h).2 hid).imp' (fun _ => false) fun n hn => ⟨n, hn⟩)

theorem mem_of_lookup {members : List (String × Json)} {key : String} {value : Json}
    (h : members.reverse.lookup key = some value) : (key, value) ∈ members := by
  obtain ⟨front, back, hsplit, -⟩ := List.lookup_eq_some_iff.mp h
  rw [← List.mem_reverse, hsplit]
  simp

theorem lookup_event (eventName : String) (data : List (String × Json)) (now : Nat) :
    (newBroadcastPayload eventName data now).members.reverse.lookup "event" = some (.string eventName) := by
  refine List.lookup_eq_some_iff.mpr ⟨(("data", Json.object data) :: ("timestamp", .integer false now) ::
    data.filter fun member => member.1 ≠ "event" ∧ member.1 ≠ "data" ∧ member.1 ≠ "timestamp").reverse,
      [], ?_, ?_⟩
  · simp [newBroadcastPayload, Json.members]
  · intro member hmember
    rw [List.mem_reverse] at hmember
    have hother : member.1 ≠ "event" := by
      rcases List.mem_cons.mp hmember with rfl | hmember
      · simp
      · rcases List.mem_cons.mp hmember with rfl | hmember
        · simp
        · have hkept := (List.mem_filter.mp hmember).2
          simp only [decide_eq_true_eq] at hkept
          exact hkept.1
    simpa using Ne.symm hother

/-- No broadcast answers a request. -/
theorem BroadcastData.not_answers (data : BroadcastData) (eventName : String) (now : Nat) (counter : Nat)
    (milliseconds : Int) :
    ¬ Answers (newBroadcastPayload eventName data.members now) (requestId counter milliseconds) := by
  rintro ⟨key, hkey, hlookup⟩
  have hmem := mem_of_lookup hlookup
  have hdata : (key, Json.string (requestId counter milliseconds)) ∈ data.members := by
    obtain henvelope | hfilter := List.mem_append.mp hmem
    · rcases List.mem_cons.mp hkey with rfl | hid
      · simp at henvelope
      · obtain rfl := List.mem_singleton.mp hid
        simp at henvelope
    · exact (List.mem_filter.mp hfilter).1
  rcases List.mem_cons.mp hkey with rfl | hid
  · exact data.no_request _ hdata rfl
  · obtain rfl := List.mem_singleton.mp hid
    obtain ⟨negative, digits, heq⟩ | ⟨text, heq⟩ := data.numeric_id _ hdata rfl
    · cases heq
    · cases heq

end frames

end low_latency_voice.client

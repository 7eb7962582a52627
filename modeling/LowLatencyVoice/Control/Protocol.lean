import Mathlib.Algebra.Group.Int.Defs
import LowLatencyVoice.Lib.Json
import LowLatencyVoice.Control.Handler

namespace low_latency_voice.control

/-- What `encoding/json` and the conversions of a float64 bring: the parser, the folding
of member names, what `int` makes of a number with a fraction or an exponent (none if it
is no float64), and of a float64 that no `int` is equal to. -/
structure JsonLibrary where
  trimSpace : String → String
  toLower : String → String
  parse : GoBytes → Option Json
  foldName : String → String
  real : String → Option Int64
  huge : Int → Int64

/-- The types of the fields of `RequestEnvelope`. -/
inductive FieldType where
  | any
  | string
  | params
  | uint (bits : Nat)
  | int
  | bool
  deriving DecidableEq, Repr

/-- The tags of `RequestEnvelope`. -/
def RequestEnvelope.fieldTypes : List (String × FieldType) :=
  [("id", .any), ("action", .string), ("request_id", .string), ("params", .params), ("token", .string),
    ("username", .string), ("password", .string), ("client_version", .string), ("channel_id", .uint 32),
    ("content", .string), ("before_id", .uint 64), ("limit", .int), ("name", .string), ("type", .string),
    ("category", .string), ("position", .int), ("bitrate", .int), ("user_limit", .int),
    ("self_muted", .bool), ("self_deafened", .bool), ("target_user_id", .uint 32),
    ("to_channel_id", .uint 32), ("muted", .bool), ("deafened", .bool), ("reason", .string)]

namespace JsonLibrary

variable (json : JsonLibrary)

/-- `int(f)` of the float64 a literal reads as. -/
def int (negative : Bool) (digits : Nat) : Option Int64 :=
  (Float64.ofLiteral negative digits).map fun f =>
    if -2 ^ 63 ≤ f ∧ f < 2 ^ 63 then Int64.ofInt f else json.huge f

/-- A number that `interface{}` can hold. -/
def isFloat64 : Json → Bool
  | .integer negative digits => (Float64.ofLiteral negative digits).isSome
  | .real text => (json.real text).isSome
  | _ => true

/-- A value as the handlers see it in a `map[string]interface{}`. What does not decode
is nil there. -/
def toInterface : Json → JsonValue
  | .bool b => .bool b
  | .integer negative digits => ((json.int negative digits).map JsonValue.number).getD .other
  | .real text => ((json.real text).map JsonValue.number).getD .other
  | .string s => .string s
  | _ => .other

/-- A `map[string]interface{}`: the last of two members of one name counts. -/
def toMap (members : List (String × Json)) : Params :=
  GoMap.ofList (members.map fun member => (member.1, json.toInterface member.2))

/-- The field a member is for: its tag exactly, or up to case. -/
def fieldOf (name : String) : Option (String × FieldType) :=
  (RequestEnvelope.fieldTypes.find? fun field => field.1 = name) <|>
    RequestEnvelope.fieldTypes.find? fun field => json.foldName field.1 = json.foldName name

/-- The value decodes into a field of the type. -/
def fits : FieldType → Json → Bool
  | _, .null => true
  | .any, value => value.numbersMeet json.isFloat64
  | .string, .string _ => true
  | .params, .object members => Json.membersMeet json.isFloat64 members
  | .uint bits, .integer negative digits => !negative && decide (digits < 2 ^ bits)
  | .int, .integer negative digits => if negative then decide (digits ≤ 2 ^ 63) else decide (digits < 2 ^ 63)
  | .bool, .bool _ => true
  | _, _ => false

/-- The values of the members that are for a field, in order. -/
def valuesOf (field : String) (members : List (String × Json)) : List Json :=
  (members.filter fun member => (json.fieldOf member.1).map Prod.fst = some field).map Prod.snd

/-- A string field. null leaves it. -/
def stringOf (values : List Json) : String :=
  values.foldl (fun s value => match value with | .string s => s | _ => s) ""

/-- The members of `params`. A second object adds to the first, null takes it back. -/
def paramsOf (values : List Json) : Option (List (String × Json)) :=
  values.foldl (fun params value => match value with
    | .object members => some (params.getD [] ++ members)
    | _ => none) none

/-- The members the handlers get their parameters from. -/
def parametersOf (members : List (String × Json)) : List (String × Json) :=
  (paramsOf (json.valuesOf "params" members)).getD members

/-- Every member that is for a field decodes into it. -/
def decodes (members : List (String × Json)) : Bool :=
  members.all fun member => (json.fieldOf member.1).all fun field => json.fits field.2 member.2

/-- What the two calls of `json.Unmarshal` make of an object. -/
def envelope (members : List (String × Json)) : RequestEnvelope where
  action := stringOf (json.valuesOf "action" members)
  params := (paramsOf (json.valuesOf "params" members)).map json.toMap
  fields := json.toMap members

def unmarshal : Json → Option RequestEnvelope
  | .null => some ⟨"", none, ∅⟩
  | .object members => if json.decodes members then some (json.envelope members) else none
  | _ => none

/-- The library of the handlers. -/
def go : GoLibrary where
  trimSpace := json.trimSpace
  toLower := json.toLower
  unmarshal raw := (json.parse raw).bind json.unmarshal

theorem unmarshal_object {members : List (String × Json)} (h : json.decodes members = true) :
    json.unmarshal (.object members) = some (json.envelope members) := if_pos h

theorem unmarshal_go {raw : GoBytes} {doc : Json} (h : json.parse raw = some doc) :
    json.go.unmarshal raw = json.unmarshal doc := by
  change (json.parse raw).bind json.unmarshal = json.unmarshal doc
  rw [h]
  rfl

theorem get?_toMap (key : String) (members : List (String × Json)) :
    (json.toMap members).get? key = (members.reverse.lookup key).map json.toInterface := by
  rw [toMap, GoMap.get?_ofList, ← List.map_reverse]
  induction members.reverse with
  | nil => rfl
  | cons member rest ih =>
    rw [List.map_cons, List.lookup_cons, List.lookup_cons, ih]
    cases key == member.1 <;> rfl

/-- The parameters of a frame are those of its `params`, or else its own members. -/
theorem get?_parameters {doc : Json} {env : RequestEnvelope} (h : json.unmarshal doc = some env)
    (key : String) :
    (env.params.getD env.fields).get? key =
      ((json.parametersOf doc.members).reverse.lookup key).map json.toInterface := by
  have hmap : ∀ members, (json.toMap members).get? key = (members.reverse.lookup key).map json.toInterface :=
    json.get?_toMap key
  cases doc with
  | null =>
    obtain rfl := Option.some.inj h
    exact GoMap.get?_empty key
  | object members =>
    change (if json.decodes members then some (json.envelope members) else none) = some env at h
    split at h
    · obtain rfl := Option.some.inj h
      change (((paramsOf (json.valuesOf "params" members)).map json.toMap).getD (json.toMap members)).get? key =
        (((paramsOf (json.valuesOf "params" members)).getD members).reverse.lookup key).map json.toInterface
      cases paramsOf (json.valuesOf "params" members) <;> exact hmap _
    · cases h
  | _ => cases h

end JsonLibrary

end low_latency_voice.control

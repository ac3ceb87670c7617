import EdgeRouting.Resource.Fields
import EdgeRouting.Text.Blank

/-!
# The types of the other fields

The fields of the cluster's API, version 1.33, that routing does not read.
-/

namespace EdgeRouting

namespace FieldType

def text : Json → Bool
  | .string _ => true
  | _ => false

def switch : Json → Bool
  | .bool _ => true
  | _ => false

def int32 (json : Json) : Bool := json.int32?.isSome

def int64 : Json → Bool
  | .integer value => -0x8000000000000000 ≤ value ∧ value < 0x8000000000000000
  | _ => false

def list (item : Json → Bool) : Json → Bool
  | .array items => items.all item
  | _ => false

def texts : Json → Bool := list text

def map (value : Json → Bool) : Json → Bool
  | .object members => members.all fun member => value member.2
  | _ => false

/-- A record with these fields, each of which may be missing or null; it may have others. -/
def record (fields : List (String × (Json → Bool))) : Json → Bool
  | .object members => members.all fun member =>
      match KeyMap.findEntry member.1 fields, member.2 with
      | none, _ => true
      | some _, .null => true
      | some holds, json => holds json
  | _ => false

/-! ### Points in time -/

/-- A number of at most so many digits, and the text behind it. -/
def digits? (width : Nat) (text : List Char) : Option (Nat × List Char) :=
  let digits := (text.take width).takeWhile Numeral.isDigit
  if digits.isEmpty then none else some (Numeral.ofDigits digits, text.drop digits.length)

def skipBlank (text : List Char) : List Char := text.dropWhile Text.isBlank

/-- A part of a date or time, which may have blanks before it. -/
def part? (text : List Char) : Option (Nat × List Char) := digits? 2 (skipBlank text)

/-- Four digits at most, unless there is a sign. -/
def year? (text : List Char) : Option (Int × List Char) :=
  match skipBlank text with
  | '-' :: rest => (digits? rest.length rest).map fun (year, rest) => (-(year : Int), rest)
  | '+' :: rest => (digits? rest.length rest).map fun (year, rest) => ((year : Int), rest)
  | text => (digits? 4 text).map fun (year, rest) => ((year : Int), rest)

/-- The text behind a mark, which may have blanks before it. -/
def mark? (mark : Char) (text : List Char) : Option (List Char) :=
  match skipBlank text with
  | c :: rest => if c = mark then some rest else none
  | [] => none

def daysOfMonth (year : Int) (month : Nat) : Nat :=
  if month = 2 then
    if year % 4 = 0 ∧ (year % 100 ≠ 0 ∨ year % 400 = 0) then 29 else 28
  else if [4, 6, 9, 11].contains month then 30
  else 31

/-- The text behind a date. -/
def behindDate? (text : List Char) : Option (List Char) := do
  let (year, rest) ← year? text
  let (month, rest) ← part? (← mark? '-' rest)
  let (day, rest) ← part? (← mark? '-' rest)
  if -262143 ≤ year ∧ year ≤ 262142 ∧ 1 ≤ month ∧ month ≤ 12 ∧
      1 ≤ day ∧ day ≤ daysOfMonth year month then
    return rest
  else none

/-- The text behind fractions of a second, which may be missing. -/
def behindFraction? : List Char → Option (List Char)
  | '.' :: rest => if (digits? 1 rest).isSome then some (rest.dropWhile Numeral.isDigit) else none
  | text => some text

/-- The text behind a time of day, which may be a leap second. -/
def behindTime? (text : List Char) : Option (List Char) := do
  let (hour, rest) ← part? text
  let (minute, rest) ← part? (← mark? ':' rest)
  let (second, rest) ← part? (← mark? ':' rest)
  if hour < 24 ∧ minute < 60 ∧ second ≤ 60 then behindFraction? rest else none

/-- The text behind hours and minutes of two digits each. -/
def behindShift? : List Char → Option (List Char)
  | h :: i :: rest =>
      match rest.dropWhile fun c => c = ':' || Text.isBlank c with
      | m :: n :: rest =>
          if [h, i, m, n].all Numeral.isDigit ∧ Numeral.ofDigits [h, i] < 24 ∧
              Numeral.ofDigits [m, n] < 60 then
            some rest
          else none
      | _ => none
  | _ => none

/-- The text behind the offset from universal time. -/
def behindOffset? : List Char → Option (List Char)
  | 'Z' :: rest | 'z' :: rest => some rest
  | '+' :: rest | '-' :: rest | '\u2212' :: rest => behindShift? rest
  | text => if (text.take 3).map Char.toUpper = ['U', 'T', 'C'] then some (text.drop 3) else none

/-- A date and a time, as in `2025-02-28T12:30:00Z`, with blanks between their parts. -/
def isTime (text : List Char) : Bool :=
  let rest? : Option (List Char) := do
    match ← behindDate? text with
    | 'T' :: rest | 't' :: rest | ' ' :: rest =>
        behindOffset? (skipBlank (← behindTime? rest))
    | _ => none
  rest?.any fun rest => rest.all Text.isBlank

def time : Json → Bool
  | .string value => isTime value.toList
  | _ => false

/-! ### Records within records -/

def ownerReference : Json → Bool :=
  record [("apiVersion", text), ("blockOwnerDeletion", switch), ("controller", switch),
    ("kind", text), ("name", text), ("uid", text)]

/-- Which fields a manager manages may be said in any way. -/
def managedFields : Json → Bool :=
  record [("apiVersion", text), ("fieldsType", text), ("manager", text), ("operation", text),
    ("subresource", text), ("time", time)]

def objectReference : Json → Bool :=
  record [("apiVersion", text), ("fieldPath", text), ("kind", text), ("name", text),
    ("namespace", text), ("resourceVersion", text), ("uid", text)]

def condition : Json → Bool :=
  record [("lastTransitionTime", time), ("message", text), ("observedGeneration", int64),
    ("reason", text), ("status", text), ("type", text)]

def namespaceCondition : Json → Bool :=
  record [("lastTransitionTime", time), ("message", text), ("reason", text), ("status", text),
    ("type", text)]

def portStatus : Json → Bool := record [("error", text), ("port", int32), ("protocol", text)]

def loadBalancerIngress : Json → Bool :=
  record [("hostname", text), ("ip", text), ("ipMode", text), ("ports", list portStatus)]

def endpointPort : Json → Bool :=
  record [("appProtocol", text), ("name", text), ("port", int32), ("protocol", text)]

end FieldType

open FieldType

/-- The fields of a type that routing does not read. -/
def RecordType.otherFields : RecordType → List (String × (Json → Bool))
  | metadata =>
      [("creationTimestamp", time), ("deletionGracePeriodSeconds", int64),
        ("deletionTimestamp", time), ("finalizers", texts), ("generateName", text),
        ("generation", int64), ("managedFields", list managedFields),
        ("ownerReferences", list ownerReference), ("resourceVersion", text),
        ("selfLink", text), ("uid", text)]
  | secret => [("immutable", switch), ("stringData", map text), ("type", text)]
  | service =>
      [("status", record
        [("conditions", list condition),
          ("loadBalancer", record [("ingress", list loadBalancerIngress)])])]
  | serviceSpec =>
      [("allocateLoadBalancerNodePorts", switch), ("clusterIP", text), ("clusterIPs", texts),
        ("externalIPs", texts), ("externalTrafficPolicy", text), ("healthCheckNodePort", int32),
        ("internalTrafficPolicy", text), ("ipFamilies", texts), ("ipFamilyPolicy", text),
        ("loadBalancerClass", text), ("loadBalancerIP", text),
        ("loadBalancerSourceRanges", texts), ("publishNotReadyAddresses", switch),
        ("selector", map text), ("sessionAffinity", text),
        ("sessionAffinityConfig", record [("clientIP", record [("timeoutSeconds", int32)])]),
        ("trafficDistribution", text)]
  | servicePort => [("appProtocol", text), ("nodePort", int32), ("protocol", text)]
  | endpoints => []
  | endpointSubset => [("ports", list endpointPort)]
  | endpointAddress =>
      [("hostname", text), ("nodeName", text), ("targetRef", objectReference)]
  | nameSpace =>
      [("spec", record [("finalizers", texts)]),
        ("status", record [("conditions", list namespaceCondition), ("phase", text)])]

instance : FieldTypes where
  admits type field json :=
    match KeyMap.findEntry field type.otherFields with
    | none => true
    | some holds => holds json

end EdgeRouting

import ShippingRules.Cache.Part
import ShippingRules.Json.Reader
import ShippingRules.RuleSet

/-!
The payload of a cached rule set. It holds the rules with their parameters, everything that was
stored without a meaning as JSON text, instants as their literals, and beside them the number of
rules and the digest of the text that the set was read from. A payload that decodes is still
checked: its count, the rule types, the order of parameters, the literals and the JSON texts.
-/
namespace ShippingRules

namespace Cache

/-- A parameter as it is cached. -/
inductive CachedValue where
  | number (value : Double)
  | text (value : String)
  | list (items : List String)
  | instant (literal : String)
  | bool (value : Bool)
deriving DecidableEq

structure CachedRule where
  ruleType : String
  operator : String
  params : List (String × CachedValue)
  extra : String
deriving DecidableEq

structure Payload where
  ruleCount : Nat
  sourceDigest : Option Blake3.Digest
  matchMode : MatchMode
  hideUnconditionally : Bool
  disabledForPrivileged : Bool
  unrecognizedMode : Option String
  rules : List CachedRule
  extra : String
deriving DecidableEq

namespace Part

def mode : Part MatchMode where
  write m := alternative.write (match m with | .all => 0 | .any => 1)
  read bytes := do
    let (index, rest) ← alternative.read bytes
    match index with
    | 0 => return (.all, rest)
    | 1 => return (.any, rest)
    | _ => none

def value : Part CachedValue where
  write
    | .number x => alternative.write 0 ++ double.write x
    | .text s => alternative.write 1 ++ text.write s
    | .list items => alternative.write 2 ++ (sequence text).write items
    | .instant s => alternative.write 3 ++ text.write s
    | .bool b => alternative.write 4 ++ flag.write b
  read bytes := do
    let (index, rest) ← alternative.read bytes
    match index with
    | 0 => (double.read rest).map fun (x, rest) => (.number x, rest)
    | 1 => (text.read rest).map fun (s, rest) => (.text s, rest)
    | 2 => ((sequence text).read rest).map fun (items, rest) => (.list items, rest)
    | 3 => (text.read rest).map fun (s, rest) => (.instant s, rest)
    | 4 => (flag.read rest).map fun (b, rest) => (.bool b, rest)
    | _ => none

def rule : Part CachedRule :=
  (pair text (pair text (pair (sequence (pair text value)) text))).convert
    (fun (ruleType, operator, params, extra) => ⟨ruleType, operator, params, extra⟩)
    (fun r => (r.ruleType, r.operator, r.params, r.extra))

def payload : Part Payload :=
  (pair size (pair (optional digest) (pair mode (pair flag (pair flag (pair (optional text)
    (pair (sequence rule) text))))))).convert
    (fun (count, digest, mode, hide, disabled, unrecognized, rules, extra) =>
      ⟨count, digest, mode, hide, disabled, unrecognized, rules, extra⟩)
    (fun p => (p.ruleCount, p.sourceDigest, p.matchMode, p.hideUnconditionally,
      p.disabledForPrivileged, p.unrecognizedMode, p.rules, p.extra))

end Part

def CachedValue.ofValue : Value → CachedValue
  | .number x => .number x
  | .text s => .text s
  | .list items => .list items
  | .temporal t => .instant t.text
  | .bool b => .bool b

def fieldsText (fields : Fields Json) : String := (Json.object fields).render

def CachedRule.ofRule (rule : Rule) : CachedRule where
  ruleType := rule.ruleType
  operator := rule.operator
  params := rule.params.entries.map fun entry => (entry.1, CachedValue.ofValue entry.2)
  extra := fieldsText rule.extra

/-- The payload of a set, with the digest of the text it was read from, if that is given. -/
def Payload.ofSet (set : RuleSet) (source : Option String) : Payload where
  ruleCount := set.size
  sourceDigest := source.map fun text => Blake3.hash (Part.textBytes text)
  matchMode := set.matchMode
  hideUnconditionally := set.hideUnconditionally
  disabledForPrivileged := set.disabledForPrivileged
  unrecognizedMode := set.unrecognizedMode.map Json.render
  rules := set.rules.map CachedRule.ofRule
  extra := fieldsText set.extra

/-- What is wrong with a payload that decodes. -/
inductive Defect where
  | ruleCount (stated present : Nat)
  | emptyRuleType (index : Nat)
  | unsortedParameter (index : Nat) (key : String)
  | badLiteral (literal : String)
  | notAnObject
  | badMatchType
deriving DecidableEq, Repr

def Defect.message : Defect → String
  | ruleCount stated present => s!"metadata says {stated} rules but payload has {present}"
  | emptyRuleType index => s!"rule {index} has an empty rule type"
  | unsortedParameter index key =>
    s!"rule {index} parameters not sorted or duplicated at '{key}'"
  | badLiteral literal => s!"bad temporal literal '{literal}'"
  | notAnObject => "stored fields are not an object"
  | badMatchType => "bad stored match type"

/-- The first key that is not above the one before it. -/
def firstUnsorted? : List String → Option String
  | a :: b :: rest => if a < b then firstUnsorted? (b :: rest) else some b
  | _ => none

/-- The first defect in the types and parameter orders of rules counted from the given number. -/
def ruleDefect? (index : Nat) : List CachedRule → Option Defect
  | [] => none
  | rule :: rest =>
    if rule.ruleType = "" then some (.emptyRuleType index)
    else
      match firstUnsorted? (rule.params.map (·.1)) with
      | some key => some (.unsortedParameter index key)
      | none => ruleDefect? (index + 1) rest

def Payload.defect? (payload : Payload) : Option Defect :=
  if payload.ruleCount ≠ payload.rules.length then
    some (.ruleCount payload.ruleCount payload.rules.length)
  else ruleDefect? 0 payload.rules

def CachedValue.toValue : CachedValue → Except Defect Value
  | number x => .ok (.number x)
  | text s => .ok (.text s)
  | list items => .ok (.list items)
  | instant literal =>
    match Temporal.parse? literal with
    | some t => .ok (.temporal t)
    | none => .error (.badLiteral literal)
  | bool b => .ok (.bool b)

def paramsOf : List (String × CachedValue) → Except Defect (List (String × Value))
  | [] => .ok []
  | entry :: rest =>
    match entry.2.toValue with
    | .error defect => .error defect
    | .ok value =>
      match paramsOf rest with
      | .error defect => .error defect
      | .ok entries => .ok ((entry.1, value) :: entries)

def fieldsOf (text : String) : Except Defect (Fields Json) :=
  match (Json.parse? text).map Json.view with
  | some (.object fields) => .ok fields
  | _ => .error .notAnObject

def CachedRule.toRule (rule : CachedRule) : Except Defect Rule :=
  match paramsOf rule.params with
  | .error defect => .error defect
  | .ok params =>
    match fieldsOf rule.extra with
    | .error defect => .error defect
    | .ok extra => .ok ⟨rule.ruleType, rule.operator, Fields.ofList params, extra⟩

def rulesOf : List CachedRule → Except Defect (List Rule)
  | [] => .ok []
  | rule :: rest =>
    match rule.toRule with
    | .error defect => .error defect
    | .ok rule =>
      match rulesOf rest with
      | .error defect => .error defect
      | .ok rules => .ok (rule :: rules)

def modeOf : Option String → Except Defect (Option Json)
  | none => .ok none
  | some text =>
    match Json.parse? text with
    | some json => .ok (some json)
    | none => .error .badMatchType

/-- The rule set of a payload. The checks of the whole payload come before the conversion of any
part of it. -/
def Payload.toSet (payload : Payload) : Except Defect RuleSet :=
  match payload.defect? with
  | some defect => .error defect
  | none => do
    let rules ← rulesOf payload.rules
    let unrecognized ← modeOf payload.unrecognizedMode
    let extra ← fieldsOf payload.extra
    return ⟨rules, payload.matchMode, payload.hideUnconditionally, payload.disabledForPrivileged,
      unrecognized, extra⟩

end Cache

end ShippingRules

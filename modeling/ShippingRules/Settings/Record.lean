import ShippingRules.Json.Reader
import ShippingRules.RuleSet
import ShippingRules.Settings.StoredRule

/-!
The stored settings of a priced option. Reading is lenient: a flag counts only when it is literally
true, a missing match type means `all`, rules that are no array are no rules, and fields without
a meaning here are kept. What is written back holds every field that was kept; where one of them
has the key of a field with a meaning, the meaning wins.
-/
namespace ShippingRules

/-- Why stored settings cannot be read. -/
inductive SettingsError where
  | notJson
  | notAnObject
deriving DecidableEq, Repr

def SettingsError.message : SettingsError → String
  | notJson => "settings are not valid JSON"
  | notAnObject => "settings root must be a JSON object"

namespace RuleSet

def hideKey : String := "hide_shipping_rate"

def disableKey : String := "disable_shipping_rules"

def matchTypeKey : String := "match_type"

def rulesKey : String := "rules"

def isReserved (key : String) : Bool :=
  key = hideKey ∨ key = disableKey ∨ key = matchTypeKey ∨ key = rulesKey

def isTrue (json : Json) : Bool :=
  match json.view with
  | .bool b => b
  | _ => false

def flag (fields : Fields Json) (key : String) : Bool := (fields.get? key).any isTrue

/-- The mode that a stored match type names; null names `all`, as a missing one does. -/
def modeOf? (json : Json) : Option MatchMode :=
  match json.view with
  | .null => some .all
  | .text s => MatchMode.ofName? s
  | _ => none

/-- The mode, and the stored match type itself if it names no mode. -/
def readMode : Option Json → MatchMode × Option Json
  | none => (.all, none)
  | some json =>
    match modeOf? json with
    | some mode => (mode, none)
    | none => (.all, some json)

def readRules : Option Json → List Rule
  | none => []
  | some json =>
    match json.view with
    | .array items => items.filterMap Rule.ofJson?
    | _ => []

def ofFields (fields : Fields Json) : RuleSet :=
  let (mode, unrecognized) := readMode (fields.get? matchTypeKey)
  { rules := readRules (fields.get? rulesKey)
    matchMode := mode
    hideUnconditionally := flag fields hideKey
    disabledForPrivileged := flag fields disableKey
    unrecognizedMode := unrecognized
    extra := fields.filter fun key _ => !isReserved key }

def ofJson (json : Json) : Except SettingsError RuleSet :=
  match json.view with
  | .object fields => .ok (ofFields fields)
  | _ => .error .notAnObject

/-- The rule set that a settings text holds, with its rules as they are stored. -/
def parse (text : String) : Except SettingsError RuleSet :=
  match Json.parse? text with
  | some json => ofJson json
  | none => .error .notJson

def writtenMode (set : RuleSet) : Json := set.unrecognizedMode.getD (Json.text set.matchMode.name)

def toFields (set : RuleSet) : Fields Json :=
  set.extra.overlay <| Fields.ofList
    [(hideKey, Json.bool set.hideUnconditionally),
      (disableKey, Json.bool set.disabledForPrivileged),
      (matchTypeKey, set.writtenMode),
      (rulesKey, Json.array (set.rules.map Rule.toJson))]

/-- The stored form of a rule set. An instant is written as its text, which evaluators read the
same way. -/
def toJson (set : RuleSet) : Json := Json.object set.toFields

end RuleSet

end ShippingRules

import ShippingRules.Engine.Loading

/-!
The gate: whether a priced option is shown or hidden. Privileged callers see every option. For
others an option is hidden by its unconditional flag or by a verdict that its rules match; options
without readable settings are shown. A pass decides each option of a list on one snapshot,
independently of the others.
-/
namespace ShippingRules

/-- What becomes of an option, and why. -/
inductive Decision where
  | showPrivileged
  | showNoRules
  | showNotMatched
  | hideUnconditional
  | hideMatched
deriving DecidableEq, Repr

namespace Decision

def isHidden : Decision → Bool
  | hideUnconditional | hideMatched => true
  | _ => false

def describe : Decision → String
  | showPrivileged => "show (privileged caller)"
  | showNoRules => "show (no rules)"
  | showNotMatched => "show (rules not matched)"
  | hideUnconditional => "hide (unconditional)"
  | hideMatched => "hide (rules matched)"

end Decision

def Engine.decide (engine : Engine) (set : RuleSet) (snapshot : Snapshot) (privileged : Bool) :
    Decision :=
  if privileged then .showPrivileged
  else if set.hideUnconditionally then .hideUnconditional
  else if set.isEmpty then .showNoRules
  else if (engine.evaluate set snapshot).matched then .hideMatched
  else .showNotMatched

/-- An option with its stored settings, if it has some. -/
structure PricedOption where
  id : String
  settings : Option String
deriving DecidableEq

/-- What all options of one rate calculation are decided on. -/
structure RatePass where
  engine : Engine
  snapshot : Snapshot
  privileged : Bool

namespace RatePass

/-- The settings text of an option, unless it is missing or blank. -/
def settingsText? (option : PricedOption) : Option String :=
  option.settings.filter fun text => Text.trim text ≠ ""

def decideOption (pass : RatePass) (option : PricedOption) : Decision :=
  match settingsText? option with
  | none => .showNoRules
  | some text =>
    match pass.engine.loadSettings text with
    | .error _ => .showNoRules
    | .ok set => pass.engine.decide set pass.snapshot pass.privileged

/-- The options that are not hidden, in their order. -/
def filter (pass : RatePass) (options : List PricedOption) : List PricedOption :=
  options.filter fun option => !(pass.decideOption option).isHidden

end RatePass

end ShippingRules

import ShippingRules.MatchMode
import ShippingRules.Rule

/-!
The rules attached to one priced option, with its flags. A stored match type that names no mode
is kept as it was stored; while a set has one, no mode is in effect and the set never matches.
-/
namespace ShippingRules

structure RuleSet where
  rules : List Rule
  matchMode : MatchMode
  /-- Hide the option from ordinary callers without running a rule. -/
  hideUnconditionally : Bool
  /-- Kept with the rules; privileged callers are exempt with or without it. -/
  disabledForPrivileged : Bool
  unrecognizedMode : Option Json
  /-- Stored top-level fields that have no meaning here. -/
  extra : Fields Json

namespace RuleSet

def empty : RuleSet := ⟨[], .all, false, false, none, .empty⟩

instance : Inhabited RuleSet := ⟨empty⟩

def size (set : RuleSet) : Nat := set.rules.length

def isEmpty (set : RuleSet) : Bool := set.rules.isEmpty

/-- The mode that applies: with fewer than two rules, both modes mean the same and `all` is
reported. -/
def effectiveMode (set : RuleSet) : Option MatchMode :=
  if set.unrecognizedMode.isSome then none
  else if set.size < 2 then some .all
  else some set.matchMode

def describe (set : RuleSet) : String :=
  let mode := (set.effectiveMode.map MatchMode.name).getD "unrecognized"
  let hide := if set.hideUnconditionally then ", hide unconditionally" else ""
  s!"RuleSet({set.size} rules, match {mode}{hide})"

def sameRules : List Rule → List Rule → Bool
  | [], [] => true
  | a :: as, b :: bs => a.same b && sameRules as bs
  | _, _ => false

def sameMode : Option Json → Option Json → Bool
  | none, none => true
  | some a, some b => a.same b
  | _, _ => false

/-- Equality as numbers compare. -/
def same (a b : RuleSet) : Bool :=
  sameRules a.rules b.rules && a.matchMode == b.matchMode
    && a.hideUnconditionally == b.hideUnconditionally
    && a.disabledForPrivileged == b.disabledForPrivileged
    && sameMode a.unrecognizedMode b.unrecognizedMode && a.extra.same Json.same b.extra

end RuleSet

end ShippingRules

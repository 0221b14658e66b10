/-!
How the results of the rules of a set are combined: every rule has to match, or at least one.
-/
namespace ShippingRules

inductive MatchMode where
  | all
  | any
deriving DecidableEq, Repr

namespace MatchMode

def name : MatchMode → String
  | all => "all"
  | any => "any"

def ofName? (name : String) : Option MatchMode :=
  if name = "all" then some all else if name = "any" then some any else none

theorem ofName?_name (mode : MatchMode) : ofName? mode.name = some mode := by
  cases mode <;> decide

theorem ofName?_eq_some_iff (name : String) (mode : MatchMode) :
    ofName? name = some mode ↔ mode.name = name := by
  constructor
  · intro h
    unfold ofName? at h
    split at h
    · cases h
      simp_all [MatchMode.name]
    · split at h
      · cases h
        simp_all [MatchMode.name]
      · cases h
  · rintro rfl
    exact ofName?_name mode

/-- The error for a stored match type that is neither of the two names. -/
structure Unknown where
  name : String
deriving DecidableEq, Repr

def Unknown.message (error : Unknown) : String := s!"unknown match type '{error.name}'"

def parse (name : String) : Except Unknown MatchMode :=
  match ofName? name with
  | some mode => .ok mode
  | none => .error ⟨name⟩

end MatchMode

end ShippingRules

import ShippingRules.Fields
import ShippingRules.Number.Double

/-!
JSON values. A number is a whole number that fits 64 bits, signed or not, or else a finite
double. An object is a map: its keys are distinct and carry no order, so trees are canonical when
the fields of every object stand in ascending key order. A `Json` is a canonical tree; `view`
shows its top level, and each constructor gives back the value it was viewed from.
-/
namespace ShippingRules

namespace Json

/-- Whether a whole number fits 64 bits: it is at least -2^63 and below 2^64. -/
abbrev FitsWord (value : Int) : Prop :=
  -9223372036854775808 ≤ value ∧ value < 18446744073709551616

inductive Number where
  | whole (value : Int) (fits : FitsWord value)
  | double (value : Double) (finite : value.isFinite = true)
deriving DecidableEq

namespace Number

def toDouble : Number → Double
  | whole value _ => Double.ofInt value
  | double value _ => value

/-- Whole numbers never equal doubles, and the two zeros of doubles are equal. -/
def same : Number → Number → Bool
  | whole a _, whole b _ => a == b
  | double a _, double b _ => a.same b
  | _, _ => false

end Number

inductive Tree where
  | null
  | bool (value : Bool)
  | number (value : Number)
  | text (value : String)
  | array (items : List Tree)
  | object (fields : List (String × Tree))

namespace Tree

/-- Every object has its fields in strictly ascending key order. -/
inductive Canonical : Tree → Prop
  | null : Canonical .null
  | bool (value : Bool) : Canonical (.bool value)
  | number (value : Number) : Canonical (.number value)
  | text (value : String) : Canonical (.text value)
  | array (items : List Tree) (each : ∀ item ∈ items, Canonical item) : Canonical (.array items)
  | object (fields : List (String × Tree)) (ascending : fields.Pairwise (fun a b => a.1 < b.1))
      (each : ∀ field ∈ fields, Canonical field.2) : Canonical (.object fields)

mutual

/-- How many arrays and objects are nested in each other at most, the outermost included. -/
def nesting : Tree → Nat
  | .array items => itemsNesting items + 1
  | .object fields => fieldsNesting fields + 1
  | _ => 0

def itemsNesting : List Tree → Nat
  | [] => 0
  | item :: rest => max item.nesting (itemsNesting rest)

def fieldsNesting : List (String × Tree) → Nat
  | [] => 0
  | field :: rest => max field.2.nesting (fieldsNesting rest)

end

mutual

/-- Equality up to the sign of zero. -/
def same : Tree → Tree → Bool
  | .null, .null => true
  | .bool a, .bool b => a == b
  | .number a, .number b => a.same b
  | .text a, .text b => a == b
  | .array a, .array b => sameItems a b
  | .object a, .object b => sameFields a b
  | _, _ => false

def sameItems : List Tree → List Tree → Bool
  | [], [] => true
  | a :: as, b :: bs => a.same b && sameItems as bs
  | _, _ => false

def sameFields : List (String × Tree) → List (String × Tree) → Bool
  | [], [] => true
  | a :: as, b :: bs => a.1 == b.1 && a.2.same b.2 && sameFields as bs
  | _, _ => false

end

end Tree

end Json

/-- A JSON value. -/
structure Json where
  tree : Json.Tree
  canonical : tree.Canonical

namespace Json

def null : Json := ⟨.null, .null⟩

def bool (value : Bool) : Json := ⟨.bool value, .bool value⟩

def number (value : Number) : Json := ⟨.number value, .number value⟩

def text (value : String) : Json := ⟨.text value, .text value⟩

def array (items : List Json) : Json :=
  ⟨.array (items.map (·.tree)), .array _ fun item h => by
    obtain ⟨json, _, rfl⟩ := List.mem_map.mp h
    exact json.canonical⟩

def object (fields : Fields Json) : Json :=
  ⟨.object (fields.entries.map fun field => (field.1, field.2.tree)),
    .object _ (List.pairwise_map.mpr fields.ascending) fun field h => by
      obtain ⟨entry, _, rfl⟩ := List.mem_map.mp h
      exact entry.2.canonical⟩

instance : Inhabited Json := ⟨null⟩

/-- Equality up to the sign of zero. -/
def same (a b : Json) : Bool := a.tree.same b.tree

/-- The top level of a value. -/
inductive View where
  | null
  | bool (value : Bool)
  | number (value : Number)
  | text (value : String)
  | array (items : List Json)
  | object (fields : Fields Json)

def view : Json → View
  | ⟨.null, _⟩ => .null
  | ⟨.bool value, _⟩ => .bool value
  | ⟨.number value, _⟩ => .number value
  | ⟨.text value, _⟩ => .text value
  | ⟨.array items, h⟩ => .array <| items.pmap Json.mk <| by
      cases h with
      | array _ each => exact each
  | ⟨.object fields, h⟩ => .object
    { entries := fields.pmap (fun field canonical => (field.1, ⟨field.2, canonical⟩)) <| by
        cases h with
        | object _ _ each => exact each
      ascending := by
        cases h with
        | object _ ascending _ => exact ascending.pmap _ fun _ _ _ _ hlt => hlt }

def ofView : View → Json
  | .null => null
  | .bool value => bool value
  | .number value => number value
  | .text value => text value
  | .array items => array items
  | .object fields => object fields

theorem ofView_view (json : Json) : ofView json.view = json := by
  obtain ⟨tree, h⟩ := json
  cases tree with
  | array items => simp [view, ofView, array, List.map_pmap]
  | object fields => simp [view, ofView, object, List.map_pmap]
  | _ => rfl

theorem view_array (items : List Json) : (array items).view = .array items := by
  simp only [view, array, List.pmap_map, View.array.injEq]
  exact (List.pmap_eq_map _).trans (List.map_id items)

theorem view_object (fields : Fields Json) : (object fields).view = .object fields := by
  simp only [view, object, List.pmap_map, View.object.injEq]
  congr 1
  exact (List.pmap_eq_map _).trans (List.map_id fields.entries)

theorem view_ofView (view : View) : (ofView view).view = view := by
  cases view with
  | array items => exact view_array items
  | object fields => exact view_object fields
  | _ => rfl

theorem eq_of_view_eq {a b : Json} (h : a.view = b.view) : a = b := by
  rw [← ofView_view a, h, ofView_view]

theorem array_injective {as bs : List Json} (h : array as = array bs) : as = bs := by
  have hview := congrArg view h
  rw [view_array, view_array] at hview
  cases hview
  rfl

theorem object_injective {a b : Fields Json} (h : object a = object b) : a = b := by
  have hview := congrArg view h
  rw [view_object, view_object] at hview
  cases hview
  rfl

/-- The number for a double; infinities and NaN have none. -/
def ofDouble (value : Double) : Json :=
  if h : value.isFinite = true then number (.double value h) else null

def nesting (json : Json) : Nat := json.tree.nesting

end Json

end ShippingRules

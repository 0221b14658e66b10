import ShippingRules.Proofs.Snapshot

/-!
How a snapshot is put together. Facts are stated one after another, each on top of what was stated
before, and at the end one pass over the cart lines gives the sets of identifiers and the totals
that were not stated. What the snapshot holds is told from the facts alone: the order of lines and
of coupons makes no difference to it, nor does the order of statements of different kinds.
-/
namespace ShippingRules.Snapshot

/-- What has been stated so far. -/
structure Draft where
  now : Moment
  lines : List CartLine
  subtotal : Option Float
  itemCount : Option Nat
  totalWeight : Option Float
  coupons : IdSet
  couponCodes : Fields String
  customer : Customer

/-- What the cart lines come to. -/
@[ext] structure Tally where
  subtotal : Float
  itemCount : Nat
  totalWeight : Float
  products : IdSet
  terms : Fields IdSet
  shippingClasses : IdSet

namespace Tally

/-- Ids that stand for none are left out. -/
def insertPresent (set : IdSet) (id : String) : IdSet := if isPresent id then set.insert id else set

def zero : Tally := ⟨Double.zero.toFloat, 0, Double.zero.toFloat, .empty, .empty, .empty⟩

def add (tally : Tally) (line : CartLine) : Tally where
  subtotal := tally.subtotal + line.subtotal
  itemCount := tally.itemCount + line.quantity
  totalWeight := tally.totalWeight + line.unitWeight * (Double.ofNat line.quantity).toFloat
  products := insertPresent tally.products line.productId
  terms := line.terms.foldl addTerm tally.terms
  shippingClasses :=
    match line.shippingClass with
    | some id => insertPresent tally.shippingClasses id
    | none => tally.shippingClasses

/-- The tally of all lines, field by field. -/
def ofLines (lines : List CartLine) : Tally where
  subtotal := lines.foldl (fun sum line => sum + line.subtotal) Double.zero.toFloat
  itemCount := totalQuantity lines
  totalWeight := lines.foldl
    (fun sum line => sum + line.unitWeight * (Double.ofNat line.quantity).toFloat)
    Double.zero.toFloat
  products := IdSet.ofList ((lines.map CartLine.productId).filter isPresent)
  terms := (lines.flatMap CartLine.terms).foldl addTerm .empty
  shippingClasses := IdSet.ofList ((lines.filterMap CartLine.shippingClass).filter isPresent)

end Tally

namespace Draft

def blank (now : Moment) : Draft := ⟨now, [], none, none, none, .empty, .empty, .guest⟩

def state (draft : Draft) : Fact → Draft
  | .line line => { draft with lines := draft.lines ++ [line] }
  | .subtotal amount => { draft with subtotal := some amount }
  | .totalWeight weight => { draft with totalWeight := some weight }
  | .itemCount count => { draft with itemCount := some count }
  | .coupon code => { draft with coupons := draft.coupons.insert code }
  | .couponCode id code => { draft with couponCodes := draft.couponCodes.insert id code }
  | .customer customer => { draft with customer := customer }

def run (now : Moment) (facts : List Fact) : Draft := facts.foldl state (blank now)

/-- The snapshot of a draft: stated totals win over those of the lines. -/
def snapshot (draft : Draft) : Snapshot :=
  let tally := draft.lines.foldl Tally.add .zero
  { subtotal := draft.subtotal.getD tally.subtotal
    itemCount := draft.itemCount.getD tally.itemCount
    totalWeight := draft.totalWeight.getD tally.totalWeight
    coupons := draft.coupons
    couponCodes := draft.couponCodes
    products := tally.products
    terms := tally.terms
    shippingClasses := tally.shippingClasses
    customer := draft.customer
    now := draft.now }

/-- The draft of all facts, field by field. -/
def ofFacts (now : Moment) (facts : List Fact) : Draft where
  now := now
  lines := facts.filterMap Fact.line?
  subtotal := (facts.filterMap Fact.subtotal?).getLast?
  itemCount := (facts.filterMap Fact.itemCount?).getLast?
  totalWeight := (facts.filterMap Fact.totalWeight?).getLast?
  coupons := IdSet.ofList (facts.filterMap Fact.coupon?)
  couponCodes := Fields.ofList (facts.filterMap Fact.couponCode?)
  customer := (facts.filterMap Fact.customer?).getLast?.getD Customer.guest

end Draft

section Run

theorem totalQuantity_concat (lines : List CartLine) (line : CartLine) :
    totalQuantity (lines ++ [line]) = totalQuantity lines + line.quantity := by
  induction lines with
  | nil => exact Nat.add_comm line.quantity 0
  | cons head rest ih => rw [List.cons_append, totalQuantity, totalQuantity, ih, Nat.add_assoc]

theorem insertPresent_ofList (ids : List String) (id : String) :
    Tally.insertPresent (IdSet.ofList (ids.filter isPresent)) id =
      IdSet.ofList ((ids ++ [id]).filter isPresent) := by
  rw [Tally.insertPresent, List.filter_append]
  by_cases hpresent : isPresent id = true
  · rw [if_pos hpresent, List.filter_cons_of_pos hpresent, List.filter_nil,
      IdSet.ofList_concat]
  · rw [if_neg hpresent, List.filter_cons_of_neg hpresent, List.filter_nil, List.append_nil]

/-- One more line is added to the tally of the lines before it. -/
theorem Tally.add_ofLines (lines : List CartLine) (line : CartLine) :
    (ofLines lines).add line = ofLines (lines ++ [line]) := by
  have hproducts : insertPresent (ofLines lines).products line.productId =
      (ofLines (lines ++ [line])).products := by
    rw [ofLines, insertPresent_ofList, ofLines, List.map_append, List.map_singleton]
  have hclasses : ((ofLines lines).add line).shippingClasses =
      (ofLines (lines ++ [line])).shippingClasses := by
    simp only [add, ofLines, List.filterMap_append, List.filterMap_cons, List.filterMap_nil]
    cases line.shippingClass with
    | none => simp only [List.append_nil]
    | some id => exact insertPresent_ofList _ id
  have hterms : ((ofLines lines).add line).terms = (ofLines (lines ++ [line])).terms := by
    simp only [add, ofLines, List.flatMap_append, List.foldl_append, List.flatMap_singleton]
  have hcount : ((ofLines lines).add line).itemCount = (ofLines (lines ++ [line])).itemCount :=
    (totalQuantity_concat lines line).symm
  have hsubtotal : ((ofLines lines).add line).subtotal = (ofLines (lines ++ [line])).subtotal := by
    simp only [add, ofLines, List.foldl_append, List.foldl_cons, List.foldl_nil]
  have hweight : ((ofLines lines).add line).totalWeight =
      (ofLines (lines ++ [line])).totalWeight := by
    simp only [add, ofLines, List.foldl_append, List.foldl_cons, List.foldl_nil]
  exact Tally.ext hsubtotal hcount hweight hproducts hterms hclasses

theorem Tally.foldl_add (before lines : List CartLine) :
    lines.foldl add (ofLines before) = ofLines (before ++ lines) := by
  induction lines generalizing before with
  | nil => rw [List.append_nil, List.foldl_nil]
  | cons line rest ih =>
    rw [List.foldl_cons, add_ofLines, ih, List.append_assoc, List.singleton_append]

/-- One more fact is stated on top of the facts before it. -/
theorem Draft.state_ofFacts (now : Moment) (facts : List Fact) (fact : Fact) :
    (ofFacts now facts).state fact = ofFacts now (facts ++ [fact]) := by
  cases fact <;>
    simp only [state, ofFacts, List.filterMap_append, List.filterMap_cons, List.filterMap_nil,
      List.append_nil, Fact.line?, Fact.subtotal?, Fact.itemCount?, Fact.totalWeight?,
      Fact.coupon?, Fact.couponCode?, Fact.customer?, IdSet.ofList_concat,
      Fields.ofList_concat, List.getLast?_concat, Option.getD_some]

theorem Draft.foldl_state (now : Moment) (before facts : List Fact) :
    facts.foldl state (ofFacts now before) = ofFacts now (before ++ facts) := by
  induction facts generalizing before with
  | nil => rw [List.append_nil, List.foldl_nil]
  | cons fact rest ih =>
    rw [List.foldl_cons, state_ofFacts, ih, List.append_assoc, List.singleton_append]

theorem Draft.run_eq_ofFacts (now : Moment) (facts : List Fact) :
    run now facts = ofFacts now facts := foldl_state now [] facts

/-- Stating the facts one by one and going through the lines once comes to the snapshot. -/
theorem Draft.snapshot_run (now : Moment) (facts : List Fact) :
    (run now facts).snapshot = Snapshot.ofFacts now facts := by
  have htally : (facts.filterMap Fact.line?).foldl Tally.add .zero =
      Tally.ofLines (facts.filterMap Fact.line?) := Tally.foldl_add [] _
  rw [run_eq_ofFacts, snapshot, ofFacts, htally]
  rfl

end Run

section Last

/-- The last fact that says anything of a kind says this. -/
def Last {α : Type} (read : Fact → Option α) (facts : List Fact) (value : α) : Prop :=
  ∃ before fact after, facts = before ++ fact :: after ∧ read fact = some value ∧
    ∀ later ∈ after, read later = none

theorem getLast?_filterMap_eq_some_iff {α : Type} {read : Fact → Option α} {facts : List Fact}
    {value : α} : (facts.filterMap read).getLast? = some value ↔ Last read facts value := by
  -- The last value is the first that the reversed facts give, so what stands after it comes before.
  rw [List.getLast?_filterMap, List.findSome?_eq_some_iff]
  constructor
  · rintro ⟨after, fact, before, hfacts, hread, hafter⟩
    refine ⟨before.reverse, fact, after.reverse, ?_, hread, ?_⟩
    · rw [← List.reverse_reverse facts, hfacts, List.reverse_append, List.reverse_cons,
        List.append_assoc, List.singleton_append]
    · exact fun later hlater => hafter later (List.mem_reverse.mp hlater)
  · rintro ⟨before, fact, after, rfl, hread, hafter⟩
    refine ⟨after.reverse, fact, before.reverse, ?_, hread, ?_⟩
    · rw [List.reverse_append, List.reverse_cons, List.append_assoc, List.singleton_append]
    · exact fun later hlater => hafter later (List.mem_reverse.mp hlater)

/-- The code that a fact gives for one coupon id. -/
def Fact.codeOf? (id : String) : Fact → Option String
  | couponCode other code => if other = id then some code else none
  | _ => none

theorem get?_ofList_codes (facts : List Fact) (id : String) :
    (Fields.ofList (facts.filterMap Fact.couponCode?)).get? id =
      (facts.filterMap (Fact.codeOf? id)).getLast? := by
  have hfirst : ∀ facts : List Fact,
      ((facts.filterMap Fact.couponCode?).find? fun entry => entry.1 == id).map (·.2) =
        facts.findSome? (Fact.codeOf? id) := by
    intro facts
    induction facts with
    | nil => rfl
    | cons fact rest ih =>
      cases fact with
      | couponCode other code =>
        have hcodes : (Fact.couponCode other code :: rest).filterMap Fact.couponCode? =
            (other, code) :: rest.filterMap Fact.couponCode? := rfl
        rw [hcodes, List.find?_cons, List.findSome?_cons, Fact.codeOf?]
        by_cases hother : other = id
        · rw [hother, beq_self_eq_true, if_pos rfl, Option.map_some]
        · rw [beq_false_of_ne hother, if_neg hother]
          exact ih
      | line | subtotal | totalWeight | itemCount | coupon | customer => exact ih
  rw [Fields.get?_ofList, Fields.lastWith, ← List.filterMap_reverse, hfirst,
    List.getLast?_filterMap]

end Last

section Told

theorem Fact.line?_eq_some_iff {fact : Fact} {value : CartLine} :
    fact.line? = some value ↔ fact = line value := by
  cases fact <;> simp [line?]

theorem Fact.coupon?_eq_some_iff {fact : Fact} {code : String} :
    fact.coupon? = some code ↔ fact = coupon code := by
  cases fact <;> simp [coupon?]

theorem Fact.itemCount?_eq_some_iff {fact : Fact} {count : Nat} :
    fact.itemCount? = some count ↔ fact = itemCount count := by
  cases fact <;> simp [itemCount?]

theorem mem_filterMap_iff {α : Type} {read : Fact → Option α} {stating : α → Fact}
    (hread : ∀ {fact value}, read fact = some value ↔ fact = stating value) {facts : List Fact}
    {value : α} : value ∈ facts.filterMap read ↔ stating value ∈ facts := by
  rw [List.mem_filterMap]
  constructor
  · rintro ⟨fact, hmem, hvalue⟩
    exact hread.mp hvalue ▸ hmem
  · exact fun hmem => ⟨stating value, hmem, hread.mpr rfl⟩

/-- What a snapshot holds is what the facts say, wherever among the others they say it. -/
structure Told (facts : List Fact) (snapshot : Snapshot) : Prop where
  products : ∀ id, id ∈ snapshot.products ↔
    (id ≠ "" ∧ id ≠ "0") ∧ ∃ line, .line line ∈ facts ∧ line.productId = id
  shippingClasses : ∀ id, id ∈ snapshot.shippingClasses ↔
    (id ≠ "" ∧ id ≠ "0") ∧ ∃ line, .line line ∈ facts ∧ line.shippingClass = some id
  termIds : ∀ taxonomy id, id ∈ snapshot.termIds taxonomy ↔
    ∃ line, .line line ∈ facts ∧ (taxonomy, id) ∈ line.terms
  coupons : ∀ code, code ∈ snapshot.coupons ↔ .coupon code ∈ facts
  couponCodes : ∀ id code,
    snapshot.couponCodes.get? id = some code ↔ Last (Fact.codeOf? id) facts code
  itemCount : ∀ count, snapshot.itemCount = count ↔ Last Fact.itemCount? facts count ∨
    (∀ stated, .itemCount stated ∉ facts) ∧ totalQuantity (facts.filterMap Fact.line?) = count
  subtotal : ∀ amount, Last Fact.subtotal? facts amount → snapshot.subtotal = amount
  totalWeight : ∀ weight, Last Fact.totalWeight? facts weight → snapshot.totalWeight = weight

theorem itemCount_ofFacts_iff {now : Moment} {facts : List Fact} {count : Nat} :
    (ofFacts now facts).itemCount = count ↔ Last Fact.itemCount? facts count ∨
      (∀ stated, .itemCount stated ∉ facts) ∧
        totalQuantity (facts.filterMap Fact.line?) = count := by
  have hstated : (facts.filterMap Fact.itemCount?).getLast? = none ↔
      ∀ stated, .itemCount stated ∉ facts := by
    rw [List.getLast?_eq_none_iff, List.eq_nil_iff_forall_not_mem]
    exact forall_congr' fun stated => not_congr (mem_filterMap_iff Fact.itemCount?_eq_some_iff)
  rw [← getLast?_filterMap_eq_some_iff, ← hstated, ofFacts]
  cases (facts.filterMap Fact.itemCount?).getLast? with
  | none => simp
  | some stated => simp

theorem told_ofFacts (now : Moment) (facts : List Fact) : Told facts (ofFacts now facts) where
  products id := by
    simp only [mem_products_ofFacts, mem_filterMap_iff Fact.line?_eq_some_iff]
  shippingClasses id := by
    simp only [mem_shippingClasses_ofFacts, mem_filterMap_iff Fact.line?_eq_some_iff]
  termIds taxonomy id := by
    simp only [mem_termIds_ofFacts, mem_filterMap_iff Fact.line?_eq_some_iff]
  coupons code := IdSet.mem_ofList.trans (mem_filterMap_iff Fact.coupon?_eq_some_iff)
  couponCodes id code := by
    rw [ofFacts, get?_ofList_codes, getLast?_filterMap_eq_some_iff]
  itemCount count := itemCount_ofFacts_iff
  subtotal amount hlast := by
    rw [ofFacts, getLast?_filterMap_eq_some_iff.mpr hlast, Option.getD_some]
  totalWeight weight hlast := by
    rw [ofFacts, getLast?_filterMap_eq_some_iff.mpr hlast, Option.getD_some]

end Told

section Reordered

/-- The same facts in another order. Lines and coupons are moved at will, the facts of each other
kind only among those of other kinds. -/
structure Reordered (facts later : List Fact) : Prop where
  perm : facts.Perm later
  subtotals : later.filterMap Fact.subtotal? = facts.filterMap Fact.subtotal?
  totalWeights : later.filterMap Fact.totalWeight? = facts.filterMap Fact.totalWeight?
  itemCounts : later.filterMap Fact.itemCount? = facts.filterMap Fact.itemCount?
  couponCodes : later.filterMap Fact.couponCode? = facts.filterMap Fact.couponCode?
  customers : later.filterMap Fact.customer? = facts.filterMap Fact.customer?

/-- Two snapshots have the same facts, apart from the totals that nobody stated: sums of floating
point numbers do depend on their order. -/
structure SameCart (facts : List Fact) (snapshot later : Snapshot) : Prop where
  products : later.products = snapshot.products
  shippingClasses : later.shippingClasses = snapshot.shippingClasses
  termIds : ∀ taxonomy, later.termIds taxonomy = snapshot.termIds taxonomy
  coupons : later.coupons = snapshot.coupons
  couponCodes : later.couponCodes = snapshot.couponCodes
  itemCount : later.itemCount = snapshot.itemCount
  customer : later.customer = snapshot.customer
  subtotal : (∃ amount, .subtotal amount ∈ facts) → later.subtotal = snapshot.subtotal
  totalWeight : (∃ weight, .totalWeight weight ∈ facts) → later.totalWeight = snapshot.totalWeight

theorem totalQuantity_perm {lines later : List CartLine} (h : lines.Perm later) :
    totalQuantity later = totalQuantity lines := by
  induction h with
  | nil => rfl
  | cons line _ ih => rw [totalQuantity, totalQuantity, ih]
  | swap first second rest => exact Nat.add_left_comm _ _ _
  | trans _ _ hfirst hsecond => exact hsecond.trans hfirst

/-- Where something is stated, what would hold otherwise plays no part. -/
theorem getD_getLast?_of_mem {α : Type} {values : List α} {value : α} (h : value ∈ values)
    (fallback other : α) : values.getLast?.getD fallback = values.getLast?.getD other := by
  cases hlast : values.getLast? with
  | none => exact absurd (List.getLast?_eq_none_iff.mp hlast ▸ h) List.not_mem_nil
  | some last => rfl

variable {facts later : List Fact}

theorem Reordered.subtotal_eq (h : Reordered facts later) {now : Moment} {amount : Float}
    (hstated : .subtotal amount ∈ facts) :
    (ofFacts now later).subtotal = (ofFacts now facts).subtotal := by
  have hmem : amount ∈ facts.filterMap Fact.subtotal? :=
    List.mem_filterMap.mpr ⟨_, hstated, rfl⟩
  rw [ofFacts, ofFacts, h.subtotals]
  exact getD_getLast?_of_mem hmem _ _

theorem Reordered.totalWeight_eq (h : Reordered facts later) {now : Moment} {weight : Float}
    (hstated : .totalWeight weight ∈ facts) :
    (ofFacts now later).totalWeight = (ofFacts now facts).totalWeight := by
  have hmem : weight ∈ facts.filterMap Fact.totalWeight? :=
    List.mem_filterMap.mpr ⟨_, hstated, rfl⟩
  rw [ofFacts, ofFacts, h.totalWeights]
  exact getD_getLast?_of_mem hmem _ _

theorem Reordered.sameCart (h : Reordered facts later) (now : Moment) :
    SameCart facts (ofFacts now facts) (ofFacts now later) := by
  have told := told_ofFacts now facts
  have toldLater := told_ofFacts now later
  have hmem : ∀ {fact}, fact ∈ later ↔ fact ∈ facts := h.perm.mem_iff.symm
  constructor
  case products =>
    exact IdSet.ext_mem fun id => by simp only [toldLater.products, told.products, hmem]
  case shippingClasses =>
    exact IdSet.ext_mem fun id => by
      simp only [toldLater.shippingClasses, told.shippingClasses, hmem]
  case termIds =>
    exact fun taxonomy => IdSet.ext_mem fun id => by
      simp only [toldLater.termIds, told.termIds, hmem]
  case coupons =>
    exact IdSet.ext_mem fun code => by simp only [toldLater.coupons, told.coupons, hmem]
  case couponCodes => rw [ofFacts, ofFacts, h.couponCodes]
  case itemCount =>
    rw [ofFacts, ofFacts, h.itemCounts, totalQuantity_perm (h.perm.filterMap Fact.line?)]
  case customer => rw [ofFacts, ofFacts, h.customers]
  case subtotal =>
    rintro ⟨amount, hstated⟩
    exact h.subtotal_eq hstated
  case totalWeight =>
    rintro ⟨weight, hstated⟩
    exact h.totalWeight_eq hstated

end Reordered

end ShippingRules.Snapshot

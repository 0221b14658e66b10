import ShippingRules.Proofs.Cache.Damage
import ShippingRules.Proofs.Cache.Kept

/-!
Whether a cached set is stale is told by the digest of its source. The digest stands in the payload,
and a payload decodes whatever set it was made of. So the digest can be read of every cached set,
also of one that is refused or comes back changed, and of every blob that a set can be read of.
-/
namespace ShippingRules.Cache

section Reading

variable {bytes : Bytes}

theorem sourceDigest_eq_ok_iff {digest : Option Blake3.Digest} :
    sourceDigest bytes = .ok digest ↔
      ∃ payload, readPayload bytes = .ok payload ∧ payload.sourceDigest = digest := by
  unfold sourceDigest
  cases readPayload bytes with
  | error error => simp [Except.map]
  | ok payload => simp [Except.map]

theorem sourceDigest_eq_error_iff {error : ReadError} :
    sourceDigest bytes = .error error ↔ readPayload bytes = .error error := by
  unfold sourceDigest
  cases readPayload bytes with
  | error other => simp [Except.map]
  | ok payload => simp [Except.map]

theorem ofBytes_of_readPayload_error {error : ReadError} (h : readPayload bytes = .error error) :
    RuleSet.ofBytes bytes = .error error := by
  rw [RuleSet.ofBytes, h]

end Reading

/-- The digest of its source is read of every cached set. Of other bytes it is read whenever a set
is, and if it cannot be read, then no set can, for the same reason. -/
theorem sourceDigest_readable :
    (∀ (set : RuleSet) (source : Option String),
      (Part.payload.write (Payload.ofSet set source)).length < Nat.pow 256 4 →
        ∃ bytes, set.toBytes source = .ok bytes ∧
          sourceDigest bytes = .ok (source.map fun text => Blake3.hash (Part.textBytes text))) ∧
      (∀ bytes set, RuleSet.ofBytes bytes = .ok set → ∃ digest, sourceDigest bytes = .ok digest) ∧
      ∀ bytes error, sourceDigest bytes = .error error → RuleSet.ofBytes bytes = .error error := by
  refine ⟨?_, ?_, ?_⟩
  · intro set source hlength
    obtain ⟨bytes, hwrite, hread⟩ := RuleSet.readPayload_toBytes hlength
    exact ⟨bytes, hwrite, sourceDigest_eq_ok_iff.mpr ⟨_, hread, rfl⟩⟩
  · intro bytes set hset
    obtain ⟨payload, hread, -⟩ := RuleSet.ofBytes_eq_ok_iff.mp hset
    exact ⟨payload.sourceDigest, sourceDigest_eq_ok_iff.mpr ⟨payload, hread, rfl⟩⟩
  · intro bytes error herror
    exact ofBytes_of_readPayload_error (sourceDigest_eq_error_iff.mp herror)

def nestedArrays : Nat → Json
  | 0 => .null
  | depth + 1 => .array [nestedArrays depth]

/-- A set that the cache does not give back, for three reasons: an empty rule type, a leap second
and the depth of a kept field. -/
def refusedSet : RuleSet :=
  { RuleSet.clockSet RuleSet.leapSecond with
    rules := [{ RuleSet.clockRule RuleSet.leapSecond with ruleType := "" }]
    extra := .ofList [("deep", nestedArrays 130)] }

theorem sourceDigest_readable_refusedSet :
    (∃ bytes, refusedSet.toBytes (some "\x7b\x7d") = .ok bytes ∧
      RuleSet.ofBytes bytes = .error (.defective (.emptyRuleType 0)) ∧
      sourceDigest bytes = .ok (some (Blake3.hash [123, 125]))) ∧
      (∃ set, RuleSet.ofBytes RuleSet.hidingBytes = .ok set) ∧
      (∃ digest, sourceDigest RuleSet.hidingBytes = .ok digest) ∧
      sourceDigest (RuleSet.hidingBytes.take 31) = .error (.badLength 32 31) ∧
      RuleSet.ofBytes (RuleSet.hidingBytes.take 31) = .error (.badLength 32 31) := by
  obtain ⟨hdigest, hwhenever, hreason⟩ := sourceDigest_readable
  have hlength : (Part.payload.write (Payload.ofSet refusedSet (some "\x7b\x7d"))).length <
      Nat.pow 256 4 := by decide +kernel
  obtain ⟨bytes, hwrite, hread⟩ := hdigest refusedSet (some "\x7b\x7d") hlength
  obtain ⟨same, hsame, hrefused⟩ := RuleSet.ofBytes_toBytes hlength
  cases hwrite.symm.trans hsame
  have hempty : (Payload.ofSet refusedSet (some "\x7b\x7d")).toSet = .error (.emptyRuleType 0) :=
    RuleSet.toSet_ofSet_of_empty [] [] rfl (fun _ h => absurd h List.not_mem_nil) rfl
  rw [hempty] at hrefused
  have hkeepable : RuleSet.hidingSet.Keepable := ⟨nofun, nofun, Nat.succ_le_succ (Nat.zero_le _)⟩
  have hshort : (Part.payload.write (Payload.ofSet RuleSet.hidingSet none)).length <
      Nat.pow 256 4 := by decide +kernel
  obtain ⟨blob, hkept, hset⟩ := hkeepable.ofBytes_toBytes (by decide +kernel) hshort
  cases hkept.symm.trans RuleSet.toBytes_hidingSet
  have hcut : sourceDigest (RuleSet.hidingBytes.take 31) = .error (.badLength 32 31) := by
    decide +kernel
  exact ⟨⟨bytes, hwrite, hrefused, hread⟩, ⟨_, hset⟩, hwhenever _ _ hset, hcut, hreason _ _ hcut⟩

end ShippingRules.Cache

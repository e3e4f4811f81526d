import Dragonflow.Controller.Apps.L3
import Dragonflow.Foundation.PrefixMask

/-! # What the matches of a router cover

A message that is not strict is about every flow of its table whose match is at least as
specific. For the matches of a router that comes down to networks and addresses.
-/

namespace Dragonflow

namespace IPNetwork

/-- Every address of the other network is one of this network. -/
def includes : IPNetwork → IPNetwork → Bool
  | .v4 address length, .v4 other otherLength =>
      length.val ≤ otherLength.val ∧ (IPNetwork.v4 address length).contains (.v4 other)
  | .v6 address length, .v6 other otherLength =>
      length.val ≤ otherLength.val ∧ (IPNetwork.v6 address length).contains (.v6 other)
  | _, _ => false

/-- The match of a prefix, of which a full one is that of an exact number. -/
def prefixField (width address length : Nat) : FieldMatch :=
  if length = width then .exact address
  else .masked (address &&& prefixMask width (width - length))
    (prefixMask width (width - length))

variable {width address length other otherLength : Nat}

theorem prefixField_covers_exact (inRange : address < 2 ^ width)
    (otherInRange : other < 2 ^ width) :
    (prefixField width address length).covers (.exact other) =
      decide (address / 2 ^ (width - length) = other / 2 ^ (width - length)) := by
  unfold prefixField
  by_cases full : length = width
  · rw [if_pos full, full, Nat.sub_self, pow_zero, Nat.div_one, Nat.div_one]
    rfl
  · rw [if_neg full]
    simp only [FieldMatch.covers]
    apply decide_eq_decide.mpr
    rw [Nat.and_assoc, Nat.and_self,
      PrefixMask.and_mask_eq_iff otherInRange inRange (Nat.sub_le _ _)]
    exact eq_comm

theorem prefixField_covers (inRange : address < 2 ^ width) (otherInRange : other < 2 ^ width)
    (fits : length ≤ width) (otherFits : otherLength ≤ width) :
    (prefixField width address length).covers (prefixField width other otherLength) =
      decide (length ≤ otherLength ∧
        address / 2 ^ (width - length) = other / 2 ^ (width - length)) := by
  by_cases otherFull : otherLength = width
  · have isExact : prefixField width other otherLength = .exact other := if_pos otherFull
    rw [isExact, prefixField_covers_exact inRange otherInRange]
    apply decide_eq_decide.mpr
    rw [otherFull]
    exact (and_iff_right fits).symm
  · have isMasked : prefixField width other otherLength = .masked
        (other &&& prefixMask width (width - otherLength))
        (prefixMask width (width - otherLength)) := if_neg otherFull
    rw [isMasked]
    unfold prefixField
    by_cases full : length = width
    · rw [if_pos full]
      simp only [FieldMatch.covers]
      symm
      rw [decide_eq_false_iff_not]
      omega
    · rw [if_neg full]
      simp only [FieldMatch.covers]
      apply decide_eq_decide.mpr
      rw [PrefixMask.mask_and_mask_iff (Nat.sub_le _ _) (Nat.sub_le _ _)]
      have lengths : width - otherLength ≤ width - length ↔ length ≤ otherLength := by
        omega
      rw [lengths]
      apply and_congr_right
      intro longer
      have finer : prefixMask width (width - otherLength) &&&
          prefixMask width (width - length) = prefixMask width (width - length) :=
        (PrefixMask.mask_and_mask_iff (Nat.sub_le _ _) (Nat.sub_le _ _)).mpr
          (lengths.mpr longer)
      rw [Nat.and_assoc, finer, Nat.and_assoc, Nat.and_self,
        PrefixMask.and_mask_eq_iff otherInRange inRange (Nat.sub_le _ _)]
      exact eq_comm

theorem field_v4 (address : BitVec 32) (length : Fin 33) :
    (IPNetwork.v4 address length).field = prefixField 32 address.toNat length.val := rfl

theorem field_v6 (address : BitVec 128) (length : Fin 129) :
    (IPNetwork.v6 address length).field = prefixField 128 address.toNat length.val := rfl

end IPNetwork

namespace FieldMatch

theorem covers_trans {general middle specific : FieldMatch}
    (first : general.covers middle = true) (second : middle.covers specific = true) :
    general.covers specific = true := by
  cases general with
  | exact value =>
      cases middle with
      | exact other =>
          have same : value = other := of_decide_eq_true first
          rw [same]
          exact second
      | masked other finer => cases first
  | masked value mask =>
      cases middle with
      | exact other =>
          cases specific with
          | exact last =>
              have same : other = last := of_decide_eq_true second
              rw [← same]
              exact first
          | masked last finest => cases second
      | masked other finer =>
          simp only [covers, decide_eq_true_eq] at first
          rcases first with ⟨isFiner, same⟩
          have lowered : ∀ number, number &&& finer = other &&& finer →
              number &&& mask = value &&& mask := by
            intro number agrees
            rw [← same, ← isFiner, ← Nat.and_assoc, ← Nat.and_assoc, agrees]
          cases specific with
          | exact last =>
              simp only [covers, decide_eq_true_eq] at second ⊢
              exact lowered last second
          | masked last finest =>
              simp only [covers, decide_eq_true_eq] at second ⊢
              refine ⟨?_, lowered last second.2⟩
              rw [← isFiner, ← Nat.and_assoc, second.1]

theorem coversField_trans {general middle specific : Option FieldMatch}
    (first : coversField general middle = true)
    (second : coversField middle specific = true) :
    coversField general specific = true := by
  cases general with
  | none => rfl
  | some general =>
      cases middle with
      | none => cases first
      | some middle =>
          cases specific with
          | none => cases second
          | some specific => exact covers_trans first second

end FieldMatch

theorem and_imp_and {p q r p' q' r' : Prop} (head : p → q → r) (tail : p' → q' → r')
    (left : p ∧ p') (right : q ∧ q') : r ∧ r' :=
  ⟨head left.1 right.1, tail left.2 right.2⟩

theorem OFPMatch.covers_trans {general middle specific : OFPMatch}
    (first : Pattern.covers general middle = true)
    (second : Pattern.covers middle specific = true) :
    Pattern.covers general specific = true := by
  simp only [Pattern.covers, Bool.and_eq_true, and_assoc] at first second ⊢
  revert first second
  -- One field after the other.
  iterate 30 apply and_imp_and FieldMatch.coversField_trans
  exact FieldMatch.coversField_trans

namespace L3ProactiveApp

open FieldMatch

variable (routerKey : Nat) (network : IPNetwork)

/-- The match of all packets of a router to a network covers that of those to a network
that it includes. -/
theorem routeMatch_covers_routeMatch (other : IPNetwork) :
    Pattern.covers (getRouterRouteMatch routerKey network)
      (getRouterRouteMatch routerKey other) = network.includes other := by
  cases network with
  | v4 address length =>
      cases other with
      | v4 otherAddress otherLength =>
          simp only [Pattern.covers, getRouterRouteMatch, destinationMatch, coversField,
            covers_self, Bool.and_true, Bool.true_and, IPNetwork.field_v4,
            IPNetwork.prefixField_covers address.isLt otherAddress.isLt length.is_le
              otherLength.is_le, IPNetwork.includes, IPNetwork.contains, decide_eq_true_eq]
      | v6 otherAddress otherLength => rfl
  | v6 address length =>
      cases other with
      | v4 otherAddress otherLength => rfl
      | v6 otherAddress otherLength =>
          simp only [Pattern.covers, getRouterRouteMatch, destinationMatch, coversField,
            covers_self, Bool.and_true, Bool.true_and, IPNetwork.field_v6,
            IPNetwork.prefixField_covers address.isLt otherAddress.isLt length.is_le
              otherLength.is_le, IPNetwork.includes, IPNetwork.contains, decide_eq_true_eq]

theorem routeMatch_covers_extraRouteMatch (mac : MacAddress) (other : IPNetwork) :
    Pattern.covers (getRouterRouteMatch routerKey network)
      (generateExtraRouteMatch routerKey mac other) = network.includes other := by
  rw [← routeMatch_covers_routeMatch routerKey]
  cases network with
  | v4 address length => cases other <;> rfl
  | v6 address length => cases other <;> rfl

theorem routeMatch_covers_interfaceMatch (ip : IPAddress) :
    Pattern.covers (getRouterRouteMatch routerKey network)
      (getRouterInterfaceMatch routerKey ip) = network.contains ip := by
  cases network with
  | v4 address length =>
      cases ip with
      | v4 bits =>
          simp only [Pattern.covers, getRouterRouteMatch, getRouterInterfaceMatch,
            destinationMatch, addressMatch, coversField, covers_self, Bool.and_true,
            Bool.true_and, IPNetwork.field_v4,
            IPNetwork.prefixField_covers_exact address.isLt bits.isLt, IPNetwork.contains]
      | v6 bits => rfl
  | v6 address length =>
      cases ip with
      | v4 bits => rfl
      | v6 bits =>
          simp only [Pattern.covers, getRouterRouteMatch, getRouterInterfaceMatch,
            destinationMatch, addressMatch, coversField, covers_self, Bool.and_true,
            Bool.true_and, IPNetwork.field_v6,
            IPNetwork.prefixField_covers_exact address.isLt bits.isLt, IPNetwork.contains]

/-- The match of echo requests names the router only if its key is not zero. -/
theorem routeMatch_covers_icmpMatch (ip : BitVec 32) :
    Pattern.covers (getRouterRouteMatch routerKey network) (icmpMatch routerKey ip) =
      (decide (routerKey ≠ 0) && network.contains (.v4 ip)) := by
  rw [← routeMatch_covers_interfaceMatch routerKey]
  by_cases zero : routerKey = 0
  · subst zero
    cases network <;> simp [Pattern.covers, getRouterRouteMatch, destinationMatch, icmpMatch,
      coversField]
  · have isNamed : icmpMatch routerKey ip =
        { getRouterInterfaceMatch routerKey (.v4 ip) with
          ipProto := some (.exact 1)
          icmpv4Type := some (.exact 8) } := by
      unfold icmpMatch
      rw [if_neg zero]
      rfl
    rw [isNamed, decide_eq_true zero, Bool.true_and]
    cases network <;> rfl

end L3ProactiveApp

end Dragonflow

import Dragonflow.Controller.Apps.SecurityGroupPorts
import Dragonflow.Foundation.Steps

/-! # The addresses of security groups

After every history of port events, when does the address book have the
addresses of the bound ports? It does as long as ports leave a group with the
addresses they had in it.
-/

namespace Dragonflow
namespace SGApp

open Program

/-! ## One port and one group -/

def sampleRule : SecurityGroupRule :=
  { id := "rule", direction := .ingress, ethertype := .ipv4,
    protocol := some protoNumTcp, portRangeMin := some 80, portRangeMax := some 82,
    remoteGroupId := some "web", securityGroupId := some "web" }

def sampleGroups : Id → Option SecurityGroup :=
  fun id => if id = "web" then some ⟨"web", 5, [sampleRule]⟩ else none

def samplePort (address : BitVec 32) (groups : List Id) : LogicalPort :=
  { id := "port", uniqueKey := 7, lswitch := some "net", ips := [.v4 address],
    securityGroups := groups }

def sampleDelivery (event : PortEvent) (lport : LogicalPort) : Delivery where
  store :=
    { secgroups := sampleGroups
      lports := fun id => if id = "port" then some lport else none
      inventory :=
        { chassis := fun _ => none
          lswitches := fun _ => some ⟨"net", 3, none, none⟩ } }
  event := event
  lport := lport

theorem sampleGroups_wellFormed : WellFormed Netaddr.sample sampleGroups {"rule"} := by
  have only : ∀ secgroup rule, IsRule sampleGroups secgroup rule →
      secgroup = "web" ∧ rule = sampleRule := by
    rintro secgroup rule ⟨found, stored, member⟩
    unfold sampleGroups at stored
    split at stored
    · next isWeb =>
        cases stored
        exact ⟨isWeb, List.mem_singleton.mp member⟩
    · cases stored
  constructor
  · intro secgroup rule isRule
    rcases only secgroup rule isRule with ⟨rfl, rfl⟩
    rfl
  · intro secgroup rule isRule
    rcases only secgroup rule isRule with ⟨rfl, rfl⟩
    exact ⟨_, rfl⟩
  · intro secgroup found stored
    unfold sampleGroups at stored
    split at stored
    · cases stored
      decide
    · cases stored
  · intro secgroup rule other another isRule isAnother _
    rw [(only secgroup rule isRule).2, (only other another isAnother).2]
  · intro secgroup rule isRule
    rcases only secgroup rule isRule with ⟨rfl, rfl⟩
    decide
  · decide

theorem sampleDelivery_provided {bound : BoundPorts} {event : PortEvent}
    {address : BitVec 32} {groups : List Id}
    (onlyPort : ∀ id, bound id ≠ none → id = "port") (onlyWeb : ∀ group ∈ groups, group = "web")
    (sameSwitch : ∀ kind original, event = .updated kind original →
      original.lswitch = some "net") :
    Provided sampleGroups bound (sampleDelivery event (samplePort address groups)) where
  groups := rfl
  listed := by
    intro group member
    rw [onlyWeb group member]
    exact ⟨_, rfl⟩
  stored := by
    rintro id (isBound | rfl)
    · rw [onlyPort id isBound]
      exact ⟨_, rfl⟩
    · exact ⟨_, rfl⟩
  onSwitch := ⟨_, rfl⟩
  wasOnSwitch := by
    intro kind original isUpdate
    refine ⟨⟨"net", 3, none, none⟩, ?_⟩
    simp only [Inventory.lswitch, sameSwitch kind original isUpdate, sampleDelivery]

/-! ## Every history -/

/-- What the application does about an event. -/
def deliver (netaddr : Netaddr) (delivery : Delivery) : Action :=
  portEvent netaddr delivery.store delivery.event delivery.lport

section Histories

variable {netaddr : Netaddr} {secgroups : Id → Option SecurityGroup} {ids : Finset Id}
  {state : State} {bound next : BoundPorts} {delivery : Delivery}

theorem Keyed.follow (keyed : Keyed bound) (followed : follow bound delivery = some next) :
    Keyed next := by
  have updated : ∀ value, (∀ kind lport, value = some (kind, lport) →
      lport.id = delivery.lport.id) →
      Keyed (Function.update bound delivery.lport.id value) := by
    intro value named id kind lport found
    by_cases isPort : id = delivery.lport.id
    · subst isPort
      rw [Function.update_self] at found
      exact named kind lport found
    · rw [Function.update_of_ne isPort] at found
      exact keyed id kind lport found
  unfold SGApp.follow at followed
  rcases delivery with ⟨store, event, lport⟩
  cases event <;> simp only at followed <;> split at followed <;> cases followed
  · exact updated _ fun _ _ same => by cases same; rfl
  · exact updated _ fun _ _ impossible => by cases impossible
  · exact updated _ fun _ _ same => by cases same; rfl

theorem Accurate.deliver (accurate : Accurate secgroups ids bound.members bound.holdings
      state)
    (wellFormed : WellFormed netaddr secgroups ids) (keyed : Keyed bound)
    (provided : Provided secgroups bound delivery) (traceable : Traceable delivery)
    (followed : follow bound delivery = some next) :
    Leads (SGApp.deliver netaddr delivery) state
      (fun _ after => Accurate secgroups ids next.members next.holdings after)
      (fun _ _ => False) := by
  rcases delivery with ⟨store, event, lport⟩
  rcases provided with ⟨rfl, listed, stored, ⟨lswitch, onSwitch⟩, wasOnSwitch⟩
  have context : Context netaddr store ids bound.members := by
    refine ⟨wellFormed, fun group id member => stored id (.inl ?_)⟩
    rcases member with ⟨_, found, _⟩
    rw [found]
    exact Option.some_ne_none _
  have wideContext : Context netaddr store ids (membersDuring bound lport) := by
    refine ⟨wellFormed, fun group id member => ?_⟩
    rcases member with before | ⟨isPort, _⟩
    · exact context.stored group id before
    · exact stored id (.inr isPort)
  unfold SGApp.deliver
  rcases event with kind | kind | ⟨kind, original⟩ <;>
    simp only [SGApp.follow] at followed <;> split at followed <;> cases followed
  · next isFree =>
      cases kind with
      | here => exact addLocalPort_leads accurate wideContext listed isFree
      | elsewhere => exact addRemotePort_leads accurate context isFree
  · next isBound =>
      cases kind with
      | here => exact removeLocalPort_leads accurate context onSwitch isBound
      | elsewhere => exact removeRemotePort_leads accurate context isBound
  · next isBound =>
      rcases traceable with ⟨left, shrunk⟩
      cases kind with
      | here =>
          rcases wasOnSwitch _ _ rfl with ⟨before, wasThere⟩
          exact updateLocalPort_leads accurate wideContext listed onSwitch wasThere isBound
            (keyed _ _ _ isBound) shrunk
      | elsewhere => exact updateRemotePort_leads accurate context isBound (left rfl) shrunk

/-- Every event of a history is allowed for the ports that are bound then. -/
def Along (allowed : BoundPorts → Delivery → Prop) :
    BoundPorts → List Delivery → Prop
  | _, [] => True
  | bound, delivery :: history =>
      allowed bound delivery ∧
        ∀ next, follow bound delivery = some next → Along allowed next history

/-- In every history in which ports leave groups with the addresses they had in
them, the book has exactly the addresses of the bound ports. -/
theorem addresses_exact (netaddr : Netaddr) {secgroups : Id → Option SecurityGroup}
    {ids : Finset Id} (wellFormed : WellFormed netaddr secgroups ids)
    (history : List Delivery) {bound : BoundPorts}
    (inOrder : steps follow history (fun _ => none) = some bound)
    (allowed : Along (fun bound delivery =>
      Provided secgroups bound delivery ∧ Traceable delivery) (fun _ => none) history) :
    let book := (trace (deliver netaddr) history State.initial).2.book
    ∀ group,
      (∀ ip, ip ∈ readSet book.secgroupAggregateAddresses group ↔
        ∃ id kind lport, bound id = some (kind, lport) ∧
          group ∈ lport.securityGroups ∧ ip ∈ lport.allIps) ∧
      ∀ ip id, id ∈ readSet book.secgroupIpRefs (group, ip) ↔
        ∃ kind lport, bound id = some (kind, lport) ∧
          group ∈ lport.securityGroups ∧ ip ∈ lport.allIps := by
  suffices general : ∀ (current : BoundPorts) (state : State),
      Accurate secgroups ids current.members current.holdings state → Keyed current →
      steps follow history current = some bound →
      Along (fun bound delivery => Provided secgroups bound delivery ∧ Traceable delivery)
        current history →
      (trace (deliver netaddr) history state).2.book.ledger.Tells bound.holdings by
    have initial : Accurate secgroups ids (BoundPorts.members fun _ => none)
        (BoundPorts.holdings fun _ => none) State.initial := by
      refine ⟨Sound.initial secgroups ids _, ?_, ?_⟩
      · intro group ip id
        rw [BoundPorts.holdings_none rfl]
        simp [AddressBook.ledger, State.initial, readSet]
      · intro group ip
        simp [BoundPorts.holdings_none, AddressBook.ledger, State.initial, readSet]
    have keyed : Keyed fun _ => none := by
      intro id kind lport found
      cases found
    have tells := general _ _ initial keyed inOrder allowed
    intro book group
    exact ⟨fun ip => tells.items group ip, fun ip id => tells.holders group ip id⟩
  clear inOrder allowed
  induction history with
  | nil =>
      intro current state accurate _ walked _
      cases walked
      exact accurate.tells
  | cons delivery history induction =>
      intro current state accurate keyed walked along
      rcases steps_cons_eq_some.mp walked with ⟨middle, followed, rest⟩
      rcases along with ⟨⟨provided, traceable⟩, later⟩
      rcases (accurate.deliver wellFormed keyed provided traceable followed).returned with
        ⟨_, after, executed, final⟩
      simp only [trace, executed]
      exact induction middle after final (keyed.follow followed) rest
        (later middle followed)

end Histories

/-- A local port that changes its address. -/
theorem addresses_exact_moved_port :
    let history :=
      [sampleDelivery (.bind .here) (samplePort 0x0a000001 ["web"]),
        sampleDelivery (.updated .here (samplePort 0x0a000001 ["web"]))
          (samplePort 0x0a000002 ["web"])]
    let book := (trace (deliver Netaddr.sample) history State.initial).2.book
    readSet book.secgroupAggregateAddresses "web" = {.v4 0x0a000002} := by
  intro history book
  have exact := addresses_exact Netaddr.sample sampleGroups_wellFormed history
    rfl ⟨⟨sampleDelivery_provided (by simp) (by simp) (by simp), trivial⟩, fun next followed =>
      ⟨⟨sampleDelivery_provided (by
          cases followed
          intro id isBound
          by_contra different
          exact isBound (Function.update_of_ne different ..)) (by simp) (by
          intro kind original isUpdate
          cases isUpdate
          rfl), ⟨by simp, by decide⟩⟩, fun _ _ => trivial⟩⟩ "web"
  ext ip
  rw [exact.1, Finset.mem_singleton]
  constructor
  · rintro ⟨id, kind, lport, isBound, _, held⟩
    by_cases isPort : id = "port"
    · subst isPort
      cases isBound
      exact Finset.mem_singleton.mp held
    · simp [Function.update_of_ne, isPort, sampleDelivery, samplePort] at isBound
  · rintro rfl
    exact ⟨"port", .here, samplePort 0x0a000002 ["web"], rfl, by decide, by decide⟩

/-- A remote port that leaves its group and changes its address in one update
leaves its old address behind. -/
theorem addresses_stale_after_leaving :
    let history :=
      [sampleDelivery (.bind .elsewhere) (samplePort 0x0a000001 ["web"]),
        sampleDelivery (.updated .elsewhere (samplePort 0x0a000001 ["web"]))
          (samplePort 0x0a000002 [])]
    let book := (trace (deliver Netaddr.sample) history State.initial).2.book
    WellFormed Netaddr.sample sampleGroups {"rule"} ∧
    Along (Provided sampleGroups) (fun _ => none) history ∧
    ∃ bound, steps follow history (fun _ => none) = some bound ∧
      (¬∃ id kind lport, bound id = some (kind, lport) ∧ "web" ∈ lport.securityGroups) ∧
      .v4 0x0a000001 ∈ readSet book.secgroupAggregateAddresses "web" ∧
      "port" ∈ readSet book.secgroupIpRefs ("web", .v4 0x0a000001) := by
  intro history book
  refine ⟨sampleGroups_wellFormed, ?_, ?_⟩
  · refine ⟨sampleDelivery_provided (by simp) (by simp) (by simp), fun next followed =>
      ⟨sampleDelivery_provided ?_ (by simp) ?_, fun _ _ => trivial⟩⟩
    · cases followed
      intro id isBound
      by_contra different
      exact isBound (Function.update_of_ne different ..)
    · intro kind original isUpdate
      cases isUpdate
      rfl
  · refine ⟨_, rfl, ?_, ?_, ?_⟩
    · rintro ⟨id, kind, lport, isBound, listed⟩
      by_cases isPort : id = "port"
      · subst isPort
        cases isBound
        cases listed
      · simp [Function.update_of_ne, isPort, sampleDelivery, samplePort] at isBound
    · decide +kernel
    · decide +kernel

end SGApp
end Dragonflow

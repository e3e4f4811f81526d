import Dragonflow.Controller.Apps.TrunkPorts
import Dragonflow.Foundation.FlowSet

/-! # The rules that a child leaves behind

The dispatch rules of a child are installed with one priority and deleted with another,
so that no handler of the application ever deletes one.
-/

namespace Dragonflow

open Program PortLocator

namespace TrunkApp

section Rules

variable {config : Config} {lports : Dict Id LogicalPort}
  {segmentation : ChildPortSegmentation} {pattern : OFPMatch}

/-! ## Dispatch rules stay -/

/-- There is a dispatch rule with the match. -/
def HasDispatch (pattern : OFPMatch) (node : Node TrunkApp) : Prop :=
  (node.apps.flows Const.ingressDispatchTable Const.priorityHigh pattern).isSome = true

def RetainsDispatch (pattern : OFPMatch) (before after : Node TrunkApp) : Prop :=
  HasDispatch pattern before → HasDispatch pattern after

instance : IsPreorder (Node TrunkApp) (RetainsDispatch pattern) where
  refl _ has := has
  trans _ _ _ first second has := second (first has)

/-- The message does not delete rules of this table and priority. -/
def Harmless (message : OFPFlowMod) : Prop :=
  message.command = .add ∨ (message.command = .deleteStrict ∧
    (message.table ≠ Const.ingressDispatchTable ∨ message.priority ≠ Const.priorityHigh))

theorem Harmless.retains {message : OFPFlowMod} (harmless : Harmless message)
    (node : Node TrunkApp) :
    RetainsDispatch pattern node (setFlows node (node.apps.flows.apply message)) := by
  intro has
  change Option.isSome (FlowTable.apply node.apps.flows message _ _ _) = true
  rcases harmless with isAdd | ⟨isDelete, elsewhere⟩
  · rw [FlowTable.apply_add isAdd]
    split
    · rfl
    · exact has
  · have kept : node.apps.flows.apply message Const.ingressDispatchTable Const.priorityHigh
        pattern = node.apps.flows Const.ingressDispatchTable Const.priorityHigh pattern := by
      rcases elsewhere with otherTable | otherPriority
      · exact FlowTable.apply_other_table otherTable.symm
      · unfold FlowTable.apply
        rw [isDelete]
        simp only [otherPriority.symm, false_and, decide_false, Bool.false_and,
          Bool.not_false]
        cases node.apps.flows Const.ingressDispatchTable Const.priorityHigh pattern <;> rfl
    rw [kept]
    exact has

/-! ## No handler deletes one -/

/-- Whatever the rule makes has the property. -/
def Yields (property : α → Prop) (rule : Except PyError α) : Prop :=
  ∀ made, rule = .ok made → property made

theorem Yields.bind {property : β → Prop} {first : Except PyError α}
    {next : α → Except PyError β} (yields : ∀ made, Yields property (next made)) :
    Yields property (first >>= next) := by
  intro made whole
  cases first with
  | error error => cases whole
  | ok value => exact yields value made whole

theorem Yields.pure {property : α → Prop} {value : α} (holds : property value) :
    Yields property (Pure.pure value) := by
  intro made same
  cases same
  exact holds

/-- Whichever message the rule makes is harmless. -/
abbrev HarmlessRule : Except PyError (Option OFPFlowMod) → Prop :=
  Yields fun found => ∀ message, found = some message → Harmless message

theorem HarmlessRule.none : HarmlessRule (Pure.pure none) :=
  Yields.pure fun message impossible => by cases impossible

theorem HarmlessRule.some {message : OFPFlowMod} (harmless : Harmless message) :
    HarmlessRule (Pure.pure (some message)) := by
  apply Yields.pure
  intro other same
  cases same
  exact harmless

/-- A rule that is only made where the implementation applies to the child. -/
theorem HarmlessRule.whenApplies {applies : Except PyError Bool}
    {rule : Except PyError (Option OFPFlowMod)} (harmless : HarmlessRule rule) :
    HarmlessRule
      (applies >>= fun made => if made = true then rule else Pure.pure Option.none) := by
  apply Yields.bind
  intro made
  cases made with
  | false => exact HarmlessRule.none
  | true => exact harmless

theorem tables_differ :
    Const.ingressClassificationDispatchTable ≠ Const.ingressDispatchTable := by decide

theorem priorities_differ : Const.priorityMedium ≠ Const.priorityHigh := by decide

theorem installClassificationRule_harmless (implementation : NestedPortImpl) :
    HarmlessRule (installClassificationRule config lports segmentation implementation) := by
  apply Yields.bind
  intro found
  apply HarmlessRule.whenApplies
  apply Yields.bind
  intro pattern
  apply Yields.bind
  intro actions
  exact HarmlessRule.some (Or.inl rfl)

theorem installDispatchRule_harmless (implementation : NestedPortImpl) :
    HarmlessRule (installDispatchRule lports segmentation implementation) := by
  apply Yields.bind
  intro found
  apply HarmlessRule.whenApplies
  apply Yields.bind
  intro pattern
  apply Yields.bind
  intro actions
  exact HarmlessRule.some (Or.inl rfl)

theorem deleteClassificationRule_harmless (implementation : NestedPortImpl) :
    HarmlessRule (deleteClassificationRule lports segmentation implementation) := by
  apply Yields.bind
  intro found
  apply HarmlessRule.whenApplies
  apply Yields.bind
  intro pattern
  exact HarmlessRule.some (Or.inr ⟨rfl, Or.inl tables_differ⟩)

theorem deleteDispatchRule_harmless (implementation : NestedPortImpl) :
    HarmlessRule (deleteDispatchRule lports segmentation implementation) := by
  apply Yields.bind
  intro found
  apply HarmlessRule.whenApplies
  apply Yields.bind
  intro pattern
  exact HarmlessRule.some (Or.inr ⟨rfl, Or.inr priorities_differ⟩)

theorem installationRules_harmless {rule : Except PyError (Option OFPFlowMod)}
    (member : rule ∈ installationRules config lports segmentation) : HarmlessRule rule := by
  simp only [installationRules, List.mem_flatMap, List.mem_cons, List.not_mem_nil,
    or_false] at member
  rcases member with ⟨implementation, -, rfl | rfl⟩
  · exact installClassificationRule_harmless implementation
  · exact installDispatchRule_harmless implementation

theorem deletionRules_harmless {rule : Except PyError (Option OFPFlowMod)}
    (member : rule ∈ deletionRules lports segmentation) : HarmlessRule rule := by
  simp only [deletionRules, List.mem_flatMap, List.mem_cons, List.not_mem_nil,
    or_false] at member
  rcases member with ⟨implementation, -, rfl | rfl⟩
  · exact deleteClassificationRule_harmless implementation
  · exact deleteDispatchRule_harmless implementation

theorem modRule_retains {rule : Except PyError (Option OFPFlowMod)}
    (harmless : HarmlessRule rule) : Keeps (RetainsDispatch pattern) (modRule rule) := by
  unfold modRule
  cases rule with
  | error error => exact Keeps.throw error
  | ok found =>
      cases found with
      | none => exact Keeps.pure _
      | some message =>
          exact Keeps.modify fun node => (harmless _ rfl message rfl).retains node

theorem set_retains {before after : Node TrunkApp}
    (same : after.apps.flows = before.apps.flows) : RetainsDispatch pattern before after := by
  intro has
  unfold HasDispatch
  rw [same]
  exact has

theorem copyBinding_retains :
    Keeps (RetainsDispatch pattern) (copyBinding segmentation) := by
  intro node
  unfold copyBinding copyPortBinding
  rw [exec_bind_ok (exec_get node)]
  cases reference node.lports segmentation.parent with
  | error error => exact set_retains rfl
  | ok parent => exact set_retains rfl

theorem clearBinding_retains :
    Keeps (RetainsDispatch pattern) (clearBinding segmentation) := by
  intro node
  unfold clearBinding clearPortBinding
  rw [exec_bind_ok (exec_get node)]
  cases node.locations.lookup segmentation.port with
  | none => exact set_retains rfl
  | some binding => exact set_retains rfl

section Handlers

variable {emit : PortEvent → LogicalPort → Action}
  (emits : ∀ event lport, Keeps (RetainsDispatch pattern) (emit event lport))

include emits

theorem emitChild_retains (event : PortEvent) :
    Keeps (RetainsDispatch pattern) (emitChild emit event segmentation) := by
  refine Keeps.bind Keeps.get fun node => ?_
  exact Keeps.bind (Keeps.ofExcept _) fun child => emits event child

theorem installCps_retains (kind : Locality) :
    Keeps (RetainsDispatch pattern) (installCps config emit kind segmentation) := by
  cases kind with
  | here =>
      refine Keeps.bind Keeps.get fun node => ?_
      apply Keeps.bind (Keeps.loop _ fun rule member =>
        modRule_retains (installationRules_harmless member))
      intro _
      exact Keeps.bind copyBinding_retains fun _ => emitChild_retains emits _
  | elsewhere =>
      exact Keeps.bind copyBinding_retains fun _ => emitChild_retains emits _

theorem uninstallCps_retains (kind : Locality) :
    Keeps (RetainsDispatch pattern) (uninstallCps emit kind segmentation) := by
  cases kind with
  | here =>
      apply Keeps.bind (emitChild_retains emits _)
      intro _
      apply Keeps.bind clearBinding_retains
      intro _
      refine Keeps.bind Keeps.get fun node => ?_
      exact Keeps.loop _ fun rule member => modRule_retains (deletionRules_harmless member)
  | elsewhere =>
      exact Keeps.bind (emitChild_retains emits _) fun _ => clearBinding_retains

theorem portCallbacks_retain {event : PortEvent} {lport : LogicalPort} {callback : Action}
    (member : callback ∈ portCallbacks config emit event lport) :
    Keeps (RetainsDispatch pattern) callback := by
  have logs : ∀ handler : Action, Keeps (RetainsDispatch pattern) handler →
      Keeps (RetainsDispatch pattern) (logged handler) := by
    intro handler kept node
    have keptHere := kept node
    rcases executed : exec handler node with ⟨error | value, after⟩
    · rw [executed] at keptHere
      rw [exec_logged_error executed]
      exact trans_of (RetainsDispatch pattern) keptHere (set_retains rfl)
    · rw [executed] at keptHere
      rw [exec_logged_ok executed]
      exact keptHere
  cases event with
  | bind kind =>
      rw [portCallbacks, List.mem_singleton] at member
      subst member
      exact logs _ (Keeps.bind Keeps.get fun node =>
        Keeps.loop _ fun other _ => installCps_retains emits kind)
  | unbind kind =>
      rw [portCallbacks, List.mem_singleton] at member
      subst member
      exact logs _ (Keeps.bind Keeps.get fun node =>
        Keeps.loop _ fun other _ => uninstallCps_retains emits kind)
  | updated kind original => cases member

end Handlers

theorem portBindingCallbacks_retain {event : PortEvent} {lport : LogicalPort}
    {callback : Action} (member : callback ∈ PortBindingApp.callbacks event lport) :
    Keeps (RetainsDispatch pattern) callback := by
  have bound : ∀ kind, Keeps (RetainsDispatch pattern)
      (PortBindingApp.portBound kind lport : Action) := by
    intro kind
    apply Keeps.modify
    intro node
    exact set_retains (by simp)
  have unbound : ∀ kind, Keeps (RetainsDispatch pattern)
      (PortBindingApp.portUnbound kind lport : Action) := by
    intro kind node
    unfold PortBindingApp.portUnbound
    rw [exec_bind_ok (exec_get node)]
    split
    · exact set_retains (by simp)
    · exact set_retains rfl
  rcases event with kind | kind | kind
  · cases kind <;> rw [PortBindingApp.callbacks, List.mem_singleton] at member <;>
      subst member <;> exact bound _
  · cases kind <;> rw [PortBindingApp.callbacks, List.mem_singleton] at member <;>
      subst member <;> exact unbound _
  · cases member

theorem emit_retains (trunkFirst : PortEvent → Bool) (depth : Nat) (event : PortEvent)
    (lport : LogicalPort) :
    Keeps (RetainsDispatch pattern)
      (emit (callbacks config trunkFirst) depth event lport) := by
  induction depth generalizing event lport with
  | zero => exact Keeps.throw _
  | succ depth induction =>
      refine Keeps.bind (Keeps.modify fun node => set_retains rfl) fun _ => ?_
      apply Keeps.loop
      intro callback member
      apply Keeps.attempt
      unfold callbacks at member
      cases isFirst : trunkFirst event with
      | true =>
          rw [isFirst] at member
          rcases List.mem_append.mp member with trunk | binding
          · exact portCallbacks_retain induction trunk
          · exact portBindingCallbacks_retain binding
      | false =>
          rw [isFirst] at member
          rcases List.mem_append.mp member with binding | trunk
          · exact portBindingCallbacks_retain binding
          · exact portCallbacks_retain induction trunk

/-! ## The rules after the child is gone -/

/-- The implementation that every type has first, whatever the address is. -/
def firstImplementation : SegmentationType → NestedPortImpl
  | .vlan => .vlan
  | .macvlan => .macvlanIp
  | .ipvlan => .ipvlanIp

theorem implementations_first (type : SegmentationType) :
    ∃ rest, implementations type = firstImplementation type :: rest := by
  cases type with
  | vlan => exact ⟨_, rfl⟩
  | macvlan => exact ⟨_, rfl⟩
  | ipvlan => exact ⟨_, rfl⟩

theorem appliesTo_first (child : LogicalPort) (type : SegmentationType) :
    appliesTo child (firstImplementation type) = .ok true := by
  cases type <;> rfl

/-- The child has a dispatch rule in any case. -/
theorem installDispatchRule_first {type : SegmentationType} {found : Option OFPFlowMod}
    (made : installDispatchRule lports segmentation (firstImplementation type) = .ok found) :
    ∃ message, found = some message ∧ message.command = .add ∧
      message.table = Const.ingressDispatchTable ∧
      message.priority = Const.priorityHigh := by
  unfold installDispatchRule at made
  cases located : ports lports segmentation with
  | error error =>
      rw [located] at made
      cases made
  | ok both =>
      rcases both with ⟨child, parent⟩
      rw [located] at made
      simp only [bind, Except.bind, appliesTo_first] at made
      cases matched : dispatchMatch child (firstImplementation type) with
      | error error =>
          rw [matched] at made
          cases made
      | ok pattern =>
          rw [matched] at made
          cases acted : dispatchActions segmentation parent (firstImplementation type) with
          | error error =>
              rw [acted] at made
              cases made
          | ok actions =>
              rw [acted] at made
              cases made
              exact ⟨_, rfl, rfl, rfl, rfl⟩

/-- `_install_local_cps`, and then `_uninstall_local_cps`. -/
def installAndUninstall (config : Config) (emit : PortEvent → LogicalPort → Action)
    (segmentation : ChildPortSegmentation) : Action := do
  installLocalCps config emit segmentation
  uninstallLocalCps emit segmentation

/-- Every rule of the child can be made. -/
def Makes (config : Config) (lports : Dict Id LogicalPort)
    (segmentation : ChildPortSegmentation) : Prop :=
  ∀ rule ∈ installationRules config lports segmentation, rule.isOk = true

/-- No flow has the table, the priority and the match of a rule of the child. -/
def Unoccupied (config : Config) (node : Node TrunkApp)
    (segmentation : ChildPortSegmentation) : Prop :=
  ∀ rule ∈ installationRules config node.lports segmentation, ∀ message,
    rule = .ok (some message) →
      node.apps.flows message.table message.priority message.pattern = none

/-- A rule that is made is there as long as nothing deletes it. -/
theorem modRule_hasDispatch {message : OFPFlowMod} (isAdd : message.command = .add)
    (table : message.table = Const.ingressDispatchTable)
    (priority : message.priority = Const.priorityHigh) (node : Node TrunkApp) :
    HasDispatch message.pattern (exec (modRule (.ok (some message))) node).2 := by
  have added : node.apps.flows.apply message message.table message.priority
      message.pattern = some ⟨message.cookie, message.instructions⟩ :=
    FlowTable.apply_add_self isAdd
  rw [table, priority] at added
  change Option.isSome (node.apps.flows.apply message _ _ _) = true
  rw [added]
  rfl

theorem exec_modRule_ok (found : Option OFPFlowMod) (node : Node TrunkApp) :
    ∃ after, exec (modRule (.ok found)) node = (.ok (), after) := by
  cases found with
  | none => exact ⟨_, rfl⟩
  | some message => exact ⟨_, rfl⟩

/-- Whatever was in the table, the rule that takes packets to the child stays behind. -/
theorem installAndUninstall_hasDispatch {emit : PortEvent → LogicalPort → Action}
    (emits : ∀ pattern event lport, Keeps (RetainsDispatch pattern) (emit event lport))
    {node : Node TrunkApp} (makes : Makes config node.lports segmentation) :
    ∃ rule ∈ installationRules config node.lports segmentation, ∃ message,
      rule = .ok (some message) ∧ message.table = Const.ingressDispatchTable ∧
      message.priority = Const.priorityHigh ∧
      HasDispatch message.pattern
        (exec (installAndUninstall config emit segmentation) node).2 := by
  rcases implementations_first segmentation.segmentationType with ⟨rest, types⟩
  have rules : ∃ others, installationRules config node.lports segmentation =
      installClassificationRule config node.lports segmentation
          (firstImplementation segmentation.segmentationType) ::
        installDispatchRule node.lports segmentation
          (firstImplementation segmentation.segmentationType) :: others := by
    unfold installationRules
    rw [types, List.flatMap_cons]
    exact ⟨_, rfl⟩
  rcases rules with ⟨others, rules⟩
  have madeFirst := makes _ (by rw [rules]; exact List.mem_cons_self)
  have memberSecond : installDispatchRule node.lports segmentation
      (firstImplementation segmentation.segmentationType) ∈
        installationRules config node.lports segmentation := by
    rw [rules]
    exact List.mem_cons_of_mem _ List.mem_cons_self
  have madeSecond := makes _ memberSecond
  cases first : installClassificationRule config node.lports segmentation
      (firstImplementation segmentation.segmentationType) with
  | error error =>
      rw [first] at madeFirst
      cases madeFirst
  | ok classification =>
      cases second : installDispatchRule node.lports segmentation
          (firstImplementation segmentation.segmentationType) with
      | error error =>
          rw [second] at madeSecond
          cases madeSecond
      | ok found =>
          rcases installDispatchRule_first second with
            ⟨dispatch, rfl, isAdd, table, priority⟩
          rw [second] at memberSecond
          refine ⟨_, memberSecond, dispatch, rfl, table, priority, ?_⟩
          rw [first, second] at rules
          rcases exec_modRule_ok classification node with ⟨classified, executed⟩
          rcases exec_modRule_ok (some dispatch) classified with ⟨dispatched, executedNext⟩
          have has := modRule_hasDispatch isAdd table priority classified
          rw [executedNext] at has
          have remaining : exec (installAndUninstall config emit segmentation) node =
              exec (do
                forM others modRule
                copyBinding segmentation
                emitChild emit (.bind .here) segmentation
                uninstallLocalCps emit segmentation) dispatched := by
            unfold installAndUninstall installLocalCps
            simp only [bind_assoc]
            rw [exec_bind_ok (exec_get node)]
            simp only [rules, List.forM_cons, bind_assoc]
            rw [exec_bind_ok executed, exec_bind_ok executedNext]
          have kept : Keeps (RetainsDispatch dispatch.pattern) (do
              forM others modRule
              copyBinding segmentation
              emitChild emit (.bind .here) segmentation
              uninstallLocalCps emit segmentation) := by
            refine Keeps.bind (Keeps.loop others fun rule member => ?_) fun _ =>
              Keeps.bind copyBinding_retains fun _ =>
                Keeps.bind (emitChild_retains (emits _) _) fun _ =>
                  uninstallCps_retains (emits _) .here
            have memberAll : rule ∈ installationRules config node.lports segmentation := by
              rw [rules]
              exact List.mem_cons_of_mem _ (List.mem_cons_of_mem _ member)
            exact modRule_retains (installationRules_harmless memberAll)
          rw [remaining]
          exact kept dispatched has

end Rules

/-- Uninstalling a child never undoes installing it: `delete_dispatch_rule` asks for
`PRIORITY_MEDIUM`, and the rule was installed with `PRIORITY_HIGH`. -/
theorem child_rules_outlive_child (config : Config) (trunkFirst : PortEvent → Bool) (depth : Nat)
    (node : Node TrunkApp) (segmentation : ChildPortSegmentation)
    (makes : Makes config node.lports segmentation)
    (unoccupied : Unoccupied config node segmentation) :
    (exec (installAndUninstall config (emit (callbacks config trunkFirst) depth)
      segmentation) node).2.apps.flows ≠ node.apps.flows := by
  have emits : ∀ pattern event lport, Keeps (RetainsDispatch pattern)
      (emit (callbacks config trunkFirst) depth event lport) :=
    fun pattern => emit_retains trunkFirst depth
  rcases installAndUninstall_hasDispatch emits makes with
    ⟨rule, member, message, made, table, priority, has⟩
  have free := unoccupied rule member message made
  rw [table, priority] at free
  intro restored
  unfold HasDispatch at has
  rw [restored, free] at has
  cases has

namespace Sample

/-- The parent is bound here, and no child of it is installed. -/
def parentBound : Node TrunkApp :=
  { Node.initial { } with lports := lports.insert "parent" (parentPort true "h1") }

theorem parentBound_makes : Makes settings parentBound.lports segmentation := by
  unfold Makes
  decide +kernel

theorem parentBound_unoccupied : Unoccupied settings parentBound segmentation :=
  fun _ _ _ _ => rfl

end Sample

open Sample in
theorem vlan_child_rules_outlive_child :
    (exec (installAndUninstall settings (emit (callbacks settings fun _ => true) 2)
      segmentation) parentBound).2.apps.flows ≠ parentBound.apps.flows :=
  child_rules_outlive_child settings (fun _ => true) 2 parentBound segmentation parentBound_makes
    parentBound_unoccupied

open Sample in
/-- The packets of a child that is gone are still taken to its parent. -/
theorem vlan_child_dispatch_left :
    Makes settings parentBound.lports segmentation ∧
    Unoccupied settings parentBound segmentation ∧
    parentBound.apps.flows Const.ingressDispatchTable Const.priorityHigh
      { reg7 := some (.exact 2) } = none ∧
    ((exec (installAndUninstall settings (emit (callbacks settings fun _ => true) 2)
      segmentation) parentBound).2.apps.flows Const.ingressDispatchTable
        Const.priorityHigh { reg7 := some (.exact 2) }).isSome = true :=
  ⟨parentBound_makes, parentBound_unoccupied, rfl, by decide +kernel⟩

end TrunkApp

end Dragonflow

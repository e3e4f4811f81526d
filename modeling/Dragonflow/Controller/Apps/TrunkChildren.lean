import Dragonflow.Controller.Apps.PortBindingEvents
import Dragonflow.Controller.Apps.Trunk

/-! # Children follow the events of their parent

What the trunk application and `PortBindingApp` make of one event of a parent,
whichever of the two is called first.
-/

namespace Dragonflow

open Program PortLocator PortBindingApp

namespace TrunkApp

/-! ## Nodes at work

While the events of the parent are handled, the sessions and the sets of
`PortBindingApp` can be one step apart. -/

/-- The segmentations of the store, all of one parent. Their ids are made from
the parent and the child, so no child has two. -/
structure Arranged (parent : Id) (lports : Dict Id LogicalPort)
    (segmentations : Dict Id ChildPortSegmentation) : Prop where
  keyed : Keyed lports
  ofParent : ∀ id segmentation, segmentations.lookup id = some segmentation →
    segmentation.parent = parent
  child : ∀ id segmentation, segmentations.lookup id = some segmentation →
    segmentation.port ≠ parent ∧ ∃ child, lports.lookup segmentation.port = some child
  distinct : ∀ id segmentation other segmentation',
    segmentations.lookup id = some segmentation →
    segmentations.lookup other = some segmentation' →
    segmentation.port = segmentation'.port → id = other

/-- The emitted events say that the ports are bound as `told`, and the sets that
they are bound as `kept`. Exactly the bound children have overrides. -/
structure Working (parent : Id) (node : Node TrunkApp)
    (told kept : Id → Option Locality) : Prop where
  sessions : ∀ id, session node.sessions id = some (told id)
  membership : ∀ id kind, id ∈ node.bound kind ↔ kept id = some kind
  overrides : ∀ id, (∃ binding, node.locations.lookup id = some binding) ↔
    id ≠ parent ∧ told id ≠ none
  noKeyError : PyError.keyError ∉ node.apps.errors

/-- Nothing that the store holds has changed. -/
def SameStore (node final : Node TrunkApp) : Prop :=
  final.lports = node.lports ∧ final.apps.segmentations = node.apps.segmentations

/-- All rules of a child can be made. -/
def Builds (config : Config) (lports : Dict Id LogicalPort)
    (segmentation : ChildPortSegmentation) : Prop :=
  ∀ rule ∈ installationRules config lports segmentation ++
    deletionRules lports segmentation, rule.isOk = true

variable {config : Config} {trunkFirst : PortEvent → Bool} {depth : Nat} {parent : Id}
  {node : Node TrunkApp} {told kept : Id → Option Locality}

theorem Working.withFlows (working : Working parent node told kept) (flows : Flows) :
    Working parent (setFlows node flows) told kept where
  sessions := working.sessions
  membership := by
    intro id kind
    rw [← working.membership id kind]
    cases kind <;> rfl
  overrides := working.overrides
  noKeyError := working.noKeyError

/-! ## Rules -/

theorem leads_rules (node : Node TrunkApp) {rules : List (Except PyError (Option OFPFlowMod))}
    (built : ∀ rule ∈ rules, rule.isOk = true) :
    Leads (forM rules modRule) node
      (fun _ final => ∃ flows, final = setFlows node flows) (fun _ _ => False) := by
  apply Leads.loop_const fun final => ∃ flows, final = setFlows node flows
  · rintro rule current member ⟨flows, rfl⟩
    cases rule with
    | error raised => cases built _ member
    | ok message =>
        cases message with
        | none => exact ⟨flows, rfl⟩
        | some message => exact ⟨flows.apply message, rfl⟩
  · exact ⟨node.apps.flows, rfl⟩

/-! ## Events of a child -/

theorem exec_logged_ok {handler : Action} {after : Node TrunkApp}
    (executed : exec handler node = (.ok (), after)) :
    exec (logged handler) node = (.ok (), after) := by
  change ((ExceptT.tryCatch handler _).run).run node = _
  simp only [exec] at executed
  simp only [ExceptT.tryCatch, ExceptT.run, ExceptT.mk, StateT.run_bind]
  simp only [ExceptT.run] at executed
  rw [executed]
  rfl

theorem getAllCpsByParent_eq_nil (config : Config) {lport : LogicalPort} {app : TrunkApp}
    (childless : ∀ id segmentation, app.segmentations.lookup id = some segmentation →
      segmentation.parent ≠ lport.id) :
    getAllCpsByParent config app lport = [] := by
  have none : (app.segmentations.entries.map Sigma.snd).filter
      (fun segmentation => segmentation.parent = lport.id) = [] := by
    rw [List.filter_eq_nil_iff]
    intro segmentation member
    rcases (Dict.mem_values_iff _ _).mp member with ⟨id, found⟩
    simpa using childless id segmentation found
  rw [getAllCpsByParent, none]
  exact List.perm_nil.mp (config.order_perm [])

/-- The trunk application has nothing to do for a port without children. -/
theorem exec_portCallbacks_childless {emit : PortEvent → LogicalPort → Action}
    {event : PortEvent} {lport : LogicalPort}
    (childless : ∀ id segmentation,
      node.apps.segmentations.lookup id = some segmentation →
      segmentation.parent ≠ lport.id) :
    exec (forM (portCallbacks config emit event lport) attempt) node = (.ok (), node) := by
  have nothing := getAllCpsByParent_eq_nil config childless
  rcases event with kind | kind | ⟨kind, original⟩
  · have bound : exec (portBound config emit kind lport) node = (.ok (), node) := by
      rw [portBound, exec_bind_ok (exec_get node), nothing]
      rfl
    simp only [portCallbacks, List.forM_cons, List.forM_nil, exec_bind, exec_attempt,
      exec_logged_ok bound, exec_pure]
  · have unbound : exec (portUnbound config emit kind lport) node = (.ok (), node) := by
      rw [portUnbound, exec_bind_ok (exec_get node), nothing]
      rfl
    simp only [portCallbacks, List.forM_cons, List.forM_nil, exec_bind, exec_attempt,
      exec_logged_ok unbound, exec_pure]
  · rfl

theorem exec_emit_childless {event : PortEvent} {lport : LogicalPort}
    (childless : ∀ id segmentation,
      node.apps.segmentations.lookup id = some segmentation →
      segmentation.parent ≠ lport.id) :
    exec (emit (callbacks config trunkFirst) (depth + 1) event lport) node =
      (.ok (), rebound (node.record event lport) event lport) := by
  rw [emit, exec_bind_ok (exec_modify _ node), callbacks]
  cases trunkFirst event with
  | true =>
      simp only [if_true, List.forM_append, exec_bind]
      rw [exec_portCallbacks_childless (by exact childless)]
      exact PortBindingApp.exec_callbacks event lport _
  | false =>
      simp only [Bool.false_eq_true, if_false, List.forM_append, exec_bind]
      rw [PortBindingApp.exec_callbacks]
      simp only
      rw [exec_portCallbacks_childless]
      simpa [Node.record] using childless

/-- An event of a child moves what is told and kept of it. -/
theorem leads_emitChild (sessions : ∀ id, session node.sessions id = some (told id))
    (membership : ∀ id kind, id ∈ node.bound kind ↔ kept id = some kind)
    {segmentation : ChildPortSegmentation} {child : LogicalPort} {event : PortEvent}
    {next : Option Locality}
    (childless : ∀ id segmentation,
      node.apps.segmentations.lookup id = some segmentation →
      segmentation.parent ≠ child.id)
    (stored : node.lports.lookup segmentation.port = some child)
    (same : child.id = segmentation.port)
    (toldInOrder : SessionEvent.follow (told segmentation.port) event.session = some next)
    (keptInOrder : SessionEvent.follow (kept segmentation.port) event.session =
      some next) :
    Leads (emitChild (emit (callbacks config trunkFirst) (depth + 1)) event segmentation)
      node
      (fun _ final =>
        (∀ id, session final.sessions id =
          some (Function.update told segmentation.port next id)) ∧
        (∀ id kind, id ∈ final.bound kind ↔
          Function.update kept segmentation.port next id = some kind) ∧
        final.locations = node.locations ∧ final.lports = node.lports ∧
        final.apps = node.apps)
      (fun _ _ => False) := by
  rw [TrunkApp.emitChild, leads_bind, leads_get, reference, stored]
  simp only [leads_bind, leads_ofExcept_ok]
  rw [leads_exec_ok (exec_emit_childless childless), ← same]
  rw [← same] at toldInOrder keptInOrder
  refine ⟨?_, ?_, by simp [Node.record], by simp [Node.record], by simp [Node.record]⟩
  · have unchanged : (rebound (node.record event child) event child).sessions =
        (node.record event child).sessions := by
      simp [Node.sessions]
    rw [unchanged]
    exact session_record sessions toldInOrder
  · apply membership_rebound _ keptInOrder
    intro id kind
    rw [← membership id kind]
    cases kind <;> rfl

section Child

variable {id : Id} {segmentation : ChildPortSegmentation} {kind : Locality}

theorem Arranged.childless {child : LogicalPort}
    {segmentations : Dict Id ChildPortSegmentation} {lports : Dict Id LogicalPort}
    (arranged : Arranged parent lports segmentations)
    (found : segmentations.lookup id = some segmentation)
    (same : child.id = segmentation.port) :
    ∀ other segmentation, segmentations.lookup other = some segmentation →
      segmentation.parent ≠ child.id := by
  intro other segmentation' found' equal
  rw [arranged.ofParent _ _ found', same] at equal
  exact (arranged.child _ _ found).1 equal.symm

/-- Copy the binding of the parent to a child and tell that it is bound. -/
theorem Working.bindChild
    (arranged : Arranged parent node.lports node.apps.segmentations)
    (working : Working parent node told kept)
    (found : node.apps.segmentations.lookup id = some segmentation)
    (parentStored : ∃ lport, node.lports.lookup parent = some lport)
    (toldFree : told segmentation.port = none)
    (keptFree : kept segmentation.port = none) :
    Leads (do
        copyBinding segmentation
        emitChild (emit (callbacks config trunkFirst) (depth + 1)) (.bind kind)
          segmentation) node
      (fun _ final => Working parent final
        (Function.update told segmentation.port (some kind))
        (Function.update kept segmentation.port (some kind)) ∧ SameStore node final)
      (fun _ _ => False) := by
  rcases parentStored with ⟨lport, storedParent⟩
  rcases arranged.child _ _ found with ⟨isChild, child, stored⟩
  have same : child.id = segmentation.port := arranged.keyed _ _ stored
  have ofParent := arranged.ofParent _ _ found
  rw [copyBinding, leads_bind, leads_bind, leads_get, reference, ofParent, storedParent]
  simp only [copyPortBinding, setPortBinding, leads_bind, leads_ofExcept_ok, leads_get,
    leads_modify]
  have toldInOrder : SessionEvent.follow (told segmentation.port)
      (PortEvent.bind kind).session = some (some kind) :=
    SessionEvent.follow_opened.mpr ⟨toldFree, rfl⟩
  have keptInOrder : SessionEvent.follow (kept segmentation.port)
      (PortEvent.bind kind).session = some (some kind) :=
    SessionEvent.follow_opened.mpr ⟨keptFree, rfl⟩
  refine Leads.mono (leads_emitChild ?_ ?_ ?_ ?_ same toldInOrder keptInOrder) ?_
    fun _ _ impossible => impossible
  · exact working.sessions
  · intro other kind
    rw [← working.membership other kind]
    cases kind <;> rfl
  · exact arranged.childless found same
  · exact stored
  · rintro _ final ⟨sessions, membership, locations, lports, apps⟩
    refine ⟨⟨sessions, membership, ?_, ?_⟩, lports, congrArg TrunkApp.segmentations apps⟩
    · intro other
      rw [locations, Dict.lookup_insert_eq]
      by_cases isThis : other = segmentation.port
      · simp [isThis, isChild]
      · simp [isThis, working.overrides other]
    · rw [apps]
      exact working.noKeyError

theorem Working.install
    (arranged : Arranged parent node.lports node.apps.segmentations)
    (working : Working parent node told kept)
    (found : node.apps.segmentations.lookup id = some segmentation)
    (parentStored : ∃ lport, node.lports.lookup parent = some lport)
    (toldFree : told segmentation.port = none)
    (keptFree : kept segmentation.port = none)
    (builds : kind = .here → Builds config node.lports segmentation) :
    Leads (installCps config (emit (callbacks config trunkFirst) (depth + 1)) kind
        segmentation) node
      (fun _ final => Working parent final
        (Function.update told segmentation.port (some kind))
        (Function.update kept segmentation.port (some kind)) ∧ SameStore node final)
      (fun _ _ => False) := by
  cases kind with
  | elsewhere =>
      exact working.bindChild arranged found parentStored toldFree keptFree
  | here =>
      rw [installCps, installLocalCps, leads_bind, leads_get]
      have built := leads_rules node fun rule member =>
        builds rfl rule (List.mem_append_left _ member)
      refine built.bind ?_
      rintro _ _ ⟨flows, rfl⟩
      exact (working.withFlows flows).bindChild arranged found parentStored toldFree
        keptFree

/-- Tell that a child is not bound any more and drop its override. -/
theorem Working.unbindChild (config : Config) (trunkFirst : PortEvent → Bool) (depth : Nat)
    (arranged : Arranged parent node.lports node.apps.segmentations)
    (working : Working parent node told kept)
    (found : node.apps.segmentations.lookup id = some segmentation)
    (toldBound : told segmentation.port = some kind)
    (keptBound : kept segmentation.port = some kind) :
    Leads (do
        emitChild (emit (callbacks config trunkFirst) (depth + 1)) (.unbind kind)
          segmentation
        clearBinding segmentation) node
      (fun _ final => Working parent final
        (Function.update told segmentation.port none)
        (Function.update kept segmentation.port none) ∧ SameStore node final)
      (fun _ _ => False) := by
  rcases arranged.child _ _ found with ⟨isChild, child, stored⟩
  have same : child.id = segmentation.port := arranged.keyed _ _ stored
  refine Leads.bind (leads_emitChild working.sessions working.membership
    (arranged.childless found same) stored same
    (SessionEvent.follow_closed.mpr ⟨toldBound, rfl⟩)
    (SessionEvent.follow_closed.mpr ⟨keptBound, rfl⟩)) ?_
  rintro _ middle ⟨sessions, membership, locations, lports, apps⟩
  have overridden := (working.overrides segmentation.port).mpr
    ⟨isChild, by rw [toldBound]; simp⟩
  rcases overridden with ⟨binding, override⟩
  rw [clearBinding, clearPortBinding, leads_bind, leads_get, locations, override]
  refine ⟨⟨sessions, ?_, ?_, ?_⟩, lports, congrArg TrunkApp.segmentations apps⟩
  · intro other kind
    rw [← membership other kind]
    cases kind <;> rfl
  · intro other
    rw [Dict.lookup_erase_eq]
    by_cases isThis : other = segmentation.port
    · simp [isThis]
    · simp [isThis, working.overrides other]
  · rw [apps]
    exact working.noKeyError

theorem Working.uninstall
    (arranged : Arranged parent node.lports node.apps.segmentations)
    (working : Working parent node told kept)
    (found : node.apps.segmentations.lookup id = some segmentation)
    (toldBound : told segmentation.port = some kind)
    (keptBound : kept segmentation.port = some kind)
    (builds : kind = .here → Builds config node.lports segmentation) :
    Leads (uninstallCps (emit (callbacks config trunkFirst) (depth + 1)) kind
        segmentation) node
      (fun _ final => Working parent final
        (Function.update told segmentation.port none)
        (Function.update kept segmentation.port none) ∧ SameStore node final)
      (fun _ _ => False) := by
  have unbound := working.unbindChild config trunkFirst depth arranged found toldBound
    keptBound
  cases kind with
  | elsewhere => exact unbound
  | here =>
      rw [uninstallCps, uninstallLocalCps, ← bind_assoc]
      refine unbound.bind ?_
      rintro _ middle ⟨settled, same⟩
      rw [leads_bind, leads_get, same.1]
      have built := leads_rules middle fun rule member =>
        builds rfl rule (List.mem_append_right _ member)
      refine built.mono ?_ fun _ _ impossible => impossible
      rintro _ _ ⟨flows, rfl⟩
      exact ⟨settled.withFlows flows, same⟩

end Child

/-! ## All children of the parent -/

def childIds (segmentations : Dict Id ChildPortSegmentation) : List Id :=
  segmentations.entries.map fun entry => entry.2.port

theorem mem_childIds {segmentations : Dict Id ChildPortSegmentation} {id : Id} :
    id ∈ childIds segmentations ↔ ∃ key segmentation,
      segmentations.lookup key = some segmentation ∧ segmentation.port = id := by
  constructor
  · intro member
    rcases List.mem_map.mp member with ⟨⟨key, segmentation⟩, entry, rfl⟩
    exact ⟨key, segmentation, AList.mem_lookup_iff.mpr entry, rfl⟩
  · rintro ⟨key, segmentation, found, rfl⟩
    exact List.mem_map.mpr ⟨⟨key, segmentation⟩, AList.mem_lookup_iff.mp found, rfl⟩

theorem Arranged.nodup_childIds {lports : Dict Id LogicalPort}
    {segmentations : Dict Id ChildPortSegmentation}
    (arranged : Arranged parent lports segmentations) :
    (childIds segmentations).Nodup := by
  apply List.Nodup.map_on _ segmentations.nodupKeys.nodup
  rintro ⟨key, segmentation⟩ member ⟨other, segmentation'⟩ member' same
  have found : segmentations.lookup key = some segmentation :=
    AList.mem_lookup_iff.mpr member
  have found' : segmentations.lookup other = some segmentation' :=
    AList.mem_lookup_iff.mpr member'
  have sameKey := arranged.distinct _ _ _ _ found found' same
  subst sameKey
  rw [found] at found'
  cases found'
  rfl

section Children

variable {lport : LogicalPort} {app : TrunkApp} {lports : Dict Id LogicalPort}

theorem Arranged.getAllCpsByParent_perm (config : Config)
    (arranged : Arranged parent lports app.segmentations) (same : lport.id = parent) :
    (getAllCpsByParent config app lport).Perm (app.segmentations.entries.map Sigma.snd) := by
  have all : (app.segmentations.entries.map Sigma.snd).filter
      (fun segmentation => segmentation.parent = lport.id) =
        app.segmentations.entries.map Sigma.snd := by
    rw [List.filter_eq_self]
    intro segmentation member
    rcases (Dict.mem_values_iff _ _).mp member with ⟨id, found⟩
    simpa [same] using arranged.ofParent id segmentation found
  rw [getAllCpsByParent, all]
  exact config.order_perm _

theorem Arranged.mem_getAllCpsByParent
    (arranged : Arranged parent lports app.segmentations) (same : lport.id = parent)
    {segmentation : ChildPortSegmentation} :
    segmentation ∈ getAllCpsByParent config app lport ↔
      ∃ id, app.segmentations.lookup id = some segmentation := by
  rw [(arranged.getAllCpsByParent_perm config same).mem_iff]
  exact Dict.mem_values_iff _ _

theorem Arranged.map_port_perm (config : Config)
    (arranged : Arranged parent lports app.segmentations) (same : lport.id = parent) :
    ((getAllCpsByParent config app lport).map ChildPortSegmentation.port).Perm
      (childIds app.segmentations) := by
  have mapped := (arranged.getAllCpsByParent_perm config same).map
    ChildPortSegmentation.port
  rw [List.map_map] at mapped
  exact mapped

end Children

/-- How the ports are bound when the parent is bound as `own` and its children
as `others`. -/
def status (parent : Id) (segmentations : Dict Id ChildPortSegmentation)
    (own others : Option Locality) (id : Id) : Option Locality :=
  if id = parent then own
  else if id ∈ childIds segmentations then others
  else none

/-- Some ports are bound as `value`, the others as before. -/
def assign (ids : List Id) (value : Option Locality) (status : Id → Option Locality)
    (id : Id) : Option Locality :=
  if id ∈ ids then value else status id

theorem assign_concat (ids : List Id) (value : Option Locality)
    (status : Id → Option Locality) (last : Id) :
    assign (ids ++ [last]) value status =
      Function.update (assign ids value status) last value := by
  funext id
  simp only [assign, List.mem_append, List.mem_singleton, Function.update_apply]
  by_cases isLast : id = last <;> by_cases earlier : id ∈ ids <;> simp [isLast, earlier]

/-- What is done to one child after the other is done to all of them. -/
theorem Working.forAll {body : ChildPortSegmentation → Action}
    {segmentations : List ChildPortSegmentation} {before value : Option Locality}
    (distinct : (segmentations.map ChildPortSegmentation.port).Nodup)
    (step : ∀ current told kept segmentation, segmentation ∈ segmentations →
      Working parent current told kept → SameStore node current →
      told segmentation.port = before → kept segmentation.port = before →
      Leads (body segmentation) current
        (fun _ final => Working parent final
          (Function.update told segmentation.port value)
          (Function.update kept segmentation.port value) ∧ SameStore current final)
        (fun _ _ => False))
    (working : Working parent node told kept)
    (toldBefore : ∀ segmentation ∈ segmentations, told segmentation.port = before)
    (keptBefore : ∀ segmentation ∈ segmentations, kept segmentation.port = before) :
    Leads (forM segmentations body) node
      (fun _ final => Working parent final
        (assign (segmentations.map ChildPortSegmentation.port) value told)
        (assign (segmentations.map ChildPortSegmentation.port) value kept) ∧
        SameStore node final)
      (fun _ _ => False) := by
  refine Leads.loop (fun done current => Working parent current
    (assign (done.map ChildPortSegmentation.port) value told)
    (assign (done.map ChildPortSegmentation.port) value kept) ∧
    SameStore node current) segmentations ?_ ?_
  · rintro done segmentation rest current rfl ⟨now, same⟩
    have member : segmentation ∈ done ++ segmentation :: rest := by simp
    have fresh : segmentation.port ∉ done.map ChildPortSegmentation.port := by
      rw [List.map_append, List.map_cons, List.nodup_append] at distinct
      intro earlier
      exact distinct.2.2 _ earlier _ List.mem_cons_self rfl
    refine (step current _ _ segmentation member now same ?_ ?_).mono ?_
      fun _ _ impossible => impossible
    · rw [assign, if_neg fresh, toldBefore _ member]
    · rw [assign, if_neg fresh, keptBefore _ member]
    · rintro _ final ⟨after, sameAfter⟩
      rw [List.map_append, List.map_singleton, assign_concat, assign_concat]
      exact ⟨after, sameAfter.1.trans same.1, sameAfter.2.trans same.2⟩
  · exact ⟨working, rfl, rfl⟩

theorem Arranged.assign_status {lports : Dict Id LogicalPort}
    {segmentations : Dict Id ChildPortSegmentation} {ids : List Id}
    (arranged : Arranged parent lports segmentations)
    (children : ids.Perm (childIds segmentations)) (own others value : Option Locality) :
    assign ids value (status parent segmentations own others) =
      status parent segmentations own value := by
  funext id
  simp only [assign, children.mem_iff, status]
  by_cases isChild : id ∈ childIds segmentations
  · rcases mem_childIds.mp isChild with ⟨key, segmentation, found, rfl⟩
    have notParent := (arranged.child _ _ found).1
    simp [isChild, notParent]
  · simp [isChild]

theorem Arranged.status_child {lports : Dict Id LogicalPort}
    {segmentations : Dict Id ChildPortSegmentation} {id : Id}
    {segmentation : ChildPortSegmentation}
    (arranged : Arranged parent lports segmentations)
    (found : segmentations.lookup id = some segmentation)
    (own others : Option Locality) :
    status parent segmentations own others segmentation.port = others := by
  rw [status, if_neg (arranged.child _ _ found).1,
    if_pos (mem_childIds.mpr ⟨id, segmentation, found, rfl⟩)]

theorem status_parent (segmentations : Dict Id ChildPortSegmentation)
    (own others : Option Locality) : status parent segmentations own others parent = own :=
  if_pos rfl

theorem update_status_parent (segmentations : Dict Id ChildPortSegmentation)
    (own others value : Option Locality) :
    Function.update (status parent segmentations own others) parent value =
      status parent segmentations value others := by
  funext id
  rw [Function.update_apply, status, status]
  by_cases isParent : id = parent <;> simp [isParent]

/-! ## Events of the parent -/

/-- The rules of all children can be made. -/
def BuildsAll (config : Config) (lports : Dict Id LogicalPort)
    (segmentations : Dict Id ChildPortSegmentation) : Prop :=
  ∀ segmentation ∈ segmentations.entries.map Sigma.snd, Builds config lports segmentation

theorem leads_logged {handler : Action} {returns : Unit → Node TrunkApp → Prop}
    (leads : Leads handler node returns fun _ _ => False) :
    Leads (logged handler) node returns fun _ _ => False := by
  rcases leads.returned with ⟨_, after, executed, holds⟩
  rw [leads_exec_ok (exec_logged_ok executed)]
  exact holds

section Parent

variable {lport : LogicalPort} {event : PortEvent}
  {own own' others next : Option Locality}

theorem Arranged.status_before (config : Config)
    (arranged : Arranged parent node.lports node.apps.segmentations)
    (same : lport.id = parent) (own others : Option Locality) :
    ∀ segmentation ∈ getAllCpsByParent config node.apps lport,
      status parent node.apps.segmentations own others segmentation.port = others := by
  intro segmentation member
  rcases (arranged.mem_getAllCpsByParent same).mp member with ⟨id, found⟩
  exact arranged.status_child found own others

theorem Working.portBound {kind : Locality}
    (arranged : Arranged parent node.lports node.apps.segmentations)
    (working : Working parent node
      (status parent node.apps.segmentations own none)
      (status parent node.apps.segmentations own' none))
    (same : lport.id = parent)
    (parentStored : ∃ lport, node.lports.lookup parent = some lport)
    (builds : kind = .here → BuildsAll config node.lports node.apps.segmentations) :
    Leads (portBound config (emit (callbacks config trunkFirst) (depth + 1)) kind lport)
      node
      (fun _ final => Working parent final
        (status parent node.apps.segmentations own (some kind))
        (status parent node.apps.segmentations own' (some kind)) ∧ SameStore node final)
      (fun _ _ => False) := by
  have children := arranged.map_port_perm config same
  rw [TrunkApp.portBound, leads_bind, leads_get,
    ← arranged.assign_status children own none (some kind),
    ← arranged.assign_status children own' none (some kind)]
  apply working.forAll (children.nodup_iff.mpr arranged.nodup_childIds) _
    (arranged.status_before config same own none)
    (arranged.status_before config same own' none)
  intro current told kept segmentation member now sameNow toldFree keptFree
  rcases (arranged.mem_getAllCpsByParent same).mp member with ⟨id, found⟩
  have buildsChild : kind = .here → Builds config current.lports segmentation := by
    intro isHere
    rw [sameNow.1]
    exact builds isHere segmentation ((Dict.mem_values_iff _ _).mpr ⟨id, found⟩)
  rw [← sameNow.1] at parentStored
  rw [← sameNow.2] at found
  rw [← sameNow.1, ← sameNow.2] at arranged
  exact now.install arranged found parentStored toldFree keptFree buildsChild

theorem Working.portUnbound {kind : Locality}
    (arranged : Arranged parent node.lports node.apps.segmentations)
    (working : Working parent node
      (status parent node.apps.segmentations own (some kind))
      (status parent node.apps.segmentations own' (some kind)))
    (same : lport.id = parent)
    (builds : kind = .here → BuildsAll config node.lports node.apps.segmentations) :
    Leads (portUnbound config (emit (callbacks config trunkFirst) (depth + 1)) kind lport)
      node
      (fun _ final => Working parent final
        (status parent node.apps.segmentations own none)
        (status parent node.apps.segmentations own' none) ∧ SameStore node final)
      (fun _ _ => False) := by
  have children := arranged.map_port_perm config same
  rw [TrunkApp.portUnbound, leads_bind, leads_get,
    ← arranged.assign_status children own (some kind) none,
    ← arranged.assign_status children own' (some kind) none]
  apply working.forAll (children.nodup_iff.mpr arranged.nodup_childIds) _
    (arranged.status_before config same own (some kind))
    (arranged.status_before config same own' (some kind))
  intro current told kept segmentation member now sameNow toldBound keptBound
  rcases (arranged.mem_getAllCpsByParent same).mp member with ⟨id, found⟩
  have buildsChild : kind = .here → Builds config current.lports segmentation := by
    intro isHere
    rw [sameNow.1]
    exact builds isHere segmentation ((Dict.mem_values_iff _ _).mpr ⟨id, found⟩)
  rw [← sameNow.2] at found
  rw [← sameNow.1, ← sameNow.2] at arranged
  exact now.uninstall arranged found toldBound keptBound buildsChild

/-- The children follow the parent. -/
theorem Working.children (config : Config) (trunkFirst : PortEvent → Bool) (depth : Nat)
    (arranged : Arranged parent node.lports node.apps.segmentations)
    (working : Working parent node
      (status parent node.apps.segmentations own others)
      (status parent node.apps.segmentations own' others))
    (same : lport.id = parent)
    (parentStored : ∃ lport, node.lports.lookup parent = some lport)
    (inOrder : SessionEvent.follow others event.session = some next)
    (builds : event = .bind .here ∨ event = .unbind .here →
      BuildsAll config node.lports node.apps.segmentations) :
    Leads (forM (portCallbacks config
        (emit (callbacks config trunkFirst) (depth + 1)) event lport) attempt) node
      (fun _ final => Working parent final
        (status parent node.apps.segmentations own next)
        (status parent node.apps.segmentations own' next) ∧ SameStore node final)
      (fun _ _ => False) := by
  rcases event with kind | kind | ⟨kind, original⟩
  · rcases SessionEvent.follow_opened.mp inOrder with ⟨rfl, rfl⟩
    simp only [portCallbacks, List.forM_cons, List.forM_nil, leads_bind, leads_attempt,
      leads_pure]
    exact (leads_logged (working.portBound arranged same parentStored fun isHere =>
      builds (.inl (congrArg _ isHere)))).returning
  · rcases SessionEvent.follow_closed.mp inOrder with ⟨rfl, rfl⟩
    simp only [portCallbacks, List.forM_cons, List.forM_nil, leads_bind, leads_attempt,
      leads_pure]
    exact (leads_logged (working.portUnbound arranged same fun isHere =>
      builds (.inr (congrArg _ isHere)))).returning
  · rcases SessionEvent.follow_used.mp inOrder with ⟨rfl, rfl⟩
    exact ⟨working, rfl, rfl⟩

/-- The sets of `PortBindingApp` follow the parent. -/
theorem Working.rebound {segmentations : Dict Id ChildPortSegmentation}
    (working : Working parent node told (status parent segmentations own others))
    (same : lport.id = parent)
    (inOrder : SessionEvent.follow own event.session = some next) :
    Working parent (rebound node event lport) told
      (status parent segmentations next others) where
  sessions := by
    intro id
    rw [← working.sessions id]
    simp [Node.sessions]
  membership := by
    intro id kind
    have ofPort : SessionEvent.follow (status parent segmentations own others lport.id)
        event.session = some next := by
      rw [same, status_parent]
      exact inOrder
    have moved := membership_rebound working.membership ofPort id kind
    rw [same, update_status_parent] at moved
    exact moved
  overrides := by
    intro id
    rw [rebound_locations]
    exact working.overrides id
  noKeyError := by
    rw [rebound_apps]
    exact working.noKeyError

theorem Working.record {segmentations : Dict Id ChildPortSegmentation}
    (working : Working parent node (status parent segmentations own others) kept)
    (same : lport.id = parent)
    (inOrder : SessionEvent.follow own event.session = some next) :
    Working parent (node.record event lport) (status parent segmentations next others)
      kept where
  sessions := by
    have ofPort : SessionEvent.follow (status parent segmentations own others lport.id)
        event.session = some next := by
      rw [same, status_parent]
      exact inOrder
    have told := session_record working.sessions ofPort
    rw [same, update_status_parent] at told
    exact told
  membership := by
    intro id kind
    rw [← working.membership id kind]
    cases kind <;> rfl
  overrides := by
    intro id
    change (∃ binding, node.locations.lookup id = some binding) ↔ _
    rw [working.overrides id]
    by_cases isParent : id = parent <;> simp [status, isParent]
  noKeyError := working.noKeyError

/-- An event of the parent moves the parent and its children, whichever of the
two applications is called first. -/
theorem Working.emitParent
    (arranged : Arranged parent node.lports node.apps.segmentations)
    (working : Working parent node (status parent node.apps.segmentations own own)
      (status parent node.apps.segmentations own own))
    (same : lport.id = parent)
    (parentStored : ∃ lport, node.lports.lookup parent = some lport)
    (inOrder : SessionEvent.follow own event.session = some next)
    (builds : event = .bind .here ∨ event = .unbind .here →
      BuildsAll config node.lports node.apps.segmentations) :
    Leads (emit (callbacks config trunkFirst) (depth + 2) event lport) node
      (fun _ final => Working parent final
        (status parent node.apps.segmentations next next)
        (status parent node.apps.segmentations next next) ∧ SameStore node final)
      (fun _ _ => False) := by
  have recorded := working.record same inOrder
  rw [emit, leads_bind, leads_modify, callbacks]
  cases trunkFirst event with
  | true =>
      simp only [if_true, List.forM_append]
      refine Leads.bind (recorded.children config trunkFirst depth arranged same parentStored
        inOrder builds) ?_
      rintro _ middle ⟨followed, sameMiddle⟩
      rw [leads_exec_ok (PortBindingApp.exec_callbacks event lport middle)]
      refine ⟨followed.rebound same inOrder, ?_, ?_⟩
      · rw [rebound_lports]
        exact sameMiddle.1
      · rw [rebound_apps]
        exact sameMiddle.2
  | false =>
      simp only [Bool.false_eq_true, if_false, List.forM_append, leads_bind]
      rw [leads_exec_ok (PortBindingApp.exec_callbacks event lport _)]
      have kept := recorded.rebound same inOrder
      have sameLports : (PortBindingApp.rebound (node.record event lport) event
          lport).lports = node.lports := by
        simp [Node.record]
      have sameApps : (PortBindingApp.rebound (node.record event lport) event
          lport).apps = node.apps := by
        simp [Node.record]
      rw [← sameLports, ← sameApps] at arranged builds
      rw [← sameLports] at parentStored
      rw [← sameApps] at kept
      have followed := kept.children config trunkFirst depth arranged same parentStored inOrder
        builds
      rw [sameApps] at followed
      refine followed.mono ?_ fun _ _ impossible => impossible
      rintro _ final ⟨moved, sameFinal⟩
      exact ⟨moved, sameFinal.1.trans sameLports,
        sameFinal.2.trans (congrArg TrunkApp.segmentations sameApps)⟩

end Parent

end TrunkApp

end Dragonflow

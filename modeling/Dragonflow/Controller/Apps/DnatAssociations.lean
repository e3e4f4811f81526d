import Dragonflow.Controller.Apps.DnatFlows
import Dragonflow.Foundation.Steps

/-! # The flows of a floating ip follow its association

They are built for the version that the fixed port has when it is associated or bound.
The application does not register for updates of the port, and the removals are built for
the version that the port has then.
-/

namespace Dragonflow

open Program PortLocator

namespace DNATApp

variable {setting : Setting} {dnatFirst : PortEvent → Bool} {depth : Nat} {node after : Node DNATApp}
  {floatingip original : FloatingIp} {lport : LogicalPort} {translated : Translation}
  {held next : Option Translation} {lports : Dict Id LogicalPort}
  {floatingips : Dict Id FloatingIp}

/-! ## Invariants -/

/-- Flows are installed for a translation, or there are none. -/
structure Settled (setting : Setting) (app : DNATApp) (locations : Locations)
    (held : Option Translation) : Prop where
  flows : ∀ flow, app.flows.Has flow ↔
    ∃ translated, held = some translated ∧
      ∃ message ∈ setting.installs translated, flow = message.flow
  overrides : ∀ id, locations.lookup id ≠ none ↔ id = setting.floating.id ∧ held ≠ none
  idle : app.lportsInProcess = ∅

/-- The store holds versions of the floating ip, its port and ports that are bound here. -/
structure Stocked (setting : Setting) (lports : Dict Id LogicalPort)
    (floatingips : Dict Id FloatingIp) : Prop where
  floating : lports.lookup setting.floating.id = some setting.floating
  keyed : ∀ id lport, lports.lookup id = some lport → lport.id = id
  bound : ∀ id lport, lports.lookup id = some lport → id ≠ setting.floating.id →
    lport.boundAs setting.config.host = some .here
  versions : ∀ id floatingip, floatingips.lookup id = some floatingip →
    id = setting.id ∧ setting.IsVersion floatingip

/-- What the handlers of floating ips leave alone. -/
structure Framed (setting : Setting) (node after : Node DNATApp) : Prop where
  lports : after.lports = node.lports
  floatingips : after.apps.floatingips = node.apps.floatingips
  bound : ∀ id kind, id ≠ setting.floating.id →
    (id ∈ after.bound kind ↔ id ∈ node.bound kind)

theorem Framed.refl : Framed setting node node :=
  ⟨rfl, rfl, fun _ _ _ => Iff.rfl⟩

theorem Framed.trans {middle : Node DNATApp} (first : Framed setting node middle)
    (second : Framed setting middle after) : Framed setting node after where
  lports := second.lports.trans first.lports
  floatingips := second.floatingips.trans first.floatingips
  bound := by
    intro id kind other
    exact (second.bound id kind other).trans (first.bound id kind other)

theorem Settled.free {app : DNATApp} {locations : Locations}
    (settled : Settled setting app locations held) {id : Id}
    (other : id ≠ setting.floating.id) : locations.lookup id = none := by
  by_contra found
  exact other ((settled.overrides id).mp found).1

/-! ## Lookups -/

theorem getAll_eq_nil {config : Config} {app : DNATApp} {key : FloatingIp → Bool}
    (noSuch : ∀ id floatingip, app.floatingips.lookup id = some floatingip →
      key floatingip = false) : getAll config app key = [] := by
  have isEmpty : (app.floatingips.entries.map Sigma.snd).filter key = [] := by
    rw [List.filter_eq_nil_iff]
    intro floatingip member
    rcases (Dict.mem_values_iff _ _).mp member with ⟨id, found⟩
    rw [noSuch id floatingip found]
    exact Bool.false_ne_true
  unfold getAll
  rw [isEmpty]
  exact List.perm_nil.mp (config.order_perm [])

theorem getAll_eq_singleton {config : Config} {app : DNATApp} {key : FloatingIp → Bool}
    {id : Id} (found : app.floatingips.lookup id = some floatingip)
    (only : ∀ other version, app.floatingips.lookup other = some version → other = id)
    (isKey : key floatingip = true) : getAll config app key = [floatingip] := by
  have isSingle : (app.floatingips.entries.map Sigma.snd).Perm [floatingip] := by
    have distinct : (app.floatingips.entries.map Sigma.snd).Nodup := by
      rw [Dict.nodup_values_iff]
      intro first second version isFirst isSecond
      rw [only first version isFirst, only second version isSecond]
    apply (List.perm_ext_iff_of_nodup distinct (List.nodup_singleton _)).mpr
    intro version
    rw [Dict.mem_values_iff, List.mem_singleton]
    constructor
    · intro stored
      rcases stored with ⟨other, isStored⟩
      have sameKey := only other version isStored
      subst sameKey
      rw [found, Option.some.injEq] at isStored
      exact isStored.symm
    · intro same
      exact ⟨id, same ▸ found⟩
  unfold getAll
  have isList := List.perm_singleton.mp isSingle
  rw [isList, List.filter_cons_of_pos isKey, List.filter_nil]
  exact List.perm_singleton.mp (config.order_perm [floatingip])

theorem getFloatingipsByLport_eq_nil {app : DNATApp}
    (noSuch : ∀ id floatingip, app.floatingips.lookup id = some floatingip →
      floatingip.lport ≠ some lport.id) :
    getFloatingipsByLport setting.config app lport = [] := by
  apply getAll_eq_nil
  intro id floatingip found
  exact decide_eq_false (noSuch id floatingip found)

theorem Stocked.getFloatingipsByLport_floating {app : DNATApp}
    (stocked : Stocked setting lports app.floatingips) :
    getFloatingipsByLport setting.config app setting.floating = [] := by
  apply getFloatingipsByLport_eq_nil
  intro id floatingip found
  exact (stocked.versions id floatingip found).2.notItself

theorem Stocked.getFloatingipsByLport_eq_singleton {app : DNATApp}
    (stocked : Stocked setting lports app.floatingips)
    (found : app.floatingips.lookup setting.id = some floatingip)
    (associated : floatingip.lport = some lport.id) :
    getFloatingipsByLport setting.config app lport = [floatingip] :=
  getAll_eq_singleton found
    (fun other version isStored => (stocked.versions other version isStored).1)
    (decide_eq_true associated)

theorem Stocked.getFloatingipsByFloatingLport_eq_nil {app : DNATApp}
    (stocked : Stocked setting lports app.floatingips)
    (other : lport.id ≠ setting.floating.id) :
    getFloatingipsByFloatingLport setting.config app lport = [] := by
  apply getAll_eq_nil
  intro id floatingip found
  apply decide_eq_false
  rw [(stocked.versions id floatingip found).2.samePort]
  exact other.symm

/-! ## Emitting -/

/-- What the handlers of this application do about an event. -/
def handled (config : Config) (dnatFirst : PortEvent → Bool) (depth : Nat) (event : PortEvent)
    (lport : LogicalPort) (node : Node DNATApp) : Node DNATApp :=
  (exec (forM (portCallbacks config (emit (callbacks config dnatFirst) depth) event lport)
    attempt) node).2

theorem exec_handlers (config : Config) (event : PortEvent) (lport : LogicalPort)
    (node : Node DNATApp) :
    exec (forM (portCallbacks config (emit (callbacks config dnatFirst) depth) event lport)
      attempt) node = (.ok (), handled config dnatFirst depth event lport node) := by
  have returns : ∀ (actions : List Action) (node : Node DNATApp),
      (exec (forM actions attempt) node).1 = .ok () := by
    intro actions
    induction actions with
    | nil => exact fun _ => rfl
    | cons action actions induction =>
        intro node
        rw [List.forM_cons, exec_bind_ok (exec_attempt _ _)]
        exact induction _
  exact Prod.ext (returns _ node) rfl

theorem exec_emit (config : Config) (event : PortEvent) (lport : LogicalPort)
    (node : Node DNATApp) :
    exec (emit (callbacks config dnatFirst) (depth + 1) event lport) node = (.ok (),
      if dnatFirst event then
        PortBindingApp.rebound
          (handled config dnatFirst depth event lport (node.record event lport)) event lport
      else
        handled config dnatFirst depth event lport
          (PortBindingApp.rebound (node.record event lport) event lport)) := by
  rw [emit, exec_bind_ok (exec_modify _ node), callbacks]
  cases isFirst : dnatFirst event with
  | true =>
      rw [if_pos rfl, List.forM_append, exec_bind_ok (exec_handlers _ _ _ _),
        PortBindingApp.exec_callbacks, if_pos rfl]
  | false =>
      rw [if_neg Bool.false_ne_true, List.forM_append,
        exec_bind_ok (PortBindingApp.exec_callbacks _ _ _), exec_handlers,
        if_neg Bool.false_ne_true]

/-- Whichever application is called first, the handlers meet the node as it was, but for
the sets of bound ports. -/
theorem emit_leaves {config : Config} {event : PortEvent} (post : DNATApp → Locations → Prop)
    (handles : ∀ before : Node DNATApp, before.apps = node.apps →
      before.locations = node.locations → before.lports = node.lports →
      post (handled config dnatFirst depth event lport before).apps
          (handled config dnatFirst depth event lport before).locations ∧
        Framed setting before (handled config dnatFirst depth event lport before)) :
    ∃ after, exec (emit (callbacks config dnatFirst) (depth + 1) event lport) node =
        (.ok (), after) ∧ post after.apps after.locations ∧ after.lports = node.lports ∧
      after.apps.floatingips = node.apps.floatingips ∧
      ∀ id kind, id ≠ setting.floating.id →
        (id ∈ after.bound kind ↔
          id ∈ (PortBindingApp.rebound node event lport).bound kind) := by
  have reboundCongr : ∀ first second : Node DNATApp, ∀ id,
      (∀ kind, id ∈ first.bound kind ↔ id ∈ second.bound kind) → ∀ kind,
      (id ∈ (PortBindingApp.rebound first event lport).bound kind ↔
        id ∈ (PortBindingApp.rebound second event lport).bound kind) := by
    intro first second id same kind
    cases event with
    | bind other =>
        by_cases isOther : kind = other
        · subst isOther
          simp [PortBindingApp.rebound, same]
        · simp [PortBindingApp.rebound, isOther, same]
    | unbind other =>
        by_cases isOther : kind = other
        · subst isOther
          simp [PortBindingApp.rebound, same]
        · simp [PortBindingApp.rebound, isOther, same]
    | updated other original => exact same kind
  have recorded : ∀ kind, (node.record event lport).bound kind = node.bound kind := by
    intro kind
    cases kind <;> rfl
  rw [exec_emit]
  cases dnatFirst event with
  | true =>
      rw [if_pos rfl]
      rcases handles (node.record event lport) rfl rfl rfl with ⟨holds, framed⟩
      refine ⟨_, rfl, ?_, ?_, ?_, ?_⟩
      · rw [PortBindingApp.rebound_apps, PortBindingApp.rebound_locations]
        exact holds
      · exact (PortBindingApp.rebound_lports _ _ _).trans framed.lports
      · exact (congrArg _ (PortBindingApp.rebound_apps _ _ _)).trans framed.floatingips
      · intro id kind other
        apply reboundCongr
        intro kind
        rw [framed.bound id kind other, recorded]
  | false =>
      rw [if_neg Bool.false_ne_true]
      rcases handles (PortBindingApp.rebound (node.record event lport) event lport)
        (PortBindingApp.rebound_apps _ _ _) (PortBindingApp.rebound_locations _ _ _)
        (PortBindingApp.rebound_lports _ _ _) with ⟨holds, framed⟩
      refine ⟨_, rfl, holds, ?_, ?_, ?_⟩
      · exact framed.lports.trans (PortBindingApp.rebound_lports _ _ _)
      · exact framed.floatingips.trans (congrArg _ (PortBindingApp.rebound_apps _ _ _))
      · intro id kind other
        rw [framed.bound id kind other]
        apply reboundCongr
        intro kind
        rw [recorded]

/-- Events of the floating port change none but the state of this application. -/
theorem emit_floating {event : PortEvent} (change : DNATApp → DNATApp)
    (keeps : ∀ app, (change app).floatingips = app.floatingips)
    (changes : ∀ before : Node DNATApp, before.apps = node.apps →
      handled setting.config dnatFirst depth event setting.floating before =
        { before with apps := change before.apps }) :
    ∃ after, exec (emit (callbacks setting.config dnatFirst) (depth + 1) event
        setting.floating) node = (.ok (), after) ∧ after.apps = change node.apps ∧
      after.locations = node.locations ∧ Framed setting node after := by
  have handles : ∀ before : Node DNATApp, before.apps = node.apps →
      before.locations = node.locations → before.lports = node.lports →
      ((handled setting.config dnatFirst depth event setting.floating before).apps =
          change node.apps ∧
        (handled setting.config dnatFirst depth event setting.floating before).locations =
          node.locations) ∧
      Framed setting before
        (handled setting.config dnatFirst depth event setting.floating before) := by
    intro before sameApps sameLocations _
    rw [changes before sameApps]
    refine ⟨⟨congrArg change sameApps, sameLocations⟩, rfl, keeps _, ?_⟩
    intro id kind _
    cases kind <;> rfl
  rcases emit_leaves (fun app locations => app = change node.apps ∧ locations = node.locations)
    handles with ⟨after, executed, ⟨isApp, isLocations⟩, sameLports, sameFloatingips, bound⟩
  refine ⟨after, executed, isApp, isLocations, sameLports, sameFloatingips, ?_⟩
  intro id kind other
  rw [bound id kind other]
  cases event with
  | bind other =>
      by_cases isOther : kind = other
      · simp_all [PortBindingApp.rebound]
      · simp_all [PortBindingApp.rebound]
  | unbind other =>
      by_cases isOther : kind = other
      · simp_all [PortBindingApp.rebound]
      · simp_all [PortBindingApp.rebound]
  | updated _ _ => rfl

/-- No other floating ip is associated with the floating port. -/
theorem handled_bind_floating (stocked : Stocked setting lports node.apps.floatingips) :
    handled setting.config dnatFirst depth (.bind .here) setting.floating node = node := by
  unfold handled
  simp only [portCallbacks, List.forM_cons, List.forM_nil, exec_bind, exec_attempt, exec_pure,
    portBound, exec_get]
  rw [stocked.getFloatingipsByLport_floating]
  rfl

/-- An event that the application emits itself is only taken off the list. -/
theorem handled_unbind_floating (inProcess : setting.floating.id ∈ node.apps.lportsInProcess) :
    handled setting.config dnatFirst depth (.unbind .here) setting.floating node =
      { node with apps := { node.apps with
          lportsInProcess := node.apps.lportsInProcess.erase setting.floating.id } } := by
  unfold handled
  simp only [portCallbacks, List.forM_cons, List.forM_nil, exec_bind, exec_attempt, exec_pure,
    portUnbound, exec_get]
  rw [if_pos inProcess]
  rfl

/-! ## Installing and uninstalling -/

/-- The node with more messages sent to the switch. -/
def sent (node : Node DNATApp) (messages : List OFPFlowMod) : Node DNATApp :=
  { node with apps := { node.apps with flows := node.apps.flows.applyAll messages } }

theorem exec_modFlows (messages : List OFPFlowMod) (node : Node DNATApp) :
    exec (forM (messages.map Except.ok) modFlow) node = (.ok (), sent node messages) := by
  induction messages generalizing node with
  | nil => rfl
  | cons message messages induction =>
      rw [List.map_cons, List.forM_cons]
      have first : exec (modFlow (.ok message)) node = (.ok (), sent node [message]) := rfl
      rw [exec_bind_ok first, induction]
      rfl

/-- A port that is bound here is local. -/
theorem isPortLocal_bound {host : Id} {locations : Locations}
    (isBound : lport.boundAs host = some .here)
    (free : locations.lookup lport.id = none) : isPortLocal host locations lport = true := by
  rw [PortBindingApp.isPortLocal_eq free]
  apply decide_eq_true
  unfold LogicalPort.boundAs at isBound
  by_cases up : lport.Up
  · rw [if_pos up] at isBound
    exact isBound
  · rw [if_neg up] at isBound
    cases isBound

/-- The binding of the floating port is overridden by that of the fixed port. -/
theorem copyBinding_leaves (setting : Setting)
    (isFixed : fixedPort node.lports floatingip = .ok lport) :
    ∃ after, exec (copyBinding floatingip) node = (.ok (), after) ∧ after.apps = node.apps ∧
      after.locations = node.locations.insert floatingip.floatingLport
        (getPortBinding node.locations lport) ∧ Framed setting node after := by
  unfold copyBinding
  rw [exec_bind_ok (exec_get node), isFixed, exec_bind_ok (exec_ofExcept_ok _ _)]
  refine ⟨_, rfl, rfl, rfl, rfl, rfl, ?_⟩
  intro id kind _
  cases kind <;> rfl

theorem clearBinding_leaves (setting : Setting)
    (found : node.locations.lookup floatingip.floatingLport ≠ none) :
    ∃ after, exec (clearBinding floatingip) node = (.ok (), after) ∧ after.apps = node.apps ∧
      after.locations = node.locations.erase floatingip.floatingLport ∧
      Framed setting node after := by
  unfold clearBinding clearPortBinding
  rw [exec_bind_ok (exec_get node)]
  cases isFound : node.locations.lookup floatingip.floatingLport with
  | none => exact absurd isFound found
  | some binding =>
      dsimp only
      rw [exec_set]
      refine ⟨_, rfl, rfl, rfl, rfl, rfl, ?_⟩
      intro id kind _
      cases kind <;> rfl

theorem exec_emitFloating {emit : PortEvent → LogicalPort → Action} {event : PortEvent}
    (is : setting.IsVersion floatingip)
    (stored : node.lports.lookup setting.floating.id = some setting.floating) :
    exec (emitFloating emit event floatingip) node =
      exec (emit event setting.floating) node := by
  unfold emitFloating
  rw [exec_bind_ok (exec_get _), Setting.floatingPort_eq is stored,
    exec_bind_ok (exec_ofExcept_ok _ _)]

theorem Framed.stocked (framed : Framed setting node after)
    (stocked : Stocked setting node.lports node.apps.floatingips) :
    Stocked setting after.lports after.apps.floatingips := by
  rw [framed.lports, framed.floatingips]
  exact stocked

theorem framed_sent (messages : List OFPFlowMod) :
    Framed setting node (sent node messages) := by
  refine ⟨rfl, rfl, ?_⟩
  intro id kind _
  cases kind <;> rfl

theorem emitUnbind_leaves (dnatFirst : PortEvent → Bool) (depth : Nat) (is : setting.IsVersion floatingip)
    (floatingStored : node.lports.lookup setting.floating.id = some setting.floating)
    (isFixed : fixedPort node.lports floatingip = .ok lport)
    (isLocal : isPortLocal setting.config.host node.locations lport = true)
    (idle : node.apps.lportsInProcess = ∅) :
    ∃ after, exec (emitUnbind setting.config
        (emit (callbacks setting.config dnatFirst) (depth + 1)) floatingip) node =
        (.ok (), after) ∧ after.apps = node.apps ∧ after.locations = node.locations ∧
      Framed setting node after := by
  let middle : Node DNATApp := { node with apps := { node.apps with
    lportsInProcess := insert floatingip.floatingLport node.apps.lportsInProcess } }
  have middleFramed : Framed setting node middle := by
    refine ⟨rfl, rfl, ?_⟩
    intro id kind _
    cases kind <;> rfl
  have leaves : ∀ before : Node DNATApp, before.apps = middle.apps →
      handled setting.config dnatFirst depth (.unbind .here) setting.floating before =
        { before with apps := { before.apps with
            lportsInProcess := before.apps.lportsInProcess.erase setting.floating.id } } := by
    intro before sameApps
    apply handled_unbind_floating
    rw [sameApps, ← is.samePort]
    exact Finset.mem_insert_self _ _
  rcases emit_floating
    (fun app => { app with
      lportsInProcess := app.lportsInProcess.erase setting.floating.id })
    (fun _ => rfl) leaves with ⟨after, executed, isApp, isLocations, framed⟩
  refine ⟨after, ?_, ?_, isLocations, middleFramed.trans framed⟩
  · unfold emitUnbind
    rw [exec_bind_ok (exec_modify _ node), exec_bind_ok (exec_get _)]
    dsimp only
    rw [isFixed, exec_bind_ok (exec_ofExcept_ok _ _), if_pos isLocal]
    exact (exec_emitFloating is (middleFramed.lports ▸ floatingStored)).trans executed
  · rw [isApp]
    have erased : (insert floatingip.floatingLport node.apps.lportsInProcess).erase
        setting.floating.id = node.apps.lportsInProcess := by
      rw [idle, is.samePort]
      exact Finset.erase_insert (Finset.notMem_empty _)
    rw [show middle.apps.lportsInProcess =
      insert floatingip.floatingLport node.apps.lportsInProcess from rfl, erased]

section Association

variable {portId : Id} (stocked : Stocked setting node.lports node.apps.floatingips)
  (is : setting.IsVersion floatingip) (associated : floatingip.lport = some portId)
  (stored : node.lports.lookup portId = some lport)
  (isTranslated : setting.translation floatingip lport = .ok translated)

include stocked is associated stored isTranslated

theorem Settled.installLocal (dnatFirst : PortEvent → Bool) (depth : Nat)
    (settled : Settled setting node.apps node.locations none) :
    ∃ after, exec (installLocalFloatingip setting.config
        (emit (callbacks setting.config dnatFirst) (depth + 1)) floatingip) node =
        (.ok (), after) ∧ Settled setting after.apps after.locations (some translated) ∧
      Framed setting node after := by
  have empty : ∀ flow, ¬ node.apps.flows.Has flow := by
    intro flow has
    rcases (settled.flows flow).mp has with ⟨translated, impossible, _⟩
    cases impossible
  have free : ∀ id, node.locations.lookup id = none := by
    intro id
    by_contra found
    exact ((settled.overrides id).mp found).2 rfl
  unfold installLocalFloatingip
  rw [exec_bind_ok (exec_get node), Setting.getExternalCidr_eq is stocked.floating,
    exec_bind_ok (exec_ofExcept_ok _ _), if_pos Setting.isIPv4_subnet,
    Setting.ingressNatFlows_eq is stocked.floating associated stored isTranslated,
    Setting.egressNatRules_eq is stocked.floating associated stored isTranslated,
    exec_bind_ok (exec_modFlows _ _), exec_bind_ok (exec_modFlows _ _)]
  have installed : sent (sent node (setting.ingressInstalls translated))
      (setting.egressInstalls translated) = sent node (setting.installs translated) := by
    unfold sent Setting.installs
    rw [FlowTable.applyAll_append]
  rw [installed]
  have isFixed : fixedPort (sent node (setting.installs translated)).lports floatingip =
      .ok lport := Setting.fixedPort_eq associated stored
  rcases copyBinding_leaves setting isFixed with
    ⟨middle, copied, isApp, isLocations, framed⟩
  rw [exec_bind_ok copied, exec_emitFloating is (framed.stocked stocked).floating]
  have ignores : ∀ before : Node DNATApp, before.apps = middle.apps →
      handled setting.config dnatFirst depth (.bind .here) setting.floating before =
        { before with apps := id before.apps } := by
    intro before sameApps
    apply handled_bind_floating
    rw [sameApps]
    exact (framed.stocked stocked)
  rcases emit_floating id (fun _ => rfl) ignores with
    ⟨after, executed, sameApp, sameLocations, emitted⟩
  refine ⟨after, executed, ?_, ((framed_sent _).trans framed).trans emitted⟩
  rw [sameApp, sameLocations, isLocations]
  dsimp only [id]
  rw [isApp]
  constructor
  · intro flow
    rw [show (sent node (setting.installs translated)).apps.flows =
      node.apps.flows.applyAll (setting.installs translated) from rfl,
      Setting.has_installed empty]
    simp
  · intro other
    rw [Dict.lookup_insert_eq, is.samePort]
    by_cases isFloating : other = setting.floating.id
    · rw [if_pos isFloating]
      simp [isFloating]
    · rw [if_neg isFloating]
      simp [isFloating, show (sent node _).locations = node.locations from rfl, free]
  · exact settled.idle

theorem Settled.uninstallLocal (dnatFirst : PortEvent → Bool) (depth : Nat)
    (settled : Settled setting node.apps node.locations (some translated)) :
    ∃ after, exec (uninstallLocalFloatingip setting.config
        (emit (callbacks setting.config dnatFirst) (depth + 1)) floatingip true) node =
        (.ok (), after) ∧ Settled setting after.apps after.locations none ∧
      Framed setting node after := by
  have held : ∀ flow, node.apps.flows.Has flow ↔
      ∃ message ∈ setting.installs translated, flow = message.flow := by
    intro flow
    rw [settled.flows flow]
    simp
  have isId := stocked.keyed portId lport stored
  have other : portId ≠ setting.floating.id := by
    intro same
    exact is.notItself (same ▸ associated)
  have isBound := stocked.bound portId lport stored other
  have overridden : node.locations.lookup floatingip.floatingLport ≠ none := by
    rw [is.samePort, settled.overrides]
    exact ⟨rfl, nofun⟩
  have isFixed : fixedPort node.lports floatingip = .ok lport :=
    Setting.fixedPort_eq associated stored
  unfold uninstallLocalFloatingip
  rw [exec_bind_ok (exec_get node), Setting.getExternalCidr_eq is stocked.floating,
    exec_bind_ok (exec_ofExcept_ok _ _), if_pos Setting.isIPv4_subnet,
    Setting.ingressNatRemovals_eq is stocked.floating,
    Setting.egressNatRemovals_eq associated stored isTranslated]
  rcases clearBinding_leaves setting overridden with
    ⟨middle, cleared, isApp, isLocations, framed⟩
  have free : ∀ id, middle.locations.lookup id = none := by
    intro id
    rw [isLocations, Dict.lookup_erase_eq, is.samePort]
    by_cases isFloating : id = setting.floating.id
    · rw [if_pos isFloating]
    · rw [if_neg isFloating]
      exact settled.free isFloating
  have isLocal : isPortLocal setting.config.host middle.locations lport = true :=
    isPortLocal_bound isBound (free _)
  rcases emitUnbind_leaves dnatFirst depth is
    (framed.stocked stocked).floating (framed.lports ▸ isFixed) isLocal
    (isApp ▸ settled.idle) with ⟨last, emitted, sameApp, sameLocations, lastFramed⟩
  have common : exec (uninstallFloatingipCommon setting.config
      (emit (callbacks setting.config dnatFirst) (depth + 1)) floatingip true) node =
      (.ok (), last) := by
    unfold uninstallFloatingipCommon
    rw [exec_bind_ok cleared, if_pos rfl, emitted]
  rw [exec_bind_ok common, exec_bind_ok (exec_modFlows _ _), exec_modFlows]
  have removed : sent (sent last setting.ingressRemovals) (Setting.egressRemovals translated) =
      sent last (setting.removals translated) := by
    unfold sent Setting.removals
    rw [FlowTable.applyAll_append]
  rw [removed]
  refine ⟨_, rfl, ?_, (framed.trans lastFramed).trans (framed_sent _)⟩
  constructor
  · intro flow
    rw [show (sent last (setting.removals translated)).apps.flows =
      last.apps.flows.applyAll (setting.removals translated) from rfl, sameApp, isApp]
    constructor
    · exact fun has => absurd has (Setting.not_has_removed held flow)
    · intro impossible
      rcases impossible with ⟨_, impossible, _⟩
      cases impossible
  · intro id
    rw [show (sent last _).locations = last.locations from rfl, sameLocations, free]
    simp
  · rw [show (sent last _).apps.lportsInProcess = last.apps.lportsInProcess from rfl,
      sameApp, isApp]
    exact settled.idle

end Association

/-! ## Handlers -/

/-- What is installed for a floating ip, given the ports of the store. -/
def Expects (setting : Setting) (lports : Dict Id LogicalPort) (floatingip : FloatingIp)
    (held : Option Translation) : Prop :=
  match floatingip.lport.bind lports.lookup with
  | none => held = none
  | some lport => ∃ translated, setting.translation floatingip lport = .ok translated ∧
      held = some translated

theorem expects_of_stored {portId : Id} (associated : floatingip.lport = some portId)
    (stored : lports.lookup portId = some lport) :
    Expects setting lports floatingip held ↔
      ∃ translated, setting.translation floatingip lport = .ok translated ∧
        held = some translated := by
  have isStored : floatingip.lport.bind lports.lookup = some lport := by
    rw [associated]
    exact stored
  unfold Expects
  rw [isStored]

theorem expects_of_absent (absent : floatingip.lport.bind lports.lookup = none) :
    Expects setting lports floatingip held ↔ held = none := by
  unfold Expects
  rw [absent]

/-- A floating ip that was not associated is associated. -/
theorem Settled.associate (dnatFirst : PortEvent → Bool) (depth : Nat)
    (settled : Settled setting node.apps node.locations none)
    (stocked : Stocked setting node.lports node.apps.floatingips)
    (is : setting.IsVersion floatingip)
    (buildable : ∀ lport, floatingip.lport.bind node.lports.lookup = some lport →
      ∃ translated, setting.translation floatingip lport = .ok translated) :
    ∃ after held, (exec (whenAssociated floatingip (installFloatingip setting.config
        (emit (callbacks setting.config dnatFirst) (depth + 1)) floatingip)) node).2 =
        after ∧ Settled setting after.apps after.locations held ∧
      Expects setting node.lports floatingip held ∧ Framed setting node after := by
  cases associated : floatingip.lport with
  | none =>
      refine ⟨node, none, ?_, settled, ?_, Framed.refl⟩
      · unfold whenAssociated
        rw [associated]
        rfl
      · rw [expects_of_absent]
        rw [associated]
        rfl
  | some portId =>
      unfold whenAssociated installFloatingip fixedPort dereference
      rw [associated]
      dsimp only
      rw [exec_bind_ok (exec_get node)]
      cases stored : node.lports.lookup portId with
      | none =>
          refine ⟨node, none, rfl, settled, ?_, Framed.refl⟩
          rw [expects_of_absent]
          rw [associated]
          exact stored
      | some lport =>
          have isStored : floatingip.lport.bind node.lports.lookup = some lport := by
            rw [associated]
            exact stored
          rcases buildable lport isStored with ⟨translated, isTranslated⟩
          have other : portId ≠ setting.floating.id := by
            intro same
            exact is.notItself (same ▸ associated)
          have isLocal := isPortLocal_bound (stocked.bound portId lport stored other)
            (stocked.keyed portId lport stored ▸ settled.free other)
          dsimp only
          rw [exec_bind_ok (exec_ofExcept_ok _ _), if_pos isLocal]
          rcases settled.installLocal stocked is associated stored isTranslated dnatFirst
            depth with ⟨after, executed, isSettled, framed⟩
          refine ⟨after, some translated, ?_, isSettled, ?_, framed⟩
          · rw [executed]
          · rw [expects_of_stored associated stored]
            exact ⟨translated, isTranslated, rfl⟩

/-- A floating ip is disassociated from a port, which may have been deleted. -/
theorem Settled.disassociate (dnatFirst : PortEvent → Bool) (depth : Nat)
    (settled : Settled setting node.apps node.locations held)
    (stocked : Stocked setting node.lports node.apps.floatingips)
    (is : setting.IsVersion floatingip)
    (expects : Expects setting node.lports floatingip held) :
    ∃ after, exec (whenAssociated floatingip (uninstallFloatingip setting.config
        (emit (callbacks setting.config dnatFirst) (depth + 1)) floatingip)) node =
        (.ok (), after) ∧ Settled setting after.apps after.locations none ∧
      Framed setting node after := by
  cases associated : floatingip.lport with
  | none =>
      rw [expects_of_absent (by rw [associated]; rfl)] at expects
      refine ⟨node, ?_, expects ▸ settled, Framed.refl⟩
      unfold whenAssociated
      rw [associated]
      rfl
  | some portId =>
      unfold whenAssociated uninstallFloatingip
      rw [associated]
      dsimp only [Option.bind_some]
      rw [exec_bind_ok (exec_get node)]
      cases stored : node.lports.lookup portId with
      | none =>
          rw [expects_of_absent (by rw [associated]; exact stored)] at expects
          exact ⟨node, rfl, expects ▸ settled, Framed.refl⟩
      | some lport =>
          rw [expects_of_stored associated stored] at expects
          rcases expects with ⟨translated, isTranslated, isHeld⟩
          subst isHeld
          have other : portId ≠ setting.floating.id := by
            intro same
            exact is.notItself (same ▸ associated)
          have isLocal := isPortLocal_bound (stocked.bound portId lport stored other)
            (stocked.keyed portId lport stored ▸ settled.free other)
          dsimp only
          rw [if_pos isLocal]
          exact settled.uninstallLocal stocked is associated stored isTranslated dnatFirst
            depth

/-- The port that the floating ip is associated with is bound. -/
theorem Settled.handled_bind (dnatFirst : PortEvent → Bool) (depth : Nat)
    (settled : Settled setting node.apps node.locations none)
    (stocked : Stocked setting node.lports node.apps.floatingips)
    (found : node.apps.floatingips.lookup setting.id = some floatingip)
    (associated : floatingip.lport = some lport.id)
    (stored : node.lports.lookup lport.id = some lport)
    (isTranslated : setting.translation floatingip lport = .ok translated) :
    Settled setting
        (handled setting.config dnatFirst (depth + 1) (.bind .here) lport node).apps
        (handled setting.config dnatFirst (depth + 1) (.bind .here) lport node).locations
        (some translated) ∧
      Framed setting node
        (handled setting.config dnatFirst (depth + 1) (.bind .here) lport node) := by
  have is := (stocked.versions _ _ found).2
  rcases settled.installLocal stocked is associated stored isTranslated dnatFirst
    depth with ⟨after, executed, isSettled, framed⟩
  have isAfter :
      handled setting.config dnatFirst (depth + 1) (.bind .here) lport node = after := by
    unfold handled
    simp only [portCallbacks, List.forM_cons, List.forM_nil, exec_bind, exec_attempt,
      exec_pure, portBound, exec_get]
    rw [stocked.getFloatingipsByLport_eq_singleton found associated]
    simp only [List.forM_cons, List.forM_nil, exec_bind, exec_pure, install, executed]
  rw [isAfter]
  exact ⟨isSettled, framed⟩

theorem handled_bind_other
    (noSuch : ∀ id floatingip, node.apps.floatingips.lookup id = some floatingip →
      floatingip.lport ≠ some lport.id) :
    handled setting.config dnatFirst depth (.bind .here) lport node = node := by
  unfold handled
  simp only [portCallbacks, List.forM_cons, List.forM_nil, exec_bind, exec_attempt, exec_pure,
    portBound, exec_get]
  rw [getFloatingipsByLport_eq_nil noSuch]
  rfl

/-- The port that the floating ip is associated with is unbound. -/
theorem Settled.handled_unbind (dnatFirst : PortEvent → Bool) (depth : Nat)
    (settled : Settled setting node.apps node.locations (some translated))
    (stocked : Stocked setting node.lports node.apps.floatingips)
    (found : node.apps.floatingips.lookup setting.id = some floatingip)
    (associated : floatingip.lport = some lport.id)
    (stored : node.lports.lookup lport.id = some lport)
    (isTranslated : setting.translation floatingip lport = .ok translated) :
    Settled setting
        (handled setting.config dnatFirst (depth + 1) (.unbind .here) lport node).apps
        (handled setting.config dnatFirst (depth + 1) (.unbind .here) lport node).locations
        none ∧
      Framed setting node
        (handled setting.config dnatFirst (depth + 1) (.unbind .here) lport node) := by
  have is := (stocked.versions _ _ found).2
  have other : lport.id ≠ setting.floating.id := by
    intro same
    exact is.notItself (same ▸ associated)
  rcases settled.uninstallLocal stocked is associated stored isTranslated dnatFirst
    depth with ⟨after, executed, isSettled, framed⟩
  have notInProcess : lport.id ∉ node.apps.lportsInProcess := by
    rw [settled.idle]
    exact Finset.notMem_empty _
  have isAfter :
      handled setting.config dnatFirst (depth + 1) (.unbind .here) lport node = after := by
    unfold handled
    simp only [portCallbacks, List.forM_cons, List.forM_nil, exec_bind, exec_attempt,
      exec_pure, portUnbound, exec_get]
    rw [if_neg notInProcess]
    unfold uninstallAll
    rw [exec_bind_ok (exec_get node),
      stocked.getFloatingipsByLport_eq_singleton found associated]
    simp only [List.forM_cons, List.forM_nil, exec_bind, exec_pure, uninstall, executed,
      exec_get]
    rw [(framed.stocked stocked).getFloatingipsByFloatingLport_eq_nil other]
    rfl
  rw [isAfter]
  exact ⟨isSettled, framed⟩

theorem handled_unbind_other (idle : node.apps.lportsInProcess = ∅)
    (stocked : Stocked setting node.lports node.apps.floatingips)
    (other : lport.id ≠ setting.floating.id)
    (noSuch : ∀ id floatingip, node.apps.floatingips.lookup id = some floatingip →
      floatingip.lport ≠ some lport.id) :
    handled setting.config dnatFirst depth (.unbind .here) lport node = node := by
  have notInProcess : lport.id ∉ node.apps.lportsInProcess := by
    rw [idle]
    exact Finset.notMem_empty _
  unfold handled
  simp only [portCallbacks, List.forM_cons, List.forM_nil, exec_bind, exec_attempt, exec_pure,
    portUnbound, exec_get]
  rw [if_neg notInProcess]
  unfold uninstallAll
  rw [exec_bind_ok (exec_get node), getFloatingipsByLport_eq_nil noSuch]
  simp only [List.forM_nil, exec_bind, exec_pure, exec_get]
  rw [stocked.getFloatingipsByFloatingLport_eq_nil other]
  rfl

end DNATApp

end Dragonflow

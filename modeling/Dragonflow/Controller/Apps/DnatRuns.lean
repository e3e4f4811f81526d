import Dragonflow.Controller.Apps.DnatAssociations

/-! # Histories of a floating ip and its fixed ports

The flows are those of the association as long as an update leaves the address, the MAC
and the switch of the associated port as they are.
-/

namespace Dragonflow

open Program PortLocator

namespace DNATApp

/-! ## Histories -/

namespace Setting

variable (setting : Setting)

/-- The events are about the floating ip and about other ports, which are bound here in
all their versions. A port keeps its unique key. -/
def Allows (node : Node DNATApp) : Event → Prop
  | .port (.update lport) =>
      lport.id ≠ setting.floating.id ∧
        lport.boundAs setting.config.host = some .here ∧
        ((node.lports.lookup lport.id).map LogicalPort.uniqueKey).getD lport.uniqueKey =
          lport.uniqueKey
  | .port (.delete id) => id ≠ setting.floating.id
  | .updated floatingip => setting.IsVersion floatingip
  | .deleted id => id = setting.id

instance (node : Node DNATApp) (event : Event) : Decidable (setting.Allows node event) :=
  match event with
  | .port (.update _) => inferInstanceAs (Decidable (_ ∧ _ ∧ _))
  | .port (.delete _) => inferInstanceAs (Decidable (_ ≠ _))
  | .updated floatingip => inferInstanceAs (Decidable (setting.IsVersion floatingip))
  | .deleted _ => inferInstanceAs (Decidable (_ = _))

/-- Everything that the flows contain is there. -/
def Translatable (floatingip : FloatingIp) (lport : LogicalPort) : Prop :=
  (routerOf setting.config floatingip).toBool = true ∧
    (switchOf setting.config lport).toBool = true ∧ (macOf lport).toBool = true ∧
    (ipv4Of lport.ip).toBool = true

instance (floatingip : FloatingIp) (lport : LogicalPort) :
    Decidable (setting.Translatable floatingip lport) :=
  inferInstanceAs (Decidable (_ ∧ _ ∧ _ ∧ _))

/-- What the flows contain of the port is the same in two versions. -/
def SameReading (lport original : LogicalPort) : Prop :=
  lport.ip = original.ip ∧ lport.mac = original.mac ∧ lport.lswitch = original.lswitch

instance (lport original : LogicalPort) : Decidable (SameReading lport original) :=
  inferInstanceAs (Decidable (_ ∧ _ ∧ _))

/-- A port that the floating ip is associated with arrives, or is updated. -/
def MeetsPort (node : Node DNATApp) (lport : LogicalPort) : Prop :=
  match node.apps.floatingips.lookup setting.id, node.lports.lookup lport.id with
  | none, _ => True
  | some floatingip, none =>
      floatingip.lport = some lport.id → setting.Translatable floatingip lport
  | some floatingip, some original =>
      floatingip.lport = some lport.id → SameReading lport original

instance (node : Node DNATApp) (lport : LogicalPort) :
    Decidable (setting.MeetsPort node lport) := by
  unfold MeetsPort
  split <;> infer_instance

/-- The floating ip arrives, or is updated. -/
def MeetsFloatingip (node : Node DNATApp) (floatingip : FloatingIp) : Prop :=
  match floatingip.lport.bind node.lports.lookup, node.apps.floatingips.lookup setting.id with
  | none, _ => True
  | some lport, none => setting.Translatable floatingip lport
  | some lport, some original =>
      if original.lport = floatingip.lport then original.lrouter = floatingip.lrouter
      else setting.Translatable floatingip lport

instance (node : Node DNATApp) (floatingip : FloatingIp) :
    Decidable (setting.MeetsFloatingip node floatingip) := by
  unfold MeetsFloatingip
  split <;> infer_instance

/-- No update changes what the flows contain while they are there, and the flows of a new
association can be built. -/
def Meets (node : Node DNATApp) : Event → Prop
  | .port (.update lport) => setting.MeetsPort node lport
  | .port (.delete _) => True
  | .updated floatingip => setting.MeetsFloatingip node floatingip
  | .deleted _ => True

instance (node : Node DNATApp) (event : Event) : Decidable (setting.Meets node event) :=
  match event with
  | .port (.update lport) => inferInstanceAs (Decidable (setting.MeetsPort node lport))
  | .port (.delete _) => isTrue trivial
  | .updated floatingip => inferInstanceAs (Decidable (setting.MeetsFloatingip node floatingip))
  | .deleted _ => isTrue trivial

/-- One event, if it is one of those that a history is made of. Events of ports are nested
at most `depth + 2` deep. -/
def step (dnatFirst : PortEvent → Bool) (depth : Nat) (node : Node DNATApp) (event : Event) :
    Option (Node DNATApp) :=
  if setting.Allows node event then
    some (exec (handle setting.config (emit (callbacks setting.config dnatFirst) (depth + 2))
      event) node).2
  else none

/-- The floating port is in the store. -/
def start : Node DNATApp :=
  { Node.initial {} with
    lports := (∅ : Dict Id LogicalPort).insert setting.floating.id setting.floating }

end Setting

/-- The tables in which packets are translated. -/
def natTables : List Nat :=
  [Const.egressTable, Const.ingressDnatTable, Const.l3LookupTable, Const.egressDnatTable,
    Const.externalIngressDetectSourceTable]

/-- The flow is built for a floating ip that is associated with a stored port. -/
def IsBuilt (config : Config) (node : Node DNATApp) (flow : Flow OFPMatch Instruction) : Prop :=
  ∃ id floatingip portId lport, node.apps.floatingips.lookup id = some floatingip ∧
    floatingip.lport = some portId ∧ node.lports.lookup portId = some lport ∧
    ∃ message, .ok message ∈ ingressNatFlows config node.lports floatingip ++
      egressNatRules config node.lports floatingip ∧ flow = message.flow

/-- The flows of the application are those that are built for the current versions. -/
def Tracks (config : Config) (node : Node DNATApp) : Prop :=
  ∀ flow, flow.table ∈ natTables → (node.apps.flows.Has flow ↔ IsBuilt config node flow)

/-! ## What one event preserves -/

variable {setting : Setting} {dnatFirst : PortEvent → Bool} {depth : Nat} {node after : Node DNATApp}
  {floatingip original : FloatingIp} {lport earlier : LogicalPort} {held : Option Translation}
  {lports : Dict Id LogicalPort} {floatingips : Dict Id FloatingIp}

theorem Setting.Translatable.translation
    (translatable : setting.Translatable floatingip lport) :
    ∃ translated, setting.translation floatingip lport = .ok translated := by
  rcases translatable with ⟨hasRouter, hasSwitch, hasMac, hasIp⟩
  unfold Setting.translation
  cases isRouter : routerOf setting.config floatingip with
  | error error =>
      rw [isRouter] at hasRouter
      cases hasRouter
  | ok lrouter =>
      cases isSwitch : switchOf setting.config lport with
      | error error =>
          rw [isSwitch] at hasSwitch
          cases hasSwitch
      | ok lswitch =>
          cases isMac : macOf lport with
          | error error =>
              rw [isMac] at hasMac
              cases hasMac
          | ok mac =>
              cases isIp : ipv4Of lport.ip with
              | error error =>
                  rw [isIp] at hasIp
                  cases hasIp
              | ok bits => exact ⟨_, rfl⟩

/-- What is installed, given the store. -/
def Current (setting : Setting) (lports : Dict Id LogicalPort)
    (floatingips : Dict Id FloatingIp) (held : Option Translation) : Prop :=
  match floatingips.lookup setting.id with
  | none => held = none
  | some floatingip => Expects setting lports floatingip held

structure Tracked (setting : Setting) (node : Node DNATApp) : Prop where
  stocked : Stocked setting node.lports node.apps.floatingips
  bound : ∀ id kind, id ≠ setting.floating.id →
    (id ∈ node.bound kind ↔ kind = .here ∧ node.lports.lookup id ≠ none)
  current : ∃ held, Settled setting node.apps node.locations held ∧
    Current setting node.lports node.apps.floatingips held

theorem current_of_some (found : floatingips.lookup setting.id = some floatingip) :
    Current setting lports floatingips held ↔ Expects setting lports floatingip held := by
  unfold Current
  rw [found]

theorem current_of_none (absent : floatingips.lookup setting.id = none) :
    Current setting lports floatingips held ↔ held = none := by
  unfold Current
  rw [absent]

/-- Ports that the floating ip is not associated with do not matter. -/
theorem Current.congr {other : Dict Id LogicalPort}
    (current : Current setting lports floatingips held)
    (same : ∀ portId, (floatingips.lookup setting.id).bind FloatingIp.lport = some portId →
      other.lookup portId = lports.lookup portId) :
    Current setting other floatingips held := by
  cases found : floatingips.lookup setting.id with
  | none =>
      rw [current_of_none found] at current ⊢
      exact current
  | some floatingip =>
      rw [current_of_some found] at current ⊢
      cases associated : floatingip.lport with
      | none =>
          rw [expects_of_absent (by rw [associated]; rfl)] at current ⊢
          exact current
      | some portId =>
          have sameLookup : floatingip.lport.bind other.lookup =
              floatingip.lport.bind lports.lookup := by
            rw [associated]
            apply same portId
            rw [found]
            exact associated
          unfold Expects at current ⊢
          rw [sameLookup]
          exact current

theorem Stocked.insert (stocked : Stocked setting lports floatingips)
    (other : lport.id ≠ setting.floating.id)
    (isBound : lport.boundAs setting.config.host = some .here) :
    Stocked setting (lports.insert lport.id lport) floatingips where
  floating := by
    rw [Dict.lookup_insert_eq, if_neg other.symm]
    exact stocked.floating
  keyed := by
    intro id version found
    rw [Dict.lookup_insert_eq] at found
    by_cases same : id = lport.id
    · rw [if_pos same, Option.some.injEq] at found
      rw [← found, same]
    · rw [if_neg same] at found
      exact stocked.keyed id version found
  bound := by
    intro id version found notFloating
    rw [Dict.lookup_insert_eq] at found
    by_cases same : id = lport.id
    · rw [if_pos same, Option.some.injEq] at found
      rw [← found]
      exact isBound
    · rw [if_neg same] at found
      exact stocked.bound id version found notFloating
  versions := stocked.versions

theorem Stocked.erase (stocked : Stocked setting lports floatingips) {id : Id}
    (other : id ≠ setting.floating.id) : Stocked setting (lports.erase id) floatingips where
  floating := by
    rw [Dict.lookup_erase_eq, if_neg other.symm]
    exact stocked.floating
  keyed := by
    intro portId version found
    rw [Dict.lookup_erase_eq] at found
    by_cases same : portId = id
    · rw [if_pos same] at found
      cases found
    · rw [if_neg same] at found
      exact stocked.keyed portId version found
  bound := by
    intro portId version found notFloating
    rw [Dict.lookup_erase_eq] at found
    by_cases same : portId = id
    · rw [if_pos same] at found
      cases found
    · rw [if_neg same] at found
      exact stocked.bound portId version found notFloating
  versions := stocked.versions

theorem Stocked.insertVersion (stocked : Stocked setting lports floatingips)
    (is : setting.IsVersion floatingip) :
    Stocked setting lports (floatingips.insert floatingip.id floatingip) where
  floating := stocked.floating
  keyed := stocked.keyed
  bound := stocked.bound
  versions := by
    intro id version found
    rw [Dict.lookup_insert_eq] at found
    by_cases same : id = floatingip.id
    · rw [if_pos same, Option.some.injEq] at found
      exact ⟨same.trans is.sameId, found ▸ is⟩
    · rw [if_neg same] at found
      exact stocked.versions id version found

theorem Stocked.eraseVersion (stocked : Stocked setting lports floatingips) (id : Id) :
    Stocked setting lports (floatingips.erase id) where
  floating := stocked.floating
  keyed := stocked.keyed
  bound := stocked.bound
  versions := by
    intro other version found
    rw [Dict.lookup_erase_eq] at found
    by_cases same : other = id
    · rw [if_pos same] at found
      cases found
    · rw [if_neg same] at found
      exact stocked.versions other version found

/-! ## Ports -/

/-- The floating ip is associated with the port, or it is not. -/
theorem Stocked.noSuch (stocked : Stocked setting lports floatingips) {id : Id}
    (apart : (floatingips.lookup setting.id).bind FloatingIp.lport ≠ some id) :
    ∀ other floatingip, floatingips.lookup other = some floatingip →
      floatingip.lport ≠ some id := by
  intro other floatingip found associated
  have isOwn := (stocked.versions other floatingip found).1
  subst isOwn
  apply apart
  rw [found]
  exact associated

theorem exec_updated (setting : Setting) (dnatFirst : PortEvent → Bool) (depth : Nat)
    (lport original : LogicalPort) (node : Node DNATApp) :
    ∃ after, exec (emit (callbacks setting.config dnatFirst) (depth + 1)
        (.updated .here original) lport) node = (.ok (), after) ∧ after.apps = node.apps ∧
      after.locations = node.locations ∧ after.lports = node.lports ∧
      ∀ kind, after.bound kind = node.bound kind := by
  rw [exec_emit]
  refine ⟨node.record (.updated .here original) lport, ?_, rfl, rfl, rfl, ?_⟩
  · cases dnatFirst (.updated .here original) <;> rfl
  · intro kind
    cases kind <;> rfl

/-- A new port is bound, and the floating ip is installed if it waits for the port. -/
theorem Tracked.portCreated (dnatFirst : PortEvent → Bool) (depth : Nat) (tracked : Tracked setting node)
    (other : lport.id ≠ setting.floating.id)
    (isBound : lport.boundAs setting.config.host = some .here)
    (isNew : node.lports.lookup lport.id = none) (meets : setting.MeetsPort node lport) :
    Tracked setting
      (exec (PortBindingApp.portCreated setting.config.host
        (emit (callbacks setting.config dnatFirst) (depth + 2)) lport)
        { node with lports := node.lports.insert lport.id lport }).2 := by
  rcases tracked.current with ⟨held, settled, current⟩
  let grown : Node DNATApp := { node with lports := node.lports.insert lport.id lport }
  have stocked : Stocked setting grown.lports grown.apps.floatingips :=
    tracked.stocked.insert other isBound
  have stored : grown.lports.lookup lport.id = some lport := AList.lookup_insert _
  have handles : ∃ next, Current setting grown.lports grown.apps.floatingips next ∧
      ∀ before : Node DNATApp, before.apps = grown.apps →
        before.locations = grown.locations → before.lports = grown.lports →
        Settled setting
            (handled setting.config dnatFirst (depth + 1) (.bind .here) lport before).apps
            (handled setting.config dnatFirst (depth + 1) (.bind .here) lport before).locations
            next ∧
          Framed setting before
            (handled setting.config dnatFirst (depth + 1) (.bind .here) lport before) := by
    by_cases associated :
        (node.apps.floatingips.lookup setting.id).bind FloatingIp.lport = some lport.id
    · rcases Option.bind_eq_some_iff.mp associated with ⟨floatingip, found, isPort⟩
      have absent : floatingip.lport.bind node.lports.lookup = none := by
        rw [isPort]
        exact isNew
      have wasNone : held = none := by
        rw [current_of_some found, expects_of_absent absent] at current
        exact current
      subst wasNone
      have translatable : setting.Translatable floatingip lport := by
        unfold Setting.MeetsPort at meets
        rw [found, isNew] at meets
        exact meets isPort
      rcases translatable.translation with ⟨translated, isTranslated⟩
      refine ⟨some translated, ?_, ?_⟩
      · rw [current_of_some found, expects_of_stored isPort stored]
        exact ⟨translated, isTranslated, rfl⟩
      · intro before sameApps sameLocations sameLports
        have isSettled : Settled setting before.apps before.locations none := by
          rw [sameApps, sameLocations]
          exact settled
        apply isSettled.handled_bind dnatFirst depth ?_ ?_ isPort ?_ isTranslated
        · rw [sameLports, sameApps]
          exact stocked
        · rw [sameApps]
          exact found
        · rw [sameLports]
          exact stored
    · refine ⟨held, ?_, ?_⟩
      · apply current.congr
        intro portId isPort
        have different : portId ≠ lport.id := by
          intro same
          exact associated (same ▸ isPort)
        exact AList.lookup_insert_ne different
      · intro before sameApps sameLocations sameLports
        have ignored : handled setting.config dnatFirst (depth + 1) (.bind .here) lport
            before = before := by
          apply handled_bind_other
          rw [sameApps]
          exact tracked.stocked.noSuch associated
        rw [ignored, sameApps, sameLocations]
        exact ⟨settled, Framed.refl⟩
  rcases handles with ⟨next, isCurrent, handles⟩
  have free : grown.locations.lookup lport.id = none := settled.free other
  rw [PortBindingApp.exec_portCreated free]
  unfold PortBindingApp.arrival PortBindingApp.emitAll
  rw [isBound]
  dsimp only
  rcases emit_leaves (fun app locations => Settled setting app locations next) handles with
    ⟨after, executed, isSettled, sameLports, sameFloatingips, bound⟩
  rw [List.forM_cons, exec_bind_ok executed]
  constructor
  · change Stocked setting after.lports after.apps.floatingips
    rw [sameLports, sameFloatingips]
    exact stocked
  · intro id kind notFloating
    change id ∈ after.bound kind ↔ kind = .here ∧ after.lports.lookup id ≠ none
    have before : id ∈ grown.bound kind ↔ kind = .here ∧ node.lports.lookup id ≠ none := by
      rw [← tracked.bound id kind notFloating]
      cases kind <;> rfl
    rw [bound id kind notFloating, sameLports]
    simp only [PortBindingApp.rebound, Node.bound_setBound]
    rw [show grown.lports.lookup id = if id = lport.id then some lport
      else node.lports.lookup id from Dict.lookup_insert_eq _ _ _ _]
    by_cases isHere : kind = .here
    · subst isHere
      by_cases same : id = lport.id
      · simp [same]
      · simp [same, before]
    · simp [isHere, before]
  · refine ⟨next, isSettled, ?_⟩
    change Current setting after.lports after.apps.floatingips next
    rw [sameLports, sameFloatingips]
    exact isCurrent

/-- An update of a port is not noticed. -/
theorem Tracked.portUpdated (dnatFirst : PortEvent → Bool) (depth : Nat) (tracked : Tracked setting node)
    (other : lport.id ≠ setting.floating.id)
    (isBound : lport.boundAs setting.config.host = some .here)
    (wasStored : node.lports.lookup lport.id = some earlier)
    (sameKey : earlier.uniqueKey = lport.uniqueKey)
    (meets : setting.MeetsPort node lport) :
    Tracked setting
      (exec (PortBindingApp.portUpdated setting.config.host
        (emit (callbacks setting.config dnatFirst) (depth + 2)) lport earlier)
        { node with lports := node.lports.insert lport.id lport }).2 := by
  rcases tracked.current with ⟨held, settled, current⟩
  let grown : Node DNATApp := { node with lports := node.lports.insert lport.id lport }
  have stocked : Stocked setting grown.lports grown.apps.floatingips :=
    tracked.stocked.insert other isBound
  have stored : grown.lports.lookup lport.id = some lport := AList.lookup_insert _
  have sameId : earlier.id = lport.id := tracked.stocked.keyed _ _ wasStored
  have wasBound := tracked.stocked.bound _ _ wasStored other
  have free : grown.locations.lookup lport.id = none := settled.free other
  have membership : ∀ kind, lport.id ∈ grown.bound kind ↔ some .here = some kind := by
    intro kind
    have before : lport.id ∈ grown.bound kind ↔ lport.id ∈ node.bound kind := by
      cases kind <;> rfl
    rw [before, tracked.bound _ kind other, wasStored]
    simp [eq_comm]
  have isCurrent : Current setting grown.lports grown.apps.floatingips held := by
    by_cases associated :
        (node.apps.floatingips.lookup setting.id).bind FloatingIp.lport = some lport.id
    · rcases Option.bind_eq_some_iff.mp associated with ⟨floatingip, found, isPort⟩
      have reading : Setting.SameReading lport earlier := by
        unfold Setting.MeetsPort at meets
        rw [found, wasStored] at meets
        exact meets isPort
      rw [current_of_some found, expects_of_stored isPort wasStored] at current
      rw [current_of_some found, expects_of_stored isPort stored,
        Setting.translation_congr sameKey.symm reading.1 reading.2.1 reading.2.2]
      exact current
    · apply current.congr
      intro portId isPort
      have different : portId ≠ lport.id := by
        intro same
        exact associated (same ▸ isPort)
      exact AList.lookup_insert_ne different
  rcases exec_updated setting dnatFirst (depth + 1) lport earlier grown with ⟨after, executed, sameApps, sameLocations, sameLports, sameBound⟩
  have ran : exec (PortBindingApp.portUpdated setting.config.host
      (emit (callbacks setting.config dnatFirst) (depth + 2)) lport earlier) grown =
      (.ok (), after) := by
    unfold PortBindingApp.portUpdated
    have unbinds : exec (PortBindingApp.portUpdateUnbind setting.config.host
        (emit (callbacks setting.config dnatFirst) (depth + 2)) lport earlier) grown =
        (.ok (), grown) := by
      rw [PortBindingApp.exec_portUpdateUnbind free sameId, wasBound, isBound]
      simp
    rw [exec_bind_ok unbinds, exec_bind, PortBindingApp.exec_portUpdatedInPlace membership]
    dsimp only
    rw [executed]
    dsimp only
    have freeAfter : after.locations.lookup lport.id = none := by
      rw [sameLocations]
      exact free
    rw [PortBindingApp.exec_portUpdateBind freeAfter sameId, wasBound, isBound]
    simp
  change Tracked setting (exec _ grown).2
  rw [ran]
  constructor
  · rw [sameLports, sameApps]
    exact stocked
  · intro id kind notFloating
    rw [sameBound, sameLports]
    have before : id ∈ grown.bound kind ↔ kind = .here ∧ node.lports.lookup id ≠ none := by
      rw [← tracked.bound id kind notFloating]
      cases kind <;> rfl
    rw [before, show grown.lports.lookup id = if id = lport.id then some lport
      else node.lports.lookup id from Dict.lookup_insert_eq _ _ _ _]
    by_cases same : id = lport.id
    · rw [if_pos same, same, wasStored]
      simp
    · rw [if_neg same]
  · refine ⟨held, ?_, ?_⟩
    · rw [sameApps, sameLocations]
      exact settled
    · rw [sameLports, sameApps]
      exact isCurrent

/-- A port is unbound before it leaves the store. -/
theorem Tracked.portDeleted (dnatFirst : PortEvent → Bool) (depth : Nat) (tracked : Tracked setting node)
    {id : Id} (other : id ≠ setting.floating.id) (stored : node.lports.lookup id = some lport) :
    ∃ after, exec (PortBindingApp.portDeleted
        (emit (callbacks setting.config dnatFirst) (depth + 2)) lport) node = (.ok (), after) ∧
      Tracked setting { after with lports := after.lports.erase id } := by
  rcases tracked.current with ⟨held, settled, current⟩
  have sameId : lport.id = id := tracked.stocked.keyed _ _ stored
  subst sameId
  have isBound := tracked.stocked.bound _ _ stored other
  have membership : ∀ kind, lport.id ∈ node.bound kind ↔
      lport.boundAs setting.config.host = some kind := by
    intro kind
    rw [tracked.bound _ kind other, stored, isBound]
    simp [eq_comm]
  have absent : (node.lports.erase lport.id).lookup lport.id = none := AList.lookup_erase _ _
  have handles : ∃ next, Current setting (node.lports.erase lport.id)
        node.apps.floatingips next ∧
      ∀ before : Node DNATApp, before.apps = node.apps →
        before.locations = node.locations → before.lports = node.lports →
        Settled setting
            (handled setting.config dnatFirst (depth + 1) (.unbind .here) lport before).apps
            (handled setting.config dnatFirst (depth + 1) (.unbind .here) lport
              before).locations next ∧
          Framed setting before
            (handled setting.config dnatFirst (depth + 1) (.unbind .here) lport before) := by
    by_cases associated :
        (node.apps.floatingips.lookup setting.id).bind FloatingIp.lport = some lport.id
    · rcases Option.bind_eq_some_iff.mp associated with ⟨floatingip, found, isPort⟩
      rw [current_of_some found, expects_of_stored isPort stored] at current
      rcases current with ⟨translated, isTranslated, isHeld⟩
      subst isHeld
      refine ⟨none, ?_, ?_⟩
      · rw [current_of_some found, expects_of_absent]
        rw [isPort]
        exact absent
      · intro before sameApps sameLocations sameLports
        have isSettled : Settled setting before.apps before.locations (some translated) := by
          rw [sameApps, sameLocations]
          exact settled
        apply isSettled.handled_unbind dnatFirst depth ?_ ?_ isPort ?_ isTranslated
        · rw [sameLports, sameApps]
          exact tracked.stocked
        · rw [sameApps]
          exact found
        · rw [sameLports]
          exact stored
    · refine ⟨held, ?_, ?_⟩
      · apply current.congr
        intro portId isPort
        have different : portId ≠ lport.id := by
          intro same
          exact associated (same ▸ isPort)
        exact AList.lookup_erase_ne different
      · intro before sameApps sameLocations sameLports
        have ignored : handled setting.config dnatFirst (depth + 1) (.unbind .here) lport
            before = before := by
          apply handled_unbind_other
          · rw [sameApps]
            exact settled.idle
          · rw [sameLports, sameApps]
            exact tracked.stocked
          · exact other
          · rw [sameApps]
            exact tracked.stocked.noSuch associated
        rw [ignored, sameApps, sameLocations]
        exact ⟨settled, Framed.refl⟩
  rcases handles with ⟨next, isCurrent, handles⟩
  rcases emit_leaves (fun app locations => Settled setting app locations next) handles with
    ⟨after, executed, isSettled, sameLports, sameFloatingips, bound⟩
  refine ⟨after, ?_, ?_⟩
  · rw [PortBindingApp.exec_portDeleted membership]
    unfold PortBindingApp.departure PortBindingApp.emitAll
    rw [isBound]
    dsimp only
    rw [List.forM_cons, exec_bind_ok executed]
    rfl
  · constructor
    · change Stocked setting (after.lports.erase lport.id) after.apps.floatingips
      rw [sameLports, sameFloatingips]
      exact tracked.stocked.erase other
    · intro id kind notFloating
      have moved : id ∈ (Node.mk (after.lports.erase lport.id) after.locations
          after.localPorts after.remotePorts after.emitted after.apps).bound kind ↔
          id ∈ after.bound kind := by
        cases kind <;> rfl
      change id ∈ (Node.mk (after.lports.erase lport.id) after.locations
          after.localPorts after.remotePorts after.emitted after.apps).bound kind ↔
        kind = .here ∧ (after.lports.erase lport.id).lookup id ≠ none
      rw [moved, bound id kind notFloating, sameLports, Dict.lookup_erase_eq]
      simp only [PortBindingApp.rebound, Node.bound_setBound]
      have before := tracked.bound id kind notFloating
      by_cases isHere : kind = .here
      · subst isHere
        by_cases same : id = lport.id
        · simp [same]
        · simp [same, before]
      · simp [isHere, before]
    · refine ⟨next, isSettled, ?_⟩
      change Current setting (after.lports.erase lport.id) after.apps.floatingips next
      rw [sameLports, sameFloatingips]
      exact isCurrent

/-! ## Floating ips -/

theorem Tracked.of_framed (tracked : Tracked setting node) {versions : Dict Id FloatingIp}
    {middle : Node DNATApp} (isMiddle : middle =
      { node with apps := { node.apps with floatingips := versions } })
    (framed : Framed setting middle after)
    (stocked : Stocked setting node.lports versions)
    (settled : Settled setting after.apps after.locations held)
    (current : Current setting node.lports versions held) : Tracked setting after := by
  subst isMiddle
  constructor
  · exact framed.stocked stocked
  · intro id kind notFloating
    have before : id ∈ (Node.mk node.lports node.locations node.localPorts node.remotePorts
        node.emitted { node.apps with floatingips := versions }).bound kind ↔
        id ∈ node.bound kind := by
      cases kind <;> rfl
    rw [framed.bound id kind notFloating, framed.lports]
    exact before.trans (tracked.bound id kind notFloating)
  · refine ⟨held, settled, ?_⟩
    rw [framed.lports, framed.floatingips]
    exact current

theorem Settled.withVersions {app : DNATApp} {locations : Locations}
    (settled : Settled setting app locations held) (versions : Dict Id FloatingIp) :
    Settled setting { app with floatingips := versions } locations held where
  flows := settled.flows
  overrides := settled.overrides
  idle := settled.idle

theorem Tracked.floatingipUpdated (dnatFirst : PortEvent → Bool) (depth : Nat)
    (tracked : Tracked setting node) (is : setting.IsVersion floatingip)
    (meets : setting.MeetsFloatingip node floatingip) :
    Tracked setting (exec (updateModelObject setting.config
      (emit (callbacks setting.config dnatFirst) (depth + 2)) floatingip) node).2 := by
  rcases tracked.current with ⟨held, settled, current⟩
  let versions := node.apps.floatingips.insert floatingip.id floatingip
  let grown : Node DNATApp := { node with apps := { node.apps with floatingips := versions } }
  have stocked : Stocked setting grown.lports grown.apps.floatingips :=
    tracked.stocked.insertVersion is
  have found : versions.lookup setting.id = some floatingip := by
    rw [← is.sameId]
    exact AList.lookup_insert _
  unfold updateModelObject
  rw [exec_bind_ok (exec_get node), exec_bind_ok (exec_set _ _)]
  rw [is.sameId]
  have sameGrown : ({ node with apps := { node.apps with
      floatingips := node.apps.floatingips.insert setting.id floatingip } } : Node DNATApp) =
      grown := by
    rw [← is.sameId]
  rw [sameGrown]
  cases wasFound : node.apps.floatingips.lookup setting.id with
  | none =>
      rw [current_of_none wasFound] at current
      subst current
      have buildable : ∀ lport, floatingip.lport.bind grown.lports.lookup = some lport →
          ∃ translated, setting.translation floatingip lport = .ok translated := by
        intro lport isStored
        have isStored : floatingip.lport.bind node.lports.lookup = some lport := isStored
        unfold Setting.MeetsFloatingip at meets
        rw [isStored, wasFound] at meets
        exact meets.translation
      have isSettled : Settled setting grown.apps grown.locations none :=
        settled.withVersions versions
      rcases isSettled.associate dnatFirst (depth + 1) stocked is buildable with
        ⟨after, next, isAfter, afterSettled, expects, framed⟩
      dsimp only
      rw [exec_attempt]
      unfold createFloatingip
      rw [isAfter]
      apply tracked.of_framed rfl framed stocked afterSettled
      rw [current_of_some found]
      exact expects
  | some original =>
      have isOriginal := (tracked.stocked.versions _ _ wasFound).2
      rw [current_of_some wasFound] at current
      dsimp only
      rw [exec_attempt]
      unfold updateFloatingip
      by_cases samePort : original.lport = floatingip.lport
      · rw [if_pos samePort]
        apply tracked.of_framed rfl (Framed.refl : Framed setting grown grown) stocked
          (settled.withVersions versions)
        rw [current_of_some found]
        unfold Expects at current ⊢
        rw [samePort] at current
        cases isStored : floatingip.lport.bind node.lports.lookup with
        | none =>
            rw [isStored] at current
            exact current
        | some lport =>
            rw [isStored] at current
            unfold Setting.MeetsFloatingip at meets
            rw [isStored, wasFound] at meets
            dsimp only at meets current ⊢
            rw [if_pos samePort] at meets
            rw [Setting.translation_congr_router meets.symm]
            exact current
      · rw [if_neg samePort]
        have isSettled : Settled setting grown.apps grown.locations held :=
          settled.withVersions versions
        rcases isSettled.disassociate dnatFirst (depth + 1) stocked isOriginal current with
          ⟨middle, executed, middleSettled, framed⟩
        rw [exec_bind_ok executed]
        have buildable : ∀ lport, floatingip.lport.bind middle.lports.lookup = some lport →
            ∃ translated, setting.translation floatingip lport = .ok translated := by
          intro lport isStored
          rw [framed.lports] at isStored
          have isStored : floatingip.lport.bind node.lports.lookup = some lport := isStored
          unfold Setting.MeetsFloatingip at meets
          rw [isStored, wasFound] at meets
          dsimp only at meets
          rw [if_neg samePort] at meets
          exact meets.translation
        rcases middleSettled.associate dnatFirst (depth + 1) (framed.stocked stocked) is
          buildable with ⟨after, next, isAfter, afterSettled, expects, lastFramed⟩
        rw [isAfter]
        apply tracked.of_framed rfl (framed.trans lastFramed) stocked afterSettled
        rw [current_of_some found]
        rw [framed.lports] at expects
        exact expects

theorem Tracked.floatingipDeleted (dnatFirst : PortEvent → Bool) (depth : Nat)
    (tracked : Tracked setting node) :
    Tracked setting (exec (deleteModelObject setting.config
      (emit (callbacks setting.config dnatFirst) (depth + 2)) setting.id) node).2 := by
  rcases tracked.current with ⟨held, settled, current⟩
  unfold deleteModelObject
  rw [exec_bind_ok (exec_get node)]
  cases found : node.apps.floatingips.lookup setting.id with
  | none => exact tracked
  | some floatingip =>
      have is := (tracked.stocked.versions _ _ found).2
      rw [current_of_some found] at current
      rcases settled.disassociate dnatFirst (depth + 1) tracked.stocked is current with
        ⟨after, executed, isSettled, framed⟩
      have deletes : exec (deleteFloatingip setting.config
          (emit (callbacks setting.config dnatFirst) (depth + 2)) floatingip) node =
          (.ok (), after) := by
        rw [← executed]
        unfold deleteFloatingip whenAssociated
        cases floatingip.lport with
        | none => rfl
        | some portId =>
            dsimp only
            rw [exec_bind_ok (exec_get node), is.samePort, tracked.stocked.floating]
      dsimp only
      rw [exec_bind_ok (exec_attempt _ _), deletes, exec_modify]
      constructor
      · exact (framed.stocked tracked.stocked).eraseVersion setting.id
      · intro id kind notFloating
        have moved : id ∈ (Node.mk after.lports after.locations after.localPorts
            after.remotePorts after.emitted { after.apps with
              floatingips := after.apps.floatingips.erase setting.id }).bound kind ↔
            id ∈ after.bound kind := by
          cases kind <;> rfl
        refine moved.trans ?_
        rw [framed.bound id kind notFloating, tracked.bound id kind notFloating]
        change _ ↔ kind = .here ∧ after.lports.lookup id ≠ none
        rw [framed.lports]
      · refine ⟨none, isSettled.withVersions _, ?_⟩
        apply (current_of_none _).mpr rfl
        exact AList.lookup_erase _ _

/-! ## Runs -/

theorem Tracked.step {event : Event} (tracked : Tracked setting node)
    (meets : setting.Meets node event)
    (stepped : setting.step dnatFirst depth node event = some after) :
    Tracked setting after := by
  unfold Setting.step at stepped
  split at stepped
  · next allowed =>
      rw [Option.some.injEq] at stepped
      subst stepped
      cases event with
      | port change =>
          cases change with
          | update lport =>
              rcases allowed with ⟨other, isBound, sameKey⟩
              unfold handle PortBindingApp.change PortBindingApp.updateModelObject
              dsimp only
              rw [exec_bind_ok (exec_get node), exec_bind_ok (exec_set _ _)]
              cases wasStored : node.lports.lookup lport.id with
              | none =>
                  dsimp only
                  rw [exec_attempt]
                  exact tracked.portCreated dnatFirst depth other isBound wasStored meets
              | some earlier =>
                  rw [wasStored] at sameKey
                  dsimp only
                  rw [exec_attempt]
                  exact tracked.portUpdated dnatFirst depth other isBound wasStored sameKey
                    meets
          | delete id =>
              unfold handle PortBindingApp.change PortBindingApp.deleteModelObject
              dsimp only
              rw [exec_bind_ok (exec_get node)]
              cases stored : node.lports.lookup id with
              | none => exact tracked
              | some lport =>
                  rcases tracked.portDeleted dnatFirst depth allowed stored with
                    ⟨after, executed, isTracked⟩
                  dsimp only
                  rw [exec_bind_ok (exec_attempt _ _), executed, exec_modify]
                  exact isTracked
      | updated floatingip =>
          exact tracked.floatingipUpdated dnatFirst depth allowed meets
      | deleted id =>
          have isOwn : id = setting.id := allowed
          subst isOwn
          exact tracked.floatingipDeleted dnatFirst depth
  · cases stepped

theorem tracked_start (setting : Setting) : Tracked setting setting.start where
  stocked := {
    floating := AList.lookup_insert _
    keyed := by
      intro id lport found
      unfold Setting.start at found
      rw [Dict.lookup_insert_eq] at found
      by_cases same : id = setting.floating.id
      · rw [if_pos same, Option.some.injEq] at found
        rw [← found, same]
      · rw [if_neg same] at found
        cases found
    bound := by
      intro id lport found other
      unfold Setting.start at found
      rw [Dict.lookup_insert_eq, if_neg other] at found
      cases found
    versions := by
      intro id floatingip found
      cases found }
  bound := by
    intro id kind other
    have nowhere : id ∉ setting.start.bound kind := by
      cases kind <;> exact Finset.notMem_empty _
    have absent : setting.start.lports.lookup id = none := by
      unfold Setting.start
      rw [Dict.lookup_insert_eq, if_neg other]
      rfl
    rw [absent]
    simp [nowhere]
  current := by
    refine ⟨none, ⟨?_, ?_, rfl⟩, rfl⟩
    · intro flow
      constructor
      · exact fun has => absurd has FlowTable.not_has_empty
      · intro impossible
        rcases impossible with ⟨_, impossible, _⟩
        cases impossible
    · intro id
      constructor
      · exact fun found => absurd rfl found
      · exact fun impossible => absurd rfl impossible.2

/-- What is installed is what the code builds for the current versions. -/
theorem Tracked.tracks (tracked : Tracked setting node) : Tracks setting.config node := by
  rcases tracked.current with ⟨held, settled, current⟩
  intro flow _
  rw [settled.flows flow]
  constructor
  · intro installed
    rcases installed with ⟨translated, isHeld, message, member, isFlow⟩
    subst isHeld
    cases found : node.apps.floatingips.lookup setting.id with
    | none =>
        rw [current_of_none found] at current
        cases current
    | some floatingip =>
        have is := (tracked.stocked.versions _ _ found).2
        rw [current_of_some found] at current
        cases isStored : floatingip.lport.bind node.lports.lookup with
        | none =>
            rw [expects_of_absent isStored] at current
            cases current
        | some lport =>
            rcases Option.bind_eq_some_iff.mp isStored with ⟨portId, isPort, stored⟩
            rw [expects_of_stored isPort stored] at current
            rcases current with ⟨other, isTranslated, same⟩
            cases same
            refine ⟨_, floatingip, portId, lport, found, isPort, stored, message, ?_, isFlow⟩
            rw [Setting.ingressNatFlows_eq is tracked.stocked.floating isPort stored
                isTranslated,
              Setting.egressNatRules_eq is tracked.stocked.floating isPort stored
                isTranslated, ← List.map_append]
            exact List.mem_map_of_mem member
  · intro isBuilt
    rcases isBuilt with
      ⟨id, floatingip, portId, lport, found, isPort, stored, message, member, isFlow⟩
    rcases tracked.stocked.versions _ _ found with ⟨isOwn, is⟩
    subst isOwn
    rw [current_of_some found, expects_of_stored isPort stored] at current
    rcases current with ⟨translated, isTranslated, isHeld⟩
    rw [Setting.ingressNatFlows_eq is tracked.stocked.floating isPort stored isTranslated,
      Setting.egressNatRules_eq is tracked.stocked.floating isPort stored isTranslated,
      ← List.map_append] at member
    rcases List.mem_map.mp member with ⟨installed, isInstalled, same⟩
    cases same
    exact ⟨translated, isHeld, message, isInstalled, isFlow⟩

/-- In every history in which updates leave the address, the MAC and the switch of an
associated port as they are, the flows are those of the current versions after each
event. -/
theorem flows_follow_association (setting : Setting) (dnatFirst : PortEvent → Bool) (depth : Nat)
    {events : List Event} {node : Node DNATApp}
    (meets : Throughout (setting.step dnatFirst depth) setting.Meets events setting.start)
    (reached : steps (setting.step dnatFirst depth) events setting.start = some node) :
    Tracks setting.config node := by
  have tracked : Tracked setting node :=
    steps_throughout (Tracked setting)
      (fun _ _ _ isTracked met stepped => isTracked.step met stepped) (tracked_start setting)
      meets reached
  exact tracked.tracks

/-! ## A port that changes its address -/

namespace Sample

def config : Config where
  host := "chassis"
  lswitches := fun id =>
    if id = "private" then some ⟨"private", 10, none, none⟩
    else if id = "public" then some ⟨"public", 20, none, none⟩
    else none
  lrouters := fun id =>
    if id = "router" then some { id := "router", uniqueKey := 30 } else none
  subnets := [⟨"public", .v4 0xac180400#32 24⟩]
  order := id
  order_perm := List.Perm.refl

/-- The application is called first for ports that are unbound. -/
def unbindsFirst : PortEvent → Bool
  | .unbind _ => true
  | _ => false

def floating : LogicalPort where
  id := "floating"
  uniqueKey := 1
  lswitch := some "public"
  macs := [0xfa163e000001]
  ips := [.v4 0xac180402#32]

def external : Setting where
  config := config
  id := "address"
  address := 0xac180402#32
  floating := floating
  mac := 0xfa163e000001
  ip := 0xac180402#32
  network := ⟨"public", 20, none, none⟩
  subnet := ⟨"public", .v4 0xac180400#32 24⟩
  hasMac := rfl
  hasIp := rfl
  onNetwork := ⟨"public", rfl, by decide +kernel, by decide +kernel⟩

/-- A version of the fixed port. -/
def server (ip : BitVec 32) : LogicalPort where
  id := "server"
  uniqueKey := 2
  enabled := some true
  binding := some (.chassis "chassis")
  lswitch := some "private"
  macs := [0xfa163e000002]
  ips := [.v4 ip]

def served : FloatingIp where
  id := "address"
  floatingIpAddress := .v4 0xac180402#32
  lport := some "server"
  floatingLport := "floating"
  lrouter := some "router"

/-- The port is bound and the floating ip is associated with it. -/
def association : List Event := [.port (.update (server 10)), .updated served]

/-- After that the port gets another address. -/
def history : List Event := association ++ [.port (.update (server 11))]

def final : Node DNATApp :=
  (steps (external.step unbindsFirst 0) history external.start).getD external.start

def translated (bits : BitVec 32) : Translation where
  portKey := 2
  lswitchKey := 10
  routerKey := 30
  gatewayMac := 0xfa163e000001
  mac := 0xfa163e000002
  bits

/-- The flow that takes the packets of the port to their translation. -/
def capture (bits : BitVec 32) : Flow OFPMatch Instruction where
  table := Const.l3LookupTable
  priority := Const.priorityMediumLow
  pattern := Setting.egressPattern (translated bits)
  entry := ⟨0, [.gotoTable Const.egressDnatTable]⟩

end Sample

theorem flows_follow_association_server :
    Throughout (Sample.external.step Sample.unbindsFirst 0) Sample.external.Meets
        Sample.association Sample.external.start ∧
      ∀ node, steps (Sample.external.step Sample.unbindsFirst 0) Sample.association
        Sample.external.start = some node → Tracks Sample.config node := by
  have meets : Throughout (Sample.external.step Sample.unbindsFirst 0) Sample.external.Meets
      Sample.association Sample.external.start := by
    decide +kernel
  exact ⟨meets, fun node reached =>
    flows_follow_association Sample.external Sample.unbindsFirst 0 meets reached⟩

/-- The flows for the new address are missing. -/
theorem new_address_untranslated :
    steps (Sample.external.step Sample.unbindsFirst 0) Sample.history Sample.external.start =
        some Sample.final ∧
      ¬ Tracks Sample.config Sample.final := by
  have reached : (steps (Sample.external.step Sample.unbindsFirst 0) Sample.history
      Sample.external.start).isSome = true := by
    decide +kernel
  constructor
  · unfold Sample.final
    cases isNode : steps (Sample.external.step Sample.unbindsFirst 0) Sample.history
        Sample.external.start with
    | none =>
        rw [isNode] at reached
        cases reached
    | some node => rfl
  · intro tracks
    have stored : Sample.final.lports.lookup "server" = some (Sample.server 11) := by
      decide +kernel
    have found : Sample.final.apps.floatingips.lookup "address" = some Sample.served := by
      decide +kernel
    have floatingStored : Sample.final.lports.lookup "floating" = some Sample.floating := by
      decide +kernel
    have is : Sample.external.IsVersion Sample.served := by decide +kernel
    have isTranslated : Sample.external.translation Sample.served (Sample.server 11) =
        .ok (Sample.translated 11) := by
      rfl
    have isBuilt : IsBuilt Sample.config Sample.final (Sample.capture 11) := by
      refine ⟨"address", Sample.served, "server", Sample.server 11, found, rfl, stored,
        (Sample.external.egressInstalls (Sample.translated 11)).head (by decide), ?_, rfl⟩
      have rules := Setting.egressNatRules_eq is floatingStored rfl stored isTranslated
      have sameRules : egressNatRules Sample.config Sample.final.lports Sample.served =
          (Sample.external.egressInstalls (Sample.translated 11)).map .ok := rules
      rw [sameRules]
      apply List.mem_append_right
      exact List.mem_map_of_mem (List.head_mem _)
    have missing : ¬ Sample.final.apps.flows.Has (Sample.capture 11) := by
      decide +kernel
    exact missing ((tracks (Sample.capture 11) (by decide)).mpr isBuilt)

end DNATApp

end Dragonflow

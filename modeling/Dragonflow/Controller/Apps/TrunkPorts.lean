import Dragonflow.Controller.Apps.TrunkChildren

/-! # Ports inside a trunk are bound with their parent

Two triggers bind a child: the events of its parent, and its own segmentation.
They agree as long as no segmentation comes or goes while the parent has a
binding and is disabled.
-/

namespace Dragonflow

open Program PortLocator PortBindingApp

namespace TrunkApp

variable {config : Config} {trunkFirst : PortEvent → Bool} {depth : Nat} {parent : Id}
  {node : Node TrunkApp} {told kept : Id → Option Locality}

/-! ## Changes of the parent -/

/-- The children are bound like the parent of the store. -/
structure Consistent (config : Config) (parent : Id) (node : Node TrunkApp) : Prop where
  arranged : Arranged parent node.lports node.apps.segmentations
  working : Working parent node
    (status parent node.apps.segmentations (boundAt config.host node.lports parent)
      (boundAt config.host node.lports parent))
    (status parent node.apps.segmentations (boundAt config.host node.lports parent)
      (boundAt config.host node.lports parent))

theorem Working.parent_free (working : Working parent node told kept) :
    node.locations.lookup parent = none := by
  rw [Option.eq_none_iff_forall_ne_some]
  intro binding found
  exact ((working.overrides parent).mp ⟨binding, found⟩).1 rfl

theorem Working.withLports (working : Working parent node told kept)
    (lports : Dict Id LogicalPort) : Working parent { node with lports } told kept where
  sessions := working.sessions
  membership := by
    intro id kind
    rw [← working.membership id kind]
    cases kind <;> rfl
  overrides := working.overrides
  noKeyError := working.noKeyError

theorem Working.withSegmentations (working : Working parent node told kept)
    (segmentations : Dict Id ChildPortSegmentation) :
    Working parent { node with apps := { node.apps with segmentations } } told kept where
  sessions := working.sessions
  membership := by
    intro id kind
    rw [← working.membership id kind]
    cases kind <;> rfl
  overrides := working.overrides
  noKeyError := working.noKeyError

theorem Arranged.insert {lports : Dict Id LogicalPort} {lport : LogicalPort}
    {segmentations : Dict Id ChildPortSegmentation}
    (arranged : Arranged parent lports segmentations) (same : lport.id = parent) :
    Arranged parent (lports.insert lport.id lport) segmentations where
  keyed := arranged.keyed.apply (.update lport)
  ofParent := arranged.ofParent
  child := by
    intro id segmentation found
    rcases arranged.child id segmentation found with ⟨isChild, child, stored⟩
    refine ⟨isChild, child, ?_⟩
    rw [Dict.lookup_insert_eq, same, if_neg isChild]
    exact stored
  distinct := arranged.distinct

theorem Arranged.erase {lports : Dict Id LogicalPort}
    {segmentations : Dict Id ChildPortSegmentation}
    (arranged : Arranged parent lports segmentations) :
    Arranged parent (lports.erase parent) segmentations where
  keyed := arranged.keyed.apply (.delete parent)
  ofParent := arranged.ofParent
  child := by
    intro id segmentation found
    rcases arranged.child id segmentation found with ⟨isChild, child, stored⟩
    refine ⟨isChild, child, ?_⟩
    rw [Dict.lookup_erase_eq, if_neg isChild]
    exact stored
  distinct := arranged.distinct

/-- Events of the parent that follow each other. -/
theorem Working.emitAll {events : List (PortEvent × LogicalPort)}
    {own next : Option Locality}
    (arranged : Arranged parent node.lports node.apps.segmentations)
    (working : Working parent node (status parent node.apps.segmentations own own)
      (status parent node.apps.segmentations own own))
    (parentStored : ∃ lport, node.lports.lookup parent = some lport)
    (ofParent : ∀ entry ∈ events, entry.2.id = parent)
    (inOrder : steps SessionEvent.follow (events.map fun entry => entry.1.session) own =
      some next)
    (builds : ∀ entry ∈ events, entry.1 = .bind .here ∨ entry.1 = .unbind .here →
      BuildsAll config node.lports node.apps.segmentations) :
    Leads (PortBindingApp.emitAll (emit (callbacks config trunkFirst) (depth + 2)) events)
      node
      (fun _ final => Working parent final
        (status parent node.apps.segmentations next next)
        (status parent node.apps.segmentations next next) ∧ SameStore node final)
      (fun _ _ => False) := by
  unfold PortBindingApp.emitAll
  induction events generalizing node own with
  | nil =>
      cases inOrder
      exact ⟨working, rfl, rfl⟩
  | cons entry events induction =>
      rw [List.map_cons, steps_cons_eq_some] at inOrder
      rcases inOrder with ⟨middle, stepped, walked⟩
      rw [List.forM_cons]
      refine Leads.bind (working.emitParent arranged (ofParent entry List.mem_cons_self)
        parentStored stepped (builds entry List.mem_cons_self)) ?_
      rintro _ after ⟨moved, same⟩
      rw [← same.2] at moved
      rw [← same.1, ← same.2] at arranged builds
      rw [← same.1] at parentStored
      have rest := induction arranged moved parentStored
        (fun other member => ofParent other (List.mem_cons_of_mem _ member)) walked
        (fun other member => builds other (List.mem_cons_of_mem _ member))
      rw [same.2] at rest
      refine rest.mono ?_ fun _ _ impossible => impossible
      rintro _ final ⟨settled, sameFinal⟩
      exact ⟨settled, sameFinal.1.trans same.1, sameFinal.2.trans same.2⟩

theorem exec_emit_updated {kind : Locality} {original lport : LogicalPort} :
    exec (emit (callbacks config trunkFirst) (depth + 1) (.updated kind original) lport)
      node = (.ok (), node.record (.updated kind original) lport) := by
  rw [emit, exec_bind_ok (exec_modify _ node), callbacks]
  cases trunkFirst (.updated kind original) <;> rfl

/-- The kinds of the events of an update are those of the two versions. -/
theorem transition_here {host : Id} {original lport : LogicalPort}
    {entry : PortEvent × LogicalPort} (member : entry ∈ transition host original lport)
    (isHere : entry.1 = .bind .here ∨ entry.1 = .unbind .here) :
    original.boundAs host = some .here ∨ lport.boundAs host = some .here := by
  unfold transition at member
  split at member
  · cases member
  · rw [List.mem_singleton.mp member] at isHere
    simp_all
  · rw [List.mem_singleton.mp member] at isHere
    simp_all
  · split at member
    · rw [List.mem_singleton.mp member] at isHere
      simp at isHere
    · rcases List.mem_pair.mp member with found | found <;>
        rw [found] at isHere <;> simp_all

theorem arrival_here {host : Id} {lport : LogicalPort}
    {entry : PortEvent × LogicalPort} (member : entry ∈ arrival host lport)
    (isHere : entry.1 = .bind .here ∨ entry.1 = .unbind .here) :
    lport.boundAs host = some .here := by
  unfold arrival at member
  split at member
  · cases member
  · rw [List.mem_singleton.mp member] at isHere
    simp_all

theorem departure_here {host : Id} {lport : LogicalPort}
    {entry : PortEvent × LogicalPort} (member : entry ∈ departure host lport)
    (isHere : entry.1 = .bind .here ∨ entry.1 = .unbind .here) :
    lport.boundAs host = some .here := by
  unfold departure at member
  split at member
  · cases member
  · rw [List.mem_singleton.mp member] at isHere
    simp_all

theorem Consistent.update {lport : LogicalPort} (consistent : Consistent config parent node)
    (same : lport.id = parent)
    (builds : boundAt config.host node.lports parent = some .here ∨
      lport.boundAs config.host = some .here →
      BuildsAll config (node.lports.insert lport.id lport) node.apps.segmentations) :
    Leads (updateModelObject config.host (emit (callbacks config trunkFirst) (depth + 2))
        lport) node
      (fun _ final => Consistent config parent final) (fun _ _ => False) := by
  have arranged := consistent.arranged.insert same
  have working := consistent.working.withLports (node.lports.insert lport.id lport)
  have free := working.parent_free
  have parentStored : ∃ found, (node.lports.insert lport.id lport).lookup parent =
      some found := ⟨lport, by rw [Dict.lookup_insert_eq, if_pos same.symm]⟩
  have becomes : boundAt config.host (node.lports.insert lport.id lport) parent =
      lport.boundAs config.host := by
    rw [boundAt_insert, same, Function.update_self]
  have settle : ∀ final : Node TrunkApp,
      Working parent final
        (status parent node.apps.segmentations (lport.boundAs config.host)
          (lport.boundAs config.host))
        (status parent node.apps.segmentations (lport.boundAs config.host)
          (lport.boundAs config.host)) ∧
      SameStore { node with lports := node.lports.insert lport.id lport } final →
      Consistent config parent final := by
    rintro final ⟨settled, sameLports, sameSegmentations⟩
    constructor
    · rw [sameLports, sameSegmentations]
      exact arranged
    · rw [sameLports, sameSegmentations, becomes]
      exact settled
  unfold updateModelObject
  rw [leads_bind, leads_get, leads_bind, leads_set]
  cases stored : node.lports.lookup lport.id with
  | none =>
      have wasFree : boundAt config.host node.lports parent = none := by
        rw [boundAt, ← same, stored]
        rfl
      rw [wasFree] at working
      simp only [leads_attempt]
      rw [leads_congr (exec_portCreated (by rw [same]; exact free))]
      apply Leads.returning
      refine (working.emitAll arranged parentStored ?_ (arrival_inOrder config.host lport)
        ?_).mono (fun _ final => settle final) fun _ _ impossible => impossible
      · intro entry member
        rw [arrival_port config.host lport entry member, same]
      · intro entry member isHere
        exact builds (.inr (arrival_here member isHere))
  | some original =>
      have sameId : original.id = lport.id := consistent.arranged.keyed _ _ stored
      have wasBound : boundAt config.host node.lports parent =
          original.boundAs config.host := by
        rw [boundAt, ← same, stored]
        rfl
      rw [wasBound] at working builds
      simp only [leads_attempt]
      rw [leads_congr (exec_portUpdated (by rw [same]; exact free) sameId ?_ ?_ ?_)]
      · apply Leads.returning
        refine (working.emitAll arranged parentStored ?_
          (transition_inOrder config.host original lport) ?_).mono
          (fun _ final => settle final) fun _ _ impossible => impossible
        · intro entry member
          rw [transition_port config.host sameId entry member, same]
        · intro entry member isHere
          exact builds (transition_here member isHere)
      · intro kind
        rw [working.membership, same, status_parent]
      · intro kind after executed
        rw [exec_emit_updated] at executed
        cases executed
        rw [same]
        exact free
      · intro kind after isKind executed
        rw [isKind] at working builds
        have inOrder : SessionEvent.follow (some kind) (PortEvent.unbind kind).session =
            some none := SessionEvent.follow_closed.mpr ⟨rfl, rfl⟩
        have unbound := (working.emitParent arranged (sameId.trans same) parentStored
          inOrder fun isHere => builds (.inl (by simpa using isHere))).of_ok executed
        refine ⟨by rw [same]; exact unbound.1.parent_free, ?_⟩
        intro other
        rw [unbound.1.membership, same, status_parent]
        simp

theorem Consistent.delete (consistent : Consistent config parent node)
    (builds : boundAt config.host node.lports parent = some .here →
      BuildsAll config node.lports node.apps.segmentations) :
    Leads (deleteModelObject (emit (callbacks config trunkFirst) (depth + 2)) parent) node
      (fun _ final => Consistent config parent final) (fun _ _ => False) := by
  have working := consistent.working
  unfold deleteModelObject
  rw [leads_bind, leads_get]
  cases stored : node.lports.lookup parent with
  | none => exact consistent
  | some lport =>
      have same : lport.id = parent := consistent.arranged.keyed _ _ stored
      have wasBound : boundAt config.host node.lports parent =
          lport.boundAs config.host := by
        rw [boundAt, stored]
        rfl
      rw [wasBound] at working builds
      have membership : ∀ kind, lport.id ∈ node.bound kind ↔
          lport.boundAs config.host = some kind := by
        intro kind
        rw [working.membership, same, status_parent]
      simp only [leads_bind, leads_attempt, leads_modify]
      rw [leads_congr (exec_portDeleted membership)]
      apply Leads.returning
      refine (working.emitAll consistent.arranged ⟨lport, stored⟩ ?_
        (departure_inOrder config.host lport) ?_).mono ?_ fun _ _ impossible => impossible
      · intro entry member
        rw [departure_port config.host lport entry member, same]
      · intro entry member isHere
        exact builds (departure_here member isHere)
      · rintro _ final ⟨settled, sameLports, sameSegmentations⟩
        constructor
        · simp only [sameLports, sameSegmentations]
          exact consistent.arranged.erase
        · simp only [sameLports, sameSegmentations]
          rw [boundAt_erase, Function.update_self]
          exact settled.withLports _

/-! ## Segmentations that come and go -/

section Segmentations

variable {lports : Dict Id LogicalPort} {segmentation : ChildPortSegmentation}
  {segmentations : Dict Id ChildPortSegmentation} {id : Id}

theorem mem_childIds_insert (fresh : segmentations.lookup segmentation.id = none)
    {port : Id} :
    port ∈ childIds (segmentations.insert segmentation.id segmentation) ↔
      port = segmentation.port ∨ port ∈ childIds segmentations := by
  simp only [mem_childIds, Dict.lookup_insert_eq]
  constructor
  · rintro ⟨key, found, lookup, rfl⟩
    by_cases isNew : key = segmentation.id
    · rw [if_pos isNew] at lookup
      cases lookup
      exact .inl rfl
    · rw [if_neg isNew] at lookup
      exact .inr ⟨key, found, lookup, rfl⟩
  · rintro (rfl | ⟨key, found, lookup, rfl⟩)
    · exact ⟨segmentation.id, segmentation, if_pos rfl, rfl⟩
    · refine ⟨key, found, ?_, rfl⟩
      rw [if_neg, lookup]
      rintro rfl
      rw [fresh] at lookup
      cases lookup

theorem Arranged.mem_childIds_erase (arranged : Arranged parent lports segmentations)
    (found : segmentations.lookup id = some segmentation) {port : Id} :
    port ∈ childIds (segmentations.erase id) ↔
      port ≠ segmentation.port ∧ port ∈ childIds segmentations := by
  simp only [mem_childIds, Dict.lookup_erase_eq]
  constructor
  · rintro ⟨key, other, lookup, rfl⟩
    by_cases isThis : key = id
    · rw [if_pos isThis] at lookup
      cases lookup
    · rw [if_neg isThis] at lookup
      exact ⟨fun same => isThis (arranged.distinct _ _ _ _ lookup found same),
        key, other, lookup, rfl⟩
  · rintro ⟨different, key, other, lookup, rfl⟩
    refine ⟨key, other, ?_, rfl⟩
    rw [if_neg, lookup]
    rintro rfl
    rw [found] at lookup
    cases lookup
    exact different rfl

theorem status_insert (fresh : segmentations.lookup segmentation.id = none)
    (isChild : segmentation.port ≠ parent) (own : Option Locality) :
    status parent (segmentations.insert segmentation.id segmentation) own own =
      Function.update (status parent segmentations own own) segmentation.port own := by
  funext port
  simp only [status, mem_childIds_insert fresh, Function.update_apply]
  by_cases isThis : port = segmentation.port
  · simp [isThis, isChild]
  · simp [isThis]

theorem Arranged.status_erase (arranged : Arranged parent lports segmentations)
    (found : segmentations.lookup id = some segmentation) (own : Option Locality) :
    status parent (segmentations.erase id) own own =
      Function.update (status parent segmentations own own) segmentation.port none := by
  funext port
  have isChild := (arranged.child _ _ found).1
  simp only [status, arranged.mem_childIds_erase found, Function.update_apply]
  by_cases isThis : port = segmentation.port
  · simp [isThis, isChild]
  · simp [isThis]

theorem Arranged.insertSegmentation (arranged : Arranged parent lports segmentations)
    (ofParent : segmentation.parent = parent) (isChild : segmentation.port ≠ parent)
    (stored : ∃ child, lports.lookup segmentation.port = some child)
    (free : segmentation.port ∉ childIds segmentations) :
    Arranged parent lports (segmentations.insert segmentation.id segmentation) where
  keyed := arranged.keyed
  ofParent := by
    intro id other found
    rw [Dict.lookup_insert_eq] at found
    split at found
    · cases found
      exact ofParent
    · exact arranged.ofParent id other found
  child := by
    intro id other found
    rw [Dict.lookup_insert_eq] at found
    split at found
    · cases found
      exact ⟨isChild, stored⟩
    · exact arranged.child id other found
  distinct := by
    intro id first other second found found' samePort
    rw [Dict.lookup_insert_eq] at found found'
    by_cases isNew : id = segmentation.id <;> by_cases isNew' : other = segmentation.id
    · rw [isNew, isNew']
    · rw [if_pos isNew] at found
      rw [if_neg isNew'] at found'
      cases found
      exact absurd (mem_childIds.mpr ⟨other, second, found', samePort.symm⟩) free
    · rw [if_neg isNew] at found
      rw [if_pos isNew'] at found'
      cases found'
      exact absurd (mem_childIds.mpr ⟨id, first, found, samePort⟩) free
    · rw [if_neg isNew] at found
      rw [if_neg isNew'] at found'
      exact arranged.distinct _ _ _ _ found found' samePort

theorem Arranged.eraseSegmentation (arranged : Arranged parent lports segmentations)
    (id : Id) : Arranged parent lports (segmentations.erase id) := by
  have kept : ∀ key segmentation,
      (segmentations.erase id).lookup key = some segmentation →
      segmentations.lookup key = some segmentation := by
    intro key segmentation found
    rw [Dict.lookup_erase_eq] at found
    split at found
    · cases found
    · exact found
  exact
    { keyed := arranged.keyed
      ofParent := fun key segmentation found =>
        arranged.ofParent key segmentation (kept _ _ found)
      child := fun key segmentation found =>
        arranged.child key segmentation (kept _ _ found)
      distinct := fun _ _ _ _ found found' samePort =>
        arranged.distinct _ _ _ _ (kept _ _ found) (kept _ _ found') samePort }

end Segmentations

/-- Nothing is known to be bound if the parent is not. -/
theorem status_none (segmentations : Dict Id ChildPortSegmentation) :
    status parent segmentations none none = fun _ => none := by
  funext id
  simp [status]

theorem exec_logged_error {handler : Action} {after : Node TrunkApp} {error : PyError}
    (executed : exec handler node = (.error error, after)) :
    exec (logged handler) node = (.error error,
      { after with apps := { after.apps with errors := after.apps.errors ++ [error] } }) := by
  change ((ExceptT.tryCatch handler _).run).run node = _
  simp only [exec] at executed
  simp only [ExceptT.tryCatch, ExceptT.run, ExceptT.mk, StateT.run_bind]
  simp only [ExceptT.run] at executed
  rw [executed]
  rfl

theorem Working.withError (working : Working parent node told kept) {error : PyError}
    (other : error ≠ .keyError) :
    Working parent { node with
      apps := { node.apps with errors := node.apps.errors ++ [error] } } told kept where
  sessions := working.sessions
  membership := by
    intro id kind
    rw [← working.membership id kind]
    cases kind <;> rfl
  overrides := working.overrides
  noKeyError := by
    simp only [List.mem_append, List.mem_singleton, not_or]
    exact ⟨working.noKeyError, other.symm⟩

/-- What the stored parent has to be like when a segmentation comes or goes: if
it has a binding it is not disabled, and on its own chassis the rules of the
child can be made. -/
def Ready (config : Config) (parent : Id) (lports : Dict Id LogicalPort)
    (segmentation : ChildPortSegmentation) : Prop :=
  ∀ lport ∈ lports.lookup parent, ∀ binding ∈ lport.binding,
    lport.Up ∧ (binding.isLocal config.host = true → Builds config lports segmentation)

theorem locality_eq_here {host : Id} {binding : PortBinding} :
    binding.locality host = .here ↔ binding.isLocal host = true := by
  unfold PortBinding.locality
  cases binding.isLocal host <;> simp

theorem boundAt_of_binding (host : Id) {lports : Dict Id LogicalPort}
    {lport : LogicalPort} (stored : lports.lookup parent = some lport)
    (up : lport.binding ≠ none → lport.Up) :
    boundAt host lports parent = lport.binding.map (PortBinding.locality host) := by
  rw [boundAt, stored, Option.bind_some, LogicalPort.boundAs]
  cases isBound : lport.binding with
  | none => simp
  | some binding => rw [if_pos (up (by rw [isBound]; simp))]

theorem Consistent.created {segmentation : ChildPortSegmentation}
    (consistent : Consistent config parent node)
    (ofParent : segmentation.parent = parent) (isChild : segmentation.port ≠ parent)
    (stored : ∃ child, node.lports.lookup segmentation.port = some child)
    (fresh : node.apps.segmentations.lookup segmentation.id = none)
    (free : segmentation.port ∉ childIds node.apps.segmentations)
    (ready : Ready config parent node.lports segmentation) :
    Leads (handle config (emit (callbacks config trunkFirst) (depth + 2))
        (.created segmentation)) node
      (fun _ final => Consistent config parent final) (fun _ _ => False) := by
  have arranged := consistent.arranged.insertSegmentation ofParent isChild stored free
  have working := consistent.working.withSegmentations
    (node.apps.segmentations.insert segmentation.id segmentation)
  have unbound : ∀ own, status parent node.apps.segmentations own own segmentation.port =
      none := by
    intro own
    rw [status, if_neg isChild, if_neg free]
  -- Whoever leaves the children bound like the parent leaves a consistent node.
  have settle : ∀ final : Node TrunkApp,
      (∀ own, boundAt config.host node.lports parent = own →
        Working parent final
          (Function.update (status parent node.apps.segmentations own own)
            segmentation.port own)
          (Function.update (status parent node.apps.segmentations own own)
            segmentation.port own)) →
      final.lports = node.lports →
      final.apps.segmentations =
        node.apps.segmentations.insert segmentation.id segmentation →
      Consistent config parent final := by
    intro final settled sameLports sameSegmentations
    constructor
    · rw [sameLports, sameSegmentations]
      exact arranged
    · rw [sameLports, sameSegmentations, status_insert fresh isChild]
      exact settled _ rfl
  have unchanged : boundAt config.host node.lports parent = none → ∀ own,
      boundAt config.host node.lports parent = own →
      Function.update (status parent node.apps.segmentations own own)
        segmentation.port own = status parent node.apps.segmentations own own := by
    rintro notBound own rfl
    rw [notBound, status_none]
    exact Function.update_eq_self _ _
  rw [handle, leads_bind, leads_modify, leads_attempt]
  cases storedParent : node.lports.lookup parent with
  | none =>
      have notBound : boundAt config.host node.lports parent = none := by
        rw [boundAt, storedParent]
        rfl
      have raised : exec (childPortSegmentationCreated config
          (emit (callbacks config trunkFirst) (depth + 2)) segmentation)
          { node with apps := { node.apps with
            segmentations := node.apps.segmentations.insert segmentation.id segmentation } }
          = (.error .referencedObjectNotFound, { node with apps := { node.apps with
            segmentations := node.apps.segmentations.insert segmentation.id
              segmentation } }) := by
        rw [childPortSegmentationCreated, exec_bind_ok (exec_get _), reference, ofParent,
          storedParent]
        rfl
      rw [leads_exec_error (exec_logged_error raised)]
      refine settle _ ?_ rfl rfl
      intro own isOwn
      rw [unchanged notBound own isOwn, ← isOwn]
      exact working.withError (by decide)
  | some lport =>
      have bound := boundAt_of_binding config.host storedParent fun hasBinding => by
        rcases Option.ne_none_iff_exists'.mp hasBinding with ⟨binding, isBinding⟩
        exact (ready lport storedParent binding isBinding).1
      have binding : getPortBinding node.locations lport = lport.binding := by
        rw [getPortBinding, consistent.arranged.keyed _ _ storedParent,
          consistent.working.parent_free]
        rfl
      apply Leads.returning
      apply leads_logged
      rw [childPortSegmentationCreated, leads_bind, leads_get, reference, ofParent,
        storedParent]
      simp only [leads_bind, leads_ofExcept_ok]
      rw [binding]
      cases isBinding : lport.binding with
      | none =>
          rw [isBinding] at bound
          refine settle _ ?_ rfl rfl
          intro own isOwn
          rw [unchanged bound own isOwn, ← isOwn]
          exact working
      | some binding =>
          rw [isBinding] at bound
          have found : (node.apps.segmentations.insert segmentation.id segmentation).lookup
              segmentation.id = some segmentation := by
            rw [Dict.lookup_insert_eq, if_pos rfl]
          refine (working.install arranged found ⟨lport, storedParent⟩ (unbound _)
            (unbound _) ?_).mono ?_ fun _ _ impossible => impossible
          · intro isHere
            exact (ready lport storedParent binding isBinding).2
              (locality_eq_here.mp isHere)
          · rintro _ final ⟨installed, sameLports, sameSegmentations⟩
            refine settle final ?_ sameLports sameSegmentations
            rintro own rfl
            rw [bound] at installed ⊢
            exact installed

theorem Consistent.deleted {id : Id} (consistent : Consistent config parent node)
    (ready : ∀ segmentation ∈ node.apps.segmentations.lookup id,
      Ready config parent node.lports segmentation) :
    Leads (handle config (emit (callbacks config trunkFirst) (depth + 2)) (.deleted id))
      node (fun _ final => Consistent config parent final) (fun _ _ => False) := by
  have arranged := consistent.arranged
  have working := consistent.working
  rw [handle, leads_bind, leads_get]
  cases found : node.apps.segmentations.lookup id with
  | none => exact consistent
  | some segmentation =>
      have settle : ∀ final : Node TrunkApp,
          (∀ own, boundAt config.host node.lports parent = own →
            Working parent final
              (Function.update (status parent node.apps.segmentations own own)
                segmentation.port none)
              (Function.update (status parent node.apps.segmentations own own)
                segmentation.port none)) →
          SameStore node final →
          Consistent config parent { final with apps := { final.apps with
            segmentations := final.apps.segmentations.erase id } } := by
        rintro final settled ⟨sameLports, sameSegmentations⟩
        constructor
        · simp only [sameLports, sameSegmentations]
          exact arranged.eraseSegmentation id
        · have erased := (settled _ rfl).withSegmentations
            (final.apps.segmentations.erase id)
          rw [← arranged.status_erase found, ← sameSegmentations, ← sameLports] at erased
          exact erased
      have unchanged : boundAt config.host node.lports parent = none → ∀ own,
          boundAt config.host node.lports parent = own →
          Function.update (status parent node.apps.segmentations own own)
            segmentation.port none = status parent node.apps.segmentations own own := by
        rintro notBound own rfl
        rw [notBound, status_none]
        exact Function.update_eq_self _ _
      have ofParent := arranged.ofParent _ _ found
      simp only [leads_bind, leads_attempt, leads_modify]
      cases storedParent : node.lports.lookup parent with
      | none =>
          have notBound : boundAt config.host node.lports parent = none := by
            rw [boundAt, storedParent]
            rfl
          have raised : exec (childPortSegmentationDeleted config
              (emit (callbacks config trunkFirst) (depth + 2)) segmentation) node =
              (.error .referencedObjectNotFound, node) := by
            rw [childPortSegmentationDeleted, exec_bind_ok (exec_get _), reference,
              ofParent, storedParent]
            rfl
          rw [leads_exec_error (exec_logged_error raised)]
          refine settle { node with apps := { node.apps with
            errors := node.apps.errors ++ [.referencedObjectNotFound] } } ?_ ⟨rfl, rfl⟩
          intro own isOwn
          rw [unchanged notBound own isOwn, ← isOwn]
          exact working.withError (by decide)
      | some lport =>
          have bound := boundAt_of_binding config.host storedParent
            fun hasBinding => by
              rcases Option.ne_none_iff_exists'.mp hasBinding with ⟨binding, isBinding⟩
              exact (ready segmentation found lport storedParent binding isBinding).1
          have binding : getPortBinding node.locations lport = lport.binding := by
            rw [getPortBinding, arranged.keyed _ _ storedParent, working.parent_free]
            rfl
          apply Leads.returning
          apply leads_logged
          rw [childPortSegmentationDeleted, leads_bind, leads_get, reference, ofParent,
            storedParent]
          simp only [leads_bind, leads_ofExcept_ok]
          rw [binding]
          cases isBinding : lport.binding with
          | none =>
              rw [isBinding] at bound
              refine settle node ?_ ⟨rfl, rfl⟩
              intro own isOwn
              rw [unchanged bound own isOwn, ← isOwn]
              exact working
          | some binding =>
              rw [isBinding] at bound
              rw [bound] at working
              refine (working.uninstall arranged found ?_ ?_ ?_).mono ?_
                fun _ _ impossible => impossible
              · exact arranged.status_child found _ _
              · exact arranged.status_child found _ _
              · intro isHere
                exact (ready segmentation found lport storedParent binding isBinding).2
                  (locality_eq_here.mp isHere)
              · rintro _ final ⟨uninstalled, same⟩
                refine settle final ?_ same
                rintro own rfl
                rw [bound]
                exact uninstalled

/-! ## Every history -/

/-- The events that are looked at: changes of the parent, and segmentations of it
that come and go. -/
def Concerns (parent : Id) (node : Node TrunkApp) : Event → Prop
  | .port (.update lport) => lport.id = parent
  | .port (.delete id) => id = parent
  | .created segmentation =>
      segmentation.parent = parent ∧ segmentation.port ≠ parent ∧
        (node.lports.lookup segmentation.port).isSome = true ∧
        node.apps.segmentations.lookup segmentation.id = none ∧
        segmentation.port ∉ childIds node.apps.segmentations
  | .deleted _ => True

/-- No segmentation comes or goes while the parent has a binding and is disabled,
and where the parent is bound to this chassis the rules can be made. -/
def Calm (config : Config) (parent : Id) (node : Node TrunkApp) : Event → Prop
  | .port (.update lport) =>
      boundAt config.host node.lports parent = some .here ∨
        lport.boundAs config.host = some .here →
      BuildsAll config (node.lports.insert lport.id lport) node.apps.segmentations
  | .port (.delete _) =>
      boundAt config.host node.lports parent = some .here →
      BuildsAll config node.lports node.apps.segmentations
  | .created segmentation => Ready config parent node.lports segmentation
  | .deleted id =>
      ∀ segmentation ∈ node.apps.segmentations.lookup id,
        Ready config parent node.lports segmentation

/-- Every event of a history is as wanted in the node that it meets. -/
def Along (config : Config) (trunkFirst : PortEvent → Bool) (depth : Nat)
    (wanted : Node TrunkApp → Event → Prop) : Node TrunkApp → List Event → Prop
  | _, [] => True
  | node, event :: history =>
      wanted node event ∧
        Along config trunkFirst depth wanted (exec (step config trunkFirst depth event)
          node).2 history

instance (parent : Id) (node : Node TrunkApp) (event : Event) :
    Decidable (Concerns parent node event) :=
  match event with
  | .port (.update lport) => inferInstanceAs (Decidable (lport.id = parent))
  | .port (.delete id) => inferInstanceAs (Decidable (id = parent))
  | .created segmentation =>
      inferInstanceAs (Decidable (segmentation.parent = parent ∧
        segmentation.port ≠ parent ∧
        (node.lports.lookup segmentation.port).isSome = true ∧
        node.apps.segmentations.lookup segmentation.id = none ∧
        segmentation.port ∉ childIds node.apps.segmentations))
  | .deleted _ => .isTrue trivial

instance (config : Config) (lports : Dict Id LogicalPort)
    (segmentation : ChildPortSegmentation) :
    Decidable (Builds config lports segmentation) :=
  inferInstanceAs (Decidable (∀ rule ∈ installationRules config lports segmentation ++
    deletionRules lports segmentation, rule.isOk = true))

instance (config : Config) (lports : Dict Id LogicalPort)
    (segmentations : Dict Id ChildPortSegmentation) :
    Decidable (BuildsAll config lports segmentations) :=
  inferInstanceAs (Decidable (∀ segmentation ∈ segmentations.entries.map Sigma.snd,
    Builds config lports segmentation))

instance (config : Config) (parent : Id) (lports : Dict Id LogicalPort)
    (segmentation : ChildPortSegmentation) :
    Decidable (Ready config parent lports segmentation) :=
  inferInstanceAs (Decidable (∀ lport ∈ lports.lookup parent, ∀ binding ∈ lport.binding,
    lport.Up ∧ (binding.isLocal config.host = true →
      Builds config lports segmentation)))

instance (config : Config) (parent : Id) (node : Node TrunkApp) (event : Event) :
    Decidable (Calm config parent node event) :=
  match event with
  | .port (.update lport) =>
      inferInstanceAs (Decidable (boundAt config.host node.lports parent = some .here ∨
        lport.boundAs config.host = some .here →
        BuildsAll config (node.lports.insert lport.id lport) node.apps.segmentations))
  | .port (.delete _) =>
      inferInstanceAs (Decidable (boundAt config.host node.lports parent = some .here →
        BuildsAll config node.lports node.apps.segmentations))
  | .created segmentation =>
      inferInstanceAs (Decidable (Ready config parent node.lports segmentation))
  | .deleted id =>
      inferInstanceAs (Decidable (∀ segmentation ∈ node.apps.segmentations.lookup id,
        Ready config parent node.lports segmentation))

instance decidableAlong (config : Config) (trunkFirst : PortEvent → Bool) (depth : Nat)
    (wanted : Node TrunkApp → Event → Prop) [∀ node event, Decidable (wanted node event)] :
    (node : Node TrunkApp) → (history : List Event) →
      Decidable (Along config trunkFirst depth wanted node history)
  | _, [] => .isTrue trivial
  | node, event :: history =>
      have := decidableAlong config trunkFirst depth wanted
        (exec (step config trunkFirst depth event) node).2 history
      inferInstanceAs (Decidable (wanted node event ∧ Along config trunkFirst depth wanted
        (exec (step config trunkFirst depth event) node).2 history))

theorem Consistent.step (trunkFirst : PortEvent → Bool) (depth : Nat) {event : Event}
    (consistent : Consistent config parent node)
    (concerns : Concerns parent node event) (calm : Calm config parent node event) :
    Leads (TrunkApp.step config trunkFirst depth event) node
      (fun _ final => Consistent config parent final) (fun _ _ => False) := by
  cases event with
  | port change =>
      cases change with
      | update lport => exact consistent.update concerns calm
      | delete id =>
          cases concerns
          exact consistent.delete calm
  | created segmentation =>
      rcases concerns with ⟨ofParent, isChild, stored, fresh, free⟩
      exact consistent.created ofParent isChild (Option.isSome_iff_exists.mp stored) fresh
        free calm
  | deleted id => exact consistent.deleted calm

theorem Consistent.trace {history : List Event} (consistent : Consistent config parent node)
    (concerns : Along config trunkFirst depth (Concerns parent) node history)
    (calm : Along config trunkFirst depth (Calm config parent) node history) :
    Consistent config parent
      (trace (TrunkApp.step config trunkFirst depth) history node).2 := by
  induction history generalizing node with
  | nil => exact consistent
  | cons event history induction =>
      rcases (consistent.step trunkFirst depth concerns.1 calm.1).returned with
        ⟨_, after, executed, next⟩
      rw [Along, executed] at concerns calm
      simp only [Program.trace, executed]
      exact induction next concerns.2 calm.2

theorem Consistent.initial {lports : Dict Id LogicalPort} (keyed : Keyed lports)
    (absent : lports.lookup parent = none) :
    Consistent config parent { Node.initial { } with lports } where
  arranged :=
    { keyed := keyed
      ofParent := by
        intro id segmentation found
        cases found
      child := by
        intro id segmentation found
        cases found
      distinct := by
        intro id segmentation other segmentation' found
        cases found }
  working := by
    have notBound : boundAt config.host lports parent = none := by
      rw [boundAt, absent]
      rfl
    simp only [notBound, status_none]
    exact
      { sessions := fun _ => rfl
        membership := by
          intro id kind
          cases kind <;> simp [Node.initial, Node.bound]
        overrides := by
          intro id
          simp [Node.initial]
        noKeyError := by simp [Node.initial] }

/-- In every calm history the events of each child take turns and agree on where
the child is, exactly the bound children have overrides, no override is cleared
that is not there, and a child is bound exactly while its segmentation exists and
its parent is bound, and as what the parent is. -/
theorem children_follow_parent (config : Config) (trunkFirst : PortEvent → Bool) (depth : Nat)
    (parent : Id) (lports : Dict Id LogicalPort) (history : List Event)
    (keyed : Keyed lports) (absent : lports.lookup parent = none)
    (concerns : Along config trunkFirst depth (Concerns parent)
      { Node.initial { } with lports } history)
    (calm : Along config trunkFirst depth (Calm config parent)
      { Node.initial { } with lports } history) :
    let node := run config trunkFirst depth lports history
    PyError.keyError ∉ node.apps.errors ∧
    ∀ child, child ≠ parent → ∃ status, session node.sessions child = some status ∧
      (∀ kind, status = some kind ↔ child ∈ node.bound kind) ∧
      ((∃ binding, node.locations.lookup child = some binding) ↔ status ≠ none) ∧
      ∀ kind, status = some kind ↔
        (∃ id segmentation, node.apps.segmentations.lookup id = some segmentation ∧
          segmentation.port = child) ∧
        ∃ lport binding, node.lports.lookup parent = some lport ∧ lport.Up ∧
          lport.binding = some binding ∧ binding.locality config.host = kind := by
  intro node
  have consistent : Consistent config parent node :=
    (Consistent.initial keyed absent).trace concerns calm
  have working := consistent.working
  refine ⟨working.noKeyError, ?_⟩
  intro child isChild
  refine ⟨_, working.sessions child, ?_, ?_, ?_⟩
  · intro kind
    exact (working.membership child kind).symm
  · rw [working.overrides child]
    simp [isChild]
  · intro kind
    rw [status, if_neg isChild, ← mem_childIds]
    by_cases segmented : child ∈ childIds node.apps.segmentations
    · simp only [segmented, if_true, true_and]
      simp only [boundAt, LogicalPort.boundAs, Option.bind_eq_some_iff,
        Option.ite_none_right_eq_some, Option.map_eq_some_iff]
      constructor
      · rintro ⟨lport, stored, up, binding, isBinding, isKind⟩
        exact ⟨lport, binding, stored, up, isBinding, isKind⟩
      · rintro ⟨lport, binding, stored, up, isBinding, isKind⟩
        exact ⟨lport, stored, up, binding, isBinding, isKind⟩
    · simp [segmented]

namespace Sample

def settings : Config where
  host := "h1"
  lswitches := fun id => if id = "net" then some ⟨"net", 5, some "vxlan", some 7⟩ else none
  order := fun found => found
  order_perm := fun _ => .refl _

/-- The trunk application is called first for ports that are bound. -/
def bindsFirst : PortEvent → Bool
  | .bind _ => true
  | _ => false

/-- A port that is not bound by itself. -/
def child : LogicalPort :=
  { id := "child", uniqueKey := 2, lswitch := some "net", macs := [0xfa163e000002]
    ips := [.v4 0x0a000002] }

def parentPort (enabled : Bool) (chassis : Id) : LogicalPort :=
  { id := "parent", uniqueKey := 1, enabled := some enabled
    binding := some (.chassis chassis), lswitch := some "net", macs := [0xfa163e000001]
    ips := [.v4 0x0a000001] }

def lports : Dict Id LogicalPort := (∅ : Dict Id LogicalPort).insert "child" child

def segmentation : ChildPortSegmentation := ⟨"cps", "parent", "child", .vlan, some 100⟩

/-- The parent comes and goes between chassis and is disabled in between, with a
segmentation that is made before it and deleted while it is elsewhere. -/
def calmHistory : List Event :=
  [.created segmentation, .port (.update (parentPort true "h1")),
    .port (.update (parentPort false "h1")), .port (.update (parentPort true "h1")),
    .port (.update (parentPort true "h2")), .deleted "cps", .port (.delete "parent")]

/-- A segmentation that is made while the parent is bound and disabled. -/
def disabledHistory : List Event :=
  [.port (.update (parentPort false "h1")), .created segmentation,
    .port (.update (parentPort true "h1"))]

theorem keyed_lports : Keyed lports := by
  intro id lport found
  rw [lports, Dict.lookup_insert_eq] at found
  split at found
  · next same =>
      cases found
      exact same.symm
  · cases found

end Sample

open Sample in
theorem children_follow_moving_parent :
    (run settings bindsFirst 0 lports calmHistory).emitted.length = 12 ∧
    ∃ status, session (run settings bindsFirst 0 lports calmHistory).sessions "child" =
      some status := by
  refine ⟨by decide +kernel, ?_⟩
  have followed := children_follow_parent settings bindsFirst 0 "parent" lports calmHistory
    keyed_lports (by decide +kernel) (by decide +kernel) (by decide +kernel)
  rcases followed.2 "child" (by decide) with ⟨status, inOrder, -⟩
  exact ⟨status, inOrder⟩

open Sample in
/-- The child of a disabled parent is bound, and bound again when the parent is
enabled. -/
theorem child_bound_twice :
    Along settings bindsFirst 0 (Concerns "parent") { Node.initial { } with lports }
      disabledHistory ∧
    child.binding = none ∧
    "child" ∈ (run settings bindsFirst 0 lports (disabledHistory.take 2)).localPorts ∧
    session (run settings bindsFirst 0 lports disabledHistory).sessions "child" = none := by
  refine ⟨by decide +kernel, rfl, by decide +kernel, by decide +kernel⟩

end TrunkApp

end Dragonflow

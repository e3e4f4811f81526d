import Dragonflow.Controller.Apps.PortQos
import Mathlib.Data.List.Sort
import Mathlib.Data.String.Basic

/-! # The switch limits a port as its policy says

A port is told of its policy when it is bound or given another policy, and through the
set of its policy when that gets newer. In between the record of the port is that of
the current version.
-/

namespace Dragonflow

open Program

namespace QosPolicy

/-- The first bandwidth rule of a policy limits both the rate and the burst. -/
def Limits (policy : QosPolicy) : Prop :=
  ∃ rule, policy.firstRule .bandwidthLimit = some rule ∧
    rule.maxKbps.getD 0 ≠ 0 ∧ rule.maxBurstKbps.getD 0 ≠ 0

theorem isQosSet_iff (policy : QosPolicy) : policy.isQosSet = true ↔ policy.Limits := by
  unfold isQosSet Limits getMaxKbps getMaxBurstKbps
  cases policy.firstRule .bandwidthLimit with
  | none => simp
  | some rule => simp

end QosPolicy

namespace PortQosApp

variable {app : PortQosApp} {policy : QosPolicy} {port : Id} {lport : LogicalPort}

/-- The record that a policy asks for. -/
def recordOf (policy : QosPolicy) : Option QosRecord :=
  if policy.isQosSet then some policy.record else none

/-- The current version of the policy of a port. -/
def currentPolicy (app : PortQosApp) (lport : LogicalPort) : Option QosPolicy :=
  lport.qosPolicy.bind app.policies.lookup

/-- The record that a port is to have. -/
def wanted (app : PortQosApp) (lport : LogicalPort) : Option QosRecord :=
  (app.currentPolicy lport).bind recordOf

/-- A record is one of a version of its policy that is not newer than the stored one. A
record of the stored version is the one that it asks for. -/
def Fits (app : PortQosApp) (record : QosRecord) : Prop :=
  ∃ policy, app.policies.lookup record.policy = some policy ∧
    record.version ≤ policy.version ∧
      (record.version = policy.version → recordOf policy = some record)

/-- What an earlier run can have left behind. -/
structure Sane (app : PortQosApp) : Prop where
  keyed : ∀ id policy, app.policies.lookup id = some policy → policy.id = id
  fits : ∀ port record, app.records.lookup port = some record → app.Fits record

/-! ## One port -/

/-- Whatever the switch has, afterwards the port has the record of the policy. -/
theorem Sane.exec_updateLocalPortQos (sane : Sane app)
    (stored : app.policies.lookup policy.id = some policy) (port : Id) :
    ∃ after, exec (updateLocalPortQos port policy) app = (.ok (), after) ∧
      after.localPorts = app.localPorts ∧ after.policies = app.policies ∧
      ∀ other, after.records.lookup other =
        if other = port then recordOf policy else app.records.lookup other := by
  unfold updateLocalPortQos
  rw [exec_bind_ok (exec_get app)]
  have written : ∀ set : policy.isQosSet = true, ∀ other,
      (app.records.insert port policy.record).lookup other =
        if other = port then recordOf policy else app.records.lookup other := by
    intro set other
    rw [Dict.lookup_insert_eq, recordOf, if_pos set]
  cases found : app.records.lookup port with
  | none =>
      by_cases set : policy.isQosSet = true
      · simp only [set, if_true]
        exact ⟨_, rfl, rfl, rfl, written set⟩
      · simp only [set, if_false, Bool.false_eq_true]
        refine ⟨app, rfl, rfl, rfl, fun other => ?_⟩
        rw [recordOf, if_neg set]
        split
        · next same => rw [same, found]
        · rfl
  | some oldQos =>
      by_cases set : policy.isQosSet = true
      · simp only [set, if_true]
        by_cases stale : oldQos.policy ≠ policy.id ∨ policy.version > oldQos.version
        · rw [if_pos stale]
          exact ⟨_, rfl, rfl, rfl, written set⟩
        · rw [if_neg stale]
          rw [not_or, not_not, not_lt] at stale
          rcases sane.fits port oldQos found with ⟨current, isCurrent, notNewer, asked⟩
          rw [stale.1, stored] at isCurrent
          cases isCurrent
          have record := asked (le_antisymm notNewer stale.2)
          refine ⟨app, rfl, rfl, rfl, fun other => ?_⟩
          split
          · next same => rw [same, found, record]
          · rfl
      · simp only [set, if_false, Bool.false_eq_true]
        refine ⟨_, rfl, rfl, rfl, fun other => ?_⟩
        rw [recordOf, if_neg set]
        exact Dict.lookup_erase_eq _ _ _

theorem Sane.write (sane : Sane app) {after : PortQosApp}
    (stored : app.policies.lookup policy.id = some policy)
    (policies : after.policies = app.policies)
    (records : ∀ other, after.records.lookup other =
      if other = port then recordOf policy else app.records.lookup other) : Sane after where
  keyed := by
    rw [policies]
    exact sane.keyed
  fits other record found := by
    unfold Fits
    rw [policies]
    rw [records] at found
    split at found
    · have asked := found
      unfold recordOf at found
      split at found
      · cases found
        exact ⟨policy, stored, le_refl _, fun _ => asked⟩
      · cases found
    · exact sane.fits other record found

theorem Sane.erase (sane : Sane app) {after : PortQosApp}
    (policies : after.policies = app.policies)
    (records : ∀ other, after.records.lookup other =
      if other = port then none else app.records.lookup other) : Sane after where
  keyed := by
    rw [policies]
    exact sane.keyed
  fits other record found := by
    unfold Fits
    rw [policies]
    rw [records] at found
    split at found
    · cases found
    · exact sane.fits other record found

theorem Sane.of_eq (sane : Sane app) {after : PortQosApp}
    (policies : after.policies = app.policies) (records : after.records = app.records) :
    Sane after := by
  constructor
  · rw [policies]
    exact sane.keyed
  · unfold Fits
    rw [policies, records]
    exact sane.fits

/-! ## Ports and their policies -/

/-- A handler has given a port its record and put it into the set of its policy. -/
structure Given (app : PortQosApp) (lport : LogicalPort) (after : PortQosApp) : Prop where
  policies : after.policies = app.policies
  records : ∀ other, after.records.lookup other =
    if other = lport.id then app.wanted lport else app.records.lookup other
  sets : ∀ policy, after.portsOf policy =
    if lport.qosPolicy = some policy then insert lport.id (app.portsOf policy)
    else app.portsOf policy
  sane : Sane after

/-- The set of a policy replaced. -/
def withPorts (app : PortQosApp) (policy : Id) (ports : Finset Id) : PortQosApp :=
  { app with localPorts := app.localPorts.insert policy ports }

theorem portsOf_withPorts (app : PortQosApp) (policy other : Id) (ports : Finset Id) :
    (app.withPorts policy ports).portsOf other =
      if other = policy then ports else app.portsOf other := by
  unfold portsOf withPorts
  rw [Dict.lookup_insert_eq]
  split <;> rfl

theorem Sane.exec_check (sane : Sane app) (refers : ∀ policy, lport.qosPolicy = some policy →
      ∃ found, app.policies.lookup policy = some found) :
    ∃ after, exec (checkUpdateLocalPortQos lport) app = (.ok (), after) ∧
      Given app lport after := by
  unfold checkUpdateLocalPortQos
  cases about : lport.qosPolicy with
  | none =>
      refine ⟨_, rfl, rfl, fun other => ?_, fun policy => ?_, ?_⟩
      · unfold wanted currentPolicy
        rw [about]
        exact Dict.lookup_erase_eq _ _ _
      · rw [about]
        rfl
      · exact sane.erase rfl fun other => Dict.lookup_erase_eq _ lport.id other
  | some policy =>
      rcases refers policy about with ⟨found, stored⟩
      have isFound : found.id = policy := sane.keyed policy found stored
      subst isFound
      dsimp only
      rw [exec_bind_ok (exec_get app)]
      unfold setPortsOf reference
      rw [exec_bind_ok (exec_modify _ app), stored]
      have saneThen : Sane (app.withPorts found.id
          (insert lport.id (app.portsOf found.id))) := sane.of_eq rfl rfl
      rcases saneThen.exec_updateLocalPortQos stored lport.id with
        ⟨after, executed, sets, policies, records⟩
      refine ⟨after, executed, policies, fun other => ?_, fun other => ?_,
        saneThen.write stored policies records⟩
      · rw [records]
        unfold wanted currentPolicy
        rw [about, Option.bind_some, stored, Option.bind_some]
        rfl
      · have same : after.portsOf other = (app.withPorts found.id
            (insert lport.id (app.portsOf found.id))).portsOf other := by
          unfold portsOf
          rw [sets]
          rfl
        rw [same, portsOf_withPorts]
        by_cases isPolicy : other = found.id
        · rw [if_pos isPolicy, if_pos (about.trans (congrArg some isPolicy.symm)), isPolicy]
        · rw [if_neg isPolicy, if_neg fun isSome =>
            isPolicy (Option.some.inj (isSome.symm.trans about))]

/-- Taking a port from the set of its policy. -/
theorem exec_discard (app : PortQosApp) (lport : LogicalPort) (port : Id) :
    ∃ after, exec (discardLocalPort lport port) app = (.ok (), after) ∧
      after.policies = app.policies ∧ after.records = app.records ∧
      ∀ policy, after.portsOf policy =
        if lport.qosPolicy = some policy then (app.portsOf policy).erase port
        else app.portsOf policy := by
  unfold discardLocalPort
  rw [exec_bind_ok (exec_get app)]
  cases about : lport.qosPolicy with
  | none => exact ⟨app, rfl, rfl, rfl, fun policy => rfl⟩
  | some policy =>
      refine ⟨_, rfl, rfl, rfl, fun other => ?_⟩
      apply (portsOf_withPorts app policy other _).trans
      by_cases isPolicy : other = policy
      · rw [if_pos isPolicy, if_pos (congrArg some isPolicy.symm), isPolicy]
      · rw [if_neg isPolicy, if_neg fun isSome =>
          isPolicy (Option.some.inj isSome).symm]

/-! ## A newer policy -/

/-- Storing a newer version of a policy. -/
theorem Sane.newer (sane : Sane app) {old : QosPolicy}
    (stored : app.policies.lookup policy.id = some old)
    (newer : old.version < policy.version) :
    Sane { app with policies := app.policies.insert policy.id policy } where
  keyed id found isFound := by
    dsimp only at isFound
    rw [Dict.lookup_insert_eq] at isFound
    split at isFound
    · next same =>
        cases isFound
        exact same.symm
    · exact sane.keyed id found isFound
  fits port record found := by
    rcases sane.fits port record found with ⟨current, isCurrent, notNewer, asked⟩
    unfold Fits
    dsimp only
    rw [Dict.lookup_insert_eq]
    by_cases same : record.policy = policy.id
    · rw [if_pos same]
      rw [same, stored] at isCurrent
      cases isCurrent
      have older : record.version < policy.version := notNewer.trans_lt newer
      exact ⟨policy, rfl, older.le, fun equal => absurd equal older.ne⟩
    · rw [if_neg same]
      exact ⟨current, isCurrent, notNewer, asked⟩

/-- The ports of a policy get its record, one after the other. -/
theorem Sane.leads_updateAll (sane : Sane app)
    (stored : app.policies.lookup policy.id = some policy) (ports : List Id) :
    Leads (forM ports fun port => updateLocalPortQos port policy) app
      (fun _ after => Sane after ∧ after.localPorts = app.localPorts ∧
        after.policies = app.policies ∧ ∀ other, after.records.lookup other =
          if other ∈ ports then recordOf policy else app.records.lookup other)
      (fun _ _ => False) := by
  apply Leads.loop (fun done (current : PortQosApp) => Sane current ∧
    current.localPorts = app.localPorts ∧ current.policies = app.policies ∧
    ∀ other, current.records.lookup other =
      if other ∈ done then recordOf policy else app.records.lookup other) ports
  · intro done port rest current _ holds
    rcases holds with ⟨saneNow, sets, policies, records⟩
    have storedNow : current.policies.lookup policy.id = some policy := by
      rw [policies]
      exact stored
    rcases saneNow.exec_updateLocalPortQos storedNow port with
      ⟨after, executed, setsAfter, policiesAfter, recordsAfter⟩
    rw [leads_exec_ok executed]
    refine ⟨saneNow.write storedNow policiesAfter recordsAfter, setsAfter.trans sets,
      policiesAfter.trans policies, fun other => ?_⟩
    rw [recordsAfter, records]
    by_cases isPort : other = port
    · rw [if_pos isPort, if_pos (by simp [isPort])]
    · simp [isPort]
  · exact ⟨sane, rfl, rfl, fun other => by simp⟩

/-! ## Histories -/

/-- The records of the ports that the events told about are as they are to be. -/
structure Current (system : System) : Prop where
  sane : Sane system.app
  named : ∀ port lport, system.statuses port = .bound lport → lport.id = port
  listed : ∀ policy port, port ∈ system.app.portsOf policy ↔
    ∃ lport, system.statuses port = .bound lport ∧ lport.qosPolicy = some policy
  refers : ∀ port lport, system.statuses port = .bound lport →
    ∀ policy, lport.qosPolicy = some policy →
      ∃ found, system.app.policies.lookup policy = some found
  bound : ∀ port lport, system.statuses port = .bound lport →
    system.app.records.lookup port = system.app.wanted lport
  unbound : ∀ port, system.statuses port = .unbound →
    system.app.records.lookup port = none

/-- A port is in no set, and everything else is as before. -/
structure Discarded (app : PortQosApp) (port : Id) (after : PortQosApp) : Prop where
  policies : after.policies = app.policies
  records : after.records = app.records
  sets : ∀ policy other, other ∈ after.portsOf policy ↔
    other ≠ port ∧ other ∈ app.portsOf policy

variable {system : System} {original : LogicalPort} {order : SetOrder}

theorem Refers.found (refers : system.Refers lport) (policy : Id)
    (about : lport.qosPolicy = some policy) :
    ∃ found, system.app.policies.lookup policy = some found := by
  unfold System.Refers at refers
  rw [about] at refers
  exact Option.isSome_iff_exists.mp refers

/-- A port that is not bound is in no set. -/
theorem Current.not_listed (current : Current system)
    (free : (system.statuses port).isBound = false) :
    Discarded system.app port system.app where
  policies := rfl
  records := rfl
  sets policy other := by
    constructor
    · intro member
      refine ⟨fun same => ?_, member⟩
      rcases (current.listed policy other).mp member with ⟨lport, isBound, _⟩
      rw [← same, isBound] at free
      cases free
    · exact And.right

/-- The set of its policy is the only one that a bound port is in. -/
theorem Current.exec_discard (current : Current system)
    (isBound : system.statuses port = .bound lport) :
    ∃ after, exec (discardLocalPort lport port) system.app = (.ok (), after) ∧
      Discarded system.app port after := by
  rcases PortQosApp.exec_discard system.app lport port with
    ⟨after, executed, policies, records, sets⟩
  refine ⟨after, executed, policies, records, fun policy other => ?_⟩
  rw [sets]
  split
  · exact Finset.mem_erase
  · next isOther =>
      constructor
      · intro member
        refine ⟨fun same => ?_, member⟩
        rcases (current.listed policy other).mp member with ⟨found, isFound, about⟩
        rw [same, isBound] at isFound
        cases isFound
        exact isOther about
      · exact And.right

/-- The policies that a port may refer to matter only where it refers. -/
theorem wanted_of_eq {before after : PortQosApp} (policies : after.policies = before.policies)
    (lport : LogicalPort) : after.wanted lport = before.wanted lport := by
  unfold wanted currentPolicy
  rw [policies]

/-- A port gets its policy. -/
theorem Current.give (current : Current system) {middle after : PortQosApp}
    (discarded : Discarded system.app lport.id middle) (given : Given middle lport after)
    (refers : system.Refers lport) :
    Current ⟨after, Function.update system.statuses lport.id (.bound lport)⟩ where
  sane := given.sane
  named other found isFound := by
    dsimp only at isFound
    by_cases same : other = lport.id
    · rw [same, Function.update_self] at isFound
      cases isFound
      exact same.symm
    · rw [Function.update_of_ne same] at isFound
      exact current.named other found isFound
  listed policy other := by
    dsimp only
    have before := discarded.sets policy other
    rw [given.sets]
    by_cases same : other = lport.id
    · rw [same, Function.update_self]
      rw [same] at before
      by_cases about : lport.qosPolicy = some policy
      · simp [about]
      · simp [about, before]
    · rw [Function.update_of_ne same, ← current.listed policy other]
      by_cases about : lport.qosPolicy = some policy
      · simp [about, before, same]
      · simp [about, before, same]
  refers other found isFound := by
    dsimp only at isFound ⊢
    rw [given.policies, discarded.policies]
    by_cases same : other = lport.id
    · rw [same, Function.update_self] at isFound
      cases isFound
      exact Refers.found refers
    · rw [Function.update_of_ne same] at isFound
      exact current.refers other found isFound
  bound other found isFound := by
    dsimp only at isFound ⊢
    rw [given.records, wanted_of_eq given.policies]
    by_cases same : other = lport.id
    · rw [same, Function.update_self] at isFound
      cases isFound
      rw [if_pos same]
    · rw [Function.update_of_ne same] at isFound
      rw [if_neg same, discarded.records, wanted_of_eq discarded.policies]
      exact current.bound other found isFound
  unbound other isUnbound := by
    dsimp only at isUnbound ⊢
    by_cases same : other = lport.id
    · rw [same, Function.update_self] at isUnbound
      cases isUnbound
    · rw [Function.update_of_ne same] at isUnbound
      rw [given.records, if_neg same, discarded.records]
      exact current.unbound other isUnbound

/-- Another version of a port with the same policy. -/
theorem Current.renew (current : Current system)
    (isBound : system.statuses lport.id = .bound original)
    (policy : lport.qosPolicy = original.qosPolicy) :
    Current ⟨system.app, Function.update system.statuses lport.id (.bound lport)⟩ := by
  have known : ∀ other found,
      Function.update system.statuses lport.id (.bound lport) other = .bound found →
        ∃ before, system.statuses other = .bound before ∧
          before.qosPolicy = found.qosPolicy ∧ found.id = other := by
    intro other found isFound
    by_cases same : other = lport.id
    · rw [same, Function.update_self] at isFound
      cases isFound
      exact ⟨original, same ▸ isBound, policy.symm, same.symm⟩
    · rw [Function.update_of_ne same] at isFound
      exact ⟨found, isFound, rfl, current.named other found isFound⟩
  constructor
  · exact current.sane
  · intro other found isFound
    rcases known other found isFound with ⟨_, _, _, isNamed⟩
    exact isNamed
  · intro id other
    apply (current.listed id other).trans
    constructor
    · rintro ⟨before, isBefore, about⟩
      by_cases same : other = lport.id
      · subst same
        rw [isBound] at isBefore
        cases isBefore
        exact ⟨lport, Function.update_self .., policy.trans about⟩
      · exact ⟨before, (Function.update_of_ne same ..).trans isBefore, about⟩
    · rintro ⟨found, isFound, about⟩
      rcases known other found isFound with ⟨before, isBefore, samePolicy, _⟩
      exact ⟨before, isBefore, samePolicy.trans about⟩
  · intro other found isFound id about
    rcases known other found isFound with ⟨before, isBefore, samePolicy, _⟩
    exact current.refers other before isBefore id (samePolicy.trans about)
  · intro other found isFound
    rcases known other found isFound with ⟨before, isBefore, samePolicy, _⟩
    rw [current.bound other before isBefore]
    unfold wanted currentPolicy
    rw [samePolicy]
  · intro other isUnbound
    dsimp only at isUnbound
    by_cases same : other = lport.id
    · rw [same, Function.update_self] at isUnbound
      cases isUnbound
    · rw [Function.update_of_ne same] at isUnbound
      exact current.unbound other isUnbound

/-- A port loses its record. -/
theorem Current.remove (current : Current system) {middle after : PortQosApp}
    (discarded : Discarded system.app port middle)
    (policies : after.policies = middle.policies)
    (localPorts : after.localPorts = middle.localPorts)
    (records : ∀ other, after.records.lookup other =
      if other = port then none else middle.records.lookup other) :
    Current ⟨after, Function.update system.statuses port .unbound⟩ := by
  have known : ∀ other found,
      Function.update system.statuses port .unbound other = .bound found →
        other ≠ port ∧ system.statuses other = .bound found := by
    intro other found isFound
    by_cases same : other = port
    · rw [same, Function.update_self] at isFound
      cases isFound
    · rw [Function.update_of_ne same] at isFound
      exact ⟨same, isFound⟩
  have kept : after.policies = system.app.policies := policies.trans discarded.policies
  rw [discarded.records] at records
  constructor
  · exact current.sane.erase kept records
  · intro other found isFound
    exact current.named other found (known other found isFound).2
  · intro policy other
    have sets : after.portsOf policy = middle.portsOf policy := by
      unfold portsOf
      rw [localPorts]
    dsimp only
    rw [sets, discarded.sets, current.listed]
    constructor
    · rintro ⟨isOther, found, isFound, about⟩
      exact ⟨found, (Function.update_of_ne isOther ..).trans isFound, about⟩
    · rintro ⟨found, isFound, about⟩
      exact ⟨(known other found isFound).1, found, (known other found isFound).2, about⟩
  · intro other found isFound
    dsimp only
    rw [kept]
    exact current.refers other found (known other found isFound).2
  · intro other found isFound
    dsimp only
    rw [records, if_neg (known other found isFound).1, wanted_of_eq kept]
    exact current.bound other found (known other found isFound).2
  · intro other isUnbound
    dsimp only at isUnbound ⊢
    rw [records]
    by_cases same : other = port
    · rw [if_pos same]
    · rw [if_neg same]
      rw [Function.update_of_ne same] at isUnbound
      exact current.unbound other isUnbound

/-- A policy that is new to the store. -/
theorem Current.create (current : Current system)
    (isNew : system.app.policies.lookup policy.id = none) :
    Current ⟨{ system.app with policies := system.app.policies.insert policy.id policy },
      system.statuses⟩ := by
  have kept : ∀ id found, system.app.policies.lookup id = some found →
      (system.app.policies.insert policy.id policy).lookup id = some found := by
    intro id found isFound
    have isOther : id ≠ policy.id := by
      intro same
      rw [same, isNew] at isFound
      cases isFound
    rw [Dict.lookup_insert_eq, if_neg isOther, isFound]
  constructor
  · constructor
    · intro id found isFound
      dsimp only at isFound
      rw [Dict.lookup_insert_eq] at isFound
      split at isFound
      · next same =>
          cases isFound
          exact same.symm
      · exact current.sane.keyed id found isFound
    · intro port record isRecord
      rcases current.sane.fits port record isRecord with ⟨found, isFound, fits⟩
      exact ⟨found, kept record.policy found isFound, fits⟩
  · exact current.named
  · exact current.listed
  · intro port lport isBound id about
    rcases current.refers port lport isBound id about with ⟨found, isFound⟩
    exact ⟨found, kept id found isFound⟩
  · intro port lport isBound
    dsimp only
    rw [current.bound port lport isBound]
    unfold wanted currentPolicy
    cases about : lport.qosPolicy with
    | none => rfl
    | some id =>
        rcases current.refers port lport isBound id about with ⟨found, isFound⟩
        rw [Option.bind_some, Option.bind_some, isFound, kept id found isFound]
  · exact current.unbound

/-- A newer version of a policy, which its ports have been given. -/
theorem Current.newer (current : Current system) {after : PortQosApp} (ports : List Id)
    (members : ∀ port, port ∈ ports ↔ port ∈ system.app.portsOf policy.id)
    (sane : Sane after) (localPorts : after.localPorts = system.app.localPorts)
    (policies : after.policies = system.app.policies.insert policy.id policy)
    (records : ∀ port, after.records.lookup port =
      if port ∈ ports then recordOf policy else system.app.records.lookup port) :
    Current ⟨after, system.statuses⟩ where
  sane := sane
  named := current.named
  listed id port := by
    have sets : after.portsOf id = system.app.portsOf id := by
      unfold portsOf
      rw [localPorts]
    dsimp only
    rw [sets]
    exact current.listed id port
  refers port lport isBound id about := by
    dsimp only
    rw [policies, Dict.lookup_insert_eq]
    split
    · exact ⟨policy, rfl⟩
    · exact current.refers port lport isBound id about
  bound port lport isBound := by
    have listed : port ∈ ports ↔ lport.qosPolicy = some policy.id := by
      rw [members, current.listed]
      constructor
      · intro member
        rcases member with ⟨found, isFound, about⟩
        have same := isBound.symm.trans isFound
        cases same
        exact about
      · intro about
        exact ⟨lport, isBound, about⟩
    dsimp only
    rw [records]
    unfold wanted currentPolicy
    rw [policies]
    by_cases about : lport.qosPolicy = some policy.id
    · rw [if_pos (listed.mpr about), about, Option.bind_some, Dict.lookup_insert_eq,
        if_pos rfl, Option.bind_some]
    · rw [if_neg fun member => about (listed.mp member), current.bound port lport isBound]
      unfold wanted currentPolicy
      cases isId : lport.qosPolicy with
      | none => rfl
      | some id =>
          have isOther : id ≠ policy.id := by
            intro same
            exact about (isId.trans (congrArg some same))
          rw [Option.bind_some, Option.bind_some, Dict.lookup_insert_eq, if_neg isOther]
  unbound port isUnbound := by
    have notListed : port ∉ ports := by
      rw [members, current.listed]
      intro member
      rcases member with ⟨found, isFound, _⟩
      have same := isUnbound.symm.trans isFound
      cases same
    dsimp only
    rw [records, if_neg notListed]
    exact current.unbound port isUnbound

/-- No handler raises, and every event leaves the records as they are to be. -/
theorem Current.handle (current : Current system) {event : Event}
    (wellFormed : system.WellFormed event) :
    ∃ after, exec (handle order event) system.app = (.ok (), after) ∧
      Current ⟨after, System.told system.statuses event⟩ := by
  cases event with
  | bindLocal lport =>
      rcases current.sane.exec_check (Refers.found wellFormed.2) with
        ⟨after, executed, given⟩
      have discarded := current.not_listed wellFormed.1
      exact ⟨after, executed, current.give discarded given wellFormed.2⟩
  | localUpdated lport originalLport =>
      rcases wellFormed with ⟨isBound, refers⟩
      simp only [PortQosApp.handle, updateLocalPort]
      by_cases same : lport.qosPolicy = originalLport.qosPolicy
      · rw [if_pos same]
        exact ⟨system.app, rfl, current.renew isBound same⟩
      · rw [if_neg same]
        rcases current.exec_discard isBound with ⟨middle, first, discarded⟩
        have sane := current.sane.of_eq discarded.policies discarded.records
        have found : ∀ id, lport.qosPolicy = some id →
            ∃ found, middle.policies.lookup id = some found := by
          rw [discarded.policies]
          exact Refers.found refers
        rcases sane.exec_check found with ⟨after, second, given⟩
        rw [exec_bind_ok first]
        exact ⟨after, second, current.give discarded given refers⟩
  | unbindLocal lport =>
      rcases current.exec_discard wellFormed with ⟨middle, first, discarded⟩
      simp only [PortQosApp.handle, removeLocalPort]
      rw [exec_bind_ok first]
      refine ⟨_, rfl, current.remove discarded rfl rfl fun other => ?_⟩
      exact Dict.lookup_erase_eq _ _ _
  | policyCreated policy => exact ⟨_, rfl, current.create wellFormed⟩
  | policyUpdated policy =>
      rcases (Option.any_eq_true _ _).mp wellFormed with ⟨old, stored, newer⟩
      have older := of_decide_eq_true newer
      have sane := current.sane.newer stored older
      have isStored := AList.lookup_insert (b := policy) (a := policy.id) system.app.policies
      rcases (sane.leads_updateAll isStored
        (order.walk (system.app.portsOf policy.id))).returned with
          ⟨_, after, executed, saneAfter, localPorts, policies, records⟩
      refine ⟨after, executed, ?_⟩
      exact current.newer _ (order.mem_walk _) saneAfter localPorts policies records

theorem Current.step (current : Current system) {event : Event} {after : System}
    (stepped : System.step order system event = some after) : Current after := by
  unfold System.step at stepped
  split at stepped
  · next wellFormed =>
      rcases current.handle wellFormed with ⟨app, executed, holds⟩
      rw [executed] at stepped
      cases stepped
      exact holds
  · cases stepped

/-- No port has been told of. -/
theorem Sane.initial (sane : Sane app) (fresh : app.localPorts = ∅) :
    Current ⟨app, fun _ => .untold⟩ where
  sane := sane
  named port lport isBound := by cases isBound
  listed policy port := by
    constructor
    · intro member
      unfold portsOf at member
      rw [fresh] at member
      exact absurd member (Finset.notMem_empty port)
    · intro bound
      rcases bound with ⟨lport, isBound, _⟩
      cases isBound
  refers port lport isBound := by cases isBound
  bound port lport isBound := by cases isBound
  unbound port isUnbound := by cases isUnbound

theorem recordOf_eq_some_iff {record : QosRecord} :
    recordOf policy = some record ↔ policy.Limits ∧ policy.record = record := by
  unfold recordOf
  rw [← QosPolicy.isQosSet_iff]
  split <;> simp_all

/-- From any records that an earlier run left behind, whatever the events are: a bound
port has a record exactly if its policy limits it, and then that of the current version
of the policy. A port that was unbound has none. -/
theorem records_follow_policies (order : SetOrder) (events : List Event)
    (app : PortQosApp) (after : System) (fresh : app.localPorts = ∅) (sane : Sane app)
    (run : steps (System.step order) events ⟨app, fun _ => .untold⟩ = some after) :
    (∀ port lport, after.statuses port = .bound lport → ∀ record,
      after.app.records.lookup port = some record ↔
        ∃ policy, after.app.currentPolicy lport = some policy ∧
          policy.Limits ∧ policy.record = record) ∧
      ∀ port, after.statuses port = .unbound →
        after.app.records.lookup port = none := by
  have current : Current after :=
    steps_invariant Current (fun _ _ _ holds stepped => holds.step stepped)
      (sane.initial fresh) run
  constructor
  · intro port lport isBound record
    rw [current.bound port lport isBound]
    unfold wanted
    rw [Option.bind_eq_some_iff]
    simp only [recordOf_eq_some_iff]
  · exact current.unbound

namespace Sample

theorem sorted_eq_of_perm {left right : List Id} (same : left.Perm right) :
    left.insertionSort (· ≤ ·) = right.insertionSort (· ≤ ·) :=
  List.Perm.eq_of_pairwise' (List.pairwise_insertionSort _ left)
    (List.pairwise_insertionSort _ right)
    ((List.perm_insertionSort _ left).trans
      (same.trans (List.perm_insertionSort _ right).symm))

def sorted (ids : Finset Id) : List Id :=
  Quotient.lift (List.insertionSort (· ≤ ·)) (fun _ _ => sorted_eq_of_perm) ids.val

theorem mem_sorted (ids : Finset Id) (id : Id) : id ∈ sorted ids ↔ id ∈ ids := by
  rcases ids with ⟨⟨list⟩, nodup⟩
  exact List.mem_insertionSort (· ≤ ·)

/-- Ports are walked in the order of their ids. -/
def byId : SetOrder where
  walk := sorted
  mem_walk := mem_sorted

/-- A version of a policy, with the limits of its bandwidth rule. -/
def version (number kbps burst : Nat) : QosPolicy :=
  { id := "gold", version := number
    rules := [{ type := .dscpMarking, dscpMark := some 26 },
      { type := .bandwidthLimit, maxKbps := some kbps, maxBurstKbps := some burst }] }

/-- The first version of the policy is what the switch still has. -/
def restarted : PortQosApp :=
  { policies := (∅ : Dict Id QosPolicy).insert "gold" (version 2 2000 200)
    records := (∅ : Dict Id QosRecord).insert "web" (version 1 1000 100).record }

theorem restarted_sane : Sane restarted where
  keyed id policy found := by
    unfold restarted at found
    dsimp only at found
    rw [Dict.lookup_insert_eq] at found
    split at found
    · next same =>
        cases found
        exact same.symm
    · cases found
  fits port record found := by
    unfold restarted at found
    dsimp only at found
    rw [Dict.lookup_insert_eq] at found
    split at found
    · cases found
      exact ⟨version 2 2000 200, by decide +kernel, by decide, fun equal => by cases equal⟩
    · cases found

def webPort (policy : Option Id) : LogicalPort := { id := "web", qosPolicy := policy }

def dbPort : LogicalPort := { id := "db", qosPolicy := some "gold" }

/-- Two ports are bound, the limit goes away and comes back, and one of the ports leaves
its policy. -/
def history : List Event :=
  [.bindLocal (webPort (some "gold")), .policyUpdated (version 3 0 100), .bindLocal dbPort,
    .policyUpdated (version 4 4000 400), .localUpdated (webPort none) (webPort (some "gold")),
    .unbindLocal (webPort none)]

def afterwards : System :=
  (steps (System.step byId) history ⟨restarted, fun _ => .untold⟩).getD
    ⟨restarted, fun _ => .untold⟩

theorem history_runs :
    steps (System.step byId) history ⟨restarted, fun _ => .untold⟩ = some afterwards := by
  have isSome : (steps (System.step byId) history
      ⟨restarted, fun _ => .untold⟩).isSome = true := by decide +kernel
  rcases Option.isSome_iff_exists.mp isSome with ⟨found, ran⟩
  unfold afterwards
  rw [ran]
  rfl

end Sample

open Sample in
theorem limits_come_back :
    afterwards.app.records.lookup "db" = some (version 4 4000 400).record ∧
      afterwards.app.records.lookup "web" = none := by
  have follow := records_follow_policies byId history restarted afterwards rfl
    restarted_sane history_runs
  constructor
  · apply (follow.1 "db" dbPort (by decide +kernel) _).mpr
    refine ⟨version 4 4000 400, by decide +kernel, ?_, rfl⟩
    exact ⟨_, rfl, by decide, by decide⟩
  · exact follow.2 "web" (by decide +kernel)

end PortQosApp

end Dragonflow

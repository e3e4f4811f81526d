import Dragonflow.Db.ModelFramework
import Dragonflow.Foundation.Dict
import Mathlib.Algebra.Ring.Nat

/-! # Ports by network

`dragonflow/controller/common/logical_networks.py`
-/

namespace Dragonflow

/-- The ids of ports by network key and network type. The default dictionaries
of the source also hold empty lists that were created by reading; here a list
is there once a port was added. -/
abbrev PortsNetCache := Dict Nat (Dict (Option String) (List Id))

namespace PortsNetCache

def portList (cache : PortsNetCache) (networkId : Nat)
    (networkType : Option String) : List Id :=
  ((cache.lookup networkId).bind (AList.lookup networkType)).getD []

def setPortList (cache : PortsNetCache) (networkId : Nat)
    (networkType : Option String) (ports : List Id) : PortsNetCache :=
  cache.insert networkId
    (((cache.lookup networkId).getD ∅).insert networkType ports)

/-- `_add_port` -/
def addPort (cache : PortsNetCache) (portId : Id) (networkId : Nat)
    (networkType : Option String) : PortsNetCache :=
  cache.setPortList networkId networkType
    (cache.portList networkId networkType ++ [portId])

/-- `_remove_port` -/
def removePort (cache : PortsNetCache) (portId : Id) (networkId : Nat)
    (networkType : Option String) : PortsNetCache :=
  if portId ∈ cache.portList networkId networkType then
    cache.setPortList networkId networkType
      ((cache.portList networkId networkType).erase portId)
  else
    cache

/-- No network type, or an empty one, stands for all of them. -/
def allTypes (networkType : Option String) : Prop :=
  networkType = none ∨ networkType = some ""

instance (networkType : Option String) : Decidable (allTypes networkType) :=
  inferInstanceAs (Decidable (_ ∨ _))

/-- `_get_ports` -/
def getPorts (cache : PortsNetCache) (networkId : Nat)
    (networkType : Option String) : Option (List Id) :=
  match cache.lookup networkId with
  | none => none
  | some networkPorts =>
      if networkPorts.entries.isEmpty then none
      else if allTypes networkType then
        some (networkPorts.entries.flatMap Sigma.snd)
      else some (cache.portList networkId networkType)

/-- `_get_port_count` -/
def getPortCount (cache : PortsNetCache) (networkId : Nat)
    (networkType : Option String) : Nat :=
  match cache.lookup networkId with
  | none => 0
  | some networkPorts =>
      if networkPorts.entries.isEmpty then 0
      else if allTypes networkType then
        (networkPorts.entries.map fun entry => entry.2.length).sum
      else (cache.portList networkId networkType).length

/-! ## Lists of ports -/

theorem portList_setPortList (cache : PortsNetCache) (networkId other : Nat)
    (networkType otherType : Option String) (ports : List Id) :
    (cache.setPortList networkId networkType ports).portList other otherType =
      if other = networkId ∧ otherType = networkType then ports
      else cache.portList other otherType := by
  unfold portList setPortList
  rw [Dict.lookup_insert_eq]
  by_cases same : other = networkId
  · subst same
    rw [if_pos rfl, Option.bind_some, Dict.lookup_insert_eq]
    by_cases sameType : otherType = networkType
    · rw [if_pos sameType, if_pos ⟨rfl, sameType⟩]
      rfl
    · rw [if_neg sameType, if_neg fun both => sameType both.2]
      cases cache.lookup other <;> rfl
  · rw [if_neg same, if_neg fun both => same both.1]

theorem portList_addPort (cache : PortsNetCache) (portId : Id) (networkId other : Nat)
    (networkType otherType : Option String) :
    (cache.addPort portId networkId networkType).portList other otherType =
      if other = networkId ∧ otherType = networkType then
        cache.portList networkId networkType ++ [portId]
      else cache.portList other otherType :=
  portList_setPortList cache networkId other networkType otherType _

theorem portList_removePort (cache : PortsNetCache) (portId : Id) (networkId other : Nat)
    (networkType otherType : Option String) :
    (cache.removePort portId networkId networkType).portList other otherType =
      if other = networkId ∧ otherType = networkType then
        (cache.portList networkId networkType).erase portId
      else cache.portList other otherType := by
  unfold removePort
  split
  · exact portList_setPortList cache networkId other networkType otherType _
  · next absent =>
      split
      · next both => rw [both.1, both.2, List.erase_of_not_mem absent]
      · rfl

/-- Ports of one type are counted by their list. -/
theorem getPortCount_eq_length (cache : PortsNetCache) (networkId : Nat)
    {networkType : Option String} (oneType : ¬allTypes networkType) :
    cache.getPortCount networkId networkType =
      (cache.portList networkId networkType).length := by
  unfold getPortCount
  cases found : cache.lookup networkId with
  | none => simp [portList, found]
  | some networkPorts =>
      dsimp only
      by_cases isEmpty : networkPorts.entries.isEmpty = true
      · have noType : networkPorts.lookup networkType = none := by
          unfold AList.lookup
          rw [List.isEmpty_iff.mp isEmpty]
          rfl
        rw [if_pos isEmpty, portList, found, Option.bind_some, noType]
        rfl
      · rw [if_neg isEmpty, if_neg oneType]

end PortsNetCache

structure LogicalNetworks where
  localPortsNetCache : PortsNetCache := ∅
  remotePortsNetCache : PortsNetCache := ∅

namespace LogicalNetworks

def addLocalPort (networks : LogicalNetworks) (portId : Id) (networkId : Nat)
    (networkType : Option String) : LogicalNetworks :=
  { networks with
    localPortsNetCache :=
      networks.localPortsNetCache.addPort portId networkId networkType }

def addRemotePort (networks : LogicalNetworks) (portId : Id) (networkId : Nat)
    (networkType : Option String) : LogicalNetworks :=
  { networks with
    remotePortsNetCache :=
      networks.remotePortsNetCache.addPort portId networkId networkType }

def removeLocalPort (networks : LogicalNetworks) (portId : Id) (networkId : Nat)
    (networkType : Option String) : LogicalNetworks :=
  { networks with
    localPortsNetCache :=
      networks.localPortsNetCache.removePort portId networkId networkType }

def removeRemotePort (networks : LogicalNetworks) (portId : Id) (networkId : Nat)
    (networkType : Option String) : LogicalNetworks :=
  { networks with
    remotePortsNetCache :=
      networks.remotePortsNetCache.removePort portId networkId networkType }

def getLocalPortCount (networks : LogicalNetworks) (networkId : Nat)
    (networkType : Option String) : Nat :=
  networks.localPortsNetCache.getPortCount networkId networkType

def getRemotePortCount (networks : LogicalNetworks) (networkId : Nat)
    (networkType : Option String) : Nat :=
  networks.remotePortsNetCache.getPortCount networkId networkType

def getRemotePorts (networks : LogicalNetworks) (networkId : Nat)
    (networkType : Option String) : Option (List Id) :=
  networks.remotePortsNetCache.getPorts networkId networkType

end LogicalNetworks

end Dragonflow

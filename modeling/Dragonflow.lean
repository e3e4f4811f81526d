import Dragonflow.Foundation.Program
import Dragonflow.Foundation.Simulation
import Dragonflow.Foundation.LiveIteration
import Dragonflow.Foundation.Dict
import Dragonflow.Foundation.Steps
import Dragonflow.Foundation.Sessions
import Dragonflow.Foundation.FlowTable
import Dragonflow.Foundation.FlowSet
import Dragonflow.Foundation.Lookup
import Dragonflow.Foundation.Pipeline
import Dragonflow.Foundation.Writes
import Dragonflow.Foundation.Writing
import Dragonflow.Foundation.Lockstep
import Dragonflow.Foundation.BitField
import Dragonflow.Foundation.StackMoves
import Dragonflow.Foundation.FlatStore
import Dragonflow.Foundation.Clients
import Dragonflow.Foundation.Ledger
import Dragonflow.Foundation.Ownership
import Dragonflow.Foundation.VersionGate
import Dragonflow.Foundation.Reconciliation
import Dragonflow.Foundation.DepthFirst
import Dragonflow.Foundation.SearchOrder
import Dragonflow.Foundation.Partition
import Dragonflow.Utils.RadixTree
import Dragonflow.Db.ModelFramework
import Dragonflow.Db.PartialUpdates
import Dragonflow.Db.PartialUpdateTexts
import Dragonflow.Db.Models
import Dragonflow.Db.Ports
import Dragonflow.Db.FieldTypes
import Dragonflow.Db.RoundTrip
import Dragonflow.Db.StoreState
import Dragonflow.Db.ModelProxy
import Dragonflow.Db.IndexCache
import Dragonflow.Db.DbStore
import Dragonflow.Db.StoreInvariant
import Dragonflow.Db.Removal
import Dragonflow.Db.IndexConsistency
import Dragonflow.Db.ProxyCoherence
import Dragonflow.Db.Clear
import Dragonflow.Db.FailedUpdate
import Dragonflow.Db.Embedding
import Dragonflow.Db.UpdateReturns
import Dragonflow.Db.Contents
import Dragonflow.Db.Mixins
import Dragonflow.Db.ApiNb
import Dragonflow.Db.Queries
import Dragonflow.Db.Sync
import Dragonflow.Db.SyncPasses
import Dragonflow.Db.StoreCallbacks
import Dragonflow.Db.SyncCorrect
import Dragonflow.Db.Neutron.LockedObjects
import Dragonflow.Db.Neutron.LockProtocol
import Dragonflow.Db.Neutron.WrapDbLock
import Dragonflow.Db.TableMonitor
import Dragonflow.Db.ChangeLog
import Dragonflow.Db.Drivers.DbApi
import Dragonflow.Db.Drivers.Etcd
import Dragonflow.Db.Drivers.Redis
import Dragonflow.Db.Drivers.RedisCluster
import Dragonflow.Db.Drivers.RedisKeys
import Dragonflow.Db.Drivers.RedisBulk
import Dragonflow.Db.Drivers.RedisMgt
import Dragonflow.Db.Drivers.Zookeeper
import Dragonflow.Db.Drivers.UniqueKeys
import Dragonflow.Db.Drivers.Contract
import Dragonflow.Db.Drivers.Cassandra
import Dragonflow.Db.Drivers.RamCloud
import Dragonflow.Db.Drivers.DuplicateKeys
import Dragonflow.Controller.BgpService
import Dragonflow.Controller.BgpMirror
import Dragonflow.Controller.BgpSyncs
import Dragonflow.Switch.Datapath
import Dragonflow.Switch.DatapathAllocation
import Dragonflow.Switch.DatapathEdges
import Dragonflow.Controller.LocalController
import Dragonflow.Controller.Topology
import Dragonflow.Controller.TopologyMirror
import Dragonflow.Controller.TopologyRuns
import Dragonflow.Controller.Deliveries
import Dragonflow.Controller.Convergence
import Dragonflow.Controller.References
import Dragonflow.Controller.ReferenceClosure
import Dragonflow.Controller.UpdateOrder
import Dragonflow.Controller.PendingUpdates
import Dragonflow.Controller.Node
import Dragonflow.Controller.OpenFlow
import Dragonflow.Controller.Packets
import Dragonflow.Controller.Cookies
import Dragonflow.Controller.CookieFields
import Dragonflow.Controller.CookieEncoding
import Dragonflow.Controller.Apps.Aging
import Dragonflow.Controller.Apps.AgingRuns
import Dragonflow.Controller.Apps.PortBinding
import Dragonflow.Controller.Apps.PortBindingEvents
import Dragonflow.Controller.Common.LogicalNetworks
import Dragonflow.Controller.Apps.Tunneling
import Dragonflow.Controller.Apps.TunnelDispatch
import Dragonflow.Controller.Apps.TunnelFlood
import Dragonflow.Controller.Apps.L2
import Dragonflow.Controller.Apps.L2Broadcast
import Dragonflow.Controller.Apps.L3
import Dragonflow.Controller.Apps.L3Interfaces
import Dragonflow.Controller.Apps.L3Delivery
import Dragonflow.Controller.Apps.SecurityGroups
import Dragonflow.Controller.Apps.SecurityGroupMatches
import Dragonflow.Controller.Apps.SecurityGroupFlows
import Dragonflow.Controller.Apps.SecurityGroupBook
import Dragonflow.Controller.Apps.SecurityGroupPorts
import Dragonflow.Controller.Apps.SecurityGroupAddresses
import Dragonflow.Controller.Apps.SecurityGroupRules
import Dragonflow.Controller.Apps.SecurityGroupCidrs
import Dragonflow.Controller.Apps.SecurityGroupUpdates
import Dragonflow.Controller.Apps.Classifier
import Dragonflow.Controller.Apps.ClassifierFlows
import Dragonflow.Controller.Apps.PortSec
import Dragonflow.Controller.Apps.PortSecFlows
import Dragonflow.Controller.Apps.PortSecAdmission
import Dragonflow.Controller.Apps.Sfc
import Dragonflow.Controller.Apps.SfcWrites
import Dragonflow.Controller.Apps.SfcLocality
import Dragonflow.Controller.Apps.SfcRounds
import Dragonflow.Controller.Apps.SfcLabels
import Dragonflow.Controller.Apps.SfcUpdates
import Dragonflow.Controller.Apps.SfcReinstallation
import Dragonflow.Controller.Apps.SfcGroupUpdates
import Dragonflow.Controller.Apps.Trunk
import Dragonflow.Controller.Apps.TrunkChildren
import Dragonflow.Controller.Apps.TrunkPorts
import Dragonflow.Controller.Apps.TrunkRules
import Dragonflow.Controller.Apps.PortQosRecords
import Dragonflow.Controller.Apps.ProviderMacs
import Dragonflow.Controller.Common.PortHistories
import Dragonflow.Controller.Apps.TunnelReconnection
import Dragonflow.Controller.Apps.ProviderReconnection
import Dragonflow.Controller.Apps.Reconnection
import Dragonflow.Controller.Apps.Migration
import Dragonflow.Controller.Apps.Dnat
import Dragonflow.Controller.Apps.DnatFlows
import Dragonflow.Controller.Apps.DnatAssociations
import Dragonflow.Controller.Apps.DnatRuns
import Dragonflow.Foundation.BinaryHeap
import Dragonflow.Controller.UpdateQueue
import Dragonflow.Controller.Publishers
import Dragonflow.Controller.RemotePorts
import Dragonflow.Controller.RemoteIndexes
import Dragonflow.Foundation.Layers
import Dragonflow.Db.ModelOrder
import Dragonflow.Utils.RadixPruning
import Dragonflow.Common.RateLimiter
import Dragonflow.Controller.Apps.SecurityGroupPriorities
import Dragonflow.Controller.Apps.DhcpRoutes
import Dragonflow.Db.DistinctQueries
import Dragonflow.Controller.Apps.DhcpLookup
import Dragonflow.Controller.Apps.FlowClassifier
import Dragonflow.Controller.Apps.FlowClassifierMatches
import Dragonflow.Db.PartialUpdateMerge
import Dragonflow.Controller.Apps.Metadata
import Dragonflow.Controller.Apps.MetadataLearning
import Dragonflow.Controller.Apps.MetadataRuns
import Dragonflow.Controller.Apps.MetadataArp

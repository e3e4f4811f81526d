import Dragonflow.Db.ModelFramework

/-! # Some model classes

Classes of `dragonflow/db/models` with everything that they inherit from the
mixins. Fields are listed by name, which is the order of `dir`; indexes in the
order in which `get_indexes` collects them from the bases.
-/

namespace Dragonflow

namespace FieldDeclaration

def plain (name : FieldName) : FieldDeclaration := ⟨name, .plain, false⟩

def mandatory (name : FieldName) : FieldDeclaration := ⟨name, .plain, true⟩

def embedded (name : FieldName) : FieldDeclaration := ⟨name, .embeddedField, false⟩

def list (name : FieldName) : FieldDeclaration := ⟨name, .listField, false⟩

end FieldDeclaration

open FieldDeclaration

namespace Models

/-- `mixins.Topic` -/
def topicIndex : String × Index := ("topic", [["topic"]])

/-- `mixins.UniqueKey` -/
def uniqueKeyIndex : String × Index := ("unique_key", [["unique_key"]])

/-- `secgroups.SecurityGroupRule` -/
def securityGroupRule : Model where
  name := "SecurityGroupRule"
  fields := [mandatory "direction", mandatory "ethertype", plain "port_range_max",
    plain "port_range_min", plain "protocol", plain "remote_group_id",
    plain "remote_ip_prefix", plain "security_group_id", mandatory "topic",
    plain "version"]
  indexes := [topicIndex]
  mixins := [.basicEvents, .topic, .version]

/-- `secgroups.SecurityGroup` -/
def securityGroup : Model where
  name := "SecurityGroup"
  fields := [plain "name", list "rules", mandatory "topic", mandatory "unique_key",
    plain "version"]
  indexes := [uniqueKeyIndex, topicIndex]
  mixins := [.topic, .version, .basicEvents, .uniqueKey]

/-- `qos.QosPolicy` -/
def qosPolicy : Model where
  name := "QosPolicy"
  fields := [plain "name", list "rules", mandatory "topic", plain "version"]
  indexes := [topicIndex]
  mixins := [.topic, .version, .basicEvents]

/-- `l2.LogicalSwitch` -/
def logicalSwitch : Model where
  name := "LogicalSwitch"
  fields := [plain "is_external", plain "mtu", plain "name", plain "network_type",
    plain "physical_network", plain "qos_policy", plain "segmentation_id",
    mandatory "topic", mandatory "unique_key", plain "version"]
  indexes := [uniqueKeyIndex, topicIndex, ("network_type", [["network_type"]]),
    ("physical_network", [["physical_network"]])]
  mixins := [.version, .topic, .uniqueKey, .basicEvents]

/-- `l2.LogicalPort` -/
def logicalPort : Model where
  name := "LogicalPort"
  fields := [list "allowed_address_pairs", embedded "binding",
    plain "binding_vnic_type", plain "device_id", plain "device_owner",
    embedded "dhcp_params", plain "enabled", list "ips", plain "lswitch",
    list "macs", plain "name", plain "port_security_enabled",
    plain "qos_policy", list "security_groups", list "subnets",
    mandatory "topic", mandatory "unique_key", plain "version"]
  indexes := [uniqueKeyIndex, topicIndex,
    ("chassis_id", [["binding", "chassis", "id"]]),
    ("lswitch_id", [["lswitch", "id"]]),
    ("ip,lswitch", [["ips"], ["lswitch", "id"]]),
    ("switch,owner", [["lswitch", "unique_key"], ["device_owner"]])]
  mixins := [.version, .topic, .uniqueKey, .basicEvents]

/-- `migration.Migration` -/
def migration : Model where
  name := "Migration"
  fields := [plain "dest_chassis", plain "lport", mandatory "status"]
  indexes := []
  mixins := [.basicEvents]

/-! ## Instances -/

/-- A port that is bound to no chassis and attached to no switch. -/
def unboundPort (address : Address) (id : Id) (topic : String)
    (uniqueKey : Int) : Object Unit :=
  ⟨address, logicalPort, id, .ofList
    [("topic", .scalar (.str topic)), ("unique_key", .scalar (.int uniqueKey))]⟩

/-- A port that is attached to a switch by reference. -/
def attachedPort (address : Address) (id : Id) (topic : String)
    (uniqueKey : Int) (lswitch : Proxy) : Object Unit :=
  ⟨address, logicalPort, id, .ofList
    [("lswitch", .proxy lswitch), ("topic", .scalar (.str topic)),
      ("unique_key", .scalar (.int uniqueKey))]⟩

def switch (address : Address) (id : Id) (topic : String) (uniqueKey version : Int) :
    Object Unit :=
  ⟨address, logicalSwitch, id, .ofList
    [("topic", .scalar (.str topic)), ("unique_key", .scalar (.int uniqueKey)),
      ("version", .scalar (.int version))]⟩

/-- The source chassis has unplugged a port that moves. -/
def migrating (address : Address) (id : Id) (lport : Proxy) : Object Unit :=
  ⟨address, migration, id, .ofList
    [("lport", .proxy lport), ("status", .scalar (.str "src_unplug"))]⟩

def rule (address : Address) (id : Id) : Object Unit :=
  ⟨address, securityGroupRule, id, .ofList
    [("direction", .scalar (.str "ingress")),
      ("ethertype", .scalar (.str "IPv4")), ("topic", .scalar (.str "t"))]⟩

def group (address : Address) (id : Id) (rules : List (Object Unit)) :
    Object Unit :=
  ⟨address, securityGroup, id, .ofList
    [("rules", .list (.ofList (rules.map .object))),
      ("topic", .scalar (.str "t")), ("unique_key", .scalar (.int 1))]⟩

theorem iterateEmbeddedModelInstances_group (address : Address) (id : Id)
    (rules : List (Object Unit)) :
    (group address id rules).iterateEmbeddedModelInstances = rules := by
  have fields : (group address id rules).iterateOverSetFields =
      [(list "rules", .list (.ofList (rules.map .object))),
        (mandatory "topic", .scalar (.str "t")),
        (mandatory "unique_key", .scalar (.int 1))] := rfl
  have all : rules.filterMap (fun rule => (Value.object rule).asObject) = rules :=
    List.filterMap_some
  rw [Object.iterateEmbeddedModelInstances, fields]
  simp [list, mandatory, FieldKind.embedded, List.filterMap_map, all]

end Models

end Dragonflow

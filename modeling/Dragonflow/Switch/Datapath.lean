import Dragonflow.Db.Sync
import Dragonflow.Foundation.BitField
import Dragonflow.Foundation.StackMoves

/-! # Tables and registers of the datapath

`Datapath` of `dragonflow/switch/drivers/ovs/datapath.py`, with the
specifications of `dragonflow/controller/app_base.py` and the layout of
`dragonflow/controller/datapath_layout.py`. Writing the allocation to a file,
logging, and what the applications do with their allocation are left out.
-/

namespace Dragonflow

open Program

/-! ## Specifications, allocations and layouts -/

abbrev Variable := String

abbrev Register := String

def REGS : List Register :=
  ["reg0", "reg1", "reg2", "reg3", "reg4", "reg5", "reg6", "reg7", "metadata"]

structure Entrypoint where
  name : String
  target : String
  deriving DecidableEq, Repr

structure Exitpoint where
  name : String
  deriving DecidableEq, Repr

structure Specification where
  states : List String
  entrypoints : List Entrypoint
  exitpoints : List Exitpoint
  publicMapping : Dict Variable Register
  privateMapping : Dict Variable Register

structure DpAlloc where
  states : Dict String Nat
  exitpoints : Dict String Nat
  entrypoints : Dict String Nat
  fullMapping : Dict Variable Register

structure Vertex where
  name : String
  type : String
  deriving DecidableEq, Repr

structure Connector where
  vertex : String
  direction : String
  name : String
  deriving DecidableEq, Repr

structure Edge where
  exitpoint : Connector
  entrypoint : Connector
  deriving DecidableEq, Repr

structure Layout where
  vertices : List Vertex
  edges : List Edge
  deriving DecidableEq, Repr

/-! ## The flows of the edges -/

/-- The actions of `_install_goto`. A stack action works on the bits of the
field from `start` up to `stop`. -/
inductive NXAction
  | stackPush (field : Register) (start stop : Nat)
  | stackPop (field : Register) (start stop : Nat)
  | resubmitTable (tableId : Nat)
  deriving DecidableEq, Repr

inductive GotoInstruction
  | applyActions (actions : List NXAction)
  | gotoTable (tableId : Nat)
  deriving DecidableEq, Repr

/-- An `OFPFC_ADD` with an empty match. -/
structure GotoFlow where
  tableId : Nat
  instructions : List GotoInstruction
  deriving DecidableEq, Repr

/-- Part of `_install_goto`: the message, before it is sent. -/
def gotoFlow (source dest : Nat) (translations : List (Register × Register)) :
    GotoFlow :=
  let pushes := (translations.map Prod.fst).map fun reg => NXAction.stackPush reg 0 32
  let pops := ((translations.map Prod.snd).reverse).map fun reg => NXAction.stackPop reg 0 32
  let actions := pushes ++ pops
  { tableId := source
    instructions :=
      if source < dest then
        [.applyActions actions, .gotoTable dest]
      else
        [.applyActions (actions ++ [.resubmitTable dest])] }

/-! ## The datapath object -/

structure Datapath where
  dpAllocs : Dict String DpAlloc
  publicVariables : List Variable
  /-- The variables are a set. -/
  isSet : publicVariables.Nodup
  /-- What `next(self._table_generator)` returns. -/
  tableGenerator : Nat
  sent : List GotoFlow

/-- The application classes and their constructors, and the orders of Python's
sets. Two sets that are popped for different specifications need not agree. -/
structure DatapathConfig where
  tableOffset : Nat
  getAppClass : String → Except PyError Specification
  instantiate : Vertex → DpAlloc → Except PyError Unit
  variableOrder : Iteration Variable
  popVariables : Specification → Iteration Variable
  popRegisters : Specification → Iteration Register

def LEGACY_APP : String := "dragonflow-legacy"

namespace Datapath

abbrev Action (β : Type) := Program Datapath PyError β

/-- `{str(x): x for x in range(table_offset)}` -/
def legacyPoints (tableOffset : Nat) : Dict String Nat :=
  (List.range tableOffset).foldl (fun points table => points.insert (toString table) table) ∅

/-- `_create_legacy_dp_alloc` -/
def createLegacyDpAlloc (tableOffset : Nat) : DpAlloc :=
  { states := ∅
    entrypoints := legacyPoints tableOffset
    exitpoints := legacyPoints tableOffset
    fullMapping :=
      ((AList.singleton "source_port_key" "reg6").insert "destination_port_key" "reg7").insert
        "network_key" "metadata" }

/-- `__init__`. The generator is made by `set_up`. -/
def init (config : DatapathConfig) : Datapath :=
  { dpAllocs := AList.singleton LEGACY_APP (createLegacyDpAlloc config.tableOffset)
    publicVariables := []
    isSet := List.nodup_nil
    tableGenerator := config.tableOffset
    sent := [] }

/-- `dict[key]` -/
def item {ν : Type} (dict : Dict String ν) (key : String) : Except PyError ν :=
  match dict.lookup key with
  | some value => .ok value
  | none => .error .keyError

/-- `next(self._table_generator)` -/
def nextTable : Action Nat := do
  let datapath ← get
  set { datapath with tableGenerator := datapath.tableGenerator + 1 }
  return datapath.tableGenerator

/-- `{name: next(self._table_generator) for name in names}`, on top of `tables`. -/
def tablesFor (tables : Dict String Nat) : List String → Action (Dict String Nat)
  | [] => return tables
  | name :: names => do
      let table ← nextTable
      tablesFor (tables.insert name table) names

/-- The `while` loop of `_create_dp_alloc`, on the sets in the order they are
popped. Returns the mapping and the variables that are left. -/
def pairOff (mapping : Dict Variable Register) :
    List Variable → List Register → Dict Variable Register × List Variable
  | [], _ => (mapping, [])
  | vars, [] => (mapping, vars)
  | var :: vars, register :: registers =>
      pairOff (mapping.insert var register) vars registers

/-- The values of a dictionary. -/
def registersOf (mapping : Dict Variable Register) : List Register :=
  mapping.entries.map Sigma.snd

def unmappedVars (publicVariables : List Variable) (specification : Specification) :
    List Variable :=
  publicVariables.filter fun var => var ∉ specification.publicMapping.keys

def unmappedRegs (specification : Specification) : List Register :=
  (REGS.filter fun register => register ∉ registersOf specification.publicMapping).filter
    fun register => register ∉ registersOf specification.privateMapping

/-- `{entry.name: states[entry.target] for entry in entrypoints}`, on top of `tables`. -/
def entryTables (states tables : Dict String Nat) :
    List Entrypoint → Except PyError (Dict String Nat)
  | [] => .ok tables
  | entry :: entries => do
      let table ← item states entry.target
      entryTables states (tables.insert entry.name table) entries

/-- `_create_dp_alloc` -/
def createDpAlloc (config : DatapathConfig) (specification : Specification) :
    Action DpAlloc := do
  let datapath ← get
  let (fullMapping, left) := pairOff specification.publicMapping
    ((config.popVariables specification).walk
      (unmappedVars datapath.publicVariables specification))
    ((config.popRegisters specification).walk (unmappedRegs specification))
  if left ≠ [] then
    throw .runtimeError
  let states ← tablesFor ∅ specification.states
  let exitpoints ← tablesFor ∅ (specification.exitpoints.map Exitpoint.name)
  let entrypoints ← Program.ofExcept (entryTables states ∅ specification.entrypoints)
  return { states, exitpoints, entrypoints, fullMapping }

/-- The pairs of registers that the loop of `_install_edge` collects. -/
def edgeTranslations (exitMapping entryMapping : Dict Variable Register) :
    List Variable → Except PyError (List (Register × Register))
  | [] => .ok []
  | var :: vars => do
      let exitReg ← item exitMapping var
      let entryReg ← item entryMapping var
      let rest ← edgeTranslations exitMapping entryMapping vars
      return if exitReg = entryReg then rest else (exitReg, entryReg) :: rest

/-- `_install_goto` -/
def installGoto (source dest : Nat) (translations : List (Register × Register)) :
    Action Unit :=
  modify fun datapath =>
    { datapath with sent := datapath.sent ++ [gotoFlow source dest translations] }

/-- `_install_edge` -/
def installEdge (config : DatapathConfig) (edge : Edge) : Action Unit := do
  let datapath ← get
  let exitConfig ← Program.ofExcept (item datapath.dpAllocs edge.exitpoint.vertex)
  let entryConfig ← Program.ofExcept (item datapath.dpAllocs edge.entrypoint.vertex)
  let translations ← Program.ofExcept (edgeTranslations exitConfig.fullMapping
    entryConfig.fullMapping (config.variableOrder.walk datapath.publicVariables))
  let source ← Program.ofExcept (item exitConfig.exitpoints edge.exitpoint.name)
  let dest ← Program.ofExcept (item entryConfig.entrypoints edge.entrypoint.name)
  installGoto source dest translations

/-- `self._public_variables.update(vars)` -/
def addPublicVariables (vars : List Variable) (datapath : Datapath) : Datapath :=
  { datapath with
    publicVariables := vars ∪ datapath.publicVariables
    isSet := List.Nodup.union vars datapath.isSet }

/-- The first loop over the vertices in `set_up`. -/
def loadAppClasses (config : DatapathConfig) (appClasses : Dict String Specification) :
    List Vertex → Action (Dict String Specification)
  | [] => return appClasses
  | vertex :: vertices => do
      if vertex.type ∈ appClasses then
        loadAppClasses config appClasses vertices
      else
        let specification ← Program.ofExcept (config.getAppClass vertex.type)
        modify (addPublicVariables specification.publicMapping.keys)
        loadAppClasses config (appClasses.insert vertex.type specification) vertices

/-- The second loop over the vertices in `set_up`. -/
def allocateVertices (config : DatapathConfig) (appClasses : Dict String Specification) :
    List Vertex → Action Unit
  | [] => return
  | vertex :: vertices => do
      let specification ← Program.ofExcept (item appClasses vertex.type)
      let dpAlloc ← createDpAlloc config specification
      modify fun datapath =>
        { datapath with dpAllocs := datapath.dpAllocs.insert vertex.name dpAlloc }
      Program.ofExcept (config.instantiate vertex dpAlloc)
      allocateVertices config appClasses vertices

/-- The loop over the edges in `set_up`. -/
def installEdges (config : DatapathConfig) : List Edge → Action Unit
  | [] => return
  | edge :: edges => do
      installEdge config edge
      installEdges config edges

/-- `set_up` -/
def setUp (config : DatapathConfig) (layout : Layout) : Action Unit := do
  modify fun datapath =>
    { datapath with
      tableGenerator := config.tableOffset
      publicVariables := []
      isSet := List.nodup_nil }
  let appClasses ← loadAppClasses config ∅ layout.vertices
  allocateVertices config appClasses layout.vertices
  installEdges config layout.edges

end Datapath

end Dragonflow

import Dragonflow.Controller.CookieEncoding
import Dragonflow.Foundation.Steps

/-! # Aging of flows

`AgingApp` of `dragonflow/controller/apps/aging.py`, with what
`OsKenDFAdapter.switch_features_handler` and `OvsApi.initialize` do around it when
a switch connects. The controller and the switch can restart independently.
-/

namespace Dragonflow

open Program

/-- What one `AgingApp` object holds. -/
structure AgingApp where
  doAging : Bool := true
  agingCookie : Nat := 0
  deriving DecidableEq, Repr

def agingCookieName : String := "aging"

/-- The cookie registry after `AgingApp.__init__`. No other global bits are registered,
and local ones do not change these. The modifier is a closure over the application. -/
def agingRegistry : CookieRegistry AgingApp :=
  (exec (CookieRegistry.addGlobalCookieModifier agingCookieName 1
    fun app => (app.agingCookie : Int)) {}).2

/-- The flows of a switch: the one in `CANARY_TABLE`, and those of the applications. -/
inductive AgedFlow (φ : Type)
  | canary
  | other (flow : φ)
  deriving DecidableEq, Repr

/-- The running controller and the cookies on the switch. -/
structure AgingNode (φ : Type) where
  app : AgingApp := {}
  table : AgedFlow φ → Option Nat := fun _ => none

/-- An `OFPFC_ADD` of an application, with the cookie and the mask that it passes to
`mod_flow`. Applications use local cookie bits, so that the mask spares the global ones. -/
structure FlowWrite (φ : Type) where
  flow : φ
  cookie : Nat := 0
  mask : Nat := 0
  isLocal : mask.testBit 0 = false := by decide

namespace AgingNode

variable {φ : Type} [DecidableEq φ]

abbrev Action (φ β : Type) := Program (AgingNode φ) PyError β

/-- `mod_flow` with `OFPFC_ADD` -/
def modFlow (key : AgedFlow φ) (cookie mask : Nat) : Action φ Unit := do
  let node ← get
  let (cookie, _) ← Program.ofExcept
    (agingRegistry.applyGlobalCookieModifiers cookie mask node.app)
  set { node with table := Function.update node.table key (some cookie) }

def writeFlows (writes : List (FlowWrite φ)) : Action φ Unit :=
  writes.forM fun write => modFlow (.other write.flow) write.cookie write.mask

/-- `_cleanup_flows`: `mod_flow` with `OFPFC_DELETE` on all tables and an empty match. -/
def cleanupFlows (cookie cookieMask : Nat) : Action φ Unit := do
  let node ← get
  let (cookie, mask) ← Program.ofExcept
    (agingRegistry.applyGlobalCookieModifiers cookie cookieMask node.app)
  set { node with
    table := fun key => (node.table key).filter fun found =>
      found &&& mask ≠ cookie &&& mask }

/-- `_invert_cookie` -/
def invertCookie (cookie : Nat) : Nat := 1 ^^^ cookie

/-- `switch_sync_started` -/
def switchSyncStarted : Action φ Unit := do
  let node ← get
  match node.table .canary with
  | none =>
      set { node with app := { doAging := false, agingCookie := 1 } }
  | some canaryCookie =>
      let oldCookie ← Program.ofExcept
        (agingRegistry.extractValueFromCookie agingCookieName canaryCookie)
      set { node with app := { doAging := true, agingCookie := invertCookie oldCookie } }
  modFlow .canary 0 0

/-- `_start_aging` -/
def startAging : Action φ Unit := do
  let node ← get
  let (oldCookie, oldMask) ← Program.ofExcept
    (agingRegistry.getCookie agingCookieName (invertCookie node.app.agingCookie))
  cleanupFlows oldCookie oldMask

/-- `switch_sync_finished` and what it schedules. -/
def switchSyncFinished : Action φ Unit := do
  let node ← get
  if node.app.doAging then
    startAging

/-- A connection up to `switch_sync_finished`. The flows of the applications'
`switch_features_handler` are written before `switch_sync_started`. -/
def synchronize (static synced : List (FlowWrite φ)) : Action φ Unit := do
  writeFlows static
  switchSyncStarted
  writeFlows synced

/-- The steps of one connection. -/
def connect (static synced : List (FlowWrite φ)) : Action φ Unit := do
  synchronize static synced
  switchSyncFinished

end AgingNode

inductive AgingEvent (φ : Type)
  | controllerRestart
  | switchRestart
  | connect (static synced : List (FlowWrite φ))

namespace AgingNode

variable {φ : Type} [DecidableEq φ]

def step (node : AgingNode φ) : AgingEvent φ → Option (AgingNode φ)
  | .controllerRestart => some { node with app := {} }
  | .switchRestart => some { node with table := fun _ => none }
  | .connect static synced =>
      match exec (connect static synced) node with
      | (.ok _, after) => some after
      | (.error _, _) => none

end AgingNode

end Dragonflow

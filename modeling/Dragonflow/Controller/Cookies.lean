import Dragonflow.Db.ModelFramework
import Dragonflow.Foundation.BitField
import Dragonflow.Foundation.Dict
import Dragonflow.Foundation.Program
import Mathlib.Data.Int.Bitwise

/-! # Cookies of flows

`dragonflow/controller/common/cookies.py`: applications share the 64 bits of a cookie.
Fields of 32 bits are the same for all applications, and the others belong to one
application each.
-/

namespace Dragonflow

open Program

/-- `CookieBitPair` -/
structure CookieBitPair where
  offset : Nat
  mask : Nat
  deriving DecidableEq, Repr

/-- The dictionaries of the module. Modifiers are functions of a value of the type
`ω`. -/
structure CookieRegistry (ω : Type) where
  cookies : Dict (String × String) CookieBitPair := ∅
  cookiesUsedBits : String → Nat := fun _ => 0
  cookieModifiers : Dict String (ω → Int) := ∅

namespace CookieRegistry

variable {ω : Type}

abbrev Action (ω β : Type) := Program (CookieRegistry ω) PyError β

def globalAppName : String := "global cookie namespace"

def cookieMaxBits : Nat := 64

def cookieMaxBitsGlobal : Nat := 32

/-- `~((-1 >> _cookie_max_bits) << _cookie_max_bits)` -/
def cookieMaskAll : Nat := 2 ^ cookieMaxBits - 1

def cookieMaxBitsLocal : Nat := cookieMaxBits - cookieMaxBitsGlobal

/-- The name under which a field is kept. -/
def resolveAppName (isLocal : Bool) (appName : Option String) : Except PyError String :=
  if isLocal then
    match appName with
    | none => .error .typeError
    | some "" => .error .typeError
    | some appName => .ok appName
  else .ok globalAppName

/-- `register_cookie_bits` -/
def registerCookieBits (name : String) (length : Nat) (isLocal : Bool := false)
    (appName : Option String := none) : Action ω Unit := do
  let appName ← Program.ofExcept (resolveAppName isLocal appName)
  let shift := if isLocal then cookieMaxBitsGlobal else 0
  let maxBits := if isLocal then cookieMaxBitsLocal else cookieMaxBitsGlobal
  let registry ← get
  match registry.cookies.lookup (appName, name) with
  | some _ => pure ()
  | none =>
      let start := registry.cookiesUsedBits appName
      if start + length > maxBits then
        throw .outOfCookieSpace
      else do
        modify fun registry =>
          { registry with
            cookiesUsedBits :=
              Function.update registry.cookiesUsedBits appName (start + length) }
        let mask := (cookieMaskAll >>> (cookieMaxBits - length)) <<< (start + shift)
        modify fun registry =>
          { registry with
            cookies := registry.cookies.insert (appName, name) ⟨start + shift, mask⟩ }

/-- `_cookies[(app_name, name)]` -/
def findPair (name : String) (isLocal : Bool) (appName : Option String)
    (registry : CookieRegistry ω) : Except PyError CookieBitPair := do
  let appName ← resolveAppName isLocal appName
  match registry.cookies.lookup (appName, name) with
  | none => .error .keyError
  | some pair => .ok pair

/-- `get_cookie` -/
def getCookie (registry : CookieRegistry ω) (name : String) (value : Int)
    (oldCookie oldMask : Nat := 0) (isLocal : Bool := false)
    (appName : Option String := none) : Except PyError (Nat × Nat) := do
  let pair ← findPair name isLocal appName registry
  let maskOverlap := oldMask &&& pair.mask
  if maskOverlap ≠ 0 then
    if maskOverlap ≠ pair.mask then
      .error .maskOverlap
    else
      return (oldCookie, oldMask)
  else
    let resultUnmasked := value <<< pair.offset
    let result := Int.land resultUnmasked pair.mask
    if result ≠ resultUnmasked then
      .error .cookieOverflow
    else
      return (result.toNat ||| oldCookie.ldiff pair.mask, pair.mask ||| oldMask)

/-- `extract_value_from_cookie` -/
def extractValueFromCookie (registry : CookieRegistry ω) (name : String)
    (cookieValue : Nat) (isLocal : Bool := false) (appName : Option String := none) :
    Except PyError Nat := do
  let pair ← findPair name isLocal appName registry
  return (cookieValue &&& pair.mask) >>> pair.offset

/-- `add_global_cookie_modifier` -/
def addGlobalCookieModifier (name : String) (length : Nat) (modifier : ω → Int) :
    Action ω Unit := do
  registerCookieBits name length
  modify fun registry =>
    { registry with cookieModifiers := registry.cookieModifiers.insert name modifier }

/-- The loop over the modifiers. -/
def applyModifiers (registry : CookieRegistry ω) (input : ω) :
    List (String × (ω → Int)) → Nat → Nat → Except PyError (Nat × Nat)
  | [], cookie, mask => .ok (cookie, mask)
  | (name, modifier) :: modifiers, cookie, mask => do
      let (cookie, mask) ← registry.getCookie name (modifier input) cookie mask
      applyModifiers registry input modifiers cookie mask

/-- `apply_global_cookie_modifiers` -/
def applyGlobalCookieModifiers (registry : CookieRegistry ω) (cookie mask : Nat)
    (input : ω) : Except PyError (Nat × Nat) :=
  applyModifiers registry input
    (registry.cookieModifiers.entries.map fun entry => (entry.1, entry.2)) cookie mask

end CookieRegistry

end Dragonflow

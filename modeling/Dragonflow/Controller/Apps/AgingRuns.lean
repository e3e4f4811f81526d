import Dragonflow.Controller.Apps.Aging

/-! # What aging deletes

One bit of the cookies tells the flows of the current connection from older ones.
It can only do so if every flow of a connection is written with the same bit.
-/

namespace Dragonflow

open Program

namespace AgingNode

variable {φ : Type} [DecidableEq φ]

/-! ## The aging bit -/

/-- The bits that the registry gives to aging. -/
def agingField : BitField := ⟨0, 1⟩

/-- The bit a flow was last written with. -/
def agingBit (cookie : Nat) : Nat := agingField.extract cookie

theorem findPair_aging :
    CookieRegistry.findPair agingCookieName false none agingRegistry = .ok ⟨0, 1⟩ := rfl

theorem agingBit_lt (cookie : Nat) : agingBit cookie < 2 := BitField.extract_lt

theorem invertCookie_lt {cookie : Nat} (isBit : cookie < 2) : invertCookie cookie < 2 := by
  have isCase : cookie = 0 ∨ cookie = 1 := by omega
  rcases isCase with rfl | rfl <;> decide

theorem eq_invertCookie_iff {bit cookie : Nat} (isBit : bit < 2) (isBitToo : cookie < 2) :
    bit = invertCookie cookie ↔ bit ≠ cookie := by
  have isCase : cookie = 0 ∨ cookie = 1 := by omega
  have isCaseToo : bit = 0 ∨ bit = 1 := by omega
  rcases isCase with rfl | rfl <;> rcases isCaseToo with rfl | rfl <;> decide

theorem getCookie_aging {value cookie mask : Nat} (isBit : value < 2)
    (isFree : mask.testBit 0 = false) :
    agingRegistry.getCookie agingCookieName value cookie mask =
      .ok (agingField.overwrite cookie value, 1 ||| mask) := by
  have noOverlap : mask &&& 1 = 0 := by
    rw [Nat.and_one_is_mod]
    rw [Nat.testBit_zero, decide_eq_false_iff_not] at isFree
    omega
  have isCase : value = 0 ∨ value = 1 := by omega
  unfold CookieRegistry.getCookie
  rw [findPair_aging]
  change (if mask &&& 1 ≠ 0 then _ else _) = _
  rw [if_neg (not_not.mpr noOverlap)]
  rcases isCase with rfl | rfl <;> rfl

theorem getCookie_aging_covered (value : Int) {cookie mask : Nat}
    (isCovered : mask &&& 1 = 1) :
    agingRegistry.getCookie agingCookieName value cookie mask = .ok (cookie, mask) := by
  unfold CookieRegistry.getCookie
  rw [findPair_aging]
  change (if mask &&& 1 ≠ 0 then if mask &&& 1 ≠ 1 then _ else _ else _) = _
  rw [isCovered]
  rfl

theorem applyModifiers_aging (cookie mask : Nat) (app : AgingApp) :
    agingRegistry.applyGlobalCookieModifiers cookie mask app =
      agingRegistry.getCookie agingCookieName app.agingCookie cookie mask := by
  change (do
    let result ← agingRegistry.getCookie agingCookieName app.agingCookie cookie mask
    Except.ok (result.1, result.2)) = _
  cases agingRegistry.getCookie agingCookieName app.agingCookie cookie mask with
  | error error => rfl
  | ok result => rfl

/-! ## Writing flows -/

/-- The keys are written with the bit, and nothing else is touched. -/
structure Stamped (bit : Nat) (keys : AgedFlow φ → Prop)
    (before after : AgedFlow φ → Option Nat) : Prop where
  written : ∀ key, keys key → ∃ cookie, after key = some cookie ∧ agingBit cookie = bit
  kept : ∀ key, ¬ keys key → after key = before key

theorem modFlow_leads (key : AgedFlow φ) {cookie mask : Nat} {node : AgingNode φ}
    (isBit : node.app.agingCookie < 2) (isLocal : mask.testBit 0 = false) :
    Leads (modFlow key cookie mask) node
      (fun _ after => after.app = node.app ∧
        Stamped node.app.agingCookie (fun other => other = key) node.table after.table)
      (fun _ _ => False) := by
  have stamped : agingRegistry.getCookie agingCookieName node.app.agingCookie cookie mask =
      .ok (agingField.overwrite cookie node.app.agingCookie, 1 ||| mask) :=
    getCookie_aging isBit isLocal
  rw [modFlow]
  simp only [leads_bind, leads_get, applyModifiers_aging]
  rw [stamped, leads_ofExcept_ok]
  refine ⟨rfl, ?_, ?_⟩
  · rintro other rfl
    exact ⟨_, Function.update_self _ _ _, BitField.extract_overwrite isBit⟩
  · intro other isOther
    exact Function.update_of_ne isOther _ _

/-- The flows of some writes. -/
def KeysOf (writes : List (FlowWrite φ)) (key : AgedFlow φ) : Prop :=
  ∃ write ∈ writes, key = .other write.flow

omit [DecidableEq φ] in
theorem Stamped.trans {bit : Nat} {keys later both : AgedFlow φ → Prop}
    {before middle after : AgedFlow φ → Option Nat}
    (first : Stamped bit keys before middle) (second : Stamped bit later middle after)
    (union : ∀ key, both key ↔ keys key ∨ later key) :
    Stamped bit both before after where
  written key isWritten := by
    by_cases isLater : later key
    · exact second.written key isLater
    · rcases (union key).mp isWritten with isFirst | isSecond
      · rw [second.kept key isLater]
        exact first.written key isFirst
      · exact absurd isSecond isLater
  kept key isKept := by
    rw [union key, not_or] at isKept
    rw [second.kept key isKept.2, first.kept key isKept.1]

theorem writeFlows_leads (writes : List (FlowWrite φ)) {node : AgingNode φ}
    (isBit : node.app.agingCookie < 2) :
    Leads (writeFlows writes) node
      (fun _ after => after.app = node.app ∧
        Stamped node.app.agingCookie (KeysOf writes) node.table after.table)
      (fun _ _ => False) := by
  refine Leads.loop (fun done (after : AgingNode φ) => after.app = node.app ∧
    Stamped node.app.agingCookie (KeysOf done) node.table after.table) writes ?_ ?_
  · rintro done write rest current _ ⟨sameApp, stamped⟩
    rw [← sameApp] at isBit stamped ⊢
    refine (modFlow_leads (.other write.flow) isBit write.isLocal).mono ?_ fun _ _ raised => raised
    rintro _ after ⟨sameAppToo, stampedToo⟩
    refine ⟨sameAppToo, stamped.trans stampedToo ?_⟩
    intro key
    unfold KeysOf
    simp only [List.mem_append, List.mem_singleton, or_and_right, exists_or, exists_eq_left]
  · refine ⟨rfl, ?_, fun _ _ => rfl⟩
    rintro key ⟨write, member, _⟩
    cases member

/-! ## One connection -/

/-- What `switch_sync_started` makes of the canary flow. -/
def started (canary : Option Nat) : AgingApp :=
  match canary with
  | none => { doAging := false, agingCookie := 1 }
  | some cookie => { doAging := true, agingCookie := invertCookie (agingBit cookie) }

theorem started_lt (canary : Option Nat) : (started canary).agingCookie < 2 := by
  cases canary with
  | none => decide
  | some cookie => exact invertCookie_lt (agingBit_lt cookie)

theorem switchSyncStarted_leads (node : AgingNode φ) :
    Leads switchSyncStarted node
      (fun _ after => after.app = started (node.table .canary) ∧
        Stamped after.app.agingCookie (fun key => key = .canary) node.table after.table)
      (fun _ _ => False) := by
  have wrote : Leads (modFlow .canary 0 0)
      ({ node with app := started (node.table .canary) } : AgingNode φ)
      (fun _ after => after.app = started (node.table .canary) ∧
        Stamped (started (node.table .canary)).agingCookie (fun key => key = .canary)
          node.table after.table) (fun _ _ => False) :=
    modFlow_leads .canary (started_lt (node.table .canary)) rfl
  rw [switchSyncStarted]
  simp only [leads_bind, leads_get]
  cases found : node.table .canary with
  | none =>
      rw [found] at wrote
      refine wrote.mono ?_ fun _ _ raised => raised
      rintro _ after ⟨sameApp, stamped⟩
      exact ⟨sameApp, sameApp ▸ stamped⟩
  | some cookie =>
      rw [found] at wrote
      refine wrote.mono ?_ fun _ _ raised => raised
      rintro _ after ⟨sameApp, stamped⟩
      exact ⟨sameApp, sameApp ▸ stamped⟩

/-- What was written since the switch connected. -/
def Written (static synced : List (FlowWrite φ)) (key : AgedFlow φ) : Prop :=
  key = .canary ∨ KeysOf static key ∨ KeysOf synced key

/-- The switch just before `switch_sync_finished`. -/
structure Synchronized (static synced : List (FlowWrite φ)) (node ready : AgingNode φ) :
    Prop where
  app : ready.app = started (node.table .canary)
  late : ∀ key, key = .canary ∨ KeysOf synced key →
    ∃ cookie, ready.table key = some cookie ∧ agingBit cookie = ready.app.agingCookie
  early : ∀ key, KeysOf static key → ¬ KeysOf synced key →
    ∃ cookie, ready.table key = some cookie ∧ agingBit cookie = node.app.agingCookie
  kept : ∀ key, ¬ Written static synced key → ready.table key = node.table key

omit [DecidableEq φ] in
theorem not_keysOf_canary (writes : List (FlowWrite φ)) :
    ¬ KeysOf writes (.canary : AgedFlow φ) := by
  rintro ⟨write, _, same⟩
  cases same

theorem synchronize_leads (static synced : List (FlowWrite φ)) {node : AgingNode φ}
    (isBit : node.app.agingCookie < 2) :
    Leads (synchronize static synced) node
      (fun _ ready => Synchronized static synced node ready) (fun _ _ => False) := by
  rw [synchronize]
  refine (writeFlows_leads static isBit).bind ?_
  rintro _ first ⟨_, staticStamped⟩
  refine (switchSyncStarted_leads first).bind ?_
  rintro _ second ⟨startedApp, canaryStamped⟩
  have sameCanary : first.table .canary = node.table .canary :=
    staticStamped.kept .canary (not_keysOf_canary static)
  rw [sameCanary] at startedApp
  have isBitToo : second.app.agingCookie < 2 := startedApp ▸ started_lt _
  refine (writeFlows_leads synced isBitToo).mono ?_ fun _ _ raised => raised
  rintro _ ready ⟨sameApp, syncedStamped⟩
  have lateStamped : Stamped ready.app.agingCookie
      (fun key => key = .canary ∨ KeysOf synced key) first.table ready.table := by
    rw [sameApp]
    exact canaryStamped.trans syncedStamped fun _ => Iff.rfl
  refine ⟨sameApp.trans startedApp, lateStamped.written, ?_, ?_⟩
  · intro key isStatic isNotSynced
    have isNotLate : ¬ (key = .canary ∨ KeysOf synced key) := by
      rintro (rfl | isSynced)
      · exact not_keysOf_canary static isStatic
      · exact isNotSynced isSynced
    rw [lateStamped.kept key isNotLate]
    exact staticStamped.written key isStatic
  · intro key isNotWritten
    unfold Written at isNotWritten
    rw [lateStamped.kept key (by tauto), staticStamped.kept key (by tauto)]

/-! ## Deleting the leftovers -/

omit [DecidableEq φ] in
theorem startAging_leads {node : AgingNode φ} (isBit : node.app.agingCookie < 2) :
    Leads startAging node
      (fun _ after => after.app = node.app ∧ ∀ key, after.table key =
        (node.table key).filter fun cookie => agingBit cookie = node.app.agingCookie)
      (fun _ _ => False) := by
  have isInverted := invertCookie_lt isBit
  have isOld : agingRegistry.getCookie agingCookieName
      (invertCookie node.app.agingCookie) 0 0 =
        .ok (agingField.overwrite 0 (invertCookie node.app.agingCookie), 1) :=
    getCookie_aging isInverted rfl
  -- The deletion itself is left with its own bit by the modifier.
  have isKept : ∀ cookie, agingRegistry.getCookie agingCookieName node.app.agingCookie
      cookie 1 = .ok (cookie, 1) :=
    fun cookie => getCookie_aging_covered node.app.agingCookie rfl
  simp only [startAging, cleanupFlows, leads_bind, leads_get, applyModifiers_aging]
  rw [isOld, leads_ofExcept_ok, isKept, leads_ofExcept_ok]
  refine ⟨rfl, ?_⟩
  intro key
  change (node.table key).filter _ = _
  congr 1
  funext cookie
  have isBitOf : ∀ number, number &&& 1 = agingBit number := fun _ => rfl
  rw [isBitOf, isBitOf, agingBit, agingBit, BitField.extract_overwrite isInverted]
  apply decide_eq_decide.mpr
  exact (not_congr (eq_invertCookie_iff (agingBit_lt cookie) isBit)).trans not_not

/-- If `_start_aging` is scheduled, it deletes no flow that was written since the switch
connected, and every other one. -/
def AgesExactly (node : AgingNode φ) (static synced : List (FlowWrite φ)) : Prop :=
  Leads (synchronize static synced) node
    (fun _ ready => ready.app.doAging = true →
      Leads startAging ready
        (fun _ after =>
          (∀ key, Written static synced key → ∃ cookie, ready.table key = some cookie ∧
            after.table key = some cookie) ∧
          ∀ key, ¬ Written static synced key → after.table key = none)
        (fun _ _ => False))
    (fun _ _ => False)

/-- The bit of the running application is not the one of the canary flow, or it is 1
and there is no canary flow. -/
def Prepared (node : AgingNode φ) : Prop :=
  match node.table .canary with
  | none => node.app.agingCookie = 1
  | some cookie => node.app.agingCookie ≠ agingBit cookie

/-- Static flows are written with the right bit, or again after `switch_sync_started`. -/
def StaticSafe (node : AgingNode φ) (static synced : List (FlowWrite φ)) : Prop :=
  (∀ write ∈ static, KeysOf synced (.other write.flow)) ∨ node.Prepared

instance (writes : List (FlowWrite φ)) (key : AgedFlow φ) : Decidable (KeysOf writes key) :=
  inferInstanceAs (Decidable (∃ write ∈ writes, key = .other write.flow))

instance (node : AgingNode φ) : Decidable node.Prepared :=
  match found : node.table .canary with
  | none => decidable_of_iff (node.app.agingCookie = 1) (by rw [Prepared, found])
  | some cookie =>
      decidable_of_iff (node.app.agingCookie ≠ agingBit cookie) (by rw [Prepared, found])

instance (node : AgingNode φ) (static synced : List (FlowWrite φ)) :
    Decidable (node.StaticSafe static synced) :=
  inferInstanceAs (Decidable (_ ∨ _))

/-- All flows have the bit of the canary flow. -/
structure Uniform (node : AgingNode φ) : Prop where
  isBit : node.app.agingCookie < 2
  empty : node.table .canary = none → ∀ key, node.table key = none
  same : ∀ canary, node.table .canary = some canary → ∀ key cookie,
    node.table key = some cookie → agingBit cookie = agingBit canary

variable {static synced : List (FlowWrite φ)} {node ready : AgingNode φ}

omit [DecidableEq φ] in
theorem KeysOf.of_static (rewritten : ∀ write ∈ static, KeysOf synced (.other write.flow))
    {key : AgedFlow φ} (isStatic : KeysOf static key) : KeysOf synced key := by
  rcases isStatic with ⟨write, member, rfl⟩
  exact rewritten write member

omit [DecidableEq φ] in
/-- Whatever was written has the new bit. -/
theorem Synchronized.written_bit (synchronized : Synchronized static synced node ready)
    (isBit : node.app.agingCookie < 2) (safe : node.StaticSafe static synced)
    {key : AgedFlow φ} (isWritten : Written static synced key) :
    ∃ cookie, ready.table key = some cookie ∧ agingBit cookie = ready.app.agingCookie := by
  by_cases isSynced : KeysOf synced key
  · exact synchronized.late key (Or.inr isSynced)
  · rcases isWritten with isCanary | isStatic | isSyncedToo
    · exact synchronized.late key (Or.inl isCanary)
    · have isPrepared : node.Prepared := by
        rcases safe with rewritten | isPrepared
        · exact absurd (isStatic.of_static rewritten) isSynced
        · exact isPrepared
      rcases synchronized.early key isStatic isSynced with ⟨cookie, found, hasBit⟩
      refine ⟨cookie, found, ?_⟩
      rw [hasBit, synchronized.app]
      unfold Prepared at isPrepared
      cases canary : node.table .canary with
      | none =>
          rw [canary] at isPrepared
          exact isPrepared
      | some canaryCookie =>
          rw [canary] at isPrepared
          exact (eq_invertCookie_iff isBit (agingBit_lt canaryCookie)).mpr isPrepared
    · exact absurd isSyncedToo isSynced

omit [DecidableEq φ] in
theorem Synchronized.canary_bit (synchronized : Synchronized static synced node ready) :
    ∃ cookie, ready.table .canary = some cookie ∧
      agingBit cookie = ready.app.agingCookie :=
  synchronized.late .canary (Or.inl rfl)

omit [DecidableEq φ] in
theorem Synchronized.isBit (synchronized : Synchronized static synced node ready) :
    ready.app.agingCookie < 2 := by
  rw [synchronized.app]
  exact started_lt _

/-- With a canary flow on the switch, aging is exact if and only if the static flows are
safe. -/
theorem agesExactly_iff (uniform : node.Uniform) {canary : Nat}
    (hasCanary : node.table .canary = some canary) :
    node.AgesExactly static synced ↔ node.StaticSafe static synced := by
  unfold AgesExactly
  rcases (synchronize_leads static synced uniform.isBit).returned with
    ⟨_, ready, executed, synchronized⟩
  rw [leads_exec_ok executed]
  have isApp : ready.app = { doAging := true, agingCookie := invertCookie (agingBit canary) } := by
    rw [synchronized.app, hasCanary]
    rfl
  rcases (startAging_leads synchronized.isBit).returned with
    ⟨_, after, aged, _, filtered⟩
  rw [leads_exec_ok aged]
  constructor
  · intro exact_
    rcases exact_ (by rw [isApp]) with ⟨survives, _⟩
    by_contra isUnsafe
    unfold StaticSafe Prepared at isUnsafe
    rw [hasCanary] at isUnsafe
    push Not at isUnsafe
    rcases isUnsafe with ⟨⟨write, member, isNotSynced⟩, sameBit⟩
    -- The static flow has the bit of the canary flow, which is the one that is deleted.
    have isStatic : KeysOf static (.other write.flow) := ⟨write, member, rfl⟩
    rcases synchronized.early _ isStatic isNotSynced with ⟨cookie, found, hasBit⟩
    rcases survives _ (Or.inr (Or.inl isStatic)) with ⟨other, _, foundAfter⟩
    rw [filtered, found, isApp, Option.filter_some] at foundAfter
    split at foundAfter
    · next isNew =>
        rw [decide_eq_true_eq, hasBit, sameBit] at isNew
        exact ((eq_invertCookie_iff (agingBit_lt _) (agingBit_lt _)).mp isNew) rfl
    · cases foundAfter
  · intro safe _
    constructor
    · intro key isWritten
      rcases synchronized.written_bit uniform.isBit safe isWritten with
        ⟨cookie, found, hasBit⟩
      refine ⟨cookie, found, ?_⟩
      rw [filtered, found, Option.filter_some, if_pos (decide_eq_true hasBit)]
    · intro key isNotWritten
      rw [filtered, synchronized.kept key isNotWritten]
      cases found : node.table key with
      | none => rfl
      | some cookie =>
          have hasBit := uniform.same canary hasCanary key cookie found
          have isOld : ¬ agingBit cookie = ready.app.agingCookie := by
            rw [hasBit, isApp]
            intro same
            exact ((eq_invertCookie_iff (agingBit_lt _) (agingBit_lt _)).mp same) rfl
          rw [Option.filter_some, if_neg (by simpa using isOld)]

/-- Without a canary flow there is no aging. -/
theorem agesExactly_of_none (uniform : node.Uniform)
    (noCanary : node.table .canary = none) : node.AgesExactly static synced := by
  refine (synchronize_leads static synced uniform.isBit).mono ?_ fun _ _ raised => raised
  intro _ ready synchronized doesAging
  rw [synchronized.app, noCanary] at doesAging
  cases doesAging

/-! ## Runs -/

/-- Connections age exactly; the other events delete nothing. -/
def EventExact (node : AgingNode φ) : AgingEvent φ → Prop
  | .connect static synced => node.AgesExactly static synced
  | _ => True

/-- The condition on the connections of a run. -/
def EventSafe (node : AgingNode φ) : AgingEvent φ → Prop
  | .connect static synced => node.StaticSafe static synced
  | _ => True

instance (node : AgingNode φ) (event : AgingEvent φ) : Decidable (node.EventSafe event) :=
  match event with
  | .controllerRestart => isTrue trivial
  | .switchRestart => isTrue trivial
  | .connect static synced => inferInstanceAs (Decidable (node.StaticSafe static synced))

theorem connect_uniform (uniform : node.Uniform) (safe : node.StaticSafe static synced) :
    Leads (connect static synced) node (fun _ after => after.Uniform) (fun _ _ => False) := by
  rw [connect]
  refine (synchronize_leads static synced uniform.isBit).bind ?_
  intro _ ready synchronized
  rcases synchronized.canary_bit with ⟨newCanary, foundCanary, canaryBit⟩
  rw [switchSyncFinished]
  simp only [leads_bind, leads_get]
  cases canary : node.table .canary with
  | none =>
      have isApp : ready.app = { doAging := false, agingCookie := 1 } := by
        rw [synchronized.app, canary]
        rfl
      rw [if_neg (by rw [isApp]; decide)]
      refine ⟨synchronized.isBit, ?_, ?_⟩
      · intro isNone
        rw [foundCanary] at isNone
        cases isNone
      · intro other foundOther key cookie found
        rw [foundCanary, Option.some.injEq] at foundOther
        rw [← foundOther, canaryBit]
        by_cases isWritten : Written static synced key
        · rcases synchronized.written_bit uniform.isBit safe isWritten with
            ⟨stored, foundStored, hasBit⟩
          rw [found, Option.some.injEq] at foundStored
          rw [foundStored, hasBit]
        · rw [synchronized.kept key isWritten, uniform.empty canary key] at found
          cases found
  | some canaryCookie =>
      have isApp : ready.app =
          { doAging := true, agingCookie := invertCookie (agingBit canaryCookie) } := by
        rw [synchronized.app, canary]
        rfl
      rw [if_pos (by rw [isApp])]
      refine (startAging_leads synchronized.isBit).mono ?_ fun _ _ raised => raised
      rintro _ after ⟨sameApp, filtered⟩
      have remaining : ∀ key cookie, after.table key = some cookie →
          agingBit cookie = ready.app.agingCookie := by
        intro key cookie found
        rw [filtered, Option.filter_eq_some_iff, decide_eq_true_eq] at found
        exact found.2
      have canaryKept : after.table .canary = some newCanary := by
        rw [filtered, foundCanary, Option.filter_some, if_pos (decide_eq_true canaryBit)]
      refine ⟨sameApp ▸ synchronized.isBit, ?_, ?_⟩
      · intro isNone
        rw [canaryKept] at isNone
        cases isNone
      · intro other foundOther key cookie found
        rw [remaining key cookie found, remaining .canary other foundOther]

theorem step_uniform {event : AgingEvent φ} (uniform : node.Uniform)
    (safe : node.EventSafe event) : ∃ after, node.step event = some after ∧ after.Uniform := by
  cases event with
  | controllerRestart => exact ⟨_, rfl, Nat.zero_lt_two, uniform.empty, uniform.same⟩
  | switchRestart =>
      refine ⟨_, rfl, uniform.isBit, fun _ _ => rfl, ?_⟩
      intro canary found
      cases found
  | connect static synced =>
      rcases (connect_uniform uniform safe).returned with ⟨_, after, executed, isUniform⟩
      refine ⟨after, ?_, isUniform⟩
      rw [step, executed]

omit [DecidableEq φ] in
theorem uniform_initial : ({} : AgingNode φ).Uniform where
  isBit := Nat.zero_lt_two
  empty _ _ := rfl
  same _ found := nomatch found

theorem event_exact {event : AgingEvent φ} (uniform : node.Uniform)
    (safe : node.EventSafe event) : node.EventExact event := by
  cases event with
  | controllerRestart => trivial
  | switchRestart => trivial
  | connect static synced =>
      cases canary : node.table .canary with
      | none => exact agesExactly_of_none uniform canary
      | some cookie => exact (agesExactly_iff uniform canary).mpr safe

theorem steps_uniform {events : List (AgingEvent φ)} (uniform : node.Uniform)
    (safe : Throughout step EventSafe events node) :
    ∃ after, steps step events node = some after ∧ after.Uniform := by
  induction events generalizing node with
  | nil => exact ⟨node, rfl, uniform⟩
  | cons event events induction =>
      rcases step_uniform uniform safe.1 with ⟨middle, stepped, middleUniform⟩
      have later := safe.2
      rw [stepped] at later
      rcases induction middleUniform later with ⟨after, reached, afterUniform⟩
      exact ⟨after, steps_cons_eq_some.mpr ⟨middle, stepped, reached⟩, afterUniform⟩

/-- A run whose connections all write their static flows with the right bit, or write
them again later, ages exactly at each of them. After such a run a connection to a
switch with a canary flow ages exactly only if it does the same. -/
theorem aging_exact_while_safe (events : List (AgingEvent φ))
    (safe : Throughout step EventSafe events {}) :
    ∃ node, steps step events {} = some node ∧ Throughout step EventExact events {} ∧
      ∀ static synced, node.table .canary ≠ none →
        (node.AgesExactly static synced ↔ node.StaticSafe static synced) := by
  rcases steps_uniform uniform_initial safe with ⟨node, reached, uniform⟩
  refine ⟨node, reached, ?_, ?_⟩
  · apply Throughout.imp Uniform ?_ (fun _ _ => event_exact) uniform_initial safe
    intro state event after isUniform isSafe stepped
    rcases step_uniform isUniform isSafe with ⟨other, steppedToo, afterUniform⟩
    rw [stepped, Option.some.injEq] at steppedToo
    rw [steppedToo]
    exact afterUniform
  · intro static synced hasCanary
    rcases Option.ne_none_iff_exists'.mp hasCanary with ⟨canary, found⟩
    exact agesExactly_iff uniform found

/-- A flow with no cookie bits of its own. -/
def plainWrite (flow : Nat) : FlowWrite Nat := { flow }

theorem aging_exact_while_safe_restarts :
    ∃ node, steps step [.switchRestart, .connect [] [plainWrite 0],
        .controllerRestart, .connect [plainWrite 1] [plainWrite 2]] {} = some node ∧
      Throughout step EventExact [.switchRestart, .connect [] [plainWrite 0],
        .controllerRestart, .connect [plainWrite 1] [plainWrite 2]] {} ∧
      ∀ static synced, node.table .canary ≠ none →
        (node.AgesExactly static synced ↔ node.StaticSafe static synced) :=
  aging_exact_while_safe _ (by decide +kernel)

/-- The switch reconnects to the same controller: the static flow, written again, is
deleted. -/
theorem aging_deletes_static_flow :
    ¬ Throughout step EventExact
      [.connect [plainWrite 0] [], .connect [plainWrite 0] []] ({} : AgingNode Nat) := by
  let first : AgingNode Nat := (exec (connect [plainWrite 0] []) {}).2
  let ready : AgingNode Nat := (exec (synchronize [plainWrite 0] []) first).2
  have connected : exec (connect [plainWrite 0] []) {} = (.ok (), first) :=
    Prod.ext (by decide +kernel) rfl
  have synchronized : exec (synchronize [plainWrite 0] []) first = (.ok (), ready) :=
    Prod.ext (by decide +kernel) rfl
  have aged : exec startAging ready = (.ok (), (exec startAging ready).2) :=
    Prod.ext (by decide +kernel) rfl
  have isDeleted : (exec startAging ready).2.table (.other 0) = none := by decide +kernel
  rintro ⟨_, later⟩
  rw [step, connected] at later
  have exactly_ := (later.1 : first.AgesExactly _ _).of_ok synchronized (by decide +kernel)
  rcases (exactly_.of_ok aged).1 (.other 0)
    (Or.inr (Or.inl ⟨plainWrite 0, List.mem_cons_self, rfl⟩)) with ⟨cookie, _, found⟩
  rw [isDeleted] at found
  cases found

end AgingNode

end Dragonflow

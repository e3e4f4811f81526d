import Mathlib.Data.List.Basic
import Mathlib.Logic.Function.Basic

/-! # Owners and owned

Reference counting over arbitrary keys. Every live key declares what it owns;
the bookkeeping records what each key owns and by whom each key is owned. The
invariant allows for keys whose declaration is being changed: as long as a key
is pending, its owned keys are those given for it, whatever is recorded.
-/

namespace Dragonflow

@[ext] structure Ownership (κ : Type) where
  /-- What a live key declares to own. -/
  contents : κ → Option (List κ)
  owns : κ → List κ
  owners : κ → List κ

namespace Ownership

variable {κ : Type}

abbrev Pending (κ : Type) := κ → Option (List κ)

def edges (state : Ownership κ) (pending : Pending κ) (owner : κ) : List κ :=
  (pending owner).getD (state.owns owner)

/-- A key is live because it has an owner, or because it is free to live
without one. -/
structure Exact (below : κ → κ → Prop) (pending : Pending κ) (free : κ → Prop)
    (state : Ownership κ) : Prop where
  lower : ∀ owner owned, owned ∈ state.edges pending owner → below owned owner
  owners : ∀ owner owned,
    owner ∈ state.owners owned ↔ owned ∈ state.edges pending owner
  live : ∀ key, state.owners key ≠ [] → (state.contents key).isSome
  owned : ∀ key, (state.contents key).isSome → state.owners key ≠ [] ∨ free key
  owns : ∀ key declared, pending key = none →
    state.contents key = some declared →
    ∀ owned, owned ∈ state.owns key ↔ owned ∈ declared
  absent : ∀ key, pending key = none → state.contents key = none →
    state.owns key = []
  nodup : ∀ key, (state.owns key).Nodup

variable {below : κ → κ → Prop} {pending : Pending κ} {free : κ → Prop}
  {state : Ownership κ}

/-- A key that nothing pending is about, and that may not live on its own, is
live iff some live key declares to own it. -/
theorem Exact.live_iff (holds : Exact below (fun _ => none) free state)
    {key : κ} (bound : ¬ free key) :
    (state.contents key).isSome ↔
      ∃ owner declared, state.contents owner = some declared ∧
        key ∈ declared := by
  constructor
  · intro live
    rcases holds.owned key live with hasOwner | isFree
    · rcases List.exists_mem_of_ne_nil _ hasOwner with ⟨owner, member⟩
      have recorded : key ∈ state.owns owner :=
        (holds.owners owner key).mp member
      cases declares : state.contents owner with
      | none =>
          rw [holds.absent owner rfl declares] at recorded
          cases recorded
      | some declared =>
          exact ⟨owner, declared, declares,
            (holds.owns owner declared rfl declares key).mp recorded⟩
    · exact absurd isFree bound
  · rintro ⟨owner, declared, declares, member⟩
    have recorded : key ∈ state.owns owner :=
      (holds.owns owner declared rfl declares key).mpr member
    exact holds.live key
      (List.ne_nil_of_mem ((holds.owners owner key).mpr recorded))

/-! ## Changing one key -/

theorem Exact.weaken (holds : Exact below pending free state)
    {freer : κ → Prop} (implies : ∀ key, free key → freer key) :
    Exact below pending freer state :=
  { holds with
    owned := fun key live => (holds.owned key live).imp_right (implies key) }

variable [DecidableEq κ]

theorem edges_update (state : Ownership κ) (pending : Pending κ) (key owner : κ)
    (list : List κ) :
    state.edges (Function.update pending key (some list)) owner =
      if owner = key then list else state.edges pending owner := by
  unfold edges
  rw [Function.update_apply]
  split <;> rfl

/-- Start changing a key. -/
theorem Exact.start (holds : Exact below pending free state) {key : κ}
    (idle : pending key = none) :
    Exact below (Function.update pending key (some (state.owns key))) free
      state := by
  have same (owner : κ) :
      state.edges (Function.update pending key (some (state.owns key))) owner =
        state.edges pending owner := by
    rw [edges_update]
    split
    · next here => simp [edges, here, idle]
    · rfl
  have idleBefore (other : κ)
      (idleNow : Function.update pending key (some (state.owns key)) other =
        none) : pending other = none := by
    rw [Function.update_apply] at idleNow
    split at idleNow
    · cases idleNow
    · exact idleNow
  exact
    { lower := fun owner owned => by
        rw [same]
        exact holds.lower owner owned
      owners := fun owner owned => by
        rw [same]
        exact holds.owners owner owned
      live := holds.live
      owned := holds.owned
      owns := fun other declared idleNow =>
        holds.owns other declared (idleBefore other idleNow)
      absent := fun other idleNow => holds.absent other (idleBefore other idleNow)
      nodup := holds.nodup }

/-- A pending key becomes live, or declares something else. -/
theorem Exact.declare (holds : Exact below pending free state) {key : κ}
    (busy : pending key ≠ none) (declared : List κ) :
    Exact below pending (fun other => free other ∨ other = key)
      { state with
        contents := Function.update state.contents key (some declared) } where
  lower := holds.lower
  owners := holds.owners
  live other hasOwner := by
    by_cases here : other = key
    · simp [here]
    · simpa [here] using holds.live other hasOwner
  owned other live := by
    by_cases here : other = key
    · exact Or.inr (Or.inr here)
    · simp only [Function.update_of_ne here] at live
      exact (holds.owned other live).imp_right Or.inl
  owns other others idle declares := by
    have different : other ≠ key := fun here => busy (here ▸ idle)
    simp only [Function.update_of_ne different] at declares
    exact holds.owns other others idle declares
  absent other idle missing := by
    have different : other ≠ key := fun here => busy (here ▸ idle)
    simp only [Function.update_of_ne different] at missing
    exact holds.absent other idle missing
  nodup := holds.nodup

/-- Whatever is recorded for a pending key does not count. -/
theorem Exact.record (holds : Exact below pending free state) {key : κ}
    (busy : pending key ≠ none) {list : List κ} (distinct : list.Nodup) :
    Exact below pending free
      { state with owns := Function.update state.owns key list } := by
  have same (owner : κ) :
      edges { state with owns := Function.update state.owns key list } pending
        owner = state.edges pending owner := by
    unfold edges
    by_cases here : owner = key
    · subst here
      cases given : pending owner with
      | none => exact absurd given busy
      | some list => rfl
    · simp [here]
  have different {other : κ} (idle : pending other = none) : other ≠ key :=
    fun here => busy (here ▸ idle)
  exact
    { lower := fun owner owned => by
        rw [same]
        exact holds.lower owner owned
      owners := fun owner owned => by
        rw [same]
        exact holds.owners owner owned
      live := holds.live
      owned := holds.owned
      owns := fun other declared idle declares owned => by
        simp only [Function.update_of_ne (different idle)]
        exact holds.owns other declared idle declares owned
      absent := fun other idle missing => by
        simp only [Function.update_of_ne (different idle)]
        exact holds.absent other idle missing
      nodup := fun other => by
        simp only [Function.update_apply]
        split
        · exact distinct
        · exact holds.nodup other }

theorem update_idle {other key : κ} {list : List κ}
    (idle : Function.update pending key (some list) other = none) :
    other ≠ key ∧ pending other = none := by
  rw [Function.update_apply] at idle
  split at idle
  · cases idle
  · next different => exact ⟨different, idle⟩

/-- A pending key becomes the owner of a live key. -/
theorem Exact.add (holds : Exact below pending free state) {owner added : κ}
    {list owners : List κ} (given : pending owner = some list)
    (lower : below added owner) (live : (state.contents added).isSome)
    (extended : ∀ other,
      other ∈ owners ↔ other = owner ∨ other ∈ state.owners added)
    {kept : κ → Prop} (implies : ∀ key, free key → kept key ∨ key = added) :
    Exact below (Function.update pending owner (some (added :: list))) kept
      { state with owners := Function.update state.owners added owners } := by
  have edgesOwner : state.edges pending owner = list := by simp [edges, given]
  have sameEdges (other : κ) :
      edges { state with owners := Function.update state.owners added owners }
        (Function.update pending owner (some (added :: list))) other =
      if other = owner then added :: list else state.edges pending other :=
    edges_update state pending owner other (added :: list)
  constructor
  · intro other owned
    rw [sameEdges]
    split
    · next here =>
        subst here
        intro member
        rcases List.mem_cons.mp member with rfl | member
        · exact lower
        · exact holds.lower other owned (edgesOwner ▸ member)
    · exact holds.lower other owned
  · intro other owned
    rw [sameEdges]
    simp only [Function.update_apply]
    have before := holds.owners other owned
    by_cases sameOwner : other = owner
    · subst sameOwner
      rw [edgesOwner] at before
      by_cases sameAdded : owned = added
      · simp [sameAdded, extended]
      · simp [sameAdded, before]
    · by_cases sameAdded : owned = added
      · subst sameAdded
        simpa [sameOwner, extended] using before
      · simpa [sameOwner, sameAdded] using before
  · intro key hasOwner
    by_cases here : key = added
    · exact here ▸ live
    · simp only [Function.update_of_ne here] at hasOwner
      exact holds.live key hasOwner
  · intro key liveKey
    by_cases here : key = added
    · subst here
      left
      simp only [Function.update_self]
      exact List.ne_nil_of_mem ((extended owner).mpr (Or.inl rfl))
    · simp only [Function.update_of_ne here]
      refine (holds.owned key liveKey).imp_right fun isFree => ?_
      exact (implies key isFree).resolve_right here
  · intro key declared idle
    exact holds.owns key declared (update_idle idle).2
  · intro key idle
    exact holds.absent key (update_idle idle).2
  · exact holds.nodup

/-- A pending key gives up a key, which may then have no owner left. -/
theorem Exact.discard (holds : Exact below pending free state)
    {owner removed : κ} {list : List κ} (given : pending owner = some list) :
    Exact below
      (Function.update pending owner (some (list.filter (· ≠ removed))))
      (fun key => free key ∨
        key = removed ∧ (state.owners removed).filter (· ≠ owner) = [])
      { state with
        owners := Function.update state.owners removed
          ((state.owners removed).filter (· ≠ owner)) } := by
  have edgesOwner : state.edges pending owner = list := by simp [edges, given]
  have sameEdges (other : κ) :
      edges { state with
        owners := Function.update state.owners removed
          ((state.owners removed).filter (· ≠ owner)) }
        (Function.update pending owner (some (list.filter (· ≠ removed))))
        other =
      if other = owner then list.filter (· ≠ removed)
      else state.edges pending other :=
    edges_update state pending owner other _
  constructor
  · intro other owned
    rw [sameEdges]
    split
    · next here =>
        subst here
        intro member
        exact holds.lower other owned
          (edgesOwner ▸ (List.mem_filter.mp member).1)
    · exact holds.lower other owned
  · intro other owned
    rw [sameEdges]
    simp only [Function.update_apply]
    have before := holds.owners other owned
    by_cases sameOwner : other = owner
    · subst sameOwner
      rw [edgesOwner] at before
      by_cases sameRemoved : owned = removed
      · simp [sameRemoved]
      · simp [sameRemoved, before]
    · by_cases sameRemoved : owned = removed
      · subst sameRemoved
        simpa [sameOwner] using before
      · simpa [sameOwner, sameRemoved] using before
  · intro key hasOwner
    by_cases here : key = removed
    · subst here
      simp only [Function.update_self] at hasOwner
      refine holds.live key fun none => hasOwner ?_
      simp [none]
    · simp only [Function.update_of_ne here] at hasOwner
      exact holds.live key hasOwner
  · intro key live
    by_cases here : key = removed
    · subst here
      simp only [Function.update_self]
      by_cases empty : (state.owners key).filter (· ≠ owner) = []
      · exact Or.inr (Or.inr ⟨trivial, empty⟩)
      · exact Or.inl empty
    · simp only [Function.update_of_ne here]
      exact (holds.owned key live).imp_right Or.inl
  · intro key declared idle
    exact holds.owns key declared (update_idle idle).2
  · intro key idle
    exact holds.absent key (update_idle idle).2
  · exact holds.nodup

/-- A key whose record agrees with its declaration is no longer pending. -/
theorem Exact.settle (holds : Exact below pending free state) {key : κ}
    {list declared : List κ} (given : pending key = some list)
    (recorded : ∀ owned, owned ∈ state.owns key ↔ owned ∈ list)
    (declares : state.contents key = some declared)
    (same : ∀ owned, owned ∈ list ↔ owned ∈ declared) :
    Exact below (Function.update pending key none) free state := by
  have sameEdges (owner owned : κ) :
      owned ∈ state.edges (Function.update pending key none) owner ↔
        owned ∈ state.edges pending owner := by
    unfold edges
    by_cases here : owner = key
    · subst here
      simp [given, recorded]
    · simp [here]
  constructor
  · intro owner owned
    rw [sameEdges]
    exact holds.lower owner owned
  · intro owner owned
    rw [sameEdges]
    exact holds.owners owner owned
  · exact holds.live
  · exact holds.owned
  · intro other others idle declaresOther owned
    by_cases here : other = key
    · subst here
      cases declares.symm.trans declaresOther
      rw [recorded, same]
    · rw [Function.update_of_ne here] at idle
      exact holds.owns other others idle declaresOther owned
  · intro other idle missing
    by_cases here : other = key
    · subst here
      cases declares.symm.trans missing
    · rw [Function.update_of_ne here] at idle
      exact holds.absent other idle missing
  · exact holds.nodup

/-- A pending key that owns nothing and has no owner ceases to live. -/
theorem Exact.remove (holds : Exact below pending free state) {key : κ}
    (given : pending key = some []) (nothing : state.owns key = [])
    (unowned : state.owners key = []) {kept : κ → Prop}
    (implies : ∀ other, free other → kept other ∨ other = key) :
    Exact below (Function.update pending key none) kept
      { state with contents := Function.update state.contents key none } := by
  have sameEdges (owner : κ) :
      edges { state with contents := Function.update state.contents key none }
        (Function.update pending key none) owner = state.edges pending owner := by
    unfold edges
    by_cases here : owner = key
    · subst here
      simp [given, nothing]
    · simp [here]
  constructor
  · intro owner owned
    rw [sameEdges]
    exact holds.lower owner owned
  · intro owner owned
    rw [sameEdges]
    exact holds.owners owner owned
  · intro other hasOwner
    have different : other ≠ key := fun here => hasOwner (here ▸ unowned)
    simpa [different] using holds.live other hasOwner
  · intro other live
    have different : other ≠ key := by
      rintro rfl
      simp at live
    simp only [Function.update_of_ne different] at live
    refine (holds.owned other live).imp_right fun isFree => ?_
    exact (implies other isFree).resolve_right different
  · intro other declared idle declares
    have different : other ≠ key := by
      rintro rfl
      simp at declares
    simp only [Function.update_of_ne different] at idle declares
    exact holds.owns other declared idle declares
  · intro other idle missing
    by_cases here : other = key
    · exact here ▸ nothing
    · simp only [Function.update_of_ne here] at idle missing
      exact holds.absent other idle missing
  · exact holds.nodup

end Ownership

end Dragonflow

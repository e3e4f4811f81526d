import Dragonflow.Foundation.Simulation
import Dragonflow.Db.Models
import Dragonflow.Db.Removal

/-! # What `clear` leaves behind

`clear` empties the caches, but not the two maps of embedded objects. A cleared
store behaves like a new one as long as those maps held nothing; otherwise the
leftovers show up in a later update or delete.
-/

namespace Dragonflow

open Program

variable {α : Type} [DecidableEq α]

/-! ## The caches know nothing of embedded objects -/

/-- Replace both maps of embedded objects. -/
def World.withMaps (objToEmbedded embeddedRefs : Dict ObjectKey (List ObjectKey))
    (world : World α) : World α :=
  (world.setEmbedded objToEmbedded).setRefs embeddedRefs

section

variable (objToEmbedded embeddedRefs : Dict ObjectKey (List ObjectKey))

omit [DecidableEq α] in
theorem getCache_commutes (model : Model) :
    Commutes (World.withMaps objToEmbedded embeddedRefs)
      (getCache model : Action α Unit) := by
  refine Commutes.get_bind fun world => ?_
  have same : (World.withMaps objToEmbedded embeddedRefs world).store.cache.lookup
      model = world.store.cache.lookup model := rfl
  rw [same]
  cases world.store.cache.lookup model <;> rfl

omit [DecidableEq α] in
theorem Proxy.refetch_commutes (proxy : Proxy) :
    Commutes (World.withMaps objToEmbedded embeddedRefs)
      (proxy.refetch : Action α _) := by
  refine Commutes.bind (Commutes.bind (getCache_commutes _ _ proxy.model)
    fun _ => Commutes.get_bind fun _ => rfl) fun object => ?_
  exact Commutes.bind (Commutes.modify fun _ => rfl) fun _ => Commutes.pure _

omit [DecidableEq α] in
theorem Proxy.getObject_commutes (proxy : Proxy) :
    Commutes (World.withMaps objToEmbedded embeddedRefs)
      (proxy.getObject : Action α _) := by
  refine Commutes.get_bind fun world => ?_
  have same : (World.withMaps objToEmbedded embeddedRefs world).fetched proxy =
      world.fetched proxy := rfl
  have sameFlags : (World.withMaps objToEmbedded embeddedRefs world).stale =
      world.stale := rfl
  rw [same, sameFlags]
  cases world.fetched proxy with
  | none => exact proxy.refetch_commutes _ _ world
  | some object =>
      simp only
      split
      · exact proxy.refetch_commutes _ _ world
      · rfl

omit [DecidableEq α] in
theorem getattr_commutes (node : Value α) (name : FieldName) :
    Commutes (World.withMaps objToEmbedded embeddedRefs) (getattr node name) := by
  cases node with
  | record model fields => exact Commutes.ofExcept _
  | object object => exact Commutes.ofExcept _
  | proxy proxy =>
      simp only [getattr]
      split
      · exact Commutes.pure _
      · refine Commutes.bind (proxy.getObject_commutes _ _) fun object => ?_
        cases object with
        | none => exact Commutes.throw _
        | some object => exact Commutes.ofExcept _
  | _ => exact Commutes.throw _

namespace IndexCache

omit [DecidableEq α] in
theorem advance_commutes (name : FieldName) (nodes : List (Value α)) :
    Commutes (World.withMaps objToEmbedded embeddedRefs) (advance name nodes) := by
  induction nodes with
  | nil => exact Commutes.pure _
  | cons node nodes induction =>
      exact Commutes.bind (getattr_commutes _ _ node name) fun _ =>
        Commutes.bind induction fun _ => Commutes.pure _

omit [DecidableEq α] in
theorem walkPath_commutes (path : FieldPath) (nodes : List (Value α)) :
    Commutes (World.withMaps objToEmbedded embeddedRefs)
      (walkPath path nodes) := by
  induction path generalizing nodes with
  | nil => exact Commutes.pure _
  | cons name path induction =>
      exact Commutes.bind (advance_commutes _ _ name nodes) fun _ =>
        Commutes.bind (induction _) fun _ => Commutes.pure _

theorem getKeyElements_commutes (object : Object α) (index : Index) :
    Commutes (World.withMaps objToEmbedded embeddedRefs)
      (getKeyElements object index) := by
  induction index with
  | nil => exact Commutes.pure _
  | cons path index induction =>
      refine Commutes.bind (Commutes.bind (walkPath_commutes _ _ path _)
        fun _ => Commutes.bind (Commutes.ofExcept _) fun _ => Commutes.pure _)
        fun _ => Commutes.bind induction fun _ => Commutes.pure _

theorem getKeys_commutes (object : Object α) (index : Index) :
    Commutes (World.withMaps objToEmbedded embeddedRefs)
      (getKeys object index) :=
  Commutes.bind (getKeyElements_commutes _ _ object index) fun _ =>
    Commutes.pure _

end IndexCache

theorem World.keysAt_withMaps (world : World α) (object : Object α) :
    (world.withMaps objToEmbedded embeddedRefs).keysAt object =
      world.keysAt object := by
  funext index
  unfold World.keysAt
  rw [IndexCache.getKeys_commutes]

namespace ModelCache

theorem update_commutes (object : Object α) :
    Commutes (World.withMaps objToEmbedded embeddedRefs)
      (ModelCache.update object) := by
  refine Commutes.bind (Commutes.modify fun world => ?_) fun _ =>
    Commutes.bind (Commutes.loop _ fun index _ => ?_) fun _ =>
      Commutes.modify fun world => ?_
  · rw [World.keysAt_withMaps]
    rfl
  · exact Commutes.bind (IndexCache.getKeys_commutes _ _ object index) fun _ =>
      Commutes.modify fun _ => rfl
  · unfold World.storeObject
    have same : (World.withMaps objToEmbedded embeddedRefs world).stored
        object.key = world.stored object.key := rfl
    rw [same]
    cases world.stored object.key <;> rfl

theorem delete_commutes (key : ObjectKey) :
    Commutes (World.withMaps objToEmbedded embeddedRefs)
      (ModelCache.delete key : Action α Unit) := by
  refine Commutes.bind (Commutes.loop _ fun index _ => ?_) fun _ =>
    Commutes.get_bind fun world => ?_
  · refine Commutes.get_bind fun world => ?_
    have same : (World.withMaps objToEmbedded embeddedRefs world).recordedKeys
        key index = world.recordedKeys key index := rfl
    rw [same]
    cases world.recordedKeys key index <;> rfl
  · have same : (World.withMaps objToEmbedded embeddedRefs world).stored key =
        world.stored key := rfl
    rw [same]
    cases world.stored key <;> rfl

theorem getKeys_commutes (object : Object α) (index : Option Index) :
    Commutes (World.withMaps objToEmbedded embeddedRefs)
      (ModelCache.getKeys object index) := by
  unfold ModelCache.getKeys
  cases index with
  | none => exact Commutes.get_bind fun _ => rfl
  | some index =>
      simp only
      split
      · exact Commutes.pure _
      · split
        · exact Commutes.bind (IndexCache.getKeys_commutes _ _ object index)
            fun _ => Commutes.get_bind fun _ => rfl
        · exact Commutes.throw _

omit [DecidableEq α] in
theorem getByIds_commutes (model : Model) (ids : List Id) :
    Commutes (World.withMaps objToEmbedded embeddedRefs)
      (getByIds model ids : Action α _) := by
  induction ids with
  | nil => exact Commutes.pure _
  | cons id ids induction =>
      refine Commutes.bind (Commutes.get_bind fun world => ?_) fun _ =>
        Commutes.bind induction fun _ => Commutes.pure _
      have same : (World.withMaps objToEmbedded embeddedRefs world).stored
          (model, id) = world.stored (model, id) := rfl
      rw [same]
      cases world.stored (model, id) <;> rfl

theorem getOne_commutes (object : Object α) (index : Option Index) :
    Commutes (World.withMaps objToEmbedded embeddedRefs)
      (ModelCache.getOne object index) := by
  unfold ModelCache.getOne
  split
  · exact Commutes.get_bind fun _ => rfl
  · refine Commutes.bind (getKeys_commutes _ _ object index) fun ids => ?_
    rcases ids with _ | ⟨id, _ | _⟩
    · exact Commutes.pure _
    · exact Commutes.get_bind fun _ => rfl
    · exact Commutes.throw _

end ModelCache

end

/-! ## Worlds that differ in leftovers only -/

namespace World

/-- Two worlds with the same caches, proxies and embedded objects. The first may
keep empty sets of references that the second does not have, though not under
the settled keys. -/
structure Twins (settled : ObjectKey → Prop) (sizes : Nat → Nat → Prop)
    (world twin : World α) : Prop where
  apart : twin =
    world.withMaps twin.store.objToEmbedded twin.store.embeddedRefs
  embedded : ∀ key, twin.embeddedOf key = world.embeddedOf key
  refs : ∀ key,
    twin.store.embeddedRefs.lookup key = world.store.embeddedRefs.lookup key ∨
      ¬ settled key ∧ twin.store.embeddedRefs.lookup key = none ∧
        world.store.embeddedRefs.lookup key = some []
  size : sizes world.embeddingSize twin.embeddingSize

variable {settled : ObjectKey → Prop} {sizes : Nat → Nat → Prop}
  {world twin : World α}

omit [DecidableEq α] in
theorem Twins.mono {wider : Nat → Nat → Prop}
    (twins : Twins settled sizes world twin)
    (implies : ∀ size twinSize, sizes size twinSize → wider size twinSize) :
    Twins settled wider world twin :=
  ⟨twins.apart, twins.embedded, twins.refs, implies _ _ twins.size⟩

omit [DecidableEq α] in
theorem Twins.refsOf (twins : Twins settled sizes world twin) (key : ObjectKey) :
    twin.refsOf key = world.refsOf key := by
  unfold World.refsOf Dict.members
  rcases twins.refs key with same | ⟨_, missing, empty⟩
  · rw [same]
  · rw [missing, empty]
    rfl

omit [DecidableEq α] in
/-- What ignores the maps leaves them alone. -/
theorem maps_of_commutes {action : Action α β}
    (commutes : ∀ objToEmbedded embeddedRefs,
      Commutes (withMaps objToEmbedded embeddedRefs) action) (world : World α) :
    (exec action world).2.store.objToEmbedded = world.store.objToEmbedded ∧
      (exec action world).2.store.embeddedRefs = world.store.embeddedRefs := by
  have self := congrArg Prod.snd
    (commutes world.store.objToEmbedded world.store.embeddedRefs world)
  exact ⟨congrArg (fun world => world.store.objToEmbedded) self,
    congrArg (fun world => world.store.embeddedRefs) self⟩

omit [DecidableEq α] in
/-- What ignores the maps cannot tell twins apart. -/
theorem Twins.of_commutes {action : Action α β}
    (commutes : ∀ objToEmbedded embeddedRefs,
      Commutes (withMaps objToEmbedded embeddedRefs) action) :
    Simulates (Twins settled sizes) action action := by
  intro world twin twins
  have ran := commutes twin.store.objToEmbedded twin.store.embeddedRefs world
  rcases maps_of_commutes commutes world with ⟨sameEmbedded, sameRefs⟩
  rw [← twins.apart] at ran
  unfold Coupled
  rw [ran]
  refine ⟨rfl, rfl, fun key => ?_, fun key => ?_, ?_⟩
  · unfold World.embeddedOf
    rw [sameEmbedded]
    exact twins.embedded key
  · rw [sameRefs]
    exact twins.refs key
  · unfold World.embeddingSize
    rw [sameEmbedded]
    exact twins.size

omit [DecidableEq α] in
/-- Writing the same embedded objects on both sides. -/
theorem Twins.setEmbedded (twins : Twins settled sizes world twin)
    {wider : Nat → Nat → Prop} {left right : Dict ObjectKey (List ObjectKey)}
    (same : ∀ key, right.members key = left.members key)
    (size : wider left.entries.length right.entries.length) :
    Twins settled wider (world.setEmbedded left) (twin.setEmbedded right) where
  apart := by
    rw [twins.apart]
    rfl
  embedded := same
  refs := twins.refs
  size := size

omit [DecidableEq α] in
/-- Writing the same references under one key on both sides settles the key. -/
theorem Twins.setRefs (twins : Twins settled sizes world twin)
    (written : ObjectKey) {left right : Dict ObjectKey (List ObjectKey)}
    (same : right.lookup written = left.lookup written)
    (others : ∀ key, key ≠ written →
      left.lookup key = world.store.embeddedRefs.lookup key ∧
        right.lookup key = twin.store.embeddedRefs.lookup key) :
    Twins (fun key => settled key ∨ key = written) sizes
      (world.setRefs left) (twin.setRefs right) where
  apart := by
    rw [twins.apart]
    rfl
  embedded := twins.embedded
  refs key := by
    by_cases here : key = written
    · subst here
      exact Or.inl same
    · have unchanged := others key here
      change right.lookup key = left.lookup key ∨
        ¬(settled key ∨ key = written) ∧ right.lookup key = none ∧
          left.lookup key = some []
      rw [unchanged.1, unchanged.2]
      simpa [here] using twins.refs key
  size := twins.size

omit [DecidableEq α] in
theorem Twins.insertRefs (twins : Twins settled sizes world twin)
    (written : ObjectKey) (refs : List ObjectKey) :
    Twins (fun key => settled key ∨ key = written) sizes
      (world.setRefs (world.store.embeddedRefs.insert written refs))
      (twin.setRefs (twin.store.embeddedRefs.insert written refs)) :=
  twins.setRefs written (by simp) fun key other => by simp [other]

omit [DecidableEq α] in
theorem Twins.eraseRefs (twins : Twins settled sizes world twin)
    (written : ObjectKey) :
    Twins (fun key => settled key ∨ key = written) sizes
      (world.setRefs (world.store.embeddedRefs.erase written))
      (twin.setRefs (twin.store.embeddedRefs.erase written)) :=
  twins.setRefs written (by simp) fun key other => by simp [other]

omit [DecidableEq α] in
theorem Twins.unsettle {more : ObjectKey → Prop}
    (twins : Twins more sizes world twin)
    (implies : ∀ key, settled key → more key) : Twins settled sizes world twin where
  apart := twins.apart
  embedded := twins.embedded
  refs key := by
    rcases twins.refs key with same | ⟨notMore, missing, empty⟩
    · exact Or.inl same
    · exact Or.inr ⟨fun isSettled => notMore (implies key isSettled), missing, empty⟩
  size := twins.size

end World

/-! ## Operations on twins -/

namespace DbStore

open World

variable {settled : ObjectKey → Prop} {sizes : Nat → Nat → Prop}
  (order : SetOrder)

omit [DecidableEq α] in
theorem deleteEmbeddedWith_twins {delete twinDelete : ObjectKey → Action α Unit}
    (recursive : ∀ settled key,
      Simulates (Twins settled sizes) (delete key) (twinDelete key))
    (owner embedded : ObjectKey) :
    Simulates (Twins settled sizes) (deleteEmbeddedWith delete owner embedded)
      (deleteEmbeddedWith twinDelete owner embedded) := by
  intro world twin twins
  unfold deleteEmbeddedWith
  rw [coupled_get_bind, twins.refsOf embedded, coupled_set_bind]
  have forget {world twin : World α}
      (twins : Twins (fun key => settled key ∨ key = embedded) sizes world twin) :
      Twins settled sizes world twin :=
    twins.unsettle fun _ isSettled => Or.inl isSettled
  have written := twins.insertRefs embedded
    ((world.refsOf embedded).filter (· ≠ owner))
  split
  · refine (recursive _ embedded _ _ written).bind ?_ fun _ _ => forget
    intro _ after afterTwin twinsAfter
    rw [coupled_get_bind]
    have sameRefs : afterTwin.store.embeddedRefs.lookup embedded =
        after.store.embeddedRefs.lookup embedded := by
      rcases twinsAfter.refs embedded with same | ⟨unsettled, _⟩
      · exact same
      · exact absurd (Or.inr rfl) unsettled
    rw [sameRefs]
    cases after.store.embeddedRefs.lookup embedded with
    | none => exact coupled_throw.mpr (forget twinsAfter)
    | some refs =>
        rw [coupled_set]
        exact forget ((forget twinsAfter).eraseRefs embedded)
  · exact coupled_pure.mpr (forget written)

theorem deleteWithin_twins (bound twinBound : Nat) (settled : ObjectKey → Prop)
    (key : ObjectKey) :
    Simulates
      (Twins settled fun size twinSize => size ≤ bound ∧ twinSize ≤ twinBound)
      (deleteWithin order (bound + 1) key : Action α Unit)
      (deleteWithin order (twinBound + 1) key) := by
  induction bound using Nat.strong_induction_on
    generalizing twinBound settled key with
  | _ bound induction =>
      intro world twin twins
      unfold deleteWithin
      rw [coupled_get_bind, coupled_set_bind, twins.embedded key]
      have sameEmbedded (other : ObjectKey) :
          Dict.members (twin.store.objToEmbedded.erase key) other =
            Dict.members (world.store.objToEmbedded.erase key) other := by
        rw [Dict.members_erase, Dict.members_erase]
        split
        · rfl
        · exact twins.embedded other
      have looped : Coupled
          (Twins settled fun size twinSize => size ≤ bound ∧ twinSize ≤ twinBound)
          (forM (order.walk (world.embeddedOf key))
            (deleteEmbeddedWith (deleteWithin order bound) key))
          (forM (order.walk (world.embeddedOf key))
            (deleteEmbeddedWith (deleteWithin order twinBound) key))
          (world.setEmbedded (world.store.objToEmbedded.erase key))
          (twin.setEmbedded (twin.store.objToEmbedded.erase key)) := by
        cases embeds : world.embeddedOf key with
        | nil =>
            rw [(order.perm []).eq_nil]
            refine coupled_pure.mpr (twins.setEmbedded sameEmbedded ?_)
            exact ⟨(Dict.length_erase_le _ key).trans twins.size.1,
              (Dict.length_erase_le _ key).trans twins.size.2⟩
        | cons first rest =>
            -- The popped entry was there, so the recursive calls have one
            -- entry less to look at.
            have member : first ∈ world.embeddedOf key := by simp [embeds]
            have twinMember : first ∈ twin.embeddedOf key := by
              rw [twins.embedded]
              exact member
            rcases Dict.lookup_of_mem_members member with ⟨_, found⟩
            rcases Dict.lookup_of_mem_members twinMember with ⟨_, twinFound⟩
            have smaller := (Dict.length_erase_lt found).trans_le twins.size.1
            have twinSmaller :=
              (Dict.length_erase_lt twinFound).trans_le twins.size.2
            obtain ⟨less, rfl⟩ := Nat.exists_eq_add_one_of_ne_zero
              (Nat.ne_zero_of_lt smaller)
            obtain ⟨twinLess, rfl⟩ := Nat.exists_eq_add_one_of_ne_zero
              (Nat.ne_zero_of_lt twinSmaller)
            have erased : Twins settled
                (fun size twinSize => size ≤ less ∧ twinSize ≤ twinLess)
                (world.setEmbedded (world.store.objToEmbedded.erase key))
                (twin.setEmbedded (twin.store.objToEmbedded.erase key)) :=
              twins.setEmbedded sameEmbedded
                ⟨Nat.le_of_lt_succ smaller, Nat.le_of_lt_succ twinSmaller⟩
            refine (Simulates.loop _ (fun embedded _ =>
              deleteEmbeddedWith_twins (fun settled other =>
                induction less (Nat.lt_succ_self less) twinLess settled other)
              key embedded) _ _ erased).mono ?_
            intro after afterTwin twinsAfter
            exact twinsAfter.mono fun _ _ size => ⟨by omega, by omega⟩
      refine looped.bind ?_ fun _ _ twinsAfter => twinsAfter
      intro _ after afterTwin twinsAfter
      exact Simulates.bind
        (Twins.of_commutes fun _ _ => getCache_commutes _ _ key.1)
        (fun _ => Twins.of_commutes fun _ _ => ModelCache.delete_commutes _ _ key)
        after afterTwin twinsAfter

/-- Twins of any size. -/
abbrev AnyTwins (settled : ObjectKey → Prop) (world twin : World α) : Prop :=
  Twins settled (fun _ _ => True) world twin

theorem deleteKey_twins (settled : ObjectKey → Prop) (key : ObjectKey) :
    Simulates (AnyTwins settled) (deleteKey order key : Action α Unit)
      (deleteKey order key) := by
  intro world twin twins
  unfold deleteKey
  rw [coupled_get_bind]
  have bounded : Twins settled (fun size twinSize =>
      size ≤ world.embeddingSize ∧ twinSize ≤ twin.embeddingSize) world twin :=
    ⟨twins.apart, twins.embedded, twins.refs, le_refl _, le_refl _⟩
  exact (deleteWithin_twins order _ _ settled key world twin bounded).mono
    fun _ _ twinsAfter => twinsAfter.mono fun _ _ _ => trivial

omit [DecidableEq α] in
theorem insertEmbedded_twins {world twin : World α}
    (twins : AnyTwins settled world twin) (key : ObjectKey)
    (embedded : List ObjectKey) :
    AnyTwins settled
      (world.setEmbedded (world.store.objToEmbedded.insert key embedded))
      (twin.setEmbedded (twin.store.objToEmbedded.insert key embedded)) := by
  refine twins.setEmbedded (fun other => ?_) trivial
  rw [Dict.members_insert, Dict.members_insert]
  split
  · rfl
  · exact twins.embedded other

theorem dropEmbedded_twins (object : Object α) :
    Simulates (AnyTwins settled) (dropEmbedded order object)
      (dropEmbedded order object) := by
  intro world twin twins
  unfold dropEmbedded
  rw [coupled_get_bind, twins.embedded object.key, coupled_set_bind]
  refine Simulates.bind (Simulates.loop _ fun embedded _ => ?_)
    (fun _ => Simulates.modify fun world twin twins =>
      insertEmbedded_twins twins object.key _) _ _
    (insertEmbedded_twins twins object.key _)
  exact deleteEmbeddedWith_twins (deleteKey_twins order) object.key embedded

omit [DecidableEq α] in
theorem addRef_twins (owner embedded : ObjectKey) :
    Simulates (AnyTwins settled) (addRef owner embedded : Action α Unit)
      (addRef owner embedded) := by
  refine Simulates.modify fun world twin twins => ?_
  rw [twins.refsOf embedded]
  exact (twins.insertRefs embedded _).unsettle fun _ isSettled => Or.inl isSettled

theorem updateWithin_twins (fuel : Nat) (object : Object α) :
    Simulates (AnyTwins settled) (updateWithin order fuel object)
      (updateWithin order fuel object) := by
  induction fuel generalizing object with
  | zero => exact Simulates.throw _
  | succ fuel induction =>
      refine Simulates.bind
        (Twins.of_commutes fun _ _ => getCache_commutes _ _ _) fun _ =>
        Simulates.bind
          (Twins.of_commutes fun _ _ => ModelCache.update_commutes _ _ object)
          fun _ => Simulates.bind (Simulates.loop _ fun embedded _ => ?_)
            fun _ => dropEmbedded_twins order object
      exact Simulates.bind (induction embedded) fun _ => addRef_twins _ _

theorem clear_commutes (objToEmbedded embeddedRefs : Dict ObjectKey (List ObjectKey)) :
    Commutes (World.withMaps objToEmbedded embeddedRefs)
      (clear : Action α Unit) := by
  refine Commutes.get_bind fun world => ?_
  have loops : Commutes (World.withMaps objToEmbedded embeddedRefs)
      (forM world.store.cache.entries fun entry =>
        clearCache entry.1 (entry.2.objs.entries.map Sigma.snd)) :=
    Commutes.loop _ fun entry _ => Commutes.loop _ fun object _ =>
      ModelCache.delete_commutes _ _ _
  have forgets : Commutes (World.withMaps objToEmbedded embeddedRefs)
      (modify forgetCaches : Action α Unit) :=
    Commutes.modify fun _ => rfl
  exact loops.bind (fun _ => forgets) world

end DbStore

theorem Call.run_twins (order : SetOrder) (settled : ObjectKey → Prop)
    (call : Call α) :
    Simulates (DbStore.AnyTwins settled) (call.run order) (call.run order) := by
  cases call with
  | update object =>
      exact Simulates.bind (DbStore.updateWithin_twins order _ object) fun _ =>
        Simulates.pure _
  | delete object =>
      exact Simulates.bind (DbStore.deleteKey_twins order settled _) fun _ =>
        Simulates.pure _
  | clear =>
      exact Simulates.bind (World.Twins.of_commutes DbStore.clear_commutes)
        fun _ => Simulates.pure _
  | getOne object index =>
      exact World.Twins.of_commutes fun _ _ => Commutes.bind (Commutes.bind
        (getCache_commutes _ _ _) fun _ =>
          ModelCache.getOne_commutes _ _ object index) fun _ => Commutes.pure _
  | getAll object index =>
      exact World.Twins.of_commutes fun _ _ => Commutes.bind (Commutes.bind
        (getCache_commutes _ _ _) fun _ => Commutes.bind
          (ModelCache.getKeys_commutes _ _ object index) fun _ =>
          ModelCache.getByIds_commutes _ _ _ _) fun _ => Commutes.pure _
  | getKeys object index =>
      exact World.Twins.of_commutes fun _ _ => Commutes.bind (Commutes.bind
        (getCache_commutes _ _ _) fun _ =>
          ModelCache.getKeys_commutes _ _ object index) fun _ => Commutes.pure _
  | createProxy proxy isLazy =>
      refine World.Twins.of_commutes fun _ _ => Commutes.bind (Commutes.bind
        (Commutes.modify fun _ => rfl) fun _ => ?_) fun _ => Commutes.pure _
      split
      · exact Commutes.pure _
      · exact Commutes.bind (proxy.getObject_commutes _ _) fun _ =>
          Commutes.pure _
  | getObject proxy =>
      exact World.Twins.of_commutes fun _ _ => Commutes.bind
        (proxy.getObject_commutes _ _) fun _ => Commutes.pure _

/-! ## The cleared store -/

/-- Nothing is left in the two maps but empty sets. -/
def World.EmbedsNothing (world : World α) : Prop :=
  ∀ key, world.embeddedOf key = [] ∧ world.refsOf key = []

/-- The same proxies and flags, around a newly constructed store. -/
def World.withNewStore (world : World α) : World α :=
  { world with store := DbStore.new }

theorem DbStore.clear_exec {world : World α} (removable : world.Removable) :
    (exec (DbStore.clear : Action α Unit) world).1 = .ok () ∧
      (exec (DbStore.clear : Action α Unit) world).2.store =
        { world.store with cache := ∅ } := by
  have leads : Leads (DbStore.clear : Action α Unit) world
      (fun _ after => after.store.cache = ∅) (fun _ _ => False) := by
    refine (DbStore.clear_returns removable).mono ?_
      fun _ _ impossible => impossible
    rintro _ after ⟨middle, _, rfl⟩
    rfl
  have maps := World.maps_of_commutes DbStore.clear_commutes world
  unfold Leads at leads
  rcases executed : exec (DbStore.clear : Action α Unit) world with
    ⟨error | value, after⟩
  · rw [executed] at leads
    exact leads.elim
  · rw [executed] at leads maps
    rcases after with ⟨⟨cache, objToEmbedded, embeddedRefs⟩, stale, fetched, history⟩
    cases leads
    cases maps.1
    cases maps.2
    exact ⟨rfl, rfl⟩

/-- A store that embeds nothing is as good as new once it is cleared: nobody can
tell the difference, whatever is called afterwards. -/
theorem DbStore.clear_as_new (order : SetOrder) (stale : Address → Bool)
    (calls : List (Call α)) (world : World α)
    (reached : (trace (Call.run order) calls (World.initial stale)).2 = world)
    (nothing : world.EmbedsNothing) :
    (exec (DbStore.clear : Action α Unit) world).1 = .ok () ∧
      ∀ further : List (Call α),
        (trace (Call.run order) further (exec DbStore.clear world).2).1 =
          (trace (Call.run order) further
            (exec DbStore.clear world).2.withNewStore).1 := by
  have removable : world.Removable := by
    rw [← reached]
    exact trace_invariant calls
      (fun call _ => Call.run_removable order call) _
      (World.removable_initial stale)
  rcases DbStore.clear_exec removable with ⟨returned, cleared⟩
  refine ⟨returned, fun further => ?_⟩
  have twins : DbStore.AnyTwins (fun _ => False) (exec DbStore.clear world).2
      (exec DbStore.clear world).2.withNewStore := by
    constructor
    · unfold World.withNewStore World.withMaps World.setEmbedded World.setRefs
      rw [cleared]
      rfl
    · intro key
      unfold World.embeddedOf
      rw [cleared]
      exact (nothing key).1.symm
    · intro key
      rw [cleared]
      cases found : world.store.embeddedRefs.lookup key with
      | none => exact Or.inl rfl
      | some refs =>
          have empty := (nothing key).2
          unfold World.refsOf Dict.members at empty
          rw [found] at empty
          exact Or.inr ⟨fun settled => settled, rfl, congrArg some empty⟩
    · trivial
  exact trace_simulates further
    (fun call _ => Call.run_twins order (fun _ => False) call) twins

/-- A security group that has lost its rules again. -/
def ruleComesAndGoes : List (Call Unit) :=
  [.update (Models.group 0 "g" [Models.rule 1 "r"]),
    .update (Models.group 2 "g" [])]

theorem DbStore.clear_as_new_without_rules :
    let world := (trace (Call.run .insertion) ruleComesAndGoes
      (World.initial fun _ => false)).2
    (exec (DbStore.clear : Action Unit Unit) world).1 = .ok () ∧
      ∀ further : List (Call Unit),
        (trace (Call.run .insertion) further (exec DbStore.clear world).2).1 =
          (trace (Call.run .insertion) further
            (exec DbStore.clear world).2.withNewStore).1 := by
  intro world
  have nothing : world.EmbedsNothing := fun key =>
    ⟨Dict.members_eq_nil (by decide +kernel) key,
      Dict.members_eq_nil (by decide +kernel) key⟩
  exact DbStore.clear_as_new .insertion (fun _ => false) ruleComesAndGoes world
    rfl nothing

/-- A group with one rule is stored, the store is cleared, and the group comes
back without its rule: the cleared store raises where a new one would not. -/
theorem DbStore.clear_not_as_new :
    let world := (trace (Call.run .insertion)
      [.update (Models.group 0 "g" [Models.rule 1 "r"])]
      (World.initial fun _ => false)).2
    let further : List (Call Unit) := [.update (Models.group 2 "g" [])]
    (trace (Call.run .insertion) further (exec DbStore.clear world).2).1 =
        [.error .keyError] ∧
      (trace (Call.run .insertion) further
        (exec DbStore.clear world).2.withNewStore).1 = [.ok .unit] := by
  decide +kernel

end Dragonflow

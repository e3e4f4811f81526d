import Mathlib.Order.Lattice
import Mathlib.Data.List.Induction

/-! # A cache that only takes newer versions

Items are offered in any order and any number of times. The gate keeps the
newest one, and announces every item that it lets in.
-/

namespace Dragonflow

inductive Announcement (β : Type u)
  | created (item : β)
  | updated (item original : β)
  | deleted (item : β)
  deriving DecidableEq, Repr

def Announcement.item : Announcement β → β
  | .created item => item
  | .updated item _ => item
  | .deleted item => item

structure VersionGate (β : Type u) where
  cached : Option β
  announced : List (Announcement β)

namespace VersionGate

variable {β : Type u} {ν : Type v} [LinearOrder ν]

def new : VersionGate β := ⟨none, []⟩

/-- The first item is let in, and after that whatever is newer than the item
that is cached. -/
def offer (version : β → ν) (gate : VersionGate β) (item : β) : VersionGate β :=
  match gate.cached with
  | none => ⟨some item, gate.announced ++ [.created item]⟩
  | some original =>
      if version original < version item then
        ⟨some item, gate.announced ++ [.updated item original]⟩
      else gate

def offers (version : β → ν) (items : List β) : VersionGate β :=
  items.foldl (offer version) new

variable {version : β → ν}

theorem offers_append_singleton (items : List β) (item : β) :
    offers version (items ++ [item]) = (offers version items).offer version item := by
  simp [offers]

/-- What is announced gets newer and newer, up to the cached item. -/
structure Ordered (version : β → ν) (gate : VersionGate β) : Prop where
  increasing : gate.announced.Pairwise fun earlier later =>
    version earlier.item < version later.item
  cached : ∀ announcement ∈ gate.announced, ∃ newest, gate.cached = some newest ∧
    version announcement.item ≤ version newest

theorem ordered_new : Ordered version (new : VersionGate β) :=
  ⟨List.Pairwise.nil, fun _ impossible => by cases impossible⟩

/-- Announcing an item that is newer than all before keeps the order. -/
theorem Ordered.announce {gate : VersionGate β} (ordered : gate.Ordered version)
    (announcement : Announcement β)
    (newer : ∀ cached, gate.cached = some cached →
      version cached < version announcement.item) :
    Ordered version ⟨some announcement.item,
      gate.announced ++ [announcement]⟩ := by
  have older : ∀ earlier ∈ gate.announced,
      version earlier.item < version announcement.item := by
    intro earlier member
    rcases ordered.cached earlier member with ⟨newest, isCached, atMost⟩
    exact atMost.trans_lt (newer newest isCached)
  constructor
  · rw [List.pairwise_append]
    refine ⟨ordered.increasing, List.pairwise_singleton _ _, ?_⟩
    intro earlier member later isLast
    rw [List.mem_singleton.mp isLast]
    exact older earlier member
  · intro earlier member
    refine ⟨announcement.item, rfl, ?_⟩
    rcases List.mem_append.mp member with old | isLast
    · exact (older earlier old).le
    · rw [List.mem_singleton.mp isLast]

theorem Ordered.offer {gate : VersionGate β} (ordered : gate.Ordered version)
    (item : β) : (gate.offer version item).Ordered version := by
  unfold VersionGate.offer
  split
  · next absent =>
      refine ordered.announce (.created item) ?_
      intro cached isCached
      rw [absent] at isCached
      cases isCached
  · next original isCached =>
      split
      · next newer =>
          refine ordered.announce (.updated item original) ?_
          intro cached sameCached
          rw [isCached] at sameCached
          cases sameCached
          exact newer
      · exact ordered

theorem offers_ordered (version : β → ν) (items : List β) :
    (offers version items).Ordered version := by
  induction items using List.reverseRecOn with
  | nil => exact ordered_new
  | append_singleton items item induction =>
      rw [offers_append_singleton]
      exact induction.offer item

/-- The cached item is the newest of those that were offered. -/
theorem offers_cached (version : β → ν) (items : List β) (nonempty : items ≠ []) :
    ∃ newest ∈ items, (offers version items).cached = some newest ∧
      ∀ other ∈ items, version other ≤ version newest := by
  induction items using List.reverseRecOn with
  | nil => exact absurd rfl nonempty
  | append_singleton items item induction =>
      rw [offers_append_singleton]
      by_cases first : items = []
      · subst first
        exact ⟨item, by simp, rfl, by simp⟩
      · rcases induction first with ⟨newest, member, isCached, largest⟩
        unfold VersionGate.offer
        rw [isCached]
        by_cases newer : version newest < version item
        · refine ⟨item, by simp, by simp [newer], ?_⟩
          intro other otherMember
          rcases List.mem_append.mp otherMember with old | isLast
          · exact (largest other old).trans newer.le
          · rw [List.mem_singleton.mp isLast]
        · refine ⟨newest, by simp [member], by simp [newer, isCached], ?_⟩
          intro other otherMember
          rcases List.mem_append.mp otherMember with old | isLast
          · exact largest other old
          · rw [List.mem_singleton.mp isLast]
            exact le_of_not_gt newer

/-- One more item is either announced as an update of the cached one, or it
changes nothing. -/
theorem offer_announced (version : β → ν) (gate : VersionGate β) {original : β}
    (isCached : gate.cached = some original) (item : β) :
    gate.offer version item = gate ∨
      (gate.offer version item).announced =
        gate.announced ++ [.updated item original] := by
  unfold VersionGate.offer
  rw [isCached]
  by_cases newer : version original < version item
  · exact Or.inr (by simp [newer])
  · exact Or.inl (by simp [newer])

end VersionGate

end Dragonflow

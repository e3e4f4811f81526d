import Dragonflow.Foundation.Dict
import Mathlib.Data.List.Perm.Basic

/-! # Maps in a flat space of names

A server keeps texts under names. A client keeps a map there by giving each entry a name
that is made from its key and from the entry itself. As long as the names are distinct,
the two tell the same.
-/

namespace Dragonflow

/-- The store holds the contents of the map, under the names of its entries. -/
structure Flattens {κ ν ω : Type} [DecidableEq κ] (name : κ → ν → String) (content : ν → ω)
    (store : Dict String ω) (map : Dict κ ν) : Prop where
  stored : ∀ text value, store.lookup text = some value ↔
    ∃ key entry, map.lookup key = some entry ∧ name key entry = text ∧
      content entry = value
  apart : ∀ key other entry otherEntry, map.lookup key = some entry →
    map.lookup other = some otherEntry → name key entry = name other otherEntry →
    key = other

namespace Flattens

variable {κ ν ω : Type} [DecidableEq κ] {name : κ → ν → String} {content : ν → ω}
variable {store : Dict String ω} {map : Dict κ ν} {key : κ} {entry : ν}

theorem empty : Flattens name content (∅ : Dict String ω) (∅ : Dict κ ν) where
  stored text value := by
    constructor
    · intro found
      cases found
    · rintro ⟨_, _, found, _⟩
      cases found
  apart _ _ _ _ found := nomatch found

theorem lookup (flattens : Flattens name content store map)
    (found : map.lookup key = some entry) :
    store.lookup (name key entry) = some (content entry) :=
  (flattens.stored _ _).mpr ⟨key, entry, found, rfl, rfl⟩

/-- A name that no entry has is not in the store. -/
theorem lookup_none (flattens : Flattens name content store map) {text : String}
    (isFree : ∀ other otherEntry, map.lookup other = some otherEntry →
      name other otherEntry ≠ text) : store.lookup text = none := by
  cases found : store.lookup text with
  | none => rfl
  | some value =>
      rcases (flattens.stored text value).mp found with ⟨other, otherEntry, isEntry, same, _⟩
      exact absurd same (isFree other otherEntry isEntry)

/-- Write an entry. Its name is the one it had before, and no other entry has it. -/
theorem insert (flattens : Flattens name content store map)
    (keepsName : ∀ old, map.lookup key = some old → name key old = name key entry)
    (isFree : ∀ other otherEntry, other ≠ key → map.lookup other = some otherEntry →
      name other otherEntry ≠ name key entry) :
    Flattens name content (store.insert (name key entry) (content entry))
      (map.insert key entry) where
  stored text value := by
    simp only [Dict.lookup_insert_eq]
    split
    · next same =>
        constructor
        · intro isValue
          exact ⟨key, entry, if_pos rfl, same.symm, Option.some.inj isValue⟩
        · rintro ⟨other, otherEntry, found, isText, isValue⟩
          split at found
          · rw [← isValue, ← Option.some.inj found]
          · next different =>
              rw [same] at isText
              exact absurd isText (isFree other otherEntry different found)
    · next isOther =>
        rw [flattens.stored text value]
        constructor
        · rintro ⟨other, otherEntry, found, isText, isValue⟩
          refine ⟨other, otherEntry, ?_, isText, isValue⟩
          split
          · next same =>
              rw [same] at found isText
              rw [← isText, keepsName otherEntry found] at isOther
              exact absurd rfl isOther
          · exact found
        · rintro ⟨other, otherEntry, found, isText, isValue⟩
          split at found
          · next same =>
              rw [same, ← Option.some.inj found] at isText
              exact absurd isText.symm isOther
          · exact ⟨other, otherEntry, found, isText, isValue⟩
  apart first second firstEntry secondEntry found foundToo same := by
    rw [Dict.lookup_insert_eq] at found foundToo
    split at found <;> split at foundToo
    · next isFirst isSecond => rw [isFirst, isSecond]
    · next isFirst isSecond =>
        rw [isFirst, ← Option.some.inj found] at same
        exact absurd same.symm (isFree second secondEntry isSecond foundToo)
    · next isFirst isSecond =>
        rw [isSecond, ← Option.some.inj foundToo] at same
        exact absurd same (isFree first firstEntry isFirst found)
    · exact flattens.apart first second firstEntry secondEntry found foundToo same

theorem erase (flattens : Flattens name content store map)
    (found : map.lookup key = some entry) :
    Flattens name content (store.erase (name key entry)) (map.erase key) where
  stored text value := by
    simp only [Dict.lookup_erase_eq]
    split
    · next same =>
        constructor
        · intro impossible
          cases impossible
        · rintro ⟨other, otherEntry, foundOther, isText, _⟩
          split at foundOther
          · cases foundOther
          · next different =>
              rw [same] at isText
              exact absurd (flattens.apart _ _ _ _ foundOther found isText) different
    · next isOther =>
        rw [flattens.stored text value]
        constructor
        · rintro ⟨other, otherEntry, foundOther, isText, isValue⟩
          refine ⟨other, otherEntry, ?_, isText, isValue⟩
          split
          · next same =>
              rw [same, found, Option.some.injEq] at foundOther
              rw [← isText, same, ← foundOther] at isOther
              exact absurd rfl isOther
          · exact foundOther
        · rintro ⟨other, otherEntry, foundOther, isText, isValue⟩
          split at foundOther
          · cases foundOther
          · exact ⟨other, otherEntry, foundOther, isText, isValue⟩
  apart first second firstEntry secondEntry foundFirst foundSecond same := by
    rw [Dict.lookup_erase_eq] at foundFirst foundSecond
    split at foundFirst
    · cases foundFirst
    · split at foundSecond
      · cases foundSecond
      · exact flattens.apart first second firstEntry secondEntry foundFirst foundSecond same

/-- The entries of the store, read off the map. -/
theorem perm (flattens : Flattens name content store map) :
    store.entries.Perm (map.entries.map fun item =>
      (⟨name item.1 item.2, content item.2⟩ : (_ : String) × ω)) := by
  have storeDistinct : store.entries.Nodup := List.NodupKeys.nodup store.nodupKeys
  have mapDistinct : map.entries.Nodup := List.NodupKeys.nodup map.nodupKeys
  apply (List.perm_ext_iff_of_nodup storeDistinct ?_).mpr
  · rintro ⟨text, value⟩
    rw [← AList.mem_lookup_iff, Option.mem_def, flattens.stored text value, List.mem_map]
    constructor
    · rintro ⟨key, entry, found, rfl, rfl⟩
      exact ⟨⟨key, entry⟩, AList.mem_lookup_iff.mp found, rfl⟩
    · rintro ⟨⟨key, entry⟩, member, same⟩
      cases same
      exact ⟨key, entry, AList.mem_lookup_iff.mpr member, rfl, rfl⟩
  · rw [List.nodup_map_iff_inj_on mapDistinct]
    rintro ⟨key, entry⟩ member ⟨other, otherEntry⟩ otherMember same
    have found : map.lookup key = some entry := AList.mem_lookup_iff.mpr member
    have foundOther : map.lookup other = some otherEntry :=
      AList.mem_lookup_iff.mpr otherMember
    have sameName : name key entry = name other otherEntry := congrArg Sigma.fst same
    have sameKey := flattens.apart key other entry otherEntry found foundOther sameName
    rw [sameKey, foundOther, Option.some.injEq] at found
    rw [sameKey, found]

/-- A query over the names, read off the map. -/
theorem query (flattens : Flattens name content store map) {β : Type}
    (matches_ : String → Bool) (result : (_ : String) × ω → β) :
    ((store.entries.filter fun item => matches_ item.1).map result).Perm
      ((map.entries.filter fun item => matches_ (name item.1 item.2)).map fun item =>
        result ⟨name item.1 item.2, content item.2⟩) := by
  have filtered := (flattens.perm.filter fun item => matches_ item.1).map result
  rw [List.filter_map, List.map_map] at filtered
  exact filtered

end Flattens

end Dragonflow

import Mathlib.Data.List.AList

/-! # Dictionaries

Python dictionaries as association lists without repeated keys. The order of
the entries carries no meaning.
-/

namespace Dragonflow

abbrev Dict (κ ν : Type) := AList fun _ : κ => ν

namespace Dict

variable {κ ν : Type} [DecidableEq κ]

theorem lookup_insert_eq (dict : Dict κ ν) (key other : κ) (value : ν) :
    (dict.insert key value).lookup other =
      if other = key then some value else dict.lookup other := by
  split
  · next same => subst same; exact AList.lookup_insert _
  · next different => exact AList.lookup_insert_ne different

theorem lookup_erase_eq (dict : Dict κ ν) (key other : κ) :
    (dict.erase key).lookup other =
      if other = key then none else dict.lookup other := by
  split
  · next same => subst same; exact AList.lookup_erase _ _
  · next different => exact AList.lookup_erase_ne different

theorem mem_values_iff (dict : Dict κ ν) (value : ν) :
    value ∈ dict.entries.map Sigma.snd ↔ ∃ key, dict.lookup key = some value := by
  constructor
  · intro member
    rcases List.mem_map.mp member with ⟨⟨key, found⟩, entry, rfl⟩
    exact ⟨key, AList.mem_lookup_iff.mpr entry⟩
  · rintro ⟨key, found⟩
    exact List.mem_map.mpr ⟨⟨key, value⟩, AList.mem_lookup_iff.mp found, rfl⟩

/-- The values are distinct if no value stands for two keys. -/
theorem nodup_values_iff (dict : Dict κ ν) :
    (dict.entries.map Sigma.snd).Nodup ↔
      ∀ key other value, dict.lookup key = some value →
        dict.lookup other = some value → key = other := by
  have distinct : dict.entries.Nodup := List.NodupKeys.nodup dict.nodupKeys
  rw [List.nodup_map_iff_inj_on distinct]
  constructor
  · intro injective key other value found foundToo
    have same := injective ⟨key, value⟩ (AList.mem_lookup_iff.mp found)
      ⟨other, value⟩ (AList.mem_lookup_iff.mp foundToo) rfl
    exact congrArg Sigma.fst same
  · rintro oneToOne ⟨key, value⟩ member ⟨other, otherValue⟩ otherMember same
    have sameValue : value = otherValue := same
    rw [← sameValue] at otherMember ⊢
    rw [oneToOne key other value (AList.mem_lookup_iff.mpr member)
      (AList.mem_lookup_iff.mpr otherMember)]

theorem mem_keys_iff (dict : Dict κ ν) (key : κ) :
    key ∈ dict.keys ↔ ∃ value, dict.lookup key = some value := by
  rw [← AList.mem_keys, ← AList.lookup_isSome, Option.isSome_iff_exists]

theorem filter_key_of_none {dict : Dict κ ν} {key : κ}
    (absent : dict.lookup key = none) :
    (dict.entries.filter fun item => item.1 = key) = [] := by
  rw [List.filter_eq_nil_iff]
  rintro ⟨other, value⟩ member same
  have found : dict.lookup other = some value := AList.mem_lookup_iff.mpr member
  have sameKey : other = key := of_decide_eq_true same
  rw [sameKey, absent] at found
  cases found

theorem filter_key_of_some {dict : Dict κ ν} {key : κ} {value : ν}
    (present : dict.lookup key = some value) :
    (dict.entries.filter fun item => item.1 = key) = [⟨key, value⟩] := by
  have distinct : dict.entries.Nodup := List.NodupKeys.nodup dict.nodupKeys
  apply List.perm_singleton.mp
  apply (List.perm_ext_iff_of_nodup (distinct.filter _) (List.nodup_singleton _)).mpr
  rintro ⟨other, otherValue⟩
  rw [List.mem_filter, List.mem_singleton, ← AList.mem_lookup_iff, Option.mem_def]
  constructor
  · rintro ⟨found, same⟩
    have sameKey : other = key := of_decide_eq_true same
    subst sameKey
    rw [present, Option.some.injEq] at found
    rw [found]
  · intro same
    cases same
    exact ⟨present, decide_eq_true rfl⟩

theorem length_erase_le (dict : Dict κ ν) (key : κ) :
    (dict.erase key).entries.length ≤ dict.entries.length :=
  (List.kerase_sublist key dict.entries).length_le

theorem length_erase_lt {dict : Dict κ ν} {key : κ} {value : ν}
    (found : dict.lookup key = some value) :
    (dict.erase key).entries.length < dict.entries.length := by
  have present : key ∈ dict.entries.keys :=
    (mem_keys_iff dict key).mpr ⟨value, found⟩
  have lengths : ∀ entries : List ((_ : κ) × ν),
      entries.length = entries.keys.length := by simp [List.keys]
  have positive := List.length_pos_of_mem present
  change (dict.entries.kerase key).length < _
  rw [lengths, lengths dict.entries, List.keys_kerase,
    List.length_erase_of_mem present]
  omega

/-! ## Dictionaries of sets

A `defaultdict(set)`: a key that is not there reads as the empty set. A set is
a list that is only ever asked for membership and emptiness. -/

def members {μ : Type} (dict : Dict κ (List μ)) (key : κ) : List μ :=
  (dict.lookup key).getD []

variable {μ : Type}

@[simp] theorem members_empty (key : κ) :
    members (∅ : Dict κ (List μ)) key = [] := rfl

/-- Whether all sets are empty can be read off the entries. -/
theorem members_eq_nil {dict : Dict κ (List μ)}
    (empty : ∀ entry ∈ dict.entries, entry.2 = []) (key : κ) :
    members dict key = [] := by
  unfold members
  cases found : dict.lookup key with
  | none => rfl
  | some values => exact empty ⟨key, values⟩ (AList.mem_lookup_iff.mp found)

theorem members_insert (dict : Dict κ (List μ)) (key other : κ)
    (values : List μ) :
    members (dict.insert key values) other =
      if other = key then values else members dict other := by
  unfold members
  rw [lookup_insert_eq]
  split <;> rfl

theorem lookup_of_mem_members {dict : Dict κ (List μ)} {key : κ} {value : μ}
    (member : value ∈ members dict key) :
    ∃ values, dict.lookup key = some values := by
  unfold members at member
  cases found : dict.lookup key with
  | none =>
      rw [found] at member
      cases member
  | some values => exact ⟨values, rfl⟩

theorem members_erase (dict : Dict κ (List μ)) (key other : κ) :
    members (dict.erase key) other =
      if other = key then [] else members dict other := by
  unfold members
  rw [lookup_erase_eq]
  split <;> rfl

end Dict

end Dragonflow

import Dragonflow.Controller.Apps.SecurityGroups
import Dragonflow.Foundation.Ledger

/-! # The address book of security groups

The two dictionaries in which the application keeps the addresses of groups are
a ledger: a port that joins a group brings its addresses, and a port that leaves
it takes them away.
-/

namespace Dragonflow
namespace SGApp

/-! ## What the address book tells -/

section ReadSet

variable {κ μ : Type} [DecidableEq κ]

theorem readSet_insert (dict : Dict κ (Finset μ)) (key other : κ) (values : Finset μ) :
    readSet (dict.insert key values) other =
      if other = key then values else readSet dict other := by
  unfold readSet
  rw [Dict.lookup_insert_eq]
  split <;> rfl

theorem readSet_erase (dict : Dict κ (Finset μ)) (key other : κ) :
    readSet (dict.erase key) other =
      if other = key then ∅ else readSet dict other := by
  unfold readSet
  rw [Dict.lookup_erase_eq]
  split <;> rfl

end ReadSet

namespace AddressBook

/-- Groups get addresses from ports. -/
def ledger (book : AddressBook) : Ledger Id Id IPAddress where
  holders := fun secgroup ip => readSet book.secgroupIpRefs (secgroup, ip)
  items := readSet book.secgroupAggregateAddresses

/-- A check that looks at the ports which hold an address, and that changes
these alone. -/
structure Checks (secgroup : Id) (test : Finset Id → Bool)
    (write : Finset Id → Finset Id)
    (check : IPAddress → AddressBook → Bool × AddressBook) : Prop where
  result : ∀ ip book,
    (check ip book).1 = test (readSet book.secgroupIpRefs (secgroup, ip))
  refs : ∀ ip book key, readSet (check ip book).2.secgroupIpRefs key =
    if key = (secgroup, ip) then write (readSet book.secgroupIpRefs key)
    else readSet book.secgroupIpRefs key
  aggregate : ∀ ip book, (check ip book).2.secgroupAggregateAddresses =
    book.secgroupAggregateAddresses

theorem checks_inc (secgroup lport : Id) :
    Checks secgroup (fun holders => decide (holders = ∅)) (insert lport)
      (fun ip => incIpReferenceAndCheck secgroup ip lport) where
  result := fun _ _ => rfl
  refs := by
    intro ip book key
    rw [incIpReferenceAndCheck, readSet_insert]
    split
    · next same => rw [same]
    · rfl
  aggregate := fun _ _ => rfl

theorem checks_dec (secgroup lport : Id) :
    Checks secgroup (fun holders => decide (lport ∈ holders ∧ holders.erase lport = ∅))
      (fun holders => holders.erase lport)
      (fun ip => decIpReferenceAndCheck secgroup ip lport) where
  result := by
    intro ip book
    unfold decIpReferenceAndCheck readSet
    cases book.secgroupIpRefs.lookup (secgroup, ip) with
    | none => simp
    | some holders =>
        by_cases member : lport ∈ holders
        · by_cases emptied : holders.erase lport = ∅ <;> simp [member, emptied]
        · simp [member]
  refs := by
    intro ip book key
    have unchanged : lport ∉ readSet book.secgroupIpRefs (secgroup, ip) →
        readSet book.secgroupIpRefs key =
          if key = (secgroup, ip) then (readSet book.secgroupIpRefs key).erase lport
          else readSet book.secgroupIpRefs key := by
      intro absent
      split
      · next same =>
          rw [same, Finset.erase_eq_of_notMem absent]
      · rfl
    unfold decIpReferenceAndCheck
    split
    · next missing => exact unchanged (by simp [readSet, missing])
    · next holders found =>
        have reads : readSet book.secgroupIpRefs (secgroup, ip) = holders := by
          simp [readSet, found]
        split
        · split
          · next emptied =>
              rw [readSet_erase]
              split
              · next same => rw [same, reads, emptied]
              · rfl
          · rw [readSet_insert]
            split
            · next same => rw [same, reads]
            · rfl
        · next absent => exact unchanged (by rwa [reads])
  aggregate := by
    intro ip book
    unfold decIpReferenceAndCheck
    split
    · rfl
    · split
      · split <;> rfl
      · rfl

/-- What walking over addresses leaves behind. -/
theorem Checks.filtered {secgroup : Id} {test : Finset Id → Bool}
    {write : Finset Id → Finset Id}
    {check : IPAddress → AddressBook → Bool × AddressBook}
    (checks : Checks secgroup test write check) {ips : List IPAddress}
    (distinct : ips.Nodup) (book : AddressBook) :
    (∀ ip, ip ∈ (filter check ips book).1 ↔
      ip ∈ ips ∧ test (readSet book.secgroupIpRefs (secgroup, ip)) = true) ∧
    (∀ group ip, readSet (filter check ips book).2.secgroupIpRefs (group, ip) =
      if group = secgroup ∧ ip ∈ ips then
        write (readSet book.secgroupIpRefs (group, ip))
      else readSet book.secgroupIpRefs (group, ip)) ∧
    (filter check ips book).2.secgroupAggregateAddresses =
      book.secgroupAggregateAddresses := by
  induction ips generalizing book with
  | nil => simp [filter]
  | cons head tail induction =>
      rcases List.nodup_cons.mp distinct with ⟨fresh, rest⟩
      rcases induction rest (check head book).2 with ⟨kept, refs, aggregate⟩
      have others : ∀ ip ∈ tail,
          readSet (check head book).2.secgroupIpRefs (secgroup, ip) =
            readSet book.secgroupIpRefs (secgroup, ip) := by
        intro ip member
        rw [checks.refs, if_neg]
        intro same
        cases same
        exact fresh member
      refine ⟨fun ip => ?_, fun group ip => ?_, ?_⟩
      · have inTail : ip ∈ (filter check tail (check head book).2).1 ↔
            ip ∈ tail ∧ test (readSet book.secgroupIpRefs (secgroup, ip)) = true := by
          rw [kept]
          constructor
          · intro holds
            exact ⟨holds.1, others ip holds.1 ▸ holds.2⟩
          · intro holds
            exact ⟨holds.1, (others ip holds.1).symm ▸ holds.2⟩
        simp only [filter, checks.result]
        by_cases passed :
            test (readSet book.secgroupIpRefs (secgroup, head)) = true
        · rw [if_pos passed, List.mem_cons, List.mem_cons, inTail]
          constructor
          · rintro (rfl | holds)
            · exact ⟨.inl rfl, passed⟩
            · exact ⟨.inr holds.1, holds.2⟩
          · rintro ⟨rfl | member, holds⟩
            · exact .inl rfl
            · exact .inr ⟨member, holds⟩
        · rw [if_neg passed, List.mem_cons, inTail]
          constructor
          · intro holds
            exact ⟨.inr holds.1, holds.2⟩
          · rintro ⟨rfl | member, holds⟩
            · exact absurd holds passed
            · exact ⟨member, holds⟩
      · simp only [filter]
        rw [refs, checks.refs]
        by_cases isGroup : group = secgroup
        · subst isGroup
          by_cases isHead : ip = head
          · subst isHead
            simp [fresh]
          · simp [isHead]
        · simp [isGroup]
      · simp only [filter]
        rw [aggregate, checks.aggregate]

variable {book : AddressBook}

@[simp] theorem readSet_setAddresses (secgroup group : Id)
    (addresses : Finset IPAddress) :
    readSet (book.setAddresses secgroup addresses).secgroupAggregateAddresses group =
      if group = secgroup then addresses
      else readSet book.secgroupAggregateAddresses group :=
  readSet_insert _ _ _ _

/-- A group without addresses need not have an entry. -/
@[simp] theorem readSet_setOrDropAddresses (secgroup group : Id)
    (addresses : Finset IPAddress) :
    readSet (book.setOrDropAddresses secgroup addresses).secgroupAggregateAddresses
        group =
      if group = secgroup then addresses
      else readSet book.secgroupAggregateAddresses group := by
  unfold setOrDropAddresses
  split
  · next empty =>
      rw [dropAddresses, readSet_erase, empty]
  · exact readSet_setAddresses _ _ _

@[simp] theorem setAddresses_refs (secgroup : Id) (addresses : Finset IPAddress) :
    (book.setAddresses secgroup addresses).secgroupIpRefs = book.secgroupIpRefs := rfl

@[simp] theorem setOrDropAddresses_refs (secgroup : Id) (addresses : Finset IPAddress) :
    (book.setOrDropAddresses secgroup addresses).secgroupIpRefs =
      book.secgroupIpRefs := by
  unfold setOrDropAddresses
  split <;> rfl

theorem ledger_associate (book : AddressBook) (secgroup : Id) (lport : LogicalPort) :
    (book.associate secgroup lport).2.ledger =
      book.ledger.join secgroup lport.id lport.allIps := by
  rcases (checks_inc secgroup lport.id).filtered lport.nodup_ipList book with
    ⟨added, refs, aggregate⟩
  apply Ledger.ext
  · funext group ip
    simp only [ledger, AddressBook.associate, getLportAddedIpsForSecgroup,
      setAddresses_refs, refs, Ledger.join, LogicalPort.mem_ipList]
  · funext group
    ext ip
    rw [Ledger.mem_items_join]
    simp only [ledger, AddressBook.associate, getLportAddedIpsForSecgroup,
      readSet_setAddresses, aggregate]
    split
    · next same => simp [same, added, LogicalPort.mem_ipList]
    · next different => simp [different]

theorem ledger_disassociate {holdings : Holdings Id Id IPAddress}
    (tells : book.ledger.Tells holdings) (secgroup : Id) (lport : LogicalPort) :
    (book.disassociate secgroup lport).2.ledger =
      book.ledger.leave secgroup lport.id lport.allIps := by
  unfold AddressBook.disassociate
  by_cases empty : readSet book.secgroupAggregateAddresses secgroup = ∅
  · rw [tells.leave_of_empty empty]
    simp only [empty, ↓reduceIte]
    apply Ledger.ext
    · rfl
    · funext group
      simp only [ledger, readSet_setAddresses]
      split
      · next same => rw [same, empty]
      · rfl
  · rcases (checks_dec secgroup lport.id).filtered lport.nodup_ipList book with
      ⟨removed, refs, aggregate⟩
    simp only [empty, ↓reduceIte, getLportRemovedIpsForSecgroup]
    apply Ledger.ext
    · funext group ip
      simp only [ledger, setOrDropAddresses_refs, refs, Ledger.leave,
        LogicalPort.mem_ipList]
    · funext group
      ext ip
      rw [Ledger.mem_items_leave]
      simp only [ledger, readSet_setOrDropAddresses, aggregate]
      split
      · next same => simp [same, removed, LogicalPort.mem_ipList]
      · next different => simp [different]

/-- The addresses that are added and those that are removed are different ones,
so the second walk does not see the first one. -/
theorem ledger_update (book : AddressBook) (secgroup : Id)
    (lport original : LogicalPort) :
    (book.update secgroup lport original).2.ledger =
      (book.ledger.join secgroup lport.id (lport.allIps \ original.allIps)).leave
        secgroup lport.id (original.allIps \ lport.allIps) := by
  rcases (checks_inc secgroup lport.id).filtered
    (lport.nodup_ipList.filter fun ip => ip ∉ original.allIps) book with
    ⟨added, refs, aggregate⟩
  rcases (checks_dec secgroup lport.id).filtered
    (original.nodup_ipList.filter fun ip => ip ∉ lport.allIps)
    (AddressBook.filter (fun ip => incIpReferenceAndCheck secgroup ip lport.id)
      (lport.ipList.filter fun ip => ip ∉ original.allIps) book).2 with
    ⟨removed, refsAfter, aggregateAfter⟩
  apply Ledger.ext
  · funext group ip
    simp only [ledger, AddressBook.update, getLportUpdatedIpsForSecgroup,
      setOrDropAddresses_refs, refsAfter, refs, Ledger.leave, Ledger.join,
      List.mem_filter, LogicalPort.mem_ipList, Finset.mem_sdiff, decide_eq_true_eq]
  · funext group
    ext ip
    rw [Ledger.mem_items_leave, Ledger.mem_items_join]
    simp only [ledger, AddressBook.update, getLportUpdatedIpsForSecgroup,
      readSet_setOrDropAddresses, aggregateAfter, aggregate, Ledger.join]
    split
    · next same =>
        rw [same, Finset.mem_sdiff, Finset.mem_union, List.mem_toFinset,
          List.mem_toFinset, removed, added, refs]
        simp [LogicalPort.mem_ipList]
    · next different => simp [different]

end AddressBook

end SGApp
end Dragonflow

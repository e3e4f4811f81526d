import Dragonflow.Db.ModelFramework
import Dragonflow.Foundation.Dict
import Dragonflow.Foundation.Program

/-! # Publishers and the addresses that the subscriber listens to

`update_publisher` and `delete_publisher` of `dragonflow/controller/df_local_controller.py`
with the addresses of `SubscriberAgentBase` in `dragonflow/db/pub_sub_api.py`. A publisher
refers to nothing, embeds nothing and has no index but its id, so that the store is the
dictionary of its model, and nothing waits for it.
-/

namespace Dragonflow

open Program

/-- `core.Publisher`. Its name and its last activity are not read here. -/
structure Publisher where
  id : Id
  uri : Option String := none
  deriving DecidableEq, Repr

/-- An update of the table of publishers. A delete update carries the key only. -/
inductive PublisherUpdate
  | create (publisher : Publisher)
  | set (publisher : Publisher)
  | delete (key : Id)
  deriving DecidableEq, Repr

/-- The publishers of `db_store`, and `uri_list` of the subscriber. -/
structure PublisherController where
  publishers : Dict Id Publisher := ∅
  uriList : List (Option String) := []

namespace PublisherController

abbrev Action (β : Type) := Program PublisherController PyError β

/-! ## The handlers -/

/-- `register_listen_address` -/
def registerListenAddress (uri : Option String) : Action Unit :=
  modify fun controller =>
    if uri ∉ controller.uriList then
      { controller with uriList := controller.uriList ++ [uri] }
    else controller

/-- `unregister_listen_address` -/
def unregisterListenAddress (uri : Option String) : Action Unit := do
  let controller ← get
  if uri ∈ controller.uriList then
    set { controller with uriList := controller.uriList.erase uri }
  else
    throw .valueError

/-- `db_store.update` -/
def storeUpdate (publisher : Publisher) : Action Unit :=
  modify fun controller =>
    { controller with publishers := controller.publishers.insert publisher.id publisher }

/-- `db_store.delete` -/
def storeDelete (publisher : Publisher) : Action Unit := do
  let controller ← get
  match controller.publishers.lookup publisher.id with
  | none => throw .keyError
  | some _ =>
      set { controller with publishers := controller.publishers.erase publisher.id }

/-- `update_publisher` -/
def updatePublisher (publisher : Publisher) : Action Unit := do
  storeUpdate publisher
  registerListenAddress publisher.uri

/-- `delete_publisher` -/
def deletePublisher (publisher : Publisher) : Action Unit := do
  unregisterListenAddress publisher.uri
  storeDelete publisher

/-- `delete_by_id`, which makes a publisher of the id alone. -/
def deleteById (key : Id) : Action Unit :=
  deletePublisher { id := key }

/-- `_handle_db_change`, for the table of publishers. -/
def handleDbChange : PublisherUpdate → Action Unit
  | .create publisher => updatePublisher publisher
  | .set publisher => updatePublisher publisher
  | .delete key => deleteById key

/-! ## What the subscriber should listen to -/

/-- The publishers that were created and not deleted. -/
def known (publishers : Dict Id Publisher) : PublisherUpdate → Dict Id Publisher
  | .create publisher => publishers.insert publisher.id publisher
  | .set publisher => publishers.insert publisher.id publisher
  | .delete key => publishers.erase key

def DistinctUris (publishers : Dict Id Publisher) : Prop :=
  ∀ id other publisher otherPublisher, publishers.lookup id = some publisher →
    publishers.lookup other = some otherPublisher →
    publisher.uri = otherPublisher.uri → id = other

/-- Publishers have distinct uris at all times. -/
def DistinctAlong (publishers : Dict Id Publisher) : List PublisherUpdate → Prop
  | [] => DistinctUris publishers
  | update :: updates =>
      DistinctUris publishers ∧ DistinctAlong (known publishers update) updates

/-- The store holds the publishers, and the subscriber listens to each of their uris
once and to nothing else. -/
structure Exact (publishers : Dict Id Publisher) (controller : PublisherController) :
    Prop where
  stored : ∀ id, controller.publishers.lookup id = publishers.lookup id
  listens : ∀ uri, uri ∈ controller.uriList ↔
    ∃ id publisher, publishers.lookup id = some publisher ∧ publisher.uri = uri
  once : controller.uriList.Nodup

/-- No update raises, and each leaves the controller exact. -/
def ExactAlong (publishers : Dict Id Publisher) (controller : PublisherController) :
    List PublisherUpdate → Prop
  | [] => True
  | update :: updates =>
      (exec (handleDbChange update) controller).1 = .ok () ∧
        Exact (known publishers update) (exec (handleDbChange update) controller).2 ∧
        ExactAlong (known publishers update) (exec (handleDbChange update) controller).2
          updates

/-- The update creates a publisher, keeps its uri, or deletes one that has no uri. -/
def Supported (publishers : Dict Id Publisher) : PublisherUpdate → Prop
  | .create publisher =>
      ∀ old, publishers.lookup publisher.id = some old → old.uri = publisher.uri
  | .set publisher =>
      ∀ old, publishers.lookup publisher.id = some old → old.uri = publisher.uri
  | .delete key => ∃ old, publishers.lookup key = some old ∧ old.uri = none

def SupportedAlong (publishers : Dict Id Publisher) : List PublisherUpdate → Prop
  | [] => True
  | update :: updates =>
      Supported publishers update ∧ SupportedAlong (known publishers update) updates

/-! ## One update -/

variable {publishers : Dict Id Publisher} {controller : PublisherController}

theorem exec_updatePublisher (publisher : Publisher) :
    exec (updatePublisher publisher) controller = (.ok (),
      { publishers := controller.publishers.insert publisher.id publisher
        uriList := if publisher.uri ∉ controller.uriList then
          controller.uriList ++ [publisher.uri] else controller.uriList }) := by
  have registered : exec (registerListenAddress publisher.uri)
      { controller with
        publishers := controller.publishers.insert publisher.id publisher } = (.ok (),
      { publishers := controller.publishers.insert publisher.id publisher
        uriList := if publisher.uri ∉ controller.uriList then
          controller.uriList ++ [publisher.uri] else controller.uriList }) := by
    rw [registerListenAddress, exec_modify]
    by_cases isNew : publisher.uri ∉ controller.uriList
    · rw [if_pos isNew, if_pos isNew]
    · rw [if_neg isNew, if_neg isNew]
  exact registered

theorem exec_deleteById_unlisted {key : Id} (unlisted : none ∉ controller.uriList) :
    exec (deleteById key) controller = (.error .valueError, controller) := by
  have raised : exec (unregisterListenAddress none) controller =
      (.error .valueError, controller) := by
    unfold unregisterListenAddress
    rw [exec_bind_ok (exec_get controller), if_neg unlisted]
    rfl
  exact exec_bind_error raised

theorem exec_deleteById_listed {key : Id} (listed : none ∈ controller.uriList) :
    exec (deleteById key) controller =
      match controller.publishers.lookup key with
      | none => (.error .keyError,
          { controller with uriList := controller.uriList.erase none })
      | some _ => (.ok (),
          { publishers := controller.publishers.erase key
            uriList := controller.uriList.erase none }) := by
  have removed : exec (unregisterListenAddress none) controller =
      (.ok (), { controller with uriList := controller.uriList.erase none }) := by
    unfold unregisterListenAddress
    rw [exec_bind_ok (exec_get controller), if_pos listed]
    rfl
  have isDelete : deleteById key = (do
      unregisterListenAddress none
      storeDelete { id := key }) := rfl
  rw [isDelete, exec_bind_ok removed]
  unfold storeDelete
  rw [exec_bind_ok (exec_get _)]
  simp only
  cases controller.publishers.lookup key <;> rfl

/-- A publisher is stored and listened to, unless its old uri stays behind. -/
theorem exact_updatePublisher (exact : Exact publishers controller)
    (distinct : DistinctUris publishers) (publisher : Publisher) :
    Exact (publishers.insert publisher.id publisher)
        (exec (updatePublisher publisher) controller).2 ↔
      ∀ old, publishers.lookup publisher.id = some old → old.uri = publisher.uri := by
  rw [exec_updatePublisher]
  have member (uri : Option String) :
      uri ∈ (if publisher.uri ∉ controller.uriList then
        controller.uriList ++ [publisher.uri] else controller.uriList) ↔
      uri ∈ controller.uriList ∨ uri = publisher.uri := by
    split
    · simp
    · next listed =>
        have listed := not_not.mp listed
        constructor
        · exact Or.inl
        · rintro (inList | isUri)
          · exact inList
          · rw [isUri]
            exact listed
  constructor
  · intro after old isOld
    have oldListed : old.uri ∈ controller.uriList :=
      (exact.listens old.uri).mpr ⟨publisher.id, old, isOld, rfl⟩
    rcases (after.listens old.uri).mp ((member old.uri).mpr (Or.inl oldListed)) with
      ⟨id, found, isFound, sameUri⟩
    rw [Dict.lookup_insert_eq] at isFound
    split at isFound
    · rw [← Option.some.inj isFound] at sameUri
      exact sameUri.symm
    · next different =>
        exact absurd (distinct id publisher.id found old isFound isOld sameUri) different
  · intro kept
    refine ⟨?_, ?_, ?_⟩
    · intro id
      rw [Dict.lookup_insert_eq, Dict.lookup_insert_eq, exact.stored]
    · intro uri
      rw [member, exact.listens]
      constructor
      · rintro (⟨id, found, isFound, sameUri⟩ | isUri)
        · by_cases same : id = publisher.id
          · rw [same] at isFound
            refine ⟨publisher.id, publisher, ?_, (kept found isFound).symm.trans sameUri⟩
            rw [Dict.lookup_insert_eq, if_pos rfl]
          · refine ⟨id, found, ?_, sameUri⟩
            rw [Dict.lookup_insert_eq, if_neg same]
            exact isFound
        · refine ⟨publisher.id, publisher, ?_, isUri.symm⟩
          rw [Dict.lookup_insert_eq, if_pos rfl]
      · rintro ⟨id, found, isFound, sameUri⟩
        rw [Dict.lookup_insert_eq] at isFound
        split at isFound
        · rw [← Option.some.inj isFound] at sameUri
          exact Or.inr sameUri.symm
        · exact Or.inl ⟨id, found, isFound, sameUri⟩
    · simp only
      split
      · next unlisted =>
          exact List.nodup_append.mpr ⟨exact.once, List.nodup_singleton _, by
            intro uri inList other isOther same
            rw [List.mem_singleton.mp isOther] at same
            exact unlisted (same ▸ inList)⟩
      · exact exact.once

/-- A deletion takes away the address of a publisher without a uri, whichever publisher
it is about. -/
theorem exact_deleteById (exact : Exact publishers controller)
    (distinct : DistinctUris publishers) (key : Id) :
    (exec (deleteById key) controller).1 = .ok () ∧
        Exact (publishers.erase key) (exec (deleteById key) controller).2 ↔
      ∃ old, publishers.lookup key = some old ∧ old.uri = none := by
  by_cases listed : none ∈ controller.uriList
  · rcases (exact.listens none).mp listed with ⟨id, unset, isUnset, noUri⟩
    rw [exec_deleteById_listed listed, exact.stored]
    cases isStored : publishers.lookup key with
    | none =>
        constructor
        · intro both
          cases both.1
        · rintro ⟨old, isOld, -⟩
          cases isOld
    | some old =>
        constructor
        · intro both
          refine ⟨old, rfl, ?_⟩
          by_contra hasUri
          have different : id ≠ key := by
            intro same
            rw [same, isStored] at isUnset
            rw [Option.some.inj isUnset] at hasUri
            exact hasUri noUri
          have kept : (publishers.erase key).lookup id = some unset := by
            rw [Dict.lookup_erase_eq, if_neg different]
            exact isUnset
          have stillListed := (both.2.listens none).mpr ⟨id, unset, kept, noUri⟩
          exact (List.Nodup.mem_erase_iff exact.once).mp stillListed |>.1 rfl
        · rintro ⟨found, isFound, foundNoUri⟩
          have isFound := Option.some.inj isFound
          subst isFound
          refine ⟨rfl, ?_, ?_, exact.once.erase none⟩
          · intro other
            rw [Dict.lookup_erase_eq, Dict.lookup_erase_eq, exact.stored]
          · intro uri
            rw [List.Nodup.mem_erase_iff exact.once, exact.listens]
            constructor
            · rintro ⟨hasUri, other, otherPublisher, isOther, sameUri⟩
              refine ⟨other, otherPublisher, ?_, sameUri⟩
              rw [Dict.lookup_erase_eq, if_neg]
              · exact isOther
              · intro same
                rw [same, isStored] at isOther
                rw [← Option.some.inj isOther] at sameUri
                exact hasUri (sameUri.symm.trans foundNoUri)
            · rintro ⟨other, otherPublisher, isOther, sameUri⟩
              rw [Dict.lookup_erase_eq] at isOther
              split at isOther
              · cases isOther
              · next different =>
                  refine ⟨?_, other, otherPublisher, isOther, sameUri⟩
                  intro isNone
                  rw [isNone] at sameUri
                  exact different (distinct other key otherPublisher old isOther isStored
                    (sameUri.trans foundNoUri.symm))
  · rw [exec_deleteById_unlisted listed]
    constructor
    · intro both
      cases both.1
    · rintro ⟨old, isOld, noUri⟩
      exact absurd ((exact.listens none).mpr ⟨key, old, isOld, noUri⟩) listed

/-! ## Runs -/

theorem exact_handleDbChange (exact : Exact publishers controller)
    (distinct : DistinctUris publishers) (update : PublisherUpdate) :
    (exec (handleDbChange update) controller).1 = .ok () ∧
        Exact (known publishers update) (exec (handleDbChange update) controller).2 ↔
      Supported publishers update := by
  cases update with
  | create publisher =>
      have returns : (exec (updatePublisher publisher) controller).1 = .ok () := by
        rw [exec_updatePublisher]
      exact (and_iff_right returns).trans (exact_updatePublisher exact distinct publisher)
  | set publisher =>
      have returns : (exec (updatePublisher publisher) controller).1 = .ok () := by
        rw [exec_updatePublisher]
      exact (and_iff_right returns).trans (exact_updatePublisher exact distinct publisher)
  | delete key => exact exact_deleteById exact distinct key

theorem exactAlong_iff (updates : List PublisherUpdate)
    (exact : Exact publishers controller) (distinct : DistinctAlong publishers updates) :
    ExactAlong publishers controller updates ↔ SupportedAlong publishers updates := by
  induction updates generalizing publishers controller with
  | nil => exact Iff.rfl
  | cons update updates induction =>
      have step := exact_handleDbChange exact distinct.1 update
      constructor
      · rintro ⟨returns, after, later⟩
        exact ⟨step.mp ⟨returns, after⟩, (induction after distinct.2).mp later⟩
      · rintro ⟨supported, later⟩
        have after := step.mpr supported
        exact ⟨after.1, after.2, (induction after.2 distinct.2).mpr later⟩

/-! ## One publisher -/

def remotePublisher : Publisher := ⟨"neutron-1", some "tcp://10.0.0.1:8866"⟩

theorem distinctUris_empty : DistinctUris ∅ := by
  intro id other publisher otherPublisher isStored
  cases isStored

theorem distinctUris_single (publisher : Publisher) (before : Dict Id Publisher)
    (alone : ∀ id, id ≠ publisher.id → before.lookup id = none) :
    DistinctUris (before.insert publisher.id publisher) := by
  have isPublisher (id : Id) (found : Publisher)
      (isFound : (before.insert publisher.id publisher).lookup id = some found) :
      id = publisher.id := by
    rw [Dict.lookup_insert_eq] at isFound
    split at isFound
    · next same => exact same
    · next different =>
        rw [alone id different] at isFound
        cases isFound
  intro id other found otherFound isFound isOther _
  rw [isPublisher id found isFound, isPublisher other otherFound isOther]

/-! ## Runs from an empty store -/

/-- In a run from an empty store, no update raises and the subscriber always listens to
exactly the known publishers, if and only if no publisher changes its uri and only
publishers without a uri are deleted. -/
theorem subscriber_listens_exactly (updates : List PublisherUpdate)
    (distinct : DistinctAlong ∅ updates) :
    ExactAlong ∅ {} updates ↔ SupportedAlong ∅ updates := by
  apply exactAlong_iff updates ?_ distinct
  constructor
  · intro id
    rfl
  · intro uri
    constructor
    · intro member
      cases member
    · rintro ⟨id, publisher, isStored, -⟩
      cases isStored
  · exact List.nodup_nil

/-- A publisher that is announced again. -/
theorem subscriber_listens_announced :
    DistinctAlong ∅ [.create remotePublisher, .set remotePublisher] ∧
      ExactAlong ∅ {} [.create remotePublisher, .set remotePublisher] := by
  have created : DistinctUris (known ∅ (.create remotePublisher)) :=
    distinctUris_single remotePublisher ∅ fun _ _ => rfl
  have again : DistinctUris
      (known (known ∅ (.create remotePublisher)) (.set remotePublisher)) := by
    apply distinctUris_single remotePublisher
    intro id different
    rw [known, Dict.lookup_insert_eq, if_neg different]
    rfl
  have distinct : DistinctAlong ∅ [.create remotePublisher, .set remotePublisher] :=
    ⟨distinctUris_empty, created, again⟩
  refine ⟨distinct, (subscriber_listens_exactly _ distinct).mpr ⟨?_, ?_, trivial⟩⟩
  · intro old isOld
    cases isOld
  · intro old isOld
    rw [known, Dict.lookup_insert_eq, if_pos rfl] at isOld
    rw [← Option.some.inj isOld]

/-- A deletion looks for the uri of a publisher that has none, raises, and leaves the
publisher. -/
theorem deleted_publisher_stays :
    DistinctAlong ∅ [.create remotePublisher, .delete remotePublisher.id] ∧
      ¬ ExactAlong ∅ {} [.create remotePublisher, .delete remotePublisher.id] ∧
      exec (do
          handleDbChange (.create remotePublisher)
          handleDbChange (.delete remotePublisher.id)) {} =
        (.error .valueError,
          { publishers := (∅ : Dict Id Publisher).insert remotePublisher.id remotePublisher
            uriList := [remotePublisher.uri] }) := by
  have created : DistinctUris (known ∅ (.create remotePublisher)) :=
    distinctUris_single remotePublisher ∅ fun _ _ => rfl
  have erased : DistinctUris
      (known (known ∅ (.create remotePublisher)) (.delete remotePublisher.id)) := by
    intro id other publisher otherPublisher isStored isOther
    rw [known, known, Dict.lookup_erase_eq] at isStored
    split at isStored
    · cases isStored
    · next different =>
        rw [Dict.lookup_insert_eq, if_neg different] at isStored
        cases isStored
  refine ⟨⟨distinctUris_empty, created, erased⟩, ?_, rfl⟩
  intro exact
  have returns : Except.error PyError.valueError = (.ok () : Except PyError Unit) :=
    exact.2.2.1
  cases returns

end PublisherController

end Dragonflow

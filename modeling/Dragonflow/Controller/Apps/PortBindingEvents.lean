import Dragonflow.Controller.Apps.PortBinding

/-! # Port binding events are well formed

Every application that installs flows relies on the order of the events of a
port: bind and unbind take turns and agree on where the port is.
-/

namespace Dragonflow

open Program

variable {τ : Type}

namespace PortBindingApp

/-! ## Next to quiet applications

The callbacks of an event are kept in a set, so those of other applications can
be called before or after those of `PortBindingApp`. -/

section Quiet

variable (before after : List (QuietApp τ))

def quietCallbacks : Callbacks τ := fun _ event lport =>
  before.map (fun app => app.callback event lport) ++ callbacks event lport ++
    after.map fun app => app.callback event lport

/-- What emitting an event does. -/
def announced (node : Node τ) (event : PortEvent) (lport : LogicalPort) : Node τ :=
  { rebound (node.record event lport) event lport with
    apps := QuietApp.runAll (before ++ after) node.lports node.locations event lport
      node.apps }

theorem bound_announced (node : Node τ) (event : PortEvent) (lport : LogicalPort)
    (kind : Locality) :
    (announced before after node event lport).bound kind =
      (rebound node event lport).bound kind := by
  rcases event with opened | closed | ⟨used, original⟩
  · cases opened <;> cases kind <;> rfl
  · cases closed <;> cases kind <;> rfl
  · cases kind <;> rfl

theorem exec_emit (depth : Nat) (event : PortEvent) (lport : LogicalPort)
    (node : Node τ) :
    exec (emit (quietCallbacks before after) (depth + 1) event lport) node =
      (.ok (), announced before after node event lport) := by
  rw [emit, exec_bind_ok (exec_modify _ node)]
  unfold quietCallbacks
  rw [List.forM_append, List.forM_append]
  simp only [exec_bind, QuietApp.exec_callbacks, exec_callbacks]
  simp only [announced, rebound_lports, rebound_locations, rebound_apps,
    QuietApp.runAll_append]
  rcases event with kind | kind | ⟨kind, original⟩
  · cases kind <;> rfl
  · cases kind <;> rfl
  · rfl

end Quiet

/-! ## Keeping track of the ports -/

/-- The sets and the emitted events say of every port that it is bound as
`status` says. -/
structure Follows (node : Node τ) (status : Id → Option Locality) : Prop where
  membership : ∀ id kind, id ∈ node.bound kind ↔ status id = some kind
  sessions : ∀ id, session node.sessions id = some (status id)

variable {before after : List (QuietApp τ)} {node : Node τ}
  {status : Id → Option Locality}

theorem sessions_record (node : Node τ) (event : PortEvent) (lport : LogicalPort) :
    (node.record event lport).sessions =
      node.sessions ++ [(lport.id, event.session)] := by
  simp [Node.sessions, Node.record]

theorem membership_rebound {event : PortEvent} {lport : LogicalPort}
    {next : Option Locality}
    (membership : ∀ id kind, id ∈ node.bound kind ↔ status id = some kind)
    (inOrder : SessionEvent.follow (status lport.id) event.session = some next) :
    ∀ id kind, id ∈ (rebound node event lport).bound kind ↔
      Function.update status lport.id next id = some kind := by
  intro id kind
  rcases event with opened | closed | ⟨used, original⟩
  · rcases SessionEvent.follow_opened.mp inOrder with ⟨wasFree, rfl⟩
    by_cases same : id = lport.id
    · subst same
      by_cases sameKind : opened = kind
      · simp [rebound, sameKind]
      · simp [rebound, sameKind, Ne.symm sameKind, membership, wasFree]
    · by_cases sameKind : kind = opened <;>
        simp [rebound, same, sameKind, membership]
  · rcases SessionEvent.follow_closed.mp inOrder with ⟨wasOpen, rfl⟩
    by_cases same : id = lport.id
    · subst same
      by_cases sameKind : closed = kind
      · simp [rebound, sameKind]
      · simp [rebound, sameKind, Ne.symm sameKind, membership, wasOpen]
    · by_cases sameKind : kind = closed <;>
        simp [rebound, same, sameKind, membership]
  · rcases SessionEvent.follow_used.mp inOrder with ⟨isOpen, rfl⟩
    rw [← isOpen, Function.update_eq_self]
    exact membership id kind

theorem session_record {event : PortEvent} {lport : LogicalPort}
    {next : Option Locality}
    (sessions : ∀ id, session node.sessions id = some (status id))
    (inOrder : SessionEvent.follow (status lport.id) event.session = some next) :
    ∀ id, session (node.record event lport).sessions id =
      some (Function.update status lport.id next id) := by
  intro id
  rw [sessions_record, session_concat]
  by_cases same : id = lport.id
  · subst same
    simp [sessions, inOrder]
  · simp [same, sessions]

theorem Follows.announced {event : PortEvent} {lport : LogicalPort}
    {next : Option Locality} (follows : Follows node status)
    (inOrder : SessionEvent.follow (status lport.id) event.session = some next) :
    Follows (announced before after node event lport)
      (Function.update status lport.id next) := by
  constructor
  · intro id kind
    rw [bound_announced]
    exact membership_rebound follows.membership inOrder id kind
  · have sessions : (PortBindingApp.announced before after node event lport).sessions =
        (node.record event lport).sessions := by
      simp [Node.sessions, PortBindingApp.announced, Node.record]
    rw [sessions]
    exact session_record follows.sessions inOrder

/-- Events of one port that follow each other move its status, and only that. -/
theorem Follows.emitAll {id : Id} {events : List (PortEvent × LogicalPort)}
    {next : Option Locality} (depth : Nat) (follows : Follows node status)
    (ofPort : ∀ entry ∈ events, entry.2.id = id)
    (inOrder : steps SessionEvent.follow (events.map fun entry => entry.1.session)
      (status id) = some next) :
    Leads (emitAll (emit (quietCallbacks before after) (depth + 1)) events) node
      (fun _ final => Follows final (Function.update status id next) ∧
        final.lports = node.lports ∧ final.locations = node.locations ∧
        final.apps = QuietApp.runEvents (before ++ after) node.lports
          node.locations events node.apps)
      (fun _ _ => False) := by
  unfold PortBindingApp.emitAll
  induction events generalizing node status with
  | nil =>
      cases inOrder
      rw [List.forM_nil, leads_pure, Function.update_eq_self]
      exact ⟨follows, rfl, rfl, rfl⟩
  | cons entry events induction =>
      rw [List.map_cons, steps_cons_eq_some] at inOrder
      rcases inOrder with ⟨middle, stepped, walked⟩
      have samePort : entry.2.id = id := ofPort entry List.mem_cons_self
      have moved : Follows (PortBindingApp.announced before after node entry.1 entry.2)
          (Function.update status id middle) :=
        samePort ▸ follows.announced (samePort ▸ stepped)
      have rest := induction moved
        (fun other member => ofPort other (List.mem_cons_of_mem _ member))
        (by rw [Function.update_self]; exact walked)
      rw [List.forM_cons, leads_bind]
      unfold Leads
      rw [exec_emit]
      refine rest.mono ?_ fun _ _ impossible => impossible
      intro _ final holds
      rw [Function.update_idem] at holds
      have sameLports : (PortBindingApp.announced before after node entry.1
          entry.2).lports = node.lports := by
        simp [PortBindingApp.announced, Node.record]
      have sameLocations : (PortBindingApp.announced before after node entry.1
          entry.2).locations = node.locations := by
        simp [PortBindingApp.announced, Node.record]
      rw [sameLports, sameLocations] at holds
      exact holds

theorem transition_port (host : Id) {original lport : LogicalPort}
    (same : original.id = lport.id) :
    ∀ entry ∈ transition host original lport, entry.2.id = lport.id := by
  intro entry member
  unfold transition at member
  split at member
  · cases member
  · rw [List.mem_singleton.mp member]
  · rw [List.mem_singleton.mp member]
    exact same
  · split at member
    · rw [List.mem_singleton.mp member]
    · rcases List.mem_pair.mp member with found | found
      · rw [found]
        exact same
      · rw [found]

theorem arrival_port (host : Id) (lport : LogicalPort) :
    ∀ entry ∈ arrival host lport, entry.2.id = lport.id := by
  unfold arrival
  cases lport.boundAs host <;> simp

theorem arrival_inOrder (host : Id) (lport : LogicalPort) :
    steps SessionEvent.follow
      ((arrival host lport).map fun entry => entry.1.session) none =
        some (lport.boundAs host) := by
  unfold arrival
  cases lport.boundAs host <;> rfl

theorem departure_port (host : Id) (lport : LogicalPort) :
    ∀ entry ∈ departure host lport, entry.2.id = lport.id := by
  unfold departure
  cases lport.boundAs host <;> simp

theorem departure_inOrder (host : Id) (lport : LogicalPort) :
    steps SessionEvent.follow
      ((departure host lport).map fun entry => entry.1.session)
      (lport.boundAs host) = some none := by
  unfold departure
  cases lport.boundAs host <;> simp [PortEvent.session, steps, SessionEvent.follow]

theorem transition_inOrder (host : Id) (original lport : LogicalPort) :
    steps SessionEvent.follow
      ((transition host original lport).map fun entry => entry.1.session)
      (original.boundAs host) = some (lport.boundAs host) := by
  unfold transition
  cases original.boundAs host with
  | none => cases lport.boundAs host <;> rfl
  | some old =>
      cases lport.boundAs host with
      | none => simp [PortEvent.session, steps, SessionEvent.follow]
      | some new =>
          by_cases same : old = new <;>
            simp [same, PortEvent.session, steps, SessionEvent.follow]

/-! ## The ports of the store -/

/-- As what a port of the store has to be bound. -/
def boundAt (host : Id) (lports : Dict Id LogicalPort) (id : Id) :
    Option Locality :=
  (lports.lookup id).bind (LogicalPort.boundAs host)

theorem boundAt_insert (host : Id) (lports : Dict Id LogicalPort)
    (lport : LogicalPort) :
    boundAt host (lports.insert lport.id lport) =
      Function.update (boundAt host lports) lport.id (lport.boundAs host) := by
  funext id
  unfold boundAt
  rw [Dict.lookup_insert_eq, Function.update_apply]
  split <;> rfl

theorem boundAt_erase (host : Id) (lports : Dict Id LogicalPort) (id : Id) :
    boundAt host (lports.erase id) = Function.update (boundAt host lports) id none := by
  funext other
  unfold boundAt
  rw [Dict.lookup_erase_eq, Function.update_apply]
  split <;> rfl

theorem boundAt_here {host : Id} {lports : Dict Id LogicalPort} {id : Id} :
    boundAt host lports id = some .here ↔
      ∃ lport binding, lports.lookup id = some lport ∧ lport.Up ∧
        lport.binding = some binding ∧ binding.isLocal host = true := by
  simp only [boundAt, LogicalPort.boundAs, PortBinding.locality,
    Option.bind_eq_some_iff, Option.ite_none_right_eq_some, Option.map_eq_some_iff]
  grind

theorem boundAt_elsewhere {host : Id} {lports : Dict Id LogicalPort} {id : Id} :
    boundAt host lports id = some .elsewhere ↔
      ∃ lport binding, lports.lookup id = some lport ∧ lport.Up ∧
        lport.binding = some binding ∧ binding.isLocal host = false := by
  simp only [boundAt, LogicalPort.boundAs, PortBinding.locality,
    Option.bind_eq_some_iff, Option.ite_none_right_eq_some, Option.map_eq_some_iff]
  grind

theorem Follows.withLports (follows : Follows node status)
    (lports : Dict Id LogicalPort) : Follows { node with lports } status where
  membership := by
    intro id kind
    rw [← follows.membership id kind]
    cases kind <;> rfl
  sessions := follows.sessions

/-! ## One change -/

end PortBindingApp

namespace PortChange

open PortBindingApp

/-- The ports of the store after a change. -/
def apply (lports : Dict Id LogicalPort) : PortChange → Dict Id LogicalPort
  | .update lport => lports.insert lport.id lport
  | .delete id => lports.erase id

/-- The ports of the store while the events of a change are emitted. -/
def during (lports : Dict Id LogicalPort) : PortChange → Dict Id LogicalPort
  | .update lport => lports.insert lport.id lport
  | .delete _ => lports

/-- The events of a change. -/
def events (host : Id) (lports : Dict Id LogicalPort) :
    PortChange → List (PortEvent × LogicalPort)
  | .update lport =>
      match lports.lookup lport.id with
      | none => arrival host lport
      | some original => transition host original lport
  | .delete id =>
      match lports.lookup id with
      | none => []
      | some lport => departure host lport

/-- The events of an update name the port or its previous version, and the port
is only ever bound as what it is. -/
theorem mem_events_update {host : Id} {lports : Dict Id LogicalPort}
    {lport : LogicalPort} {entry : PortEvent × LogicalPort}
    (member : entry ∈ (PortChange.update lport).events host lports) :
    (entry.2 = lport ∨ lports.lookup lport.id = some entry.2) ∧
      ∀ kind, entry.1 = .bind kind →
        entry.2 = lport ∧ lport.boundAs host = some kind := by
  rw [events] at member
  split at member
  · unfold arrival at member
    split at member
    · cases member
    · rw [List.mem_singleton.mp member]
      simp_all
  · next original stored =>
      unfold transition at member
      split at member
      · cases member
      · rw [List.mem_singleton.mp member]
        simp_all
      · rw [List.mem_singleton.mp member]
        simp [stored]
      · split at member
        · rw [List.mem_singleton.mp member]
          simp
        · rcases List.mem_pair.mp member with found | found
          · rw [found]
            simp [stored]
          · rw [found]
            simp_all

end PortChange

namespace PortBindingApp

theorem mem_departure {host : Id} {lport : LogicalPort}
    {entry : PortEvent × LogicalPort} (member : entry ∈ departure host lport) :
    entry.2 = lport ∧ ∀ kind, entry.1 ≠ .bind kind := by
  unfold departure at member
  split at member
  · cases member
  · rw [List.mem_singleton.mp member]
    simp

variable {host : Id} {before after : List (QuietApp τ)} {node : Node τ}

/-- Every port is stored under its own id. -/
def Keyed (lports : Dict Id LogicalPort) : Prop :=
  ∀ id lport, lports.lookup id = some lport → lport.id = id

theorem Keyed.apply {lports : Dict Id LogicalPort} (keyed : Keyed lports)
    (event : PortChange) : Keyed (event.apply lports) := by
  intro id stored found
  cases event with
  | update lport =>
      rw [PortChange.apply, Dict.lookup_insert_eq] at found
      split at found
      · next same =>
          cases found
          exact same.symm
      · exact keyed id stored found
  | delete removed =>
      rw [PortChange.apply, Dict.lookup_erase_eq] at found
      split at found
      · cases found
      · exact keyed id stored found

/-- The node follows the ports of the store, and no binding is overridden. -/
structure Tracks (host : Id) (node : Node τ) : Prop where
  keyed : Keyed node.lports
  free : node.locations = ∅
  follows : Follows node (boundAt host node.lports)

/-- What a change of a port does: the store has the change, and the other
applications have seen its events. -/
structure Changed (host : Id) (apps : List (QuietApp τ)) (node : Node τ)
    (event : PortChange) (final : Node τ) : Prop where
  tracks : Tracks host final
  lports : final.lports = event.apply node.lports
  apps : final.apps = QuietApp.runEvents apps (event.during node.lports) ∅
    (event.events host node.lports) node.apps

theorem Tracks.initial (host : Id) (apps : τ) : Tracks host (Node.initial apps) where
  keyed := by
    intro id lport found
    cases found
  free := rfl
  follows :=
    { membership := by
        intro id kind
        cases kind <;> simp [Node.initial, Node.bound, boundAt]
      sessions := fun _ => rfl }

theorem Tracks.update (before after : List (QuietApp τ)) (depth : Nat)
    (tracks : Tracks host node) (lport : LogicalPort) :
    Leads (updateModelObject host (emit (quietCallbacks before after) (depth + 1))
        lport) node
      (fun _ final => Changed host (before ++ after) node (.update lport) final)
      (fun _ _ => False) := by
  unfold updateModelObject
  rw [leads_bind, leads_get, leads_bind, leads_set]
  have free : node.locations.lookup lport.id = none := by
    rw [tracks.free]
    rfl
  have follows := tracks.follows.withLports (node.lports.insert lport.id lport)
  -- Both handlers emit events that move the status of this port.
  have moved : ∀ events : List (PortEvent × LogicalPort),
      (PortChange.update lport).events host node.lports = events →
      (∀ entry ∈ events, entry.2.id = lport.id) →
      steps SessionEvent.follow (events.map fun entry => entry.1.session)
        (boundAt host node.lports lport.id) = some (lport.boundAs host) →
      Leads (PortBindingApp.emitAll
          (emit (quietCallbacks before after) (depth + 1)) events)
        { node with lports := node.lports.insert lport.id lport }
        (fun _ final => Changed host (before ++ after) node (.update lport) final)
        (fun _ _ => False) := by
    intro events isEvents ofPort inOrder
    refine (follows.emitAll depth ofPort inOrder).mono ?_
      fun _ _ impossible => impossible
    intro _ final holds
    rcases holds with ⟨followsFinal, sameLports, sameLocations, apps⟩
    refine ⟨⟨?_, sameLocations.trans tracks.free, ?_⟩, sameLports, ?_⟩
    · rw [sameLports]
      exact tracks.keyed.apply (.update lport)
    · rw [sameLports, boundAt_insert]
      exact followsFinal
    · rw [apps, isEvents, ← tracks.free]
      rfl
  cases stored : node.lports.lookup lport.id with
  | none =>
      simp only [leads_attempt]
      rw [leads_congr (exec_portCreated (by exact free))]
      apply Leads.returning
      apply moved (arrival host lport) ?_ (arrival_port host lport)
      · rw [boundAt, stored]
        exact arrival_inOrder host lport
      · rw [PortChange.events, stored]
  | some original =>
      have same : original.id = lport.id := tracks.keyed _ _ stored
      simp only [leads_attempt]
      rw [leads_congr (exec_portUpdated (by exact free) same ?_ ?_ ?_)]
      · apply Leads.returning
        apply moved (transition host original lport) ?_ (transition_port host same)
        · rw [boundAt, stored]
          exact transition_inOrder host original lport
        · rw [PortChange.events, stored]
      · intro kind
        rw [follows.membership, boundAt, stored]
        rfl
      · intro kind final executed
        rw [exec_emit] at executed
        cases executed
        simpa [announced, Node.record] using free
      · intro kind final wasBound executed
        rw [exec_emit] at executed
        cases executed
        have inOrder : SessionEvent.follow (boundAt host node.lports original.id)
            (PortEvent.unbind kind).session = some none := by
          rw [boundAt, same, stored]
          exact SessionEvent.follow_closed.mpr ⟨wasBound, rfl⟩
        have left : Follows (announced before after _ (.unbind kind) original) _ :=
          follows.announced inOrder
        refine ⟨by simpa [announced, Node.record] using free, fun other => ?_⟩
        rw [left.membership, same, Function.update_self]
        intro impossible
        cases impossible

theorem Tracks.delete (before after : List (QuietApp τ)) (depth : Nat)
    (tracks : Tracks host node) (id : Id) :
    Leads (deleteModelObject (emit (quietCallbacks before after) (depth + 1)) id) node
      (fun _ final => Changed host (before ++ after) node (.delete id) final)
      (fun _ _ => False) := by
  unfold deleteModelObject
  rw [leads_bind, leads_get]
  cases stored : node.lports.lookup id with
  | none =>
      have absent : node.lports.erase id = node.lports := by
        apply AList.ext
        apply List.kerase_of_notMem_keys
        intro member
        rcases (Dict.mem_keys_iff node.lports id).mp member with ⟨lport, found⟩
        rw [stored] at found
        cases found
      refine ⟨tracks, absent.symm, ?_⟩
      rw [PortChange.events, stored]
      rfl
  | some lport =>
      have same : lport.id = id := tracks.keyed _ _ stored
      have membership : ∀ kind, lport.id ∈ node.bound kind ↔
          lport.boundAs host = some kind := by
        intro kind
        rw [tracks.follows.membership, same, boundAt, stored]
        rfl
      have inOrder : steps SessionEvent.follow
          ((departure host lport).map fun entry => entry.1.session)
          (boundAt host node.lports lport.id) = some none := by
        rw [boundAt, same, stored]
        exact departure_inOrder host lport
      simp only [leads_bind, leads_attempt, leads_modify]
      rw [leads_congr (exec_portDeleted membership)]
      apply Leads.returning
      refine (tracks.follows.emitAll depth (departure_port host lport)
        inOrder).mono ?_ fun _ _ impossible => impossible
      intro _ final holds
      rcases holds with ⟨followsFinal, sameLports, sameLocations, apps⟩
      refine ⟨⟨?_, sameLocations.trans tracks.free, ?_⟩, ?_, ?_⟩
      · rw [sameLports]
        exact tracks.keyed.apply (.delete id)
      · rw [sameLports, boundAt_erase, ← same]
        exact followsFinal.withLports _
      · rw [sameLports]
        rfl
      · rw [apps, PortChange.events, stored, ← tracks.free]
        rfl

theorem Tracks.change (before after : List (QuietApp τ)) (depth : Nat)
    (tracks : Tracks host node) (event : PortChange) :
    Leads (change host (emit (quietCallbacks before after) (depth + 1)) event) node
      (fun _ final => Changed host (before ++ after) node event final)
      (fun _ _ => False) := by
  cases event with
  | update lport => exact tracks.update before after depth lport
  | delete id => exact tracks.delete before after depth id

/-! ## Every history -/

/-- The node after a history of changes. -/
def run (host : Id) (before after : List (QuietApp τ)) (depth : Nat) (apps : τ)
    (history : List PortChange) : Node τ :=
  (trace (PortBindingApp.change host (emit (quietCallbacks before after) (depth + 1)))
    history (Node.initial apps)).2

theorem run_tracks (host : Id) (before after : List (QuietApp τ)) (depth : Nat)
    (apps : τ) (history : List PortChange) :
    Tracks host (run host before after depth apps history) :=
  (trace_returns history
    (fun event _ _ tracks => (tracks.change before after depth event).mono
      (fun _ _ changed => changed.tracks) fun _ _ impossible => impossible) _
    (Tracks.initial host apps)).2

/-- Every change of a history is allowed in the store that it meets. -/
def Admissible (allowed : Dict Id LogicalPort → PortChange → Prop) :
    Dict Id LogicalPort → List PortChange → Prop
  | _, [] => True
  | lports, event :: history =>
      allowed lports event ∧ Admissible allowed (event.apply lports) history

theorem Admissible.and {first second : Dict Id LogicalPort → PortChange → Prop}
    {lports : Dict Id LogicalPort} {history : List PortChange}
    (left : Admissible first lports history)
    (right : Admissible second lports history) :
    Admissible (fun lports event => first lports event ∧ second lports event)
      lports history := by
  induction history generalizing lports with
  | nil => trivial
  | cons event history induction =>
      exact ⟨⟨left.1, right.1⟩, induction left.2 right.2⟩

/-- What the events of every allowed change preserve holds after every history
of allowed changes. -/
theorem run_invariant {allowed : Dict Id LogicalPort → PortChange → Prop}
    (invariant : Dict Id LogicalPort → τ → Prop) (depth : Nat)
    (step : ∀ lports apps event, Keyed lports → allowed lports event →
      invariant lports apps → invariant (event.apply lports)
        (QuietApp.runEvents (before ++ after) (event.during lports) ∅
          (event.events host lports) apps))
    {apps : τ} (initial : invariant ∅ apps) {history : List PortChange}
    (admissible : Admissible allowed ∅ history) :
    invariant (run host before after depth apps history).lports
      (run host before after depth apps history).apps := by
  suffices general : ∀ node : Node τ, Tracks host node →
      invariant node.lports node.apps → Admissible allowed node.lports history →
      let final := (trace (PortBindingApp.change host
        (emit (quietCallbacks before after) (depth + 1))) history node).2
      invariant final.lports final.apps by
    exact general _ (Tracks.initial host apps) initial admissible
  clear admissible
  induction history with
  | nil =>
      intro node _ holds _
      exact holds
  | cons event history induction =>
      intro node tracks holds admissible
      rcases (tracks.change before after depth event).returned with
        ⟨value, final, executed, changed⟩
      simp only [trace, executed]
      apply induction final changed.tracks
      · rw [changed.lports, changed.apps]
        exact step node.lports node.apps event tracks.keyed admissible.1 holds
      · rw [changed.lports]
        exact admissible.2

/-- Whatever happens to the ports, their events come in order, and the two sets
hold the ports that exist, are not disabled and are bound here or elsewhere. -/
theorem events_wellFormed (host : Id) (before after : List (QuietApp τ))
    (depth : Nat) (apps : τ) (history : List PortChange) :
    let node := run host before after depth apps history
    (∀ id, ∃ status, session node.sessions id = some status ∧
      ∀ kind, status = some kind ↔ id ∈ node.bound kind) ∧
    Disjoint node.localPorts node.remotePorts ∧
    (∀ id, id ∈ node.localPorts ↔
      ∃ lport binding, node.lports.lookup id = some lport ∧ lport.Up ∧
        lport.binding = some binding ∧ binding.isLocal host = true) ∧
    (∀ id, id ∈ node.remotePorts ↔
      ∃ lport binding, node.lports.lookup id = some lport ∧ lport.Up ∧
        lport.binding = some binding ∧ binding.isLocal host = false) := by
  intro node
  have follows := (run_tracks host before after depth apps history).follows
  refine ⟨?_, ?_, ?_, ?_⟩
  · intro id
    exact ⟨_, follows.sessions id, fun kind => (follows.membership id kind).symm⟩
  · rw [Finset.disjoint_left]
    intro id isHere isElsewhere
    have here := (follows.membership id .here).mp isHere
    have elsewhere := (follows.membership id .elsewhere).mp isElsewhere
    rw [here] at elsewhere
    cases elsewhere
  · intro id
    rw [← boundAt_here]
    exact follows.membership id .here
  · intro id
    rw [← boundAt_elsewhere]
    exact follows.membership id .elsewhere

end PortBindingApp
end Dragonflow

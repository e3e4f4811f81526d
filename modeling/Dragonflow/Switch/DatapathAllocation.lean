import Dragonflow.Switch.Datapath

/-! # What an allocation gives an application

The registers and the tables that one call of `_create_dp_alloc` hands out, and
how the allocations of all the vertices of a layout fit together.
-/

namespace Dragonflow

open Program

/-- The tables that an application is given: one for each state, and one for each
way out. -/
inductive TablePoint
  | state (name : String)
  | exit (name : String)
  deriving DecidableEq, Repr

def DpAlloc.table (dpAlloc : DpAlloc) : TablePoint → Option Nat
  | .state name => dpAlloc.states.lookup name
  | .exit name => dpAlloc.exitpoints.lookup name

namespace Datapath

/-! ## Registers -/

/-- No register holds two variables. -/
def OneToOne (mapping : Dict Variable Register) : Prop :=
  ∀ var other register, mapping.lookup var = some register →
    mapping.lookup other = some register → var = other

/-- The mappings of an application are one to one, and they share no register. -/
structure WellMapped (specification : Specification) : Prop where
  publicOneToOne : OneToOne specification.publicMapping
  privateOneToOne : OneToOne specification.privateMapping
  apart : ∀ var other register,
    specification.publicMapping.lookup var = some register →
    specification.privateMapping.lookup other ≠ some register

/-- The mapping an application gets, over the public variables of all the applications. -/
structure Mapped (specification : Specification) (publicVariables : List Variable)
    (fullMapping : Dict Variable Register) : Prop where
  extends_ : ∀ var register, specification.publicMapping.lookup var = some register →
    fullMapping.lookup var = some register
  total : ∀ var ∈ publicVariables, ∃ register, fullMapping.lookup var = some register
  oneToOne : OneToOne fullMapping
  noPrivate : ∀ var other register, fullMapping.lookup var = some register →
    specification.privateMapping.lookup other ≠ some register

theorem mem_registersOf (mapping : Dict Variable Register) (register : Register) :
    register ∈ registersOf mapping ↔ ∃ var, mapping.lookup var = some register :=
  Dict.mem_values_iff mapping register

theorem oneToOne_iff (mapping : Dict Variable Register) :
    (registersOf mapping).Nodup ↔ OneToOne mapping :=
  Dict.nodup_values_iff mapping

theorem wellMapped_iff (specification : Specification) :
    ((registersOf specification.publicMapping).Nodup ∧
      (registersOf specification.privateMapping).Nodup ∧
      ∀ register ∈ registersOf specification.publicMapping,
        register ∉ registersOf specification.privateMapping) ↔
      WellMapped specification := by
  rw [oneToOne_iff, oneToOne_iff]
  constructor
  · rintro ⟨publicOneToOne, privateOneToOne, apart⟩
    refine ⟨publicOneToOne, privateOneToOne, ?_⟩
    intro var other register isPublic isPrivate
    exact apart register ((mem_registersOf _ _).mpr ⟨var, isPublic⟩)
      ((mem_registersOf _ _).mpr ⟨other, isPrivate⟩)
  · intro wellMapped
    refine ⟨wellMapped.publicOneToOne, wellMapped.privateOneToOne, ?_⟩
    intro register isPublic isPrivate
    rcases (mem_registersOf _ _).mp isPublic with ⟨var, found⟩
    rcases (mem_registersOf _ _).mp isPrivate with ⟨other, foundToo⟩
    exact wellMapped.apart var other register found foundToo

instance (specification : Specification) : Decidable (WellMapped specification) :=
  decidable_of_iff _ (wellMapped_iff specification)

theorem oneToOne_insert {mapping : Dict Variable Register} {var : Variable}
    {register : Register} (oneToOne : OneToOne mapping)
    (isFree : ∀ other, mapping.lookup other ≠ some register) :
    OneToOne (mapping.insert var register) := by
  intro first second shared foundFirst foundSecond
  rw [Dict.lookup_insert_eq] at foundFirst foundSecond
  split at foundFirst <;> split at foundSecond
  · next isFirst isSecond => rw [isFirst, isSecond]
  · next isFirst isSecond =>
      rw [Option.some.injEq] at foundFirst
      exact absurd foundSecond (foundFirst ▸ isFree second)
  · next isFirst isSecond =>
      rw [Option.some.injEq] at foundSecond
      exact absurd foundFirst (foundSecond ▸ isFree first)
  · exact oneToOne first second shared foundFirst foundSecond

/-- What the loop makes of a mapping: it keeps what is there, and gives a register
that was free to every variable that is not left. -/
structure Paired (mapping paired : Dict Variable Register) (vars left : List Variable)
    (registers : List Register) : Prop where
  kept : ∀ var register, mapping.lookup var = some register →
    paired.lookup var = some register
  origin : ∀ var register, paired.lookup var = some register →
    mapping.lookup var = some register ∨ register ∈ registers
  mapped : ∀ var ∈ vars, var ∉ left → ∃ register, paired.lookup var = some register
  oneToOne : OneToOne mapping → OneToOne paired

theorem pairOff_paired (mapping : Dict Variable Register) (vars : List Variable)
    (registers : List Register) (distinctVars : vars.Nodup)
    (distinctRegisters : registers.Nodup)
    (areUnmapped : ∀ var ∈ vars, mapping.lookup var = none)
    (areFree : ∀ register ∈ registers, ∀ var, mapping.lookup var ≠ some register) :
    Paired mapping (pairOff mapping vars registers).1 vars
      (pairOff mapping vars registers).2 registers := by
  induction vars generalizing mapping registers with
  | nil =>
      rw [pairOff]
      exact ⟨fun _ _ found => found, fun _ _ found => Or.inl found,
        (by simp), id⟩
  | cons var vars induction =>
      cases registers with
      | nil =>
          rw [pairOff]
          · exact ⟨fun _ _ found => found, fun _ _ found => Or.inl found,
              fun other member isNotLeft => absurd member isNotLeft, id⟩
          · simp
      | cons register registers =>
          rw [List.nodup_cons] at distinctVars distinctRegisters
          rw [pairOff]
          have isUnmapped := areUnmapped var List.mem_cons_self
          have rest := induction (mapping.insert var register) registers
            distinctVars.2 distinctRegisters.2
            (by
              intro other member
              have isOther : other ≠ var := fun same => distinctVars.1 (same ▸ member)
              rw [Dict.lookup_insert_eq, if_neg isOther]
              exact areUnmapped other (List.mem_cons_of_mem _ member))
            (by
              intro other member owner found
              rw [Dict.lookup_insert_eq] at found
              split at found
              · rw [Option.some.injEq] at found
                exact distinctRegisters.1 (found ▸ member)
              · exact areFree other (List.mem_cons_of_mem _ member) owner found)
          have keptInsert : ∀ other shared, mapping.lookup other = some shared →
              (mapping.insert var register).lookup other = some shared := by
            intro other shared found
            have isOther : other ≠ var := by
              intro same
              rw [same, isUnmapped] at found
              cases found
            rw [Dict.lookup_insert_eq, if_neg isOther]
            exact found
          refine ⟨fun other shared found => rest.kept _ _ (keptInsert _ _ found), ?_, ?_, ?_⟩
          · intro other shared found
            rcases rest.origin other shared found with before | isRegister
            · rw [Dict.lookup_insert_eq] at before
              split at before
              · rw [Option.some.injEq] at before
                exact Or.inr (before ▸ List.mem_cons_self)
              · exact Or.inl before
            · exact Or.inr (List.mem_cons_of_mem _ isRegister)
          · intro other member isNotLeft
            rcases List.mem_cons.mp member with rfl | later
            · exact ⟨register, rest.kept _ _ (by rw [Dict.lookup_insert_eq, if_pos rfl])⟩
            · exact rest.mapped other later isNotLeft
          · intro oneToOne
            exact rest.oneToOne (oneToOne_insert oneToOne
              fun other => areFree register List.mem_cons_self other)

theorem regs_nodup : REGS.Nodup := by decide

/-- The mapping at the end of the loop, when no variable is left. -/
theorem mapped_of_pairOff (config : DatapathConfig) {specification : Specification}
    (wellMapped : WellMapped specification) {publicVariables : List Variable}
    (isSet : publicVariables.Nodup) {fullMapping : Dict Variable Register}
    (paired : pairOff specification.publicMapping
        ((config.popVariables specification).walk
          (unmappedVars publicVariables specification))
        ((config.popRegisters specification).walk (unmappedRegs specification)) =
      (fullMapping, [])) :
    Mapped specification publicVariables fullMapping := by
  have permVars := (config.popVariables specification).perm
    (unmappedVars publicVariables specification)
  have permRegs := (config.popRegisters specification).perm (unmappedRegs specification)
  have memRegs : ∀ register ∈ (config.popRegisters specification).walk
      (unmappedRegs specification),
      register ∉ registersOf specification.publicMapping ∧
        register ∉ registersOf specification.privateMapping := by
    intro register member
    have unmapped := permRegs.mem_iff.mp member
    simp only [unmappedRegs, List.mem_filter, decide_eq_true_eq] at unmapped
    exact ⟨unmapped.1.2, unmapped.2⟩
  have result := pairOff_paired specification.publicMapping
    ((config.popVariables specification).walk (unmappedVars publicVariables specification))
    ((config.popRegisters specification).walk (unmappedRegs specification))
    (permVars.nodup_iff.mpr (isSet.filter _))
    (permRegs.nodup_iff.mpr ((regs_nodup.filter _).filter _))
    (by
      intro var member
      have unmapped := permVars.mem_iff.mp member
      simp only [unmappedVars, List.mem_filter, decide_eq_true_eq] at unmapped
      exact AList.lookup_eq_none.mpr unmapped.2)
    (by
      intro register member var found
      exact (memRegs register member).1 ((mem_registersOf _ _).mpr ⟨var, found⟩))
  rw [paired] at result
  refine ⟨result.kept, ?_, result.oneToOne wellMapped.publicOneToOne, ?_⟩
  · intro var member
    by_cases isMapped : var ∈ specification.publicMapping.keys
    · rcases (Dict.mem_keys_iff _ _).mp isMapped with ⟨register, found⟩
      exact ⟨register, result.kept var register found⟩
    · apply result.mapped var
      · apply permVars.mem_iff.mpr
        simp only [unmappedVars, List.mem_filter, decide_eq_true_eq]
        exact ⟨member, isMapped⟩
      · exact List.not_mem_nil
  · intro var other register found
    rcases result.origin var register found with before | isNew
    · exact wellMapped.apart var other register before
    · intro isPrivate
      exact (memRegs register isNew).2 ((mem_registersOf _ _).mpr ⟨other, isPrivate⟩)

/-! ## Tables -/

/-- Whatever has a table has one of its own, from `first` up to `next`. -/
structure Numbered {κ : Type} (table : κ → Option Nat) (first next : Nat) : Prop where
  within : ∀ key number, table key = some number → first ≤ number ∧ number < next
  oneToOne : ∀ key other number, table key = some number →
    table other = some number → key = other

theorem numbered_empty (first : Nat) :
    Numbered (fun name => (∅ : Dict String Nat).lookup name) first first where
  within name number found := by cases found
  oneToOne name other number found := by cases found

/-- The tables of `table` come first, then those of `later`. -/
theorem Numbered.join {κ : Type} {table later joined : κ → Option Nat}
    {first middle next : Nat} (numbered : Numbered table first middle)
    (numberedLater : Numbered later middle next) (inOrder : first ≤ middle)
    (inOrderLater : middle ≤ next)
    (source : ∀ key number, joined key = some number →
      table key = some number ∨ later key = some number) :
    Numbered joined first next where
  within key number found := by
    rcases source key number found with isFirst | isLater
    · have range := numbered.within key number isFirst
      omega
    · have range := numberedLater.within key number isLater
      omega
  oneToOne key other number found foundToo := by
    rcases source key number found with isFirst | isLater <;>
      rcases source other number foundToo with isFirstToo | isLaterToo
    · exact numbered.oneToOne key other number isFirst isFirstToo
    · have range := numbered.within key number isFirst
      have rangeToo := numberedLater.within other number isLaterToo
      omega
    · have range := numberedLater.within key number isLater
      have rangeToo := numbered.within other number isFirstToo
      omega
    · exact numberedLater.oneToOne key other number isLater isLaterToo

theorem Numbered.insert {tables : Dict String Nat} {first next : Nat}
    (numbered : Numbered (fun name => tables.lookup name) first next)
    (inOrder : first ≤ next) (name : String) :
    Numbered (fun other => (tables.insert name next).lookup other) first (next + 1) := by
  have single : Numbered (fun other => if other = name then some next else none)
      next (next + 1) := by
    constructor
    · intro other number found
      split at found
      · rw [Option.some.injEq] at found
        omega
      · cases found
    · intro other another number found foundToo
      split at found <;> split at foundToo
      · next isOther isAnother => rw [isOther, isAnother]
      · cases foundToo
      · cases found
      · cases found
  apply numbered.join single inOrder (Nat.le_succ next)
  intro other number found
  rw [Dict.lookup_insert_eq] at found
  split at found
  · next same => exact Or.inr ((if_pos same).trans found)
  · exact Or.inl found

def withTables (datapath : Datapath) (next : Nat) : Datapath :=
  { datapath with tableGenerator := next }

theorem tablesFor_leads {tables : Dict String Nat} {first : Nat} (names : List String)
    (datapath : Datapath)
    (numbered : Numbered (fun name => tables.lookup name) first datapath.tableGenerator)
    (inOrder : first ≤ datapath.tableGenerator) :
    Leads (tablesFor tables names) datapath
      (fun numbers after => ∃ next, datapath.tableGenerator ≤ next ∧
        after = datapath.withTables next ∧
        Numbered (fun name => numbers.lookup name) first next ∧
        ∀ name, (∃ number, numbers.lookup name = some number) ↔
          name ∈ names ∨ ∃ number, tables.lookup name = some number)
      (fun _ _ => False) := by
  induction names generalizing tables datapath with
  | nil => exact ⟨_, Nat.le_refl _, rfl, numbered, by simp⟩
  | cons name names induction =>
      have rest := induction (datapath.withTables (datapath.tableGenerator + 1))
        (numbered.insert inOrder name) (Nat.le_succ_of_le inOrder)
      rw [tablesFor, nextTable]
      simp only [leads_bind, leads_get, leads_set, leads_pure]
      refine rest.mono ?_ fun _ _ impossible => impossible
      rintro numbers after ⟨next, later, rfl, numberedAfter, present⟩
      change datapath.tableGenerator + 1 ≤ next at later
      refine ⟨next, by omega, rfl, numberedAfter, ?_⟩
      intro other
      rw [present other, Dict.lookup_insert_eq, List.mem_cons]
      split
      · next same => simp [same]
      · next different => simp [different]

/-- The points of a specification. -/
def pointsOf (specification : Specification) : List TablePoint :=
  specification.states.map .state ++
    (specification.exitpoints.map Exitpoint.name).map .exit

theorem table_numbered {dpAlloc : DpAlloc} {first middle next : Nat}
    (states : Numbered (fun name => dpAlloc.states.lookup name) first middle)
    (exits : Numbered (fun name => dpAlloc.exitpoints.lookup name) middle next)
    (inOrder : first ≤ middle) (inOrderLater : middle ≤ next) :
    Numbered dpAlloc.table first next where
  within point number found := by
    cases point with
    | state name =>
        have range := states.within name number found
        omega
    | exit name =>
        have range := exits.within name number found
        omega
  oneToOne point other number found foundToo := by
    cases point with
    | state name =>
        have range := states.within name number found
        cases other with
        | state otherName => rw [states.oneToOne name otherName number found foundToo]
        | exit otherName =>
            have rangeToo := exits.within otherName number foundToo
            omega
    | exit name =>
        have range := exits.within name number found
        cases other with
        | state otherName =>
            have rangeToo := states.within otherName number foundToo
            omega
        | exit otherName => rw [exits.oneToOne name otherName number found foundToo]

/-! ## One allocation -/

/-- Every entrypoint leads to a state of the application. -/
def EntrypointsDeclared (specification : Specification) : Prop :=
  ∀ entry ∈ specification.entrypoints, entry.target ∈ specification.states

/-- What `_create_dp_alloc` returns. -/
structure Allocates (specification : Specification) (publicVariables : List Variable)
    (dpAlloc : DpAlloc) (first next : Nat) : Prop where
  mapped : Mapped specification publicVariables dpAlloc.fullMapping
  numbered : Numbered dpAlloc.table first next
  tables : ∀ point, (∃ number, dpAlloc.table point = some number) ↔
    point ∈ pointsOf specification

theorem lookup_of_item {ν : Type} {dict : Dict String ν} {key : String} {value : ν}
    (found : item dict key = .ok value) : dict.lookup key = some value := by
  unfold item at found
  split at found
  · next present => rw [present, Except.ok.inj found]
  · cases found

theorem entryTables_error {states tables : Dict String Nat} {entries : List Entrypoint}
    {error : PyError} (raised : entryTables states tables entries = .error error) :
    error = .keyError ∧ ∃ entry ∈ entries, states.lookup entry.target = none := by
  induction entries generalizing tables with
  | nil => cases raised
  | cons entry entries induction =>
      rw [entryTables, item] at raised
      cases found : states.lookup entry.target with
      | none =>
          rw [found] at raised
          cases raised
          exact ⟨rfl, entry, List.mem_cons_self, found⟩
      | some table =>
          rw [found] at raised
          rcases induction raised with ⟨isKeyError, other, member, missing⟩
          exact ⟨isKeyError, other, List.mem_cons_of_mem _ member, missing⟩

theorem createDpAlloc_leads (config : DatapathConfig) {specification : Specification}
    (wellMapped : WellMapped specification) (datapath : Datapath) :
    Leads (createDpAlloc config specification) datapath
      (fun dpAlloc after => ∃ next, datapath.tableGenerator ≤ next ∧
        after = datapath.withTables next ∧
        Allocates specification datapath.publicVariables dpAlloc
          datapath.tableGenerator next)
      (fun error after => (∃ next, datapath.tableGenerator ≤ next ∧
          after = datapath.withTables next) ∧
        (error = .runtimeError ∨
          error = .keyError ∧ ¬ EntrypointsDeclared specification)) := by
  rw [createDpAlloc]
  simp only [leads_bind, leads_get]
  rcases paired : pairOff specification.publicMapping _ _ with ⟨fullMapping, left⟩
  by_cases isLeft : left ≠ []
  · simp only [if_pos isLeft, leads_bind, leads_throw]
    exact ⟨⟨_, Nat.le_refl _, rfl⟩, Or.inl trivial⟩
  · rw [not_not] at isLeft
    subst isLeft
    have mapped := mapped_of_pairOff config wellMapped datapath.isSet paired
    simp only [ne_eq, not_true_eq_false, if_false, leads_bind, leads_pure]
    have statesLeads := tablesFor_leads specification.states datapath
      (numbered_empty datapath.tableGenerator) (Nat.le_refl _)
    refine statesLeads.mono ?_ fun _ _ impossible => impossible.elim
    rintro states middle ⟨number, atLeast, rfl, statesNumbered, statesPresent⟩
    have exitsLeads := tablesFor_leads (specification.exitpoints.map Exitpoint.name)
      (datapath.withTables number) (numbered_empty number) (Nat.le_refl _)
    refine exitsLeads.mono ?_ fun _ _ impossible => impossible.elim
    rintro exitpoints last ⟨next, atLeastToo, rfl, exitsNumbered, exitsPresent⟩
    have atMost : number ≤ next := atLeastToo
    refine (Leads.ofExcept _).mono ?_ ?_
    · rintro entrypoints after ⟨_, rfl⟩
      refine ⟨next, by omega, rfl, mapped, ?_, ?_⟩
      · exact table_numbered statesNumbered exitsNumbered atLeast atMost
      · intro point
        cases point with
        | state name =>
            change (∃ table, states.lookup name = some table) ↔ _
            rw [statesPresent name]
            simp [pointsOf]
        | exit name =>
            change (∃ table, exitpoints.lookup name = some table) ↔ _
            rw [exitsPresent name]
            simp [pointsOf]
    · rintro error after ⟨raised, rfl⟩
      rcases entryTables_error raised with ⟨isKeyError, entry, member, missing⟩
      refine ⟨⟨next, by omega, rfl⟩, Or.inr ⟨isKeyError, ?_⟩⟩
      intro declared
      rcases (statesPresent entry.target).mpr (Or.inl (declared entry member)) with
        ⟨table, found⟩
      rw [missing] at found
      cases found

/-! ## All the vertices -/

/-- The tables of the vertices with the given names. -/
def tableAt (datapath : Datapath) (names : List String) (point : String × TablePoint) :
    Option Nat :=
  if point.1 ∈ names then
    (datapath.dpAllocs.lookup point.1).bind fun dpAlloc => dpAlloc.table point.2
  else
    none

/-- The vertices have their allocations, each with a mapping that fits an application
of that vertex and with tables of its own. -/
structure AllAllocated (config : DatapathConfig) (vertices : List Vertex)
    (datapath : Datapath) : Prop where
  present : ∀ vertex ∈ vertices, ∃ other ∈ vertices, ∃ specification dpAlloc,
    other.name = vertex.name ∧
    config.getAppClass other.type = .ok specification ∧
    datapath.dpAllocs.lookup vertex.name = some dpAlloc ∧
    Mapped specification datapath.publicVariables dpAlloc.fullMapping ∧
    ∀ point, (∃ number, dpAlloc.table point = some number) ↔ point ∈ pointsOf specification
  numbered : Numbered (datapath.tableAt (vertices.map Vertex.name)) config.tableOffset
    datapath.tableGenerator
  inOrder : config.tableOffset ≤ datapath.tableGenerator

variable {config : DatapathConfig} {datapath : Datapath}

theorem allAllocated_nil (inOrder : config.tableOffset ≤ datapath.tableGenerator) :
    AllAllocated config [] datapath where
  present := by simp
  numbered :=
    { within := fun point number found => nomatch found
      oneToOne := fun point other number found => nomatch found }
  inOrder := inOrder

/-- The allocation of one more vertex is put in place. -/
def withAlloc (datapath : Datapath) (next : Nat) (name : String) (dpAlloc : DpAlloc) :
    Datapath :=
  { datapath.withTables next with dpAllocs := datapath.dpAllocs.insert name dpAlloc }

theorem AllAllocated.withTables {vertices : List Vertex} {next : Nat}
    (allocated : AllAllocated config vertices datapath)
    (inOrder : datapath.tableGenerator ≤ next) :
    AllAllocated config vertices (datapath.withTables next) where
  present := allocated.present
  numbered := by
    constructor
    · intro point number found
      have range := allocated.numbered.within point number found
      change config.tableOffset ≤ number ∧ number < next
      omega
    · exact allocated.numbered.oneToOne
  inOrder := Nat.le_trans allocated.inOrder inOrder

theorem AllAllocated.withAlloc {vertices : List Vertex} {vertex : Vertex} {next : Nat}
    {specification : Specification} {dpAlloc : DpAlloc}
    (allocated : AllAllocated config vertices datapath)
    (hasClass : config.getAppClass vertex.type = .ok specification)
    (inOrder : datapath.tableGenerator ≤ next)
    (allocates : Allocates specification datapath.publicVariables dpAlloc
      datapath.tableGenerator next) :
    AllAllocated config (vertices ++ [vertex])
      (datapath.withAlloc next vertex.name dpAlloc) where
  present := by
    intro other member
    by_cases isSame : other.name = vertex.name
    · refine ⟨vertex, by simp, specification, dpAlloc, isSame.symm, hasClass, ?_,
        allocates.mapped, allocates.tables⟩
      change (datapath.dpAllocs.insert vertex.name dpAlloc).lookup other.name = _
      rw [Dict.lookup_insert_eq, if_pos isSame]
    · have isEarlier : other ∈ vertices := by
        rcases List.mem_append.mp member with earlier | isLast
        · exact earlier
        · rw [List.mem_singleton] at isLast
          exact absurd (congrArg Vertex.name isLast) isSame
      rcases allocated.present other isEarlier with
        ⟨owner, ownerMember, specification, dpAlloc, sameName, hasClass, found, mapped, tables⟩
      refine ⟨owner, List.mem_append_left _ ownerMember, specification, dpAlloc, sameName,
        hasClass, ?_, mapped, tables⟩
      change (datapath.dpAllocs.insert vertex.name _).lookup other.name = _
      rw [Dict.lookup_insert_eq, if_neg isSame]
      exact found
  numbered := by
    have single : Numbered (fun point : String × TablePoint =>
        if point.1 = vertex.name then dpAlloc.table point.2 else none)
        datapath.tableGenerator next := by
      constructor
      · intro point number found
        split at found
        · exact allocates.numbered.within point.2 number found
        · cases found
      · intro point other number found foundToo
        split at found <;> split at foundToo
        · next isPoint isOther =>
            exact Prod.ext (isPoint.trans isOther.symm)
              (allocates.numbered.oneToOne point.2 other.2 number found foundToo)
        · cases foundToo
        · cases found
        · cases found
    apply allocated.numbered.join single allocated.inOrder inOrder
    intro point number found
    unfold tableAt at found ⊢
    rw [List.map_append, List.map_singleton] at found
    change (if point.1 ∈ vertices.map Vertex.name ++ [vertex.name] then
      ((datapath.dpAllocs.insert vertex.name dpAlloc).lookup point.1).bind _
        else none) = _ at found
    split at found
    · next member =>
        rw [Dict.lookup_insert_eq] at found
        split at found
        · next isSame => exact Or.inr ((if_pos isSame).trans found)
        · next isOther =>
            have isEarlier : point.1 ∈ vertices.map Vertex.name := by
              rcases List.mem_append.mp member with earlier | isLast
              · exact earlier
              · exact absurd (List.mem_singleton.mp isLast) isOther
            exact Or.inl ((if_pos isEarlier).trans found)
    · cases found
  inOrder := Nat.le_trans allocated.inOrder inOrder

/-- The application classes are those of the configuration. -/
def ClassesOf (config : DatapathConfig) (appClasses : Dict String Specification) : Prop :=
  ∀ type specification, appClasses.lookup type = some specification →
    config.getAppClass type = .ok specification

/-- What the second loop has done when it ends, one way or another. -/
structure Allocating (config : DatapathConfig) (done : List Vertex)
    (datapath after : Datapath) : Prop where
  allocated : AllAllocated config done after
  sameVariables : after.publicVariables = datapath.publicVariables
  sameSent : after.sent = datapath.sent

theorem allocateVertices_leads {appClasses : Dict String Specification}
    (classes : ClassesOf config appClasses)
    (wellMapped : ∀ type specification, appClasses.lookup type = some specification →
      WellMapped specification)
    (done vertices : List Vertex) (start : Datapath)
    (before : Allocating config done start datapath) :
    Leads (allocateVertices config appClasses vertices) datapath
      (fun _ after => Allocating config (done ++ vertices) start after)
      (fun _ after => ∃ reached, reached <+: done ++ vertices ∧
        Allocating config reached start after) := by
  induction vertices generalizing done datapath with
  | nil =>
      rw [allocateVertices, List.append_nil]
      exact before
  | cons vertex vertices induction =>
      rw [allocateVertices]
      have isPrefix : done <+: done ++ vertex :: vertices := List.prefix_append _ _
      simp only [leads_bind, leads_modify]
      refine (Leads.ofExcept _).mono ?_ ?_
      · rintro specification datapath ⟨hasClass, rfl⟩
        have found : appClasses.lookup vertex.type = some specification :=
          lookup_of_item hasClass
        refine (createDpAlloc_leads config (wellMapped _ _ found) datapath).mono ?_ ?_
        · rintro dpAlloc _ ⟨next, inOrder, rfl, allocates⟩
          have afterVertex : Allocating config (done ++ [vertex]) start
              (datapath.withAlloc next vertex.name dpAlloc) :=
            ⟨before.allocated.withAlloc (classes _ _ found) inOrder allocates,
              before.sameVariables, before.sameSent⟩
          have same : done ++ vertex :: vertices = done ++ [vertex] ++ vertices := by simp
          refine (Leads.ofExcept _).mono ?_ ?_
          · rintro _ _ ⟨_, rfl⟩
            rw [same]
            exact induction (done ++ [vertex]) afterVertex
          · rintro error _ ⟨_, rfl⟩
            exact ⟨done ++ [vertex], same ▸ List.prefix_append _ _, afterVertex⟩
        · rintro error _ ⟨⟨next, inOrder, rfl⟩, _⟩
          exact ⟨done, isPrefix, before.allocated.withTables inOrder,
            before.sameVariables, before.sameSent⟩
      · rintro error _ ⟨_, rfl⟩
        exact ⟨done, isPrefix, before⟩

/-! ## Loading the application classes -/

/-- The variables that the applications of some vertices make public. -/
def PublicIn (config : DatapathConfig) (vertices : List Vertex) (var : Variable) : Prop :=
  ∃ vertex ∈ vertices, ∃ specification,
    config.getAppClass vertex.type = .ok specification ∧
    var ∈ specification.publicMapping.keys

/-- The first loop has seen some of the vertices. -/
structure Loaded (config : DatapathConfig) (done : List Vertex)
    (appClasses : Dict String Specification) (datapath : Datapath) : Prop where
  classes : ClassesOf config appClasses
  present : ∀ vertex ∈ done, ∃ specification,
    appClasses.lookup vertex.type = some specification
  fromVertex : ∀ type specification, appClasses.lookup type = some specification →
    ∃ vertex ∈ done, vertex.type = type
  union : ∀ var, var ∈ datapath.publicVariables ↔ PublicIn config done var

theorem Loaded.again {done : List Vertex} {appClasses : Dict String Specification}
    {vertex : Vertex} (loaded : Loaded config done appClasses datapath)
    (isLoaded : vertex.type ∈ appClasses) :
    Loaded config (done ++ [vertex]) appClasses datapath := by
  rcases (Dict.mem_keys_iff _ _).mp isLoaded with ⟨specification, found⟩
  refine ⟨loaded.classes, ?_, ?_, ?_⟩
  · intro other member
    rcases List.mem_append.mp member with earlier | isLast
    · exact loaded.present other earlier
    · rw [List.mem_singleton.mp isLast]
      exact ⟨specification, found⟩
  · intro type other foundOther
    rcases loaded.fromVertex type other foundOther with ⟨owner, member, hasType⟩
    exact ⟨owner, List.mem_append_left _ member, hasType⟩
  · intro var
    rw [loaded.union var]
    constructor
    · rintro ⟨owner, member, isPublic⟩
      exact ⟨owner, List.mem_append_left _ member, isPublic⟩
    · rintro ⟨owner, member, isPublic⟩
      rcases List.mem_append.mp member with earlier | isLast
      · exact ⟨owner, earlier, isPublic⟩
      · -- An earlier vertex has the same application.
        rcases loaded.fromVertex _ _ found with ⟨first, firstMember, sameType⟩
        rw [List.mem_singleton.mp isLast, ← sameType] at isPublic
        exact ⟨first, firstMember, isPublic⟩

theorem Loaded.add {done : List Vertex} {appClasses : Dict String Specification}
    {vertex : Vertex} {specification : Specification}
    (loaded : Loaded config done appClasses datapath)
    (hasClass : config.getAppClass vertex.type = .ok specification) :
    Loaded config (done ++ [vertex]) (appClasses.insert vertex.type specification)
      (datapath.addPublicVariables specification.publicMapping.keys) := by
  refine ⟨?_, ?_, ?_, ?_⟩
  · intro type other found
    rw [Dict.lookup_insert_eq] at found
    split at found
    · next same => rw [same, ← Option.some.inj found, hasClass]
    · exact loaded.classes type other found
  · intro other member
    rw [Dict.lookup_insert_eq]
    split
    · exact ⟨specification, rfl⟩
    · next different =>
        rcases List.mem_append.mp member with earlier | isLast
        · exact loaded.present other earlier
        · rw [List.mem_singleton.mp isLast] at different
          exact absurd rfl different
  · intro type other found
    rw [Dict.lookup_insert_eq] at found
    split at found
    · next same => exact ⟨vertex, by simp, same.symm⟩
    · rcases loaded.fromVertex type other found with ⟨owner, member, hasType⟩
      exact ⟨owner, List.mem_append_left _ member, hasType⟩
  · intro var
    change var ∈ specification.publicMapping.keys ∪ datapath.publicVariables ↔ _
    rw [List.mem_union_iff, loaded.union var]
    constructor
    · rintro (isNew | ⟨owner, member, isPublic⟩)
      · exact ⟨vertex, by simp, specification, hasClass, isNew⟩
      · exact ⟨owner, List.mem_append_left _ member, isPublic⟩
    · rintro ⟨owner, member, other, ownerClass, isPublic⟩
      rcases List.mem_append.mp member with earlier | isLast
      · exact Or.inr ⟨owner, earlier, other, ownerClass, isPublic⟩
      · rw [List.mem_singleton.mp isLast, hasClass] at ownerClass
        rw [Except.ok.inj ownerClass]
        exact Or.inl isPublic

/-- Only the public variables change. -/
def OnlyVariables (before after : Datapath) : Prop :=
  after.dpAllocs = before.dpAllocs ∧ after.tableGenerator = before.tableGenerator ∧
    after.sent = before.sent

theorem loadAppClasses_leads (done vertices : List Vertex)
    {appClasses : Dict String Specification} (start : Datapath)
    (loaded : Loaded config done appClasses datapath)
    (unchanged : OnlyVariables start datapath) :
    Leads (loadAppClasses config appClasses vertices) datapath
      (fun appClasses after => Loaded config (done ++ vertices) appClasses after ∧
        OnlyVariables start after)
      (fun _ after => OnlyVariables start after) := by
  induction vertices generalizing done appClasses datapath with
  | nil =>
      rw [loadAppClasses, List.append_nil]
      exact ⟨loaded, unchanged⟩
  | cons vertex vertices induction =>
      have same : done ++ vertex :: vertices = done ++ [vertex] ++ vertices := by simp
      rw [loadAppClasses, same]
      split
      · next isLoaded => exact induction _ (loaded.again isLoaded) unchanged
      · simp only [leads_bind, leads_modify]
        refine (Leads.ofExcept _).mono ?_ ?_
        · rintro specification datapath ⟨hasClass, rfl⟩
          exact induction _ (loaded.add hasClass) unchanged
        · rintro error datapath ⟨_, rfl⟩
          exact unchanged

end Datapath

end Dragonflow

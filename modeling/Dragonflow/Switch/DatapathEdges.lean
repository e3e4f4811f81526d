import Dragonflow.Switch.DatapathAllocation

/-! # Edges carry the public variables

A flow that `_install_goto` writes for an edge, run on the registers of a
packet, puts every public variable where the next application looks for it.
-/

namespace Dragonflow

open Program

/-! ## Running a flow -/

/-- Fields hold numbers. `metadata` has 64 bits, the registers 32. -/
abbrev PacketState := StackMachine Register Nat Nat

def NXAction.execute (packet : PacketState) : NXAction → PacketState
  | .stackPush field start stop =>
      packet.push (BitField.extract ⟨start, stop - start⟩) field
  | .stackPop field start stop =>
      packet.pop (BitField.overwrite ⟨start, stop - start⟩) field
  | .resubmitTable _ => packet

def GotoInstruction.execute (packet : PacketState) : GotoInstruction → PacketState
  | .applyActions actions => actions.foldl NXAction.execute packet
  | .gotoTable _ => packet

def GotoFlow.execute (flow : GotoFlow) (packet : PacketState) : PacketState :=
  flow.instructions.foldl GotoInstruction.execute packet

/-- The bits that the flows of the edges move. -/
def low32 : BitField := ⟨0, 32⟩

theorem execute_gotoFlow (source dest : Nat) (translations : List (Register × Register))
    (packet : PacketState) :
    (gotoFlow source dest translations).execute packet =
      packet.moveAll low32.extract low32.overwrite translations := by
  have actions : ((translations.map Prod.fst).map (fun reg => NXAction.stackPush reg 0 32) ++
      ((translations.map Prod.snd).reverse).map
        fun reg => NXAction.stackPop reg 0 32).foldl NXAction.execute packet =
      packet.moveAll low32.extract low32.overwrite translations := by
    rw [List.foldl_append, List.foldl_map, List.foldl_map]
    rfl
  unfold gotoFlow GotoFlow.execute
  simp only
  split
  · exact actions
  · change List.foldl NXAction.execute packet (_ ++ [NXAction.resubmitTable dest]) = _
    rw [List.foldl_append, actions]
    rfl

namespace Datapath

/-! ## The translations of an edge -/

/-- What `_install_edge` collects while it walks the public variables. -/
structure Translates (exitMapping entryMapping : Dict Variable Register)
    (vars : List Variable) (translations : List (Register × Register)) : Prop where
  moved : ∀ var ∈ vars, ∃ exitReg entryReg,
    exitMapping.lookup var = some exitReg ∧ entryMapping.lookup var = some entryReg ∧
    (exitReg ≠ entryReg → (exitReg, entryReg) ∈ translations)
  origin : ∀ translation ∈ translations, translation.1 ≠ translation.2 ∧
    ∃ var ∈ vars, exitMapping.lookup var = some translation.1 ∧
      entryMapping.lookup var = some translation.2
  distinct : vars.Nodup → OneToOne entryMapping → (translations.map Prod.snd).Nodup

theorem edgeTranslations_translates {exitMapping entryMapping : Dict Variable Register}
    {vars : List Variable} {translations : List (Register × Register)}
    (collected : edgeTranslations exitMapping entryMapping vars = .ok translations) :
    Translates exitMapping entryMapping vars translations := by
  induction vars generalizing translations with
  | nil =>
      cases collected
      exact ⟨by simp, by simp, by simp⟩
  | cons var vars induction =>
      rw [edgeTranslations] at collected
      cases foundExit : item exitMapping var with
      | error error => rw [foundExit] at collected; cases collected
      | ok exitReg =>
      cases foundEntry : item entryMapping var with
      | error error => rw [foundExit, foundEntry] at collected; cases collected
      | ok entryReg =>
      cases collectedRest : edgeTranslations exitMapping entryMapping vars with
      | error error =>
          rw [foundExit, foundEntry, collectedRest] at collected
          cases collected
      | ok rest =>
      rw [foundExit, foundEntry, collectedRest] at collected
      have isResult : (if exitReg = entryReg then rest else (exitReg, entryReg) :: rest) =
          translations := Except.ok.inj collected
      have exitFound := lookup_of_item foundExit
      have entryFound := lookup_of_item foundEntry
      have restTranslates := induction collectedRest
      have restMoved : ∀ translation ∈ rest, translation ∈ translations := by
        intro translation member
        rw [← isResult]
        split
        · exact member
        · exact List.mem_cons_of_mem _ member
      refine ⟨?_, ?_, ?_⟩
      · intro other member
        rcases List.mem_cons.mp member with rfl | later
        · refine ⟨exitReg, entryReg, exitFound, entryFound, ?_⟩
          intro different
          rw [← isResult, if_neg different]
          exact List.mem_cons_self
        · rcases restTranslates.moved other later with
            ⟨otherExit, otherEntry, foundExit, foundEntry, isMoved⟩
          exact ⟨otherExit, otherEntry, foundExit, foundEntry,
            fun different => restMoved _ (isMoved different)⟩
      · intro translation member
        have restOrigin : translation ∈ rest → translation.1 ≠ translation.2 ∧
            ∃ other ∈ var :: vars, exitMapping.lookup other = some translation.1 ∧
              entryMapping.lookup other = some translation.2 := by
          intro inRest
          rcases restTranslates.origin translation inRest with ⟨different, other, later, found⟩
          exact ⟨different, other, List.mem_cons_of_mem _ later, found⟩
        rw [← isResult] at member
        split at member
        · exact restOrigin member
        · next different =>
            rcases List.mem_cons.mp member with rfl | inRest
            · exact ⟨different, var, List.mem_cons_self, exitFound, entryFound⟩
            · exact restOrigin inRest
      · intro isSet oneToOne
        rw [List.nodup_cons] at isSet
        have restDistinct := restTranslates.distinct isSet.2 oneToOne
        rw [← isResult]
        split
        · exact restDistinct
        · rw [List.map_cons, List.nodup_cons]
          refine ⟨?_, restDistinct⟩
          intro member
          rcases List.mem_map.mp member with ⟨translation, inRest, sameEntry⟩
          rcases restTranslates.origin translation inRest with ⟨_, other, later, _, found⟩
          rw [sameEntry] at found
          rw [oneToOne var other entryReg entryFound found] at isSet
          exact isSet.1 later

/-! ## What a flow carries -/

/-- After the flow the register `entryReg` holds what `exitReg` held: the 32 bits that
are moved, and so the whole content where the registers hold 32-bit values. -/
def Carries (flow : GotoFlow) (exitReg entryReg : Register) : Prop :=
  ∀ packet : PacketState,
    low32.extract ((flow.execute packet).registers entryReg) =
      low32.extract (packet.registers exitReg) ∧
    ((∀ register, packet.registers register < 2 ^ 32) →
      (flow.execute packet).registers entryReg = packet.registers exitReg)

/-- What a translation list moves, whatever the two tables. -/
theorem Translates.carries {exitMapping entryMapping : Dict Variable Register}
    {vars : List Variable} {translations : List (Register × Register)}
    (translates : Translates exitMapping entryMapping vars translations)
    (isSet : vars.Nodup) (oneToOne : OneToOne entryMapping) (source dest : Nat) :
    ∀ var ∈ vars, ∃ exitReg entryReg,
      exitMapping.lookup var = some exitReg ∧ entryMapping.lookup var = some entryReg ∧
      Carries (gotoFlow source dest translations) exitReg entryReg := by
  intro var member
  rcases translates.moved var member with
    ⟨exitReg, entryReg, exitFound, entryFound, isMoved⟩
  refine ⟨exitReg, entryReg, exitFound, entryFound, ?_⟩
  rintro ⟨registers, stack⟩
  rw [execute_gotoFlow, StackMachine.moveAll_eq]
  by_cases same : exitReg = entryReg
  · -- Some other variable would share the register if it were written.
    have isNoTarget : entryReg ∉ translations.map Prod.snd := by
      intro isTarget
      rcases List.mem_map.mp isTarget with ⟨translation, inTranslations, sameEntry⟩
      rcases translates.origin translation inTranslations with
        ⟨different, other, _, otherExit, otherEntry⟩
      rw [sameEntry] at otherEntry different
      rw [← oneToOne var other entryReg entryFound otherEntry, exitFound, same] at otherExit
      exact different (Option.some.inj otherExit).symm
    change low32.extract (StackMachine.parallel _ _ registers translations entryReg) = _ ∧
      (_ → StackMachine.parallel _ _ registers translations entryReg = registers exitReg)
    rw [StackMachine.parallel_of_not_mem isNoTarget, same]
    exact ⟨rfl, fun _ => rfl⟩
  · have written :
        StackMachine.parallel low32.extract low32.overwrite registers translations entryReg =
          low32.overwrite (registers entryReg) (low32.extract (registers exitReg)) :=
      StackMachine.parallel_of_mem (translates.distinct isSet oneToOne) (isMoved same)
    change low32.extract (StackMachine.parallel _ _ registers translations entryReg) = _ ∧
      (_ → StackMachine.parallel _ _ registers translations entryReg = registers exitReg)
    rw [written]
    refine ⟨BitField.extract_overwrite BitField.extract_lt, ?_⟩
    intro areShort
    have isShort : low32.extract (registers exitReg) = registers exitReg :=
      BitField.extract_of_lt (areShort exitReg)
    rw [isShort]
    exact BitField.overwrite_of_lt (areShort entryReg) (areShort exitReg)

/-! ## Edges -/

variable {config : DatapathConfig} {datapath : Datapath}

/-- The flow of an edge sits in the table of its way out, leads to the table of its way
in, and carries every public variable, given the allocations of the two vertices. -/
def ServesEdge (datapath : Datapath) (edge : Edge) (flow : GotoFlow) : Prop :=
  ∃ exitAlloc entryAlloc, datapath.dpAllocs.lookup edge.exitpoint.vertex = some exitAlloc ∧
    datapath.dpAllocs.lookup edge.entrypoint.vertex = some entryAlloc ∧
    (∃ dest translations,
      exitAlloc.exitpoints.lookup edge.exitpoint.name = some flow.tableId ∧
      entryAlloc.entrypoints.lookup edge.entrypoint.name = some dest ∧
      flow = gotoFlow flow.tableId dest translations) ∧
    ∀ var ∈ datapath.publicVariables, ∃ exitReg entryReg,
      exitAlloc.fullMapping.lookup var = some exitReg ∧
      entryAlloc.fullMapping.lookup var = some entryReg ∧ Carries flow exitReg entryReg

/-- Both ends of the edge are among the vertices. -/
def Between (edge : Edge) (vertices : List Vertex) : Prop :=
  edge.exitpoint.vertex ∈ vertices.map Vertex.name ∧
    edge.entrypoint.vertex ∈ vertices.map Vertex.name

def withSent (datapath : Datapath) (flows : List GotoFlow) : Datapath :=
  { datapath with sent := datapath.sent ++ flows }

theorem AllAllocated.mapped {vertices : List Vertex} {name : String}
    (allocated : AllAllocated config vertices datapath)
    (isName : name ∈ vertices.map Vertex.name) {dpAlloc : DpAlloc}
    (found : datapath.dpAllocs.lookup name = some dpAlloc) :
    OneToOne dpAlloc.fullMapping := by
  rcases List.mem_map.mp isName with ⟨vertex, member, rfl⟩
  rcases allocated.present vertex member with
    ⟨_, _, _, other, _, _, foundOther, mapped, _⟩
  rw [found, Option.some.injEq] at foundOther
  rw [foundOther]
  exact mapped.oneToOne

/-- An edge either sends one flow, or raises and leaves everything as it was. -/
theorem installEdge_leads {vertices : List Vertex} (edge : Edge)
    (allocated : AllAllocated config vertices datapath) :
    Leads (installEdge config edge) datapath
      (fun _ after => ∃ flow, after = datapath.withSent [flow] ∧
        (Between edge vertices → ServesEdge datapath edge flow))
      (fun _ after => after = datapath) := by
  rw [installEdge]
  simp only [leads_bind, leads_get]
  refine (Leads.ofExcept _).mono ?_ fun _ _ raised => raised.2
  rintro exitAlloc _ ⟨exitFound, rfl⟩
  refine (Leads.ofExcept _).mono ?_ fun _ _ raised => raised.2
  rintro entryAlloc _ ⟨entryFound, rfl⟩
  refine (Leads.ofExcept _).mono ?_ fun _ _ raised => raised.2
  rintro translations _ ⟨collected, rfl⟩
  refine (Leads.ofExcept _).mono ?_ fun _ _ raised => raised.2
  rintro source _ ⟨sourceFound, rfl⟩
  refine (Leads.ofExcept _).mono ?_ fun _ _ raised => raised.2
  rintro dest datapath ⟨destFound, rfl⟩
  refine ⟨gotoFlow source dest translations, rfl, ?_⟩
  intro between
  have walked := config.variableOrder.perm datapath.publicVariables
  refine ⟨exitAlloc, entryAlloc, lookup_of_item exitFound, lookup_of_item entryFound,
    ⟨dest, translations, lookup_of_item sourceFound, lookup_of_item destFound, rfl⟩, ?_⟩
  intro var isPublic
  apply (edgeTranslations_translates collected).carries
  · exact walked.nodup_iff.mpr datapath.isSet
  · exact allocated.mapped between.2 (lookup_of_item entryFound)
  · exact walked.mem_iff.mpr isPublic

/-- The edges that the last loop has installed. -/
structure Installing (vertices : List Vertex) (edges : List Edge)
    (datapath after : Datapath) : Prop where
  sent : ∃ flows, after = datapath.withSent flows ∧
    List.Forall₂ (fun edge flow => Between edge vertices →
      ServesEdge datapath edge flow) edges flows

theorem AllAllocated.withSent {vertices : List Vertex} (flows : List GotoFlow)
    (allocated : AllAllocated config vertices datapath) :
    AllAllocated config vertices (datapath.withSent flows) :=
  ⟨allocated.present, allocated.numbered, allocated.inOrder⟩

theorem installEdges_leads {vertices : List Vertex} (done edges : List Edge)
    {start : Datapath} (allocated : AllAllocated config vertices start)
    (before : Installing vertices done start datapath) :
    Leads (installEdges config edges) datapath
      (fun _ after => Installing vertices (done ++ edges) start after)
      (fun _ after => ∃ reached, reached <+: done ++ edges ∧
        Installing vertices reached start after) := by
  induction edges generalizing done datapath with
  | nil =>
      rw [installEdges, List.append_nil]
      exact before
  | cons edge edges induction =>
      rcases before.sent with ⟨flows, isSent, serving⟩
      have allocatedNow : AllAllocated config vertices datapath :=
        isSent ▸ allocated.withSent flows
      have same : done ++ edge :: edges = done ++ [edge] ++ edges := by simp
      rw [installEdges, leads_bind]
      refine (installEdge_leads edge allocatedNow).mono ?_ ?_
      · rintro _ after ⟨flow, rfl, serves⟩
        rw [same]
        apply induction
        refine ⟨flows ++ [flow], ?_, ?_⟩
        · rw [isSent]
          simp [Datapath.withSent]
        · apply List.rel_append serving
          refine List.Forall₂.cons ?_ List.Forall₂.nil
          intro between
          have served := serves between
          rw [isSent] at served
          exact served
      · rintro error after rfl
        exact ⟨done, List.prefix_append _ _, before⟩

/-! ## Setting up the datapath -/

/-- What `set_up` has done for the first vertices and edges of a layout. -/
structure SetUp (config : DatapathConfig) (layout : Layout) (vertices : List Vertex)
    (edges : List Edge) (before after : Datapath) : Prop where
  allocated : AllAllocated config vertices after
  publicVariables : vertices ≠ [] → ∀ var,
    var ∈ after.publicVariables ↔ PublicIn config layout.vertices var
  flows : ∃ flows, after.sent = before.sent ++ flows ∧
    List.Forall₂ (fun edge flow => Between edge vertices →
      ServesEdge after edge flow) edges flows

/-- Every application of the layout keeps its own registers apart. -/
def AllWellMapped (config : DatapathConfig) (layout : Layout) : Prop :=
  ∀ vertex ∈ layout.vertices, ∀ specification,
    config.getAppClass vertex.type = .ok specification → WellMapped specification

theorem setUp_of_allocating {layout : Layout} {start loaded after : Datapath}
    {vertices : List Vertex} (allocating : Allocating config vertices loaded after)
    (sameSent : loaded.sent = start.sent)
    (union : ∀ var, var ∈ loaded.publicVariables ↔ PublicIn config layout.vertices var) :
    SetUp config layout vertices [] start after := by
  refine ⟨allocating.allocated, ?_, [], ?_, List.Forall₂.nil⟩
  · intro _ var
    rw [allocating.sameVariables]
    exact union var
  · rw [allocating.sameSent, sameSent, List.append_nil]

theorem SetUp.install {layout : Layout} {start allocated after : Datapath}
    {vertices : List Vertex} {edges : List Edge}
    (isSetUp : SetUp config layout vertices [] start allocated)
    (installing : Installing vertices edges allocated after) :
    SetUp config layout vertices edges start after := by
  rcases installing.sent with ⟨flows, rfl, serving⟩
  rcases isSetUp.flows with ⟨none_, sent, isNone⟩
  cases isNone
  refine ⟨isSetUp.allocated.withSent flows, isSetUp.publicVariables, flows, ?_, serving⟩
  change allocated.sent ++ flows = _
  rw [sent, List.append_nil]

theorem setUp_leads {layout : Layout} (wellMapped : AllWellMapped config layout)
    (start : Datapath) :
    Leads (setUp config layout) start
      (fun _ after => SetUp config layout layout.vertices layout.edges start after)
      (fun _ after => ∃ vertices edges, vertices <+: layout.vertices ∧
        edges <+: layout.edges ∧ SetUp config layout vertices edges start after) := by
  let cleared : Datapath :=
    { start with
      tableGenerator := config.tableOffset
      publicVariables := []
      isSet := List.nodup_nil }
  have nothingLoaded : Loaded config [] ∅ cleared :=
    { classes := fun type specification found => nomatch found
      present := by simp
      fromVertex := fun type specification found => nomatch found
      union := by simp [cleared, PublicIn] }
  rw [setUp]
  simp only [leads_bind, leads_modify]
  refine (loadAppClasses_leads [] layout.vertices cleared nothingLoaded ⟨rfl, rfl, rfl⟩).mono
    ?_ ?_
  · rintro appClasses loaded ⟨isLoaded, -, sameTables, sameSent⟩
    rw [List.nil_append] at isLoaded
    have classesWellMapped : ∀ type specification,
        appClasses.lookup type = some specification → WellMapped specification := by
      intro type specification found
      rcases isLoaded.fromVertex type specification found with ⟨vertex, member, rfl⟩
      exact wellMapped vertex member specification (isLoaded.classes _ _ found)
    have nothingAllocated : Allocating config [] loaded loaded :=
      ⟨allAllocated_nil (Nat.le_of_eq sameTables.symm), rfl, rfl⟩
    refine (allocateVertices_leads isLoaded.classes classesWellMapped [] layout.vertices
      loaded nothingAllocated).mono ?_ ?_
    · intro _ allocated allocating
      rw [List.nil_append] at allocating
      have isSetUp : SetUp config layout layout.vertices [] start allocated :=
        setUp_of_allocating allocating sameSent isLoaded.union
      have nothingInstalled : Installing layout.vertices [] allocated allocated :=
        ⟨[], by simp [withSent], List.Forall₂.nil⟩
      refine (installEdges_leads [] layout.edges isSetUp.allocated nothingInstalled).mono ?_ ?_
      · intro _ after installing
        exact isSetUp.install installing
      · rintro error after ⟨reached, isPrefix, installing⟩
        exact ⟨layout.vertices, reached, List.prefix_refl _, isPrefix,
          isSetUp.install installing⟩
    · rintro error after ⟨reached, isPrefix, allocating⟩
      exact ⟨reached, [], isPrefix, List.nil_prefix,
        setUp_of_allocating allocating sameSent isLoaded.union⟩
  · rintro error after ⟨-, sameTables, sameSent⟩
    refine ⟨[], [], List.nil_prefix, List.nil_prefix,
      allAllocated_nil (Nat.le_of_eq sameTables.symm), by simp, [], ?_, List.Forall₂.nil⟩
    rw [sameSent, List.append_nil]

/-- Registers and tables are handed out soundly, and edges carry the variables. One
allocation fails for want of registers, or because an entrypoint leads to a state that
the application does not declare; else its mapping covers the public variables. However
far `set_up` gets, the vertices it reached have tables of their own, and the flows it
sent for edges between them carry every public variable. -/
theorem datapath_allocation_sound (config : DatapathConfig) (layout : Layout)
    (wellMapped : AllWellMapped config layout) :
    (∀ vertex ∈ layout.vertices, ∀ specification,
      config.getAppClass vertex.type = .ok specification → ∀ datapath,
      Leads (createDpAlloc config specification) datapath
        (fun dpAlloc after => Allocates specification datapath.publicVariables dpAlloc
          datapath.tableGenerator after.tableGenerator)
        (fun error _ => error = .runtimeError ∨
          error = .keyError ∧ ¬ EntrypointsDeclared specification)) ∧
    ∀ start, Leads (setUp config layout) start
      (fun _ after => SetUp config layout layout.vertices layout.edges start after)
      (fun _ after => ∃ vertices edges, vertices <+: layout.vertices ∧
        edges <+: layout.edges ∧ SetUp config layout vertices edges start after) := by
  refine ⟨?_, setUp_leads wellMapped⟩
  intro vertex member specification hasClass datapath
  refine (createDpAlloc_leads config (wellMapped vertex member specification hasClass)
    datapath).mono ?_ fun _ _ raised => raised.2
  rintro dpAlloc after ⟨next, _, rfl, allocates⟩
  exact allocates

/-! ### Two applications that keep their variables in different registers -/

/-- `DummyApp` of the tests. -/
def dummyApp : Specification :=
  { states := ["main"]
    entrypoints := [⟨"conn1", "main"⟩, ⟨"conn2", "main"⟩]
    exitpoints := [⟨"conn1"⟩, ⟨"conn2"⟩]
    publicMapping := List.toAList [⟨"var1", "reg0"⟩, ⟨"var2", "reg1"⟩, ⟨"var3", "reg2"⟩]
    privateMapping := List.toAList [⟨"priv1", "reg3"⟩, ⟨"priv2", "reg7"⟩] }

/-- `Dummy2App` of the tests. -/
def dummy2App : Specification :=
  { dummyApp with
    publicMapping := List.toAList [⟨"var1", "reg0"⟩, ⟨"var3", "reg1"⟩]
    privateMapping := List.toAList [⟨"priv1", "reg2"⟩, ⟨"priv2", "reg7"⟩] }

/-- Sets are walked and popped in the order they are written in. -/
def testConfig : DatapathConfig :=
  { tableOffset := 201
    getAppClass := fun type =>
      if type = "dummy" then .ok dummyApp
      else if type = "dummy2" then .ok dummy2App
      else .error .runtimeError
    instantiate := fun _ _ => .ok ()
    variableOrder := ⟨id, fun _ => List.Perm.refl _⟩
    popVariables := fun _ => ⟨id, fun _ => List.Perm.refl _⟩
    popRegisters := fun _ => ⟨id, fun _ => List.Perm.refl _⟩ }

def testLayout : Layout :=
  { vertices := [⟨"app1", "dummy"⟩, ⟨"app2", "dummy2"⟩]
    edges := [⟨⟨"app1", "out", "conn1"⟩, ⟨"app2", "in", "conn1"⟩⟩] }

theorem testLayout_wellMapped : AllWellMapped testConfig testLayout := by
  have wellMapped : WellMapped dummyApp ∧ WellMapped dummy2App := by decide
  intro vertex _ specification hasClass
  simp only [testConfig] at hasClass
  split at hasClass
  · rw [← Except.ok.inj hasClass]
    exact wellMapped.1
  · split at hasClass
    · rw [← Except.ok.inj hasClass]
      exact wellMapped.2
    · cases hasClass

theorem datapath_allocation_sound_dummies :
    ∃ after, exec (setUp testConfig testLayout) (init testConfig) = (.ok (), after) ∧
      SetUp testConfig testLayout testLayout.vertices testLayout.edges (init testConfig)
        after :=
  have returned : (exec (setUp testConfig testLayout) (init testConfig)).1 = .ok () := by
    decide +kernel
  ⟨_, Prod.ext returned rfl,
    ((datapath_allocation_sound testConfig testLayout testLayout_wellMapped).2
      (init testConfig)).of_result returned⟩

/-- `DummyApp` with an entrypoint for a state that it does not have. -/
def danglingApp : Specification :=
  { dummyApp with entrypoints := [⟨"conn1", "other"⟩] }

/-- An allocation can raise something else than `RuntimeError`. -/
theorem allocation_raises_key_error :
    WellMapped danglingApp ∧
    ¬ Leads (createDpAlloc testConfig danglingApp) (init testConfig)
      (fun _ _ => True) (fun error _ => error = .runtimeError) := by
  refine ⟨by decide, ?_⟩
  have raised : (exec (createDpAlloc testConfig danglingApp) (init testConfig)).1.map
      (fun _ => ()) = .error .keyError := by decide +kernel
  intro leads
  unfold Leads at leads
  rcases executed : exec (createDpAlloc testConfig danglingApp) (init testConfig) with
    ⟨error | dpAlloc, after⟩
  · rw [executed] at leads raised
    have isKeyError : error = .keyError := Except.error.inj raised
    rw [isKeyError] at leads
    cases leads
  · rw [executed] at raised
    cases raised

end Datapath

end Dragonflow

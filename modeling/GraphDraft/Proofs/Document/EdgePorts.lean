import GraphDraft.Proofs.Document.Run
import Mathlib.Data.List.Find

/-!
# The ports of edges

An edge is made between ports that match. It keeps them through every operation but the removal of a
port definition: then it is kept if any port on the same side of the composite has its key, be it of
the other kind or of a type that does not fit. `Operation.Safe` says when that does not happen, and
every edge has its ports in all states of a run if and only if each of its operations is safe
(`ported_runAll_iff`).
-/

namespace GraphDraft

variable {d : Document}

/-! ## Ports of a composite -/

/-- The kind of the ports at which edges of a kind end. -/
def EdgeKind.inputPort : EdgeKind → PortKind
  | control => .controlInput
  | value => .valueInput

/-- The kind of the ports at which edges of a kind start. -/
def EdgeKind.outputPort : EdgeKind → PortKind
  | control => .controlOutput
  | value => .valueOutput

/-- The definition of the port that edges find under a key. -/
def definitionAt? (ds : List PortDefinition) (kind : PortKind) (key : String) :
    Option PortDefinition :=
  ds.find? fun p => p.kind = kind && p.key = key

namespace Ports

/-- Whether an output can feed an input of a type. -/
def Feeds (s : Ports) (kind : EdgeKind) (output : String) (type : DataType) : Prop :=
  match kind with
  | .control => output ∈ s.controlOutputs
  | .value => ∃ o, s.valueOutput? output = some o ∧ type.accepts o.type = true

/-- Whether an input can take from an output of a type. -/
def Takes (t : Ports) (kind : EdgeKind) (input : String) (type : DataType) : Prop :=
  match kind with
  | .control => input ∈ t.controlInputs
  | .value => ∃ i, t.valueInput? input = some i ∧ i.type.accepts type = true

end Ports

theorem definitionAt?_isSome {ds : List PortDefinition} {kind : PortKind} {key : String} :
    (∃ p, definitionAt? ds kind key = some p) ↔ ∃ p ∈ ds, p.kind = kind ∧ p.key = key := by
  rw [← Option.isSome_iff_exists, definitionAt?, List.find?_isSome]
  simp

theorem find?_definitionsOf (ds : List PortDefinition) (kind : PortKind) (key : String) :
    (definitionsOf kind ds).find? (·.key = key) = definitionAt? ds kind key := by
  rw [definitionsOf, List.find?_filter, definitionAt?]
  congr
  funext p
  simp

theorem valueInput?_ofDefinitions (ds : List PortDefinition) (key : String) :
    (Ports.ofDefinitions ds).valueInput? key =
      (definitionAt? ds .valueInput key).map fun p => { key := p.key, type := p.type } := by
  rw [Ports.valueInput?, Ports.ofDefinitions, List.find?_map, ← find?_definitionsOf]
  rfl

theorem valueOutput?_ofDefinitions (ds : List PortDefinition) (key : String) :
    (Ports.ofDefinitions ds).valueOutput? key =
      (definitionAt? ds .valueOutput key).map fun p => ⟨p.key, p.type⟩ := by
  rw [Ports.valueOutput?, Ports.ofDefinitions, List.find?_map, ← find?_definitionsOf]
  rfl

namespace Document

/-- When an output matches an input that definitions give. -/
theorem portsMatch_into_definitions {kind : EdgeKind} {s : Ports} {o i : String}
    {ds : List PortDefinition} : portsMatch kind s o (.ofDefinitions ds) i = true ↔
      ∃ p, definitionAt? ds kind.inputPort i = some p ∧ s.Feeds kind o p.type := by
  cases kind with
  | control =>
    have hmem : i ∈ (Ports.ofDefinitions ds).controlInputs ↔
        ∃ p, definitionAt? ds .controlInput i = some p :=
      mem_keys_definitionsOf.trans definitionAt?_isSome.symm
    simp [portsMatch, EdgeKind.inputPort, Ports.Feeds, hmem, and_comm]
  | value =>
    simp only [portsMatch, valueInput?_ofDefinitions, EdgeKind.inputPort, Ports.Feeds]
    cases s.valueOutput? o <;> cases definitionAt? ds .valueInput i <;> simp

/-- When an output that definitions give matches an input. -/
theorem portsMatch_from_definitions {kind : EdgeKind} {t : Ports} {o i : String}
    {ds : List PortDefinition} : portsMatch kind (.ofDefinitions ds) o t i = true ↔
      ∃ p, definitionAt? ds kind.outputPort o = some p ∧ t.Takes kind i p.type := by
  cases kind with
  | control =>
    have hmem : o ∈ (Ports.ofDefinitions ds).controlOutputs ↔
        ∃ p, definitionAt? ds .controlOutput o = some p :=
      mem_keys_definitionsOf.trans definitionAt?_isSome.symm
    simp [portsMatch, EdgeKind.outputPort, Ports.Takes, hmem]
  | value =>
    simp only [portsMatch, valueOutput?_ofDefinitions, EdgeKind.outputPort, Ports.Takes]
    cases definitionAt? ds .valueOutput o <;> cases t.valueInput? i <;> simp

/-! ## Edges with their ports -/

/-- Every edge joins ports that match. -/
def Ported (d : Document) : Prop :=
  ∀ ⦃g es⦄, d.edges? g = some es → ∀ e ∈ es, ∃ s t, d.ports? e.source = some s ∧
    d.ports? e.target = some t ∧ portsMatch e.kind s e.output t e.input = true

theorem ported_empty (title : String) : (empty title).Ported := by
  intro g es hes e he
  rw [edges?, graph?_empty] at hes
  split at hes
  · cases hes
    cases he
  · cases hes

/-- Edges keep their ports if they and the nodes that they join have not changed. -/
theorem Ported.of_edges (h : d.Ported) {e : Document}
    (hedges : ∀ g es, e.edges? g = some es → ∀ c ∈ es, ∃ k fs, d.edges? k = some fs ∧ c ∈ fs)
    (hports : ∀ n p, d.ports? n = some p → (∃ g es, e.edges? g = some es ∧
      ∃ c ∈ es, c.source = n ∨ c.target = n) → e.ports? n = some p) : e.Ported := by
  intro g es hes c hc
  obtain ⟨k, fs, hfs, hcf⟩ := hedges g es hes c hc
  obtain ⟨s, t, hs, ht, hm⟩ := h hfs c hcf
  exact ⟨s, t, hports _ s hs ⟨g, es, hes, c, hc, .inl rfl⟩,
    hports _ t ht ⟨g, es, hes, c, hc, .inr rfl⟩, hm⟩

theorem Ported.of_views (h : d.Ported) {e : Document} (hp : e.ports? = d.ports?)
    (he : e.edges? = d.edges?) : e.Ported := by
  unfold Ported
  rw [hp, he]
  exact h

theorem Ported.touch (h : d.Ported) : d.touch.Ported := h

theorem Ported.setPosition (h : d.Ported) (n : NodeId) (p : Point) :
    (d.setPosition n p).Ported := by
  rw [Document.setPosition]
  split
  · exact .touch (.of_views h (ports?_mapPosition ..) rfl)
  · exact h

theorem Ported.grown (h : d.Ported) (hv : d.Valid) {g : GraphId}
    (hg : d.graphs.contains g = true) (b : Blueprint) (p : Point) : (d.grown g b p).Ported := by
  refine h.of_edges (fun k es hes c hc => ?_) fun n q hq _ => ?_
  · rw [edges?_grown hv hg] at hes
    split at hes
    · obtain ⟨-, -, rfl⟩ := Option.map_eq_some_iff.1 hes
      cases hc
    · exact ⟨k, es, hes, hc⟩
  · exact ports?_grown_of_some hv b p hq

theorem Ported.addNode (h : d.Ported) (hv : d.Valid) (g : GraphId) (b : Blueprint) (p : Point) :
    ((Operation.addNode g b p).run d).Ported := by
  rw [Operation.run]
  cases ha : d.addNode g b p with
  | none => exact h
  | some r =>
    obtain ⟨n, e⟩ := r
    obtain ⟨hg, -, rfl, -⟩ := hv.addNode ha
    exact h.grown hv hg b p

theorem Ported.removeNode (h : d.Ported) (hv : d.Valid) (n : NodeId) :
    (d.removeNode n).Ported := by
  obtain ⟨r, hr⟩ := removeNode_eq hv n
  rw [hr]
  have hedges : ∀ g es, ((d.revised r).removing (d.inside n) (d.inside n)).edges? g = some es →
      ∀ c ∈ es, d.inside n c.source = false ∧ d.inside n c.target = false ∧
        ∃ fs, d.edges? g = some fs ∧ c ∈ fs := by
    intro g es hes c hc
    obtain ⟨x, hx, rfl⟩ := graph?_of_edges? hes
    obtain ⟨y, hy, -, rfl⟩ := graph?_removing_eq_some (hv.revised r) hx
    obtain ⟨hc, hcut⟩ := List.mem_filter.1 hc
    simp only [Bool.and_eq_true, Bool.not_eq_true'] at hcut
    exact ⟨hcut.1, hcut.2, _, edges?_of_graph? hy, hc⟩
  refine h.of_edges (fun g es hes c hc => ?_) fun m p hm hex => ?_
  · obtain ⟨-, -, fs, hfs, hc⟩ := hedges g es hes c hc
    exact ⟨g, fs, hfs, hc⟩
  · obtain ⟨g, es, hes, c, hc, hcm⟩ := hex
    obtain ⟨hs, ht, -⟩ := hedges g es hes c hc
    have hout : d.inside n m = false := by rcases hcm with rfl | rfl <;> assumption
    rw [ports?_removing (hv.revised r), hout]
    exact hm

theorem Ported.mapEdges (h : d.Ported) {g : GraphId} {f : List Edge → List Edge}
    (hf : ∀ es, d.edges? g = some es → ∀ e ∈ f es, e ∈ es ∨ ∃ s t, d.ports? e.source = some s ∧
      d.ports? e.target = some t ∧ portsMatch e.kind s e.output t e.input = true) :
    (d.mapEdges g f).Ported := by
  intro k es hes e he
  rw [edges?_mapEdges] at hes
  split at hes
  · obtain ⟨fs, hfs, rfl⟩ := Option.map_eq_some_iff.1 hes
    subst k
    exact (hf fs hfs e he).elim (h hfs e) id
  · exact h hes e he

theorem Ported.connect (h : d.Ported) (e : Edge) : (d.connect e).Ported := by
  rw [Document.connect]
  split
  · rename_i hc
    obtain ⟨s, t, hs, ht, -, -, hm, -⟩ := canConnect_iff.1 hc
    simp only [addEdge, hs]
    refine .touch (.mapEdges h fun es _ c hc => ?_)
    rcases List.mem_append.1 hc with hc | hc
    · exact .inl hc
    · cases List.mem_singleton.1 hc
      exact .inr ⟨_, _, ports?_of_node? hs, ports?_of_node? ht, hm⟩
  · exact h

theorem Ported.disconnect (h : d.Ported) (e : Edge) : (d.disconnect e).Ported := by
  rw [Document.disconnect]
  split
  · split
    · exact .touch (.mapEdges h fun es _ c hc => .inl (List.mem_of_mem_erase hc))
    · exact h
  · exact h

/-- Filling an input leaves its key and its type. -/
theorem map_valueInput?_fill (p : Ports) (key key' : String) (v : Value) :
    (Ports.valueInput? { p with valueInputs := fill key v p.valueInputs } key').map (·.type) =
      (p.valueInput? key').map (·.type) := by
  simp only [Ports.valueInput?]
  induction p.valueInputs with
  | nil => rfl
  | cons i is ih =>
    rw [fill]
    by_cases hi : i.key = key
    · rw [if_pos hi, List.find?_cons, List.find?_cons]
      cases decide (i.key = key') <;> rfl
    · rw [if_neg hi, List.find?_cons, List.find?_cons]
      cases decide (i.key = key')
      · exact ih
      · rfl

theorem portsMatch_congr {kind : EdgeKind} {s s' t t' : Ports} {o i : String}
    (hs : s'.controlOutputs = s.controlOutputs ∧ s'.valueOutputs = s.valueOutputs)
    (ht : t'.controlInputs = t.controlInputs ∧
      (t'.valueInput? i).map (·.type) = (t.valueInput? i).map (·.type)) :
    portsMatch kind s' o t' i = portsMatch kind s o t i := by
  cases kind with
  | control => rw [portsMatch, hs.1, ht.1, portsMatch]
  | value =>
    have ho : s'.valueOutput? o = s.valueOutput? o := by
      rw [Ports.valueOutput?, hs.2, Ports.valueOutput?]
    obtain ⟨-, ht⟩ := ht
    simp only [portsMatch, ho]
    cases s.valueOutput? o <;> cases hti : t.valueInput? i <;> cases hti' : t'.valueInput? i <;>
      simp_all

theorem Ported.setDefault (h : d.Ported) (n : NodeId) (key : String) (v : Value) :
    (d.setDefault n key v).Ported := by
  rw [Document.setDefault]
  split
  · refine .touch fun g es hes e he => ?_
    obtain ⟨s, t, hs, ht, hm⟩ := h hes e he
    -- each end has its ports, or the same ports with one input filled
    have hend : ∀ m p, d.ports? m = some p → ∃ p', (d.mapPorts n fun p =>
        { p with valueInputs := fill key v p.valueInputs }).ports? m = some p' ∧
        p'.controlInputs = p.controlInputs ∧ p'.controlOutputs = p.controlOutputs ∧
        p'.valueOutputs = p.valueOutputs ∧
        ∀ i, (p'.valueInput? i).map (·.type) = (p.valueInput? i).map (·.type) := by
      intro m p hp
      rw [ports?_mapPorts, hp]
      split
      · exact ⟨_, rfl, rfl, rfl, rfl, fun i => map_valueInput?_fill p key i v⟩
      · exact ⟨p, rfl, rfl, rfl, rfl, fun _ => rfl⟩
    obtain ⟨s', hs', -, hco, hvo, -⟩ := hend _ s hs
    obtain ⟨t', ht', hci, -, -, hvi⟩ := hend _ t ht
    exact ⟨s', t', hs', ht', (portsMatch_congr ⟨hco, hvo⟩ ⟨hci, hvi _⟩).trans hm⟩
  · exact h

theorem Ported.modifyVariables (h : d.Ported) (scope : Scope) (g : GraphId)
    (f : Declarations → Declarations) : (d.modifyVariables scope g f).Ported := by
  cases scope with
  | graph => exact .touch (.of_views h rfl (edges?_mapDeclarations ..))
  | object | scene | application | saved => exact h

/-! ## Edges at a composite -/

/-- An edge joins ports that match once node `n` has other ports. -/
def MatchesAt (d : Document) (n : NodeId) (p : Ports) (e : Edge) : Prop :=
  ∃ s t, (d.mapPorts n fun _ => p).ports? e.source = some s ∧
    (d.mapPorts n fun _ => p).ports? e.target = some t ∧
    portsMatch e.kind s e.output t e.input = true

/-- The port at which an edge ends is there among some definitions, and the edge fits its type. -/
def EndsAmong (d : Document) (ds : List PortDefinition) (e : Edge) : Prop :=
  ∃ q s, definitionAt? ds e.kind.inputPort e.input = some q ∧ d.ports? e.source = some s ∧
    s.Feeds e.kind e.output q.type

/-- The port at which an edge starts is there among some definitions, and the edge fits its type. -/
def StartsAmong (d : Document) (ds : List PortDefinition) (e : Edge) : Prop :=
  ∃ q t, definitionAt? ds e.kind.outputPort e.output = some q ∧ d.ports? e.target = some t ∧
    t.Takes e.kind e.input q.type

theorem matchesAt_of_ne {n : NodeId} {p : Ports} {e : Edge} (hs : e.source ≠ n)
    (ht : e.target ≠ n) : d.MatchesAt n p e ↔ ∃ s t, d.ports? e.source = some s ∧
      d.ports? e.target = some t ∧ portsMatch e.kind s e.output t e.input = true := by
  simp only [MatchesAt, ports?_mapPorts, if_neg hs, if_neg ht]

theorem matchesAt_target {n : NodeId} {p : Ports} {e : Edge} (hne : e.source ≠ e.target)
    (ht : e.target = n) (hn : d.ports? n = some p) (ds : List PortDefinition) :
    d.MatchesAt n (.ofDefinitions ds) e ↔ d.EndsAmong ds e := by
  subst ht
  simp only [MatchesAt, ports?_mapPorts, if_neg hne, hn, EndsAmong]
  constructor
  · rintro ⟨s, t, hs, ht, hm⟩
    cases ht
    obtain ⟨q, hq, hf⟩ := portsMatch_into_definitions.1 hm
    exact ⟨q, s, hq, hs, hf⟩
  · rintro ⟨q, s, hq, hs, hf⟩
    exact ⟨s, _, hs, rfl, portsMatch_into_definitions.2 ⟨q, hq, hf⟩⟩

theorem matchesAt_source {n : NodeId} {p : Ports} {e : Edge} (hne : e.source ≠ e.target)
    (hs : e.source = n) (hn : d.ports? n = some p) (ds : List PortDefinition) :
    d.MatchesAt n (.ofDefinitions ds) e ↔ d.StartsAmong ds e := by
  subst hs
  simp only [MatchesAt, ports?_mapPorts, if_neg hne.symm, hn, StartsAmong]
  constructor
  · rintro ⟨s, t, hs, ht, hm⟩
    cases hs
    obtain ⟨q, hq, hf⟩ := portsMatch_from_definitions.1 hm
    exact ⟨q, t, hq, ht, hf⟩
  · rintro ⟨q, t, hq, ht, hf⟩
    exact ⟨_, t, rfl, ht, portsMatch_from_definitions.2 ⟨q, hq, hf⟩⟩

/-- Edges keep their ports if the definitions of a body change and the edges that still find their
keys at its owner match the new ports. -/
theorem ported_editDefinitions_iff (hv : d.Valid) (h : d.Ported) {g k : GraphId} {n : NodeId}
    {ns : List NodeId} {c : Option GraphId} {ds : List PortDefinition}
    (hl : d.listing? g = some (some n, ns)) (hn : d.place? n = some (k, c))
    (hds : d.definitions? g = some ds) (f : List PortDefinition → List PortDefinition) :
    (d.editDefinitions g f).Ported ↔ ∀ es, d.edges? k = some es → ∀ e ∈ es,
      e.fits n (.ofDefinitions (f ds)) = true → d.MatchesAt n (.ofDefinitions (f ds)) e := by
  rw [editDefinitions_of_owner hl hn hds]
  set p : Ports := .ofDefinitions (f ds)
  have hedges : ∀ l, (((d.mapDefinitions g f).mapPorts n fun _ => p).mapEdges k
      (·.filter (·.fits n p))).edges? l =
        if l = k then (d.edges? l).map (·.filter (·.fits n p)) else d.edges? l := by
    simp [edges?_mapEdges]
  constructor
  · intro hp es hes e he hfit
    refine @hp k (es.filter (·.fits n p)) ?_ e (List.mem_filter.2 ⟨he, hfit⟩)
    exact (hedges k).trans (by rw [if_pos rfl, hes]; rfl)
  · intro hmatch l es hes e he
    replace hes := (hedges l).symm.trans hes
    split at hes
    · obtain ⟨fs, hfs, rfl⟩ := Option.map_eq_some_iff.1 hes
      subst l
      obtain ⟨he, hfit⟩ := List.mem_filter.1 he
      exact hmatch fs hfs e he hfit
    · rename_i hlk
      have hj := hv.wired hes e he
      obtain ⟨⟨_, hs⟩, _, ht⟩ := And.intro hj.source hj.target
      refine (matchesAt_of_ne (p := p) (n := n) ?_ ?_).2 (h hes e he)
      · rintro rfl
        rw [hn] at hs
        cases hs
        exact hlk rfl
      · rintro rfl
        rw [hn] at ht
        cases ht
        exact hlk rfl

/-- An edge at a composite matches the ports that its body defines. -/
theorem Ported.matchesAt (hv : d.Valid) (h : d.Ported) {g k : GraphId} {n : NodeId}
    {ds : List PortDefinition} (hn : d.place? n = some (k, some g))
    (hds : d.definitions? g = some ds) {l : GraphId} {es : List Edge} (hes : d.edges? l = some es)
    {e : Edge} (he : e ∈ es) : d.MatchesAt n (.ofDefinitions ds) e := by
  have hports : ∀ m p, d.ports? m = some p →
      (d.mapPorts n fun _ => .ofDefinitions ds).ports? m = some p := by
    intro m p hp
    rw [ports?_mapPorts, hp]
    split
    · subst m
      rw [hv.composed hn hp hds]
      rfl
    · rfl
  obtain ⟨s, t, hs, ht, hm⟩ := h hes e he
  exact ⟨s, t, hports _ s hs, hports _ t ht, hm⟩

theorem Ported.editDefinitions_of_unowned (h : d.Ported) {g : GraphId}
    (hl : ∀ n ns, d.listing? g ≠ some (some n, ns))
    (f : List PortDefinition → List PortDefinition) : (d.editDefinitions g f).Ported := by
  rw [Document.editDefinitions_of_unowned hl]
  exact .touch (.of_views h rfl (edges?_mapDefinitions ..))

/-- Definitions may change as long as the port that is found under a key stays the same. -/
theorem Ported.editDefinitions (hv : d.Valid) (h : d.Ported) (g : GraphId)
    {f : List PortDefinition → List PortDefinition}
    (hf : ∀ ds kind key q, d.definitions? g = some ds → definitionAt? ds kind key = some q →
      definitionAt? (f ds) kind key = some q) : (d.editDefinitions g f).Ported := by
  by_cases ho : ∃ n ns, d.listing? g = some (some n, ns)
  · obtain ⟨n, ns, hl⟩ := ho
    obtain ⟨k, hn⟩ := hv.tree.owner hl
    obtain ⟨y, hy, -⟩ := graph?_of_listing? hl
    have hds := definitions?_of_graph? hy
    obtain ⟨x, hx, -⟩ := node?_of_place? hn
    have hp := ports?_of_node? hx
    refine (ported_editDefinitions_iff hv h hl hn hds f).2 fun es hes e he _ => ?_
    have hm := h.matchesAt hv hn hds hes he
    have hne := (hv.wired hes e he).ne
    by_cases ht : e.target = n
    · obtain ⟨q, s, hq, hs⟩ := (matchesAt_target hne ht hp _).1 hm
      exact (matchesAt_target hne ht hp _).2 ⟨q, s, hf _ _ _ _ hds hq, hs⟩
    · by_cases hs : e.source = n
      · obtain ⟨q, t, hq, ht⟩ := (matchesAt_source hne hs hp _).1 hm
        exact (matchesAt_source hne hs hp _).2 ⟨q, t, hf _ _ _ _ hds hq, ht⟩
      · exact (matchesAt_of_ne hs ht).2 (h hes e he)
  · exact h.editDefinitions_of_unowned (fun n ns hn => ho ⟨n, ns, hn⟩) f

theorem Ported.definitionsChanged (hv : d.Valid) (h : d.Ported) (g : GraphId) :
    (d.definitionsChanged g).Ported := by
  have hid : d.mapDefinitions g id = d := mapDefinitions_eq_self hv.graphs fun _ _ => rfl
  have := h.editDefinitions hv g (f := id) fun _ _ _ _ _ hq => hq
  rwa [Document.editDefinitions, hid] at this

theorem Ported.addDefinition (hv : d.Valid) (h : d.Ported) (g : GraphId) (p : PortPlan) :
    ((Operation.addDefinition g p).run d).Ported := by
  rw [Operation.run, Document.addDefinition]
  split
  · refine Ported.editDefinitions hv.skipDefinition h g fun ds kind key q _ hq => ?_
    rw [definitionAt?, List.find?_append, ← definitionAt?, hq, Option.some_or]
  · exact h

/-! ## Removing a definition -/

/-- Removing definition `p` of the body of `n`, with `rest` of the definitions left, does no harm to
an edge: it is dropped, since no port of the same side has its key any more, or it finds a port of
its kind and a type that fits. -/
def Spares (d : Document) (n : NodeId) (p : PortDefinition) (rest : List PortDefinition)
    (e : Edge) : Prop :=
  (e.target = n → p.kind = e.kind.inputPort → p.key = e.input →
    (∀ q ∈ rest, q.kind.isInput = true → q.key ≠ e.input) ∨ d.EndsAmong rest e) ∧
  (e.source = n → p.kind = e.kind.outputPort → p.key = e.output →
    (∀ q ∈ rest, q.kind.isInput = false → q.key ≠ e.output) ∨ d.StartsAmong rest e)

end Document

theorem definitionAt?_of_other {ds : List PortDefinition} (hnd : (ds.map (·.id)).Nodup)
    {p : PortDefinition} (hp : p ∈ ds) {kind : PortKind} {key : String}
    (h : ¬(p.kind = kind ∧ p.key = key)) :
    definitionAt? (ds.filter (·.id ≠ p.id)) kind key = definitionAt? ds kind key := by
  rw [definitionAt?, List.find?_filter, definitionAt?]
  refine List.find?_congr fun q hq => ?_
  by_cases hqp : q.id = p.id
  · rw [List.inj_on_of_nodup_map hnd hq hp hqp]
    simpa using h
  · simp [hqp]

namespace Document

/-- One half of `Spares`. An edge that finds its key on a side finds its port there, unless that is
the port removed. -/
theorem spares_side_iff {rest : List PortDefinition} {p : PortDefinition} {kind : PortKind}
    {key : String} {side : PortDefinition → Prop} {found : Prop}
    (h : ¬(p.kind = kind ∧ p.key = key) → found) :
    ((∃ q ∈ rest, side q ∧ q.key = key) → found) ↔
      (p.kind = kind → p.key = key → (∀ q ∈ rest, side q → q.key ≠ key) ∨ found) := by
  constructor
  · intro himp _ _
    by_cases hex : ∃ q ∈ rest, side q ∧ q.key = key
    · exact .inr (himp hex)
    · exact .inl fun q hq hs hkey => hex ⟨q, hq, hs, hkey⟩
  · rintro hsp ⟨q, hq, hs, hkey⟩
    by_cases hpe : p.kind = kind ∧ p.key = key
    · exact (hsp hpe.1 hpe.2).resolve_left fun hno => hno q hq hs hkey
    · exact h hpe

theorem spares_iff (hv : d.Valid) (h : d.Ported) {g k l : GraphId} {n : NodeId}
    {ds : List PortDefinition} {p : PortDefinition} (hn : d.place? n = some (k, some g))
    (hds : d.definitions? g = some ds) (hp : p ∈ ds) {es : List Edge} (hes : d.edges? l = some es)
    {e : Edge} (he : e ∈ es) :
    (e.fits n (.ofDefinitions (ds.filter (·.id ≠ p.id))) = true →
        d.MatchesAt n (.ofDefinitions (ds.filter (·.id ≠ p.id))) e) ↔
      d.Spares n p (ds.filter (·.id ≠ p.id)) e := by
  set rest := ds.filter (·.id ≠ p.id)
  obtain ⟨x, hx, -⟩ := node?_of_place? hn
  have hports := ports?_of_node? hx
  have hm := h.matchesAt hv hn hds hes he
  have hne := (hv.wired hes e he).ne
  have hnd := hv.identified.nodup hds
  by_cases ht : e.target = n
  · have hs : e.source ≠ n := fun hs => hne (hs.trans ht.symm)
    rw [matchesAt_target hne ht hports] at hm
    rw [matchesAt_target hne ht hports, fits_iff, mem_inputKeys_ofDefinitions, Spares]
    simp only [ht, hs, forall_const, IsEmpty.forall_iff, and_true]
    refine spares_side_iff fun hpe => ?_
    obtain ⟨q, s, hq, hs⟩ := hm
    exact ⟨q, s, (definitionAt?_of_other hnd hp hpe).trans hq, hs⟩
  · by_cases hs : e.source = n
    · rw [matchesAt_source hne hs hports] at hm
      rw [matchesAt_source hne hs hports, fits_iff, mem_outputKeys_ofDefinitions, Spares]
      simp only [ht, hs, forall_const, IsEmpty.forall_iff, true_and]
      refine spares_side_iff fun hpe => ?_
      obtain ⟨q, t, hq, ht⟩ := hm
      exact ⟨q, t, (definitionAt?_of_other hnd hp hpe).trans hq, ht⟩
    · refine ⟨fun _ => ⟨fun ht' => absurd ht' ht, fun hs' => absurd hs' hs⟩, fun _ _ => ?_⟩
      exact (matchesAt_of_ne hs ht).2 (h hes e he)

end Document

/-- An operation leaves no edge without its ports: if it removes a definition of a body, it spares
the edges around the owner. -/
def Operation.Safe (o : Operation) (d : Document) : Prop :=
  match o with
  | removeDefinition g id => ∀ n ns k c ds es p, d.listing? g = some (some n, ns) →
      d.place? n = some (k, c) → d.edges? k = some es → d.definitions? g = some ds → p ∈ ds →
      p.id = id → ∀ e ∈ es, d.Spares n p (ds.filter (·.id ≠ id)) e
  | _ => True

/-- Operations each of which is safe when its turn comes. -/
def Operation.AllSafe : List Operation → Document → Prop
  | [], _ => True
  | o :: os, d => o.Safe d ∧ AllSafe os (o.run d)

namespace Document

theorem ported_removeDefinition_iff (hv : d.Valid) (h : d.Ported) (g : GraphId)
    (id : DefinitionId) :
    (d.removeDefinition g id).Ported ↔ (Operation.removeDefinition g id).Safe d := by
  rw [removeDefinition, Operation.Safe]
  by_cases hid : d.hasDefinition g id = true
  · rw [if_pos hid]
    by_cases ho : ∃ n ns, d.listing? g = some (some n, ns)
    · obtain ⟨n, ns, hl⟩ := ho
      obtain ⟨k, hn⟩ := hv.tree.owner hl
      obtain ⟨y, hy, -⟩ := graph?_of_listing? hl
      have hds := definitions?_of_graph? hy
      obtain ⟨p, hp, rfl⟩ : ∃ p ∈ y.definitions, p.id = id := by
        simpa [hasDefinition, hy] using hid
      rw [ported_editDefinitions_iff hv h hl hn hds]
      constructor
      · intro hm n' ns' k' c' ds' es p' hl' hn' hes hds' hp' hid' e he
        rw [hl] at hl'
        cases hl'
        rw [hn] at hn'
        cases hn'
        rw [hds] at hds'
        cases hds'
        cases List.inj_on_of_nodup_map (hv.identified.nodup hds) hp' hp hid'
        exact (spares_iff hv h hn hds hp hes he).1 (hm es hes e he)
      · intro hsp es hes e he
        exact (spares_iff hv h hn hds hp hes he).2 (hsp n ns k _ _ es p hl hn hes hds hp rfl e he)
    · refine iff_of_true (h.editDefinitions_of_unowned (fun n ns hn => ho ⟨n, ns, hn⟩) _) ?_
      exact fun n ns k c ds es p hl => absurd ⟨n, ns, hl⟩ ho
  · rw [if_neg hid]
    refine iff_of_true h fun n ns k c ds es p hl hn hes hds hp hpid => absurd ?_ hid
    obtain ⟨y, hy, rfl⟩ := Option.map_eq_some_iff.1 hds
    have hex : ∃ p ∈ y.definitions, p.id = id := ⟨p, hp, hpid⟩
    simpa [hasDefinition, show d.graph? g = some y from hy] using hex

theorem ported_run_iff (hv : d.Valid) (h : d.Ported) (o : Operation) :
    (o.run d).Ported ↔ o.Safe d := by
  cases o with
  | removeDefinition g id => exact ported_removeDefinition_iff hv h g id
  | select n => exact iff_of_true h trivial
  | setSelection ns => exact iff_of_true h trivial
  | extendSelection n =>
    refine iff_of_true ?_ trivial
    rw [Operation.run, extendSelection]
    split <;> exact h
  | selectGraph g => exact iff_of_true h trivial
  | setPointer p => exact iff_of_true h trivial
  | setPosition n p => exact iff_of_true (h.setPosition n p) trivial
  | addNode g b p => exact iff_of_true (h.addNode hv g b p) trivial
  | removeNode n => exact iff_of_true (h.removeNode hv n) trivial
  | connect e => exact iff_of_true (h.connect e) trivial
  | disconnect e => exact iff_of_true (h.disconnect e) trivial
  | setDefault n key v => exact iff_of_true (h.setDefault n key v) trivial
  | addDefinition g p => exact iff_of_true (h.addDefinition hv g p) trivial
  | definitionsChanged g => exact iff_of_true (h.definitionsChanged hv g) trivial
  | editVariables scope g es => exact iff_of_true (h.modifyVariables scope g _) trivial

theorem forall_prefix_ported_iff (hv : d.Valid) (h : d.Ported) (os : List Operation) :
    (∀ us, us <+: os → (Operation.runAll us d).Ported) ↔ Operation.AllSafe os d := by
  induction os generalizing d with
  | nil =>
    refine iff_of_true (fun us hus => ?_) trivial
    rw [List.prefix_nil.1 hus]
    exact h
  | cons o os ih =>
    rw [Operation.AllSafe, ← ported_run_iff hv h o]
    constructor
    · intro hall
      have ho : (o.run d).Ported := hall [o] ⟨os, rfl⟩
      refine ⟨ho, (ih (hv.run o) ho).1 fun us hus => ?_⟩
      exact hall (o :: us) (List.cons_prefix_cons.2 ⟨rfl, hus⟩)
    · rintro ⟨ho, hos⟩ us hus
      rcases List.prefix_cons_iff.1 hus with rfl | ⟨t, rfl, ht⟩
      · exact h
      · exact (ih (hv.run o) ho).2 hos t ht

/-- Removing a definition is safe if no other one on its side has its key. -/
theorem safe_of_other_keys {g : GraphId} {id : DefinitionId}
    (h : ∀ ds p q, d.definitions? g = some ds → p ∈ ds → p.id = id → q ∈ ds → q.id ≠ id →
      q.kind.isInput = p.kind.isInput → q.key ≠ p.key) :
    (Operation.removeDefinition g id).Safe d := by
  intro n ns k c ds es p _ _ _ hds hp hid e _
  have hrest : ∀ q ∈ ds.filter (·.id ≠ id), q ∈ ds ∧ q.id ≠ id := fun q hq => by
    simpa using List.mem_filter.1 hq
  refine ⟨fun _ hkind hkey => .inl fun q hq hqi => ?_, fun _ hkind hkey => .inl fun q hq hqi => ?_⟩
  · obtain ⟨hq, hne⟩ := hrest q hq
    refine hkey ▸ h ds p q hds hp hid hq hne ?_
    rw [hqi, hkind]
    cases e.kind <;> rfl
  · obtain ⟨hq, hne⟩ := hrest q hq
    refine hkey ▸ h ds p q hds hp hid hq hne ?_
    rw [hqi, hkind]
    cases e.kind <;> rfl

end Document

/-- All edges have their ports in all states of a run just if every operation of it is safe. -/
theorem ported_runAll_iff (title : String) (os : List Operation) :
    (∀ us, us <+: os → (Operation.runAll us (.empty title)).Ported) ↔
      Operation.AllSafe os (.empty title) :=
  Document.forall_prefix_ported_iff (Document.valid_empty title) (Document.ported_empty title) os

/-- A control edge ends at a composite under a key that a value input has too, and the control input
is removed. -/
def sharedKeyRun : List Operation :=
  [.addNode .root (.composite none ⟨"Sub",
      [{ kind := .controlInput, key := "x", label := "x" },
       { kind := .valueInput, key := "x", label := "x", type := .float }]⟩) .origin,
   .addNode .root
     { kind := .unit "Start", title := "Start", ports := { controlOutputs := ["exit"] } } .origin,
   .connect ⟨.control, ⟨1⟩, "exit", ⟨0⟩, "x"⟩,
   .removeDefinition ⟨1⟩ ⟨0⟩]

/-- The edge stays, though its composite has no control input any more. -/
theorem not_ported_sharedKeyRun : ¬(Operation.runAll sharedKeyRun (.empty "Main")).Ported := by
  intro h
  have hes : (Operation.runAll sharedKeyRun (.empty "Main")).edges? .root =
      some [⟨.control, ⟨1⟩, "exit", ⟨0⟩, "x"⟩] := rfl
  have hports : (Operation.runAll sharedKeyRun (.empty "Main")).ports? ⟨0⟩ =
      some { valueInputs := [⟨"x", .float, none⟩] } := rfl
  obtain ⟨s, t, -, ht, hm⟩ := h hes _ (List.mem_singleton_self _)
  rw [hports] at ht
  cases ht
  simp [Document.portsMatch] at hm

end GraphDraft

import GraphDraft.Proofs.Document.Edits

/-!
# Changing port definitions

Deriving ports gives the owner of a graph the ports that the graph defines and drops the edges at
the owner that have lost a key (`derivePorts_of_owner`); for the root graph it does nothing
(`derivePorts_of_unowned`). It makes a document valid again whose definitions have changed
(`Valid.editDefinitions`), whatever has become of them, as long as no identity is used twice.
-/

namespace GraphDraft

/-! ## Keys of composites -/

def PortKind.isInput : PortKind → Bool
  | controlInput | valueInput => true
  | controlOutput | valueOutput => false

theorem PortKind.isInput_iff {kind : PortKind} :
    kind.isInput = true ↔ kind = controlInput ∨ kind = valueInput := by
  cases kind <;> simp [isInput]

theorem PortKind.isInput_eq_false_iff {kind : PortKind} :
    kind.isInput = false ↔ kind = controlOutput ∨ kind = valueOutput := by
  cases kind <;> simp [isInput]

theorem mem_keys_definitionsOf {ds : List PortDefinition} {kind : PortKind} {key : String} :
    key ∈ (definitionsOf kind ds).map (·.key) ↔ ∃ p ∈ ds, p.kind = kind ∧ p.key = key := by
  simp [definitionsOf, and_assoc]

theorem mem_inputKeys_ofDefinitions {ds : List PortDefinition} {key : String} :
    key ∈ (Ports.ofDefinitions ds).inputKeys ↔ ∃ p ∈ ds, p.kind.isInput = true ∧ p.key = key := by
  have hvalue : (Ports.ofDefinitions ds).valueInputs.map (·.key) =
      (definitionsOf .valueInput ds).map (·.key) := by
    rw [Ports.ofDefinitions, List.map_map]
    rfl
  have hcontrol : (Ports.ofDefinitions ds).controlInputs =
      (definitionsOf .controlInput ds).map (·.key) := rfl
  rw [Ports.inputKeys, List.mem_append, hvalue, hcontrol, mem_keys_definitionsOf,
    mem_keys_definitionsOf]
  simp only [PortKind.isInput_iff, or_and_right, and_or_left, exists_or]

theorem mem_outputKeys_ofDefinitions {ds : List PortDefinition} {key : String} :
    key ∈ (Ports.ofDefinitions ds).outputKeys ↔ ∃ p ∈ ds, p.kind.isInput = false ∧ p.key = key := by
  have hvalue : (Ports.ofDefinitions ds).valueOutputs.map (·.key) =
      (definitionsOf .valueOutput ds).map (·.key) := by
    rw [Ports.ofDefinitions, List.map_map]
    rfl
  have hcontrol : (Ports.ofDefinitions ds).controlOutputs =
      (definitionsOf .controlOutput ds).map (·.key) := rfl
  rw [Ports.outputKeys, List.mem_append, hvalue, hcontrol, mem_keys_definitionsOf,
    mem_keys_definitionsOf]
  simp only [PortKind.isInput_eq_false_iff, or_and_right, and_or_left, exists_or]

namespace Document

variable {d : Document}

/-! ## Deriving ports -/

theorem derivePorts_of_owner {g : GraphId} {y : Graph} {n : NodeId} {x : Node}
    (hg : d.graph? g = some y) (ho : y.owner = some n) (hn : d.node? n = some x) :
    d.derivePorts g = (d.mapPorts n fun _ => .ofDefinitions y.definitions).mapEdges x.graph
      (·.filter (·.fits n (.ofDefinitions y.definitions))) := by
  simp [derivePorts, hg, ho, hn]

theorem derivePorts_of_unowned {g : GraphId} (h : ∀ n ns, d.listing? g ≠ some (some n, ns)) :
    d.derivePorts g = d := by
  rw [derivePorts]
  split
  · rfl
  · rename_i y hy
    cases ho : y.owner with
    | none => rfl
    | some n => exact absurd (ho ▸ listing?_of_graph? hy) (h n y.nodes)

@[simp] theorem definitions?_derivePorts (d : Document) (g : GraphId) :
    (d.derivePorts g).definitions? = d.definitions? := by
  rw [derivePorts]
  split
  · rfl
  · split
    · rfl
    · simp

@[simp] theorem definitions?_editDefinitions (d : Document) (g : GraphId)
    (f : List PortDefinition → List PortDefinition) :
    (d.editDefinitions g f).definitions? = (d.mapDefinitions g f).definitions? := by
  simp [editDefinitions, definitionsChanged]

theorem hasDefinition_iff {g : GraphId} {id : DefinitionId} : d.hasDefinition g id = true ↔
    ∃ ds, d.definitions? g = some ds ∧ ∃ p ∈ ds, p.id = id := by
  rw [hasDefinition, definitions?]
  cases d.graph? g <;> simp

theorem fits_iff {e : Edge} {n : NodeId} {p : Ports} : e.fits n p = true ↔
    (e.target = n → e.input ∈ p.inputKeys) ∧ (e.source = n → e.output ∈ p.outputKeys) := by
  simp [Edge.fits, Decidable.imp_iff_not_or]

/-- What is left of the edges at a node with new ports joins nodes at their new keys. -/
theorem Joins.of_fits {g : GraphId} {e : Edge} {n : NodeId} {p : Ports} {f : Ports → Ports}
    (h : Joins d.place? d.keys? g e) (hp : ∀ q, d.ports? n = some q → f q = p)
    (hf : e.fits n p = true) : Joins d.place? (d.mapPorts n f).keys? g e := by
  obtain ⟨hin, hout⟩ := fits_iff.1 hf
  have key : ∀ m is os, d.keys? m = some (is, os) →
      ∃ is' os', (d.mapPorts n f).keys? m = some (is', os') ∧
        (m ≠ n → is' = is ∧ os' = os) ∧ (m = n → is' = p.inputKeys ∧ os' = p.outputKeys) := by
    intro m is os hm
    obtain ⟨q, hq, hk⟩ := Option.map_eq_some_iff.1 hm
    rw [keys?, ports?_mapPorts]
    by_cases hmn : m = n
    · subst m
      simp [hq, hp q hq]
    · cases hk
      simp [hmn, hq]
  refine { h with output := ?_, input := ?_ }
  · obtain ⟨is, os, hk, ho⟩ := h.output
    obtain ⟨is', os', hk', hne, heq⟩ := key _ _ _ hk
    refine ⟨is', os', hk', ?_⟩
    by_cases hs : e.source = n
    · rw [(heq hs).2]; exact hout hs
    · rw [(hne hs).2]; exact ho
  · obtain ⟨is, os, hk, hi⟩ := h.input
    obtain ⟨is', os', hk', hne, heq⟩ := key _ _ _ hk
    refine ⟨is', os', hk', ?_⟩
    by_cases ht : e.target = n
    · rw [(heq ht).1]; exact hin ht
    · rw [(hne ht).1]; exact hi

theorem Joins.fits_of_ne {g : GraphId} {e : Edge} {n : NodeId} {p : Ports} {k : GraphId}
    {b : Option GraphId} (h : Joins d.place? d.keys? g e) (hn : d.place? n = some (k, b))
    (hk : g ≠ k) : e.fits n p = true := by
  obtain ⟨bs, hs⟩ := h.source
  obtain ⟨bt, ht⟩ := h.target
  refine fits_iff.2 ⟨fun he => ?_, fun he => ?_⟩
  · rw [he, hn] at ht; cases ht; exact absurd rfl hk
  · rw [he, hn] at hs; cases hs; exact absurd rfl hk

/-- What changing the definitions of a body comes to. -/
theorem editDefinitions_of_owner {g k : GraphId} {n : NodeId} {ns : List NodeId}
    {c : Option GraphId} {ds : List PortDefinition} (hl : d.listing? g = some (some n, ns))
    (hn : d.place? n = some (k, c)) (hds : d.definitions? g = some ds)
    (f : List PortDefinition → List PortDefinition) :
    d.editDefinitions g f =
      (((d.mapDefinitions g f).mapPorts n fun _ => .ofDefinitions (f ds)).mapEdges k
        (·.filter (·.fits n (.ofDefinitions (f ds))))).touch := by
  obtain ⟨y, hy, ho, -⟩ := graph?_of_listing? hl
  obtain ⟨x, hx, rfl, -⟩ := node?_of_place? hn
  have hy' : (d.mapDefinitions g f).graph? g = some { y with definitions := f y.definitions } := by
    rw [graph?, mapDefinitions, Store.get?_modify, if_pos rfl]
    exact congrArg (Option.map _) hy
  have hd : y.definitions = ds := by
    rw [definitions?_of_graph? hy] at hds
    exact Option.some.inj hds
  rw [editDefinitions, definitionsChanged, derivePorts_of_owner hy' ho hx, hd]

theorem editDefinitions_of_unowned {g : GraphId} (h : ∀ n ns, d.listing? g ≠ some (some n, ns))
    (f : List PortDefinition → List PortDefinition) :
    d.editDefinitions g f = (d.mapDefinitions g f).touch := by
  rw [editDefinitions, definitionsChanged, derivePorts_of_unowned]
  rw [listing?_mapDefinitions]
  exact h

/-- The owner of a graph has the ports that the graph defines. -/
theorem Valid.exists_owner (h : d.Valid) {g : GraphId} {n : NodeId} {ns : List NodeId}
    (hl : d.listing? g = some (some n, ns)) : ∃ k x ds, d.place? n = some (k, some g) ∧
      d.node? n = some x ∧ d.definitions? g = some ds ∧ x.ports = .ofDefinitions ds := by
  obtain ⟨k, hn⟩ := h.tree.owner hl
  obtain ⟨y, hy, -⟩ := graph?_of_listing? hl
  obtain ⟨x, hx, -⟩ := node?_of_place? hn
  have hds := definitions?_of_graph? hy
  exact ⟨k, x, _, hn, hx, hds, h.composed hn (ports?_of_node? hx) hds⟩

section
variable (h : d.Valid) {g : GraphId} {f : List PortDefinition → List PortDefinition}
include h

theorem Valid.editDefinitions_unowned (ho : ∀ n ns, d.listing? g ≠ some (some n, ns))
    (hi : Identified (d.mapDefinitions g f).definitions?)
    (hlt : ∀ ⦃k ds p⦄, (d.mapDefinitions g f).definitions? k = some ds → p ∈ ds →
      p.id.index < d.nextDefinition) : (d.editDefinitions g f).Valid := by
  rw [editDefinitions_of_unowned ho]
  refine .touch ?_
  exact
    { h with
      tree := by rw [listing?_mapDefinitions]; exact h.tree
      wired := by rw [edges?_mapDefinitions]; exact h.wired
      composed := by
        intro m k b q ds hm hq hds
        obtain ⟨-, ms, hms⟩ := h.tree.body hm
        have hb : b ≠ g := by rintro rfl; exact ho m ms hms
        rw [definitions?_mapDefinitions, if_neg hb] at hds
        exact h.composed hm hq hds
      identified := hi
      graph_lt := by rw [listing?_mapDefinitions]; exact h.graph_lt
      definition_lt := hlt
      graphVariables := by rw [variables?_mapDefinitions]; exact h.graphVariables
      graphs := .modify h.graphs _ _ }

theorem Valid.editDefinitions_owned {n : NodeId} {ns : List NodeId}
    (hl : d.listing? g = some (some n, ns))
    (hi : Identified (d.mapDefinitions g f).definitions?)
    (hlt : ∀ ⦃k ds p⦄, (d.mapDefinitions g f).definitions? k = some ds → p ∈ ds →
      p.id.index < d.nextDefinition) : (d.editDefinitions g f).Valid := by
  obtain ⟨k, hn⟩ := h.tree.owner hl
  obtain ⟨y, hy, -⟩ := graph?_of_listing? hl
  have hds := definitions?_of_graph? hy
  rw [editDefinitions_of_owner hl hn hds]
  refine .touch ?_
  set p : Ports := .ofDefinitions (f y.definitions) with hp
  set e := ((d.mapDefinitions g f).mapPorts n fun _ => p).mapEdges k (·.filter (·.fits n p))
  have hplace : e.place? = d.place? := by simp [e]
  have hlisting : e.listing? = d.listing? := by simp [e]
  have hports : ∀ m, e.ports? m = if m = n then (d.ports? m).map fun _ => p else d.ports? m := by
    simp [e, ports?_mapPorts]
  have hkeys : e.keys? = (d.mapPorts n fun _ => p).keys? := rfl
  have hdefs : e.definitions? = (d.mapDefinitions g f).definitions? := by simp [e]
  have hvars : e.variables? = d.variables? := by simp [e]
  have hgraphs : e.graphs.keys = d.graphs.keys := by simp [e]
  have hedges : ∀ l, e.edges? l =
      if l = k then (d.edges? l).map (·.filter (·.fits n p)) else d.edges? l := by
    simp [e, edges?_mapEdges]
  exact
    { h with
      tree := by rw [hplace, hlisting]; exact h.tree
      wired := by
        rw [hplace, hkeys]
        intro l es hes c hc
        rw [hedges] at hes
        split at hes
        · obtain ⟨fs, hfs, rfl⟩ := Option.map_eq_some_iff.1 hes
          obtain ⟨hc, hfit⟩ := List.mem_filter.1 hc
          exact (h.wired hfs c hc).of_fits (fun _ _ => rfl) hfit
        · rename_i hne
          have hj := h.wired hes c hc
          exact hj.of_fits (fun _ _ => rfl) (hj.fits_of_ne hn hne)
      composed := by
        rw [hplace, hdefs]
        intro m l b q ds hm hq hds
        rw [definitions?_mapDefinitions] at hds
        by_cases hb : b = g
        · subst b
          obtain ⟨-, ms, hms⟩ := h.tree.body hm
          have hmn : m = n := by rw [hl] at hms; cases hms; rfl
          rw [if_pos rfl, definitions?_of_graph? hy] at hds
          rw [hports, if_pos hmn] at hq
          obtain ⟨-, -, rfl⟩ := Option.map_eq_some_iff.1 hq
          cases hds
          rfl
        · have hmn : m ≠ n := by
            rintro rfl
            rw [hn] at hm
            cases hm
            exact hb rfl
          rw [if_neg hb] at hds
          rw [hports, if_neg hmn] at hq
          exact h.composed hm hq hds
      identified := by rw [hdefs]; exact hi
      node_lt := by rw [hplace]; exact h.node_lt
      graph_lt := by rw [hlisting]; exact h.graph_lt
      definition_lt := by rw [hdefs]; exact hlt
      graphVariables := by rw [hvars]; exact h.graphVariables
      selected := by rw [hplace]; exact h.selected
      nodes := .modify h.nodes _ _
      graphs := by rw [Store.Distinct, hgraphs]; exact h.graphs }

/-- Changed definitions and the ports derived from them leave a document valid if no identity
occurs twice among the definitions. -/
theorem Valid.editDefinitions (hi : Identified (d.mapDefinitions g f).definitions?)
    (hb : ∀ ds, d.definitions? g = some ds → ∀ p ∈ f ds, p.id.index < d.nextDefinition) :
    (d.editDefinitions g f).Valid := by
  have hlt : ∀ ⦃k ds p⦄, (d.mapDefinitions g f).definitions? k = some ds → p ∈ ds →
      p.id.index < d.nextDefinition := by
    intro k ds p hds hp
    rw [definitions?_mapDefinitions] at hds
    split at hds
    · subst k
      obtain ⟨es, hes, rfl⟩ := Option.map_eq_some_iff.1 hds
      exact hb es hes p hp
    · exact h.definition_lt hds hp
  by_cases ho : ∃ n ns, d.listing? g = some (some n, ns)
  · obtain ⟨n, ns, hl⟩ := ho
    exact h.editDefinitions_owned hl hi hlt
  · exact h.editDefinitions_unowned (fun n ns hn => ho ⟨n, ns, hn⟩) hi hlt

end

/-! ## The operations -/

theorem addDefinition_of_contains {g : GraphId} (hg : d.graphs.contains g = true) (p : PortPlan) :
    d.addDefinition g p = some (⟨d.nextDefinition⟩,
      editDefinitions { d with nextDefinition := d.nextDefinition + 1 } g
        (· ++ [p.define ⟨d.nextDefinition⟩])) := by
  rw [addDefinition, if_pos hg]

theorem definitions?_mapDefinitions_eq_some {g k : GraphId}
    {f : List PortDefinition → List PortDefinition} {ds : List PortDefinition}
    (h : (d.mapDefinitions g f).definitions? k = some ds) :
    ∃ es, d.definitions? k = some es ∧ (k = g ∧ ds = f es ∨ k ≠ g ∧ ds = es) := by
  rw [definitions?_mapDefinitions] at h
  split at h
  · obtain ⟨es, hes, rfl⟩ := Option.map_eq_some_iff.1 h
    exact ⟨es, hes, .inl ⟨by assumption, rfl⟩⟩
  · exact ⟨ds, h, .inr ⟨by assumption, rfl⟩⟩

/-- Definitions stay told apart if those of one graph are replaced by some of them and by new
ones. -/
theorem Identified.mapDefinitions (h : Identified d.definitions?) {g : GraphId}
    {f : List PortDefinition → List PortDefinition}
    (hn : ∀ ds, d.definitions? g = some ds → ((f ds).map (·.id)).Nodup)
    (hf : ∀ ds, d.definitions? g = some ds → ∀ p ∈ f ds,
      p ∈ ds ∨ ∀ k es, d.definitions? k = some es → ∀ q ∈ es, q.id ≠ p.id) :
    Identified (d.mapDefinitions g f).definitions? := by
  refine ⟨fun k ds hds => ?_, fun k l ds es p q hds hes hp hq he => ?_⟩
  · obtain ⟨ds', hds', ⟨rfl, rfl⟩ | ⟨-, rfl⟩⟩ := definitions?_mapDefinitions_eq_some hds
    · exact hn _ hds'
    · exact h.nodup hds'
  · obtain ⟨ds', hds', ⟨rfl, rfl⟩ | ⟨hk, rfl⟩⟩ := definitions?_mapDefinitions_eq_some hds <;>
      obtain ⟨es', hes', ⟨rfl, rfl⟩ | ⟨hl, rfl⟩⟩ := definitions?_mapDefinitions_eq_some hes
    · rfl
    · rcases hf _ hds' p hp with hp | hp
      · exact h.apart hds' hes' hp hq he
      · exact absurd he.symm (hp _ _ hes' q hq)
    · rcases hf _ hes' q hq with hq | hq
      · exact h.apart hds' hes' hp hq he
      · exact absurd he (hq _ _ hds' p hp)
    · exact h.apart hds' hes' hp hq he

theorem Valid.definitionsChanged (h : d.Valid) (g : GraphId) : (d.definitionsChanged g).Valid := by
  have hid : d.mapDefinitions g id = d := by
    rw [mapDefinitions]
    congr 1
    exact Store.modify_eq_self h.graphs fun _ _ => rfl
  have := h.editDefinitions (g := g) (f := id) (by rw [hid]; exact h.identified)
    fun ds hds p hp => h.definition_lt hds hp
  rwa [Document.editDefinitions, hid] at this

/-- An identity may be passed over. -/
theorem Valid.skipDefinition (h : d.Valid) :
    Valid { d with nextDefinition := d.nextDefinition + 1 } :=
  { h with definition_lt := fun _ _ _ hds hp => Nat.lt_succ_of_lt (h.definition_lt hds hp) }

theorem Valid.id_ne_new (h : d.Valid) {g : GraphId} {ds : List PortDefinition}
    (hds : d.definitions? g = some ds) {p : PortDefinition} (hp : p ∈ ds) :
    p.id ≠ ⟨d.nextDefinition⟩ := by
  intro he
  have := h.definition_lt hds hp
  rw [he] at this
  exact Nat.lt_irrefl _ this

theorem Valid.addDefinition (h : d.Valid) {g : GraphId} {p : PortPlan} {id : DefinitionId}
    {e : Document} (he : d.addDefinition g p = some (id, e)) : e.Valid := by
  rw [Document.addDefinition] at he
  split at he
  · cases he
    have hnext := h.skipDefinition
    have hnew : ∀ k es, d.definitions? k = some es → ∀ q ∈ es, q.id ≠ ⟨d.nextDefinition⟩ :=
      fun _ _ hes _ => h.id_ne_new hes
    refine hnext.editDefinitions (hnext.identified.mapDefinitions ?_ ?_) ?_
    · intro ds hds
      rw [List.map_append, List.nodup_append]
      refine ⟨h.identified.nodup hds, List.nodup_singleton _, fun i hi j hj => ?_⟩
      obtain ⟨q, hq, rfl⟩ := List.mem_map.1 hi
      rw [List.map_singleton, List.mem_singleton] at hj
      exact hj ▸ hnew g ds hds q hq
    · intro ds hds q hq
      rcases List.mem_append.1 hq with hq | hq
      · exact .inl hq
      · exact .inr (List.mem_singleton.1 hq ▸ hnew)
    · intro ds hds q hq
      rcases List.mem_append.1 hq with hq | hq
      · exact Nat.lt_succ_of_lt (h.definition_lt hds hq)
      · exact List.mem_singleton.1 hq ▸ Nat.lt_succ_self _
  · cases he

theorem Valid.removeDefinition (h : d.Valid) (g : GraphId) (id : DefinitionId) :
    (d.removeDefinition g id).Valid := by
  rw [Document.removeDefinition]
  split
  · refine h.editDefinitions (h.identified.mapDefinitions ?_ ?_) ?_
    · intro ds hds
      exact (h.identified.nodup hds).sublist (List.filter_sublist.map _)
    · exact fun ds hds q hq => .inl (List.mem_of_mem_filter hq)
    · exact fun ds hds q hq => h.definition_lt hds (List.mem_of_mem_filter hq)
  · exact h

end Document

end GraphDraft

import GraphDraft.Proofs.Document.Valid

/-!
# Edits of one node or one graph

The operations that change a position, a held value, a variable or the edges of a graph keep a
document valid. For edges it is enough that those of the result join nodes of their graph
(`Valid.mapEdges`), so taking edges away never hurts.
-/

namespace GraphDraft

variable {d : Document}

/-! ## Positions and held values -/

namespace Document

theorem Valid.setPosition (h : d.Valid) (n : NodeId) (p : Point) : (d.setPosition n p).Valid := by
  rw [Document.setPosition]
  split
  · refine .touch ?_
    exact
      { h with
        tree := by rw [place?_mapPosition]; exact h.tree
        wired := by rw [place?_mapPosition, keys?_mapPosition]; exact h.wired
        composed := by rw [place?_mapPosition, ports?_mapPosition]; exact h.composed
        node_lt := by rw [place?_mapPosition]; exact h.node_lt
        selected := by rw [place?_mapPosition]; exact h.selected
        nodes := h.nodes.modify .. }
  · exact h

end Document

theorem map_key_fill (key : String) (v : Value) :
    ∀ is : List ValueInput, (Document.fill key v is).map (·.key) = is.map (·.key)
  | [] => rfl
  | i :: is => by
    rw [Document.fill]
    split
    · rfl
    · rw [List.map_cons, map_key_fill key v is, List.map_cons]

namespace Document

theorem heldValue?_eq_some {n : NodeId} {key : String} {v : Value}
    (h : d.heldValue? n key = some v) :
    ∃ x i, d.node? n = some x ∧ x.ports.valueInput? key = some i ∧ i.default = some v := by
  obtain ⟨x, hx, h⟩ := Option.bind_eq_some_iff.1 h
  obtain ⟨i, hi, h⟩ := Option.bind_eq_some_iff.1 h
  exact ⟨x, i, hx, hi, h⟩

/-- The inputs of a composite hold no values. -/
theorem Valid.body_eq_none_of_heldValue? (h : d.Valid) {n : NodeId} {key : String} {v : Value}
    (hv : d.heldValue? n key = some v) {x : Node} (hx : d.node? n = some x) : x.body = none := by
  obtain ⟨x', i, hx', hi, hv⟩ := heldValue?_eq_some hv
  rw [hx] at hx'
  cases hx'
  cases hb : x.body with
  | none => rfl
  | some b =>
    have hplace : d.place? n = some (x.graph, some b) := hb ▸ place?_of_node? hx
    obtain ⟨-, ns, hl⟩ := h.tree.body hplace
    obtain ⟨y, hy, -⟩ := graph?_of_listing? hl
    have hp := h.composed hplace (ports?_of_node? hx) (definitions?_of_graph? hy)
    have hm := List.mem_of_find?_eq_some hi
    rw [hp] at hm
    simp only [Ports.ofDefinitions, List.mem_map] at hm
    obtain ⟨p, -, rfl⟩ := hm
    simp at hv

/-- Filling an input keeps the keys of its node. -/
theorem keys?_mapPorts_fill (d : Document) (n : NodeId) (key : String) (v : Value) :
    (d.mapPorts n fun p => { p with valueInputs := fill key v p.valueInputs }).keys? = d.keys? := by
  funext m
  rw [keys?, ports?_mapPorts, keys?]
  split
  · rw [Option.map_map]
    congr
    funext p
    simp [Ports.inputKeys, Ports.outputKeys, map_key_fill]
  · rfl

theorem Valid.setDefault (h : d.Valid) (n : NodeId) (key : String) (v : Value) :
    (d.setDefault n key v).Valid := by
  rw [Document.setDefault]
  split
  · rename_i hv
    obtain ⟨w, hw⟩ := Option.isSome_iff_exists.1 hv
    refine .touch ?_
    exact
      { h with
        tree := by rw [place?_mapPorts]; exact h.tree
        wired := by rw [place?_mapPorts, keys?_mapPorts_fill]; exact h.wired
        composed := by
          intro m g b p ds hm hp hds
          rw [place?_mapPorts] at hm
          have hne : m ≠ n := by
            rintro rfl
            obtain ⟨x, hx, -, hb⟩ := node?_of_place? hm
            rw [h.body_eq_none_of_heldValue? hw hx] at hb
            cases hb
          rw [ports?_mapPorts, if_neg hne] at hp
          exact h.composed hm hp hds
        node_lt := by rw [place?_mapPorts]; exact h.node_lt
        selected := by rw [place?_mapPorts]; exact h.selected
        nodes := h.nodes.modify .. }
  · exact h

theorem keys_nodes_setDefault (d : Document) (n : NodeId) (key : String) (v : Value) :
    (d.setDefault n key v).nodes.keys = d.nodes.keys := by
  rw [setDefault]
  split
  · exact Store.keys_modify ..
  · rfl

/-! ## Variables -/

theorem Valid.modifyVariables (h : d.Valid) (scope : Scope) (g : GraphId)
    {f : Declarations → Declarations} (hf : ∀ vs, vs.Distinct → (f vs).Distinct) :
    (d.modifyVariables scope g f).Valid := by
  cases scope with
  | graph =>
    refine Valid.touch (d := d.mapDeclarations g f) ?_
    exact
      { h with
        tree := by rw [listing?_mapDeclarations]; exact h.tree
        wired := by rw [edges?_mapDeclarations]; exact h.wired
        composed := by rw [definitions?_mapDeclarations]; exact h.composed
        identified := by rw [definitions?_mapDeclarations]; exact h.identified
        graph_lt := by rw [listing?_mapDeclarations]; exact h.graph_lt
        definition_lt := by rw [definitions?_mapDeclarations]; exact h.definition_lt
        graphVariables := fun k vs hv => by
          rw [variables?_mapDeclarations] at hv
          split at hv
          · obtain ⟨ws, hws, rfl⟩ := Option.map_eq_some_iff.1 hv
            exact hf ws (h.graphVariables hws)
          · exact h.graphVariables hv
        graphs := h.graphs.modify .. }
  | object => exact Valid.touch { h with objectVariables := hf _ h.objectVariables }
  | scene => exact Valid.touch { h with sceneVariables := hf _ h.sceneVariables }
  | application => exact Valid.touch { h with applicationVariables := hf _ h.applicationVariables }
  | saved => exact Valid.touch { h with savedVariables := hf _ h.savedVariables }

/-! ## Edges -/

/-- New edges are right if they join nodes of their graph. -/
theorem Valid.mapEdges (h : d.Valid) {g : GraphId} {f : List Edge → List Edge}
    (hf : ∀ es, d.edges? g = some es → ∀ e ∈ f es, Joins d.place? d.keys? g e) :
    (d.mapEdges g f).Valid :=
  { h with
    tree := by rw [listing?_mapEdges]; exact h.tree
    wired := by
      intro k es hes e he
      rw [edges?_mapEdges] at hes
      split at hes
      · obtain ⟨fs, hfs, rfl⟩ := Option.map_eq_some_iff.1 hes
        subst k
        exact hf fs hfs e he
      · exact h.wired hes e he
    composed := by rw [definitions?_mapEdges]; exact h.composed
    identified := by rw [definitions?_mapEdges]; exact h.identified
    graph_lt := by rw [listing?_mapEdges]; exact h.graph_lt
    definition_lt := by rw [definitions?_mapEdges]; exact h.definition_lt
    graphVariables := by rw [variables?_mapEdges]; exact h.graphVariables
    graphs := h.graphs.modify .. }

theorem mem_outputKeys_of_portsMatch {kind : EdgeKind} {s t : Ports} {o i : String}
    (h : portsMatch kind s o t i = true) : o ∈ s.outputKeys ∧ i ∈ t.inputKeys := by
  cases kind with
  | control =>
    simp only [portsMatch, Bool.and_eq_true, List.contains_eq_mem, decide_eq_true_eq] at h
    exact ⟨List.mem_append_left _ h.1, List.mem_append_left _ h.2⟩
  | value =>
    simp only [portsMatch] at h
    split at h
    · rename_i p q hp hq
      have hpk : p.key = o := by simpa using List.find?_some hp
      have hqk : q.key = i := by simpa using List.find?_some hq
      exact ⟨List.mem_append_right _ (hpk ▸ List.mem_map_of_mem (List.mem_of_find?_eq_some hp)),
        List.mem_append_right _ (hqk ▸ List.mem_map_of_mem (List.mem_of_find?_eq_some hq))⟩
    · cases h

/-- What it takes to make an edge. -/
theorem canConnect_iff {e : Edge} : d.canConnect e = true ↔
    ∃ s t, d.node? e.source = some s ∧ d.node? e.target = some t ∧ e.source ≠ e.target ∧
      s.graph = t.graph ∧ portsMatch e.kind s.ports e.output t.ports e.input = true ∧
      d.outputConnected e.source e.kind e.output = false ∧
      d.inputConnected e.target e.kind e.input = false := by
  rw [canConnect]
  split
  · rename_i s t hs ht
    simp [hs, ht, and_assoc]
  · rename_i hne
    simp only [Bool.false_eq_true, false_iff, not_exists, not_and]
    exact fun s t hs ht => absurd ht (hne s t hs)

theorem joins_of_canConnect {e : Edge} {s : Node} (hs : d.node? e.source = some s)
    (h : d.canConnect e = true) : Joins d.place? d.keys? s.graph e := by
  obtain ⟨s', t, hs', ht, hne, hg, hm, -⟩ := canConnect_iff.1 h
  rw [hs] at hs'
  cases hs'
  obtain ⟨ho, hi⟩ := mem_outputKeys_of_portsMatch hm
  exact
    { ne := hne
      source := ⟨_, place?_of_node? hs⟩
      target := ⟨_, hg ▸ place?_of_node? ht⟩
      output := ⟨_, _, by rw [keys?, ports?_of_node? hs]; rfl, ho⟩
      input := ⟨_, _, by rw [keys?, ports?_of_node? ht]; rfl, hi⟩ }

theorem Valid.addEdge (h : d.Valid) {e : Edge} (he : d.canConnect e = true) :
    (d.addEdge e).Valid := by
  rw [Document.addEdge]
  split
  · rename_i s hs
    refine .touch (.mapEdges h fun es hes f hf => ?_)
    rcases List.mem_append.1 hf with hf | hf
    · exact h.wired hes f hf
    · exact List.mem_singleton.1 hf ▸ joins_of_canConnect hs he
  · exact h

theorem Valid.connect (h : d.Valid) (e : Edge) : (d.connect e).Valid := by
  rw [Document.connect]
  split
  · rename_i he
    exact h.addEdge he
  · exact h

theorem Valid.disconnect (h : d.Valid) (e : Edge) : (d.disconnect e).Valid := by
  rw [Document.disconnect]
  split
  · split
    · exact .touch (.mapEdges h fun es hes f hf => h.wired hes f (List.mem_of_mem_erase hf))
    · exact h
  · exact h

end Document

end GraphDraft

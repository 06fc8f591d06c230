import GraphDraft.Proofs.Renaming.Basic

/-!
# Operations on renamed documents

The operations by which lines are run, on a renamed document. The ones that hand out identities need
a renaming that tracks the document (`addNode_rename`, `addDefinition_rename`).
-/

namespace GraphDraft

namespace Document

variable {ρ : Renaming} {d : Document}

theorem contains_map_node (ns : List NodeId) (n : NodeId) :
    (ns.map ρ.node).contains (ρ.node n) = ns.contains n := by
  simp only [List.contains_eq_mem, List.mem_map_of_injective ρ.node_injective]

/-! ## Selection, positions and variables -/

theorem keepLive_rename (kept : List NodeId) (n : NodeId) :
    (d.rename ρ).keepLive (kept.map ρ.node) (ρ.node n) = (d.keepLive kept n).map ρ.node := by
  rw [keepLive, contains_node_rename, contains_map_node, keepLive]
  split
  · rw [List.map_append, List.map_singleton]
  · rfl

theorem liveOnce_rename (ns : List NodeId) :
    (d.rename ρ).liveOnce (ns.map ρ.node) = (d.liveOnce ns).map ρ.node := by
  have hfold : ∀ (ns kept : List NodeId), (ns.map ρ.node).foldl (d.rename ρ).keepLive
      (kept.map ρ.node) = (ns.foldl d.keepLive kept).map ρ.node := by
    intro ns
    induction ns with
    | nil => exact fun _ => rfl
    | cons n ns ih =>
      intro kept
      rw [List.map_cons, List.foldl_cons, keepLive_rename, ih, List.foldl_cons]
  exact hfold ns []

theorem setSelection_rename (ns : List NodeId) :
    (d.rename ρ).setSelection (ns.map ρ.node) = (d.setSelection ns).rename ρ := by
  simp only [setSelection, liveOnce_rename]
  rfl

theorem select_rename (n : NodeId) :
    (d.rename ρ).select (some (ρ.node n)) = (d.select (some n)).rename ρ :=
  setSelection_rename [n]

theorem setPosition_rename (n : NodeId) (p : Point) :
    (d.rename ρ).setPosition (ρ.node n) p = (d.setPosition n p).rename ρ := by
  rw [setPosition, contains_node_rename, mapPosition_rename, setPosition]
  split <;> rfl

theorem declarations?_rename (scope : Scope) (g : GraphId) :
    (d.rename ρ).declarations? scope (ρ.graph g) = d.declarations? scope g := by
  cases scope with
  | graph =>
    simp only [declarations?, graph?_rename]
    cases d.graph? g <;> rfl
  | object | scene | application | saved => rfl

theorem modifyVariables_rename (scope : Scope) (g : GraphId) (f : Declarations → Declarations) :
    (d.rename ρ).modifyVariables scope (ρ.graph g) f = (d.modifyVariables scope g f).rename ρ := by
  cases scope with
  | graph =>
    simp only [modifyVariables, mapDeclarations_rename]
    rfl
  | object | scene | application | saved => rfl

theorem heldValue?_rename (n : NodeId) (key : String) :
    (d.rename ρ).heldValue? (ρ.node n) key = d.heldValue? n key := by
  rw [heldValue?, node?_rename, heldValue?]
  cases d.node? n <;> rfl

theorem setDefault_rename (n : NodeId) (key : String) (v : Value) :
    (d.rename ρ).setDefault (ρ.node n) key v = (d.setDefault n key v).rename ρ := by
  rw [setDefault, heldValue?_rename, mapPorts_rename, setDefault]
  split <;> rfl

/-! ## Edges -/

theorem edgesAround_rename (n : NodeId) :
    (d.rename ρ).edgesAround (ρ.node n) = (d.edgesAround n).map (·.rename ρ) := by
  rw [edgesAround, node?_rename, edgesAround]
  cases d.node? n with
  | none => rfl
  | some x =>
    simp only [Option.map_some, Option.bind_some, Node.rename, graph?_rename]
    cases d.graph? x.graph <;> rfl

theorem inputConnected_rename (n : NodeId) (kind : EdgeKind) (key : String) :
    (d.rename ρ).inputConnected (ρ.node n) kind key = d.inputConnected n kind key := by
  rw [inputConnected, edgesAround_rename, List.any_map, inputConnected]
  congr
  funext e
  simp [Edge.rename, ρ.node_injective.eq_iff]

theorem outputConnected_rename (n : NodeId) (kind : EdgeKind) (key : String) :
    (d.rename ρ).outputConnected (ρ.node n) kind key = d.outputConnected n kind key := by
  rw [outputConnected, edgesAround_rename, List.any_map, outputConnected]
  congr
  funext e
  simp [Edge.rename, ρ.node_injective.eq_iff]

theorem canConnect_rename (e : Edge) : (d.rename ρ).canConnect (e.rename ρ) = d.canConnect e := by
  simp only [canConnect, Edge.rename, node?_rename, outputConnected_rename, inputConnected_rename]
  cases d.node? e.source <;> cases d.node? e.target <;>
    simp [Node.rename, ρ.node_injective.eq_iff, ρ.graph_injective.eq_iff]

theorem addEdge_rename (e : Edge) : (d.rename ρ).addEdge (e.rename ρ) = (d.addEdge e).rename ρ := by
  have hsource : (e.rename ρ).source = ρ.node e.source := rfl
  simp only [addEdge, hsource, node?_rename]
  cases d.node? e.source with
  | none => rfl
  | some s =>
    simp only [Option.map_some, Node.rename]
    rw [mapEdges_rename (f := (· ++ [e])) s.graph fun es => by simp]
    rfl

theorem connect_rename (e : Edge) : (d.rename ρ).connect (e.rename ρ) = (d.connect e).rename ρ := by
  rw [connect, canConnect_rename, addEdge_rename, connect]
  split <;> rfl

/-! ## Definitions -/

theorem ofDefinitions_rename (ds : List PortDefinition) :
    Ports.ofDefinitions (ds.map (·.rename ρ)) = .ofDefinitions ds := by
  have hkind : ∀ kind, definitionsOf kind (ds.map (·.rename ρ)) =
      (definitionsOf kind ds).map (·.rename ρ) := fun kind => by
    rw [definitionsOf, List.filter_map]
    rfl
  simp only [Ports.ofDefinitions, hkind, List.map_map]
  rfl

theorem fits_rename (e : Edge) (n : NodeId) (p : Ports) :
    (e.rename ρ).fits (ρ.node n) p = e.fits n p := by
  simp [Edge.fits, Edge.rename, ρ.node_injective.eq_iff]

theorem derivePorts_rename (g : GraphId) :
    (d.rename ρ).derivePorts (ρ.graph g) = (d.derivePorts g).rename ρ := by
  simp only [derivePorts, graph?_rename]
  cases d.graph? g with
  | none => rfl
  | some y =>
    simp only [Option.map_some, Graph.rename]
    cases y.owner with
    | none => rfl
    | some n =>
      simp only [Option.map_some, Option.bind_some, node?_rename]
      cases d.node? n with
      | none => rfl
      | some x =>
        simp only [Option.map_some, Node.rename, ofDefinitions_rename]
        rw [mapPorts_rename,
          mapEdges_rename (f := (·.filter (·.fits n (.ofDefinitions y.definitions))))]
        intro es
        rw [List.filter_map]
        congr
        funext e
        exact fits_rename ..

theorem editDefinitions_rename (g : GraphId) {f f' : List PortDefinition → List PortDefinition}
    (hf : ∀ ds, f' (ds.map (·.rename ρ)) = (f ds).map (·.rename ρ)) :
    (d.rename ρ).editDefinitions (ρ.graph g) f' = (d.editDefinitions g f).rename ρ := by
  rw [editDefinitions, mapDefinitions_rename g hf, definitionsChanged, derivePorts_rename,
    touch_rename]
  rfl

theorem addDefinition_rename (ht : ρ.Tracks d) (g : GraphId) (p : PortPlan) :
    (d.rename ρ).addDefinition (ρ.graph g) p =
      (d.addDefinition g p).map fun r => (ρ.definition r.1, r.2.rename ρ) := by
  have hid : DefinitionId.mk (d.rename ρ).nextDefinition = ρ.definition ⟨d.nextDefinition⟩ :=
    (ht.definition _ (Nat.le_refl _)).symm
  simp only [addDefinition, contains_graph_rename, hid]
  split
  · have hnext : { d.rename ρ with nextDefinition := (d.rename ρ).nextDefinition + 1 } =
        rename ρ { d with nextDefinition := d.nextDefinition + 1 } := rfl
    rw [hnext, editDefinitions_rename (f := (· ++ [p.define ⟨d.nextDefinition⟩]))]
    · rfl
    · intro ds
      rw [List.map_append]
      rfl
  · rfl

/-! ## New nodes -/

theorem definitionsFrom_rename {next : Nat}
    (ht : ∀ i, next ≤ i → ρ.definition ⟨i⟩ = ⟨ρ.definitionShift + i⟩) :
    ∀ ps : List PortPlan, definitionsFrom (ρ.definitionShift + next) ps =
      (definitionsFrom next ps).map (·.rename ρ)
  | [] => rfl
  | p :: ps => by
    rw [definitionsFrom, definitionsFrom, List.map_cons, Nat.add_assoc,
      definitionsFrom_rename (fun i hi => ht i (Nat.le_of_succ_le hi)) ps,
      ← ht next (Nat.le_refl _)]
    rfl

theorem addBody_rename (ht : ρ.Tracks d) (n : NodeId) (plan : BodyPlan) :
    (d.rename ρ).addBody (ρ.node n) plan = (d.addBody n plan).rename ρ := by
  have hid : GraphId.mk (d.rename ρ).nextGraph = ρ.graph ⟨d.nextGraph⟩ :=
    (ht.graph _ (Nat.le_refl _)).symm
  have hdefs : definitionsFrom (d.rename ρ).nextDefinition plan.ports =
      (definitionsFrom d.nextDefinition plan.ports).map (·.rename ρ) :=
    definitionsFrom_rename ht.definition plan.ports
  simp only [addBody, hid, hdefs]
  simp only [rename, Document.mk.injEq, and_true, true_and]
  exact ⟨Store.put_rename _ ρ.graph_injective _ _ (Graph.mk plan.title (some n) [] []
    (definitionsFrom d.nextDefinition plan.ports) {}), rfl, Nat.add_assoc ..⟩

theorem insert_rename (n : NodeId) (x : Node) :
    (d.rename ρ).insert (ρ.node n) (x.rename ρ) = (d.insert n x).rename ρ := by
  have hput : { d.rename ρ with nodes := (d.rename ρ).nodes.put (ρ.node n) (x.rename ρ) } =
      rename ρ { d with nodes := d.nodes.put n x } := by
    simp only [rename, Document.mk.injEq, and_true, true_and]
    exact Store.put_rename _ ρ.node_injective _ _ _
  rw [insert, hput]
  exact mapListed_rename x.graph fun ns => by simp

theorem addNode_rename (ht : ρ.Tracks d) (g : GraphId) (b : Blueprint) (p : Point) :
    (d.rename ρ).addNode (ρ.graph g) b p =
      (d.addNode g b p).map fun r => (ρ.node r.1, r.2.rename ρ) := by
  have hid : NodeId.mk (d.rename ρ).nextNode = ρ.node ⟨d.nextNode⟩ :=
    (ht.node _ (Nat.le_refl _)).symm
  have hgraph : GraphId.mk (d.rename ρ).nextGraph = ρ.graph ⟨d.nextGraph⟩ :=
    (ht.graph _ (Nat.le_refl _)).symm
  have hnext : { d.rename ρ with nextNode := (d.rename ρ).nextNode + 1 } =
      rename ρ { d with nextNode := d.nextNode + 1 } := rfl
  have ht' : ρ.Tracks { d with nextNode := d.nextNode + 1 } :=
    { ht with node := fun i hi => ht.node i (Nat.le_of_succ_le hi) }
  have hinsert := fun (e : Document) (body : Option GraphId) => insert_rename (ρ := ρ) (d := e)
    ⟨d.nextNode⟩
    { graph := g, kind := b.kind, title := b.title, position := p, ports := b.ports, body }
  simp only [addNode, contains_graph_rename, hid, hgraph, hnext]
  split
  · cases b.body with
    | none =>
      simp only [Option.map_none, Option.elim_none, Option.map_some]
      rw [← touch_rename, ← hinsert]
      rfl
    | some plan =>
      simp only [Option.map_some, Option.elim_some]
      rw [← touch_rename, ← derivePorts_rename, ← hinsert, ← addBody_rename ht']
      rfl
  · rfl

end Document

end GraphDraft

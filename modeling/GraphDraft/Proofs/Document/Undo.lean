import GraphDraft.Proofs.Document.Same

/-!
# Undoing changes

Each kind of change is undone by what the journal does about it. A new node may be moved and may get
edges before it is removed again: `Adds n d e` says that `e` is `d` with node `n` added, whatever
has been done to the node since. For definitions it is decisive that edges are found again under
their keys (`Same.removeDefinition_addDefinition`).
-/

namespace GraphDraft.Document

variable {d e : Document}

/-! ## New nodes -/

/-- The document without a node and the body of the node. -/
def dropping (d : Document) (n : NodeId) : Document :=
  d.removing (· = n) (· = n)

theorem nodes_dropping (d : Document) (n : NodeId) : (d.dropping n).nodes = d.nodes.erase n := by
  rw [Store.erase_eq_filterMap]
  simp [dropping, removing]

theorem without_append_self (x : Graph) (n : NodeId) :
    Graph.without { x with nodes := x.nodes ++ [n] } (· = n) = x.without (· = n) := by
  simp [Graph.without, List.filter_append]

/-- A node that is new plays no part in the graphs there are. -/
theorem Valid.without_new (h : d.Valid) {g : GraphId} {x : Graph} (hx : d.graph? g = some x) :
    x.owner.any (· = ⟨d.nextNode⟩) = false ∧ x.without (· = ⟨d.nextNode⟩) = x := by
  have hnew : ∀ y, d.place? ⟨d.nextNode⟩ ≠ some y := by simp [h.place?_new]
  constructor
  · cases ho : x.owner with
    | none => rfl
    | some m =>
      obtain ⟨l, hl⟩ := h.tree.owner (ho ▸ listing?_of_graph? hx)
      refine decide_eq_false ?_
      rintro rfl
      exact hnew _ hl
  · have hnodes : x.nodes.filter (fun m => !decide (m = ⟨d.nextNode⟩)) = x.nodes := by
      refine List.filter_eq_self.2 fun m hm => ?_
      obtain ⟨c, hc⟩ := h.tree.listed (listing?_of_graph? hx) hm
      have hne : m ≠ ⟨d.nextNode⟩ := by rintro rfl; exact hnew _ hc
      simp [hne]
    have hedges : x.edges.filter (fun c => !decide (c.source = ⟨d.nextNode⟩) &&
        !decide (c.target = ⟨d.nextNode⟩)) = x.edges := by
      refine List.filter_eq_self.2 fun c hc => ?_
      have hj := h.wired (edges?_of_graph? hx) c hc
      obtain ⟨⟨_, hs⟩, _, ht⟩ := And.intro hj.source hj.target
      have hsn : c.source ≠ ⟨d.nextNode⟩ := fun he => hnew _ (he ▸ hs)
      have htn : c.target ≠ ⟨d.nextNode⟩ := fun he => hnew _ (he ▸ ht)
      simp [hsn, htn]
    rw [Graph.without, hnodes, hedges]

/-- `e` is `d` with node `n` added, and nothing in the body of `n`. -/
structure Adds (n : NodeId) (d e : Document) : Prop where
  valid : e.Valid
  hollow : ∀ g b o ns, e.place? n = some (g, some b) → e.listing? b = some (o, ns) → ns = []
  dropping : (e.dropping n).Same d

namespace Adds

variable {n : NodeId}

theorem removeNode (h : Adds n d e) : (e.removeNode n).Same d := by
  obtain ⟨r, hr⟩ := removeNode_eq h.valid n
  have hself : ∀ m, e.inside n m = decide (m = n) := fun m => by
    rw [Bool.eq_iff_iff, inside_iff, decide_eq_true_eq]
    refine ⟨fun hm => ?_, fun hm => hm ▸ .self⟩
    rcases hm.cases_head with hm | ⟨g, b, k, c, hn, hk, -⟩
    · exact hm
    · obtain ⟨o, ns, hl, hmem⟩ := h.valid.tree.home hk
      rw [h.hollow g b o ns hn hl] at hmem
      cases hmem
  have hin : e.inside n = fun m => decide (m = n) := funext hself
  rw [hr, hin]
  exact ((Same.revised e r).removing _ _).trans h.dropping

theorem setSelection (h : Adds n d e) (ns : List NodeId) : Adds n d (e.setSelection ns) :=
  ⟨h.valid.setSelection ns, h.hollow, { h.dropping with }⟩

theorem setPosition (h : Adds n d e) (p : Point) : Adds n d (e.setPosition n p) where
  valid := h.valid.setPosition n p
  hollow := by
    rw [Document.setPosition]
    split
    · show ∀ g b o ns, (e.mapPosition n fun _ => p).place? n = _ →
        (e.mapPosition n fun _ => p).listing? b = _ → _
      rw [place?_mapPosition]
      exact h.hollow
    · exact h.hollow
  dropping := by
    rw [Document.setPosition]
    split
    · have hnodes : ((e.mapPosition n fun _ => p).touch.dropping n).nodes =
          (e.dropping n).nodes := by
        rw [nodes_dropping, nodes_dropping]
        exact Store.erase_modify_self ..
      exact { h.dropping with nodes := hnodes.trans h.dropping.nodes }
    · exact h.dropping

/-- Edges that touch the new node go away with it. -/
theorem addEdge (h : Adds n d e) {c : Edge} (hc : c.source = n ∨ c.target = n)
    (hcan : e.canConnect c = true) : Adds n d (e.addEdge c) where
  valid := h.valid.addEdge hcan
  hollow := by
    rw [Document.addEdge]
    split
    · rename_i s hs
      show ∀ g b o ns, (e.mapEdges s.graph (· ++ [c])).place? n = _ →
        (e.mapEdges s.graph (· ++ [c])).listing? b = _ → _
      rw [listing?_mapEdges]
      exact h.hollow
    · exact h.hollow
  dropping := by
    rw [Document.addEdge]
    split
    · rename_i s hs
      have hgraphs : ((e.mapEdges s.graph (· ++ [c])).touch.dropping n).graphs =
          (e.dropping n).graphs := by
        simp only [Document.dropping, removing, Document.touch, mapEdges, Store.modify_eq_filterMap,
          Store.filterMap_filterMap]
        refine Store.filterMap_congr h.valid.graphs fun k x _ => ?_
        by_cases hk : k = s.graph
        · have hcut : (x.edges ++ [c]).filter
                (fun e => !decide (e.source = n) && !decide (e.target = n)) =
              x.edges.filter fun e => !decide (e.source = n) && !decide (e.target = n) := by
            rw [List.filter_append, List.filter_singleton]
            rcases hc with hc | hc <;> simp [hc]
          simp [hk, Graph.without, hcut]
        · simp [hk]
      exact { h.dropping with graphs := hgraphs.trans h.dropping.graphs }
    · exact h.dropping

/-- A node that has just been added. -/
theorem grown (h : d.Valid) {g : GraphId} (hg : d.graphs.contains g = true) (b : Blueprint)
    (p : Point) : Adds ⟨d.nextNode⟩ d (d.grown g b p) where
  valid := h.grown hg b p
  hollow k c o ns hn hl := by
    rw [place?_grown, if_pos rfl] at hn
    have hc := congrArg Prod.snd (Option.some.inj hn)
    obtain ⟨plan, hplan, rfl⟩ := Option.map_eq_some_iff.1 hc
    rw [listing?_grown h hg, if_pos rfl, hplan] at hl
    cases hl
    rfl
  dropping := by
    set n : NodeId := ⟨d.nextNode⟩ with hn
    -- the graphs there were are as they were once the new node is out of its list
    have hold : (d.graphs.modify g fun x => { x with nodes := x.nodes ++ [n] }).filterMap
        (fun _ x => if x.owner.any (· = n) then none else some (x.without (· = n))) = d.graphs := by
      rw [Store.modify_eq_filterMap, Store.filterMap_filterMap]
      refine Store.filterMap_eq_self h.graphs fun k x hx => ?_
      obtain ⟨ho, hw⟩ := h.without_new hx
      rw [← hn] at ho hw
      have hlisted : Graph.without { x with nodes := x.nodes ++ [n] } (· = n) = x :=
        (without_append_self x n).trans hw
      by_cases hk : k = g
      · simp [hk, ho, hlisted]
      · simp [hk, ho, hw]
    have hnodes : ((d.grown g b p).dropping n).nodes = d.nodes := by
      rw [nodes_dropping]
      exact Store.erase_put _ h.node?_new
    refine { Same.refl d with nodes := hnodes, graphs := ?_ }
    show ((d.graphsWith b).modify g fun x => { x with nodes := x.nodes ++ [n] }).filterMap
      (fun _ x => if x.owner.any (· = n) then none else some (x.without (· = n))) = d.graphs
    rw [graphsWith]
    cases b.body with
    | none => exact hold
    | some plan =>
      have hgn := h.ne_new hg
      rw [Option.elim_some, Store.modify_put_of_ne hgn, Store.filterMap_put_of_none]
      · exact hold
      · rw [Store.get?_modify, if_neg hgn.symm]
        exact h.graph?_new
      · simp [newBody, hn]

end Adds

/-! ## Port definitions -/

/-- If all edges around the owner find their keys among the new ports, only the definitions and the
ports change. -/
theorem editDefinitions_of_fits (hd : d.graphs.Distinct) {g k : GraphId} {n : NodeId}
    {ns : List NodeId} {c : Option GraphId} {ds : List PortDefinition}
    {f : List PortDefinition → List PortDefinition} (hl : d.listing? g = some (some n, ns))
    (hn : d.place? n = some (k, c)) (hds : d.definitions? g = some ds)
    (hfits : ∀ es, d.edges? k = some es → ∀ e ∈ es, e.fits n (.ofDefinitions (f ds)) = true) :
    d.editDefinitions g f =
      ((d.mapDefinitions g f).mapPorts n fun _ => .ofDefinitions (f ds)).touch := by
  rw [editDefinitions_of_owner hl hn hds, mapEdges_eq_self (hd.modify _ _)]
  intro es hes
  rw [edges?_mapPorts, edges?_mapDefinitions] at hes
  exact List.filter_eq_self.2 (hfits es hes)

/-- The edges at a node fit ports that have all keys of the node. -/
theorem Valid.fits (h : d.Valid) {n : NodeId} {x : Node} (hn : d.node? n = some x) {p : Ports}
    (hin : ∀ key ∈ x.ports.inputKeys, key ∈ p.inputKeys)
    (hout : ∀ key ∈ x.ports.outputKeys, key ∈ p.outputKeys) {g : GraphId} {es : List Edge}
    (hes : d.edges? g = some es) {e : Edge} (he : e ∈ es) : e.fits n p = true := by
  have hj := h.wired hes e he
  have hkeys : d.keys? n = some (x.ports.inputKeys, x.ports.outputKeys) := by
    rw [keys?, ports?_of_node? hn]
    rfl
  refine fits_iff.2 ⟨fun ht => hin _ ?_, fun hs => hout _ ?_⟩
  · obtain ⟨is, os, hk, hi⟩ := hj.input
    rw [ht, hkeys] at hk
    cases hk
    exact hi
  · obtain ⟨is, os, hk, ho⟩ := hj.output
    rw [hs, hkeys] at hk
    cases hk
    exact ho

/-- A change of definitions that keeps all keys drops no edge. -/
theorem Valid.editDefinitions_of_keys (h : d.Valid) {g : GraphId} {n : NodeId} {ns : List NodeId}
    {ds : List PortDefinition} {f : List PortDefinition → List PortDefinition}
    (hl : d.listing? g = some (some n, ns)) (hds : d.definitions? g = some ds)
    (hin : ∀ key ∈ (Ports.ofDefinitions ds).inputKeys,
      key ∈ (Ports.ofDefinitions (f ds)).inputKeys)
    (hout : ∀ key ∈ (Ports.ofDefinitions ds).outputKeys,
      key ∈ (Ports.ofDefinitions (f ds)).outputKeys) : d.editDefinitions g f =
      ((d.mapDefinitions g f).mapPorts n fun _ => .ofDefinitions (f ds)).touch := by
  obtain ⟨k, x, es, hn, hx, hes, hports⟩ := h.exists_owner hl
  cases hds.symm.trans hes
  rw [← hports] at hin hout
  exact editDefinitions_of_fits h.graphs hl hn hds fun _ hes _ he => h.fits hx hin hout hes he

/-- A change of definitions can be taken back if no edge loses its key in between. -/
theorem Same.editDefinitions_editDefinitions (h : d.Valid) {g : GraphId}
    {f₁ f₂ : List PortDefinition → List PortDefinition}
    (hback : ∀ ds, d.definitions? g = some ds → f₂ (f₁ ds) = ds)
    (hkeys : ∀ ds, d.definitions? g = some ds →
      (∀ key ∈ (Ports.ofDefinitions ds).inputKeys, key ∈ (Ports.ofDefinitions (f₁ ds)).inputKeys) ∧
      ∀ key ∈ (Ports.ofDefinitions ds).outputKeys, key ∈ (Ports.ofDefinitions (f₁ ds)).outputKeys) :
    ((d.editDefinitions g f₁).editDefinitions g f₂).Same d := by
  have hgraphs : ((d.mapDefinitions g f₁).mapDefinitions g f₂).graphs = d.graphs := by
    rw [Document.mapDefinitions, Document.mapDefinitions, Store.modify_modify]
    refine Store.modify_eq_self h.graphs fun x hx => ?_
    simp only [Function.comp, hback _ (definitions?_of_graph? hx)]
  by_cases ho : ∃ n ns, d.listing? g = some (some n, ns)
  · obtain ⟨n, ns, hl⟩ := ho
    obtain ⟨k, x, ds, hn, hx, hds, hports⟩ := h.exists_owner hl
    obtain ⟨hin, hout⟩ := hkeys _ hds
    rw [h.editDefinitions_of_keys hl hds hin hout]
    set p : Ports := .ofDefinitions (f₁ ds)
    set e := ((d.mapDefinitions g f₁).mapPorts n fun _ => p).touch
    have hle : e.listing? g = some (some n, ns) := by simp [e, hl]
    have hne : e.place? n = some (k, some g) := by simp [e, hn]
    have hde : e.definitions? g = some (f₁ ds) := by
      simp [e, definitions?_mapDefinitions, hds]
    have hge : e.graphs.Distinct := h.graphs.modify _ _
    rw [editDefinitions_of_fits hge hle hne hde, hback _ hds, ← hports]
    · have hnodes : (d.nodes.modify n fun x => { x with ports := p }).modify n
          (fun y => { y with ports := x.ports }) = d.nodes := by
        rw [Store.modify_modify]
        refine Store.modify_eq_self h.nodes fun x' hx' => ?_
        cases hx.symm.trans hx'
        rfl
      exact { Same.refl d with graphs := hgraphs, nodes := hnodes }
    · intro es hes c hc
      have hes' : d.edges? k = some es := by simpa [e] using hes
      rw [hback _ hds, ← hports]
      exact h.fits hx (fun _ hk => hk) (fun _ hk => hk) hes' hc
  · have hl : ∀ n ns, d.listing? g ≠ some (some n, ns) := fun n ns hn => ho ⟨n, ns, hn⟩
    have hl' : ∀ n ns, (d.mapDefinitions g f₁).touch.listing? g ≠ some (some n, ns) := by
      simpa using hl
    rw [editDefinitions_of_unowned hl, editDefinitions_of_unowned hl']
    exact { Same.refl d with graphs := hgraphs }

/-- More definitions give more keys. -/
theorem keys_subset_of_subset {ds es : List PortDefinition} (h : ds ⊆ es) :
    (∀ key ∈ (Ports.ofDefinitions ds).inputKeys, key ∈ (Ports.ofDefinitions es).inputKeys) ∧
      ∀ key ∈ (Ports.ofDefinitions ds).outputKeys, key ∈ (Ports.ofDefinitions es).outputKeys := by
  simp only [mem_inputKeys_ofDefinitions, mem_outputKeys_ofDefinitions]
  exact ⟨fun _ ⟨q, hq, hk⟩ => ⟨q, h hq, hk⟩, fun _ ⟨q, hq, hk⟩ => ⟨q, h hq, hk⟩⟩

theorem hasDefinition_addDefinition {g : GraphId} {p : PortPlan} {id : DefinitionId}
    (ha : d.addDefinition g p = some (id, e)) : e.hasDefinition g id = true := by
  rw [addDefinition] at ha
  split at ha
  · rename_i hg
    cases ha
    obtain ⟨y, hy⟩ := Store.contains_iff.1 hg
    have hds : d.definitions? g = some y.definitions := definitions?_of_graph? hy
    refine hasDefinition_iff.2 ⟨y.definitions ++ [p.define ⟨d.nextDefinition⟩], ?_,
      p.define ⟨d.nextDefinition⟩, by simp, rfl⟩
    rw [definitions?_editDefinitions, definitions?_mapDefinitions, if_pos rfl]
    exact congrArg (Option.map _) hds
  · cases ha

/-- Removing a definition that has just been added restores the document. -/
theorem Same.removeDefinition_addDefinition (h : d.Valid) {g : GraphId} {p : PortPlan}
    {id : DefinitionId} (ha : d.addDefinition g p = some (id, e)) :
    (e.removeDefinition g id).Same d := by
  rw [Document.removeDefinition, if_pos (hasDefinition_addDefinition ha)]
  rw [addDefinition] at ha
  split at ha
  · cases ha
    set q := p.define ⟨d.nextDefinition⟩
    refine (Same.editDefinitions_editDefinitions h.skipDefinition (fun ds hds => ?_) fun ds _ =>
      keys_subset_of_subset (List.subset_append_left ds [q])).trans { Same.refl d with }
    have hnew : ∀ r ∈ ds, r.id ≠ q.id := fun _ => h.id_ne_new hds
    show (ds ++ [q]).filter (·.id ≠ q.id) = ds
    simpa [List.filter_append] using hnew
  · cases ha

/-! ## Held values and variables -/

theorem fill_fill_of_held {key : String} {v w : Value} :
    ∀ {is : List ValueInput}, (is.find? (·.key = key)).bind (·.default) = some w →
      fill key w (fill key v is) = is
  | [], h => by cases h
  | i :: is, h => by
    by_cases hi : i.key = key
    · rw [List.find?_cons_of_pos (by simpa using hi)] at h
      obtain ⟨key', type, default⟩ := i
      cases h
      rw [fill, if_pos hi, fill, if_pos hi]
    · rw [List.find?_cons_of_neg (by simpa using hi)] at h
      rw [fill, if_neg hi, fill, if_neg hi, fill_fill_of_held h]

theorem find?_fill {key : String} {v : Value} : ∀ is : List ValueInput,
    (fill key v is).find? (·.key = key) =
      (is.find? (·.key = key)).map fun i => { i with default := some v }
  | [] => rfl
  | i :: is => by
    rw [fill]
    by_cases hi : i.key = key
    · rw [if_pos hi, List.find?_cons_of_pos (by simpa using hi),
        List.find?_cons_of_pos (by simpa using hi)]
      rfl
    · rw [if_neg hi, List.find?_cons_of_neg (by simpa using hi),
        List.find?_cons_of_neg (by simpa using hi), find?_fill is]

/-- Writing back what an input held restores the document. -/
theorem Same.setDefault_setDefault (h : d.Valid) {n : NodeId} {key : String} {v w : Value}
    (hw : d.heldValue? n key = some w) :
    ((d.setDefault n key v).setDefault n key w).Same d := by
  obtain ⟨x, i, hx, hi, hiw⟩ := heldValue?_eq_some hw
  set f : Value → Ports → Ports := fun v p => { p with valueInputs := fill key v p.valueInputs }
  have hfirst : d.setDefault n key v = (d.mapPorts n (f v)).touch := by
    rw [Document.setDefault, hw]
    rfl
  have hnode : (d.mapPorts n (f v)).touch.node? n = some { x with ports := f v x.ports } := by
    show (d.mapPorts n (f v)).node? n = _
    rw [node?_mapPorts, if_pos rfl, hx]
    rfl
  have hheld : (d.mapPorts n (f v)).touch.heldValue? n key = some v := by
    have hfind : (f v x.ports).valueInput? key = some { i with default := some v } := by
      rw [Ports.valueInput?, find?_fill]
      exact congrArg (Option.map _) hi
    rw [heldValue?, hnode, Option.bind_some, hfind]
    rfl
  have hsecond : (d.mapPorts n (f v)).touch.setDefault n key w =
      ((d.mapPorts n (f v)).touch.mapPorts n (f w)).touch := by
    rw [Document.setDefault, hheld]
    rfl
  have hnodes : (d.nodes.modify n fun x => { x with ports := f v x.ports }).modify n
      (fun x => { x with ports := f w x.ports }) = d.nodes := by
    rw [Store.modify_modify]
    refine Store.modify_eq_self h.nodes fun x' hx' => ?_
    cases hx.symm.trans hx'
    have hfill : fill key w (fill key v x.ports.valueInputs) = x.ports.valueInputs := by
      have hi' : x.ports.valueInputs.find? (·.key = key) = some i := hi
      exact fill_fill_of_held (by rw [hi']; exact hiw)
    simp only [Function.comp, f, hfill]
  rw [hfirst, hsecond]
  exact { Same.refl d with nodes := hnodes }

/-- Declaring a variable that is defined already changes nothing. -/
theorem Same.modifyVariables_of_contains (h : d.Valid) {scope : Scope} {g : GraphId}
    {vs : Declarations} {name : String} (hvs : d.declarations? scope g = some vs)
    (hc : vs.contains name = true) (v : Value) : (d.modifyVariables scope g fun vs =>
      if vs.contains name then vs else vs.put name v).Same d := by
  cases scope with
  | graph =>
    have hself : (d.mapDeclarations g fun vs =>
        if vs.contains name then vs else vs.put name v) = d :=
      mapDeclarations_eq_self h.graphs fun ws hws => by
        cases hvs.symm.trans hws
        rw [if_pos hc]
    rw [Document.modifyVariables, hself]
    exact { Same.refl d with }
  | object =>
    cases hvs
    exact { Same.refl d with objectVariables := if_pos hc }
  | scene =>
    cases hvs
    exact { Same.refl d with sceneVariables := if_pos hc }
  | application =>
    cases hvs
    exact { Same.refl d with applicationVariables := if_pos hc }
  | saved =>
    cases hvs
    exact { Same.refl d with savedVariables := if_pos hc }

/-- Erasing a variable that has just been declared restores the document. -/
theorem Same.erase_modifyVariables (h : d.Valid) {scope : Scope} {g : GraphId}
    {vs : Declarations} {name : String} (hvs : d.declarations? scope g = some vs)
    (hc : vs.contains name = false) (v : Value) : ((d.modifyVariables scope g fun vs =>
      if vs.contains name then vs else vs.put name v).modifyVariables scope g
        (·.erase name)).Same d := by
  have hnew : vs.get? name = none := by
    simpa [Store.contains] using hc
  have herase : (if vs.contains name then vs else vs.put name v).erase name = vs := by
    rw [hc]
    exact Store.erase_put v hnew
  cases scope with
  | graph =>
    have hgraphs : ((d.mapDeclarations g fun vs => if vs.contains name then vs else vs.put name v
        ).mapDeclarations g (·.erase name)).graphs = d.graphs := by
      rw [Document.mapDeclarations, Document.mapDeclarations, Store.modify_modify]
      refine Store.modify_eq_self h.graphs fun x hx => ?_
      have hx' : d.declarations? .graph g = some x.declarations := congrArg (Option.map _) hx
      cases hvs.symm.trans hx'
      simp only [Function.comp, herase]
    exact { Same.refl d with graphs := hgraphs }
  | object =>
    cases hvs
    exact { Same.refl d with objectVariables := herase }
  | scene =>
    cases hvs
    exact { Same.refl d with sceneVariables := herase }
  | application =>
    cases hvs
    exact { Same.refl d with applicationVariables := herase }
  | saved =>
    cases hvs
    exact { Same.refl d with savedVariables := herase }

end GraphDraft.Document

import GraphDraft.Proofs.Document.Extension
import GraphDraft.Proofs.Document.Run
import GraphDraft.Proofs.Document.Stray
import GraphDraft.Proofs.Draft.Undo

/-!
# Mutations and the journal

A draft is changed by `Mutation`s. All of them but one note what they do. Joining two nodes notes
nothing, so that rolling back leaves those of its edges between nodes that there were before, at
keys that they had before (`rollback_runAll`): the document is restored if there are no such edges,
and only then.
-/

namespace GraphDraft

open Document Draft

/-- A way to change a draft. -/
inductive Mutation where
  | createNode (blueprint : Blueprint) (left : Bool)
  | connectNodes (source target : NodeId)
  | connectSelection
  | definePort (graph : GraphId) (kind : PortKind) (name : String)
  | declareVariable (scope : Scope) (graph : GraphId) (name : String) (type : DataType)
  | placeNode (graph : GraphId) (blueprint : Blueprint) (position : Point)
  | setDefault (node : NodeId) (key : String) (value : Value)

namespace Mutation

/-- The draft after a mutation, unchanged if the mutation gives none. -/
def run (m : Mutation) (x : Draft) : Draft :=
  match m with
  | createNode b left => ((x.createNode b left).map (·.2)).getD x
  | connectNodes source target => (x.connectNodes source target).2
  | connectSelection => x.connectSelection.2
  | definePort g kind name => ((x.definePort g kind name).map (·.2)).getD x
  | declareVariable scope g name type => (x.declareVariable scope g name type).2
  | placeNode g b p => ((x.placeNode g b p).map (·.2)).getD x
  | setDefault n key v => x.setDefault n key v

/-- The edges that a mutation makes between the two nodes that it is given. -/
def strays (m : Mutation) (x : Draft) : List Edge :=
  match m with
  | connectNodes source target => (x.document.wire source target).1
  | _ => []

/-- The draft after some mutations in order. -/
def runAll : List Mutation → Draft → Draft
  | [], x => x
  | m :: ms, x => runAll ms (m.run x)

/-- The edges that some mutations make between nodes that they are given. -/
def straysAll : List Mutation → Draft → List Edge
  | [], _ => []
  | m :: ms, x => m.strays x ++ straysAll ms (m.run x)

end Mutation

/-! ## Edges that are there -/

namespace Document

variable {d e : Document} {c : Edge} {cs : List Edge}

/-- An edge that can be made is not there yet. -/
theorem hasEdge_of_canConnect (hc : d.canConnect c = true) : d.hasEdge c = false := by
  obtain ⟨s, t, -, -, -, -, -, hfree, -⟩ := canConnect_iff.1 hc
  rw [outputConnected, List.any_eq_false] at hfree
  rw [← Bool.not_eq_true, hasEdge, List.contains_iff_mem]
  exact fun hmem => hfree c hmem (by simp)

theorem Extends.hasEdge_mono {new : Edge → Prop} (h : d.Extends new e)
    (hc : d.hasEdge c = true) : e.hasEdge c = true := by
  rw [Document.hasEdge, edgesAround, List.contains_iff_mem] at hc
  cases hs : d.node? c.source with
  | none => simp [hs] at hc
  | some s =>
    obtain ⟨y, hy, hsy⟩ := h.node hs
    cases hg : d.graph? s.graph with
    | none => simp [hs, hg] at hc
    | some x =>
      obtain ⟨z, hz, hxz⟩ := h.graph hg
      obtain ⟨cs, hcs, -⟩ := hxz.edges
      have hmem : c ∈ x.edges := by simpa [hs, hg] using hc
      rw [Document.hasEdge, edgesAround, hy, Option.bind_some, hsy.graph, hz, Option.map_some,
        Option.getD_some, hcs, List.contains_iff_mem]
      exact List.mem_append_left _ hmem

theorem hasEdge_addEdge (h : d.Valid) (hc : d.canConnect c = true) :
    (d.addEdge c).hasEdge c = true := by
  obtain ⟨s, t, hs, -⟩ := canConnect_iff.1 hc
  obtain ⟨o, ns, hl, -⟩ := h.tree.home (place?_of_node? hs)
  obtain ⟨y, hy, -⟩ := graph?_of_listing? hl
  have hnode : (d.withEdge s.graph c).touch.node? c.source = some s := hs
  have hedges : (d.withEdge s.graph c).touch.edges? s.graph = some (y.edges ++ [c]) := by
    rw [edges?_touch, withEdge, edges?_mapEdges, if_pos rfl, edges?_of_graph? hy]
    rfl
  rw [addEdge_eq_withEdge hs, hasEdge, edgesAround, hnode, Option.bind_some, ← edges?, hedges,
    Option.getD_some, List.contains_iff_mem]
  simp

/-- An edge that has just been made can be taken away again. -/
theorem same_disconnect_addEdge (h : d.Valid) (hc : d.canConnect c = true) :
    ((d.addEdge c).disconnect c).Same d := by
  obtain ⟨s, t, hs, -⟩ := canConnect_iff.1 hc
  have hnew : ∀ es, d.edges? s.graph = some es → c ∉ es := by
    intro es hes hmem
    have hhas := hasEdge_of_canConnect hc
    rw [hasEdge, edgesAround, hs, Option.bind_some, ← edges?, hes, Option.getD_some] at hhas
    simp [hmem] at hhas
  have herase : (d.withEdge s.graph c).mapEdges s.graph (·.erase c) = d := by
    rw [withEdge, mapEdges_mapEdges]
    refine mapEdges_eq_self h.graphs fun es hes => ?_
    show (es ++ [c]).erase c = es
    rw [List.erase_append_right _ (hnew es hes)]
    simp
  have hnode : (d.withEdge s.graph c).touch.node? c.source = some s := hs
  have hhas := hasEdge_addEdge h hc
  rw [addEdge_eq_withEdge hs] at hhas ⊢
  rw [disconnect, hnode, hhas]
  exact { Same.refl d with graphs := congrArg (·.graphs) herase }

namespace Makes

variable (hm : Makes d cs e) (h : d.Valid)
include hm h

theorem valid : e.Valid := by
  induction hm with
  | nil => exact h
  | cons hcan _ ih => exact ih (h.addEdge hcan)

omit h in
theorem hasEdge_mono (hc : d.hasEdge c = true) : e.hasEdge c = true := by
  induction hm with
  | nil => exact hc
  | @cons d _ b _ _ _ ih =>
    have hadd : d.Extends (fun _ => True) (d.addEdge b) := (Extends.refl _ d).addEdge trivial
    exact ih (hadd.hasEdge_mono hc)

theorem hasEdge (hc : c ∈ cs) : e.hasEdge c = true := by
  induction hm with
  | nil => cases hc
  | cons hcan hrest ih =>
    rcases List.mem_cons.1 hc with rfl | hc
    · exact hrest.hasEdge_mono (hasEdge_addEdge h hcan)
    · exact ih (h.addEdge hcan) hc

/-- Edges that are noted in the order in which they are made are taken away again. -/
theorem rollback : (Journal.rollback (cs.map .edgeConnected) e).Same d := by
  induction hm with
  | nil => exact .refl _
  | @cons d e c cs hcan hrest ih =>
    have hv := h.addEdge hcan
    have he := (hrest.valid hv).rollback (cs.map .edgeConnected)
    exact ((ih hv).revert he hv (.edgeConnected c)).trans (same_disconnect_addEdge h hcan)

end Makes

end Document

/-! ## Which edges are noted -/

namespace Draft

variable {x y : Draft} {g : GraphId} {n : NodeId}

theorem journal_createNode {b : Blueprint} {left : Bool} (h : x.createNode b left = some (n, y))
    (c : Edge) (hc : .edgeConnected c ∈ y.journal) : .edgeConnected c ∈ x.journal := by
  obtain ⟨⟨m, e⟩, -, hy⟩ := Option.map_eq_some_iff.1 h
  cases hy
  simpa [record] using hc

theorem journal_placeNode {b : Blueprint} {p : Point} (h : x.placeNode g b p = some (n, y))
    (c : Edge) (hc : .edgeConnected c ∈ y.journal) : .edgeConnected c ∈ x.journal := by
  obtain ⟨⟨m, e⟩, -, hy⟩ := Option.map_eq_some_iff.1 h
  cases hy
  simpa [record] using hc

theorem journal_definePort {kind : PortKind} {name : String} {id : DefinitionId}
    (h : x.definePort g kind name = some (id, y)) (c : Edge)
    (hc : .edgeConnected c ∈ y.journal) : .edgeConnected c ∈ x.journal := by
  obtain ⟨⟨i, e⟩, -, hy⟩ := Option.map_eq_some_iff.1 h
  cases hy
  simpa [record] using hc

theorem journal_declareVariable (x : Draft) (scope : Scope) (g : GraphId) (name : String)
    (type : DataType) (c : Edge)
    (hc : .edgeConnected c ∈ (x.declareVariable scope g name type).2.journal) :
    .edgeConnected c ∈ x.journal := by
  rw [declareVariable] at hc
  split at hc
  · simpa [record] using hc
  · exact hc

theorem journal_setDefault (x : Draft) (n : NodeId) (key : String) (v : Value) (c : Edge)
    (hc : .edgeConnected c ∈ (x.setDefault n key v).journal) : .edgeConnected c ∈ x.journal := by
  rw [setDefault] at hc
  split at hc
  · simpa [record] using hc
  · exact hc

end Draft

/-! ## What is left after rolling back -/

/-- Rolling back gives `d` with those of the edges `cs` that it hosts; the document has the edges
that are noted. -/
structure Draft.Leaves (d : Document) (cs : List Edge) (x : Draft) : Prop where
  valid : x.document.Valid
  rollback : (x.journal.rollback x.document).Same (d.addEdges (cs.filter d.hosts))
  noted : ∀ c, .edgeConnected c ∈ x.journal → x.document.hasEdge c = true

namespace Draft

variable {d e : Document} {x y : Draft} {cs bs : List Edge} {c : Edge}

/-- A draft as a starting point of its own. -/
theorem Leaves.undoable (h : Leaves d cs x) : Undoable (x.journal.rollback x.document) x :=
  ⟨h.valid, .refl _⟩

/-- What can be undone leaves nothing more behind. -/
theorem Leaves.of_undoable (h : Leaves d cs x)
    (hy : Undoable (x.journal.rollback x.document) y)
    (hmono : ∀ c, x.document.hasEdge c = true → y.document.hasEdge c = true)
    (hnew : ∀ c, .edgeConnected c ∈ y.journal →
      .edgeConnected c ∈ x.journal ∨ y.document.hasEdge c = true) : Leaves d cs y where
  valid := hy.valid
  rollback := hy.rollback.trans h.rollback
  noted c hc := (hnew c hc).elim (fun hx => hmono c (h.noted c hx)) id

theorem Leaves.of_noted (h : Leaves d cs x) (hy : Undoable (x.journal.rollback x.document) y)
    (hext : x.document.Extends (fun _ => True) y.document)
    (hj : ∀ c, .edgeConnected c ∈ y.journal → .edgeConnected c ∈ x.journal) : Leaves d cs y :=
  h.of_undoable hy (fun _ => hext.hasEdge_mono) fun c hc => .inl (hj c hc)

/-- An edge that is not noted is left if `d` hosts it. -/
theorem Leaves.addEdge (h : Leaves d cs x) (hcan : x.document.canConnect c = true) :
    Leaves d (cs ++ [c]) { x with document := x.document.addEdge c } where
  valid := h.valid.addEdge hcan
  noted b hb := by
    have hadd : x.document.Extends (fun _ => True) (x.document.addEdge c) :=
      (Extends.refl _ x.document).addEdge trivial
    exact hadd.hasEdge_mono (h.noted b hb)
  rollback := by
    obtain ⟨s, t, hs, -⟩ := canConnect_iff.1 hcan
    have hj := joins_of_canConnect hs hcan
    have hnot : .edgeConnected c ∉ x.journal := fun hmem => by
      have := h.noted c hmem
      rw [hasEdge_of_canConnect hcan] at this
      cases this
    have hback := (rollback_withEdge h.valid hj hnot).trans (h.rollback.offerEdge s.graph c)
    have hkeys : (d.addEdges (cs.filter d.hosts)).keys? = d.keys? :=
      funext fun n => by rw [keys?, (views_of_nodes (nodes_addEdges _ _)).2, keys?]
    have hstep : (x.journal.rollback (x.document.addEdge c)).Same
        ((d.addEdges (cs.filter d.hosts)).offerEdge s.graph c) := by
      rw [addEdge_eq_withEdge hs]
      have hv := h.valid.withEdge hj
      have htouch : (x.document.withEdge s.graph c).touch.Same (x.document.withEdge s.graph c) :=
        { Same.refl _ with }
      exact (htouch.rollback hv.touch hv x.journal).trans hback
    refine hstep.trans ?_
    rw [offerEdge, hosts_congr hkeys, List.filter_append]
    split
    · rename_i hc
      -- the source of the edge stands where it stood before the edge was made
      have hrolled := joins_rollback h.valid hj x.journal (by
        rw [hosts_congr h.rollback.keys?, hosts_congr hkeys, hc])
      obtain ⟨b, hb⟩ := hrolled.source
      rw [(views_of_nodes h.rollback.nodes).1] at hb
      obtain ⟨s', hs', hg, -⟩ := node?_of_place? hb
      rw [List.filter_singleton, hc, cond_true, addEdges_concat, addEdge_eq_withEdge hs', hg]
      exact { Same.refl _ with }
    · rename_i hc
      rw [List.filter_singleton, Bool.eq_false_iff.2 hc, cond_false, List.append_nil]
      exact .refl _

theorem Leaves.makes (h : Leaves d cs x) (hm : Makes x.document bs e) :
    Leaves d (cs ++ bs) { x with document := e } := by
  obtain ⟨document, j, stack, feedback⟩ := x
  change Makes document bs e at hm
  induction hm generalizing cs with
  | nil => simpa using h
  | @cons _ _ b bs hcan _ ih =>
    have hnext := ih (h.addEdge hcan)
    rwa [List.append_assoc] at hnext

theorem Undoable.connectSelection (h : Undoable d x) : Undoable d x.connectSelection.2 := by
  have hm := wireChain_makes x.document.selectedAcross x.document
  refine ⟨hm.valid h.valid, ?_⟩
  show (Journal.rollback (x.journal ++ _) _).Same d
  rw [Journal.rollback_append]
  exact ((hm.rollback h.valid).rollback ((hm.valid h.valid).rollback _) h.valid x.journal).trans
    h.rollback

theorem Undoable.placeNode_only (h : Undoable d x) {g : GraphId} {b : Blueprint} {p : Point}
    {n : NodeId} (hp : x.placeNode g b p = some (n, y)) : Undoable d y := by
  obtain ⟨⟨m, e⟩, ha, hy⟩ := Option.map_eq_some_iff.1 hp
  cases hy
  have hadd := Adds.of_addNode h.valid ha
  exact h.record hadd.valid rfl hadd.removeNode

end Draft

namespace Mutation

variable {d : Document} {x : Draft} {cs : List Edge}

/-- A mutation leaves nothing but its stray edges behind. -/
theorem leaves_run (h : Leaves d cs x) (m : Mutation) :
    Leaves d (cs ++ m.strays x) (m.run x) := by
  have hrefl := Extends.refl (fun _ => True) x.document
  have hnone : ∀ {y}, Leaves d cs y → Leaves d (cs ++ []) y := fun hy => by simpa using hy
  cases m with
  | createNode b left =>
    refine hnone ?_
    rw [run]
    cases hc : x.createNode b left with
    | none => exact h
    | some r =>
      exact h.of_noted (h.undoable.createNode hc)
        (hrefl.createNode h.valid (fun _ _ => trivial) hc) (journal_createNode hc)
  | connectNodes source target => exact h.makes (wire_makes x.document source target)
  | connectSelection =>
    have hm := wireChain_makes x.document.selectedAcross x.document
    refine hnone (h.of_undoable h.undoable.connectSelection (fun c => hm.hasEdge_mono) ?_)
    intro c hmem
    rcases List.mem_append.1 hmem with hmem | hmem
    · exact .inl hmem
    · obtain ⟨b, hb, hbc⟩ := List.mem_map.1 hmem
      cases hbc
      exact .inr (hm.hasEdge h.valid hb)
  | definePort g kind name =>
    refine hnone ?_
    rw [run]
    cases hp : x.definePort g kind name with
    | none => exact h
    | some r =>
      exact h.of_noted (h.undoable.definePort hp) (hrefl.definePort h.valid hp)
        (journal_definePort hp)
  | declareVariable scope g name type =>
    exact hnone (h.of_noted (h.undoable.declareVariable scope g name type)
      (hrefl.declareVariable scope g name type) (journal_declareVariable x scope g name type))
  | placeNode g b p =>
    refine hnone ?_
    rw [run]
    cases hp : x.placeNode g b p with
    | none => exact h
    | some r =>
      exact h.of_noted (h.undoable.placeNode_only hp) (hrefl.placeNode h.valid hp).2
        (journal_placeNode hp)
  | setDefault n key v =>
    exact hnone (h.of_noted (h.undoable.setDefault n key v) (hrefl.fill n key v)
      (journal_setDefault x n key v))

theorem leaves_runAll (h : Leaves d cs x) (ms : List Mutation) :
    Leaves d (cs ++ straysAll ms x) (runAll ms x) := by
  induction ms generalizing cs x with
  | nil => simpa [straysAll, runAll] using h
  | cons m ms ih =>
    have hrest := ih (leaves_run h m)
    rwa [List.append_assoc] at hrest

/-- Rolling back mutations leaves those of the edges which were not noted that join nodes of the
document at keys of theirs, in the order in which they were made, and restores all else. -/
theorem rollback_runAll (hd : d.Reachable) (stack : List NodeId) (feedback : Feedback)
    (ms : List Mutation) :
    let x := runAll ms ⟨d, [], stack, feedback⟩
    let strays := straysAll ms ⟨d, [], stack, feedback⟩
    x.rollback.document.Same (d.addEdges (strays.filter d.hosts)) ∧
      (x.rollback.document.Same d ↔ ∀ c ∈ strays, d.hosts c = false) := by
  intro x strays
  have hstart : Leaves d [] ⟨d, [], stack, feedback⟩ := ⟨hd.valid, .refl d, by simp⟩
  have hleaves : x.rollback.document.Same (d.addEdges (strays.filter d.hosts)) :=
    (leaves_runAll hstart ms).rollback
  refine ⟨hleaves, ?_⟩
  calc x.rollback.document.Same d
      ↔ (d.addEdges (strays.filter d.hosts)).Same d := ⟨hleaves.symm.trans, hleaves.trans⟩
    _ ↔ strays.filter d.hosts = [] :=
        same_addEdges_iff hd.valid fun c hc => (List.mem_filter.1 hc).2
    _ ↔ ∀ c ∈ strays, d.hosts c = false := by simp [List.filter_eq_nil_iff]

/-- Two nodes that can be joined, the exit of the one to the entry of the other. -/
def joinable : Document :=
  Operation.runAll
    [.addNode .root
       { kind := .unit "Start", title := "Start", ports := { controlOutputs := ["exit"] } } .origin,
     .addNode .root
       { kind := .unit "Print", title := "Print", ports := { controlInputs := ["enter"] } } .origin]
    (.empty "Main")

theorem rollback_runAll_joinable :
    let x := runAll [.createNode .null false, .connectNodes ⟨0⟩ ⟨1⟩] ⟨joinable, [], [], {}⟩
    let strays := straysAll [.createNode .null false, .connectNodes ⟨0⟩ ⟨1⟩]
      ⟨joinable, [], [], {}⟩
    x.rollback.document.Same (joinable.addEdges (strays.filter joinable.hosts)) ∧
      (x.rollback.document.Same joinable ↔ ∀ c ∈ strays, joinable.hosts c = false) :=
  rollback_runAll ⟨"Main", _, rfl⟩ [] {} [.createNode .null false, .connectNodes ⟨0⟩ ⟨1⟩]

/-- Joining the two and rolling back leaves the edge. -/
theorem not_same_rollback_joinable :
    joinable.Reachable ∧
      ¬(runAll [.connectNodes ⟨0⟩ ⟨1⟩] ⟨joinable, [], [], {}⟩).rollback.document.Same joinable := by
  refine ⟨⟨"Main", _, rfl⟩, fun h => ?_⟩
  have hleft : (runAll [.connectNodes ⟨0⟩ ⟨1⟩] ⟨joinable, [], [], {}⟩).rollback.document.edges?
      .root = some [⟨.control, ⟨0⟩, "exit", ⟨1⟩, "enter"⟩] := rfl
  have hbefore : joinable.edges? .root = some [] := rfl
  rw [edges?, h.graph?, ← edges?, hbefore] at hleft
  cases hleft

end Mutation

end GraphDraft

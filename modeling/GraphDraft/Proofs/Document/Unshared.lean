import GraphDraft.Proofs.Document.Run

/-!
# Ports that edges share

No port of a reachable document is used by two edges (`Reachable.unshared`). Within a graph this is
kept by every operation: all but connecting leave some of the edges that were there
(`thins_run`), and connecting asks first whether an edge uses either port. Between graphs there is
nothing to ask, since edges stay in the graph of their nodes.
-/

namespace GraphDraft

/-- The output at which an edge starts. -/
def Edge.start (e : Edge) : EdgeKind × NodeId × String :=
  (e.kind, e.source, e.output)

/-- The input at which an edge ends. -/
def Edge.finish (e : Edge) : EdgeKind × NodeId × String :=
  (e.kind, e.target, e.input)

/-- No two of some edges start at the same output or end at the same input. -/
structure Unshared (es : List Edge) : Prop where
  starts : (es.map Edge.start).Nodup
  finishes : (es.map Edge.finish).Nodup

theorem Unshared.nil : Unshared [] :=
  ⟨List.nodup_nil, List.nodup_nil⟩

theorem Unshared.sublist {es fs : List Edge} (h : Unshared fs) (hs : es.Sublist fs) :
    Unshared es where
  starts := h.starts.sublist (hs.map _)
  finishes := h.finishes.sublist (hs.map _)

theorem nodup_map_concat {α : Type} {port : Edge → α} {es : List Edge} {c : Edge}
    (h : (es.map port).Nodup) (hc : ∀ e ∈ es, port e ≠ port c) :
    ((es ++ [c]).map port).Nodup := by
  rw [List.map_append, List.map_singleton, List.nodup_append]
  refine ⟨h, List.nodup_singleton _, fun p hp q hq => ?_⟩
  obtain ⟨e, he, rfl⟩ := List.mem_map.1 hp
  rw [List.mem_singleton.1 hq]
  exact hc e he

namespace Document

variable {d e f : Document}

/-! ## Operations that make no edges -/

/-- The edges that `e` has in a graph are some of those that `d` has there, in order. -/
def Thins (d e : Document) : Prop :=
  ∀ ⦃g es⦄, e.edges? g = some es → es = [] ∨ ∃ fs, d.edges? g = some fs ∧ es.Sublist fs

theorem Thins.of_edges? (h : e.edges? = d.edges?) : d.Thins e := by
  intro g es hes
  rw [h] at hes
  exact .inr ⟨es, hes, List.Sublist.refl es⟩

theorem Thins.refl (d : Document) : d.Thins d :=
  .of_edges? rfl

theorem Thins.trans (h : d.Thins e) (k : e.Thins f) : d.Thins f := by
  intro g es hes
  rcases k hes with rfl | ⟨fs, hfs, hsub⟩
  · exact .inl rfl
  · rcases h hfs with rfl | ⟨bs, hbs, hsub'⟩
    · exact .inl (List.sublist_nil.1 hsub)
    · exact .inr ⟨bs, hbs, hsub.trans hsub'⟩

theorem Thins.mapEdges (d : Document) (g : GraphId) {f : List Edge → List Edge}
    (hf : ∀ es, (f es).Sublist es) : d.Thins (d.mapEdges g f) := by
  intro k es hes
  rw [edges?_mapEdges] at hes
  split at hes
  · obtain ⟨fs, hfs, rfl⟩ := Option.map_eq_some_iff.1 hes
    exact .inr ⟨fs, hfs, hf fs⟩
  · exact .inr ⟨es, hes, List.Sublist.refl es⟩

theorem Thins.addNode (h : d.Valid) {g : GraphId} {b : Blueprint} {p : Point} {n : NodeId}
    (ha : d.addNode g b p = some (n, e)) : d.Thins e := by
  obtain ⟨hg, -, rfl, -⟩ := h.addNode ha
  intro k es hes
  rw [edges?_grown h hg] at hes
  split at hes
  · obtain ⟨-, -, rfl⟩ := Option.map_eq_some_iff.1 hes
    exact .inl rfl
  · exact .inr ⟨es, hes, List.Sublist.refl es⟩

theorem Thins.removeNode (h : d.Valid) (n : NodeId) : d.Thins (d.removeNode n) := by
  obtain ⟨r, hr⟩ := removeNode_eq h n
  rw [hr]
  intro g es hes
  obtain ⟨x, hx, rfl⟩ := graph?_of_edges? hes
  obtain ⟨y, hy, -, rfl⟩ := graph?_removing_eq_some (h.revised r) hx
  exact .inr ⟨y.edges, edges?_of_graph? hy, List.filter_sublist⟩

/-- Ports that are derived anew drop edges and make none. -/
theorem Thins.definitionsChanged (d : Document) (g : GraphId) :
    d.Thins (d.definitionsChanged g) := by
  rw [Document.definitionsChanged, derivePorts]
  split
  · exact .refl d
  · split
    · exact .refl d
    · exact Thins.mapEdges (d.mapPorts _ _) _ fun es => List.filter_sublist

theorem Thins.editDefinitions (d : Document) (g : GraphId)
    (f : List PortDefinition → List PortDefinition) : d.Thins (d.editDefinitions g f) :=
  .trans (.of_edges? (edges?_mapDefinitions d g f)) (.definitionsChanged _ g)

theorem thins_run (h : d.Valid) {o : Operation} (ho : ∀ c, o ≠ .connect c) : d.Thins (o.run d) := by
  cases o with
  | select n => exact .refl d
  | setSelection ns => exact .refl d
  | extendSelection n =>
    rw [Operation.run, Document.extendSelection]
    split <;> exact .refl d
  | selectGraph g => exact .refl d
  | setPointer p => exact .refl d
  | setPosition n p =>
    rw [Operation.run, Document.setPosition]
    split <;> exact .refl d
  | addNode g b p =>
    rw [Operation.run]
    cases ha : d.addNode g b p with
    | none => exact .refl d
    | some r => exact .addNode h (n := r.1) ha
  | removeNode n => exact .removeNode h n
  | connect c => exact absurd rfl (ho c)
  | disconnect c =>
    rw [Operation.run, Document.disconnect]
    split
    · split
      · exact Thins.mapEdges d _ fun es => List.erase_sublist
      · exact .refl d
    · exact .refl d
  | setDefault n key v =>
    rw [Operation.run, Document.setDefault]
    split <;> exact .refl d
  | addDefinition g p =>
    rw [Operation.run, Document.addDefinition]
    split
    · exact Thins.editDefinitions { d with nextDefinition := d.nextDefinition + 1 } g _
    · exact .refl d
  | removeDefinition g id =>
    rw [Operation.run, Document.removeDefinition]
    split
    · exact .editDefinitions d g _
    · exact .refl d
  | definitionsChanged g => exact .definitionsChanged d g
  | editVariables scope g es =>
    cases scope with
    | graph =>
      exact .of_edges? (edges?_mapDeclarations d g (es.foldl VariableEdit.apply ·))
    | object | scene | application | saved => exact .refl d

/-! ## Edges within a graph -/

/-- No two edges of a graph share a port. -/
def UnsharedWithin (d : Document) : Prop :=
  ∀ ⦃g es⦄, d.edges? g = some es → Unshared es

theorem unsharedWithin_empty (title : String) : (empty title).UnsharedWithin := by
  intro g es hes
  rw [edges?, graph?_empty] at hes
  split at hes
  · cases hes
    exact .nil
  · cases hes

theorem UnsharedWithin.thins (h : d.UnsharedWithin) (ht : d.Thins e) : e.UnsharedWithin := by
  intro g es hes
  rcases ht hes with rfl | ⟨fs, hfs, hsub⟩
  · exact .nil
  · exact (h hfs).sublist hsub

/-- The ports of an edge that can be made are free, and only one of its kind is appended. -/
theorem UnsharedWithin.addEdge (h : d.UnsharedWithin) {c : Edge} (hc : d.canConnect c = true) :
    (d.addEdge c).UnsharedWithin := by
  obtain ⟨s, t, hs, ht, -, hst, -, hout, hin⟩ := canConnect_iff.1 hc
  simp only [Document.addEdge, hs]
  intro g es hes
  rw [edges?_touch, edges?_mapEdges] at hes
  split at hes
  · subst g
    obtain ⟨fs, hfs, rfl⟩ := Option.map_eq_some_iff.1 hes
    obtain ⟨x, hx, rfl⟩ := graph?_of_edges? hfs
    have hsource : d.edgesAround c.source = x.edges := by simp [edgesAround, hs, hx]
    have htarget : d.edgesAround c.target = x.edges := by simp [edgesAround, ht, ← hst, hx]
    rw [outputConnected, hsource, List.any_eq_false] at hout
    rw [inputConnected, htarget, List.any_eq_false] at hin
    refine ⟨nodup_map_concat (h hfs).starts ?_, nodup_map_concat (h hfs).finishes ?_⟩
    · intro e he heq
      simp only [Edge.start, Prod.mk.injEq] at heq
      exact hout e he (by simp [heq])
    · intro e he heq
      simp only [Edge.finish, Prod.mk.injEq] at heq
      exact hin e he (by simp [heq])
  · exact h hes

theorem UnsharedWithin.run (hv : d.Valid) (h : d.UnsharedWithin) (o : Operation) :
    (o.run d).UnsharedWithin := by
  by_cases ho : ∃ c, o = .connect c
  · obtain ⟨c, rfl⟩ := ho
    rw [Operation.run, connect]
    split
    · rename_i hc
      exact h.addEdge hc
    · exact h
  · exact h.thins (thins_run hv fun c hc => ho ⟨c, hc⟩)

theorem UnsharedWithin.runAll (hv : d.Valid) (h : d.UnsharedWithin) (os : List Operation) :
    (Operation.runAll os d).UnsharedWithin := by
  induction os generalizing d with
  | nil => exact h
  | cons o os ih => exact ih (hv.run o) (h.run hv o)

/-! ## Edges of the whole document -/

/-- All edges, graph by graph. -/
def allEdges (d : Document) : List Edge :=
  d.graphs.entries.flatMap (·.2.edges)

/-- Ports that are not used twice within a graph are not used twice at all, since a port belongs to
a node, which stands in one graph. -/
theorem Valid.nodup_ports (hv : d.Valid) {port : Edge → EdgeKind × NodeId × String}
    (hwithin : ∀ ⦃g es⦄, d.edges? g = some es → (es.map port).Nodup)
    (hplace : ∀ ⦃g es⦄, d.edges? g = some es → ∀ e ∈ es, ∃ b, d.place? (port e).2.1 = some (g, b)) :
    (d.allEdges.map port).Nodup := by
  have hedges : ∀ x ∈ d.graphs.entries, d.edges? x.1 = some x.2.edges := fun x hx =>
    edges?_of_graph? (Store.get?_of_mem hv.graphs hx)
  rw [allEdges, List.map_flatMap, List.nodup_flatMap]
  refine ⟨fun x hx => hwithin (hedges x hx), ?_⟩
  have hne : d.graphs.entries.Pairwise fun x y => x.1 ≠ y.1 := List.pairwise_map.1 hv.graphs
  refine hne.imp_of_mem fun {x y} hx hy hxy p hpx hpy => hxy ?_
  obtain ⟨e, he, rfl⟩ := List.mem_map.1 hpx
  obtain ⟨c, hc, hce⟩ := List.mem_map.1 hpy
  obtain ⟨a, ha⟩ := hplace (hedges x hx) e he
  obtain ⟨b, hb⟩ := hplace (hedges y hy) c hc
  rw [hce, ha] at hb
  exact (Prod.mk.inj (Option.some.inj hb)).1

theorem UnsharedWithin.unshared (hv : d.Valid) (h : d.UnsharedWithin) : Unshared d.allEdges where
  starts := by
    refine hv.nodup_ports (fun g es hes => (h hes).starts) fun g es hes e he => ?_
    exact (hv.wired hes e he).source
  finishes := by
    refine hv.nodup_ports (fun g es hes => (h hes).finishes) fun g es hes e he => ?_
    exact (hv.wired hes e he).target

theorem Reachable.unshared (h : d.Reachable) : Unshared d.allEdges := by
  have hv := h.valid
  obtain ⟨title, os, rfl⟩ := h
  exact ((unsharedWithin_empty title).runAll (valid_empty title) os).unshared hv

end Document

end GraphDraft

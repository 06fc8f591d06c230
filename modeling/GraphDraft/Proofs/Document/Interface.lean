import GraphDraft.Proofs.Draft.Reachable

/-!
# Interfaces of composites

The port definitions of a body are the interface of its composite: in every document that can be
reached the composite has the ports that they give (`Ports.Shows`). Adding a definition drops no
edge, since all keys stay, and taking the definition out again leaves the document as it was but for
the counters (`Document.Reachable.interface`). The root graph, which has no owner, may have
definitions as well; no ports change with them.
-/

namespace GraphDraft

/-- The ports are those of the definitions, kind by kind and in order, without values held. -/
structure Ports.Shows (p : Ports) (ds : List PortDefinition) : Prop where
  controlInputs : p.controlInputs = (ds.filter (·.kind = .controlInput)).map (·.key)
  controlOutputs : p.controlOutputs = (ds.filter (·.kind = .controlOutput)).map (·.key)
  valueInputs : p.valueInputs =
    (ds.filter (·.kind = .valueInput)).map fun q => ⟨q.key, q.type, none⟩
  valueOutputs : p.valueOutputs = (ds.filter (·.kind = .valueOutput)).map fun q => ⟨q.key, q.type⟩

theorem Ports.shows_ofDefinitions (ds : List PortDefinition) : (Ports.ofDefinitions ds).Shows ds :=
  ⟨rfl, rfl, rfl, rfl⟩

namespace Document

variable {d e : Document} {g : GraphId}

/-! ## Ports -/

/-- A node with a body has the ports that the body defines. -/
theorem Valid.shows (h : d.Valid) {n : NodeId} {x : Node} {b : GraphId} (hx : d.node? n = some x)
    (hb : x.body = some b) : ∃ y, d.graph? b = some y ∧ x.ports.Shows y.definitions := by
  have hplace : d.place? n = some (x.graph, some b) := hb ▸ place?_of_node? hx
  obtain ⟨-, ns, hl⟩ := h.tree.body hplace
  obtain ⟨y, hy, -⟩ := graph?_of_listing? hl
  have hports := h.composed hplace (ports?_of_node? hx) (definitions?_of_graph? hy)
  exact ⟨y, hy, hports ▸ Ports.shows_ofDefinitions y.definitions⟩

/-! ## Adding a definition -/

/-- A change of definitions that keeps all keys keeps all edges. -/
theorem Valid.edges?_editDefinitions (h : d.Valid) {f : List PortDefinition → List PortDefinition}
    (hf : ∀ ds, ds ⊆ f ds) : (d.editDefinitions g f).edges? = d.edges? := by
  by_cases ho : ∃ n ns, d.listing? g = some (some n, ns)
  · obtain ⟨n, ns, hl⟩ := ho
    obtain ⟨-, -, ds, -, -, hds, -⟩ := h.exists_owner hl
    obtain ⟨hin, hout⟩ := keys_subset_of_subset (hf ds)
    rw [h.editDefinitions_of_keys hl hds hin hout]
    simp
  · rw [editDefinitions_of_unowned fun n ns hl => ho ⟨n, ns, hl⟩]
    simp

/-! ## Taking it out again -/

theorem editDefinitions_frame (d : Document) (g : GraphId)
    (f : List PortDefinition → List PortDefinition) :
    (d.editDefinitions g f).selection = d.selection ∧
      (d.editDefinitions g f).revision = d.revision + 1 := by
  rw [editDefinitions, definitionsChanged, derivePorts]
  split
  · exact ⟨rfl, rfl⟩
  · split <;> exact ⟨rfl, rfl⟩

/-- Taking out the definition that was added last leaves the document as it was, two revisions
later. -/
theorem Valid.removeDefinition_addDefinition (h : d.Valid) {p : PortPlan} {id : DefinitionId}
    (ha : d.addDefinition g p = some (id, e)) : e.removeDefinition g id =
      { d with nextDefinition := d.nextDefinition + 1, revision := d.revision + 2 } := by
  have hsame := (Same.removeDefinition_addDefinition h ha).trans
    (f := { d with nextDefinition := d.nextDefinition + 1, revision := d.revision + 2 })
    { Same.refl d with }
  have hnext := next_removeDefinition e g id
  have hback : e.removeDefinition g id = e.editDefinitions g (·.filter (·.id ≠ id)) := by
    rw [Document.removeDefinition, if_pos (hasDefinition_addDefinition ha)]
  rw [hback] at hsame hnext ⊢
  obtain ⟨hselection, hrevision⟩ := editDefinitions_frame e g (·.filter (·.id ≠ id))
  rw [Document.addDefinition] at ha
  split at ha
  · cases ha
    set d' : Document := { d with nextDefinition := d.nextDefinition + 1 }
    set q := p.define ⟨d.nextDefinition⟩
    obtain ⟨hselection', hrevision'⟩ := editDefinitions_frame d' g (· ++ [q])
    have hnext := hnext.trans (next_editDefinitions d' g (· ++ [q]))
    simp only [next, Prod.mk.injEq] at hnext
    exact hsame.eq (hselection.trans hselection') hnext.1 hnext.2.1 hnext.2.2
      (hrevision.trans (congrArg (· + 1) hrevision'))
  · cases ha

/-- In every document that can be reached, a node with a body has the ports that the body defines.
Adding a definition to a graph drops no edge, and taking it out again restores everything but the
counters. -/
theorem Reachable.interface (h : d.Reachable) :
    (∀ n x b, d.node? n = some x → x.body = some b →
      ∃ y, d.graph? b = some y ∧ x.ports.Shows y.definitions) ∧
    ∀ g p, d.graph? g = none ∧ d.addDefinition g p = none ∨
      ∃ id e, d.addDefinition g p = some (id, e) ∧ (∀ k, e.edges? k = d.edges? k) ∧
        e.hasDefinition g id = true ∧ e.removeDefinition g id =
          { d with nextDefinition := d.nextDefinition + 1, revision := d.revision + 2 } := by
  refine ⟨fun n x b hx hb => h.valid.shows hx hb, fun g p => ?_⟩
  cases hg : d.graph? g with
  | none =>
    refine .inl ⟨rfl, ?_⟩
    rw [Document.addDefinition, if_neg]
    simpa [Store.contains, graph?] using hg
  | some y =>
    have ha := addDefinition_of_contains (Store.contains_iff.2 ⟨y, hg⟩) p
    refine .inr ⟨_, _, ha, fun k => ?_, hasDefinition_addDefinition ha,
      h.valid.removeDefinition_addDefinition ha⟩
    rw [h.valid.skipDefinition.edges?_editDefinitions fun ds => List.subset_append_left ds _]
    rfl

/-- A composite with a control input and two value inputs of one key, and an edge to that key. -/
def threefoldKey : Document :=
  Operation.runAll
    [.addNode .root
      { kind := .subgraph none, title := "Sub"
        body := some ⟨"Sub", [⟨.controlInput, "x", "x", .object⟩, ⟨.valueInput, "x", "x", .float⟩,
          ⟨.valueInput, "x", "x", .int⟩]⟩ } .origin,
     .addNode .root
      { kind := .unit "Start", title := "Start", ports := { controlOutputs := ["exit"] } } .origin,
     .connect ⟨.control, ⟨1⟩, "exit", ⟨0⟩, "x"⟩]
    (.empty "Main")

/-- Another control input of the key changes nothing about the edge. -/
theorem interface_threefoldKey :
    threefoldKey.edges? .root = some [⟨.control, ⟨1⟩, "exit", ⟨0⟩, "x"⟩] ∧
    ∃ id e, threefoldKey.addDefinition ⟨1⟩ ⟨.controlInput, "x", "again", .object⟩ = some (id, e) ∧
      e.edges? .root = some [⟨.control, ⟨1⟩, "exit", ⟨0⟩, "x"⟩] ∧
      e.removeDefinition ⟨1⟩ id = { threefoldKey with
        nextDefinition := threefoldKey.nextDefinition + 1
        revision := threefoldKey.revision + 2 } := by
  have hreachable : threefoldKey.Reachable := ⟨"Main", _, rfl⟩
  have hedges : threefoldKey.edges? .root = some [⟨.control, ⟨1⟩, "exit", ⟨0⟩, "x"⟩] := rfl
  obtain ⟨-, hadd⟩ := Reachable.interface hreachable
  obtain ⟨hnone, -⟩ | ⟨id, e, ha, hkept, -, hback⟩ :=
    hadd ⟨1⟩ ⟨.controlInput, "x", "again", .object⟩
  · cases hnone
  · exact ⟨hedges, id, e, ha, (hkept _).trans hedges, hback⟩

end Document

end GraphDraft

import GraphDraft.Proofs.Document.Extension
import GraphDraft.Proofs.Session.Cancel

/-!
# What a preview adds

Whatever is typed into an open session, the document that is seen has all that it had when the
session was opened, unchanged and in the same order (`preview_adds`). Edges are added at new nodes
only; of the nodes that there were, inputs may hold other values, and composites whose bodies define
more ports have these behind those that they had. Confirming keeps what is seen.
-/

namespace GraphDraft

open Document Draft

/-- The ports with more ports of each kind behind them. -/
structure Ports.Extends (p q : Ports) : Prop where
  controlInputs : p.controlInputs <+: q.controlInputs
  controlOutputs : p.controlOutputs <+: q.controlOutputs
  valueInputs : p.valueInputs <+: q.valueInputs
  valueOutputs : p.valueOutputs <+: q.valueOutputs

theorem Ports.extends_ofDefinitions {ds es : List PortDefinition} (h : ds <+: es) :
    (Ports.ofDefinitions ds).Extends (.ofDefinitions es) where
  controlInputs := (h.filter _).map _
  controlOutputs := (h.filter _).map _
  valueInputs := (h.filter _).map _
  valueOutputs := (h.filter _).map _

/-- An edge touches a node that the document does not have. -/
def Document.Foreign (d : Document) (c : Edge) : Prop :=
  d.node? c.source = none ∨ d.node? c.target = none

/-- An edge touches a node that a journal notes as created, and that the document does not have. -/
def Document.Created (d : Document) (j : Journal) (c : Edge) : Prop :=
  ∃ n, d.node? n = none ∧ .nodeCreated n ∈ j ∧ (c.source = n ∨ c.target = n)

/-- The document `e` is `d` with what the changes of a journal add to it. -/
structure Document.Previews (d : Document) (j : Journal) (e : Document) : Prop where
  additions : d.Extends (d.Created j) e
  composites : ∀ ⦃n x y b⦄, d.node? n = some x → e.node? n = some y → x.body = some b →
    x.ports.Extends y.ports ∧ (e.definitions? b = d.definitions? b → y.ports = x.ports)

/-! ## Nodes of a draft -/

theorem Document.keys_nodes_derivePorts (d : Document) (g : GraphId) :
    (d.derivePorts g).nodes.keys = d.nodes.keys := by
  rw [derivePorts]
  split
  · rfl
  · split
    · rfl
    · exact Store.keys_modify ..

theorem Document.keys_nodes_addDefinition {d e : Document} {g : GraphId} {p : PortPlan}
    {id : DefinitionId} (h : d.addDefinition g p = some (id, e)) :
    e.nodes.keys = d.nodes.keys := by
  rw [addDefinition] at h
  split at h
  · cases h
    exact keys_nodes_derivePorts ..
  · cases h

theorem Document.Adds.mem_keys {d e : Document} {n m : NodeId} (h : Adds n d e)
    (hm : m ∈ e.nodes.keys) : m = n ∨ m ∈ d.nodes.keys := by
  by_cases hn : m = n
  · exact .inl hn
  · right
    rw [← h.dropping.nodes, nodes_dropping, Store.keys_erase]
    exact List.mem_filter.2 ⟨hm, by simpa using hn⟩

/-- Whatever has been done to `d` can be undone, all that `d` has is still there, and the journal
notes every node that `d` does not have. -/
structure Draft.Extending (d : Document) (x : Draft) : Prop extends Undoable d x where
  additions : d.Extends d.Foreign x.document
  created : ∀ n ∈ x.document.nodes.keys, n ∈ d.nodes.keys ∨ .nodeCreated n ∈ x.journal

namespace Draft

variable {d : Document} {x y : Draft}

/-- Nodes that are noted may come, and the journal may grow. -/
theorem Extending.of_keys (h : Extending d x) (hu : Undoable d y)
    (ha : d.Extends d.Foreign y.document) (hj : ∀ c ∈ x.journal, c ∈ y.journal)
    (hk : ∀ m ∈ y.document.nodes.keys, .nodeCreated m ∈ y.journal ∨ m ∈ x.document.nodes.keys) :
    Extending d y where
  toUndoable := hu
  additions := ha
  created m hm := by
    rcases hk m hm with hm | hm
    · exact .inr hm
    · exact (h.created m hm).imp_right (hj _)

theorem stable_extending (d : Document) : Stable (Extending d) where
  create {x y b left n} h hc := by
    have hadd := Adds.createNode h.valid hc
    have hu := (stable_undoable d).create h.toUndoable hc
    have hext := h.additions.createNode h.valid (fun _ => id) hc
    obtain ⟨⟨m, e⟩, ha, hy⟩ := Option.map_eq_some_iff.1 hc
    cases hy
    refine h.of_keys hu hext (fun _ => List.mem_append_left _) fun m hm => ?_
    refine (hadd.mem_keys hm).imp_left ?_
    rintro rfl
    exact List.mem_append_right _ (List.mem_singleton_self _)
  access {x y g b p n c} h hp hc := by
    have hu := (stable_undoable d).access h.toUndoable hp hc
    obtain ⟨hn, hext⟩ := h.additions.placeNode h.valid hp
    have hforeign : d.Foreign c := by
      rcases hc with rfl | rfl
      · exact .inl hn
      · exact .inr hn
    obtain ⟨⟨m, e⟩, ha, hy⟩ := Option.map_eq_some_iff.1 hp
    cases hy
    have hadd := (Adds.of_addNode h.valid ha).connect hc
    refine h.of_keys hu (hext.connect hforeign) (fun _ => List.mem_append_left _) fun m hm => ?_
    refine (hadd.mem_keys hm).imp_left ?_
    rintro rfl
    exact List.mem_append_right _ (List.mem_singleton_self _)
  define {x y g kind name id} h hp := by
    have hu := (stable_undoable d).define h.toUndoable hp
    have hext := h.additions.definePort h.valid hp
    obtain ⟨⟨i, e⟩, ha, hy⟩ := Option.map_eq_some_iff.1 hp
    cases hy
    refine h.of_keys hu hext (fun _ => List.mem_append_left _) fun m hm => .inr ?_
    exact keys_nodes_addDefinition ha ▸ hm
  declare {x} scope g name type h := by
    have hu := (stable_undoable d).declare scope g name type h.toUndoable
    have hext := h.additions.declareVariable scope g name type
    have hkeys : (x.declareVariable scope g name type).2.document.nodes = x.document.nodes := by
      rw [declareVariable]
      split
      · cases scope <;> rfl
      · rfl
    refine h.of_keys hu hext (fun c hc => ?_) fun m hm => .inr (hkeys ▸ hm)
    rw [declareVariable]
    split
    · exact List.mem_append_left _ hc
    · exact hc
  fill {x} n key v h := by
    have hu := (stable_undoable d).fill n key v h.toUndoable
    have hext := h.additions.fill n key v
    have hkeys : (x.setDefault n key v).document.nodes.keys = x.document.nodes.keys := by
      rw [setDefault]
      split
      · exact keys_nodes_setDefault ..
      · rfl
    refine h.of_keys hu hext (fun c hc => ?_) fun m hm => .inr (hkeys ▸ hm)
    rw [setDefault]
    split
    · exact List.mem_append_left _ hc
    · exact hc
  select _ h :=
    ⟨(stable_undoable d).select _ h.toUndoable, h.additions.setSelection _, h.created⟩
  aside _ _ h := ⟨(stable_undoable d).aside _ _ h.toUndoable, h.additions, h.created⟩

end Draft

/-- Edges join live nodes, so one at a node that `d` does not have is at a node that is noted. -/
theorem Draft.Extending.created_of_foreign {d : Document} {x : Draft} (h : Extending d x)
    {g : GraphId} {es : List Edge} (hes : x.document.edges? g = some es) {c : Edge} (hc : c ∈ es)
    (hf : d.Foreign c) : d.Created x.journal c := by
  have hjoins := h.valid.wired hes c hc
  have hnoted : ∀ n, d.node? n = none → (∃ b, x.document.place? n = some (g, b)) →
      .nodeCreated n ∈ x.journal := by
    rintro n hn ⟨b, hb⟩
    obtain ⟨y, hy, -⟩ := node?_of_place? hb
    exact (h.created n (Store.mem_keys_of_get? hy)).resolve_left (Store.get?_eq_none_iff_keys.1 hn)
  rcases hf with hn | hn
  · exact ⟨c.source, hn, hnoted _ hn hjoins.source, .inl rfl⟩
  · exact ⟨c.target, hn, hnoted _ hn hjoins.target, .inr rfl⟩

/-- The ports of a composite follow the definitions of its body, which are extended. -/
theorem Draft.Extending.previews {d : Document} {x : Draft} (h : Extending d x) (hd : d.Valid) :
    d.Previews x.journal x.document where
  additions := h.additions.imp fun _ _ hes _ hc hf => h.created_of_foreign hes hc hf
  composites n z y b hz hy hb := by
    obtain ⟨y', hy', hzy⟩ := h.additions.node hz
    cases hy.symm.trans hy'
    have hplace : d.place? n = some (z.graph, some b) := hb ▸ place?_of_node? hz
    have hplace' : x.document.place? n = some (y.graph, some b) :=
      hb ▸ hzy.body ▸ place?_of_node? hy
    obtain ⟨-, ns, hl⟩ := hd.tree.body hplace
    obtain ⟨k, hk, -⟩ := graph?_of_listing? hl
    obtain ⟨k', hk', hkk⟩ := h.additions.graph hk
    rw [hd.composed hplace (ports?_of_node? hz) (definitions?_of_graph? hk),
      h.valid.composed hplace' (ports?_of_node? hy) (definitions?_of_graph? hk')]
    refine ⟨Ports.extends_ofDefinitions hkk.definitions, fun heq => ?_⟩
    rw [definitions?_of_graph? hk, definitions?_of_graph? hk'] at heq
    rw [Option.some.inj heq]

namespace Session

variable {d e : Document} {s : Session}

/-! ## Sessions -/

theorem Opened.entered_extending (h : s.Opened d e) (text : String) :
    Draft.Extending d
      ((s.entered text (s.restart e)).1.draft (s.entered text (s.restart e)).2) := by
  have hr := h.restarted text
  have hstart : ∀ feedback, Draft.Extending d ⟨s.restart e, [], [], feedback⟩ := fun _ =>
    ⟨⟨h.restart_valid, h.restart_same⟩, .of_same h.restart_same,
      fun n hn => .inl (h.restart_same.nodes ▸ hn)⟩
  rw [Session.entered]
  split
  · exact hstart _
  · exact (stable_extending d).runAll (hstart {}) s.catalog (s.registry.intents text)

theorem steps_extending (h : s.Opened d e) (hx : Draft.Extending d (s.draft e)) (ts : List Step) :
    ∃ s' e', Session.steps ts s e = .ok (s', e') ∧ s'.isOpen = true ∧
      Draft.Extending d (s'.draft e') := by
  induction ts generalizing s e with
  | nil => exact ⟨s, e, rfl, h.isOpen, hx⟩
  | cons t ts ih =>
    cases t with
    | keystroke text =>
      rw [Session.steps, step, keystroke_eq h.isOpen]
      exact ih (h.entered text) (h.entered_extending text)
    | rebuild =>
      exact ih ⟨h.isOpen, h.openedWith, h.undoable⟩ hx

/-- What is seen in an open session, and hence what confirming keeps, only adds to the document on
which the session was opened. -/
theorem preview_adds (hd : d.Reachable) (hs : s.isOpen = false) (ts : List Step) :
    ∃ s₁ s₂ e, s.activate d = .ok s₁ ∧ Session.steps ts s₁ d = .ok (s₂, e) ∧
      d.Previews s₂.journal e ∧ ∃ s₃, s₂.confirm = .ok (s₂.journal.length, s₃) := by
  obtain ⟨s₁, hact, ho⟩ := activate_opened hd.valid hs
  have hstart : Draft.Extending d (s₁.draft d) :=
    ⟨ho.undoable, .refl d.Foreign d, fun _ => .inl⟩
  obtain ⟨s₂, e, hsteps, hopen, hx⟩ := steps_extending ho hstart ts
  exact ⟨s₁, s₂, e, hact, hsteps, hx.previews hd.valid, _, by rw [confirm, if_pos hopen]⟩

/-- A document whose only node is a composite, which is selected. -/
def onComposite : Document :=
  Operation.runAll [.addNode .root (.composite none { title := "Sub" }) ⟨0, 0⟩, .select (some ⟨0⟩)]
    (.empty "Main")

/-- A session that defines a port of a composite that there was and a node beside it. -/
theorem preview_adds_onComposite :
    ∃ s₁ s₂ e, (Session.new .standard []).activate onComposite = .ok s₁ ∧
      Session.steps [.keystroke "valueinput:x", .keystroke "valueinput:x subgraph:b"] s₁
        onComposite = .ok (s₂, e) ∧
      onComposite.Previews s₂.journal e ∧ ∃ s₃, s₂.confirm = .ok (s₂.journal.length, s₃) :=
  preview_adds ⟨"Main", _, rfl⟩ rfl
    [.keystroke "valueinput:x", .keystroke "valueinput:x subgraph:b"]

end Session

end GraphDraft

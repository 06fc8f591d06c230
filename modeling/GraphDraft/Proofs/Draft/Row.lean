import GraphDraft.Proofs.Catalog.Order
import GraphDraft.Proofs.Draft.Joining

/-!
# Joining the selection

The selected nodes are taken from left to right (`Row`), and each is joined to the next. Nothing but
the row and the content of the document matters (`Same.wireChain`), and where no two nodes are above
each other there is one row only (`Row.eq`). So the edges do not depend on the order in which the
nodes were selected.
-/

namespace GraphDraft

namespace Document

variable {d e : Document} {n m : NodeId} {ns ms : List NodeId}

/-- Where a node stands from left to right. -/
def across? (d : Document) (n : NodeId) : Option Int :=
  (d.node? n).map fun x => Point.orderKey x.position.x

/-- One node is to the left of another, or above or below it and was selected earlier. -/
def Leads (d : Document) (n m : NodeId) : Prop :=
  ∃ a b, d.across? n = some a ∧ d.across? m = some b ∧
    (a < b ∨ a = b ∧ [n, m].Sublist d.selection)

/-- The selected nodes from left to right. -/
structure Row (d : Document) (row : List NodeId) : Prop where
  perm : row.Perm d.selection
  ordered : row.Pairwise d.Leads

/-! ## The row -/

theorem Valid.across?_of_mem_selection (h : d.Valid) (hn : n ∈ d.selection) :
    ∃ a, d.across? n = some a := by
  obtain ⟨g, b, hplace⟩ := h.selected n hn
  obtain ⟨x, hx, -⟩ := node?_of_place? hplace
  exact ⟨_, by rw [across?, hx]; rfl⟩

/-- The selected nodes, each with where it stands. -/
def placed (d : Document) : List (NodeId × Int) :=
  d.selection.filterMap fun n => (d.across? n).map (n, ·)

theorem selectedAcross_eq (d : Document) :
    d.selectedAcross = (d.placed.mergeSort fun a b => a.2 ≤ b.2).map (·.1) := by
  have hplaced : d.placed = d.selection.filterMap fun n =>
      (d.node? n).map fun x => (n, Point.orderKey x.position.x) := by
    rw [placed]
    congr 1
    funext n
    rw [across?, Option.map_map]
    rfl
  rw [hplaced, selectedAcross]

theorem across?_of_mem_placed {p : NodeId × Int} (hp : p ∈ d.placed) :
    d.across? p.1 = some p.2 := by
  obtain ⟨n, -, hn⟩ := List.mem_filterMap.1 hp
  obtain ⟨a, ha, rfl⟩ := Option.map_eq_some_iff.1 hn
  exact ha

theorem Valid.map_fst_placed (h : d.Valid) : d.placed.map (·.1) = d.selection := by
  rw [placed, List.map_filterMap]
  have hsome : ∀ n ∈ d.selection,
      ((d.across? n).map (n, ·)).map (fun p : NodeId × Int => p.1) = some n := by
    intro n hn
    obtain ⟨a, ha⟩ := h.across?_of_mem_selection hn
    rw [ha]
    rfl
  rw [List.filterMap_congr hsome, List.filterMap_some]

theorem Valid.row (h : d.Valid) : d.Row d.selectedAcross := by
  have htrans : ∀ a b c : NodeId × Int, decide (a.2 ≤ b.2) → decide (b.2 ≤ c.2) →
      decide (a.2 ≤ c.2) := by
    simp only [decide_eq_true_eq]
    omega
  have htotal : ∀ a b : NodeId × Int, decide (a.2 ≤ b.2) || decide (b.2 ≤ a.2) := by
    simp only [Bool.or_eq_true, decide_eq_true_eq]
    omega
  rw [selectedAcross_eq]
  refine ⟨?_, List.pairwise_map.2 ?_⟩
  · exact ((List.mergeSort_perm _ _).map _).trans (.of_eq h.map_fst_placed)
  · have hgiven : d.placed.Pairwise fun p q => [p.1, q.1].Sublist d.selection := by
      refine List.pairwise_iff_forall_sublist.2 fun {p q} hpq => ?_
      rw [← h.map_fst_placed]
      exact hpq.map (·.1)
    refine (pairwise_mergeSort_of_ties htrans htotal hgiven).imp_of_mem ?_
    intro p q hp hq hpq
    simp only [decide_eq_true_eq] at hpq
    refine ⟨p.2, q.2, across?_of_mem_placed (List.mem_mergeSort.1 hp),
      across?_of_mem_placed (List.mem_mergeSort.1 hq), ?_⟩
    rcases Int.lt_or_eq_of_le hpq.1 with hlt | heq
    · exact .inl hlt
    · exact .inr ⟨heq, hpq.2 (Int.le_of_eq heq.symm)⟩

/-- Where no two of the selected nodes stand above each other, a row goes strictly to the right. -/
theorem Row.strict (h : d.Row ns) (hapart : (d.selection.map d.across?).Nodup) :
    ns.Pairwise fun n m => ∃ a b, d.across? n = some a ∧ d.across? m = some b ∧ a < b := by
  refine h.ordered.imp fun {n m} hlead => ?_
  obtain ⟨a, b, ha, hb, hlt | ⟨rfl, hsub⟩⟩ := hlead
  · exact ⟨a, b, ha, hb, hlt⟩
  · have hpair := hapart.sublist (hsub.map d.across?)
    simp [ha, hb] at hpair

/-- The order in which nodes were selected does not matter where none stand above each other. -/
theorem Row.eq (h : d.Row ns) (h' : e.Row ms) (hsame : d.Same e)
    (hperm : e.selection.Perm d.selection) (hapart : (d.selection.map d.across?).Nodup) :
    ns = ms := by
  have hacross : e.across? = d.across? := by
    funext n
    rw [across?, ← hsame.node?, across?]
  have hstrict := h'.strict ((hperm.map e.across?).nodup_iff.2 (hacross ▸ hapart))
  rw [hacross] at hstrict
  -- the same nodes strictly from left to right, twice
  have hrows : ns.Perm ms := h.perm.trans (hperm.symm.trans h'.perm.symm)
  refine hrows.eq_of_pairwise ?_ (h.strict hapart) hstrict
  rintro n m - - ⟨a, b, ha, hb, hlt⟩ ⟨b', a', hb', ha', hlt'⟩
  rw [ha] at ha'
  rw [hb] at hb'
  cases ha'
  cases hb'
  omega

/-! ## Documents with the same content -/

namespace Same

section
variable (h : d.Same e)
include h

theorem edgesAround : d.edgesAround = e.edgesAround := by
  funext n
  rw [Document.edgesAround, h.node?, h.graph?, Document.edgesAround]

theorem canConnect : d.canConnect = e.canConnect := by
  funext c
  simp only [Document.canConnect, h.node?, outputConnected, inputConnected, h.edgesAround]

theorem firstEdge? : d.firstEdge? = e.firstEdge? := by
  funext kind s o t is
  rw [Document.firstEdge?, h.canConnect, Document.firstEdge?]

theorem controlEdge? : d.controlEdge? = e.controlEdge? := by
  funext s t p q
  simp only [Document.controlEdge?, outputConnected, h.edgesAround, h.firstEdge?]

theorem addEdge (c : Edge) : (d.addEdge c).Same (e.addEdge c) := by
  rw [Document.addEdge, Document.addEdge, h.node?]
  split
  · exact (h.mapEdges _ _).touch
  · exact h

theorem addEdge? (c : Option Edge) : (c.elim d d.addEdge).Same (c.elim e e.addEdge) := by
  cases c with
  | none => exact h
  | some c => exact h.addEdge c

end

theorem wireValues (s t : NodeId) (is os : List String) (h : d.Same e) :
    (wireValues s t is os d).1 = (Document.wireValues s t is os e).1 ∧
      (Document.wireValues s t is os d).2.Same (Document.wireValues s t is os e).2 := by
  induction os generalizing d e with
  | nil => exact ⟨rfl, h⟩
  | cons o os ih =>
    obtain ⟨hmade, hsame⟩ := ih (h.addEdge? (e.firstEdge? .value s o t is))
    rw [wireValues_cons, wireValues_cons, h.firstEdge?]
    exact ⟨congrArg (_ ++ ·) hmade, hsame⟩

theorem wire (s t : NodeId) (h : d.Same e) :
    (d.wire s t).1 = (e.wire s t).1 ∧ (d.wire s t).2.Same (e.wire s t).2 := by
  cases hs : e.node? s with
  | none => rw [wire_of_none (.inl (h.node? ▸ hs)), wire_of_none (.inl hs)]; exact ⟨rfl, h⟩
  | some x =>
    cases ht : e.node? t with
    | none => rw [wire_of_none (.inr (h.node? ▸ ht)), wire_of_none (.inr ht)]; exact ⟨rfl, h⟩
    | some y =>
      obtain ⟨hmade, hsame⟩ := wireValues s t (y.ports.valueInputs.map (·.key))
        (x.ports.valueOutputs.map (·.key)) (h.addEdge? (e.controlEdge? s t x.ports y.ports))
      rw [wire_eq (h.node? ▸ hs) (h.node? ▸ ht), wire_eq hs ht, h.controlEdge?]
      exact ⟨congrArg (_ ++ ·) hmade, hsame⟩

theorem wireChain (ns : List NodeId) (h : d.Same e) :
    (wireChain ns d).1 = (Document.wireChain ns e).1 ∧
      (Document.wireChain ns d).2.Same (Document.wireChain ns e).2 := by
  induction ns generalizing d e with
  | nil => exact ⟨rfl, h⟩
  | cons n ns ih =>
    cases ns with
    | nil => exact ⟨rfl, h⟩
    | cons m ns =>
      obtain ⟨hmade, hsame⟩ := wire n m h
      obtain ⟨hrest, hend⟩ := ih hsame
      rw [Document.wireChain, Document.wireChain]
      exact ⟨congrArg₂ (· ++ ·) hmade hrest, hend⟩

end Same

/-! ## Neighbours -/

/-- Edges go from one node to the next. -/
theorem mem_wireChain {c : Edge} (ns : List NodeId) (d : Document)
    (hc : c ∈ (wireChain ns d).1) : [c.source, c.target] <:+: ns := by
  induction ns generalizing d with
  | nil => cases hc
  | cons n ns ih =>
    cases ns with
    | nil => cases hc
    | cons m ns =>
      rw [wireChain] at hc
      rcases List.mem_append.1 hc with hc | hc
      · obtain ⟨rfl, rfl⟩ := mem_wire hc
        exact List.IsPrefix.isInfix (List.prefix_append [c.source, c.target] ns)
      · exact List.infix_cons (ih _ hc)

/-- Selecting the same nodes in another order changes nothing else. -/
theorem Valid.setSelection_of_perm (h : d.Valid) {ns : List NodeId} (hns : ns.Perm d.selection) :
    (d.setSelection ns).selection = ns := by
  refine liveOnce_eq_self (hns.nodup_iff.2 h.selection_nodup) fun n hn => ?_
  exact contains_node_iff.2 (h.selected n (hns.mem_iff.1 hn))

end Document

/-! ## Joining in a draft -/

namespace Draft

open Document

/-- Joining the selection makes edges, each from a selected node to the next one from left to right.
They are appended to the graphs of the nodes, counted, and noted in order, so rolling back takes them
away again. If no two of the selected nodes stand above each other, the edges and the notes are the
same in whatever order the nodes were selected. -/
theorem connectSelection_row {x : Draft} (h : x.document.Reachable) :
    let d := x.document
    let y := x.connectSelection.2
    ∃ row cs, d.Row row ∧ (∀ c ∈ cs, [c.source, c.target] <:+: row) ∧
      x.connectSelection.1 = cs.length ∧
      y = { x with document := y.document, journal := x.journal ++ cs.map .edgeConnected } ∧
      d.Appends cs y.document ∧
      (Journal.rollback (cs.map .edgeConnected) y.document).Same d ∧
      y.rollback.document.Same x.rollback.document ∧
      ((d.selection.map d.across?).Nodup → ∀ ns, ns.Perm d.selection →
        let z := ({ x with document := d.setSelection ns } : Draft).connectSelection.2
        z.document.edges? = y.document.edges? ∧ z.journal = y.journal) := by
  intro d y
  have hv : d.Valid := h.valid
  have hmakes := wireChain_makes d.selectedAcross d
  refine ⟨d.selectedAcross, (wireChain d.selectedAcross d).1, hv.row, fun c => mem_wireChain _ d,
    rfl, rfl, hmakes.appends, hmakes.rollback hv, ?_, fun hapart ns hns => ?_⟩
  · have hundoable : Undoable x.rollback.document x := ⟨hv, .refl _⟩
    exact hundoable.connectSelection.rollback
  · have hsame : d.Same (d.setSelection ns) := { Same.refl d with }
    have hrow : d.selectedAcross = (d.setSelection ns).selectedAcross := by
      refine hv.row.eq (hv.setSelection ns).row hsame ?_ hapart
      rw [hv.setSelection_of_perm hns]
      exact hns
    obtain ⟨hmade, hend⟩ := hsame.wireChain d.selectedAcross
    constructor
    · show (wireChain (d.setSelection ns).selectedAcross (d.setSelection ns)).2.edges? =
        (wireChain d.selectedAcross d).2.edges?
      rw [← hrow]
      funext g
      rw [edges?, ← hend.graph?, edges?]
    · show x.journal ++ (wireChain (d.setSelection ns).selectedAcross (d.setSelection ns)).1.map _ =
        x.journal ++ (wireChain d.selectedAcross d).1.map .edgeConnected
      rw [← hrow, hmade]

/-- Three nodes, selected from right to left, left, and in between. -/
def scattered : Document :=
  let step : Blueprint :=
    { kind := .unit "Step", title := "Step"
      ports := { controlInputs := ["enter"], controlOutputs := ["exit"] } }
  Operation.runAll
    [.addNode .root step ⟨300, 0⟩, .addNode .root step ⟨-50, 80⟩, .addNode .root step ⟨600, -20⟩,
      .setSelection [⟨2⟩, ⟨1⟩, ⟨0⟩]]
    (.empty "Main")

theorem row_scattered : scattered.Row [⟨1⟩, ⟨0⟩, ⟨2⟩] where
  perm := by decide
  ordered := by
    have hleft : scattered.Leads ⟨1⟩ ⟨0⟩ := ⟨_, _, rfl, rfl, .inl (by decide +kernel)⟩
    have hright : scattered.Leads ⟨0⟩ ⟨2⟩ := ⟨_, _, rfl, rfl, .inl (by decide +kernel)⟩
    have hacross : scattered.Leads ⟨1⟩ ⟨2⟩ := ⟨_, _, rfl, rfl, .inl (by decide +kernel)⟩
    simp [hleft, hright, hacross]

/-- The three are chained from left to right, in whatever order they were selected. -/
theorem connectSelection_row_scattered :
    let x : Draft := ⟨scattered, [], [], {}⟩
    let y := x.connectSelection.2
    y.document.edges? .root = some
        [⟨.control, ⟨1⟩, "exit", ⟨0⟩, "enter"⟩, ⟨.control, ⟨0⟩, "exit", ⟨2⟩, "enter"⟩] ∧
      ∀ ns, ns.Perm scattered.selection →
        let z := ({ x with document := scattered.setSelection ns } : Draft).connectSelection.2
        z.document.edges? = y.document.edges? ∧ z.journal = y.journal := by
  have hreachable : scattered.Reachable := ⟨"Main", _, rfl⟩
  have hapart : (scattered.selection.map scattered.across?).Nodup := by decide +kernel
  have hacross : scattered.selectedAcross = [⟨1⟩, ⟨0⟩, ⟨2⟩] :=
    hreachable.valid.row.eq row_scattered (.refl _) (.refl _) hapart
  have hall := connectSelection_row (x := ⟨scattered, [], [], {}⟩) hreachable
  obtain ⟨row, cs, -, -, -, -, -, -, -, hindependent⟩ := hall
  refine ⟨?_, hindependent hapart⟩
  show (wireChain scattered.selectedAcross scattered).2.edges? .root = _
  rw [hacross]
  rfl

end Draft

end GraphDraft

import GraphDraft.Proofs.Document.Gain
import GraphDraft.Proofs.Draft.Joining
import Mathlib.Logic.Function.Iterate

/-!
# Creating a node

A new node goes beside the anchor, on the side asked for unless only the other one can be wired
(`side_iff`). Moving it there does not change which edges can be made (`canConnect_setPosition`), so
joining it on that side makes an edge whenever there is one to be made on either side
(`createNode_beside`).
-/

namespace GraphDraft

namespace Document

variable {d e : Document} {id n m : NodeId} {x : Node} {c : Edge} {cs : List Edge}

/-! ## Which edges can be made -/

/-- Where nodes are does not matter to edges. -/
theorem canConnect_setPosition (d : Document) (n : NodeId) (p : Point) :
    (d.setPosition n p).canConnect = d.canConnect := by
  have hplace : (d.setPosition n p).place? = d.place? := by
    rw [setPosition]
    split
    · rw [place?_touch, place?_mapPosition]
    · rfl
  have hports : (d.setPosition n p).ports? = d.ports? := by
    rw [setPosition]
    split
    · rw [ports?_touch, ports?_mapPosition]
    · rfl
  have hedges : (d.setPosition n p).edges? = d.edges? := by
    rw [setPosition]
    split <;> rfl
  funext c
  rw [Bool.eq_iff_iff]
  exact ⟨canConnect_of_views hplace hports hedges,
    canConnect_of_views hplace.symm hports.symm hedges.symm⟩

theorem feeds_setPosition (p : Point) : (d.setPosition id p).Feeds n m ↔ d.Feeds n m := by
  rw [Feeds, canConnect_setPosition, Feeds]

/-! ## Nudging -/

theorem Gains.nudgeClear (h : d.Gains id x cs e) (limit : Nat) :
    (Layout.nudgeClear limit id e).1 ≤ limit ∧
      d.Gains id
        { x with position := (· + Layout.nudge)^[(Layout.nudgeClear limit id e).1] x.position } cs
        (Layout.nudgeClear limit id e).2 := by
  induction limit generalizing e x with
  | zero => exact ⟨Nat.le_refl 0, h⟩
  | succ limit ih =>
    rw [Layout.nudgeClear, h.node?_self]
    cases Layout.overlaps e id with
    | false => exact ⟨Nat.zero_le _, h⟩
    | true =>
      obtain ⟨hle, hgains⟩ := ih (h.setPosition (x.position + Layout.nudge))
      exact ⟨Nat.succ_le_succ hle, hgains⟩

theorem Gains.selection_select (h : d.Gains id x cs e) : (e.select id).selection = [id] := by
  refine liveOnce_eq_self (List.nodup_singleton id) fun n hn => ?_
  obtain rfl := List.mem_singleton.1 hn
  exact Store.contains_iff.2 ⟨x, h.node?_self⟩

end Document

namespace Draft

open Document

variable {x : Draft} {d : Document} {id n : NodeId} {a : Node} {cs : List Edge}

/-- Creating node `id` in graph `g` has made `y` of `x`: the node, with edges `cs`, stood at `start`
until it was nudged clear. It is the selection and the top of the stack, and it is noted. -/
structure Creates (x : Draft) (b : Blueprint) (g : GraphId) (start : Point) (cs : List Edge)
    (id : NodeId) (y : Draft) : Prop where
  placed : ∃ placed, x.document.Gains id (x.document.newNode g b start) cs placed ∧
    y.document = (Layout.spaceOut placed id).2.select id
  nudged : ∃ count ≤ Layout.nudgeLimit, x.document.Gains id
    (x.document.newNode g b ((· + Layout.nudge)^[count] start)) cs y.document
  selection : y.document.selection = [id]
  rest : y = { x with
    document := y.document
    stack := x.stack ++ [id]
    journal := x.journal ++ [.nodeCreated id] }

theorem Creates.of_gains {b : Blueprint} {g : GraphId} {start : Point}
    (h : x.document.Gains id (x.document.newNode g b start) cs d) :
    x.Creates b g start cs id { x with
      document := (Layout.spaceOut d id).2.select id
      stack := x.stack ++ [id]
      journal := x.journal ++ [.nodeCreated id] } := by
  obtain ⟨hle, hgains⟩ := h.nudgeClear Layout.nudgeLimit
  exact ⟨⟨d, h, rfl⟩, ⟨_, hle, hgains.setSelection _⟩, hgains.selection_select, rfl⟩

/-! ## The new node -/

/-- A node can always be created. -/
theorem exists_createNode (h : x.document.Valid) (b : Blueprint) (left : Bool) :
    ∃ id y, x.createNode b left = some (id, y) := by
  have hcontains : x.document.graphs.contains
      (x.document.anchor?.elim .root (·.2.graph)) = true := by
    cases hanchor : x.document.anchor? with
    | none =>
      obtain ⟨ns, hroot⟩ := h.tree.root
      exact contains_graph_iff.2 ⟨_, _, hroot⟩
    | some anchor =>
      obtain ⟨-, ha⟩ := anchor?_eq_some_iff.1 hanchor
      obtain ⟨o, ns, hl, -⟩ := h.tree.home (place?_of_node? ha)
      exact contains_graph_iff.2 ⟨_, _, hl⟩
  unfold createNode
  simp only [addNode_eq h hcontains]
  exact ⟨_, _, rfl⟩

/-- Wherever the new node goes, it is built as the blueprint says. -/
theorem createNode_gains {y : Draft} {b : Blueprint} {left : Bool} (h : x.document.Valid)
    (hc : x.createNode b left = some (id, y)) :
    ∃ g p cs, x.document.Gains id (x.document.newNode g b p) cs y.document := by
  refine createNode_induction
    (P := fun e => ∃ g p cs, x.document.Gains id (x.document.newNode g b p) cs e) hc ?_ ?_ ?_ ?_
  · intro g p e ha
    obtain ⟨hg, rfl, rfl, -⟩ := h.addNode ha
    exact ⟨g, p, [], .grown h hg b p⟩
  · rintro e p ⟨g, _, cs, hgains⟩
    exact ⟨g, p, cs, hgains.setPosition p⟩
  · rintro e c ⟨g, p, cs, hgains⟩ hend hcan
    exact ⟨g, p, cs ++ [c], hgains.addEdge hend hcan⟩
  · rintro e ⟨g, p, cs, hgains⟩
    exact ⟨g, p, cs, hgains.setSelection _⟩

/-! ## The side -/

theorem side_iff {left : Bool} : side d n id left = true ↔
    left = true ∧ (d.Feeds id n ∨ ¬d.Feeds n id) ∨
      left = false ∧ d.Feeds id n ∧ ¬d.Feeds n id := by
  rw [← canFeed_iff_feeds, ← canFeed_iff_feeds, side]
  cases left <;> cases d.canFeed id n <;> cases d.canFeed n id <;> decide

/-- The side is chosen so that there is an edge to be made on it if there is one on either. -/
theorem feeds_side_iff (d : Document) (id n : NodeId) (left : Bool) :
    (if side d n id left then d.Feeds id n else d.Feeds n id) ↔ d.Feeds id n ∨ d.Feeds n id := by
  cases hside : side d n id left with
  | true =>
    have hleft := side_iff.1 hside
    simp only [if_true]
    tauto
  | false =>
    have hright := mt side_iff.2 (Bool.eq_false_iff.1 hside)
    simp only [Bool.false_eq_true, if_false]
    cases left <;> simp at hright <;> tauto

/-- A node that is attached has edges to the anchor, or from it, on the side on which it goes. -/
theorem exists_attach {e : Document} {b : Blueprint} {g : GraphId} {p : Point}
    (h : d.Gains id (d.newNode g b p) [] e) (left : Bool) :
    ∃ cs, d.Gains id (d.newNode g b (Layout.beside a (side e n id left))) cs
        (attach e id n a left) ∧
      (∀ c ∈ cs, if side e n id left then c.source = id ∧ c.target = n
        else c.source = n ∧ c.target = id) ∧
      (cs ≠ [] ↔ e.Feeds id n ∨ e.Feeds n id) := by
  -- the edges are looked for before the move and made after it
  have hmoved := fun onLeft => h.setPosition (Layout.beside a onLeft)
  rw [attach, ← feeds_side_iff e id n left]
  cases side e n id left with
  | true =>
    refine ⟨_, (hmoved true).makes (wire_makes _ id n) fun c hc => .inl (mem_wire hc).1,
      fun c hc => mem_wire hc, ?_⟩
    exact wire_ne_nil_iff.trans (feeds_setPosition _)
  | false =>
    refine ⟨_, (hmoved false).makes (wire_makes _ n id) fun c hc => .inr (mem_wire hc).2,
      fun c hc => mem_wire hc, ?_⟩
    exact wire_ne_nil_iff.trans (feeds_setPosition _)

/-- A new node goes beside the anchor, on the side asked for unless only the other one can be wired,
and is joined to it on that side, by an edge at least if one can be made on either side. If nothing
is selected, it goes to the pointer of the root graph. It becomes the selection and the top of the
stack, is noted once, and no other node changes. -/
theorem createNode_beside (h : x.document.Reachable) (b : Blueprint) (left : Bool) :
    (x.document.selection = [] → ∃ id y, x.createNode b left = some (id, y) ∧
      x.Creates b .root x.document.pointer [] id y) ∧
    ∀ n, x.document.selection.head? = some n → ∃ a added id y onLeft cs,
      x.document.node? n = some a ∧ x.document.addNode a.graph b a.position = some (id, added) ∧
      (onLeft = true ↔ left = true ∧ (added.Feeds id n ∨ ¬added.Feeds n id) ∨
        left = false ∧ added.Feeds id n ∧ ¬added.Feeds n id) ∧
      x.createNode b left = some (id, y) ∧
      x.Creates b a.graph (Layout.beside a onLeft) cs id y ∧
      (∀ c ∈ cs, if onLeft then c.source = id ∧ c.target = n else c.source = n ∧ c.target = id) ∧
      (cs ≠ [] ↔ added.Feeds id n ∨ added.Feeds n id) := by
  have hv := h.valid
  constructor
  · intro hnone
    obtain ⟨ns, hroot⟩ := hv.tree.root
    have hcontains := contains_graph_iff.2 ⟨_, _, hroot⟩
    have hanchor : x.document.anchor? = none := by rw [anchor?, hnone]; rfl
    refine ⟨_, _, ?_, .of_gains (.grown hv hcontains b _)⟩
    rw [createNode, hanchor]
    simp only [Option.elim_none]
    rw [addNode_eq hv hcontains]
    rfl
  · intro n hn
    obtain ⟨g, body, hplace⟩ := hv.selected n (List.mem_of_mem_head? hn)
    obtain ⟨a, ha, rfl, -⟩ := node?_of_place? hplace
    obtain ⟨o, ns, hl, -⟩ := hv.tree.home hplace
    have hcontains := contains_graph_iff.2 ⟨_, _, hl⟩
    have hanchor := anchor?_eq_some_iff.2 ⟨hn, ha⟩
    have hadd := addNode_eq hv hcontains b a.position
    obtain ⟨cs, hgains, hends, hmade⟩ :=
      exists_attach (n := n) (a := a) (.grown hv hcontains b a.position) left
    refine ⟨a, _, _, _, _, cs, ha, hadd, side_iff, ?_, .of_gains hgains, hends, hmade⟩
    rw [createNode, hanchor]
    simp only [Option.elim_some]
    rw [hadd]
    rfl

/-- What takes a message when it is entered. -/
def logging : Blueprint where
  kind := .unit "Log"
  title := "Log"
  ports :=
    { controlInputs := ["enter"], controlOutputs := ["exit"]
      valueInputs := [⟨"message", .object, none⟩] }

/-- What gives a number. -/
def number : Blueprint where
  kind := .literal .float
  title := "Number"
  ports := { valueOutputs := [⟨"output", .float⟩] }

/-- One node that takes messages, selected. -/
def listening : Document :=
  Operation.runAll [.addNode .root logging .origin, .select (some ⟨0⟩)] (.empty "Main")

/-- A number can only be given to the selected node, so it goes to the left of it even if the right
is asked for. -/
theorem createNode_beside_listening :
    let x : Draft := ⟨listening, [], [], {}⟩
    ∃ y cs, x.createNode number false = some (⟨1⟩, y) ∧
      x.Creates number .root (.origin + Layout.leftOffset) cs ⟨1⟩ y ∧ cs ≠ [] ∧
      ∀ c ∈ cs, c.source = ⟨1⟩ ∧ c.target = ⟨0⟩ := by
  have hreachable : listening.Reachable := ⟨"Main", _, rfl⟩
  have hlog : listening.node? ⟨0⟩ = some ((empty "Main").newNode .root logging .origin) := rfl
  have hadded : listening.addNode .root number .origin =
      some (⟨1⟩, listening.grown .root number .origin) := rfl
  have hinto : (listening.grown .root number .origin).Feeds ⟨1⟩ ⟨0⟩ :=
    canFeed_iff_feeds.1 (by decide +kernel)
  have hfrom : ¬(listening.grown .root number .origin).Feeds ⟨0⟩ ⟨1⟩ := by
    rw [← canFeed_iff_feeds]
    decide +kernel
  have hall := createNode_beside (x := ⟨listening, [], [], {}⟩) hreachable number false
  obtain ⟨a, added, id, y, onLeft, cs, ha, hadd, hside, hcreate, hcreates, hends, hmade⟩ :=
    hall.2 ⟨0⟩ rfl
  cases hlog.symm.trans ha
  cases hadded.symm.trans hadd
  have hleft := hside.2 (.inr ⟨rfl, hinto, hfrom⟩)
  subst hleft
  exact ⟨y, cs, hcreate, hcreates, hmade.2 (.inl hinto), hends⟩

end Draft

end GraphDraft

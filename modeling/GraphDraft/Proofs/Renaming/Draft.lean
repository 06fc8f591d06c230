import GraphDraft.Draft.Change
import GraphDraft.Proofs.Renaming.Operations

/-!
# Drafts with renamed identities

Wiring, layout and the changes of a draft, on a renamed draft: they choose the same ports and the
same positions, and what they note in the journal is renamed.
-/

namespace GraphDraft

namespace Document

variable {ρ : Renaming} {d : Document}

/-! ## Wiring -/

theorem canFeed_rename (s t : NodeId) :
    (d.rename ρ).canFeed (ρ.node s) (ρ.node t) = d.canFeed s t := by
  have hcan : ∀ kind o i, (d.rename ρ).canConnect ⟨kind, ρ.node s, o, ρ.node t, i⟩ =
      d.canConnect ⟨kind, s, o, t, i⟩ := fun kind o i => canConnect_rename ⟨kind, s, o, t, i⟩
  simp only [canFeed, node?_rename, hcan]
  cases d.node? s <;> cases d.node? t <;> rfl

theorem firstEdge?_rename (kind : EdgeKind) (s t : NodeId) (o : String) (is : List String) :
    (d.rename ρ).firstEdge? kind (ρ.node s) o (ρ.node t) is =
      (d.firstEdge? kind s o t is).map (·.rename ρ) := by
  have hmap : is.map (Edge.mk kind (ρ.node s) o (ρ.node t)) =
      (is.map (Edge.mk kind s o t)).map (·.rename ρ) := by
    rw [List.map_map]
    rfl
  have hcan : (d.rename ρ).canConnect ∘ (·.rename ρ) = d.canConnect := funext canConnect_rename
  rw [firstEdge?, hmap, List.find?_map, hcan, firstEdge?]

theorem controlEdge?_rename (s t : NodeId) (p q : Ports) :
    (d.rename ρ).controlEdge? (ρ.node s) (ρ.node t) p q =
      (d.controlEdge? s t p q).map (·.rename ρ) := by
  simp only [controlEdge?, outputConnected_rename, firstEdge?_rename, Option.map_bind]
  rfl

theorem wireValues_rename (s t : NodeId) (is os : List String) :
    wireValues (ρ.node s) (ρ.node t) is os (d.rename ρ) =
      ((wireValues s t is os d).1.map (·.rename ρ), (wireValues s t is os d).2.rename ρ) := by
  induction os generalizing d with
  | nil => rfl
  | cons o os ih =>
    rw [wireValues, firstEdge?_rename, wireValues]
    cases d.firstEdge? .value s o t is with
    | none => exact ih
    | some e => simp only [Option.map_some, addEdge_rename, ih, List.map_cons]

theorem wire_rename (s t : NodeId) : (d.rename ρ).wire (ρ.node s) (ρ.node t) =
    ((d.wire s t).1.map (·.rename ρ), (d.wire s t).2.rename ρ) := by
  rw [wire, node?_rename, node?_rename, wire]
  cases d.node? s with
  | none => rfl
  | some x =>
    cases d.node? t with
    | none => rfl
    | some y =>
      simp only [Option.map_some, Node.rename, controlEdge?_rename]
      cases d.controlEdge? s t x.ports y.ports with
      | none => simp [wireValues_rename]
      | some e => simp [addEdge_rename, wireValues_rename]

end Document

open Document

variable {ρ : Renaming} {d : Document}

/-! ## Layout -/

namespace Layout

theorem overlaps_rename (n : NodeId) : overlaps (d.rename ρ) (ρ.node n) = overlaps d n := by
  rw [overlaps, node?_rename, overlaps]
  cases d.node? n with
  | none => rfl
  | some x =>
    simp only [Option.map_some, Node.rename, nodesIn_rename, List.any_map]
    congr
    funext y
    simp [ρ.node_injective.eq_iff]

theorem nudgeClear_rename (limit : Nat) (n : NodeId) : nudgeClear limit (ρ.node n) (d.rename ρ) =
    ((nudgeClear limit n d).1, (nudgeClear limit n d).2.rename ρ) := by
  induction limit generalizing d with
  | zero => rfl
  | succ limit ih =>
    rw [nudgeClear, overlaps_rename, node?_rename, nudgeClear]
    split
    · cases d.node? n with
      | none => rfl
      | some x => simp only [Option.map_some, Node.rename, setPosition_rename, ih]
    · rfl

theorem spaceOut_rename (n : NodeId) : (spaceOut (d.rename ρ) (ρ.node n)).2 =
    (spaceOut d n).2.rename ρ := by
  rw [spaceOut, nudgeClear_rename, spaceOut]

end Layout

/-! ## Changes of drafts -/

def Change.rename (ρ : Renaming) : Change → Change
  | nodeCreated n => nodeCreated (ρ.node n)
  | portDefined g id => portDefined (ρ.graph g) (ρ.definition id)
  | variableDeclared scope g name wasDefined => variableDeclared scope (ρ.graph g) name wasDefined
  | defaultSet n key previous => defaultSet (ρ.node n) key previous
  | edgeConnected e => edgeConnected (e.rename ρ)

namespace Draft

/-- The draft of the renamed document with a renamed journal. -/
def rename (ρ : Renaming) (x : Draft) : Draft where
  document := x.document.rename ρ
  journal := x.journal.map (·.rename ρ)
  stack := x.stack.map ρ.node
  feedback := x.feedback

variable {x : Draft}

theorem say_rename (line : String) : (x.rename ρ).say line = (x.say line).rename ρ := rfl

theorem editedGraph_rename : (x.rename ρ).editedGraph = ρ.graph x.editedGraph := by
  have ha : (x.rename ρ).document.anchor? = x.document.anchor?.map _ := anchor?_rename ρ x.document
  rw [editedGraph, ha, editedGraph]
  cases x.document.anchor? with
  | none => exact ρ.graph_root.symm
  | some r =>
    simp only [Option.map_some, Option.bind_some, Node.rename]
    cases r.2.body with
    | none => exact ρ.graph_root.symm
    | some b => rfl

theorem side_rename (a n : NodeId) (left : Bool) :
    side (d.rename ρ) (ρ.node a) (ρ.node n) left = side d a n left := by
  rw [side, canFeed_rename, canFeed_rename, side]

theorem attach_rename (n a : NodeId) (anchor : Node) (left : Bool) :
    attach (d.rename ρ) (ρ.node n) (ρ.node a) (anchor.rename ρ) left =
      (attach d n a anchor left).rename ρ := by
  have hbeside : ∀ left, Layout.beside (anchor.rename ρ) left = Layout.beside anchor left :=
    fun _ => rfl
  simp only [attach, side_rename, hbeside, setPosition_rename, wire_rename]
  split <;> rfl

theorem createNode_rename (ht : ρ.Tracks x.document) (b : Blueprint) (left : Bool) :
    (x.rename ρ).createNode b left =
      (x.createNode b left).map fun r => (ρ.node r.1, r.2.rename ρ) := by
  have ha : (x.rename ρ).document.anchor? = x.document.anchor?.map _ := anchor?_rename ρ x.document
  simp only [createNode, ha]
  cases x.document.anchor? with
  | none =>
    have hadd := addNode_rename ht .root b x.document.pointer
    rw [ρ.graph_root] at hadd
    simp only [Option.map_none, Option.elim_none]
    refine (congrArg (Option.map _) hadd).trans ?_
    cases x.document.addNode .root b x.document.pointer with
    | none => rfl
    | some r =>
      simp only [Option.map_some, Layout.spaceOut_rename, select_rename]
      simp [record, rename, Change.rename]
  | some a =>
    have hadd := addNode_rename ht a.2.graph b a.2.position
    simp only [Option.map_some, Option.elim_some, Node.rename]
    refine (congrArg (Option.map _) hadd).trans ?_
    cases x.document.addNode a.2.graph b a.2.position with
    | none => rfl
    | some r =>
      have hattach := attach_rename (ρ := ρ) (d := r.2) r.1 a.1 a.2 left
      rw [Node.rename] at hattach
      simp only [Option.map_some, hattach, Layout.spaceOut_rename, select_rename]
      simp [record, rename, Change.rename]

theorem placeNode_rename (ht : ρ.Tracks x.document) (g : GraphId) (b : Blueprint) (p : Point) :
    (x.rename ρ).placeNode (ρ.graph g) b p =
      (x.placeNode g b p).map fun r => (ρ.node r.1, r.2.rename ρ) := by
  have hadd : (x.rename ρ).document.addNode (ρ.graph g) b p = _ := addNode_rename ht g b p
  rw [placeNode, hadd, placeNode]
  cases x.document.addNode g b p with
  | none => rfl
  | some r => simp [record, rename, Change.rename]

theorem definePort_rename (ht : ρ.Tracks x.document) (g : GraphId) (kind : PortKind)
    (name : String) : (x.rename ρ).definePort (ρ.graph g) kind name =
      (x.definePort g kind name).map fun r => (ρ.definition r.1, r.2.rename ρ) := by
  have hadd : (x.rename ρ).document.addDefinition (ρ.graph g)
      { kind, key := Text.lowercase name, label := name } = _ := addDefinition_rename ht g _
  rw [definePort, hadd, definePort]
  cases x.document.addDefinition g { kind, key := Text.lowercase name, label := name } with
  | none => rfl
  | some r => simp [record, rename, Change.rename]

theorem declareVariable_rename (scope : Scope) (g : GraphId) (name : String) (type : DataType) :
    ((x.rename ρ).declareVariable scope (ρ.graph g) name type).2 =
      (x.declareVariable scope g name type).2.rename ρ := by
  have hvars : (x.rename ρ).document.declarations? scope (ρ.graph g) =
      x.document.declarations? scope g := declarations?_rename scope g
  rw [declareVariable, hvars, declareVariable]
  cases x.document.declarations? scope g with
  | none => rfl
  | some vs =>
    have hmodify := modifyVariables_rename (ρ := ρ) (d := x.document) scope g fun v =>
      if v.contains name then v else v.put name (.zero type)
    simp [record, rename, Change.rename, hmodify]

theorem setDefault_rename (n : NodeId) (key : String) (v : Value) :
    (x.rename ρ).setDefault (ρ.node n) key v = (x.setDefault n key v).rename ρ := by
  have hheld : (x.rename ρ).document.heldValue? (ρ.node n) key = x.document.heldValue? n key :=
    heldValue?_rename n key
  rw [setDefault, hheld, setDefault]
  cases x.document.heldValue? n key with
  | none => rfl
  | some w =>
    have hset := Document.setDefault_rename (ρ := ρ) (d := x.document) n key v
    simp [record, rename, Change.rename, hset]

end Draft

end GraphDraft

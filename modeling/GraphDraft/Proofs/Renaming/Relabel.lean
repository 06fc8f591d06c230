import GraphDraft.Proofs.Document.Run
import GraphDraft.Proofs.Renaming.Outline

/-!
# Documents under other identities

`Relabels r d e` says that `e` is `d` under other identities: the nodes and the graphs of the two
correspond one to one, the root to the root, and in everything else that is shown they are equal. In
contrast to a `Renaming` this says nothing about identities that are not in use, nor about counters.

In valid documents, what is not in use can be sent beyond the counter of the other document, so the
correspondence extends to a renaming (`Relabels.toRenaming`). Hence outlines do not depend on
identities (`outline_relabels`).
-/

namespace GraphDraft

/-- Other identities for nodes, graphs and definitions. -/
structure Relabeling where
  node : NodeId → NodeId
  graph : GraphId → GraphId
  definition : DefinitionId → DefinitionId

def Edge.relabel (r : Relabeling) (e : Edge) : Edge :=
  { e with source := r.node e.source, target := r.node e.target }

def PortDefinition.relabel (r : Relabeling) (p : PortDefinition) : PortDefinition :=
  { p with id := r.definition p.id }

def Node.relabel (r : Relabeling) (x : Node) : Node :=
  { x with graph := r.graph x.graph, body := x.body.map r.graph }

def Graph.relabel (r : Relabeling) (x : Graph) : Graph :=
  { x with
    owner := x.owner.map r.node
    nodes := x.nodes.map r.node
    edges := x.edges.map (·.relabel r)
    definitions := x.definitions.map (·.relabel r) }

/-- What a renaming does to identities. -/
def Renaming.labels (ρ : Renaming) : Relabeling :=
  ⟨ρ.node, ρ.graph, ρ.definition⟩

theorem Node.rename_eq (ρ : Renaming) (x : Node) : x.rename ρ = x.relabel ρ.labels := rfl

theorem Graph.rename_eq (ρ : Renaming) (x : Graph) : x.rename ρ = x.relabel ρ.labels := rfl

/-! ## Agreement on what is in use -/

/-- Two maps of identities agree on those that a document uses. -/
structure Relabeling.Agree (r s : Relabeling) (d : Document) : Prop where
  node : ∀ ⦃n x⦄, d.node? n = some x → r.node n = s.node n
  graph : ∀ ⦃g x⦄, d.graph? g = some x → r.graph g = s.graph g
  definition : ∀ ⦃g x⦄, d.graph? g = some x → ∀ p ∈ x.definitions,
    r.definition p.id = s.definition p.id

namespace Document

section
variable {d : Document} (hd : d.Valid)
include hd

theorem Valid.node_index_lt {n : NodeId} {x : Node} (hn : d.node? n = some x) :
    n.index < d.nextNode :=
  hd.node_lt (place?_of_node? hn)

theorem Valid.graph_index_lt {g : GraphId} {x : Graph} (hg : d.graph? g = some x) :
    g.index < d.nextGraph :=
  hd.graph_lt (listing?_of_graph? hg)

theorem Valid.root_mem_keys : GraphId.root ∈ d.graphs.keys := by
  obtain ⟨ns, hl⟩ := hd.tree.root
  obtain ⟨x, hx, -⟩ := graph?_of_listing? hl
  exact Store.mem_keys_of_get? hx

variable {r s : Relabeling} (h : r.Agree s d)
include h

theorem Valid.relabel_node_congr {n : NodeId} {x : Node} (hn : d.node? n = some x) :
    x.relabel r = x.relabel s := by
  have hp := place?_of_node? hn
  have hgraph : r.graph x.graph = s.graph x.graph := by
    obtain ⟨o, ns, hl, -⟩ := hd.tree.home hp
    obtain ⟨y, hy, -⟩ := graph?_of_listing? hl
    exact h.graph hy
  have hbody : x.body.map r.graph = x.body.map s.graph := by
    refine Option.map_congr fun b hb => ?_
    obtain ⟨-, ns, hl⟩ := hd.tree.body (hp.trans (by rw [hb]))
    obtain ⟨y, hy, -⟩ := graph?_of_listing? hl
    exact h.graph hy
  rw [Node.relabel, hgraph, hbody, Node.relabel]

theorem Valid.relabel_graph_congr {g : GraphId} {x : Graph} (hg : d.graph? g = some x) :
    x.relabel r = x.relabel s := by
  have hl := listing?_of_graph? hg
  have hplaced : ∀ {n k b}, d.place? n = some (k, b) → r.node n = s.node n := fun hp => by
    obtain ⟨y, hy, -⟩ := node?_of_place? hp
    exact h.node hy
  have howner : x.owner.map r.node = x.owner.map s.node := by
    refine Option.map_congr fun n hn => ?_
    obtain ⟨k, hk⟩ := hd.tree.owner (hl.trans (by rw [hn]))
    exact hplaced hk
  have hnodes : x.nodes.map r.node = x.nodes.map s.node := by
    refine List.map_congr_left fun n hn => ?_
    obtain ⟨b, hb⟩ := hd.tree.listed hl hn
    exact hplaced hb
  have hedges : x.edges.map (·.relabel r) = x.edges.map (·.relabel s) := by
    refine List.map_congr_left fun e he => ?_
    have hj := hd.wired (edges?_of_graph? hg) e he
    obtain ⟨⟨b, hs⟩, c, ht⟩ := And.intro hj.source hj.target
    rw [Edge.relabel, hplaced hs, hplaced ht, Edge.relabel]
  have hdefs : x.definitions.map (·.relabel r) = x.definitions.map (·.relabel s) := by
    refine List.map_congr_left fun p hp => ?_
    rw [PortDefinition.relabel, h.definition hg p hp, PortDefinition.relabel]
  rw [Graph.relabel, howner, hnodes, hedges, hdefs, Graph.relabel]

end

/-! ## Correspondence -/

/-- The second document is the first one under other identities. No two definitions need to have
different identities, and neither the pointer nor a counter plays a part. -/
structure Relabels (r : Relabeling) (d e : Document) : Prop where
  node_injective : ∀ n ∈ d.nodes.keys, ∀ m ∈ d.nodes.keys, r.node n = r.node m → n = m
  graph_injective : ∀ g ∈ d.graphs.keys, ∀ k ∈ d.graphs.keys, r.graph g = r.graph k → g = k
  graph_root : r.graph .root = .root
  node_onto : ∀ m ∈ e.nodes.keys, ∃ n ∈ d.nodes.keys, r.node n = m
  graph_onto : ∀ k ∈ e.graphs.keys, ∃ g ∈ d.graphs.keys, r.graph g = k
  node : ∀ n ∈ d.nodes.keys, e.node? (r.node n) = (d.node? n).map (·.relabel r)
  graph : ∀ g ∈ d.graphs.keys, e.graph? (r.graph g) = (d.graph? g).map (·.relabel r)
  selection : e.selection = d.selection.map r.node
  objectVariables : e.objectVariables = d.objectVariables
  sceneVariables : e.sceneVariables = d.sceneVariables
  applicationVariables : e.applicationVariables = d.applicationVariables
  savedVariables : e.savedVariables = d.savedVariables

end Document

/-! ## Extending a correspondence -/

/-- Follows a map on some keys, and sends all others beyond a bound. -/
def extended {α : Type} [DecidableEq α] (index : α → Nat) (mk : Nat → α) (keys : List α)
    (bound : Nat) (f : α → α) (a : α) : α :=
  if a ∈ keys then f a else mk (bound + index a)

section
variable {α : Type} [DecidableEq α] {index : α → Nat} {mk : Nat → α} {keys : List α} {bound : Nat}
  {f : α → α}

theorem extended_of_mem {a : α} (h : a ∈ keys) : extended index mk keys bound f a = f a :=
  if_pos h

theorem extended_injective (hmk : ∀ a, mk (index a) = a) (hindex : ∀ i, index (mk i) = i)
    (hf : ∀ a ∈ keys, ∀ b ∈ keys, f a = f b → a = b) (hlt : ∀ a ∈ keys, index (f a) < bound) :
    (extended index mk keys bound f).Injective := by
  have hapart : ∀ a ∈ keys, ∀ b, f a ≠ mk (bound + index b) := fun a ha b hab => by
    have hi := congrArg index hab
    rw [hindex] at hi
    have := hlt a ha
    omega
  intro a b hab
  simp only [extended] at hab
  split at hab
  · rename_i ha
    split at hab
    · rename_i hb
      exact hf a ha b hb hab
    · exact absurd hab (hapart a ha b)
  · split at hab
    · rename_i hb
      exact absurd hab.symm (hapart b hb a)
    · have hi := congrArg index hab
      rw [hindex, hindex] at hi
      rw [← hmk a, ← hmk b, Nat.add_left_cancel hi]

end

namespace Store

variable {κ α : Type} [DecidableEq κ] {s t : Store κ α}

theorem mem_keys_iff {k : κ} : k ∈ s.keys ↔ ∃ a, s.get? k = some a := by
  refine ⟨fun hk => ?_, fun ⟨a, ha⟩ => mem_keys_of_get? ha⟩
  cases ha : s.get? k with
  | none => exact absurd hk (get?_eq_none_iff_keys.1 ha)
  | some a => exact ⟨a, rfl⟩

/-- Stores with distinct keys that hold the same have the same size. -/
theorem size_congr (hs : s.Distinct) (ht : t.Distinct) (h : s.get? = t.get?) : s.size = t.size := by
  have hkeys : ∀ k, k ∈ s.keys ↔ k ∈ t.keys := fun k => by rw [mem_keys_iff, mem_keys_iff, h]
  have hlength := ((List.perm_ext_iff_of_nodup hs ht).2 hkeys).length_eq
  simpa [keys, size] using hlength

omit [DecidableEq κ] in
theorem Distinct.rename (hs : s.Distinct) {f : κ → κ} (hf : f.Injective) (g : α → α) :
    (s.rename f g).Distinct := by
  have hkeys : (s.rename f g).keys = s.keys.map f := by
    simp only [keys, Store.rename, List.map_map]
    rfl
  rw [Distinct, hkeys]
  exact hs.map hf

/-- A store that holds what another one holds, under other keys. -/
theorem get?_rename_eq {f : κ → κ} (hf : f.Injective) {g : α → α}
    (honto : ∀ l ∈ t.keys, ∃ k ∈ s.keys, f k = l)
    (h : ∀ k ∈ s.keys, t.get? (f k) = (s.get? k).map g) : (s.rename f g).get? = t.get? := by
  funext l
  by_cases hl : ∃ k ∈ s.keys, f k = l
  · obtain ⟨k, hk, rfl⟩ := hl
    rw [get?_rename s hf, h k hk]
  · have ht : t.get? l = none := get?_eq_none_iff_keys.2 fun hm => hl (honto l hm)
    have hr : (s.rename f g).get? l = none := by
      refine get?_eq_none_iff.2 fun e he hel => hl ?_
      obtain ⟨p, hp, rfl⟩ := List.mem_map.1 he
      exact ⟨p.1, List.mem_map_of_mem hp, hel⟩
    rw [hr, ht]

end Store

namespace Document.Relabels

variable {r : Relabeling} {d e : Document} (h : Relabels r d e) (hd : d.Valid) (he : e.Valid)
include h he

theorem node_lt {n : NodeId} (hn : n ∈ d.nodes.keys) : (r.node n).index < e.nextNode := by
  obtain ⟨x, hx⟩ := Store.mem_keys_iff.1 hn
  have hy : e.node? (r.node n) = some (x.relabel r) := by
    rw [h.node n hn, node?, hx, Option.map_some]
  exact he.node_index_lt hy

theorem graph_lt {g : GraphId} (hg : g ∈ d.graphs.keys) : (r.graph g).index < e.nextGraph := by
  obtain ⟨x, hx⟩ := Store.mem_keys_iff.1 hg
  have hy : e.graph? (r.graph g) = some (x.relabel r) := by
    rw [h.graph g hg, graph?, hx, Option.map_some]
  exact he.graph_index_lt hy

/-- A correspondence, with the identities that are not in use sent beyond the counters. -/
def toRenaming : Renaming where
  node := extended NodeId.index .mk d.nodes.keys e.nextNode r.node
  graph := extended GraphId.index .mk d.graphs.keys e.nextGraph r.graph
  definition := r.definition
  node_injective := extended_injective (fun _ => rfl) (fun _ => rfl) h.node_injective
    fun _ hn => h.node_lt he hn
  graph_injective := extended_injective (fun _ => rfl) (fun _ => rfl) h.graph_injective
    fun _ hg => h.graph_lt he hg
  graph_root := (extended_of_mem hd.root_mem_keys).trans h.graph_root
  nodeShift := 0
  graphShift := 0
  definitionShift := 0
  revisionShift := 0

theorem agree_toRenaming : (h.toRenaming hd he).labels.Agree r d where
  node _ _ hn := extended_of_mem (Store.mem_keys_of_get? hn)
  graph _ _ hg := extended_of_mem (Store.mem_keys_of_get? hg)
  definition _ _ _ _ _ := rfl

theorem node?_toRenaming : (d.rename (h.toRenaming hd he)).node? = e.node? := by
  have hagree := h.agree_toRenaming hd he
  refine Store.get?_rename_eq (h.toRenaming hd he).node_injective (fun m hm => ?_) fun n hn => ?_
  · obtain ⟨n, hn, rfl⟩ := h.node_onto m hm
    exact ⟨n, hn, extended_of_mem hn⟩
  · obtain ⟨x, hx⟩ := Store.mem_keys_iff.1 hn
    have hnode : (h.toRenaming hd he).node n = r.node n := hagree.node hx
    rw [hnode, hx, Option.map_some, Node.rename_eq, hd.relabel_node_congr hagree hx]
    have hy := h.node n hn
    rwa [node?, node?, hx, Option.map_some] at hy

theorem graph?_toRenaming : (d.rename (h.toRenaming hd he)).graph? = e.graph? := by
  have hagree := h.agree_toRenaming hd he
  refine Store.get?_rename_eq (h.toRenaming hd he).graph_injective (fun k hk => ?_) fun g hg => ?_
  · obtain ⟨g, hg, rfl⟩ := h.graph_onto k hk
    exact ⟨g, hg, extended_of_mem hg⟩
  · obtain ⟨x, hx⟩ := Store.mem_keys_iff.1 hg
    have hgraph : (h.toRenaming hd he).graph g = r.graph g := hagree.graph hx
    rw [hgraph, hx, Option.map_some, Graph.rename_eq, hd.relabel_graph_congr hagree hx]
    have hy := h.graph g hg
    rwa [graph?, graph?, hx, Option.map_some] at hy

theorem selection_toRenaming : (d.rename (h.toRenaming hd he)).selection = e.selection := by
  rw [h.selection]
  refine List.map_congr_left fun n hn => ?_
  obtain ⟨g, b, hp⟩ := hd.selected n hn
  obtain ⟨x, hx, -⟩ := node?_of_place? hp
  exact (h.agree_toRenaming hd he).node hx

end Document.Relabels

/-- A composite with one port on each side. -/
def Blueprint.passage (title : String) : Blueprint :=
  .composite none
    ⟨title, [⟨.controlInput, "in", "In", .object⟩, ⟨.controlOutput, "out", "Out", .object⟩]⟩

namespace Document

open Outline

/-- Reachable documents that are the same under other identities have the same outline, whatever
the identities are and in whichever order they have been handed out. -/
theorem outline_relabels {r : Relabeling} {d e : Document} (hd : d.Reachable) (he : e.Reachable)
    (h : Relabels r d e) : e.outline = d.outline := by
  set ρ : Renaming := h.toRenaming hd.valid he.valid
  have hnode : (d.rename ρ).node? = e.node? := h.node?_toRenaming hd.valid he.valid
  have hgraph : (d.rename ρ).graph? = e.graph? := h.graph?_toRenaming hd.valid he.valid
  have hsize : (d.rename ρ).graphs.size = e.graphs.size :=
    Store.size_congr (hd.valid.graphs.rename ρ.graph_injective _) he.valid.graphs hgraph
  have hshared : sharedLines e = sharedLines (d.rename ρ) :=
    sharedLines_congr h.objectVariables h.sceneVariables h.applicationVariables h.savedVariables
  calc e.outline
      = (d.rename ρ).outline :=
        (outline_congr hnode hgraph hsize (h.selection_toRenaming hd.valid he.valid)
          hshared.symm).symm
    _ = d.outline := outline_rename ρ d

/-- Two composites in a row, each with a node inside. -/
def inOrder : Document :=
  Operation.runAll
    [.addNode .root (.passage "Near") .origin, .addNode .root (.passage "Far") .origin,
     .addNode ⟨1⟩ { kind := .unit "Core", title := "Core" } .origin,
     .addNode ⟨2⟩ { kind := .unit "Shell", title := "Shell" } .origin,
     .connect ⟨.control, ⟨0⟩, "out", ⟨1⟩, "in"⟩, .setSelection [⟨3⟩, ⟨0⟩]]
    (.empty "Main")

/-- The same after some other node has been removed, and with the inner nodes added the other way
around. -/
def outOfOrder : Document :=
  Operation.runAll
    [.addNode .root (.passage "Lost") .origin, .removeNode ⟨0⟩,
     .addNode .root (.passage "Near") .origin, .addNode .root (.passage "Far") .origin,
     .addNode ⟨3⟩ { kind := .unit "Shell", title := "Shell" } .origin,
     .addNode ⟨2⟩ { kind := .unit "Core", title := "Core" } .origin,
     .connect ⟨.control, ⟨1⟩, "out", ⟨2⟩, "in"⟩, .setSelection [⟨3⟩, ⟨1⟩]]
    (.empty "Main")

/-- The identities of the one document in the other. -/
def reordering : Relabeling where
  node n := ⟨[1, 2, 4, 3].getD n.index 0⟩
  graph g := ⟨[0, 2, 3].getD g.index 0⟩
  definition i := ⟨i.index + 2⟩

theorem outline_relabels_reordering :
    inOrder.Reachable ∧ outOfOrder.Reachable ∧ Relabels reordering inOrder outOfOrder ∧
      outOfOrder.outline = inOrder.outline := by
  have hin : inOrder.Reachable := ⟨"Main", _, rfl⟩
  have hout : outOfOrder.Reachable := ⟨"Main", _, rfl⟩
  have hrelabels : Relabels reordering inOrder outOfOrder := by
    constructor <;> decide +kernel
  exact ⟨hin, hout, hrelabels, outline_relabels hin hout hrelabels⟩

end Document

end GraphDraft

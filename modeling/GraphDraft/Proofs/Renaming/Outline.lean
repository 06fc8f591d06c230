import GraphDraft.Outline
import GraphDraft.Proofs.Document.Same
import GraphDraft.Proofs.Renaming.Basic

/-!
# Outlines do not show identities

Lines of an outline name nodes by their places and never by their identities, and so a document and
a renamed one have the same outline (`outline_rename`). An outline depends on what identities lead
to, and not on how a document keeps them (`outline_congr`). Nor does it show counters, so that
documents with the same content and the same selection have the same outline (`Same.outline_eq`).
-/

namespace GraphDraft

open Document

variable {ρ : Renaming} {d : Document}

namespace Graph

variable (x : Graph) (n : NodeId)

theorem indexOf?_rename : (x.rename ρ).indexOf? (ρ.node n) = x.indexOf? n := by
  simp only [indexOf?, rename, List.findIdx?_map]
  congr
  funext m
  simp [ρ.node_injective.eq_iff]

theorem place_rename : (x.rename ρ).place (ρ.node n) = x.place n := by
  rw [place, indexOf?_rename, place]

end Graph

namespace Outline

theorem edgeLine_rename (x : Graph) (e : Edge) :
    edgeLine (x.rename ρ) (e.rename ρ) = edgeLine x e := by
  simp only [edgeLine, Edge.rename, Graph.place_rename]

theorem definitionLine_rename (p : PortDefinition) :
    definitionLine (p.rename ρ) = definitionLine p := by
  simp only [definitionLine, PortDefinition.rename]
  congr

theorem nodeLine_rename (i : Nat) (y : Node) : nodeLine i (y.rename ρ) = nodeLine i y := by
  simp only [nodeLine, Node.rename]

theorem heldLines_rename (y : Node) : heldLines (y.rename ρ) = heldLines y := by
  simp only [heldLines, Node.rename]

theorem graphLines_rename (levels : Nat) (g : GraphId) (depth : Nat) :
    graphLines (d.rename ρ) levels (ρ.graph g) depth = graphLines d levels g depth := by
  induction levels generalizing g depth with
  | zero => rfl
  | succ levels ih =>
    rw [graphLines, graph?_rename, graphLines]
    cases d.graph? g with
    | none => rfl
    | some x =>
      have hbody : ∀ y : Node, ((y.rename ρ).body.elim [] fun b =>
          graphLines (d.rename ρ) levels b (depth + 2)) =
          y.body.elim [] fun b => graphLines d levels b (depth + 2) := fun y => by
        rw [Node.rename]
        cases y.body with
        | none => rfl
        | some b => exact ih b (depth + 2)
      have hedges : (x.rename ρ).edges.map (indent (depth + 1) ++ edgeLine (x.rename ρ) ·) =
          x.edges.map (indent (depth + 1) ++ edgeLine x ·) := by
        show (x.edges.map (·.rename ρ)).map _ = _
        rw [List.map_map]
        exact List.map_congr_left fun e _ =>
          congrArg (indent (depth + 1) ++ ·) (edgeLine_rename x e)
      have hdefs : (x.rename ρ).definitions.map (indent (depth + 1) ++ definitionLine ·) =
          x.definitions.map (indent (depth + 1) ++ definitionLine ·) := by
        simp only [Graph.rename, List.map_map, Function.comp_def, definitionLine_rename]
      simp only [Option.map_some, hedges, hdefs, nodesIn_rename, List.zipIdx_map, List.flatMap_map,
        Prod.map_fst, Prod.map_snd, nodeLine_rename, heldLines_rename, hbody]
      rfl

theorem pathWithin_rename (levels : Nat) (n : NodeId) :
    pathWithin (d.rename ρ) levels (ρ.node n) = pathWithin d levels n := by
  induction levels generalizing n with
  | zero => rfl
  | succ levels ih =>
    rw [pathWithin, node?_rename, pathWithin]
    cases d.node? n with
    | none => rfl
    | some y =>
      simp only [Option.map_some, Node.rename, Option.bind_eq_bind, Option.bind_some, graph?_rename]
      cases d.graph? y.graph with
      | none => rfl
      | some x =>
        have howner : (x.rename ρ).owner.bind (pathWithin (d.rename ρ) levels) =
            x.owner.bind (pathWithin d levels) := by
          rw [Graph.rename]
          cases x.owner with
          | none => rfl
          | some m => exact ih m
        simp only [Option.map_some, Option.bind_some, Graph.indexOf?_rename, howner]
        rfl

theorem path?_rename (n : NodeId) : path? (d.rename ρ) (ρ.node n) = path? d n := by
  have hsize : (d.rename ρ).graphs.size = d.graphs.size := Store.size_rename ..
  rw [path?, hsize, pathWithin_rename, path?]

theorem selectionLine_rename : selectionLine (d.rename ρ) = selectionLine d := by
  have hpaths : (d.rename ρ).selection.filterMap (path? (d.rename ρ)) =
      d.selection.filterMap (path? d) := by
    rw [rename, List.filterMap_map]
    exact congrArg (d.selection.filterMap ·) (funext path?_rename)
  rw [selectionLine, hpaths, selectionLine]

theorem sharedLines_rename : sharedLines (d.rename ρ) = sharedLines d := rfl

end Outline

open Outline

theorem Document.outline_rename (ρ : Renaming) (d : Document) :
    (d.rename ρ).outline = d.outline := by
  have hsize : (d.rename ρ).graphs.size = d.graphs.size := Store.size_rename ..
  have hroot := graphLines_rename (ρ := ρ) (d := d) d.graphs.size .root 0
  rw [ρ.graph_root] at hroot
  rw [outline, outlineLines, hsize, hroot, sharedLines_rename, selectionLine_rename, outline,
    outlineLines]

/-! ## What an outline depends on -/

section
variable {e : Document} (hnode : d.node? = e.node?) (hgraph : d.graph? = e.graph?)
include hnode hgraph

theorem Document.nodesIn_congr : d.nodesIn = e.nodesIn := by
  funext g
  rw [nodesIn, hnode, hgraph, nodesIn]

theorem Outline.graphLines_congr (levels : Nat) : graphLines d levels = graphLines e levels := by
  induction levels with
  | zero => rfl
  | succ levels ih =>
    funext g depth
    rw [graphLines, hgraph, nodesIn_congr hnode hgraph, ih, graphLines]

theorem Outline.pathWithin_congr (levels : Nat) : pathWithin d levels = pathWithin e levels := by
  induction levels with
  | zero => rfl
  | succ levels ih =>
    funext n
    rw [pathWithin, hnode, hgraph, ih, pathWithin]

/-- An outline shows what the identities lead to, whatever the order in which they are kept. -/
theorem Document.outline_congr (hsize : d.graphs.size = e.graphs.size)
    (hselection : d.selection = e.selection) (hshared : sharedLines d = sharedLines e) :
    d.outline = e.outline := by
  have hpath : path? d = path? e := by
    funext n
    rw [path?, hsize, pathWithin_congr hnode hgraph, path?]
  have hline : selectionLine d = selectionLine e := by
    rw [selectionLine, hselection, hpath, selectionLine]
  rw [outline, outlineLines, hsize, graphLines_congr hnode hgraph, hshared, hline, outline,
    outlineLines]

end

theorem Outline.sharedLines_congr {e : Document} (hobject : d.objectVariables = e.objectVariables)
    (hscene : d.sceneVariables = e.sceneVariables)
    (happlication : d.applicationVariables = e.applicationVariables)
    (hsaved : d.savedVariables = e.savedVariables) : sharedLines d = sharedLines e := by
  simp only [sharedLines, declarations?, List.flatMap_cons, List.flatMap_nil, hobject, hscene,
    happlication, hsaved]

theorem Document.Same.outline_eq {e : Document} (h : d.Same e)
    (hselection : d.selection = e.selection) : d.outline = e.outline :=
  outline_congr h.node? h.graph? (by rw [h.graphs]) hselection
    (sharedLines_congr h.objectVariables h.sceneVariables h.applicationVariables h.savedVariables)

end GraphDraft

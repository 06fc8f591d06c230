import GraphDraft.Proofs.Document.Later
import GraphDraft.Proofs.Document.Same
import GraphDraft.Proofs.Renaming.Relabel

/-!
# Moving a renaming on

Undoing changes gives back the content and the selection of a document but not its counters. If the
document was a renamed one, then so is what the undoing gives (`exists_rename_of_same`). The
renaming stays what it is below the counters, which bound all identities in use, and maps the others
to those that the new counters hand out next.
-/

namespace GraphDraft

/-! ## Shifting identities that are not in use -/

/-- Follows a map below a bound, and shifts from the bound on. -/
def shiftFrom {α : Type} (index : α → Nat) (mk : Nat → α) (bound shift : Nat) (f : α → α) (a : α) :
    α :=
  if index a < bound then f a else mk (shift + index a)

section
variable {α : Type} {index : α → Nat} {mk : Nat → α} {bound shift : Nat} {f : α → α} {a : α}

theorem shiftFrom_of_lt (h : index a < bound) : shiftFrom index mk bound shift f a = f a :=
  if_pos h

theorem shiftFrom_of_le (h : bound ≤ index a) :
    shiftFrom index mk bound shift f a = mk (shift + index a) :=
  if_neg (Nat.not_lt_of_le h)

/-- If the map was a shift before, a greater shift does not run into its other values. -/
theorem shiftFrom_injective (hmk : ∀ a, mk (index a) = a) (hindex : ∀ i, index (mk i) = i)
    (hf : f.Injective) {least : Nat} (ht : ∀ i, bound ≤ i → f (mk i) = mk (least + i))
    (hle : least ≤ shift) : (shiftFrom index mk bound shift f).Injective := by
  have hapart : ∀ a b, index a < bound → bound ≤ index b → f a ≠ mk (shift + index b) := by
    intro a b ha hb hab
    have hi : bound ≤ shift - least + index b := by omega
    have hsum : least + (shift - least + index b) = shift + index b := by omega
    have heq := hf (hab.trans (hsum ▸ ht _ hi).symm)
    have := hindex (shift - least + index b)
    rw [← heq] at this
    omega
  intro a b hab
  rcases Nat.lt_or_ge (index a) bound with ha | ha <;>
    rcases Nat.lt_or_ge (index b) bound with hb | hb
  · rw [shiftFrom_of_lt ha, shiftFrom_of_lt hb] at hab
    exact hf hab
  · rw [shiftFrom_of_lt ha, shiftFrom_of_le hb] at hab
    exact absurd hab (hapart a b ha hb)
  · rw [shiftFrom_of_le ha, shiftFrom_of_lt hb] at hab
    exact absurd hab.symm (hapart b a hb ha)
  · rw [shiftFrom_of_le ha, shiftFrom_of_le hb] at hab
    have hsum := congrArg index hab
    rw [hindex, hindex] at hsum
    rw [← hmk a, ← hmk b, Nat.add_left_cancel hsum]

end

/-! ## Renamings that agree on a document -/

/-- Two renamings agree on all identities that a document has handed out. -/
structure Renaming.Agree (ρ σ : Renaming) (d : Document) : Prop where
  node : ∀ n, n.index < d.nextNode → ρ.node n = σ.node n
  graph : ∀ g, g.index < d.nextGraph → ρ.graph g = σ.graph g
  definition : ∀ i, i.index < d.nextDefinition → ρ.definition i = σ.definition i

theorem Store.rename_congr {κ α : Type} {s : Store κ α} {f f' : κ → κ} {g g' : α → α}
    (hf : ∀ e ∈ s.entries, f e.1 = f' e.1) (hg : ∀ e ∈ s.entries, g e.2 = g' e.2) :
    s.rename f g = s.rename f' g' := by
  rw [rename, rename]
  exact congrArg _ (List.map_congr_left fun e he => by rw [hf e he, hg e he])

namespace Document

variable {ρ σ : Renaming} {d r : Document}

namespace Valid

variable (hd : d.Valid)
include hd

theorem agree_labels (h : ρ.Agree σ d) : ρ.labels.Agree σ.labels d where
  node _ _ hn := h.node _ (hd.node_index_lt hn)
  graph _ _ hg := h.graph _ (hd.graph_index_lt hg)
  definition _ _ hg _ hp := h.definition _ (hd.definition_lt (definitions?_of_graph? hg) hp)

theorem rename_same (h : ρ.Agree σ d) : (d.rename ρ).Same (d.rename σ) where
  graphs := by
    refine Store.rename_congr (fun e he => ?_) fun e he => ?_
    · exact h.graph _ (hd.graph_index_lt (Store.get?_of_mem hd.graphs he))
    · exact hd.relabel_graph_congr (hd.agree_labels h) (Store.get?_of_mem hd.graphs he)
  nodes := by
    refine Store.rename_congr (fun e he => ?_) fun e he => ?_
    · exact h.node _ (hd.node_index_lt (Store.get?_of_mem hd.nodes he))
    · exact hd.relabel_node_congr (hd.agree_labels h) (Store.get?_of_mem hd.nodes he)
  pointer := rfl
  objectVariables := rfl
  sceneVariables := rfl
  applicationVariables := rfl
  savedVariables := rfl

theorem rename_selection (h : ρ.Agree σ d) : (d.rename ρ).selection = (d.rename σ).selection := by
  refine List.map_congr_left fun n hn => ?_
  obtain ⟨g, b, hp⟩ := hd.selected n hn
  exact h.node n (hd.node_lt hp)

end Valid

theorem root_index_lt (hd : d.Valid) : GraphId.root.index < d.nextGraph := by
  obtain ⟨ns, hr⟩ := hd.tree.root
  exact hd.graph_lt hr

end Document

open Document

/-! ## Moving on -/

variable {ρ : Renaming} {d r : Document}

/-- The renaming that keeps to another one on all that `d` has handed out and leads from the
counters of `d` to those of `r`. -/
def Renaming.upTo (ρ : Renaming) (hd : d.Valid) (ht : ρ.Tracks d) (hl : (d.rename ρ).Later r) :
    Renaming where
  node := shiftFrom NodeId.index .mk d.nextNode (r.nextNode - d.nextNode) ρ.node
  graph := shiftFrom GraphId.index .mk d.nextGraph (r.nextGraph - d.nextGraph) ρ.graph
  definition := shiftFrom DefinitionId.index .mk d.nextDefinition
    (r.nextDefinition - d.nextDefinition) ρ.definition
  node_injective := shiftFrom_injective (fun _ => rfl) (fun _ => rfl) ρ.node_injective ht.node
    (Nat.le_sub_of_add_le hl.nextNode)
  graph_injective := shiftFrom_injective (fun _ => rfl) (fun _ => rfl) ρ.graph_injective ht.graph
    (Nat.le_sub_of_add_le hl.nextGraph)
  graph_root := (shiftFrom_of_lt (root_index_lt hd)).trans ρ.graph_root
  nodeShift := r.nextNode - d.nextNode
  graphShift := r.nextGraph - d.nextGraph
  definitionShift := r.nextDefinition - d.nextDefinition
  revisionShift := r.revision - d.revision

section
variable (hd : d.Valid) (ht : ρ.Tracks d) (hl : (d.rename ρ).Later r)

theorem Renaming.tracks_upTo : (ρ.upTo hd ht hl).Tracks d where
  node _ h := shiftFrom_of_le h
  graph _ h := shiftFrom_of_le h
  definition _ h := shiftFrom_of_le h

theorem Renaming.agree_upTo : ρ.Agree (ρ.upTo hd ht hl) d where
  node _ h := (shiftFrom_of_lt h).symm
  graph _ h := (shiftFrom_of_lt h).symm
  definition _ h := (shiftFrom_of_lt h).symm

end

/-- What has the content and the selection of a renamed document is a renamed document itself, if
its counters have not gone back. -/
theorem Document.exists_rename_of_same (hd : d.Valid) (ht : ρ.Tracks d) (hs : r.Same (d.rename ρ))
    (hsel : r.selection = (d.rename ρ).selection) (hl : (d.rename ρ).Later r) :
    ∃ σ : Renaming, σ.Tracks d ∧ r = d.rename σ := by
  have hagree := Renaming.agree_upTo hd ht hl
  have hsame := hs.trans (hd.rename_same hagree)
  have hselection := hsel.trans (hd.rename_selection hagree)
  have hsum : ∀ {shift next now : Nat}, shift + next ≤ now → now = now - next + next := by omega
  exact ⟨ρ.upTo hd ht hl, Renaming.tracks_upTo hd ht hl, hsame.eq hselection (hsum hl.nextNode)
    (hsum hl.nextGraph) (hsum hl.nextDefinition) (hsum hl.revision)⟩

end GraphDraft

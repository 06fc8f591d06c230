import GraphDraft.Proofs.Document.Undo
import GraphDraft.Proofs.Draft.Stable
import GraphDraft.Proofs.Draft.Wiring

/-!
# Rolling back a line

A draft is `Undoable` to a document if rolling back its journal gives that document again. Every
change that a command makes keeps it so (`stable_undoable`): the changes that are noted are undone
by their notes, and the edges that are not noted touch a new node and go away with it.
-/

namespace GraphDraft

namespace Document

/-! ## New nodes -/

variable {d e : Document} {n : NodeId}

theorem Adds.connect (h : Adds n d e) {c : Edge} (hc : c.source = n ∨ c.target = n) :
    Adds n d (e.connect c) := by
  rw [Document.connect]
  split
  · rename_i hcan
    exact h.addEdge hc hcan
  · exact h

theorem Adds.of_addNode (h : d.Valid) {g : GraphId} {b : Blueprint} {p : Point}
    (ha : d.addNode g b p = some (n, e)) : Adds n d e := by
  obtain ⟨hg, rfl, rfl, -⟩ := h.addNode ha
  exact .grown h hg b p

theorem Adds.createNode {x y : Draft} (h : x.document.Valid) {b : Blueprint} {left : Bool}
    (hc : x.createNode b left = some (n, y)) : Adds n x.document y.document :=
  createNode_induction hc (fun ha => .of_addNode h ha) (fun hadd => hadd.setPosition _)
    (fun hadd => hadd.addEdge) fun hadd => hadd.setSelection _

end Document

namespace Draft

open Document

variable {d : Document} {x y : Draft}

/-- Rolling back the journal of the draft gives `d` again. -/
structure Undoable (d : Document) (x : Draft) : Prop where
  valid : x.document.Valid
  rollback : (x.journal.rollback x.document).Same d

namespace Undoable

/-- A change that is noted is undone first. -/
theorem record (h : Undoable d x) {c : Change} (hv : y.document.Valid)
    (hj : y.journal = x.journal ++ [c]) (hs : (c.revert y.document).Same x.document) :
    Undoable d y where
  valid := hv
  rollback := by
    rw [hj, Journal.rollback_append]
    exact (hs.rollback (hv.revert c) h.valid x.journal).trans h.rollback

/-- A change of the selection needs no note. -/
theorem of_same (h : Undoable d x) (hv : y.document.Valid) (hj : y.journal = x.journal)
    (hs : y.document.Same x.document) : Undoable d y where
  valid := hv
  rollback := by
    rw [hj]
    exact (hs.rollback hv h.valid x.journal).trans h.rollback

theorem createNode (h : Undoable d x) {b : Blueprint} {left : Bool} {n : NodeId}
    (hc : x.createNode b left = some (n, y)) : Undoable d y := by
  have hadd := Adds.createNode h.valid hc
  obtain ⟨⟨m, e⟩, ha, hy⟩ := Option.map_eq_some_iff.1 hc
  cases hy
  exact h.record hadd.valid rfl hadd.removeNode

theorem placeNode (h : Undoable d x) {g : GraphId} {b : Blueprint} {p : Point} {n : NodeId}
    {c : Edge} (hp : x.placeNode g b p = some (n, y)) (hc : c.source = n ∨ c.target = n) :
    Undoable d (y.join c) := by
  obtain ⟨⟨m, e⟩, ha, hy⟩ := Option.map_eq_some_iff.1 hp
  cases hy
  have hadd := (Adds.of_addNode h.valid ha).connect hc
  exact h.record hadd.valid rfl hadd.removeNode

theorem definePort (h : Undoable d x) {g : GraphId} {kind : PortKind} {name : String}
    {id : DefinitionId} (hp : x.definePort g kind name = some (id, y)) : Undoable d y := by
  obtain ⟨⟨i, e⟩, ha, hy⟩ := Option.map_eq_some_iff.1 hp
  cases hy
  exact h.record (h.valid.addDefinition ha) rfl (.removeDefinition_addDefinition h.valid ha)

theorem declareVariable (h : Undoable d x) (scope : Scope) (g : GraphId) (name : String)
    (type : DataType) : Undoable d (x.declareVariable scope g name type).2 := by
  rw [Draft.declareVariable]
  split
  · rename_i vs hvs
    have hv := h.valid.modifyVariables scope g (f := fun vs =>
        if vs.contains name then vs else vs.put name (.zero type)) fun vs hd => by
      split
      · exact hd
      · exact hd.put _ _
    refine h.record (c := .variableDeclared scope g name (vs.contains name)) hv rfl ?_
    cases hc : vs.contains name with
    | true => exact .modifyVariables_of_contains h.valid hvs hc _
    | false => exact .erase_modifyVariables h.valid hvs hc _
  · exact h.of_same h.valid.touch rfl { Same.refl x.document with }

theorem setDefault (h : Undoable d x) (n : NodeId) (key : String) (v : Value) :
    Undoable d (x.setDefault n key v) := by
  rw [Draft.setDefault]
  split
  · rename_i w hw
    exact h.record (c := .defaultSet n key w) (h.valid.setDefault n key v) rfl
      (.setDefault_setDefault h.valid hw)
  · exact h

end Undoable

/-- Whatever commands do can be undone. -/
theorem stable_undoable (d : Document) : Stable (Undoable d) where
  create h hc := h.createNode hc
  access h hp hc := h.placeNode hp hc
  define h hp := h.definePort hp
  declare scope g name type h := h.declareVariable scope g name type
  fill n key v h := h.setDefault n key v
  select _ h := h.of_same (h.valid.setSelection _) rfl { Same.refl _ with }
  aside _ _ h := ⟨h.valid, h.rollback⟩

end Draft

end GraphDraft

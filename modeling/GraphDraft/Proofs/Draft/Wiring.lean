import GraphDraft.Draft.Change

/-!
# What wiring and nudging preserve

Joining two nodes makes edges from the one to the other, each of which could be made when its turn
came (`wire_induction`). Nudging a node clear moves it and nothing else (`nudgeClear_induction`).
Hence creating a node adds it, moves it, makes edges at it and selects it (`createNode_induction`).
-/

namespace GraphDraft.Document

variable {d : Document} {P : Document → Prop}

/-! ## Edges between two nodes -/

theorem firstEdge?_eq_some {kind : EdgeKind} {s t : NodeId} {o : String} {is : List String}
    {c : Edge} (h : d.firstEdge? kind s o t is = some c) :
    c.source = s ∧ c.target = t ∧ d.canConnect c = true := by
  obtain ⟨i, -, rfl⟩ := List.mem_map.1 (List.mem_of_find?_eq_some h)
  exact ⟨rfl, rfl, List.find?_some h⟩

section
variable {s t : NodeId} (hstep : ∀ {e c}, P e → c.source = s → c.target = t →
  e.canConnect c = true → P (e.addEdge c))
include hstep

theorem wireValues_induction (is os : List String) (h : P d) : P (wireValues s t is os d).2 := by
  induction os generalizing d with
  | nil => exact h
  | cons o os ih =>
    rw [wireValues]
    split
    · rename_i c hc
      obtain ⟨hs, ht, hcan⟩ := firstEdge?_eq_some hc
      exact ih (hstep h hs ht hcan)
    · exact ih h

/-- What survives making edges from one node to another survives joining the two. -/
theorem wire_induction (h : P d) : P (d.wire s t).2 := by
  rw [wire]
  split
  · refine wireValues_induction hstep _ _ ?_
    rename_i x y _ _
    cases hc : d.controlEdge? s t x.ports y.ports with
    | none => exact h
    | some c =>
      obtain ⟨o, -, hc⟩ := Option.bind_eq_some_iff.1 hc
      obtain ⟨hs, ht, hcan⟩ := firstEdge?_eq_some hc
      exact hstep h hs ht hcan
  · exact h

end

/-! ## Which edges are made -/

/-- Making the edges `cs` in order leads from `d` to `e`; each could be made when its turn came. -/
inductive Makes : Document → List Edge → Document → Prop
  | nil {d : Document} : Makes d [] d
  | cons {d e : Document} {c : Edge} {cs : List Edge} :
    d.canConnect c = true → Makes (d.addEdge c) cs e → Makes d (c :: cs) e

theorem Makes.append {e f : Document} {cs bs : List Edge} (h : Makes d cs e) (k : Makes e bs f) :
    Makes d (cs ++ bs) f := by
  induction h with
  | nil => exact k
  | cons hcan _ ih => exact .cons hcan (ih k)

theorem wireValues_makes (s t : NodeId) (is os : List String) (d : Document) :
    Makes d (wireValues s t is os d).1 (wireValues s t is os d).2 := by
  induction os generalizing d with
  | nil => exact .nil
  | cons o os ih =>
    rw [wireValues]
    split
    · rename_i c hc
      exact .cons (firstEdge?_eq_some hc).2.2 (ih _)
    · exact ih d

theorem wire_makes (d : Document) (s t : NodeId) : Makes d (d.wire s t).1 (d.wire s t).2 := by
  rw [wire]
  split
  · rename_i x y _ _
    refine .append ?_ (wireValues_makes ..)
    cases hc : d.controlEdge? s t x.ports y.ports with
    | none => exact .nil
    | some c =>
      obtain ⟨o, -, hc⟩ := Option.bind_eq_some_iff.1 hc
      exact .cons (firstEdge?_eq_some hc).2.2 .nil
  · exact .nil

theorem wireChain_makes (ns : List NodeId) (d : Document) :
    Makes d (wireChain ns d).1 (wireChain ns d).2 := by
  induction ns generalizing d with
  | nil => exact .nil
  | cons n ns ih =>
    cases ns with
    | nil => exact .nil
    | cons m ns =>
      rw [wireChain]
      exact (wire_makes d n m).append (ih _)

/-! ## New nodes -/

/-- What survives moving a node survives nudging it clear. -/
theorem nudgeClear_induction {n : NodeId} (hstep : ∀ {e p}, P e → P (e.setPosition n p))
    (limit : Nat) (h : P d) : P (Layout.nudgeClear limit n d).2 := by
  induction limit generalizing d with
  | zero => exact h
  | succ limit ih =>
    rw [Layout.nudgeClear]
    split
    · split
      · exact ih (hstep h)
      · exact h
    · exact h

/-- What survives whatever is done to a new node survives creating it. -/
theorem createNode_induction {x y : Draft} {b : Blueprint} {left : Bool} {n : NodeId}
    (hc : x.createNode b left = some (n, y))
    (hadd : ∀ {g p e}, x.document.addNode g b p = some (n, e) → P e)
    (hmove : ∀ {e p}, P e → P (e.setPosition n p))
    (hedge : ∀ {e c}, P e → c.source = n ∨ c.target = n → e.canConnect c = true → P (e.addEdge c))
    (hselect : ∀ {e}, P e → P (e.select n)) : P y.document := by
  obtain ⟨⟨m, e⟩, ha, hy⟩ := Option.map_eq_some_iff.1 hc
  cases hy
  have hattach : ∀ a anchor, P (Draft.attach e n a anchor left) := by
    intro a anchor
    have hp := hmove (p := Layout.beside anchor (Draft.side e a n left)) (hadd ha)
    rw [Draft.attach]
    split
    · exact wire_induction (fun he hs _ hcan => hedge he (.inl hs) hcan) hp
    · exact wire_induction (fun he _ ht hcan => hedge he (.inr ht) hcan) hp
  refine hselect (nudgeClear_induction hmove _ ?_)
  split
  · exact hattach ..
  · exact hadd ha

end GraphDraft.Document

import GraphDraft.Proofs.Draft.Reachable

/-!
# The nodes on the stack

The nodes on the stack of a draft are live and are noted in the journal, in the order in which they
were created (`Draft.Stacked`). Accessors of variables are noted as well and are not on the stack;
going up takes nodes off the stack that stay noted. So the stack is what is left of the nodes noted,
and every command keeps it so (`durable_stacked`).
-/

namespace GraphDraft

/-- The nodes that a journal notes as created, oldest first. -/
def Journal.created (j : Journal) : List NodeId :=
  j.filterMap fun c =>
    match c with
    | .nodeCreated n => some n
    | _ => none

theorem Journal.created_append (j k : Journal) :
    Journal.created (j ++ k) = j.created ++ k.created :=
  List.filterMap_append

open Document

/-! ## Nodes that stay live -/

namespace Document

variable {d e : Document} {n : NodeId}

theorem Extends.contains_node {new : Edge → Prop} (h : d.Extends new e)
    (hn : d.nodes.contains n = true) : e.nodes.contains n = true := by
  obtain ⟨x, hx⟩ := Store.contains_iff.1 hn
  obtain ⟨y, hy, -⟩ := h.node hx
  exact Store.contains_iff.2 ⟨y, hy⟩

theorem contains_of_addNode (h : d.Valid) {g : GraphId} {b : Blueprint} {p : Point}
    (ha : d.addNode g b p = some (n, e)) : e.nodes.contains n = true := by
  obtain ⟨-, rfl, rfl, -⟩ := h.addNode ha
  have hnode : (d.grown g b p).node? ⟨d.nextNode⟩ = some (d.newNode g b p) := by
    rw [node?_grown, if_pos rfl]
  exact Store.contains_iff.2 ⟨_, hnode⟩

theorem contains_of_createNode {x y : Draft} (h : x.document.Valid) {b : Blueprint} {left : Bool}
    (hc : x.createNode b left = some (n, y)) : y.document.nodes.contains n = true := by
  refine createNode_induction (P := fun e => e.nodes.contains n = true) hc ?_ ?_ ?_ ?_
  · intro g p e ha
    exact contains_of_addNode h ha
  · intro e p he
    rw [setPosition, if_pos he]
    show (e.nodes.modify n _).contains n = true
    rw [Store.contains, Store.get?_modify, if_pos rfl, Option.isSome_map]
    exact he
  · intro e c he _ _
    rw [nodes_addEdge]
    exact he
  · intro e he
    exact he

end Document

namespace Draft

variable {x y : Draft} {n : NodeId}

/-- The nodes on the stack are some of those that the journal notes as created, each of which it
notes once and is live. -/
structure Stacked (x : Draft) : Prop where
  reachable : x.document.Reachable
  stack : x.stack.Sublist x.journal.created
  once : x.journal.created.Nodup
  live : ∀ n ∈ x.journal.created, x.document.nodes.contains n = true

/-- Nothing has been created when a line starts. -/
theorem stacked_start {d : Document} (h : d.Reachable) (feedback : Feedback) :
    Stacked ⟨d, [], [], feedback⟩ :=
  ⟨h, .slnil, List.nodup_nil, fun _ hn => absurd hn List.not_mem_nil⟩

/-- A change that creates no node is not noted as if it did. -/
theorem Stacked.of_created (h : Stacked x) (hy : y.document.Reachable)
    (hext : x.document.Extends (fun _ => True) y.document) (hs : y.stack = x.stack)
    (hj : y.journal.created = x.journal.created) : Stacked y where
  reachable := hy
  stack := by
    rw [hs, hj]
    exact h.stack
  once := by
    rw [hj]
    exact h.once
  live n hn := by
    rw [hj] at hn
    exact hext.contains_node (h.live n hn)

/-- A new node is noted after all others. -/
theorem Stacked.of_new (h : Stacked x) (hy : y.document.Reachable)
    (hext : x.document.Extends (fun _ => True) y.document) (hnew : x.document.node? n = none)
    (hlive : y.document.nodes.contains n = true) (hs : y.stack.Sublist (x.stack ++ [n]))
    (hj : y.journal = x.journal ++ [.nodeCreated n]) : Stacked y := by
  have hcreated : y.journal.created = x.journal.created ++ [n] := by
    rw [hj, Journal.created_append]
    rfl
  refine ⟨hy, ?_, ?_, fun m hm => ?_⟩
  · rw [hcreated]
    exact hs.trans (h.stack.append_right [n])
  · rw [hcreated]
    refine nodup_append_new h.once fun hm => ?_
    obtain ⟨z, hz⟩ := Store.contains_iff.1 (h.live n hm)
    cases hnew.symm.trans hz
  · rw [hcreated] at hm
    rcases List.mem_append.1 hm with hm | hm
    · exact hext.contains_node (h.live m hm)
    · rw [List.mem_singleton.1 hm]
      exact hlive

theorem durable_stacked : Durable Stacked where
  create {x y b left n} h hc := by
    have hv := h.reachable.valid
    have hrefl := Extends.refl (fun _ => True) x.document
    have hext := hrefl.createNode hv (fun _ _ => trivial) hc
    have hlive := contains_of_createNode hv hc
    have hy := stable_reachable.create h.reachable hc
    obtain ⟨⟨m, e⟩, ha, hr⟩ := Option.map_eq_some_iff.1 hc
    cases hr
    exact h.of_new hy hext (hrefl.node?_new hv ha) hlive (.refl _) rfl
  access {x y g b p n c} h hp hc := by
    have hv := h.reachable.valid
    have hy := stable_reachable.access h.reachable hp hc
    have hrefl := Extends.refl (fun _ => True) x.document
    obtain ⟨hnew, hext⟩ := hrefl.placeNode hv hp
    obtain ⟨⟨m, e⟩, ha, hr⟩ := Option.map_eq_some_iff.1 hp
    cases hr
    have hlive := contains_of_addNode hv ha
    refine h.of_new hy (hext.connect trivial) hnew ?_ (List.sublist_append_left x.stack [n]) rfl
    exact ((Extends.refl (fun _ => True) e).connect (c := c) trivial).contains_node hlive
  define {x y g kind name id} h hp := by
    have hy := stable_reachable.define h.reachable hp
    have hext := (Extends.refl (fun _ => True) x.document).definePort h.reachable.valid hp
    obtain ⟨⟨i, e⟩, ha, hr⟩ := Option.map_eq_some_iff.1 hp
    cases hr
    exact h.of_created hy hext rfl (by simp [record, Journal.created])
  declare {x} scope g name type h := by
    have hy := stable_reachable.declare scope g name type h.reachable
    have hext := (Extends.refl (fun _ => True) x.document).declareVariable scope g name type
    refine h.of_created hy hext ?_ ?_
    · rw [declareVariable]
      split <;> rfl
    · rw [declareVariable]
      split
      · simp [record, Journal.created]
      · rfl
  fill {x} n key v h := by
    have hy := stable_reachable.fill n key v h.reachable
    have hext := (Extends.refl (fun _ => True) x.document).fill n key v
    refine h.of_created hy hext ?_ ?_
    · rw [setDefault]
      split <;> rfl
    · rw [setDefault]
      split
      · simp [record, Journal.created]
      · rfl
  select {x} n h := by
    have hext := (Extends.refl (fun _ => True) x.document).setSelection n.toList
    exact h.of_created (stable_reachable.select n h.reachable) hext rfl rfl
  pop h := ⟨h.reachable, (List.dropLast_sublist _).trans h.stack, h.once, h.live⟩
  tell _ h := ⟨h.reachable, h.stack, h.once, h.live⟩

end Draft

end GraphDraft

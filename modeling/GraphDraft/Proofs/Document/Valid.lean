import GraphDraft.Proofs.Document.Views

/-!
# Valid documents

`Valid d` is the invariant of documents. Its parts are stated on the views: `Tree` (each node stands
in the one graph that lists it, each body belongs to the node that owns it), `Wired` (an edge joins
two nodes of its graph at keys that they have), `Composed` (a composite has the ports that its body
defines) and `Identified` (no two definitions share an identity). Besides, every identity in use is
below the counters, names are declared once, and the selection holds live nodes once.

This module shows that the empty document is valid (`valid_empty`) and that the operations that
neither add nor remove nodes or definitions keep a document valid.
-/

namespace GraphDraft.Document

/-- Nodes and graphs form one tree. A body comes later than the graph in which its owner stands,
so that no graph is inside itself. -/
structure Tree (place : NodeId → Option (GraphId × Option GraphId))
    (listing : GraphId → Option (Option NodeId × List NodeId)) : Prop where
  root : ∃ ns, listing .root = some (none, ns)
  eq_root : ∀ ⦃g ns⦄, listing g = some (none, ns) → g = .root
  home : ∀ ⦃n g b⦄, place n = some (g, b) → ∃ o ns, listing g = some (o, ns) ∧ n ∈ ns
  listed : ∀ ⦃g o ns n⦄, listing g = some (o, ns) → n ∈ ns → ∃ b, place n = some (g, b)
  once : ∀ ⦃g o ns⦄, listing g = some (o, ns) → ns.Nodup
  body : ∀ ⦃n g b⦄, place n = some (g, some b) →
    g.index < b.index ∧ ∃ ns, listing b = some (some n, ns)
  owner : ∀ ⦃g n ns⦄, listing g = some (some n, ns) → ∃ h, place n = some (h, some g)

/-- An edge joins two nodes of a graph, at keys that are among theirs. -/
structure Joins (place : NodeId → Option (GraphId × Option GraphId))
    (keys : NodeId → Option (List String × List String)) (g : GraphId) (e : Edge) : Prop where
  ne : e.source ≠ e.target
  source : ∃ b, place e.source = some (g, b)
  target : ∃ b, place e.target = some (g, b)
  output : ∃ is os, keys e.source = some (is, os) ∧ e.output ∈ os
  input : ∃ is os, keys e.target = some (is, os) ∧ e.input ∈ is

/-- Every edge joins two nodes of its graph. -/
def Wired (place : NodeId → Option (GraphId × Option GraphId))
    (keys : NodeId → Option (List String × List String))
    (edges : GraphId → Option (List Edge)) : Prop :=
  ∀ ⦃g es⦄, edges g = some es → ∀ e ∈ es, Joins place keys g e

/-- The ports of a composite are those that its body defines. -/
def Composed (place : NodeId → Option (GraphId × Option GraphId)) (ports : NodeId → Option Ports)
    (definitions : GraphId → Option (List PortDefinition)) : Prop :=
  ∀ ⦃n g b p ds⦄, place n = some (g, some b) → ports n = some p → definitions b = some ds →
    p = .ofDefinitions ds

/-- No two definitions of a document have the same identity. -/
structure Identified (definitions : GraphId → Option (List PortDefinition)) : Prop where
  nodup : ∀ ⦃g ds⦄, definitions g = some ds → (ds.map (·.id)).Nodup
  apart : ∀ ⦃g h ds es p q⦄, definitions g = some ds → definitions h = some es → p ∈ ds → q ∈ es →
    p.id = q.id → g = h

/-- The invariant of documents (module doc). -/
structure Valid (d : Document) : Prop where
  tree : Tree d.place? d.listing?
  wired : Wired d.place? d.keys? d.edges?
  composed : Composed d.place? d.ports? d.definitions?
  identified : Identified d.definitions?
  node_lt : ∀ ⦃n g b⦄, d.place? n = some (g, b) → n.index < d.nextNode
  graph_lt : ∀ ⦃g o ns⦄, d.listing? g = some (o, ns) → g.index < d.nextGraph
  definition_lt : ∀ ⦃g ds p⦄, d.definitions? g = some ds → p ∈ ds → p.id.index < d.nextDefinition
  graphVariables : ∀ ⦃g vs⦄, d.variables? g = some vs → vs.Distinct
  objectVariables : d.objectVariables.Distinct
  sceneVariables : d.sceneVariables.Distinct
  applicationVariables : d.applicationVariables.Distinct
  savedVariables : d.savedVariables.Distinct
  selection_nodup : d.selection.Nodup
  selected : ∀ n ∈ d.selection, ∃ g b, d.place? n = some (g, b)
  nodes : d.nodes.Distinct
  graphs : d.graphs.Distinct

variable {d : Document}

/-! ## The empty document -/

theorem graph?_empty (title : String) (g : GraphId) :
    (empty title).graph? g = if g = .root then some { title } else none := by
  simp only [graph?, empty, Store.get?_put]
  rfl

theorem valid_empty (title : String) : (empty title).Valid where
  tree := by
    have hp : ∀ n, (empty title).place? n = none := fun _ => rfl
    have hl : ∀ g, (empty title).listing? g = if g = .root then some (none, []) else none := by
      intro g
      rw [listing?, graph?_empty]
      split <;> rfl
    refine ⟨⟨[], by rw [hl, if_pos rfl]⟩, ?_, ?_, ?_, ?_, ?_, ?_⟩ <;> intros <;> simp_all
  wired := by
    intro g es h e hm
    rw [edges?, graph?_empty] at h
    split at h
    · cases h; simp at hm
    · simp at h
  composed := by intro n g b p ds h; simp [place?, node?, empty, Store.get?] at h
  identified := by
    have he : ∀ g ds, (empty title).definitions? g = some ds → ds = [] := by
      intro g es h
      rw [definitions?, graph?_empty] at h
      split at h <;> simp_all
    refine ⟨fun g ds h => by simp [he g ds h], fun g _ ds _ _ _ h _ hm => ?_⟩
    rw [he g ds h] at hm
    simp at hm
  node_lt n g b h := by simp [place?, node?, empty, Store.get?] at h
  graph_lt g o ns h := by
    rw [listing?, graph?_empty] at h
    split at h
    · subst g; exact Nat.zero_lt_one
    · simp at h
  definition_lt g ds p h hm := by
    rw [definitions?, graph?_empty] at h
    split at h
    · cases h; simp at hm
    · simp at h
  graphVariables g vs h := by
    rw [variables?, graph?_empty] at h
    split at h
    · cases h; exact .empty
    · simp at h
  objectVariables := .empty
  sceneVariables := .empty
  applicationVariables := .empty
  savedVariables := .empty
  selection_nodup := List.nodup_nil
  selected := by simp [empty]
  nodes := .empty
  graphs := .put .empty ..

/-! ## Selection, pointer and revision -/

theorem Valid.touch (h : d.Valid) : d.touch.Valid := { h with }

theorem Valid.setPointer (h : d.Valid) (p : Point) : (d.setPointer p).Valid := { h with }

theorem Valid.withSelection (h : d.Valid) {ns : List NodeId} (hn : ns.Nodup)
    (hl : ∀ n ∈ ns, ∃ g b, d.place? n = some (g, b)) : Valid { d with selection := ns } :=
  { h with selection_nodup := hn, selected := hl }

theorem keepLive_of_new {kept : List NodeId} {n : NodeId} (hn : d.nodes.contains n = true)
    (hk : n ∉ kept) : d.keepLive kept n = kept ++ [n] := by
  simp [keepLive, hn, hk]

theorem keepLive_cases (d : Document) (kept : List NodeId) (n : NodeId) :
    d.keepLive kept n = kept ∨
      d.nodes.contains n = true ∧ n ∉ kept ∧ d.keepLive kept n = kept ++ [n] := by
  by_cases h : d.nodes.contains n = true ∧ n ∉ kept
  · exact .inr ⟨h.1, h.2, keepLive_of_new h.1 h.2⟩
  · left
    rw [keepLive, if_neg]
    simpa using h

theorem nodup_append_new {kept : List NodeId} {n : NodeId} (hk : kept.Nodup) (hn : n ∉ kept) :
    (kept ++ [n]).Nodup :=
  List.nodup_append.2 ⟨hk, List.nodup_singleton n, fun _ hm _ hk he =>
    hn (List.mem_singleton.1 hk ▸ he ▸ hm)⟩

/-- What is kept has no repeats, and what is added is live. -/
theorem foldl_keepLive (d : Document) : ∀ (ns kept : List NodeId), kept.Nodup →
    (ns.foldl d.keepLive kept).Nodup ∧
      ∀ n ∈ ns.foldl d.keepLive kept, n ∈ kept ∨ d.nodes.contains n = true
  | [], _, hk => ⟨hk, fun _ hn => .inl hn⟩
  | m :: ns, kept, hk => by
    rw [List.foldl_cons]
    rcases keepLive_cases d kept m with h | ⟨hm, hnew, h⟩ <;> rw [h]
    · exact foldl_keepLive d ns kept hk
    · obtain ⟨hnd, hl⟩ := foldl_keepLive d ns _ (nodup_append_new hk hnew)
      refine ⟨hnd, fun n hn => ?_⟩
      rcases hl n hn with hn | hn
      · rcases List.mem_append.1 hn with hn | hn
        · exact .inl hn
        · exact .inr (List.mem_singleton.1 hn ▸ hm)
      · exact .inr hn

theorem liveOnce_nodup (d : Document) (ns : List NodeId) : (d.liveOnce ns).Nodup :=
  (foldl_keepLive d ns [] List.nodup_nil).1

theorem contains_of_mem_liveOnce {ns : List NodeId} {n : NodeId} (h : n ∈ d.liveOnce ns) :
    d.nodes.contains n = true := by
  rcases (foldl_keepLive d ns [] List.nodup_nil).2 n h with h | h
  · simp at h
  · exact h

/-- Nothing is left out of live nodes without repeats. -/
theorem foldl_keepLive_of_live : ∀ (ns kept : List NodeId), (kept ++ ns).Nodup →
    (∀ n ∈ ns, d.nodes.contains n = true) → ns.foldl d.keepLive kept = kept ++ ns
  | [], kept, _, _ => by simp
  | n :: ns, kept, hk, hl => by
    have hn : n ∉ kept := fun hm => (List.nodup_append.1 hk).2.2 n hm n (by simp) rfl
    rw [List.foldl_cons, keepLive_of_new (hl n (by simp)) hn, foldl_keepLive_of_live ns _
      (by simpa using hk) fun m hm => hl m (List.mem_cons_of_mem _ hm)]
    simp

theorem liveOnce_eq_self {ns : List NodeId} (hn : ns.Nodup)
    (hl : ∀ n ∈ ns, d.nodes.contains n = true) : d.liveOnce ns = ns :=
  foldl_keepLive_of_live ns [] (by simpa using hn) hl

theorem Valid.setSelection (h : d.Valid) (ns : List NodeId) : (d.setSelection ns).Valid :=
  (h.withSelection (liveOnce_nodup d ns) fun _ hn =>
    contains_node_iff.1 (contains_of_mem_liveOnce hn)).touch

theorem Valid.extendSelection (h : d.Valid) (n : NodeId) : (d.extendSelection n).Valid := by
  rw [Document.extendSelection]
  split
  · rename_i hn
    simp only [canExtendSelection, Bool.and_eq_true, Bool.not_eq_true', List.contains_eq_mem,
      decide_eq_false_iff_not] at hn
    refine (h.withSelection ?_ fun m hm => ?_).touch
    · exact nodup_append_new h.selection_nodup hn.2
    · rcases List.mem_append.1 hm with hm | hm
      · exact h.selected m hm
      · exact List.mem_singleton.1 hm ▸ contains_node_iff.1 hn.1
  · exact h

end GraphDraft.Document

import GraphDraft.Proofs.Document.Undo
import Mathlib.Data.List.Induction

/-!
# Rolling back around an edge

An edge that a journal does not note is in nobody's way when the journal is rolled back. It goes
away with an end of it or with a key that it uses; otherwise it stays, behind the other edges of its
graph. Which of the two happens depends on what rolling back gives without the edge: the edge stays
if that document `hosts` it (`rollback_withEdge`).
-/

namespace GraphDraft

namespace Document

/-- Whether both ends of an edge are there, with the keys that it uses. -/
def hosts (d : Document) (c : Edge) : Bool :=
  (d.keys? c.source).any (·.2.contains c.output) && (d.keys? c.target).any (·.1.contains c.input)

/-- The document with one more edge in a graph. -/
def withEdge (d : Document) (g : GraphId) (c : Edge) : Document :=
  d.mapEdges g (· ++ [c])

/-- The document with one more edge in a graph, if it hosts the edge. -/
def offerEdge (d : Document) (g : GraphId) (c : Edge) : Document :=
  if d.hosts c then d.withEdge g c else d

variable {d e : Document} {c : Edge} {g : GraphId}

theorem hosts_iff : d.hosts c = true ↔
    (∃ is os, d.keys? c.source = some (is, os) ∧ c.output ∈ os) ∧
      ∃ is os, d.keys? c.target = some (is, os) ∧ c.input ∈ is := by
  simp [hosts, Option.any_eq_true]

theorem Joins.hosts (h : Joins d.place? d.keys? g c) : d.hosts c = true :=
  hosts_iff.2 ⟨h.output, h.input⟩

theorem hosts_congr (h : e.keys? = d.keys?) : e.hosts c = d.hosts c := by
  rw [Document.hosts, Document.hosts, h]

theorem Same.keys? (h : e.Same d) : e.keys? = d.keys? := by
  funext n
  rw [Document.keys?, (views_of_nodes h.nodes).2, Document.keys?]

theorem Valid.withEdge (h : d.Valid) (hc : Joins d.place? d.keys? g c) :
    (d.withEdge g c).Valid := by
  refine h.mapEdges fun es hes b hb => ?_
  rcases List.mem_append.1 hb with hb | hb
  · exact h.wired hes b hb
  · exact List.mem_singleton.1 hb ▸ hc

theorem Same.offerEdge (h : d.Same e) (g : GraphId) (c : Edge) :
    (d.offerEdge g c).Same (e.offerEdge g c) := by
  rw [Document.offerEdge, Document.offerEdge, hosts_congr h.keys?]
  split
  · exact h.mapEdges g _
  · exact h

/-! ## What undoing takes away -/

/-- The document `e` has no other nodes than `d`, at the same places, and no other keys. -/
structure Shrinks (d e : Document) : Prop where
  place : ∀ n y, e.place? n = some y → d.place? n = some y
  keys : ∀ n is os, e.keys? n = some (is, os) →
    ∃ is' os', d.keys? n = some (is', os') ∧ (∀ key ∈ is, key ∈ is') ∧ ∀ key ∈ os, key ∈ os'

theorem Shrinks.of_eq (hplace : e.place? = d.place?) (hkeys : e.keys? = d.keys?) :
    d.Shrinks e where
  place _ _ hn := hplace ▸ hn
  keys _ is os hn := ⟨is, os, hkeys ▸ hn, fun _ => id, fun _ => id⟩

theorem Shrinks.hosts (h : d.Shrinks e) (hc : e.hosts c = true) : d.hosts c = true := by
  obtain ⟨⟨is, os, hs, ho⟩, is', os', ht, hi⟩ := hosts_iff.1 hc
  obtain ⟨js, ps, hjs, -, hps⟩ := h.keys _ _ _ hs
  obtain ⟨js', ps', hjs', hi', -⟩ := h.keys _ _ _ ht
  exact hosts_iff.2 ⟨⟨js, ps, hjs, hps _ ho⟩, js', ps', hjs', hi' _ hi⟩

/-- A node with keys is at a place. -/
theorem place?_of_keys? {n : NodeId} {k : List String × List String} (h : d.keys? n = some k) :
    ∃ x, d.place? n = some x := by
  obtain ⟨p, hp, -⟩ := Option.map_eq_some_iff.1 h
  obtain ⟨x, hx, -⟩ := Option.map_eq_some_iff.1 hp
  exact ⟨_, place?_of_node? hx⟩

/-- An edge that is hosted still joins what it joined. -/
theorem Shrinks.joins (h : d.Shrinks e) (hj : Joins d.place? d.keys? g c)
    (hc : e.hosts c = true) : Joins e.place? e.keys? g c := by
  have hend : ∀ {n k}, (∃ b, d.place? n = some (g, b)) → e.keys? n = some k →
      ∃ b, e.place? n = some (g, b) := by
    rintro n k ⟨b, hb⟩ hk
    obtain ⟨x, hx⟩ := place?_of_keys? hk
    cases hb.symm.trans (h.place n x hx)
    exact ⟨b, hx⟩
  obtain ⟨⟨is, os, hs, ho⟩, is', os', ht, hi⟩ := hosts_iff.1 hc
  exact
    { ne := hj.ne
      source := hend hj.source hs
      target := hend hj.target ht
      output := ⟨is, os, hs, ho⟩
      input := ⟨is', os', ht, hi⟩ }

/-! ## Undoing one change -/

theorem keys?_mapPorts_const (d : Document) (n m : NodeId) (p : Ports) :
    (d.mapPorts n fun _ => p).keys? m =
      if m = n then (d.keys? m).map fun _ => (p.inputKeys, p.outputKeys) else d.keys? m := by
  rw [keys?, ports?_mapPorts, keys?]
  split
  · rw [Option.map_map, Option.map_map]
    rfl
  · rfl

/-- After a change of definitions an edge is hosted if it fits the new ports. -/
theorem Joins.hosts_mapPorts (hj : Joins d.place? d.keys? g c) (n : NodeId) (p : Ports) :
    (d.mapPorts n fun _ => p).hosts c = c.fits n p := by
  obtain ⟨is, os, hs, ho⟩ := hj.output
  obtain ⟨is', os', ht, hi⟩ := hj.input
  rw [Document.hosts, keys?_mapPorts_const, keys?_mapPorts_const, hs, ht, Edge.fits, Bool.and_comm]
  by_cases hsn : c.source = n <;> by_cases htn : c.target = n <;> simp [hsn, htn, ho, hi]

theorem shrinks_editDefinitions (h : d.Valid) (k : GraphId)
    {f : List PortDefinition → List PortDefinition} (hf : ∀ ds, f ds ⊆ ds) :
    d.Shrinks (d.editDefinitions k f) := by
  by_cases ho : ∃ n ns, d.listing? k = some (some n, ns)
  · obtain ⟨n, ns, hl⟩ := ho
    obtain ⟨l, x, ds, hn, hx, hds, hports⟩ := h.exists_owner hl
    rw [editDefinitions_of_owner hl hn hds]
    refine ⟨fun m y hm => by simpa using hm, fun m is os hm => ?_⟩
    have hm' : (d.mapPorts n fun _ => .ofDefinitions (f ds)).keys? m = some (is, os) := hm
    rw [keys?_mapPorts_const] at hm'
    split at hm'
    · subst m
      have hkeys : d.keys? n = some (x.ports.inputKeys, x.ports.outputKeys) := by
        rw [keys?, ports?_of_node? hx]
        rfl
      rw [hkeys] at hm'
      cases hm'
      obtain ⟨hin, hout⟩ := keys_subset_of_subset (hf ds)
      exact ⟨_, _, hkeys, hports ▸ hin, hports ▸ hout⟩
    · exact ⟨is, os, hm', fun _ => id, fun _ => id⟩
  · rw [editDefinitions_of_unowned fun n ns hl => ho ⟨n, ns, hl⟩]
    exact .of_eq (by simp) rfl

theorem shrinks_revert (h : d.Valid) (k : Change) : d.Shrinks (k.revert d) := by
  cases k with
  | nodeCreated n =>
    obtain ⟨r, hr⟩ := removeNode_eq h n
    rw [Change.revert, hr]
    refine ⟨fun m y hm => ((place?_removing_eq_some (h.revised r)).1 hm).2, fun m is os hm => ?_⟩
    rw [keys?_removing (h.revised r)] at hm
    split at hm
    · cases hm
    · exact ⟨is, os, hm, fun _ => id, fun _ => id⟩
  | portDefined k id =>
    rw [Change.revert, removeDefinition]
    split
    · exact shrinks_editDefinitions h k fun _ => List.filter_sublist.subset
    · exact .of_eq rfl rfl
  | variableDeclared scope k name wasDefined =>
    rw [Change.revert]
    split
    · exact .of_eq rfl rfl
    · cases scope <;> exact .of_eq rfl rfl
  | defaultSet n key previous =>
    rw [Change.revert, setDefault]
    split
    · exact .of_eq (by simp) (keys?_mapPorts_fill d n key previous)
    · exact .of_eq rfl rfl
  | edgeConnected b =>
    rw [Change.revert, disconnect]
    split
    · split <;> exact .of_eq rfl rfl
    · exact .of_eq rfl rfl

section
variable (k : GraphId)

theorem withEdge_mapEdges {f : List Edge → List Edge} (hf : ∀ es, f (es ++ [c]) = f es ++ [c]) :
    (d.withEdge g c).mapEdges k f = (d.mapEdges k f).withEdge g c := by
  have hgraphs : (d.graphs.modify g fun x => { x with edges := x.edges ++ [c] }).modify k
        (fun x => { x with edges := f x.edges }) =
      (d.graphs.modify k fun x => { x with edges := f x.edges }).modify g
        fun x => { x with edges := x.edges ++ [c] } :=
    Store.modify_comm _ _ _ fun x => by simp only [hf]
  exact congrArg (fun gs => { d with graphs := gs }) hgraphs

theorem withEdge_mapDefinitions (f : List PortDefinition → List PortDefinition) :
    (d.withEdge g c).mapDefinitions k f = (d.mapDefinitions k f).withEdge g c := by
  have hgraphs : (d.graphs.modify g fun x => { x with edges := x.edges ++ [c] }).modify k
        (fun x => { x with definitions := f x.definitions }) =
      (d.graphs.modify k fun x => { x with definitions := f x.definitions }).modify g
        fun x => { x with edges := x.edges ++ [c] } :=
    Store.modify_comm _ _ _ fun _ => rfl
  exact congrArg (fun gs => { d with graphs := gs }) hgraphs

theorem withEdge_mapDeclarations (f : Declarations → Declarations) :
    (d.withEdge g c).mapDeclarations k f = (d.mapDeclarations k f).withEdge g c := by
  have hgraphs : (d.graphs.modify g fun x => { x with edges := x.edges ++ [c] }).modify k
        (fun x => { x with declarations := f x.declarations }) =
      (d.graphs.modify k fun x => { x with declarations := f x.declarations }).modify g
        fun x => { x with edges := x.edges ++ [c] } :=
    Store.modify_comm _ _ _ fun _ => rfl
  exact congrArg (fun gs => { d with graphs := gs }) hgraphs

theorem mapEdges_mapEdges (f f' : List Edge → List Edge) :
    (d.mapEdges g f).mapEdges g f' = d.mapEdges g (f' ∘ f) := by
  have hgraphs : (d.graphs.modify g fun x => { x with edges := f x.edges }).modify g
        (fun x => { x with edges := f' x.edges }) =
      d.graphs.modify g fun x => { x with edges := (f' ∘ f) x.edges } :=
    Store.modify_modify ..
  exact congrArg (fun gs => { d with graphs := gs }) hgraphs

end

theorem disconnect_withEdge {b : Edge} (hbc : b ≠ c) :
    ((d.withEdge g c).disconnect b).Same ((d.disconnect b).withEdge g c) := by
  have hnode : (d.withEdge g c).node? = d.node? := rfl
  have hhas : (d.withEdge g c).hasEdge b = d.hasEdge b := by
    rw [hasEdge, edgesAround, hnode, hasEdge, edgesAround]
    cases hs : d.node? b.source with
    | none => rfl
    | some s =>
      have hedges := edges?_mapEdges d g s.graph (· ++ [c])
      simp only [edges?] at hedges
      simp only [Option.bind_some, withEdge, hedges]
      split
      · cases d.graph? s.graph <;> simp [hbc]
      · rfl
  have herase : ∀ es : List Edge, (es ++ [c]).erase b = es.erase b ++ [c] := by
    intro es
    rw [List.erase_append]
    split
    · rfl
    · rename_i hb
      rw [List.erase_of_not_mem hb, List.erase_of_not_mem (by simpa using hbc)]
  rw [disconnect, disconnect, hnode, hhas]
  split
  · split
    · rw [withEdge_mapEdges _ herase]
      exact { Same.refl _ with }
    · exact .refl _
  · exact .refl _

theorem editDefinitions_withEdge (h : d.Valid) (hj : Joins d.place? d.keys? g c) (k : GraphId)
    (f : List PortDefinition → List PortDefinition) :
    ((d.withEdge g c).editDefinitions k f).Same ((d.editDefinitions k f).offerEdge g c) := by
  by_cases ho : ∃ n ns, d.listing? k = some (some n, ns)
  · obtain ⟨n, ns, hl⟩ := ho
    obtain ⟨l, hn⟩ := h.tree.owner hl
    obtain ⟨y, hy, -⟩ := graph?_of_listing? hl
    have hds := definitions?_of_graph? hy
    have hl' : (d.withEdge g c).listing? k = some (some n, ns) := by simpa [withEdge] using hl
    have hds' : (d.withEdge g c).definitions? k = some y.definitions := by
      simpa [withEdge] using hds
    rw [editDefinitions_of_owner hl hn hds, editDefinitions_of_owner hl' hn hds',
      withEdge_mapDefinitions]
    set p : Ports := .ofDefinitions (f y.definitions)
    set e := (d.mapDefinitions k f).mapPorts n fun _ => p
    have hports : ((d.mapDefinitions k f).withEdge g c).mapPorts n (fun _ => p) = e.withEdge g c :=
      rfl
    have hhosts : (e.mapEdges l (·.filter (·.fits n p))).touch.hosts c = c.fits n p :=
      hj.hosts_mapPorts n p
    rw [hports, offerEdge, hhosts]
    split
    · rename_i hfit
      rw [withEdge_mapEdges l (by simp [List.filter_append, hfit])]
      exact { Same.refl _ with }
    · -- an edge that does not fit stands in the graph of the owner, where it is dropped again
      rename_i hfit
      have hgl : g = l := by
        by_contra hne
        exact hfit (hj.fits_of_ne hn hne)
      have hdrop : (fun es : List Edge => es.filter (·.fits n p)) ∘ (· ++ [c]) =
          fun es => es.filter (·.fits n p) := by
        funext es
        simp [List.filter_append, hfit]
      rw [withEdge, hgl, mapEdges_mapEdges, hdrop]
      exact .refl _
  · have ho' : ∀ n ns, d.listing? k ≠ some (some n, ns) := fun n ns hl => ho ⟨n, ns, hl⟩
    have hl' : ∀ n ns, (d.withEdge g c).listing? k ≠ some (some n, ns) := by
      simpa [withEdge] using ho'
    rw [editDefinitions_of_unowned ho', editDefinitions_of_unowned hl', withEdge_mapDefinitions,
      offerEdge, if_pos]
    · exact { Same.refl _ with }
    · exact hj.hosts

theorem removing_withEdge (h : d.Valid) (hj : Joins d.place? d.keys? g c) (p : NodeId → Bool) :
    ((d.withEdge g c).removing p p).Same ((d.removing p p).offerEdge g c) := by
  obtain ⟨is, os, hs, ho⟩ := hj.output
  obtain ⟨is', os', ht, hi⟩ := hj.input
  have hhosts : (d.removing p p).hosts c = (!p c.source && !p c.target) := by
    rw [Document.hosts, keys?_removing h, keys?_removing h, hs, ht]
    cases p c.source <;> cases p c.target <;> simp [ho, hi]
  have hgraphs : ((d.withEdge g c).removing p p).graphs =
      ((d.removing p p).mapEdges g
        (· ++ [c].filter fun b => !p b.source && !p b.target)).graphs := by
    simp only [removing, withEdge, mapEdges, Store.modify_eq_filterMap, Store.filterMap_filterMap]
    refine Store.filterMap_congr h.graphs fun k x _ => ?_
    by_cases hk : k = g <;> by_cases hx : x.owner.any p <;>
      simp [hk, hx, Graph.without, List.filter_append]
  rw [List.filter_singleton] at hgraphs
  rw [offerEdge, hhosts]
  split
  · rename_i hp
    rw [hp, cond_true] at hgraphs
    exact { Same.refl _ with graphs := hgraphs }
  · rename_i hp
    rw [Bool.eq_false_iff.2 hp, cond_false,
      mapEdges_eq_self (h.graphs.filterMap _) fun es _ => List.append_nil es] at hgraphs
    exact { Same.refl _ with graphs := hgraphs }

theorem removeNode_withEdge (h : d.Valid) (hj : Joins d.place? d.keys? g c) (n : NodeId) :
    ((d.withEdge g c).removeNode n).Same ((d.removeNode n).offerEdge g c) := by
  obtain ⟨r, hr⟩ := removeNode_eq h n
  obtain ⟨s, hs⟩ := removeNode_eq (h.withEdge hj) n
  have hin : (d.withEdge g c).inside n = d.inside n := rfl
  rw [hr, hs, hin]
  exact ((Same.revised _ s).removing _ _).trans ((removing_withEdge h hj _).trans
    (((Same.revised d r).symm.removing _ _).offerEdge g c))

/-- An edge that is not the one to be undone stays if it is hosted afterwards. -/
theorem revert_withEdge (h : d.Valid) (hj : Joins d.place? d.keys? g c) {k : Change}
    (hk : k ≠ .edgeConnected c) :
    (k.revert (d.withEdge g c)).Same ((k.revert d).offerEdge g c) := by
  have hkeep : ∀ {e f : Document}, e.keys? = d.keys? → f.Same (e.withEdge g c) →
      f.Same (e.offerEdge g c) := by
    intro e f he hf
    rwa [offerEdge, if_pos ((hosts_congr he).trans hj.hosts)]
  cases k with
  | nodeCreated n => exact removeNode_withEdge h hj n
  | portDefined k id =>
    have hhas : (d.withEdge g c).hasDefinition k id = d.hasDefinition k id := by
      have hdefs : (d.withEdge g c).definitions? = d.definitions? := by simp [withEdge]
      rw [Bool.eq_iff_iff, hasDefinition_iff, hasDefinition_iff, hdefs]
    rw [Change.revert, Change.revert, removeDefinition, removeDefinition, hhas]
    split
    · exact editDefinitions_withEdge h hj k _
    · exact hkeep rfl (.refl _)
  | variableDeclared scope k name wasDefined =>
    rw [Change.revert, Change.revert]
    split
    · exact hkeep rfl (.refl _)
    · cases scope with
      | graph =>
        refine hkeep rfl ?_
        rw [modifyVariables, withEdge_mapDeclarations]
        exact { Same.refl _ with }
      | _ => exact hkeep rfl { Same.refl _ with }
  | defaultSet n key previous =>
    have hheld : (d.withEdge g c).heldValue? n key = d.heldValue? n key := rfl
    rw [Change.revert, Change.revert, setDefault, setDefault, hheld]
    split
    · exact hkeep (keys?_mapPorts_fill d n key previous) { Same.refl _ with }
    · exact hkeep rfl (.refl _)
  | edgeConnected b =>
    have hbc : b ≠ c := fun he => hk (congrArg Change.edgeConnected he)
    refine hkeep ?_ (disconnect_withEdge hbc)
    rw [Change.revert, disconnect]
    split
    · split <;> rfl
    · rfl

/-! ## Rolling back -/

theorem joins_rollback (h : d.Valid) (hj : Joins d.place? d.keys? g c) (j : Journal)
    (hc : (j.rollback d).hosts c = true) :
    Joins (j.rollback d).place? (j.rollback d).keys? g c := by
  induction j with
  | nil => exact hj
  | cons k j ih =>
    have hs := shrinks_revert (h.rollback j) k
    exact hs.joins (ih (hs.hosts hc)) hc

/-- An edge that is not noted stays if it is hosted afterwards. -/
theorem rollback_withEdge (h : d.Valid) (hj : Joins d.place? d.keys? g c) {j : Journal}
    (hc : .edgeConnected c ∉ j) :
    (j.rollback (d.withEdge g c)).Same ((j.rollback d).offerEdge g c) := by
  induction j with
  | nil =>
    rw [Journal.rollback_nil, Journal.rollback_nil, offerEdge, if_pos hj.hosts]
    exact .refl _
  | cons k j ih =>
    rw [List.mem_cons, not_or] at hc
    have hv := h.rollback j
    have hw := (h.withEdge hj).rollback j
    have hrest := ih hc.2
    cases hh : (Journal.rollback j d).hosts c with
    | true =>
      have hj' := joins_rollback h hj j hh
      rw [offerEdge, hh, if_pos rfl] at hrest
      exact (hrest.revert hw (hv.withEdge hj') k).trans (revert_withEdge hv hj' (Ne.symm hc.1))
    | false =>
      have hgone : (k.revert (Journal.rollback j d)).hosts c = false := by
        rw [← Bool.not_eq_true] at hh ⊢
        exact fun hc => hh ((shrinks_revert hv k).hosts hc)
      rw [offerEdge, hh, if_neg Bool.false_ne_true] at hrest
      show (k.revert (Journal.rollback j (d.withEdge g c))).Same
        ((k.revert (Journal.rollback j d)).offerEdge g c)
      rw [offerEdge, hgone, if_neg Bool.false_ne_true]
      exact hrest.revert hw hv k

/-! ## Several edges -/

/-- The document with some edges added in order. -/
def addEdges (d : Document) (cs : List Edge) : Document :=
  cs.foldl addEdge d

theorem addEdge_eq_withEdge {s : Node} (hs : d.node? c.source = some s) :
    d.addEdge c = (d.withEdge s.graph c).touch := by
  rw [addEdge, hs, withEdge]

theorem nodes_addEdge (d : Document) (c : Edge) : (d.addEdge c).nodes = d.nodes := by
  rw [addEdge]
  split <;> rfl

theorem addEdges_concat (d : Document) (cs : List Edge) (c : Edge) :
    d.addEdges (cs ++ [c]) = (d.addEdges cs).addEdge c :=
  List.foldl_concat ..

theorem nodes_addEdges (d : Document) (cs : List Edge) : (d.addEdges cs).nodes = d.nodes := by
  induction cs using List.reverseRecOn with
  | nil => rfl
  | append_singleton cs c ih => rw [addEdges_concat, nodes_addEdge, ih]

/-- Every edge goes to the end of the graph of its source. -/
theorem edges?_addEdges (d : Document) (cs : List Edge) (g : GraphId) :
    (d.addEdges cs).edges? g = (d.edges? g).map
      (· ++ cs.filter fun c => (d.node? c.source).any (·.graph = g)) := by
  induction cs using List.reverseRecOn with
  | nil => simp [addEdges]
  | append_singleton cs c ih =>
    have hnode : (d.addEdges cs).node? c.source = d.node? c.source := by
      rw [node?, nodes_addEdges, node?]
    rw [addEdges_concat, List.filter_append]
    cases hs : d.node? c.source with
    | none => rw [addEdge, hnode, hs, ih]; simp [hs]
    | some s =>
      rw [addEdge_eq_withEdge (hnode.trans hs), edges?_touch, withEdge, edges?_mapEdges, ih]
      by_cases hg : g = s.graph
      · cases d.edges? g <;> simp [hs, hg]
      · simp [hs, hg, Ne.symm hg]

/-- Edges that are hosted leave a trace. -/
theorem same_addEdges_iff (h : d.Valid) {cs : List Edge} (hcs : ∀ c ∈ cs, d.hosts c = true) :
    (d.addEdges cs).Same d ↔ cs = [] := by
  constructor
  · intro hsame
    refine List.eq_nil_iff_forall_not_mem.2 fun c hc => ?_
    obtain ⟨⟨is, os, hk, -⟩, -⟩ := hosts_iff.1 (hcs c hc)
    obtain ⟨x, hx⟩ := place?_of_keys? hk
    obtain ⟨s, hs, hg, -⟩ := node?_of_place? (g := x.1) (b := x.2) hx
    obtain ⟨o, ns, hl, -⟩ := h.tree.home (g := x.1) (b := x.2) hx
    obtain ⟨y, hy, -⟩ := graph?_of_listing? hl
    have hedges := edges?_addEdges d cs x.1
    rw [edges?, hsame.graph?, ← edges?, edges?_of_graph? hy] at hedges
    have hnone : cs.filter (fun c => (d.node? c.source).any (·.graph = x.1)) = [] := by
      simpa using hedges
    exact List.filter_eq_nil_iff.1 hnone c hc (by simp [hs, hg])
  · rintro rfl
    exact .refl d

end Document

end GraphDraft

import GraphDraft.Proofs.Document.Definitions

/-!
# Adding a node

`addNode_eq` says all at once what adding a node to a valid document gives (`grown`): the node is
new, and so are its body and the definitions of the body. The result is valid
(`Valid.addNode`).
-/

namespace GraphDraft.Document

variable {d : Document}

/-! ## New identities -/

theorem le_of_mem_definitionsFrom : ∀ {k : Nat} {ps : List PortPlan} {p : PortDefinition},
    p ∈ definitionsFrom k ps → k ≤ p.id.index ∧ p.id.index < k + ps.length
  | k, q :: ps, p, h => by
    rw [definitionsFrom] at h
    rcases List.mem_cons.1 h with rfl | h
    · exact ⟨Nat.le_refl k, by simp [PortPlan.define]⟩
    · have := le_of_mem_definitionsFrom h
      rw [List.length_cons]
      omega

theorem nodup_definitionsFrom : ∀ (k : Nat) (ps : List PortPlan),
    ((definitionsFrom k ps).map (·.id)).Nodup
  | _, [] => List.nodup_nil
  | k, p :: ps => by
    rw [definitionsFrom, List.map_cons, List.nodup_cons]
    refine ⟨fun h => ?_, nodup_definitionsFrom (k + 1) ps⟩
    obtain ⟨q, hq, he⟩ := List.mem_map.1 h
    have := (le_of_mem_definitionsFrom hq).1
    rw [he] at this
    exact Nat.not_succ_le_self k this

theorem Valid.node?_new (h : d.Valid) : d.node? ⟨d.nextNode⟩ = none := by
  cases hn : d.node? ⟨d.nextNode⟩ with
  | none => rfl
  | some x => exact absurd (h.node_lt (place?_of_node? hn)) (Nat.lt_irrefl _)

theorem Valid.graph?_new (h : d.Valid) : d.graph? ⟨d.nextGraph⟩ = none := by
  cases hg : d.graph? ⟨d.nextGraph⟩ with
  | none => rfl
  | some x => exact absurd (h.graph_lt (listing?_of_graph? hg)) (Nat.lt_irrefl _)

theorem Valid.place?_new (h : d.Valid) : d.place? ⟨d.nextNode⟩ = none := by
  rw [place?, h.node?_new]
  rfl

theorem Valid.ports?_new (h : d.Valid) : d.ports? ⟨d.nextNode⟩ = none := by
  rw [ports?, h.node?_new]
  rfl

theorem Valid.listing?_new (h : d.Valid) : d.listing? ⟨d.nextGraph⟩ = none := by
  rw [listing?, h.graph?_new]
  rfl

theorem Valid.ne_new (h : d.Valid) {g : GraphId} (hg : d.graphs.contains g = true) :
    g ≠ ⟨d.nextGraph⟩ := by
  obtain ⟨o, ns, hl⟩ := contains_graph_iff.1 hg
  rintro rfl
  exact absurd (h.listing?_new.symm.trans hl) (by simp)

/-! ## The result -/

/-- The body of a new node. -/
def newBody (d : Document) (plan : BodyPlan) : Graph where
  title := plan.title
  owner := some ⟨d.nextNode⟩
  definitions := definitionsFrom d.nextDefinition plan.ports

/-- A new node in its place. -/
def newNode (d : Document) (g : GraphId) (b : Blueprint) (p : Point) : Node where
  graph := g
  kind := b.kind
  title := b.title
  position := p
  ports := b.body.elim b.ports fun plan => .ofDefinitions (d.newBody plan).definitions
  body := b.body.map fun _ => ⟨d.nextGraph⟩

/-- The graphs with the body of a new node. -/
def graphsWith (d : Document) (b : Blueprint) : Store GraphId Graph :=
  b.body.elim d.graphs fun plan => d.graphs.put ⟨d.nextGraph⟩ (d.newBody plan)

/-- The document with a new node. -/
def grown (d : Document) (g : GraphId) (b : Blueprint) (p : Point) : Document :=
  { d with
    nodes := d.nodes.put ⟨d.nextNode⟩ (d.newNode g b p)
    graphs := (d.graphsWith b).modify g fun x => { x with nodes := x.nodes ++ [⟨d.nextNode⟩] }
    nextNode := d.nextNode + 1
    nextGraph := d.nextGraph + b.body.elim 0 fun _ => 1
    nextDefinition := d.nextDefinition + b.body.elim 0 (·.ports.length)
    revision := d.revision + 1 }

/-- The document with a new node and its body, before the ports of the node are derived. -/
def sown (d : Document) (x : Node) (plan : BodyPlan) : Document :=
  (addBody { d with nextNode := d.nextNode + 1 } ⟨d.nextNode⟩ plan).insert ⟨d.nextNode⟩ x

/-- Deriving the ports of a new composite drops no edge, since none touches it. -/
theorem Valid.derivePorts_sown (h : d.Valid) {x : Node} (hx : d.graphs.contains x.graph = true)
    (plan : BodyPlan) : (d.sown x plan).derivePorts ⟨d.nextGraph⟩ =
      d.sown { x with ports := .ofDefinitions (d.newBody plan).definitions } plan := by
  have hne := h.ne_new hx
  have hbody : (d.sown x plan).graph? ⟨d.nextGraph⟩ = some (d.newBody plan) := by
    simp [sown, insert, mapListed, addBody, graph?, hne.symm, newBody]
  have hnode : (d.sown x plan).node? ⟨d.nextNode⟩ = some x := by
    simp [sown, insert, mapListed, node?]
  rw [derivePorts_of_owner hbody rfl hnode, mapEdges_eq_self]
  · have hnew : d.nodes.get? ⟨d.nextNode⟩ = none := h.node?_new
    simp only [mapPorts, sown, insert, mapListed, addBody, Store.modify_put_self _ _ hnew]
  · exact Store.Distinct.modify (h.graphs.put _ _) _ _
  · intro es hes
    have hes' : d.edges? x.graph = some es := by
      simpa [sown, insert, mapListed, addBody, edges?, graph?, hne] using hes
    refine List.filter_eq_self.2 fun c hc => ?_
    obtain ⟨⟨bs, hs⟩, bt, ht⟩ := And.intro (h.wired hes' c hc).source (h.wired hes' c hc).target
    refine fits_iff.2 ⟨fun he => ?_, fun he => ?_⟩
    · exact absurd (h.node_lt ht) (by rw [he]; exact Nat.lt_irrefl _)
    · exact absurd (h.node_lt hs) (by rw [he]; exact Nat.lt_irrefl _)

theorem addNode_eq (h : d.Valid) {g : GraphId} (hg : d.graphs.contains g = true) (b : Blueprint)
    (p : Point) : d.addNode g b p = some (⟨d.nextNode⟩, d.grown g b p) := by
  rw [addNode, if_pos hg]
  obtain ⟨kind, title, ports, body⟩ := b
  cases body with
  | none => rfl
  | some plan =>
    have hderive := h.derivePorts_sown
      (x := { graph := g, kind, title, position := p, ports, body := some ⟨d.nextGraph⟩ }) hg plan
    exact congrArg (fun e : Document => some (NodeId.mk d.nextNode, e.touch)) hderive

/-! ## Views of the result -/

section
variable (h : d.Valid) {g : GraphId} (hg : d.graphs.contains g = true) (b : Blueprint) (p : Point)
include h hg

omit h hg in
theorem node?_grown (n : NodeId) : (d.grown g b p).node? n =
    if n = ⟨d.nextNode⟩ then some (d.newNode g b p) else d.node? n :=
  Store.get?_put ..

omit h hg in
theorem place?_grown (n : NodeId) : (d.grown g b p).place? n =
    if n = ⟨d.nextNode⟩ then some (g, b.body.map fun _ => ⟨d.nextGraph⟩) else d.place? n := by
  rw [place?, node?_grown]
  split <;> rfl

omit h hg in
theorem ports?_grown (n : NodeId) : (d.grown g b p).ports? n =
    if n = ⟨d.nextNode⟩ then some (d.newNode g b p).ports else d.ports? n := by
  rw [ports?, node?_grown]
  split <;> rfl

omit hg in
theorem place?_grown_of_some {m : NodeId} {x : GraphId × Option GraphId}
    (hm : d.place? m = some x) : (d.grown g b p).place? m = some x := by
  rw [place?_grown, if_neg, hm]
  rintro rfl
  exact absurd (h.place?_new.symm.trans hm) (by simp)

omit hg in
theorem ports?_grown_of_some {m : NodeId} {q : Ports} (hm : d.ports? m = some q) :
    (d.grown g b p).ports? m = some q := by
  rw [ports?_grown, if_neg, hm]
  rintro rfl
  exact absurd (h.ports?_new.symm.trans hm) (by simp)

omit hg in
theorem keys?_grown_of_some {m : NodeId} {x : List String × List String}
    (hm : d.keys? m = some x) : (d.grown g b p).keys? m = some x := by
  obtain ⟨q, hq, rfl⟩ := Option.map_eq_some_iff.1 hm
  rw [keys?, ports?_grown_of_some h b p hq]
  rfl

theorem graph?_grown (k : GraphId) : (d.grown g b p).graph? k =
    if k = ⟨d.nextGraph⟩ then b.body.map d.newBody
    else if k = g then (d.graph? k).map fun x => { x with nodes := x.nodes ++ [⟨d.nextNode⟩] }
    else d.graph? k := by
  have hgn := h.ne_new hg
  have hnew : d.graphs.get? ⟨d.nextGraph⟩ = none := h.graph?_new
  rw [graph?, grown, Store.get?_modify, graphsWith]
  cases b.body with
  | none => by_cases hk : k = ⟨d.nextGraph⟩ <;> simp_all [graph?, hgn.symm]
  | some plan => by_cases hk : k = ⟨d.nextGraph⟩ <;> simp_all [graph?, hgn.symm]

theorem listing?_grown (k : GraphId) : (d.grown g b p).listing? k =
    if k = ⟨d.nextGraph⟩ then b.body.map fun _ => (some ⟨d.nextNode⟩, [])
    else if k = g then (d.listing? k).map fun x => (x.1, x.2 ++ [⟨d.nextNode⟩])
    else d.listing? k := by
  rw [listing?, graph?_grown h hg, listing?]
  split
  · rw [Option.map_map]; rfl
  · split
    · rw [Option.map_map, Option.map_map]; rfl
    · rfl

theorem edges?_grown (k : GraphId) : (d.grown g b p).edges? k =
    if k = ⟨d.nextGraph⟩ then b.body.map fun _ => [] else d.edges? k := by
  rw [edges?, graph?_grown h hg, edges?]
  split
  · rw [Option.map_map]; rfl
  · split
    · rw [Option.map_map]; rfl
    · rfl

theorem definitions?_grown (k : GraphId) : (d.grown g b p).definitions? k =
    if k = ⟨d.nextGraph⟩ then b.body.map fun plan => definitionsFrom d.nextDefinition plan.ports
    else d.definitions? k := by
  rw [definitions?, graph?_grown h hg, definitions?]
  split
  · rw [Option.map_map]; rfl
  · split
    · rw [Option.map_map]; rfl
    · rfl

theorem variables?_grown (k : GraphId) : (d.grown g b p).variables? k =
    if k = ⟨d.nextGraph⟩ then b.body.map fun _ => {} else d.variables? k := by
  rw [variables?, graph?_grown h hg, variables?]
  split
  · rw [Option.map_map]; rfl
  · split
    · rw [Option.map_map]; rfl
    · rfl

/-! ## Validity -/

end

/-- To a tree, node `n` of graph `g` is added, with the empty body `b` if it is a composite. -/
structure Grows (place place' : NodeId → Option (GraphId × Option GraphId))
    (listing listing' : GraphId → Option (Option NodeId × List NodeId)) (composite : Bool)
    (n : NodeId) (g b : GraphId) : Prop where
  node_new : place n = none
  graph_new : listing b = none
  graph_listed : ∃ o ns, listing g = some (o, ns)
  index_lt : g.index < b.index
  place_eq : ∀ m, place' m =
    if m = n then some (g, if composite then some b else none) else place m
  listing_eq : ∀ k, listing' k = if k = b then if composite then some (some n, []) else none
    else if k = g then (listing k).map fun x => (x.1, x.2 ++ [n]) else listing k

namespace Grows

variable {place place' : NodeId → Option (GraphId × Option GraphId)}
  {listing listing' : GraphId → Option (Option NodeId × List NodeId)} {composite : Bool}
  {n : NodeId} {g b : GraphId} (hg : Grows place place' listing listing' composite n g b)
include hg

theorem place_of_old {m : NodeId} {x : GraphId × Option GraphId} (hm : place m = some x) :
    place' m = some x := by
  rw [hg.place_eq, if_neg, hm]
  rintro rfl
  rw [hg.node_new] at hm
  cases hm

theorem place_cases {m : NodeId} {k : GraphId} {c : Option GraphId}
    (hm : place' m = some (k, c)) :
    (m = n ∧ k = g ∧ c = if composite then some b else none) ∨ place m = some (k, c) := by
  rw [hg.place_eq] at hm
  split at hm
  · cases hm
    exact .inl ⟨by assumption, rfl, rfl⟩
  · exact .inr hm

theorem listing_of_old {k : GraphId} {o : Option NodeId} {ns : List NodeId}
    (hk : listing k = some (o, ns)) :
    listing' k = some (o, if k = g then ns ++ [n] else ns) := by
  have hkb : k ≠ b := by
    rintro rfl
    rw [hg.graph_new] at hk
    cases hk
  rw [hg.listing_eq, if_neg hkb, hk]
  split <;> rfl

theorem listing_cases {k : GraphId} {o : Option NodeId} {ms : List NodeId}
    (hk : listing' k = some (o, ms)) :
    (k = b ∧ composite = true ∧ o = some n ∧ ms = []) ∨
      ∃ ns, listing k = some (o, ns) ∧ ms = if k = g then ns ++ [n] else ns := by
  rw [hg.listing_eq] at hk
  split at hk
  · split at hk
    · cases hk
      exact .inl ⟨by assumption, by assumption, rfl, rfl⟩
    · cases hk
  · right
    by_cases hkg : k = g
    · rw [if_pos hkg] at hk
      obtain ⟨⟨o', ns⟩, hl, he⟩ := Option.map_eq_some_iff.1 hk
      cases he
      exact ⟨ns, hl, (if_pos hkg).symm⟩
    · rw [if_neg hkg] at hk
      exact ⟨ms, hk, (if_neg hkg).symm⟩

/-- A new node keeps a tree a tree. -/
theorem tree (h : Tree place listing) : Tree place' listing' where
  root := by
    obtain ⟨ns, hr⟩ := h.root
    exact ⟨_, hg.listing_of_old hr⟩
  eq_root k ms hk := by
    rcases hg.listing_cases hk with ⟨-, -, ho, -⟩ | ⟨ns, hl, -⟩
    · cases ho
    · exact h.eq_root hl
  home m k c hm := by
    rcases hg.place_cases hm with ⟨rfl, rfl, -⟩ | hm
    · obtain ⟨o, ns, hl⟩ := hg.graph_listed
      exact ⟨o, _, hg.listing_of_old hl, by simp⟩
    · obtain ⟨o, ns, hl, hmem⟩ := h.home hm
      refine ⟨o, _, hg.listing_of_old hl, ?_⟩
      split
      · exact List.mem_append_left _ hmem
      · exact hmem
  listed k o ms m hk hm := by
    rcases hg.listing_cases hk with ⟨-, -, -, rfl⟩ | ⟨ns, hl, rfl⟩
    · cases hm
    · have hold : m ∈ ns → ∃ c, place' m = some (k, c) := fun hmem => by
        obtain ⟨c, hc⟩ := h.listed hl hmem
        exact ⟨c, hg.place_of_old hc⟩
      split at hm
      · subst k
        rcases List.mem_append.1 hm with hm | hm
        · exact hold hm
        · exact ⟨_, by rw [hg.place_eq, if_pos (List.mem_singleton.1 hm)]⟩
      · exact hold hm
  once k o ms hk := by
    rcases hg.listing_cases hk with ⟨-, -, -, rfl⟩ | ⟨ns, hl, rfl⟩
    · exact List.nodup_nil
    · split
      · refine nodup_append_new (h.once hl) fun hm => ?_
        obtain ⟨c, hc⟩ := h.listed hl hm
        rw [hg.node_new] at hc
        cases hc
      · exact h.once hl
  body m k c hm := by
    rcases hg.place_cases hm with ⟨rfl, rfl, hc⟩ | hm
    · split at hc
      · cases hc
        exact ⟨hg.index_lt, [], by rw [hg.listing_eq, if_pos rfl, if_pos (by assumption)]⟩
      · cases hc
    · obtain ⟨hlt, ns, hl⟩ := h.body hm
      exact ⟨hlt, _, hg.listing_of_old hl⟩
  owner k m ms hk := by
    rcases hg.listing_cases hk with ⟨rfl, hc, ho, -⟩ | ⟨ns, hl, -⟩
    · cases ho
      exact ⟨g, by rw [hg.place_eq, if_pos rfl, if_pos hc]⟩
    · obtain ⟨c, hc⟩ := h.owner hl
      exact ⟨c, hg.place_of_old hc⟩

end Grows

theorem Joins.mono {place place' : NodeId → Option (GraphId × Option GraphId)}
    {keys keys' : NodeId → Option (List String × List String)} {g : GraphId} {e : Edge}
    (h : Joins place keys g e) (hp : ∀ m x, place m = some x → place' m = some x)
    (hk : ∀ m x, keys m = some x → keys' m = some x) : Joins place' keys' g e where
  ne := h.ne
  source := h.source.imp fun _ => hp _ _
  target := h.target.imp fun _ => hp _ _
  output := h.output.imp fun _ => Exists.imp fun _ => And.imp_left (hk _ _)
  input := h.input.imp fun _ => Exists.imp fun _ => And.imp_left (hk _ _)

/-- The definitions of a body that is new are told apart from those there were. -/
theorem Valid.identified_grown (h : d.Valid) {g : GraphId} (hg : d.graphs.contains g = true)
    (b : Blueprint) (p : Point) : Identified (d.grown g b p).definitions? := by
  have hcases : ∀ k ds, (d.grown g b p).definitions? k = some ds →
      (k = ⟨d.nextGraph⟩ ∧ ∃ plan, b.body = some plan ∧
        ds = definitionsFrom d.nextDefinition plan.ports) ∨ d.definitions? k = some ds := by
    intro k ds hds
    rw [definitions?_grown h hg] at hds
    split at hds
    · obtain ⟨plan, hplan, rfl⟩ := Option.map_eq_some_iff.1 hds
      exact .inl ⟨by assumption, plan, hplan, rfl⟩
    · exact .inr hds
  refine ⟨fun k ds hds => ?_, fun k l ds es p q hds hes hp hq he => ?_⟩
  · rcases hcases k ds hds with ⟨-, plan, -, rfl⟩ | hds
    · exact nodup_definitionsFrom ..
    · exact h.identified.nodup hds
  · rcases hcases k ds hds with ⟨rfl, plan, -, rfl⟩ | hds <;>
      rcases hcases l es hes with ⟨rfl, plan', -, rfl⟩ | hes
    · rfl
    · have hlt := h.definition_lt hes hq
      have hle := (le_of_mem_definitionsFrom hp).1
      rw [he] at hle
      omega
    · have hlt := h.definition_lt hds hp
      have hle := (le_of_mem_definitionsFrom hq).1
      rw [he] at hlt
      omega
    · exact h.identified.apart hds hes hp hq he

theorem Valid.grows (h : d.Valid) {g : GraphId} (hg : d.graphs.contains g = true) (b : Blueprint)
    (p : Point) : Grows d.place? (d.grown g b p).place? d.listing? (d.grown g b p).listing?
      b.body.isSome ⟨d.nextNode⟩ g ⟨d.nextGraph⟩ where
  node_new := h.place?_new
  graph_new := h.listing?_new
  graph_listed := contains_graph_iff.1 hg
  index_lt := by
    obtain ⟨o, ns, hl⟩ := contains_graph_iff.1 hg
    exact h.graph_lt hl
  place_eq m := by
    rw [place?_grown]
    cases b.body <;> rfl
  listing_eq k := by
    rw [listing?_grown h hg]
    cases b.body <;> rfl

theorem Valid.wired_grown (h : d.Valid) {g : GraphId} (hg : d.graphs.contains g = true)
    (b : Blueprint) (p : Point) :
    Wired (d.grown g b p).place? (d.grown g b p).keys? (d.grown g b p).edges? := by
  intro k es hes e he
  rw [edges?_grown h hg] at hes
  split at hes
  · obtain ⟨-, -, rfl⟩ := Option.map_eq_some_iff.1 hes
    cases he
  · exact (h.wired hes e he).mono (fun _ _ => place?_grown_of_some h b p)
      fun _ _ => keys?_grown_of_some h b p

theorem Valid.composed_grown (h : d.Valid) {g : GraphId} (hg : d.graphs.contains g = true)
    (b : Blueprint) (p : Point) :
    Composed (d.grown g b p).place? (d.grown g b p).ports? (d.grown g b p).definitions? := by
  intro m k c q ds hm hq hds
  rw [place?_grown] at hm
  rw [ports?_grown] at hq
  rw [definitions?_grown h hg] at hds
  by_cases hmn : m = ⟨d.nextNode⟩
  · rw [if_pos hmn] at hm hq
    obtain ⟨plan, hplan, hc⟩ := Option.map_eq_some_iff.1 (congrArg Prod.snd (Option.some.inj hm))
    rw [if_pos hc.symm, hplan] at hds
    cases hds
    cases hq
    simp [newNode, hplan, newBody]
  · rw [if_neg hmn] at hm hq
    obtain ⟨-, ms, hms⟩ := h.tree.body hm
    have hcn : c ≠ ⟨d.nextGraph⟩ := h.ne_new (contains_graph_iff.2 ⟨_, _, hms⟩)
    rw [if_neg hcn] at hds
    exact h.composed hm hq hds

/-- All identities are below the counters, which move on with the new ones. -/
theorem Valid.lt_grown (h : d.Valid) {g : GraphId} (hg : d.graphs.contains g = true)
    (b : Blueprint) (p : Point) :
    (∀ ⦃n k c⦄, (d.grown g b p).place? n = some (k, c) → n.index < d.nextNode + 1) ∧
    (∀ ⦃k o ns⦄, (d.grown g b p).listing? k = some (o, ns) →
      k.index < d.nextGraph + b.body.elim 0 fun _ => 1) ∧
    ∀ ⦃k ds q⦄, (d.grown g b p).definitions? k = some ds → q ∈ ds →
      q.id.index < d.nextDefinition + b.body.elim 0 (·.ports.length) := by
  have hgrows := h.grows hg b p
  refine ⟨fun m k c hm => ?_, fun k o ms hk => ?_, fun k ds q hds hq => ?_⟩
  · rcases hgrows.place_cases hm with ⟨rfl, -, -⟩ | hm
    · exact Nat.lt_succ_self _
    · exact Nat.lt_succ_of_lt (h.node_lt hm)
  · rcases hgrows.listing_cases hk with ⟨rfl, hc, -, -⟩ | ⟨ns, hl, -⟩
    · obtain ⟨plan, hplan⟩ := Option.isSome_iff_exists.1 hc
      rw [hplan]
      exact Nat.lt_succ_self _
    · have := h.graph_lt hl
      omega
  · rw [definitions?_grown h hg] at hds
    split at hds
    · obtain ⟨plan, hplan, rfl⟩ := Option.map_eq_some_iff.1 hds
      rw [hplan]
      exact (le_of_mem_definitionsFrom hq).2
    · have := h.definition_lt hds hq
      omega

theorem Valid.grown (h : d.Valid) {g : GraphId} (hg : d.graphs.contains g = true) (b : Blueprint)
    (p : Point) : (d.grown g b p).Valid := by
  obtain ⟨hnode, hgraph, hdefinition⟩ := h.lt_grown hg b p
  exact
    { tree := (h.grows hg b p).tree h.tree
      wired := h.wired_grown hg b p
      composed := h.composed_grown hg b p
      identified := h.identified_grown hg b p
      node_lt := hnode
      graph_lt := hgraph
      definition_lt := hdefinition
      graphVariables := by
        intro k vs hvs
        rw [variables?_grown h hg] at hvs
        split at hvs
        · obtain ⟨-, -, rfl⟩ := Option.map_eq_some_iff.1 hvs
          exact .empty
        · exact h.graphVariables hvs
      objectVariables := h.objectVariables
      sceneVariables := h.sceneVariables
      applicationVariables := h.applicationVariables
      savedVariables := h.savedVariables
      selection_nodup := h.selection_nodup
      selected := fun n hn => by
        obtain ⟨k, c, hk⟩ := h.selected n hn
        exact ⟨k, c, place?_grown_of_some h b p hk⟩
      nodes := h.nodes.put _ _
      graphs := by
        refine Store.Distinct.modify ?_ _ _
        rw [graphsWith]
        cases b.body with
        | none => exact h.graphs
        | some plan => exact h.graphs.put _ _ }

theorem Valid.addNode (h : d.Valid) {g : GraphId} {b : Blueprint} {p : Point} {n : NodeId}
    {e : Document} (he : d.addNode g b p = some (n, e)) :
    d.graphs.contains g = true ∧ n = ⟨d.nextNode⟩ ∧ e = d.grown g b p ∧ e.Valid := by
  have hg : d.graphs.contains g = true := by
    by_contra hg
    rw [Document.addNode, if_neg hg] at he
    cases he
  rw [addNode_eq h hg] at he
  cases he
  exact ⟨hg, rfl, rfl, h.grown hg b p⟩

end GraphDraft.Document

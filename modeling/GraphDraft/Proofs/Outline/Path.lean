import GraphDraft.Proofs.Draft.Reachable
import GraphDraft.Proofs.Outline.Coverage

/-!
# Paths determine nodes

A path is read from the left. It begins with the title of the root graph; behind a title stands the
place of a node of that graph, whose digits end at a bracket; and the sign behind the bracket says
whether the path goes on in the body of that node. So it does not matter what the titles are
(`Leads.unique`). Different nodes have different paths, and the line that names the selected nodes
determines them and their order (`path_determines`).
-/

namespace GraphDraft

/-! ## Places -/

theorem not_mem_toString {c : Char} (hc : c.isDigit = false) (i : Nat) :
    c ∉ (toString i).toList := by
  intro hmem
  rw [Nat.toString_eq_repr, Nat.toList_repr] at hmem
  have hdigit := Nat.isDigit_of_mem_toDigits (by decide) (by decide) hmem
  exact Bool.false_ne_true (hc.symm.trans hdigit)

theorem toString_injective {i j : Nat} (h : (toString i).toList = (toString j).toList) : i = j := by
  have hdigits : Nat.toDigits 10 i = Nat.toDigits 10 j := by
    simpa only [Nat.toString_eq_repr, Nat.toList_repr] using h
  have hread := congrArg (Nat.ofDigitChars 10 · 0) hdigits
  simpa using hread

/-- A number ends at the first sign that is no digit. -/
theorem toString_append_inj {c : Char} (hc : c.isDigit = false) {i j : Nat} {s t : List Char}
    (h : (toString i).toList ++ c :: s = (toString j).toList ++ c :: t) : i = j ∧ s = t := by
  have hread : ∀ (k : Nat) (u : List Char),
      ((toString k).toList ++ c :: u).takeWhile (· ≠ c) = (toString k).toList := by
    intro k u
    rw [List.takeWhile_append_of_pos, List.takeWhile_cons_of_neg (by simp), List.append_nil]
    intro b hb
    exact decide_eq_true fun hbc => not_mem_toString hc k (hbc ▸ hb)
  have hij : i = j := by
    refine toString_injective ?_
    rw [← hread i s, h, hread j t]
  subst hij
  exact ⟨rfl, (List.cons.inj (List.append_cancel_left h)).2⟩

/-- What stands in a path for a place of a graph. -/
def Graph.leg (x : Graph) (i : Nat) : String :=
  x.title ++ "/[" ++ toString i ++ "]"

theorem Graph.leg_append_inj {x : Graph} {i j : Nat} {s t : List Char}
    (h : (x.leg i).toList ++ s = (x.leg j).toList ++ t) : i = j ∧ s = t := by
  simp only [leg, String.toList_append, List.append_assoc, List.append_cancel_left_eq] at h
  exact toString_append_inj (c := ']') rfl h

namespace Outline

open Document

variable {d e : Document} {g b : GraphId} {n m : NodeId} {p q : String} {s t : List Char}

/-! ## Paths that lead inwards -/

/-- A path leads from a graph to a node: by the place of the node there, or by that of a composite
and a path that leads on from its body. -/
inductive Leads (d : Document) : GraphId → NodeId → String → Prop
  | here {g : GraphId} {x : Graph} {i : Nat} {n : NodeId} (hg : d.graph? g = some x)
      (hi : x.nodes[i]? = some n) : Leads d g n (x.leg i)
  | inner {g b : GraphId} {x : Graph} {i : Nat} {m n : NodeId} {y : Node} {p : String}
      (hg : d.graph? g = some x) (hi : x.nodes[i]? = some m) (hm : d.node? m = some y)
      (hb : y.body = some b) (hp : Leads d b n p) : Leads d g n (x.leg i ++ "/" ++ p)

/-- What can stand behind a path that has come to its end. -/
def Ends (s : List Char) : Prop := s.head? ≠ some '/'

/-- A path leads to one node, and where it ends is determined as well. -/
theorem Leads.unique (hp : Leads d g n p) (hq : Leads d g m q) (hs : Ends s) (ht : Ends t)
    (h : p.toList ++ s = q.toList ++ t) : n = m ∧ s = t := by
  induction hp generalizing q with
  | here hg hi =>
    cases hq with
    | here hg' hi' =>
      cases hg.symm.trans hg'
      obtain ⟨rfl, hst⟩ := Graph.leg_append_inj h
      exact ⟨Option.some.inj (hi.symm.trans hi'), hst⟩
    | inner hg' hi' hm' hb' hq' =>
      cases hg.symm.trans hg'
      simp only [String.toList_append, List.append_assoc] at h
      obtain ⟨-, hst⟩ := Graph.leg_append_inj h
      exact absurd (by rw [hst]; rfl) hs
  | inner hg hi hm hb hp ih =>
    cases hq with
    | here hg' hi' =>
      cases hg.symm.trans hg'
      simp only [String.toList_append, List.append_assoc] at h
      obtain ⟨-, hst⟩ := Graph.leg_append_inj h
      exact absurd (by rw [← hst]; rfl) ht
    | inner hg' hi' hm' hb' hq' =>
      -- the same place is that of the same composite, so both paths lead on from one body
      cases hg.symm.trans hg'
      simp only [String.toList_append, List.append_assoc] at h
      obtain ⟨rfl, hrest⟩ := Graph.leg_append_inj h
      cases hi.symm.trans hi'
      cases hm.symm.trans hm'
      cases hb.symm.trans hb'
      exact ih hq' (List.append_cancel_left hrest)

/-- A path that leads to a composite leads on into its body. -/
theorem Leads.extend {y : Node} (hp : Leads d g m p) (hm : d.node? m = some y)
    (hb : y.body = some b) (hq : Leads d b n q) : Leads d g n (p ++ "/" ++ q) := by
  induction hp with
  | here hg hi => exact .inner hg hi hm hb hq
  | inner hg hi hm' hb' _ ih =>
    have hlonger := Leads.inner hg hi hm' hb' (ih hm)
    simpa only [String.append_assoc] using hlonger

theorem Leads.mem_bracket (hp : Leads d g n p) : '[' ∈ p.toList := by
  cases hp <;> simp [Graph.leg]

/-- Documents with the same graphs and nodes have the same paths. -/
theorem Leads.congr (hgraph : e.graph? = d.graph?) (hnode : e.node? = d.node?)
    (hp : Leads e g n p) : Leads d g n p := by
  induction hp with
  | here hg hi => exact .here (hgraph ▸ hg) hi
  | inner hg hi hm hb _ ih => exact .inner (hgraph ▸ hg) hi (hnode ▸ hm) hb ih

/-- The path of a live node leads to it from the root. -/
theorem exists_leads {d : Document} (h : d.Valid) {n : NodeId} {y : Node}
    (hn : d.node? n = some y) :
    ∃ p, path? d n = some p ∧ Leads d .root n p := by
  obtain ⟨x, hg⟩ := h.housed.graph n y hn
  obtain ⟨i, hi⟩ := exists_getElem?_of_place h hg (place?_of_node? hn)
  have hindex := indexOf?_eq (h.nodup_nodes hg) hi
  cases ho : x.owner with
  | none =>
    have hroot : y.graph = .root := h.tree.eq_root (ho ▸ listing?_of_graph? hg)
    exact ⟨_, ((locates_iff h).1 (.top hn hg hindex ho)).symm, hroot ▸ .here hg hi⟩
  | some o =>
    obtain ⟨k, hk⟩ := h.tree.owner (ho ▸ listing?_of_graph? hg)
    obtain ⟨z, hz, hzk, hb⟩ := node?_of_place? hk
    have hlt : z.graph.index < y.graph.index := hzk ▸ (h.tree.body hk).1
    obtain ⟨p, hp, hleads⟩ := exists_leads h hz
    refine ⟨_, ((locates_iff h).1 (.inner hn hg hindex ho ((locates_iff h).2 rfl))).symm, ?_⟩
    rw [hp]
    exact hleads.extend hz hb (.here hg hi)
termination_by y.graph.index

/-! ## Lines of paths -/

/-- Paths, each with a separator before it. -/
def separated (ps : List String) : List Char :=
  ps.flatMap fun p => ',' :: ' ' :: p.toList

theorem toList_intercalate_cons (p : String) (ps : List String) :
    (", ".intercalate (p :: ps)).toList = p.toList ++ separated ps := by
  rw [String.toList_intercalate, List.map_cons]
  induction ps generalizing p with
  | nil => simp [separated]
  | cons q ps ih =>
    rw [List.map_cons, List.intercalate_cons_cons, ih, separated, separated, List.flatMap_cons,
      List.append_assoc]
    rfl

theorem ends_separated (ps : List String) : Ends (separated ps) := by
  cases ps <;> simp [Ends, separated]

theorem eq_of_separated {ns ms : List NodeId} {ps qs : List String}
    (hps : List.Forall₂ (Leads d g) ns ps) (hqs : List.Forall₂ (Leads d g) ms qs)
    (h : separated ps = separated qs) : ns = ms := by
  induction hps generalizing ms qs with
  | nil =>
    cases hqs with
    | nil => rfl
    | cons => simp [separated] at h
  | cons hp _ ih =>
    cases hqs with
    | nil => simp [separated] at h
    | cons hq hqs =>
      have hrest := (List.cons.inj (List.cons.inj h).2).2
      obtain ⟨rfl, hsep⟩ := hp.unique hq (ends_separated _) (ends_separated _) hrest
      rw [ih hqs hsep]

/-- The word for an empty selection is no line of paths. -/
theorem nothing_ne {ps : List String} (hp : Leads d g n p) :
    "nothing" ≠ ", ".intercalate (p :: ps) := by
  intro h
  have hmem : '[' ∈ (", ".intercalate (p :: ps)).toList := by
    rw [toList_intercalate_cons]
    exact List.mem_append_left _ hp.mem_bracket
  rw [← h] at hmem
  revert hmem
  decide

theorem eq_of_line {ns ms : List NodeId} {ps qs : List String}
    (hps : List.Forall₂ (Leads d g) ns ps) (hqs : List.Forall₂ (Leads d g) ms qs)
    (h : (if ps.isEmpty then "nothing" else ", ".intercalate ps) =
      if qs.isEmpty then "nothing" else ", ".intercalate qs) : ns = ms := by
  cases hps with
  | nil =>
    cases hqs with
    | nil => rfl
    | cons hq hqs => exact absurd h (nothing_ne hq)
  | cons hp hps =>
    cases hqs with
    | nil => exact absurd h.symm (nothing_ne hp)
    | cons hq hqs =>
      refine eq_of_separated (.cons hp hps) (.cons hq hqs) ?_
      have hjoined := congrArg String.toList h
      simp only [List.isEmpty_cons, Bool.false_eq_true, if_false,
        toList_intercalate_cons] at hjoined
      rw [separated, List.flatMap_cons, separated, List.flatMap_cons]
      exact congrArg (fun r => ',' :: ' ' :: r) hjoined

theorem forall₂_leads (h : d.Valid) {ns : List NodeId}
    (hns : ∀ n ∈ ns, ∃ g b, d.place? n = some (g, b)) :
    List.Forall₂ (Leads d .root) ns (ns.filterMap (path? d)) := by
  induction ns with
  | nil => exact .nil
  | cons n ns ih =>
    obtain ⟨g, b, hplace⟩ := hns n List.mem_cons_self
    obtain ⟨y, hn, -⟩ := node?_of_place? hplace
    obtain ⟨p, hp, hleads⟩ := exists_leads h hn
    rw [List.filterMap_cons_some hp]
    exact .cons hleads (ih fun k hk => hns k (List.mem_cons_of_mem _ hk))

/-- Whatever the titles are, different nodes have different paths, and of documents with the same
graphs and nodes, the last line of an outline tells what is selected, in order. -/
theorem path_determines (h : d.Reachable) :
    (∀ n m y z, d.node? n = some y → d.node? m = some z → n ≠ m →
      ∃ p q, path? d n = some p ∧ path? d m = some q ∧ p ≠ q) ∧
    ∀ e, e.Reachable → e.graph? = d.graph? → e.node? = d.node? →
      selectionLine e = selectionLine d → e.selection = d.selection := by
  refine ⟨fun n m y z hn hm hne => ?_, fun e he hgraph hnode hline => ?_⟩
  · obtain ⟨p, hp, hleads⟩ := exists_leads h.valid hn
    obtain ⟨q, hq, hleads'⟩ := exists_leads h.valid hm
    refine ⟨p, q, hp, hq, fun hpq => hne ?_⟩
    have hend : Ends [] := by simp [Ends]
    exact (hleads.unique hleads' hend hend (by rw [hpq])).1
  · have hold := forall₂_leads h.valid h.valid.selected
    have hnew := (forall₂_leads he.valid he.valid.selected).imp fun _ _ => Leads.congr hgraph hnode
    have htext := String.append_right_inj _ |>.1 hline
    exact eq_of_line hnew hold htext

/-- A composite in a composite, and a composite of which the body has a title like a path. -/
def slashed : Document :=
  Operation.runAll
    [.addNode .root { kind := .subgraph none, title := "Outer", body := some ⟨"x", []⟩ } .origin,
     .addNode .root { kind := .subgraph none, title := "Odd", body := some ⟨"x/[0]/y", []⟩ }
       .origin,
     .addNode ⟨1⟩ { kind := .subgraph none, title := "Inner", body := some ⟨"y", []⟩ } .origin,
     .addNode ⟨3⟩ { kind := .unit "Deep", title := "Deep" } .origin,
     .addNode ⟨2⟩ { kind := .unit "Flat", title := "Flat" } .origin,
     .setSelection [⟨3⟩, ⟨4⟩]]
    (.empty "Main")

/-- Two nodes at different depths, of which the paths differ in one digit, and the two orders in
which they can be selected. -/
theorem path_determines_slashed : slashed.Reachable ∧
    path? slashed ⟨3⟩ = some "Main/[0]/x/[0]/y/[0]" ∧
    path? slashed ⟨4⟩ = some "Main/[1]/x/[0]/y/[0]" ∧
    (∃ p q, path? slashed ⟨3⟩ = some p ∧ path? slashed ⟨4⟩ = some q ∧ p ≠ q) ∧
    selectionLine (slashed.setSelection [⟨4⟩, ⟨3⟩]) ≠ selectionLine slashed := by
  have hreachable : slashed.Reachable := ⟨"Main", _, rfl⟩
  have hturned : (slashed.setSelection [⟨4⟩, ⟨3⟩]).Reachable :=
    hreachable.run (.setSelection [⟨4⟩, ⟨3⟩])
  have hsame : ∀ (d : Document) (ns : List NodeId),
      (d.setSelection ns).graph? = d.graph? ∧ (d.setSelection ns).node? = d.node? :=
    fun _ _ => ⟨rfl, rfl⟩
  obtain ⟨hgraph, hnode⟩ := hsame slashed [⟨4⟩, ⟨3⟩]
  obtain ⟨y, hy⟩ : ∃ y, slashed.node? ⟨3⟩ = some y :=
    Option.isSome_iff_exists.1 (by decide +kernel)
  obtain ⟨z, hz⟩ : ∃ z, slashed.node? ⟨4⟩ = some z :=
    Option.isSome_iff_exists.1 (by decide +kernel)
  obtain ⟨hpaths, hlines⟩ := path_determines hreachable
  refine ⟨hreachable, by decide +kernel, by decide +kernel,
    hpaths ⟨3⟩ ⟨4⟩ y z hy hz (by decide), fun hline => ?_⟩
  have hselection := hlines _ hturned hgraph hnode hline
  revert hselection
  decide +kernel

end Outline

end GraphDraft

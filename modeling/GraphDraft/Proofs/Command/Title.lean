import GraphDraft.Proofs.Command.Bare
import GraphDraft.Proofs.Command.Verbs
import Mathlib.Data.List.TakeWhile

/-!
# Titles of subgraphs

A token that makes a subgraph has a text for its title: what is behind its verb, or all of it if it
is bare (`TitleText`). That text is split into arguments on the way, and the first one becomes the
title of the composite and of its body, so the title ends at the first separator
(`Draft.run_titled`).
-/

namespace GraphDraft

/-! ## First arguments -/

/-- A text up to the first separator of arguments. -/
def beforeSeparator (text : String) : String :=
  String.ofList (text.toList.takeWhile (· ≠ argumentSeparator))

theorem splitArguments_eq_cons (separator : Char) (cs : List Char) :
    ∃ later, splitArguments separator cs = cs.takeWhile (· ≠ separator) :: later := by
  induction cs with
  | nil => exact ⟨[], rfl⟩
  | cons c cs ih =>
    obtain ⟨later, hlater⟩ := ih
    rw [splitArguments]
    by_cases hc : c = separator
    · exact ⟨_, by rw [if_pos hc, List.takeWhile_cons_of_neg (by simpa using hc)]⟩
    · refine ⟨later, ?_⟩
      rw [if_neg hc, hlater, List.takeWhile_cons_of_pos (by simpa using hc)]

theorem headD_argumentsOf (text : String) : (argumentsOf text).headD "" = beforeSeparator text := by
  obtain ⟨later, hlater⟩ := splitArguments_eq_cons argumentSeparator text.toList
  rw [argumentsOf, hlater]
  rfl

/-- Nothing is lost of a text just if it has no separator. -/
theorem beforeSeparator_eq_self_iff {text : String} :
    beforeSeparator text = text ↔ argumentSeparator ∉ text.toList := by
  rw [beforeSeparator, ← String.toList_inj, String.toList_ofList, List.takeWhile_eq_self_iff]
  constructor
  · intro hall hmem
    simpa using hall _ hmem
  · intro hno c hc
    refine decide_eq_true ?_
    rintro rfl
    exact hno hc

/-! ## The composite and its body -/

namespace Document

variable {d : Document} {g : GraphId}

/-- The title of a graph. -/
def title? (d : Document) (g : GraphId) : Option String :=
  (d.graph? g).map (·.title)

theorem title?_setPosition (n : NodeId) (p : Point) :
    (d.setPosition n p).title? g = d.title? g := by
  rw [setPosition]
  split <;> rfl

theorem title?_mapEdges (d : Document) (k : GraphId) (f : List Edge → List Edge) :
    (d.mapEdges k f).title? = d.title? :=
  funext <| Store.map_get?_modify fun _ _ => rfl

theorem title?_addEdge (c : Edge) : (d.addEdge c).title? g = d.title? g := by
  rw [addEdge]
  split
  · rename_i s _
    have hedges := congrFun (title?_mapEdges d s.graph (· ++ [c])) g
    exact hedges
  · rfl

/-- Node `id` is a composite of the title, and its body has the title too. -/
def Titled (d : Document) (id : NodeId) (title : String) : Prop :=
  ∃ k, (d.node? id).map (fun a => (a.title, a.body)) = some (title, some k) ∧
    d.title? k = some title

theorem Titled.unique {id : NodeId} {s t : String} (hs : d.Titled id s) (ht : d.Titled id t) :
    s = t := by
  obtain ⟨k, hk, -⟩ := hs
  obtain ⟨l, hl, -⟩ := ht
  cases hk.symm.trans hl
  rfl

end Document

namespace Draft

open Document

variable {x y : Draft} {id : NodeId} {left : Bool}

theorem titled_createNode (h : x.document.Valid) {asset : Option String} {plan : BodyPlan}
    (hc : x.createNode (.composite asset plan) left = some (id, y)) :
    y.document.Titled id plan.title := by
  obtain ⟨g, p, cs, hgains⟩ := createNode_gains h hc
  refine ⟨⟨x.document.nextGraph⟩, by rw [hgains.node?_self]; rfl, ?_⟩
  refine createNode_induction
    (P := fun e => e.title? ⟨x.document.nextGraph⟩ = some plan.title) hc ?_ ?_ ?_ ?_
  · intro g p e ha
    obtain ⟨hg, -, rfl, -⟩ := h.addNode ha
    rw [title?, graph?_grown h hg, if_pos rfl]
    rfl
  · intro e p he
    rw [title?_setPosition, he]
  · intro e c he _ _
    rw [title?_addEdge, he]
  · exact fun he => he

/-! ## Tokens -/

/-- The verbs that make subgraphs. -/
def subgraphVerbs : List String :=
  ["subgraph:", "subgraphin:", "subgraphout:", "subgraphnoports:"]

theorem get?_subgraphVerbs {v : String} (hv : v ∈ subgraphVerbs) : v ≠ Registry.bareVerb ∧
    ∃ entry exit, Registry.standard.verbs.get? v = some (.createSubgraph entry exit) := by
  have hall : ∀ v ∈ subgraphVerbs, v ≠ Registry.bareVerb ∧
      ∃ entry exit, Registry.standard.verbs.get? v = some (.createSubgraph entry exit) := by
    decide +kernel
  exact hall v hv

/-- A token that makes a subgraph has a text for its title: what is behind its verb, or the whole
token if it is bare and neither means a unit nor has values to assign. -/
inductive TitleText (x : Draft) (catalog : Catalog) (token : String) : String → Prop
  | verb {v rest : String} : v ∈ subgraphVerbs → v ++ rest = token → TitleText x catalog token rest
  | bare : (Registry.standard.lookup token).map (·.command) = some .bare →
    ¬catalog.Names (beforeSeparator token) → x.claims (argumentsOf token) = [] →
    TitleText x catalog token token

/-- Whatever the token is, the subgraph is made of the first argument of its text. -/
theorem TitleText.run {catalog : Catalog} {t : Token} {text : String}
    (ht : TitleText x catalog t.text text) : ∃ i entry exit,
      Registry.standard.intent? t = some i ∧
      i.run catalog x = x.createSubgraph (beforeSeparator text) entry exit t.attachLeft := by
  cases ht with
  | verb hv htext =>
    obtain ⟨hne, entry, exit, hc⟩ := get?_subgraphVerbs hv
    refine ⟨.createSubgraph (beforeSeparator text) entry exit t.attachLeft, entry, exit, ?_, rfl⟩
    rw [Registry.intent?, ← htext, Registry.lookup_verb hc hne, Option.map_some, Command.intent,
      Command.first, headD_argumentsOf]
  | bare hbare hnames hclaims =>
    obtain ⟨f, hf, hbare⟩ := Option.map_eq_some_iff.1 hbare
    refine ⟨.bare (argumentsOf t.text) t.attachLeft t.isLast, true, true, ?_, ?_⟩
    · rw [Registry.intent?, hf, Option.map_some, hbare, Registry.rest_of_bare hf hbare]
      rfl
    · rw [← headD_argumentsOf] at hnames
      obtain ⟨-, -, hsubgraph⟩ :=
        runBare_eq x catalog (argumentsOf t.text) t.attachLeft t.isLast
      rw [← headD_argumentsOf]
      exact (hsubgraph (fun hunit => hnames hunit.1) hclaims).2

/-- A token that makes a subgraph makes one composite, and the titles of the composite and of its
body are the text of the token up to the first separator. So they are the whole text just if it has
no separator. -/
theorem run_titled (h : x.document.Reachable) (catalog : Catalog) (t : Token) {text : String}
    (ht : TitleText x catalog t.text text) : ∃ i id y entry exit,
      Registry.standard.intent? t = some i ∧ i.run catalog x = y.done ∧
      x.createNode (.composite none (newBody (beforeSeparator text) entry exit)) t.attachLeft =
        some (id, y) ∧
      y.document.Titled id (beforeSeparator text) ∧
      (y.document.Titled id text ↔ argumentSeparator ∉ text.toList) := by
  obtain ⟨i, entry, exit, hi, hrun⟩ := ht.run
  obtain ⟨id, y, hc, hcreate⟩ :=
    createSubgraph_makes h.valid (beforeSeparator text) entry exit t.attachLeft
  have htitled : y.document.Titled id (beforeSeparator text) := titled_createNode h.valid hc
  refine ⟨i, id, y, entry, exit, hi, hrun.trans hcreate, hc, htitled, ?_⟩
  rw [← beforeSeparator_eq_self_iff]
  constructor
  · exact fun hwhole => htitled.unique hwhole
  · intro hwhole
    rwa [hwhole] at htitled

theorem run_titled_alpha :
    let x : Draft := ⟨.empty "Main", [], [], {}⟩
    let t : Token := ⟨"subgraphin:Alpha", false, true⟩
    x.document.Reachable ∧ TitleText x {} t.text "Alpha" ∧
      ∃ i id, ∃ y : Draft, Registry.standard.intent? t = some i ∧ i.run {} x = y.done ∧
        y.document.Titled id "Alpha" := by
  intro x t
  have hreachable : x.document.Reachable := ⟨"Main", [], rfl⟩
  have ht : TitleText x {} t.text "Alpha" := .verb (v := "subgraphin:") (by decide) rfl
  obtain ⟨i, id, y, -, -, hi, hrun, -, -, hwhole⟩ := run_titled hreachable {} t ht
  exact ⟨hreachable, ht, i, id, y, hi, hrun, hwhole.2 (by decide)⟩

/-- A bare token, and one with a verb, lose what is behind the separator. -/
theorem not_titled_separated :
    let x : Draft := ⟨.empty "Main", [], [], {}⟩
    let bare := (runAll {} (Registry.standard.intents "Alpha,Beta") x).2.document
    let called := (runAll {} (Registry.standard.intents "subgraph:Alpha,Beta") x).2.document
    x.document.Reachable ∧
      TitleText x {} "Alpha,Beta" "Alpha,Beta" ∧ TitleText x {} "subgraph:Alpha,Beta" "Alpha,Beta" ∧
      bare.Titled ⟨0⟩ "Alpha" ∧ ¬bare.Titled ⟨0⟩ "Alpha,Beta" ∧
      called.Titled ⟨0⟩ "Alpha" ∧ ¬called.Titled ⟨0⟩ "Alpha,Beta" := by
  intro x bare called
  have hbare : bare.Titled ⟨0⟩ "Alpha" := ⟨⟨1⟩, by decide +kernel, by decide +kernel⟩
  have hcalled : called.Titled ⟨0⟩ "Alpha" := ⟨⟨1⟩, by decide +kernel, by decide +kernel⟩
  refine ⟨⟨"Main", [], rfl⟩, .bare (by decide +kernel) ?_ rfl, .verb (v := "subgraph:") ?_ rfl,
    hbare, fun h => absurd (hbare.unique h) (by decide),
    hcalled, fun h => absurd (hcalled.unique h) (by decide)⟩
  · rintro ⟨e, he, -⟩
    cases he
  · decide

end Draft

end GraphDraft

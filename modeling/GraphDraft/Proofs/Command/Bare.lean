import GraphDraft.Proofs.Command.Assignment
import GraphDraft.Proofs.Draft.Beside
import GraphDraft.Proofs.Draft.Creation

/-!
# Bare tokens

What a bare token does depends on three things: whether the catalog has a name for it, whether
inputs of the selected node take any of its arguments, and whether the first value that they take is
a text. It makes a node or fills inputs, never both, and it never fails (`Draft.runBare_chooses`).
-/

namespace GraphDraft

namespace Catalog

variable {catalog : Catalog} {query : String}

/-- Some name of the catalog contains a query, whatever the case of the query. -/
def Names (catalog : Catalog) (query : String) : Prop :=
  ∃ e ∈ catalog.entries, (Text.lowercase query).toList <:+: e.name.toList

/-- A query finds one entry at most, if no more are asked for. -/
theorem search_cases (catalog : Catalog) (query : String) :
    catalog.Names query ∧ (∃ e, catalog.search query 1 = [e]) ∨
      ¬catalog.Names query ∧ catalog.search query 1 = [] := by
  have hmem : ∀ e, e ∈ catalog.entries.filter (·.matchesText (Text.lowercase query)) ↔
      e ∈ catalog.entries ∧ (Text.lowercase query).toList <:+: e.name.toList := by
    intro e
    rw [List.mem_filter, Entry.matchesText, Text.isPieceOf_iff]
  rw [search]
  cases hfound : catalog.entries.filter (·.matchesText (Text.lowercase query)) with
  | nil =>
    rw [hfound] at hmem
    refine .inr ⟨?_, rfl⟩
    rintro ⟨e, he, hpiece⟩
    cases (hmem e).2 ⟨he, hpiece⟩
  | cons e es =>
    rw [hfound] at hmem
    exact .inl ⟨⟨e, (hmem e).1 List.mem_cons_self⟩, e, rfl⟩

theorem finds_iff : catalog.finds query = true ↔ catalog.Names query := by
  rw [finds]
  rcases search_cases catalog query with ⟨hnames, e, he⟩ | ⟨hnot, hnone⟩
  · rw [he]
    exact ⟨fun _ => hnames, fun _ => rfl⟩
  · rw [hnone]
    exact iff_of_false (by decide) hnot

theorem names_of_search {e : Entry} (h : catalog.search query 1 = [e]) : catalog.Names query := by
  rcases search_cases catalog query with ⟨hnames, -⟩ | ⟨-, hnone⟩
  · exact hnames
  · rw [hnone] at h
    cases h

end Catalog

namespace Draft

open Document

variable {x y : Draft} {id : NodeId} {b : Blueprint} {left : Bool}

/-! ## Making a node -/

theorem create_eq (hc : x.createNode b left = some (id, y)) : x.create b left = y := by
  rw [create, hc]
  rfl

theorem createUnit_makes (h : x.document.Valid) {catalog : Catalog} {query : String}
    (hnames : catalog.Names query) (left isLast : Bool) : ∃ e id y feedback,
      catalog.search query 1 = [e] ∧ x.createNode e.blueprint left = some (id, y) ∧
      x.createUnit catalog query left isLast = ⟨{ y with feedback }, none⟩ := by
  obtain ⟨-, e, he⟩ := (catalog.search_cases query).resolve_right fun hnone => hnone.1 hnames
  obtain ⟨id, y, hc⟩ := exists_createNode h e.blueprint left
  have hfirst : (catalog.search query (if isLast then hintSize else 1)).head? = some e := by
    rw [catalog.head?_search query (by cases isLast <;> decide), he]
    rfl
  simp only [createUnit, hfirst, create_eq hc]
  cases isLast <;> exact ⟨e, id, y, _, he, hc, rfl⟩

theorem createSubgraph_makes (h : x.document.Valid) (title : String) (entry exit left : Bool) :
    ∃ id y, x.createNode (.composite none (newBody title entry exit)) left = some (id, y) ∧
      x.createSubgraph title entry exit left = y.done := by
  obtain ⟨id, y, hc⟩ := exists_createNode h (.composite none (newBody title entry exit)) left
  refine ⟨id, y, hc, ?_⟩
  rw [createSubgraph, create_eq hc]

/-! ## The choice -/

/-- What the arguments of a bare token claim of the selected node, nothing if there is none. -/
def claims (x : Draft) (arguments : List String) : List Claim :=
  (Claim.probe x.document arguments).getD []

/-- A bare token means a unit: the catalog has a name for it, and no input takes any of its
arguments, or the first value that is taken is a text. -/
def MeansUnit (x : Draft) (catalog : Catalog) (arguments : List String) : Prop :=
  catalog.Names (arguments.headD "") ∧
    (x.claims arguments = [] ∨
      ∃ c, (x.claims arguments).head? = some c ∧ c.value.isString = true)

theorem meansUnit_iff {catalog : Catalog} {arguments : List String} :
    (catalog.finds (arguments.headD "") &&
      !(x.claims arguments).head?.any fun c => !c.value.isString) = true ↔
      x.MeansUnit catalog arguments := by
  rw [Bool.and_eq_true, Catalog.finds_iff, MeansUnit]
  cases x.claims arguments <;> simp

/-- Values are claimed of a selected node, and can be written there without getting in each other's
way. -/
theorem fills_applyClaims (h : x.document.Valid) {arguments : List String}
    (hne : x.claims arguments ≠ []) : ∃ n, x.document.selection.head? = some n ∧
      x.applyClaims (x.claims arguments) = (x.setClaims n (x.claims arguments)).done ∧
      Fills n (x.claims arguments) x (x.setClaims n (x.claims arguments)) := by
  cases hn : x.document.selection.head? with
  | none => exact absurd (by rw [claims, Claim.probe_eq_none hn]; rfl) hne
  | some n =>
    obtain ⟨a, ha⟩ := h.exists_selected hn
    refine ⟨n, rfl, applyClaims_eq hn _, fills_setClaims ?_ x⟩
    rw [claims, Claim.probe_eq hn ha]
    exact Claim.nodup_keys_claims ..

/-- With a name for the token and no unit meant, there is a value to assign, so the choice ends
before the catalog is asked for a second time. -/
theorem runBare_eq (x : Draft) (catalog : Catalog) (arguments : List String) (left isLast : Bool) :
    (x.MeansUnit catalog arguments → x.runBare catalog arguments left isLast =
      x.createUnit catalog (arguments.headD "") left isLast) ∧
    (¬x.MeansUnit catalog arguments → x.claims arguments ≠ [] →
      x.runBare catalog arguments left isLast = x.applyClaims (x.claims arguments)) ∧
    (¬x.MeansUnit catalog arguments → x.claims arguments = [] →
      ¬catalog.Names (arguments.headD "") ∧ x.runBare catalog arguments left isLast =
        x.createSubgraph (arguments.headD "") true true left) := by
  have hrun : x.runBare catalog arguments left isLast =
      if catalog.finds (arguments.headD "") &&
        !(x.claims arguments).head?.any fun c => !c.value.isString
      then x.createUnit catalog (arguments.headD "") left isLast
      else if !(x.claims arguments).isEmpty then x.applyClaims (x.claims arguments)
      else if catalog.finds (arguments.headD "")
      then x.createUnit catalog (arguments.headD "") left isLast
      else x.createSubgraph (arguments.headD "") true true left := rfl
  refine ⟨fun hunit => ?_, fun hunit hne => ?_, fun hunit hnil => ?_⟩
  · rw [hrun, if_pos (meansUnit_iff.2 hunit)]
  · rw [hrun, if_neg (mt meansUnit_iff.1 hunit), if_pos]
    rw [Bool.not_eq_true', List.isEmpty_eq_false_iff]
    exact hne
  · have hnames : ¬catalog.Names (arguments.headD "") := fun h => hunit ⟨h, .inl hnil⟩
    rw [hrun, if_neg (mt meansUnit_iff.1 hunit), if_neg, if_neg (mt Catalog.finds_iff.1 hnames)]
    · exact ⟨hnames, rfl⟩
    · simp [hnil]

/-- A bare token never fails. It makes a node of the first entry found iff it means a unit; else,
iff values are claimed, it makes no node and writes what is claimed; else the catalog has no name
for it, and it makes a composite. If a node is made, it is the only change of nodes and edges; if
none is made, claims are written. -/
theorem runBare_chooses (h : x.document.Reachable) (catalog : Catalog) (arguments : List String)
    (left isLast : Bool) :
    let o := x.runBare catalog arguments left isLast
    let first := arguments.headD ""
    let claims := (Claim.probe x.document arguments).getD []
    let unit := catalog.Names first ∧
      (claims = [] ∨ ∃ c, claims.head? = some c ∧ c.value.isString = true)
    let made := o.draft.document.nodes.keys ≠ x.document.nodes.keys
    o.error = none ∧
    (unit ↔ ∃ e id y, catalog.search first 1 = [e] ∧
      x.createNode e.blueprint left = some (id, y) ∧
      o.draft = { y with feedback := o.draft.feedback }) ∧
    (¬unit → (claims ≠ [] ↔ ¬made ∧ o = x.applyClaims claims)) ∧
    (¬unit → claims = [] → ¬catalog.Names first ∧ ∃ id,
      x.createNode (.composite none (newBody first true true)) left = some (id, o.draft)) ∧
    (made → ∃ id a cs, x.document.Gains id a cs o.draft.document) ∧
    (¬made → ∃ n, x.document.selection.head? = some n ∧ Fills n claims x o.draft) := by
  intro o first claims unit made
  have hv := h.valid
  obtain ⟨hunit, hassign, hsubgraph⟩ := runBare_eq x catalog arguments left isLast
  have hmakes : ∀ {b id y}, x.createNode b left = some (id, y) →
      y.document.nodes.keys ≠ x.document.nodes.keys ∧
        ∃ id a cs, x.document.Gains id a cs y.document := by
    intro b id y hc
    obtain ⟨g, p, cs, hgains⟩ := createNode_gains hv hc
    refine ⟨?_, id, _, cs, hgains⟩
    rw [hgains.keys]
    simp
  by_cases hu : unit
  · obtain ⟨e, id, y, feedback, he, hc, hcreate⟩ := createUnit_makes hv hu.1 left isLast
    have ho : o = ⟨{ y with feedback }, none⟩ := (hunit hu).trans hcreate
    have hmade := hmakes hc
    simp only [made, ho]
    exact ⟨trivial, iff_of_true hu ⟨e, id, y, he, hc, rfl⟩, fun hn => absurd hu hn,
      fun hn => absurd hu hn, fun _ => hmade.2, fun hn => absurd hmade.1 hn⟩
  · by_cases hne : claims = []
    · obtain ⟨hnames, hrun⟩ := hsubgraph hu hne
      obtain ⟨id, y, hc, hcreate⟩ := createSubgraph_makes hv first true true left
      have ho : o = y.done := hrun.trans hcreate
      obtain ⟨hmade, hgains⟩ := hmakes hc
      simp only [made, ho]
      refine ⟨rfl, iff_of_false hu ?_,
        fun _ => iff_of_false (absurd hne) fun hkept => hkept.1 hmade,
        fun _ _ => ⟨hnames, id, hc⟩, fun _ => hgains, fun hn => absurd hmade hn⟩
      rintro ⟨e, -, -, he, -⟩
      exact hnames (Catalog.names_of_search he)
    · obtain ⟨n, hn, happly, hfills⟩ := fills_applyClaims hv hne
      have ho : o = (x.setClaims n claims).done := (hassign hu hne).trans happly
      have hkept : ¬(x.setClaims n claims).document.nodes.keys ≠ x.document.nodes.keys :=
        fun hmade => hmade hfills.keys
      simp only [made, ho]
      refine ⟨rfl, iff_of_false hu ?_, fun _ => iff_of_true hne ⟨hkept, happly.symm⟩,
        fun _ hnil => absurd hnil hne, fun hmade => absurd hmade hkept, fun _ => ⟨n, hn, hfills⟩⟩
      rintro ⟨e, id, y, -, hc, hy⟩
      have hdocument := congrArg Draft.document hy
      have hmade := (hmakes hc).1
      rw [← show (x.setClaims n claims).document = y.document from hdocument] at hmade
      exact hkept hmade

/-- A number goes into an input although the catalog has a name that contains it. -/
theorem runBare_chooses_blending :
    let x : Draft := ⟨Claim.blending, [], [], {}⟩
    let catalog : Catalog := ⟨[⟨"2.5d", .ok number⟩]⟩
    let o := x.runBare catalog ["2.5", "hi"] false true
    x.document.Reachable ∧ catalog.Names "2.5" ∧ o.error = none ∧
      o.draft.document.nodes.keys = x.document.nodes.keys ∧
      o = x.applyClaims [⟨"b", .float 2.5⟩, ⟨"label", .string "hi"⟩] := by
  intro x catalog o
  have hreachable : x.document.Reachable := ⟨"Main", _, rfl⟩
  have hclaims : Claim.probe x.document ["2.5", "hi"] =
      some [⟨"b", .float 2.5⟩, ⟨"label", .string "hi"⟩] := by decide +kernel
  obtain ⟨herror, -, hassign, -⟩ := runBare_chooses hreachable catalog ["2.5", "hi"] false true
  rw [hclaims] at hassign
  obtain ⟨hkept, ho⟩ := (hassign (by simp [Value.isString])).1 (List.cons_ne_nil _ _)
  exact ⟨hreachable, Catalog.finds_iff.1 (by decide +kernel), herror, not_not.1 hkept, ho⟩

end Draft

end GraphDraft

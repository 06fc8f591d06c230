import GraphDraft.Proofs.Document.Connection

/-!
# Variables of all scopes

A document is read as the values of its variables, scope by scope (`value?`). Nodes and edges leave
them alone. Declaring a variable changes that variable only, and only if it has no value yet
(`value?_declare`).
-/

namespace GraphDraft.Document

variable {d e : Document} {cs : List Edge}

/-- The value of a variable, where the graph scope is that of graph `g`. -/
def value? (d : Document) (scope : Scope) (g : GraphId) (name : String) : Option Value :=
  (d.declarations? scope g).bind (·.get? name)

theorem value?_grown (h : d.Valid) {g : GraphId} (hg : d.graphs.contains g = true) (b : Blueprint)
    (p : Point) : (d.grown g b p).value? = d.value? := by
  funext scope k name
  cases scope with
  | graph =>
    show ((d.grown g b p).variables? k).bind _ = (d.variables? k).bind _
    rw [variables?_grown h hg]
    split
    · subst k
      rw [variables?, h.graph?_new]
      cases b.body <;> rfl
    · rfl
  | object | scene | application | saved => rfl

theorem Appends.value? (h : d.Appends cs e) : e.value? = d.value? := by
  funext scope g name
  cases scope with
  | graph =>
    show ((e.graph? g).map _).bind _ = ((d.graph? g).map _).bind _
    rw [h.graph, Option.map_map]
    rfl
  | object | scene | application | saved =>
    rw [Document.value?, Document.value?, ← h.rest]
    rfl

theorem declarations?_modifyVariables (d : Document) (scope : Scope) (g : GraphId)
    (f : Declarations → Declarations) (s : Scope) (k : GraphId) :
    (d.modifyVariables scope g f).declarations? s k =
      if s = scope ∧ (s = .graph → k = g) then (d.declarations? s k).map f
      else d.declarations? s k := by
  cases scope with
  | graph =>
    cases s with
    | graph =>
      show (d.mapDeclarations g f).variables? k = _
      rw [variables?_mapDeclarations]
      simp [declarations?, variables?]
    | object | scene | application | saved => rfl
  | object | scene | application | saved => cases s <;> rfl

theorem exists_declarations {g : GraphId} {o : Option NodeId} {ns : List NodeId}
    (hg : d.listing? g = some (o, ns)) (scope : Scope) :
    ∃ vs, d.declarations? scope g = some vs := by
  cases scope with
  | graph =>
    obtain ⟨z, hz, -⟩ := graph?_of_listing? hg
    exact ⟨_, congrArg (Option.map _) hz⟩
  | object | scene | application | saved => exact ⟨_, rfl⟩

/-- Only the graph scope depends on the graph. -/
theorem declarations?_congr {scope s : Scope} {g k : GraphId}
    (h : s = scope ∧ (s = .graph → k = g)) : d.declarations? s k = d.declarations? scope g := by
  obtain ⟨rfl, hg⟩ := h
  cases s with
  | graph => rw [hg rfl]
  | object | scene | application | saved => rfl

/-- Declaring a variable gives it a value if it has none, and leaves the others alone. -/
theorem get?_declare (vs : Declarations) (name m : String) (v : Value) :
    (if vs.contains name then vs else vs.put name v).get? m =
      if m = name then some ((vs.get? name).getD v) else vs.get? m := by
  rw [Store.contains]
  cases hget : vs.get? name with
  | none => simp
  | some w =>
    by_cases hm : m = name
    · subst m
      simp [hget]
    · simp [hm]

theorem value?_declare {scope : Scope} {g : GraphId} {vs : Declarations}
    (hvs : d.declarations? scope g = some vs) (name : String) (v : Value) (s : Scope) (k : GraphId)
    (m : String) :
    (d.modifyVariables scope g fun vs =>
        if vs.contains name then vs else vs.put name v).value? s k m =
      if s = scope ∧ (s = .graph → k = g) ∧ m = name then some ((d.value? scope g name).getD v)
      else d.value? s k m := by
  have hvalue : d.value? scope g name = vs.get? name := by rw [value?, hvs]; rfl
  rw [value?, declarations?_modifyVariables, hvalue, value?]
  by_cases hscope : s = scope ∧ (s = .graph → k = g)
  · rw [if_pos hscope, declarations?_congr hscope, hvs, Option.map_some, Option.bind_some,
      get?_declare, Option.bind_some]
    simp only [hscope.1, true_and]
    split <;> simp_all
  · rw [if_neg hscope, if_neg fun h => hscope ⟨h.1, h.2.1⟩]

theorem nodes_modifyVariables (d : Document) (scope : Scope) (g : GraphId)
    (f : Declarations → Declarations) : (d.modifyVariables scope g f).nodes = d.nodes := by
  cases scope <;> rfl

theorem listing?_modifyVariables (d : Document) (scope : Scope) (g : GraphId)
    (f : Declarations → Declarations) : (d.modifyVariables scope g f).listing? = d.listing? := by
  cases scope with
  | graph => exact listing?_mapDeclarations ..
  | object | scene | application | saved => rfl

theorem edges?_modifyVariables (d : Document) (scope : Scope) (g : GraphId)
    (f : Declarations → Declarations) : (d.modifyVariables scope g f).edges? = d.edges? := by
  cases scope with
  | graph => exact edges?_mapDeclarations ..
  | object | scene | application | saved => rfl

end GraphDraft.Document

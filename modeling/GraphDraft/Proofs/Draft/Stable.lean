import GraphDraft.Command.Run

/-!
# What running a line preserves

Intents change drafts in a few ways only. A property that each of them preserves (`Durable`) is
preserved by every intent (`Durable.run`) and by every line (`Durable.runAll`). If the stack and the
feedback play no part in it, there is less to show (`Stable`).
-/

namespace GraphDraft.Draft

/-- A property of drafts that survives what commands do to documents. -/
structure Kept (P : Draft → Prop) : Prop where
  create : ∀ {x y : Draft} {b left n}, P x → x.createNode b left = some (n, y) → P y
  /-- An accessor of a variable is joined to what it is placed for. -/
  access : ∀ {x y : Draft} {g b p n e}, P x → x.placeNode g b p = some (n, y) →
    e.source = n ∨ e.target = n → P (y.join e)
  define : ∀ {x y : Draft} {g kind name id}, P x → x.definePort g kind name = some (id, y) → P y
  declare : ∀ {x : Draft} (scope g name type), P x → P (x.declareVariable scope g name type).2
  fill : ∀ {x : Draft} (n key v), P x → P (x.setDefault n key v)
  select : ∀ {x : Draft} (n), P x → P { x with document := x.document.select n }

/-- A property of drafts that survives whatever a command does. -/
structure Durable (P : Draft → Prop) : Prop extends Kept P where
  pop : ∀ {x : Draft}, P x → P { x with stack := x.stack.dropLast }
  tell : ∀ {x : Draft} (feedback), P x → P { x with feedback }

/-- A property of drafts that survives whatever a command does, and that does not depend on the
stack and the feedback. -/
structure Stable (P : Draft → Prop) : Prop extends Kept P where
  aside : ∀ {x : Draft} (stack feedback), P x → P { x with stack, feedback }

namespace Durable

variable {P : Draft → Prop} {x : Draft} (h : Durable P) (hx : P x)
include h hx

theorem create_getD (b : Blueprint) (left : Bool) : P (x.create b left) := by
  rw [Draft.create]
  cases hc : x.createNode b left with
  | none => exact hx
  | some r => exact h.create (n := r.1) hx hc

theorem createUnit (catalog : Catalog) (query : String) (left isLast : Bool) :
    P (x.createUnit catalog query left isLast).draft := by
  simp only [Draft.createUnit]
  split
  · exact hx
  · split
    · exact h.tell _ (h.create_getD hx _ left)
    · exact h.create_getD hx _ left

theorem createSubgraph (title : String) (entry exit left : Bool) :
    P (x.createSubgraph title entry exit left).draft :=
  h.create_getD hx _ left

theorem addPort (kind : PortKind) (name : String) : P (x.addPort kind name).draft := by
  rw [Draft.addPort]
  split
  · exact hx
  · cases hd : x.definePort x.editedGraph kind name with
    | none => exact hx
    | some r =>
      obtain ⟨id, y⟩ := r
      exact h.define hx hd

theorem setClaims (n : NodeId) (claims : List Claim) : P (x.setClaims n claims) := by
  induction claims generalizing x with
  | nil => exact hx
  | cons c claims ih => exact ih (h.fill n c.key c.value hx)

theorem applyClaims (claims : List Claim) : P (x.applyClaims claims).draft := by
  rw [Draft.applyClaims]
  split
  · exact h.setClaims hx _ claims
  · exact hx

theorem assignDefaults (values : List String) : P (x.assignDefaults values).draft := by
  rw [Draft.assignDefaults]
  split
  · exact h.applyClaims hx _
  · exact hx

theorem placeAccessor (scope : Scope) (access : Access) (name : String) (n : NodeId) (z : Node)
    (key : String) (type : DataType) : P (x.placeAccessor scope access name n z key type) := by
  have hd := h.declare scope z.graph name type hx
  cases access with
  | set =>
    rw [Draft.placeAccessor]
    split
    · rename_i hp
      exact h.access hd hp (.inr rfl)
    · exact hd
  | get =>
    rw [Draft.placeAccessor]
    split
    · rename_i hp
      exact h.access hd hp (.inl rfl)
    · exact hd

theorem linkVariable (scope : Scope) (access : Access) (name : Option String) :
    P (x.linkVariable scope access name).draft := by
  rw [Draft.linkVariable]
  split
  · exact hx
  · split
    · exact hx
    · dsimp only
      split
      · exact hx
      · exact h.placeAccessor hx ..

theorem popSelect (count : Nat) : P (popSelect count x) := by
  induction count generalizing x with
  | zero => exact hx
  | succ count ih =>
    rw [Draft.popSelect]
    split
    · exact ih (h.select _ (h.pop hx))
    · exact hx

theorem goUp (count : Nat) : P (x.goUp count).draft := by
  rw [Draft.goUp]
  split
  · exact hx
  · exact h.popSelect (h.pop hx) _

theorem say (line : String) : P (x.say line) :=
  h.tell _ hx

theorem runBare (catalog : Catalog) (arguments : List String) (left isLast : Bool) :
    P (x.runBare catalog arguments left isLast).draft := by
  simp only [Draft.runBare]
  split
  · exact h.createUnit hx ..
  · split
    · exact h.applyClaims hx _
    · split
      · exact h.createUnit hx ..
      · exact h.createSubgraph hx ..

theorem run (catalog : Catalog) (i : Intent) : P (i.run catalog x).draft := by
  cases i with
  | bare arguments left isLast => exact h.runBare hx catalog arguments left isLast
  | createUnit query left isLast => exact h.createUnit hx catalog query left isLast
  | goUp count => exact h.goUp hx count
  | createSubgraph title entry exit left => exact h.createSubgraph hx title entry exit left
  | addPort kind name => exact h.addPort hx kind name
  | assignDefaults values => exact h.assignDefaults hx values
  | linkVariable scope access name => exact h.linkVariable hx scope access name
  | showAll query => exact h.say hx _

omit hx in
theorem report {o : Outcome} (ho : P o.draft) : P o.report := by
  rw [Outcome.report]
  split
  · split
    · exact h.say ho _
    · exact ho
  · exact ho

theorem runAll (catalog : Catalog) (is : List Intent) : P (runAll catalog is x).2 := by
  induction is generalizing x with
  | nil => exact hx
  | cons i is ih => exact ih (h.report (h.run hx catalog i))

end Durable

theorem Stable.durable {P : Draft → Prop} (h : Stable P) : Durable P where
  toKept := h.toKept
  pop hx := h.aside _ _ hx
  tell feedback hx := h.aside _ feedback hx

theorem Stable.runAll {P : Draft → Prop} (h : Stable P) {x : Draft} (hx : P x) (catalog : Catalog)
    (is : List Intent) : P (GraphDraft.runAll catalog is x).2 :=
  h.durable.runAll hx catalog is

end GraphDraft.Draft

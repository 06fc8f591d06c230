import GraphDraft.Command.Run
import Mathlib.Tactic.Set

/-!
# What a line does not look at

What an intent does to a document depends on the document alone. It does not depend on what has
been noted before, nor on what has been told to the user, nor on whether the intent is the last one
of its line; and none but going up looks at the nodes created before (`Beside.run`). Hence a line
does the same after another one as on its own (`Beside.runAll`).
-/

namespace GraphDraft

/-- The intent as it is before the end of a line. -/
def Intent.plain : Intent → Intent
  | bare arguments left _ => bare arguments left false
  | createUnit query left _ => createUnit query left false
  | goUp count => goUp count
  | createSubgraph title entry exit left => createSubgraph title entry exit left
  | addPort kind name => addPort kind name
  | assignDefaults values => assignDefaults values
  | linkVariable scope access name => linkVariable scope access name
  | showAll query => showAll query

@[simp] theorem Intent.plain_plain (i : Intent) : i.plain.plain = i.plain := by
  cases i <;> rfl

theorem Intent.plain_eq_goUp_iff {i : Intent} {n : Nat} : i.plain = .goUp n ↔ i = .goUp n := by
  cases i <;> simp [plain]

/-- The last token of a line looks for more entries, but the first one that it finds is the same. -/
theorem Catalog.head?_search (c : Catalog) (query : String) {limit : Nat} (h : 0 < limit) :
    (c.search query limit).head? = (c.search query 1).head? := by
  have hne : limit ≠ 0 := by omega
  rw [search, search, List.head?_take, List.head?_take, if_neg hne, if_neg Nat.one_ne_zero]

namespace Draft

/-- `x` is `y` after a line that has noted `j` and created the nodes `t`. -/
structure Beside (j : Journal) (t : List NodeId) (x y : Draft) : Prop where
  document : x.document = y.document
  journal : x.journal = j ++ y.journal
  stack : x.stack = t ++ y.stack

namespace Beside

variable {j : Journal} {t : List NodeId} {x y : Draft}

theorem refl (x : Draft) : Beside [] [] x x := ⟨rfl, rfl, rfl⟩

section
variable (h : Beside j t x y)
include h

/-! ## Changes -/

theorem aside (f f' : Feedback) : Beside j t { x with feedback := f } { y with feedback := f' } :=
  ⟨h.document, h.journal, h.stack⟩

theorem record (d : Document) (c : Change) :
    Beside j t (record { x with document := d } c) (record { y with document := d } c) :=
  ⟨rfl, by simp [Draft.record, h.journal], h.stack⟩

theorem create (b : Blueprint) (left : Bool) : Beside j t (x.create b left) (y.create b left) := by
  simp only [Draft.create, createNode, h.document, Option.map_map]
  cases y.document.addNode _ b _ with
  | none => exact h
  | some r => exact ⟨rfl, by simp [Draft.record, h.journal], by simp [Draft.record, h.stack]⟩

theorem definePort (g : GraphId) (kind : PortKind) (name : String) :
    Beside j t (((x.definePort g kind name).map (·.2)).getD x)
      (((y.definePort g kind name).map (·.2)).getD y) := by
  simp only [Draft.definePort, h.document, Option.map_map]
  cases y.document.addDefinition _ _ with
  | none => exact h
  | some r => exact h.record r.2 _

theorem declareVariable (scope : Scope) (g : GraphId) (name : String) (type : DataType) :
    Beside j t (x.declareVariable scope g name type).2 (y.declareVariable scope g name type).2 := by
  simp only [Draft.declareVariable, h.document]
  split
  · exact h.record _ _
  · exact ⟨rfl, h.journal, h.stack⟩

theorem setDefault (n : NodeId) (key : String) (v : Value) :
    Beside j t (x.setDefault n key v) (y.setDefault n key v) := by
  simp only [Draft.setDefault, h.document]
  split
  · exact h.record _ _
  · exact h

/-! ## Commands -/

theorem say (line line' : String) : Beside j t (x.say line) (y.say line') :=
  h.aside _ _

theorem createUnit (catalog : Catalog) (query : String) (left isLast isLast' : Bool) :
    Beside j t (x.createUnit catalog query left isLast).draft
      (y.createUnit catalog query left isLast').draft := by
  have hfirst : ∀ last : Bool,
      (catalog.search query (if last then hintSize else 1)).head? =
        (catalog.search query 1).head? := by
    intro last
    refine catalog.head?_search query ?_
    cases last <;> decide
  simp only [Draft.createUnit, hfirst]
  cases (catalog.search query 1).head? with
  | none => exact h
  | some e =>
    have hc := h.create e.blueprint left
    cases isLast <;> cases isLast'
    · exact hc
    · exact hc.aside (x.create e.blueprint left).feedback _
    · exact hc.aside _ (y.create e.blueprint left).feedback
    · exact hc.aside _ _

theorem addPort (kind : PortKind) (name : String) :
    Beside j t (x.addPort kind name).draft (y.addPort kind name).draft := by
  have hgraph : x.editedGraph = y.editedGraph := by rw [editedGraph, h.document, editedGraph]
  rw [Draft.addPort, Draft.addPort, hgraph]
  split
  · exact h
  · exact h.definePort _ kind name

theorem setClaims (n : NodeId) (claims : List Claim) :
    Beside j t (x.setClaims n claims) (y.setClaims n claims) := by
  induction claims generalizing x y with
  | nil => exact h
  | cons c claims ih => exact ih (h.setDefault n c.key c.value)

theorem applyClaims (claims : List Claim) :
    Beside j t (x.applyClaims claims).draft (y.applyClaims claims).draft := by
  rw [Draft.applyClaims, Draft.applyClaims, h.document]
  split
  · exact h.setClaims _ claims
  · exact h

theorem assignDefaults (values : List String) :
    Beside j t (x.assignDefaults values).draft (y.assignDefaults values).draft := by
  rw [Draft.assignDefaults, Draft.assignDefaults, h.document]
  split
  · exact h.applyClaims _
  · exact h

theorem accessor (g : GraphId) (b : Blueprint) (p : Point) (e : NodeId → Edge) :
    Beside j t
      (match x.placeNode g b p with
        | some (n, z) => z.join (e n)
        | none => x)
      (match y.placeNode g b p with
        | some (n, z) => z.join (e n)
        | none => y) := by
  simp only [placeNode, h.document]
  cases y.document.addNode g b p with
  | none => exact h
  | some r => exact ⟨rfl, by simp [join, Draft.record, h.journal], h.stack⟩

theorem placeAccessor (scope : Scope) (access : Access) (name : String) (n : NodeId) (z : Node)
    (key : String) (type : DataType) :
    Beside j t (x.placeAccessor scope access name n z key type)
      (y.placeAccessor scope access name n z key type) := by
  have hd := h.declareVariable scope z.graph name type
  cases access with
  | set => exact hd.accessor z.graph _ _ fun id => ⟨.value, n, key, id, "input"⟩
  | get => exact hd.accessor z.graph _ _ fun id => ⟨.value, id, "value", n, key⟩

theorem linkVariable (scope : Scope) (access : Access) (name : Option String) :
    Beside j t (x.linkVariable scope access name).draft
      (y.linkVariable scope access name).draft := by
  rw [Draft.linkVariable, Draft.linkVariable, h.document]
  split
  · exact h
  · split
    · exact h
    · dsimp only
      split
      · exact h
      · exact h.placeAccessor ..

theorem runBare (catalog : Catalog) (arguments : List String) (left isLast isLast' : Bool) :
    Beside j t (x.runBare catalog arguments left isLast).draft
      (y.runBare catalog arguments left isLast').draft := by
  simp only [Draft.runBare, h.document]
  split
  · exact h.createUnit ..
  · split
    · exact h.applyClaims _
    · split
      · exact h.createUnit ..
      · exact h.create ..

end

/-- Failures differ in what is told at most. -/
theorem report {o o' : Outcome} (h : Beside j t o.draft o'.draft) :
    Beside j t o.report o'.report := by
  have hreport : ∀ o : Outcome, ∃ f, o.report = { o.draft with feedback := f } := by
    intro o
    rw [Outcome.report]
    split
    · split
      · exact ⟨_, rfl⟩
      · exact ⟨_, rfl⟩
    · exact ⟨_, rfl⟩
  obtain ⟨f, hf⟩ := hreport o
  obtain ⟨f', hf'⟩ := hreport o'
  rw [hf, hf']
  exact h.aside f f'

/-! ## Going up -/

theorem popSelect (h : Beside j [] x y) (count : Nat) :
    Beside j [] (popSelect count x) (popSelect count y) := by
  induction count generalizing x y with
  | zero => exact h
  | succ count ih =>
    have hstack : x.stack = y.stack := h.stack
    rw [Draft.popSelect, Draft.popSelect, hstack]
    split
    · exact ih ⟨by rw [h.document], h.journal, rfl⟩
    · exact h

theorem goUp (h : Beside j [] x y) (count : Nat) :
    Beside j [] (x.goUp count).draft (y.goUp count).draft := by
  have hstack : x.stack = y.stack := h.stack
  rw [Draft.goUp, Draft.goUp, hstack]
  split
  · exact h
  · have hleft : Beside j [] { x with stack := y.stack.dropLast }
        { y with stack := y.stack.dropLast } := ⟨h.document, h.journal, rfl⟩
    exact hleft.popSelect _

/-! ## Lines -/

/-- An intent does the same beside other changes. Going up needs the same nodes to go back to. -/
theorem run (h : Beside j t x y) (catalog : Catalog) (i : Intent)
    (hup : t = [] ∨ ∀ n, i ≠ .goUp n) :
    Beside j t (i.run catalog x).draft (i.plain.run catalog y).draft := by
  cases i with
  | bare arguments left isLast => exact h.runBare catalog arguments left isLast false
  | createUnit query left isLast => exact h.createUnit catalog query left isLast false
  | goUp count =>
    rcases hup with rfl | hup
    · exact h.goUp count
    · exact absurd rfl (hup count)
  | createSubgraph title entry exit left => exact h.create _ left
  | addPort kind name => exact h.addPort kind name
  | assignDefaults values => exact h.assignDefaults values
  | linkVariable scope access name => exact h.linkVariable scope access name
  | showAll query => exact h.say _ _

theorem runAll (h : Beside j t x y) (catalog : Catalog) (is : List Intent)
    (hup : t = [] ∨ ∀ n, .goUp n ∉ is) :
    Beside j t (runAll catalog is x).2 (GraphDraft.runAll catalog (is.map Intent.plain) y).2 := by
  induction is generalizing x y with
  | nil => exact h
  | cons i is ih =>
    have hi : t = [] ∨ ∀ n, i ≠ .goUp n := by
      refine hup.imp_right fun hup n he => hup n ?_
      rw [he]
      exact List.mem_cons_self
    have his : t = [] ∨ ∀ n, .goUp n ∉ is :=
      hup.imp_right fun hup n hn => hup n (List.mem_cons_of_mem _ hn)
    exact ih (h.run catalog i hi).report his

end Beside

end Draft

theorem runAll_append (catalog : Catalog) (is js : List Intent) (x : Draft) :
    (runAll catalog (is ++ js) x).2 = (runAll catalog js (runAll catalog is x).2).2 := by
  induction is generalizing x with
  | nil => rfl
  | cons i is ih => exact ih _

/-- A line that has the intents of two lines does what the two do one after the other, if the second
one does not go up. It is of no account which intent is the last one of its line. -/
theorem runAll_beside (catalog : Catalog) {is is₁ is₂ : List Intent}
    (his : is.map Intent.plain = is₁.map Intent.plain ++ is₂.map Intent.plain)
    (hup : ∀ n, .goUp n ∉ is₂) (x : Draft) (f : Feedback) :
    Draft.Beside (runAll catalog is₁ x).2.journal (runAll catalog is₁ x).2.stack
      (runAll catalog is x).2
      (runAll catalog is₂ ⟨(runAll catalog is₁ x).2.document, [], [], f⟩).2 := by
  set first := (runAll catalog is₁ x).2
  set plain := (runAll catalog (is₁.map Intent.plain) x).2
  set alone : Draft := ⟨first.document, [], [], f⟩
  have hwhole := (Draft.Beside.refl x).runAll catalog is (.inl rfl)
  rw [his, runAll_append] at hwhole
  have hfirst : Draft.Beside [] [] first plain :=
    (Draft.Beside.refl x).runAll catalog is₁ (.inl rfl)
  have hsecond := (Draft.Beside.refl alone).runAll catalog is₂ (.inl rfl)
  have hafter : Draft.Beside first.journal first.stack plain alone :=
    ⟨hfirst.document.symm, by simpa [alone] using hfirst.journal.symm,
      by simpa [alone] using hfirst.stack.symm⟩
  have hplain : ∀ n, .goUp n ∉ is₂.map Intent.plain := by
    intro n hn
    obtain ⟨i, hi, hin⟩ := List.mem_map.1 hn
    exact hup n (Intent.plain_eq_goUp_iff.1 hin ▸ hi)
  have hthen := hafter.runAll catalog (is₂.map Intent.plain) (.inr hplain)
  simp only [List.map_map, Function.comp_def, Intent.plain_plain] at hthen
  exact
    { document := hwhole.document.trans (hthen.document.trans hsecond.document.symm)
      journal := by
        rw [hwhole.journal, hthen.journal, hsecond.journal]
        rfl
      stack := by
        rw [hwhole.stack, hthen.stack, hsecond.stack]
        rfl }

end GraphDraft

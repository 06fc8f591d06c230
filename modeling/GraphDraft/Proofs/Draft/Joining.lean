import GraphDraft.Proofs.Document.Connection
import GraphDraft.Proofs.Draft.Reachable
import Mathlib.Data.List.Find
import Mathlib.Data.List.ReduceOption

/-!
# Joining two nodes

Joining one node to another makes at most one control edge, between the first free ports, and then
gives each value output the first input that is still to be had (`Greedy`). It makes an edge if and
only if the one node can feed the other (`wire_eq_nil_iff`), and it leaves no value output that
could be joined to any value input (`wire_saturates`), since an edge takes its output and no edge
frees a port.
-/

namespace GraphDraft

namespace Document

variable {d e : Document} {source target : NodeId} {s t : Node} {c : Edge} {is os : List String}

/-- Some edge from one node to another can be made. -/
def Feeds (d : Document) (source target : NodeId) : Prop :=
  ∃ c : Edge, c.source = source ∧ c.target = target ∧ d.canConnect c = true

/-- The control edge from the first free output of a node to the first free input of another. -/
def freeControl? (d : Document) (source target : NodeId) (s t : Ports) : Option Edge :=
  (s.controlOutputs.find? fun o => !d.outputConnected source .control o).bind fun o =>
    (t.controlInputs.find? fun i => !d.inputConnected target .control i).map fun i =>
      ⟨.control, source, o, target, i⟩

/-- Each output, in order, gets an edge to the first input to which it can be connected once the
outputs before it have theirs, or none if there is no such input. -/
structure Greedy (d : Document) (source target : NodeId) (outputs inputs : List String)
    (gets : List (Option Edge)) : Prop where
  length : gets.length = outputs.length
  first : ∀ k o, outputs[k]? = some o → gets[k]? = some
    ((inputs.find? fun i => (d.addEdges (gets.take k).reduceOption).canConnect
      ⟨.value, source, o, target, i⟩).map fun i => ⟨.value, source, o, target, i⟩)

/-! ## One edge -/

theorem firstEdge?_eq (d : Document) (kind : EdgeKind) (source : NodeId) (o : String)
    (target : NodeId) (is : List String) : d.firstEdge? kind source o target is =
      (is.find? fun i => d.canConnect ⟨kind, source, o, target, i⟩).map fun i =>
        ⟨kind, source, o, target, i⟩ := by
  rw [firstEdge?, List.find?_map]
  rfl

theorem firstEdge?_eq_none_iff {kind : EdgeKind} {o : String} :
    d.firstEdge? kind source o target is = none ↔
      ∀ i ∈ is, d.canConnect ⟨kind, source, o, target, i⟩ = false := by
  simp [firstEdge?_eq]

/-- Between two nodes control goes from any free output to any free input. -/
theorem canConnect_control_iff (hs : d.node? source = some s) (ht : d.node? target = some t)
    {o i : String} : d.canConnect ⟨.control, source, o, target, i⟩ = true ↔
      (source ≠ target ∧ s.graph = t.graph) ∧
      (o ∈ s.ports.controlOutputs ∧ d.outputConnected source .control o = false) ∧
      i ∈ t.ports.controlInputs ∧ d.inputConnected target .control i = false := by
  simp only [canConnect, hs, ht, portsMatch, Bool.and_eq_true, List.contains_eq_mem,
    decide_eq_true_eq, Bool.not_eq_true']
  tauto

theorem controlEdge?_eq_freeControl? (hs : d.node? source = some s)
    (ht : d.node? target = some t) (hne : source ≠ target) (hg : s.graph = t.graph) :
    d.controlEdge? source target s.ports t.ports =
      d.freeControl? source target s.ports t.ports := by
  rw [controlEdge?, freeControl?]
  cases ho : s.ports.controlOutputs.find? fun o => !d.outputConnected source .control o with
  | none => rfl
  | some o =>
    have hmem := List.mem_of_find?_eq_some ho
    have hfree : d.outputConnected source .control o = false := by
      simpa using List.find?_some ho
    rw [Option.bind_some, Option.bind_some, firstEdge?_eq]
    congr 1
    refine List.find?_congr fun i hi => ?_
    rw [Bool.eq_iff_iff, canConnect_control_iff hs ht]
    simp [hne, hg, hmem, hfree, hi]

/-- If the first free output leads nowhere, no output does. -/
theorem controlEdge?_eq_none_iff (hs : d.node? source = some s) (ht : d.node? target = some t) :
    d.controlEdge? source target s.ports t.ports = none ↔
      ∀ o ∈ s.ports.controlOutputs, ∀ i ∈ t.ports.controlInputs,
        d.canConnect ⟨.control, source, o, target, i⟩ = false := by
  rw [controlEdge?, Option.bind_eq_none_iff]
  constructor
  · intro h o ho i hi
    rw [← Bool.not_eq_true, canConnect_control_iff hs ht]
    rintro ⟨hnodes, ⟨-, hfree⟩, hin⟩
    cases hf : s.ports.controlOutputs.find? fun o => !d.outputConnected source .control o with
    | none => exact absurd hfree (by simpa using List.find?_eq_none.1 hf o ho)
    | some a =>
      -- the first free output could be joined to `i` just as `o` could
      have hno := firstEdge?_eq_none_iff.1 (h a hf) i hi
      have ha : d.outputConnected source .control a = false := by simpa using List.find?_some hf
      have hcan := (canConnect_control_iff hs ht).2
        ⟨hnodes, ⟨List.mem_of_find?_eq_some hf, ha⟩, hin⟩
      rw [hno] at hcan
      cases hcan
  · intro h a ha
    exact firstEdge?_eq_none_iff.2 (h a (List.mem_of_find?_eq_some ha))

/-- A value edge needs an output and an input that accepts it, each the first one of its key. -/
theorem portsMatch_value_iff {p q : Ports} {o i : String} :
    portsMatch .value p o q i = true ↔ ∃ a b, p.valueOutput? o = some a ∧
      q.valueInput? i = some b ∧ b.type.accepts a.type = true := by
  rw [portsMatch]
  split
  · simp_all
  · simp_all

theorem key_mem_of_valueOutput? {p : Ports} {o : String} {a : ValueOutput}
    (h : p.valueOutput? o = some a) : o ∈ p.valueOutputs.map (·.key) := by
  have hkey : a.key = o := by simpa using List.find?_some h
  exact hkey ▸ List.mem_map_of_mem (List.mem_of_find?_eq_some h)

theorem key_mem_of_valueInput? {p : Ports} {i : String} {a : ValueInput}
    (h : p.valueInput? i = some a) : i ∈ p.valueInputs.map (·.key) := by
  have hkey : a.key = i := by simpa using List.find?_some h
  exact hkey ▸ List.mem_map_of_mem (List.mem_of_find?_eq_some h)

theorem canFeed_iff (hs : d.node? source = some s) (ht : d.node? target = some t) :
    d.canFeed source target = true ↔
      (∃ o ∈ s.ports.controlOutputs, ∃ i ∈ t.ports.controlInputs,
        d.canConnect ⟨.control, source, o, target, i⟩ = true) ∨
      ∃ o ∈ s.ports.valueOutputs.map (·.key), ∃ i ∈ t.ports.valueInputs.map (·.key),
        d.canConnect ⟨.value, source, o, target, i⟩ = true := by
  simp [canFeed, hs, ht]

/-- Looking at all pairs of ports finds any edge that can be made. -/
theorem canFeed_iff_feeds : d.canFeed source target = true ↔ d.Feeds source target := by
  constructor
  · intro h
    cases hs : d.node? source with
    | none => simp [canFeed, hs] at h
    | some s =>
      cases ht : d.node? target with
      | none => simp [canFeed, hs, ht] at h
      | some t =>
        obtain ⟨o, -, i, -, hcan⟩ | ⟨o, -, i, -, hcan⟩ := (canFeed_iff hs ht).1 h
        · exact ⟨_, rfl, rfl, hcan⟩
        · exact ⟨_, rfl, rfl, hcan⟩
  · rintro ⟨⟨kind, source, o, target, i⟩, rfl, rfl, hcan⟩
    obtain ⟨s, t, hs, ht, -, -, hm, -⟩ := canConnect_iff.1 hcan
    refine (canFeed_iff hs ht).2 ?_
    cases kind with
    | control =>
      obtain ⟨-, ⟨ho, -⟩, hi, -⟩ := (canConnect_control_iff hs ht).1 hcan
      exact .inl ⟨o, ho, i, hi, hcan⟩
    | value =>
      obtain ⟨p, q, hp, hq, -⟩ := portsMatch_value_iff.1 hm
      exact .inr ⟨o, key_mem_of_valueOutput? hp, i, key_mem_of_valueInput? hq, hcan⟩

/-! ## Value edges -/

/-- The first output gets its edge, then the others get theirs. -/
theorem wireValues_cons (source target : NodeId) (is : List String) (o : String)
    (os : List String) (d : Document) : wireValues source target is (o :: os) d =
      let c := d.firstEdge? .value source o target is
      let r := wireValues source target is os (c.elim d d.addEdge)
      (c.toList ++ r.1, r.2) := by
  rw [wireValues]
  cases d.firstEdge? .value source o target is <;> rfl

theorem Greedy.cons {o : String} {gets : List (Option Edge)}
    (h : ((d.firstEdge? .value source o target is).elim d d.addEdge).Greedy source target os is
      gets) :
    d.Greedy source target (o :: os) is (d.firstEdge? .value source o target is :: gets) where
  length := congrArg (· + 1) h.length
  first k p hp := by
    cases k with
    | zero =>
      cases hp
      rw [firstEdge?_eq]
      rfl
    | succ k =>
      have hstart : d.addEdges
            ((d.firstEdge? .value source o target is :: gets).take (k + 1)).reduceOption =
          ((d.firstEdge? .value source o target is).elim d d.addEdge).addEdges
            (gets.take k).reduceOption := by
        cases d.firstEdge? .value source o target is <;> rfl
      rw [hstart]
      exact h.first k p hp

/-- Outputs are served one after the other, each as well as can be. -/
theorem exists_greedy (source target : NodeId) (is os : List String) (d : Document) :
    ∃ gets, d.Greedy source target os is gets ∧
      (wireValues source target is os d).1 = gets.reduceOption := by
  induction os generalizing d with
  | nil => exact ⟨[], ⟨rfl, fun k o ho => by cases ho⟩, rfl⟩
  | cons o os ih =>
    obtain ⟨gets, hgets, hmade⟩ := ih ((d.firstEdge? .value source o target is).elim d d.addEdge)
    refine ⟨_, hgets.cons, ?_⟩
    rw [wireValues_cons]
    simp only [hmade]
    cases d.firstEdge? .value source o target is <;> rfl

theorem wireValues_eq_nil_iff :
    (wireValues source target is os d).1 = [] ↔
      ∀ o ∈ os, ∀ i ∈ is, d.canConnect ⟨.value, source, o, target, i⟩ = false := by
  induction os with
  | nil => simp [wireValues]
  | cons o os ih =>
    rw [List.forall_mem_cons, ← firstEdge?_eq_none_iff, wireValues_cons]
    cases d.firstEdge? .value source o target is with
    | none => simp [ih]
    | some c => simp

theorem mem_wireValues (h : c ∈ (wireValues source target is os d).1) :
    c.kind = .value ∧ c.source = source ∧ c.target = target := by
  induction os generalizing d with
  | nil => cases h
  | cons o os ih =>
    rw [wireValues_cons, firstEdge?_eq] at h
    rcases List.mem_append.1 h with h | h
    · obtain ⟨i, -, rfl⟩ := Option.map_eq_some_iff.1 (Option.mem_toList.1 h)
      exact ⟨rfl, rfl, rfl⟩
    · exact ih h

/-- No output is left that could be joined to an input. -/
theorem wireValues_saturates (h : d.Valid) (is os : List String) : ∀ o ∈ os, ∀ i ∈ is,
    (wireValues source target is os d).2.canConnect ⟨.value, source, o, target, i⟩ = false := by
  induction os generalizing d with
  | nil => simp
  | cons o os ih =>
    have hrest := fun e : Document => (wireValues_makes source target is os e).appends
    rw [List.forall_mem_cons, wireValues_cons]
    cases hc : d.firstEdge? .value source o target is with
    | none =>
      have hnone := firstEdge?_eq_none_iff.1 hc
      exact ⟨fun i hi => (hrest d).canConnect_eq_false (hnone i hi), ih h⟩
    | some c =>
      rw [firstEdge?_eq] at hc
      obtain ⟨j, hj, rfl⟩ := Option.map_eq_some_iff.1 hc
      have hmade := List.find?_some hj
      refine ⟨fun i hi => ?_, ih (h.addEdge hmade)⟩
      have hhas := (wireValues_makes source target is os _).hasEdge_mono (hasEdge_addEdge h hmade)
      exact canConnect_of_hasEdge hhas rfl rfl rfl

/-! ## Both kinds of edges -/

/-- The edges that are made between two nodes, control first. -/
theorem wire_eq (hs : d.node? source = some s) (ht : d.node? target = some t) :
    d.wire source target =
      let control := d.controlEdge? source target s.ports t.ports
      let values := wireValues source target (t.ports.valueInputs.map (·.key))
        (s.ports.valueOutputs.map (·.key)) (control.elim d d.addEdge)
      (control.toList ++ values.1, values.2) := by
  rw [wire, hs, ht]

theorem wire_of_none (h : d.node? source = none ∨ d.node? target = none) :
    d.wire source target = ([], d) := by
  rw [wire]
  split
  · simp_all
  · rfl

theorem controlEdge?_eq_some {p q : Ports} (h : d.controlEdge? source target p q = some c) :
    c.kind = .control ∧ c.source = source ∧ c.target = target ∧ d.canConnect c = true := by
  obtain ⟨o, -, hc⟩ := Option.bind_eq_some_iff.1 h
  obtain ⟨hs, ht, hcan⟩ := firstEdge?_eq_some hc
  rw [firstEdge?_eq] at hc
  obtain ⟨i, -, rfl⟩ := Option.map_eq_some_iff.1 hc
  exact ⟨rfl, hs, ht, hcan⟩

theorem mem_wire (h : c ∈ (d.wire source target).1) : c.source = source ∧ c.target = target := by
  cases hs : d.node? source with
  | none => rw [wire_of_none (.inl hs)] at h; cases h
  | some s =>
    cases ht : d.node? target with
    | none => rw [wire_of_none (.inr ht)] at h; cases h
    | some t =>
      rw [wire_eq hs ht] at h
      rcases List.mem_append.1 h with h | h
      · exact (controlEdge?_eq_some (Option.mem_toList.1 h)).2.imp_right And.left
      · exact (mem_wireValues h).2

/-- Joining one node to another makes an edge if and only if the one can feed the other. -/
theorem wire_eq_nil_iff : (d.wire source target).1 = [] ↔ d.canFeed source target = false := by
  cases hs : d.node? source with
  | none => simp [wire_of_none (.inl hs), canFeed, hs]
  | some s =>
    cases ht : d.node? target with
    | none => simp [wire_of_none (.inr ht), canFeed, hs, ht]
    | some t =>
      rw [← Bool.not_eq_true, canFeed_iff hs ht, wire_eq hs ht]
      simp only [List.append_eq_nil_iff, Option.toList_eq_nil_iff]
      rw [not_or]
      have hcontrol : d.controlEdge? source target s.ports t.ports = none ↔
          ¬∃ o ∈ s.ports.controlOutputs, ∃ i ∈ t.ports.controlInputs,
            d.canConnect ⟨.control, source, o, target, i⟩ = true := by
        simp [controlEdge?_eq_none_iff hs ht]
      rw [← hcontrol]
      refine and_congr_right fun hnone => ?_
      rw [hnone, Option.elim_none, wireValues_eq_nil_iff]
      simp

theorem wire_ne_nil_iff : (d.wire source target).1 ≠ [] ↔ d.Feeds source target := by
  rw [ne_eq, wire_eq_nil_iff, Bool.not_eq_false, canFeed_iff_feeds]

theorem wire_of_canFeed_eq_false (h : d.canFeed source target = false) :
    d.wire source target = ([], d) := by
  have hnil := wire_eq_nil_iff.2 h
  exact Prod.ext hnil ((wire_makes d source target).eq_addEdges.trans (by rw [hnil]; rfl))

/-- Joining leaves no value output that could be joined to a value input. -/
theorem wire_saturates (h : d.Valid) (hs : d.node? source = some s) (ht : d.node? target = some t) :
    ∀ o ∈ s.ports.valueOutputs.map (·.key), ∀ i ∈ t.ports.valueInputs.map (·.key),
      (d.wire source target).2.canConnect ⟨.value, source, o, target, i⟩ = false := by
  rw [wire_eq hs ht]
  refine wireValues_saturates ?_ _ _
  cases hc : d.controlEdge? source target s.ports t.ports with
  | none => exact h
  | some c => exact h.addEdge (controlEdge?_eq_some hc).2.2.2

/-- Joining two nodes again makes no more value edges. -/
theorem kind_of_mem_wire_again (h : d.Valid)
    (hc : c ∈ ((d.wire source target).2.wire source target).1) : c.kind = .control := by
  have happends := (wire_makes d source target).appends
  cases hs : d.node? source with
  | none => rw [wire_of_none (.inl hs), wire_of_none (.inl hs)] at hc; cases hc
  | some s =>
    cases ht : d.node? target with
    | none => rw [wire_of_none (.inr ht), wire_of_none (.inr ht)] at hc; cases hc
    | some t =>
      have hfull := wire_saturates h hs ht
      set e := (d.wire source target).2
      rw [wire_eq (happends.node? ▸ hs) (happends.node? ▸ ht)] at hc
      rcases List.mem_append.1 hc with hc | hc
      · exact (controlEdge?_eq_some (Option.mem_toList.1 hc)).1
      · -- a second control edge takes no port from the value edges
        have hnone : (wireValues source target (t.ports.valueInputs.map (·.key))
            (s.ports.valueOutputs.map (·.key))
            ((e.controlEdge? source target s.ports t.ports).elim e e.addEdge)).1 = [] := by
          refine wireValues_eq_nil_iff.2 fun o ho i hi => ?_
          cases hb : e.controlEdge? source target s.ports t.ports with
          | none => exact hfull o ho i hi
          | some b =>
            have hcan := (controlEdge?_eq_some hb).2.2.2
            exact (appends_addEdge hcan).canConnect_eq_false (hfull o ho i hi)
        rw [hnone] at hc
        cases hc

end Document

/-! ## Joining in a draft -/

namespace Draft

open Document

/-- Joining one node to another makes no edge just if the one cannot feed the other. Else it makes a
control edge between the first free ports, if both have one, and gives each value output the first
input that can be had; these edges are appended to the graph of the two nodes, and counted. No value
output is left that could be joined to a value input, so joining the two again makes control edges
at most. -/
theorem connectNodes_greedy {x : Draft} (h : x.document.Reachable) (source target : NodeId) :
    let d := x.document
    let made := (x.connectNodes source target).1
    let y := (x.connectNodes source target).2
    (made = 0 ↔ d.canFeed source target = false) ∧
    (d.canFeed source target = false → y = x) ∧
    (d.canFeed source target = true → ∃ s t control values,
      d.node? source = some s ∧ d.node? target = some t ∧ s.graph = t.graph ∧
      control = d.freeControl? source target s.ports t.ports ∧
      (d.addEdges control.toList).Greedy source target (s.ports.valueOutputs.map (·.key))
        (t.ports.valueInputs.map (·.key)) values ∧
      let cs := control.toList ++ values.reduceOption
      (∀ c ∈ cs, c.source = source ∧ c.target = target) ∧ made = cs.length ∧
        y = { x with document := y.document } ∧ d.Appends cs y.document) ∧
    (∀ s t, d.node? source = some s → d.node? target = some t →
      ∀ o ∈ s.ports.valueOutputs, ∀ i ∈ t.ports.valueInputs,
        y.document.canConnect ⟨.value, source, o.key, target, i.key⟩ = false) ∧
    ∃ again, (∀ c ∈ again, c.kind = .control) ∧
      y.document.Appends again (y.connectNodes source target).2.document := by
  intro d made y
  have hmakes := wire_makes d source target
  refine ⟨?_, fun hno => ?_, fun hfeed => ?_, fun s t hs ht o ho i hi => ?_, ?_⟩
  · exact List.length_eq_zero_iff.trans wire_eq_nil_iff
  · show ({ x with document := (d.wire source target).2 } : Draft) = x
    rw [wire_of_canFeed_eq_false hno]
  · obtain ⟨c, hsource, htarget, hcan⟩ := canFeed_iff_feeds.1 hfeed
    obtain ⟨s, t, hs, ht, hne, hg, -⟩ := canConnect_iff.1 hcan
    rw [hsource] at hs hne
    rw [htarget] at ht hne
    obtain ⟨values, hvalues, hmade⟩ := exists_greedy source target
      (t.ports.valueInputs.map (·.key)) (s.ports.valueOutputs.map (·.key))
      ((d.controlEdge? source target s.ports t.ports).elim d d.addEdge)
    have hedges : (d.wire source target).1 =
        (d.controlEdge? source target s.ports t.ports).toList ++ values.reduceOption := by
      rw [wire_eq hs ht, ← hmade]
    rw [controlEdge?_eq_freeControl? hs ht hne hg] at hvalues hedges
    refine ⟨s, t, _, values, hs, ht, hg, rfl, ?_, ?_⟩
    · cases hc : d.freeControl? source target s.ports t.ports <;> rwa [hc] at hvalues
    · rw [← hedges]
      exact ⟨fun c => mem_wire, rfl, rfl, hmakes.appends⟩
  · exact wire_saturates h.valid hs ht o.key (List.mem_map_of_mem ho) i.key (List.mem_map_of_mem hi)
  · have hagain := (wire_makes y.document source target).appends
    exact ⟨_, fun c => kind_of_mem_wire_again h.valid, hagain⟩

/-- A node with two outputs of each kind, and one with inputs of three types. -/
def unlikePorts : Document :=
  Operation.runAll
    [.addNode .root
       { kind := .unit "Source", title := "Source"
         ports :=
           { controlOutputs := ["first", "second"]
             valueOutputs := [⟨"number", .float⟩, ⟨"text", .string⟩] } } .origin,
     .addNode .root
       { kind := .unit "Target", title := "Target"
         ports :=
           { controlInputs := ["enter", "again"]
             valueInputs := [⟨"name", .string, none⟩, ⟨"any", .object, none⟩,
               ⟨"size", .float, none⟩] } } .origin]
    (.empty "Main")

/-- The number goes to the first input that takes any value, and the text to the one before it. -/
theorem connectNodes_greedy_unlikePorts :
    let x : Draft := ⟨unlikePorts, [], [], {}⟩
    let y := (x.connectNodes ⟨0⟩ ⟨1⟩).2
    (x.connectNodes ⟨0⟩ ⟨1⟩).1 = 3 ∧ y.document.edges? .root = some
        [⟨.control, ⟨0⟩, "first", ⟨1⟩, "enter"⟩, ⟨.value, ⟨0⟩, "number", ⟨1⟩, "any"⟩,
          ⟨.value, ⟨0⟩, "text", ⟨1⟩, "name"⟩] ∧
      ∃ again, (∀ c ∈ again, c.kind = .control) ∧
        y.document.Appends again (y.connectNodes ⟨0⟩ ⟨1⟩).2.document := by
  have hreachable : unlikePorts.Reachable := ⟨"Main", _, rfl⟩
  have hall := connectNodes_greedy (x := ⟨unlikePorts, [], [], {}⟩) hreachable ⟨0⟩ ⟨1⟩
  exact ⟨rfl, rfl, hall.2.2.2.2⟩

end Draft

end GraphDraft

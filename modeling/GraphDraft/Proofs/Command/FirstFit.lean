import GraphDraft.Command.Defaults
import GraphDraft.Proofs.Document.Unshared

/-!
# First fit

Typed texts take inputs of the selected node, each text the first input in order that is open to it
(`Claim.FirstFit`). The rule has one answer (`FirstFit.unique`), and probing gives what it lists;
texts typed behind others add to what these claim and change none of it (`probe_firstFit`).
-/

namespace GraphDraft

/-- The position of the first element that has a property, or no position if none has it. -/
def IsFirst {α : Type} (P : α → Prop) (xs : List α) : Option Nat → Prop
  | some p => ∃ x, xs[p]? = some x ∧ P x ∧ ∀ q < p, ∀ y, xs[q]? = some y → ¬P y
  | none => ∀ x ∈ xs, ¬P x

theorem isFirst_findIdx? {α : Type} {P : α → Prop} {f : α → Bool} (h : ∀ x, f x = true ↔ P x)
    (xs : List α) : IsFirst P xs (xs.findIdx? f) := by
  cases hp : xs.findIdx? f with
  | none =>
    intro x hx hPx
    have hfx := List.findIdx?_eq_none_iff.1 hp x hx
    rw [(h x).2 hPx] at hfx
    cases hfx
  | some p =>
    obtain ⟨hlt, hfp, hbefore⟩ := List.findIdx?_eq_some_iff_getElem.1 hp
    refine ⟨xs[p], List.getElem?_eq_getElem hlt, (h _).1 hfp, fun q hq y hy hPy => ?_⟩
    obtain ⟨hlt', rfl⟩ := List.getElem?_eq_some_iff.1 hy
    exact hbefore q hq ((h _).2 hPy)

theorem IsFirst.unique {α : Type} {P : α → Prop} {xs : List α} {p q : Option Nat}
    (hp : IsFirst P xs p) (hq : IsFirst P xs q) : p = q := by
  cases p with
  | none =>
    cases q with
    | none => rfl
    | some q =>
      obtain ⟨x, hx, hPx, -⟩ := hq
      exact absurd hPx (hp x (List.mem_of_getElem? hx))
  | some p =>
    obtain ⟨x, hx, hPx, hbefore⟩ := hp
    cases q with
    | none => exact absurd hPx (hq x (List.mem_of_getElem? hx))
    | some q =>
      obtain ⟨y, hy, hPy, hbefore'⟩ := hq
      rcases Nat.lt_trichotomy p q with hlt | rfl | hlt
      · exact absurd hPx (hbefore' p hlt x hx)
      · rfl
      · exact absurd hPy (hbefore q hlt y hy)

theorem Value.isEmptyString_ofText (t : String) :
    (Value.ofText t).isEmptyString = true ↔ t = "" := by
  constructor
  · intro h
    unfold ofText at h
    split at h
    · cases h
    · split at h
      · cases h
      · split at h
        · cases h
        · exact String.isEmpty_iff.1 h
  · rintro rfl
    rfl

theorem Document.Valid.exists_selected {d : Document} (h : d.Valid) {n : NodeId}
    (hn : d.selection.head? = some n) : ∃ x, d.node? n = some x := by
  obtain ⟨g, b, hplace⟩ := h.selected n (List.mem_of_mem_head? hn)
  obtain ⟨x, hx, -⟩ := node?_of_place? hplace
  exact ⟨x, hx⟩

/-- Edges that end at a node stand in the graph of the node, so all edges may as well be looked
through for one. -/
theorem Document.Valid.inputConnected_iff {d : Document} (h : d.Valid) {n : NodeId} {x : Node}
    (hn : d.node? n = some x) (kind : EdgeKind) (key : String) :
    d.inputConnected n kind key = true ↔
      ∃ e ∈ d.allEdges, e.kind = kind ∧ e.target = n ∧ e.input = key := by
  have haround : d.edgesAround n = ((d.graph? x.graph).map (·.edges)).getD [] := by
    rw [edgesAround, hn]
    rfl
  have hmem : ∀ e, e.target = n → (e ∈ d.edgesAround n ↔ e ∈ d.allEdges) := by
    rintro e rfl
    rw [haround, allEdges, List.mem_flatMap]
    constructor
    · intro he
      cases hg : d.graph? x.graph with
      | none => simp [hg] at he
      | some y =>
        rw [hg] at he
        exact ⟨(x.graph, y), (Store.get?_eq_some_iff h.graphs).1 hg, he⟩
    · rintro ⟨⟨g, y⟩, hy, he⟩
      have hg : d.graph? g = some y := Store.get?_of_mem h.graphs hy
      obtain ⟨b, hb⟩ := (h.wired (edges?_of_graph? hg) e he).target
      rw [place?_of_node? hn] at hb
      cases hb
      rw [hg]
      exact he
  rw [inputConnected, List.any_eq_true]
  simp only [Bool.and_eq_true, decide_eq_true_eq, and_assoc]
  constructor
  · rintro ⟨e, he, hkind, htarget, hkey⟩
    exact ⟨e, (hmem e htarget).1 he, hkind, htarget, hkey⟩
  · rintro ⟨e, he, hkind, htarget, hkey⟩
    exact ⟨e, (hmem e htarget).2 he, hkind, htarget, hkey⟩

namespace Claim

open Document

/-! ## The rule -/

/-- An input of node `n` is open to a typed text: it can hold a value, its type accepts that of the
text, its key is not taken, and no edge ends at it. It does not matter what type the empty text
has. -/
structure Open (d : Document) (n : NodeId) (taken : List String) (typed : String)
    (i : ValueInput) : Prop where
  holds : i.default ≠ none
  accepts : typed = "" ∨ i.type.accepts (Value.ofText typed).type = true
  untaken : i.key ∉ taken
  unconnected : ∀ e ∈ d.allEdges, e.kind = .value → e.target = n → e.input ≠ i.key

/-- The keys of the inputs that have been taken. -/
def keysTaken (inputs : List ValueInput) (takes : List (Option Nat)) : List String :=
  takes.filterMap fun p => (p.bind (inputs[·]?)).map (·.key)

/-- Typed texts take inputs of node `n`, given by their positions: each text, in order, the first
input that is open to it. A text to which none is open takes none. -/
structure FirstFit (d : Document) (n : NodeId) (inputs : List ValueInput) (typed : List String)
    (takes : List (Option Nat)) : Prop where
  length : takes.length = typed.length
  first : ∀ k t, typed[k]? = some t → ∃ p, takes[k]? = some p ∧
    IsFirst (Open d n (keysTaken inputs (takes.take k)) t) inputs p

/-- A value that was typed, and the input that it goes into. -/
structure Taker where
  position : Nat
  input : ValueInput
  value : Value

def Taker.claim (t : Taker) : Claim :=
  ⟨t.input.key, t.value⟩

/-- The input stands at its position, can hold a value, and its type accepts that of the value. -/
structure Taker.Fits (inputs : List ValueInput) (t : Taker) : Prop where
  input : inputs[t.position]? = some t.input
  holds : t.input.default ≠ none
  accepts : t.input.type.accepts t.value.type = true

/-- The takers among typed texts, in order. Empty texts go into no input. -/
def takers (inputs : List ValueInput) (typed : List String) (takes : List (Option Nat)) :
    List Taker :=
  (typed.zip takes).filterMap fun (t, p) =>
    if t = "" then none
    else p.bind fun p => (inputs[p]?).map fun i => ⟨p, i, .ofText t⟩

variable {d : Document} {n : NodeId} {inputs : List ValueInput} {taken typed more : List String}

theorem FirstFit.unique {ps qs : List (Option Nat)} (hp : FirstFit d n inputs typed ps)
    (hq : FirstFit d n inputs typed qs) : ps = qs := by
  have htake : ∀ k, ps.take k = qs.take k := by
    intro k
    induction k with
    | zero => rfl
    | succ k ih =>
      rw [List.take_add_one, List.take_add_one, ih]
      cases ht : typed[k]? with
      | none =>
        have hlen := List.getElem?_eq_none_iff.1 ht
        rw [List.getElem?_eq_none (hp.length ▸ hlen), List.getElem?_eq_none (hq.length ▸ hlen)]
      | some t =>
        obtain ⟨p, hpk, hfirst⟩ := hp.first k t ht
        obtain ⟨q, hqk, hfirst'⟩ := hq.first k t ht
        rw [ih] at hfirst
        rw [hpk, hqk, hfirst.unique hfirst']
  have hall := htake typed.length
  rwa [List.take_of_length_le (Nat.le_of_eq hp.length),
    List.take_of_length_le (Nat.le_of_eq hq.length)] at hall

theorem keysTaken_append (ps qs : List (Option Nat)) :
    keysTaken inputs (ps ++ qs) = keysTaken inputs ps ++ keysTaken inputs qs :=
  List.filterMap_append

theorem keysTaken_cons (p : Option Nat) (ps : List (Option Nat)) :
    keysTaken inputs (p :: ps) = keysTaken inputs [p] ++ keysTaken inputs ps :=
  keysTaken_append [p] ps

theorem takers_append {ps : List (Option Nat)} (h : typed.length = ps.length)
    (qs : List (Option Nat)) :
    takers inputs (typed ++ more) (ps ++ qs) = takers inputs typed ps ++ takers inputs more qs := by
  rw [takers, List.zip_append h, List.filterMap_append, takers, takers]

theorem takers_cons (t : String) (p : Option Nat) (ps : List (Option Nat)) :
    takers inputs (t :: typed) (p :: ps) = takers inputs [t] [p] ++ takers inputs typed ps := by
  have hlength : [t].length = [p].length := rfl
  exact takers_append hlength ps

/-- Takers have taken their inputs. -/
theorem keys_takers_sublist : ∀ (typed : List String) (ps : List (Option Nat)),
    ((takers inputs typed ps).map (·.claim.key)).Sublist (keysTaken inputs ps)
  | [], ps => List.nil_sublist _
  | _ :: _, [] => List.nil_sublist _
  | t :: ts, p :: ps => by
    rw [takers_cons, List.map_append, keysTaken_cons]
    refine List.Sublist.append ?_ (keys_takers_sublist ts ps)
    by_cases ht : t = ""
    · simp [takers, ht]
    · cases hi : p.bind (inputs[·]?) with
      | none =>
        have hnone : takers inputs [t] [p] = [] := by
          cases p <;> simp_all [takers]
        rw [hnone]
        exact List.nil_sublist _
      | some i =>
        obtain ⟨q, rfl, hq⟩ := Option.bind_eq_some_iff.1 hi
        simp [takers, keysTaken, ht, hq, Taker.claim]

theorem FirstFit.fits {takes : List (Option Nat)} (h : FirstFit d n inputs typed takes) {t : Taker}
    (ht : t ∈ takers inputs typed takes) : t.Fits inputs := by
  obtain ⟨⟨s, q⟩, hmem, htake⟩ := List.mem_filterMap.1 ht
  obtain ⟨hs, htake⟩ := Option.ite_none_left_eq_some.1 htake
  obtain ⟨p, rfl, htake⟩ := Option.bind_eq_some_iff.1 htake
  obtain ⟨i, hi, rfl⟩ := Option.map_eq_some_iff.1 htake
  obtain ⟨k, hk⟩ := List.mem_iff_getElem?.1 hmem
  obtain ⟨hsk, hpk⟩ := List.getElem?_zip_eq_some.1 hk
  obtain ⟨p', hp', hfirst⟩ := h.first k s hsk
  cases hpk.symm.trans hp'
  obtain ⟨j, hj, hopen, -⟩ := hfirst
  cases hi.symm.trans hj
  exact ⟨hi, hopen.holds, hopen.accepts.resolve_left hs⟩

/-! ## Probing -/

/-- The positions of the inputs that typed texts take, of which the keys `taken` are taken. -/
def positions (d : Document) (n : NodeId) (inputs : List ValueInput) :
    (taken typed : List String) → List (Option Nat)
  | _, [] => []
  | taken, t :: ts =>
    let p := inputs.findIdx? (suits d n taken (.ofText t))
    p :: positions d n inputs (taken ++ keysTaken inputs [p]) ts

theorem length_positions (taken : List String) :
    (positions d n inputs taken typed).length = typed.length := by
  induction typed generalizing taken with
  | nil => rfl
  | cons t ts ih => exact congrArg (· + 1) (ih _)

theorem positions_append (taken typed more : List String) :
    positions d n inputs taken (typed ++ more) = positions d n inputs taken typed ++
      positions d n inputs (taken ++ keysTaken inputs (positions d n inputs taken typed)) more := by
  induction typed generalizing taken with
  | nil => simp [positions, keysTaken]
  | cons t ts ih =>
    simp only [List.cons_append, positions, ih]
    rw [keysTaken_cons _ (positions d n inputs _ ts), List.append_assoc]

/-- What is claimed is what the takers claim. -/
theorem firstFit_eq (taken : List String) : firstFit d n inputs taken (typed.map Value.ofText) =
    (takers inputs typed (positions d n inputs taken typed)).map Taker.claim := by
  induction typed generalizing taken with
  | nil => rfl
  | cons t ts ih =>
    simp only [List.map_cons, firstFit, positions]
    rw [List.find?_eq_bind_findIdx?_getElem?, takers_cons, List.map_append, ← ih]
    have hempty := Value.isEmptyString_ofText t
    cases hp : inputs.findIdx? (suits d n taken (.ofText t)) with
    | none =>
      have hnone : takers inputs [t] [none] = [] := by simp [takers]
      rw [hnone]
      simp [keysTaken]
    | some p =>
      obtain ⟨hlt, -⟩ := List.findIdx?_eq_some_iff_getElem.1 hp
      rw [Option.bind_some, List.getElem?_eq_getElem hlt]
      by_cases ht : t = ""
      · subst ht
        simp [takers, keysTaken, hlt, hempty.2 rfl]
      · have hsome : (Value.ofText t).isEmptyString = false := Bool.eq_false_iff.2 (mt hempty.1 ht)
        simp [takers, keysTaken, hlt, ht, hsome, Taker.claim]

/-- No key is taken twice. -/
theorem nodup_keysTaken (taken typed : List String) :
    (keysTaken inputs (positions d n inputs taken typed)).Nodup ∧
      ∀ key ∈ keysTaken inputs (positions d n inputs taken typed), key ∉ taken := by
  induction typed generalizing taken with
  | nil => exact ⟨List.nodup_nil, fun key hkey => by cases hkey⟩
  | cons t ts ih =>
    rw [positions, keysTaken_cons]
    obtain ⟨hnodup, hnew⟩ := ih
      (taken ++ keysTaken inputs [inputs.findIdx? (suits d n taken (.ofText t))])
    cases hp : inputs.findIdx? (suits d n taken (.ofText t)) with
    | none =>
      rw [hp] at hnodup hnew
      simpa [keysTaken] using And.intro hnodup hnew
    | some p =>
      rw [hp] at hnodup hnew
      obtain ⟨hlt, hsuits, -⟩ := List.findIdx?_eq_some_iff_getElem.1 hp
      have huntaken : inputs[p].key ∉ taken := by
        simp only [suits, Bool.and_eq_true, Bool.not_eq_true', List.contains_eq_mem,
          decide_eq_false_iff_not] at hsuits
        exact hsuits.1.2
      have hkeys : keysTaken inputs [some p] = [inputs[p].key] := by simp [keysTaken, hlt]
      rw [hkeys] at hnodup hnew ⊢
      refine ⟨List.nodup_cons.2 ⟨fun hmem => ?_, hnodup⟩, fun key hkey => ?_⟩
      · exact hnew _ hmem (List.mem_append_right _ (List.mem_singleton.2 rfl))
      · rcases List.mem_cons.1 hkey with rfl | hkey
        · exact huntaken
        · exact fun hold => hnew key hkey (List.mem_append_left _ hold)

theorem nodup_keys_claims (d : Document) (n : NodeId) (inputs : List ValueInput)
    (typed : List String) : (((takers inputs typed
      (positions d n inputs [] typed)).map Taker.claim).map (·.key)).Nodup := by
  rw [List.map_map]
  exact (nodup_keysTaken [] typed).1.sublist (keys_takers_sublist typed _)

section
variable (h : d.Valid) {x : Node} (hn : d.node? n = some x)
include h hn

theorem suits_iff (taken : List String) (t : String) (i : ValueInput) :
    suits d n taken (.ofText t) i = true ↔ Open d n taken t i := by
  have hempty := Value.isEmptyString_ofText t
  have hconnected := h.inputConnected_iff hn .value i.key
  rw [suits, Bool.and_eq_true, Bool.and_eq_true, Bool.and_eq_true, Bool.or_eq_true, hempty,
    Bool.not_eq_true', Bool.not_eq_true', ← Bool.not_eq_true, ← Bool.not_eq_true, hconnected]
  constructor
  · rintro ⟨⟨⟨hholds, haccepts⟩, huntaken⟩, hfree⟩
    refine ⟨?_, haccepts, ?_, fun e he hkind htarget hkey => hfree ⟨e, he, hkind, htarget, hkey⟩⟩
    · exact Option.isSome_iff_ne_none.1 hholds
    · simpa using huntaken
  · rintro ⟨hholds, haccepts, huntaken, hfree⟩
    refine ⟨⟨⟨Option.isSome_iff_ne_none.2 hholds, haccepts⟩, by simpa using huntaken⟩, ?_⟩
    rintro ⟨e, he, hkind, htarget, hkey⟩
    exact hfree e he hkind htarget hkey

theorem isFirst_positions (taken typed : List String) (k : Nat) (t : String)
    (ht : typed[k]? = some t) : ∃ p, (positions d n inputs taken typed)[k]? = some p ∧
      IsFirst (Open d n
        (taken ++ keysTaken inputs ((positions d n inputs taken typed).take k)) t) inputs p := by
  induction typed generalizing taken k with
  | nil => simp at ht
  | cons s ss ih =>
    cases k with
    | zero =>
      cases ht
      refine ⟨_, rfl, ?_⟩
      rw [List.take_zero, show keysTaken inputs [] = [] from rfl, List.append_nil]
      exact isFirst_findIdx? (suits_iff h hn taken t) inputs
    | succ k =>
      obtain ⟨p, hp, hfirst⟩ := ih
        (taken ++ keysTaken inputs [inputs.findIdx? (suits d n taken (.ofText s))]) k ht
      refine ⟨p, hp, ?_⟩
      rw [positions, List.take_succ_cons, keysTaken_cons, ← List.append_assoc]
      exact hfirst

theorem firstFit_positions (inputs : List ValueInput) (typed : List String) :
    FirstFit d n inputs typed (positions d n inputs [] typed) :=
  ⟨length_positions [], isFirst_positions h hn [] typed⟩

end

theorem probe_eq_none (hn : d.selection.head? = none) (typed : List String) :
    probe d typed = none := by
  rw [probe, anchor?, hn]
  rfl

theorem probe_eq (hn : d.selection.head? = some n) {x : Node} (hx : d.node? n = some x)
    (typed : List String) : probe d typed = some ((takers x.ports.valueInputs typed
      (positions d n x.ports.valueInputs [] typed)).map Taker.claim) := by
  rw [probe, anchor?_eq_some_iff.2 ⟨hn, hx⟩, Option.map_some]
  exact congrArg some (firstFit_eq [])

/-- Typed texts take inputs of the selected node by first fit, which leaves one way to take them.
What they claim is listed in their order, without the empty texts and without a key twice, and it
stays as it is when more texts are typed behind them. -/
theorem probe_firstFit (h : d.Reachable) (hn : d.selection.head? = some n) (typed : List String) :
    ∃ x takes, d.node? n = some x ∧ FirstFit d n x.ports.valueInputs typed takes ∧
      (∀ others, FirstFit d n x.ports.valueInputs typed others → others = takes) ∧
      let claims := (takers x.ports.valueInputs typed takes).map Taker.claim
      probe d typed = some claims ∧ (claims.map (·.key)).Nodup ∧
        ∀ more, ∃ rest, probe d (typed ++ more) = some (claims ++ rest) := by
  have hv := h.valid
  obtain ⟨x, hx⟩ := hv.exists_selected hn
  have hfits := firstFit_positions hv hx x.ports.valueInputs typed
  refine ⟨x, _, hx, hfits, fun others ho => ho.unique hfits, probe_eq hn hx typed,
    nodup_keys_claims d n _ typed, fun more => ?_⟩
  have hmore := probe_eq hn hx (typed ++ more)
  rw [positions_append, takers_append (length_positions []).symm, List.map_append] at hmore
  exact ⟨_, hmore⟩

/-- A selected node with inputs of several types, the first of which is joined to an output. -/
def blending : Document :=
  let inputs : List ValueInput :=
    [⟨"a", .float, some (.float 0)⟩, ⟨"b", .float, some (.float 0)⟩,
      ⟨"label", .string, some (.string "")⟩, ⟨"wired", .object, none⟩,
      ⟨"any", .object, some .null⟩]
  Operation.runAll
    [.addNode .root { kind := .unit "Blend", title := "Blend", ports := { valueInputs := inputs } }
       .origin,
     .addNode .root
       { kind := .literal .float, title := "Number"
         ports := { valueOutputs := [⟨"output", .float⟩] } } .origin,
     .connect ⟨.value, ⟨1⟩, "output", ⟨0⟩, "a"⟩, .select (some ⟨0⟩)]
    (.empty "Main")

/-- The empty text takes the input `b`, so that the number goes to the one that takes anything, and
nothing is left for the truth value. -/
theorem probe_firstFit_blending :
    let typed := ["hi", "", "2.5", "true"]
    blending.Reachable ∧ blending.selection.head? = some ⟨0⟩ ∧
      probe blending typed = some [⟨"label", .string "hi"⟩, ⟨"any", .float 2.5⟩] ∧
      ∃ x takes, blending.node? ⟨0⟩ = some x ∧
        FirstFit blending ⟨0⟩ x.ports.valueInputs typed takes := by
  have hreachable : blending.Reachable := ⟨"Main", _, rfl⟩
  obtain ⟨x, takes, hx, hfits, -⟩ :=
    probe_firstFit hreachable (n := ⟨0⟩) rfl ["hi", "", "2.5", "true"]
  exact ⟨hreachable, rfl, by decide +kernel, x, takes, hx, hfits⟩

end Claim

end GraphDraft

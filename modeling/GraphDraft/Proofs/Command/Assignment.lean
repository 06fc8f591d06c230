import GraphDraft.Command.Run
import GraphDraft.Proofs.Command.FirstFit

/-!
# Assigning values

Typed values are given to inputs by first fit, but they are written by key: a value goes into the
first input that has the key of the input it was given to (`Draft.Fills`). If no two inputs of the
node share a key, each value comes into the very input it was given to (`Draft.Assigns`). If two do,
it depends on what they hold (`Draft.Fills.assigns_iff`).
-/

namespace GraphDraft

/-- The input with a value in place of the one that it holds, if it can hold one. -/
def ValueInput.overwrite (i : ValueInput) (v : Value) : ValueInput :=
  { i with default := i.default.map fun _ => v }

/-- All of a node but its value inputs. -/
def Node.outside (x : Node) : Node :=
  { x with ports := { x.ports with valueInputs := [] } }

namespace Document

variable {d : Document} {n : NodeId} {key : String}

/-- The value inputs of a node. -/
def inputs (d : Document) (n : NodeId) : List ValueInput :=
  ((d.node? n).map (·.ports.valueInputs)).getD []

/-- The position of the first input of a key. -/
def slot? (d : Document) (n : NodeId) (key : String) : Option Nat :=
  (d.inputs n).findIdx? (·.key = key)

theorem node?_touch (d : Document) (n : NodeId) : d.touch.node? n = d.node? n := rfl

theorem inputs_of_node? {x : Node} (h : d.node? n = some x) : d.inputs n = x.ports.valueInputs := by
  simp [inputs, h]

theorem slot?_eq_some {p : Nat} (h : d.slot? n key = some p) :
    ∃ i, (d.inputs n)[p]? = some i ∧ i.key = key := by
  obtain ⟨hlt, hkey, -⟩ := List.findIdx?_eq_some_iff_getElem.1 h
  exact ⟨_, List.getElem?_eq_getElem hlt, by simpa using hkey⟩

/-- Different keys have different slots. -/
theorem slot?_injective {key' : String} {p : Nat} (h : d.slot? n key = some p)
    (h' : d.slot? n key' = some p) : key = key' := by
  obtain ⟨i, hi, rfl⟩ := slot?_eq_some h
  obtain ⟨j, hj, rfl⟩ := slot?_eq_some h'
  cases hi.symm.trans hj
  rfl

/-- The value held under a key is that of the first input of the key. -/
theorem heldValue?_eq (d : Document) (n : NodeId) (key : String) : d.heldValue? n key =
    (d.slot? n key).bind fun p => (d.inputs n)[p]?.bind (·.default) := by
  rw [← Option.bind_assoc, slot?, ← List.find?_eq_bind_findIdx?_getElem?, heldValue?, inputs]
  cases d.node? n <;> rfl

theorem heldValue?_of_slot? {p : Nat} (h : d.slot? n key = some p) :
    d.heldValue? n key = (d.inputs n)[p]?.bind (·.default) := by
  rw [heldValue?_eq, h, Option.bind_some]

/-! ## Writing one value -/

theorem getElem?_fill (key : String) (v : Value) (is : List ValueInput) (p : Nat) :
    (fill key v is)[p]? = if is.findIdx? (·.key = key) = some p
      then is[p]?.map fun i => { i with default := some v } else is[p]? := by
  induction is generalizing p with
  | nil => simp [fill]
  | cons i is ih =>
    rw [fill, List.findIdx?_cons]
    by_cases hi : i.key = key
    · cases p <;> simp [hi]
    · cases p with
      | zero => simp [hi]
      | succ p => simp [hi, ih]

theorem setDefault_of_held {v w : Value} (h : d.heldValue? n key = some w) : d.setDefault n key v =
    (d.mapPorts n fun p => { p with valueInputs := fill key v p.valueInputs }).touch := by
  rw [setDefault, h]
  rfl

theorem setDefault_of_not_held {v : Value} (h : d.heldValue? n key = none) :
    d.setDefault n key v = d := by
  rw [setDefault, h]
  rfl

/-- The input in the slot of the key is overwritten, and no other. -/
theorem inputs_setDefault (d : Document) (n : NodeId) (key : String) (v : Value) (m : NodeId)
    (p : Nat) : ((d.setDefault n key v).inputs m)[p]? = if m = n ∧ d.slot? n key = some p
      then (d.inputs n)[p]?.map (·.overwrite v) else (d.inputs m)[p]? := by
  cases hheld : d.heldValue? n key with
  | none =>
    rw [setDefault_of_not_held hheld]
    split
    · rename_i hslot
      obtain ⟨i, hi, -⟩ := slot?_eq_some hslot.2
      rw [heldValue?_of_slot? hslot.2, hi, Option.bind_some] at hheld
      rw [hslot.1, hi, Option.map_some, ValueInput.overwrite, hheld, Option.map_none, ← hheld]
    · rfl
  | some w =>
    have hinputs : (d.setDefault n key v).inputs m =
        if m = n then fill key v (d.inputs n) else d.inputs m := by
      rw [setDefault_of_held hheld, inputs, node?_touch, node?_mapPorts]
      split
      · rename_i hm
        subst hm
        rw [inputs]
        cases d.node? m <;> rfl
      · rfl
    rw [hinputs]
    by_cases hm : m = n
    · rw [if_pos hm, getElem?_fill, ← slot?]
      by_cases hslot : d.slot? n key = some p
      · obtain ⟨i, hi, -⟩ := slot?_eq_some hslot
        rw [heldValue?_of_slot? hslot, hi, Option.bind_some] at hheld
        simp [hm, hslot, hi, ValueInput.overwrite, hheld]
      · simp [hm, hslot]
    · simp [hm]

theorem outside_setDefault (d : Document) (n : NodeId) (key : String) (v : Value) (m : NodeId) :
    ((d.setDefault n key v).node? m).map Node.outside = (d.node? m).map Node.outside := by
  cases hheld : d.heldValue? n key with
  | none => rw [setDefault_of_not_held hheld]
  | some w =>
    rw [setDefault_of_held hheld, node?_touch, node?_mapPorts]
    split
    · rw [Option.map_map]
      rfl
    · rfl

end Document

namespace Draft

open Document Claim

variable {n : NodeId} {x y : Draft}

/-! ## Writing claims -/

/-- Draft `y` is `x` with claims written under their keys: the input in the slot of each key is
overwritten, which is noted if it held a value, and nothing else changes. -/
structure Fills (n : NodeId) (claims : List Claim) (x y : Draft) : Prop where
  filled : ∀ c ∈ claims, ∀ p, x.document.slot? n c.key = some p →
    (y.document.inputs n)[p]? = (x.document.inputs n)[p]?.map (·.overwrite c.value)
  kept : ∀ m p, (m = n → ∀ c ∈ claims, x.document.slot? n c.key ≠ some p) →
    (y.document.inputs m)[p]? = (x.document.inputs m)[p]?
  outside : ∀ m, (y.document.node? m).map Node.outside = (x.document.node? m).map Node.outside
  keys : y.document.nodes.keys = x.document.nodes.keys
  rest : y = { x with
    document := { x.document with nodes := y.document.nodes, revision := y.document.revision }
    journal := y.journal }
  noted : y.journal = x.journal ++ claims.filterMap fun c =>
    (x.document.heldValue? n c.key).map (.defaultSet n c.key)

theorem document_setDefault (x : Draft) (n : NodeId) (key : String) (v : Value) :
    (x.setDefault n key v).document = x.document.setDefault n key v := by
  rw [setDefault, Document.setDefault]
  cases x.document.heldValue? n key <;> rfl

theorem setDefault_eq (x : Draft) (n : NodeId) (key : String) (v : Value) :
    x.setDefault n key v = { x with
      document := { x.document with
        nodes := (x.document.setDefault n key v).nodes
        revision := (x.document.setDefault n key v).revision }
      journal := x.journal ++
        ((x.document.heldValue? n key).map (Change.defaultSet n key)).toList } := by
  rw [setDefault, Document.setDefault]
  cases x.document.heldValue? n key with
  | none => simp
  | some w => rfl

theorem fills_nil (n : NodeId) (x : Draft) : Fills n [] x x where
  filled c hc := by cases hc
  kept _ _ _ := rfl
  outside _ := rfl
  keys := rfl
  rest := rfl
  noted := (List.append_nil _).symm

/-- Writing one value. -/
theorem fills_setDefault (n : NodeId) (c : Claim) (x : Draft) :
    Fills n [c] x (x.setDefault n c.key c.value) where
  filled c' hc' p hp := by
    obtain rfl := List.mem_singleton.1 hc'
    rw [document_setDefault, inputs_setDefault, if_pos ⟨rfl, hp⟩]
  kept m p hp := by
    rw [document_setDefault, inputs_setDefault, if_neg]
    exact fun h => hp h.1 c (List.mem_singleton_self c) h.2
  outside m := by
    rw [document_setDefault]
    exact outside_setDefault x.document n c.key c.value m
  keys := by
    rw [document_setDefault]
    exact keys_nodes_setDefault x.document n c.key c.value
  rest := by rw [setDefault_eq]
  noted := by
    rw [setDefault_eq, List.filterMap_cons, List.filterMap_nil]
    cases x.document.heldValue? n c.key <;> rfl

namespace Fills

variable {claims : List Claim}

/-- Only slots of the keys are written to. -/
theorem kept_or (h : Fills n claims x y) (m : NodeId) (p : Nat) :
    (y.document.inputs m)[p]? = (x.document.inputs m)[p]? ∨
      ∃ c ∈ claims, m = n ∧ x.document.slot? n c.key = some p := by
  by_cases hp : ∃ c ∈ claims, m = n ∧ x.document.slot? n c.key = some p
  · exact .inr hp
  · exact .inl (h.kept m p fun hm c hc hslot => hp ⟨c, hc, hm, hslot⟩)

/-- No slot moves. -/
theorem slot? (h : Fills n claims x y) (m : NodeId) (key : String) :
    y.document.slot? m key = x.document.slot? m key := by
  have hkeys : (y.document.inputs m).map (·.key) = (x.document.inputs m).map (·.key) := by
    refine List.ext_getElem? fun p => ?_
    rw [List.getElem?_map, List.getElem?_map]
    rcases h.kept_or m p with hsame | ⟨c, hc, rfl, hp⟩
    · rw [hsame]
    · rw [h.filled c hc p hp, Option.map_map]
      rfl
  have hslot : ∀ e : Document, e.slot? m key = ((e.inputs m).map (·.key)).findIdx? (· = key) :=
    fun e => by rw [List.findIdx?_map]; rfl
  rw [hslot, hkeys, ← hslot]

theorem heldValue?_of_ne (h : Fills n claims x y) {key : String} (hkey : ∀ c ∈ claims, c.key ≠ key) :
    y.document.heldValue? n key = x.document.heldValue? n key := by
  rw [heldValue?_eq, heldValue?_eq, h.slot?]
  cases hp : x.document.slot? n key with
  | none => rfl
  | some p =>
    rcases h.kept_or n p with hsame | ⟨c, hc, -, hslot⟩
    · rw [Option.bind_some, Option.bind_some, hsame]
    · exact absurd (slot?_injective hslot hp) (hkey c hc)

/-- A claim and others of other keys, one after the other. -/
theorem cons {z : Draft} {c : Claim} (h : Fills n [c] x y) (k : Fills n claims y z)
    (hne : ∀ c' ∈ claims, c'.key ≠ c.key) : Fills n (c :: claims) x z where
  filled c' hc' p hp := by
    rcases List.mem_cons.1 hc' with rfl | hc'
    · rw [← h.filled c' (List.mem_singleton_self c') p hp]
      refine k.kept n p fun _ c'' hc'' hp'' => ?_
      rw [h.slot?] at hp''
      exact hne c'' hc'' (slot?_injective hp'' hp)
    · rw [k.filled c' hc' p (by rw [h.slot?, hp]), h.kept n p]
      intro _ c'' hc'' hp''
      rw [List.mem_singleton.1 hc''] at hp''
      exact hne c' hc' (slot?_injective hp hp'')
  kept m p hp := by
    rw [k.kept m p, h.kept m p]
    · intro hm c' hc'
      exact hp hm c' (List.mem_cons.2 (.inl (List.mem_singleton.1 hc')))
    · intro hm c' hc'
      rw [h.slot?]
      exact hp hm c' (List.mem_cons_of_mem _ hc')
  outside m := (k.outside m).trans (h.outside m)
  keys := k.keys.trans h.keys
  rest := by
    have hrest := k.rest
    rw [h.rest] at hrest
    exact hrest
  noted := by
    have hheld : claims.filterMap (fun c' =>
          (y.document.heldValue? n c'.key).map (Change.defaultSet n c'.key)) =
        claims.filterMap fun c' => (x.document.heldValue? n c'.key).map (.defaultSet n c'.key) := by
      refine List.filterMap_congr fun c' hc' => ?_
      rw [h.heldValue?_of_ne]
      rintro c'' hc'' heq
      rw [List.mem_singleton.1 hc''] at heq
      exact hne c' hc' heq.symm
    rw [k.noted, h.noted, hheld, List.append_assoc, ← List.filterMap_append, List.singleton_append]

end Fills

/-- Claims of different keys do not get in each other's way. -/
theorem fills_setClaims {claims : List Claim} (h : (claims.map (·.key)).Nodup) (x : Draft) :
    Fills n claims x (x.setClaims n claims) := by
  induction claims generalizing x with
  | nil => exact fills_nil n x
  | cons c cs ih =>
    obtain ⟨hnew, hnodup⟩ := List.nodup_cons.1 h
    refine (fills_setDefault n c x).cons (ih hnodup _) fun c' hc' heq => ?_
    exact hnew (List.mem_map.2 ⟨c', hc', heq⟩)

/-! ## Takers and slots -/

/-- The value of each taker comes into its input, of a type that takes it; the journal notes what
each of these inputs held; and no other input changes. -/
structure Assigns (n : NodeId) (ts : List Taker) (x y : Draft) : Prop where
  held : ∀ t ∈ ts, (y.document.inputs n)[t.position]? =
    some { t.input with default := some t.value }
  accepted : ∀ m (p : Nat) (i : ValueInput), (y.document.inputs m)[p]? = some i →
    (x.document.inputs m)[p]? ≠ some i → ∃ v, i.default = some v ∧ i.type.accepts v.type = true
  others : ∀ m p, (m = n → ∀ t ∈ ts, t.position ≠ p) →
    (y.document.inputs m)[p]? = (x.document.inputs m)[p]?
  noted : ∃ notes, y.journal = x.journal ++ notes ∧
    notes.map some = ts.map fun t => t.input.default.map (Change.defaultSet n t.input.key)

namespace Fills

section
variable {ts : List Taker} (h : Fills n (ts.map Taker.claim) x y) {t : Taker} (ht : t ∈ ts)
include h ht

/-- A taker that has the slot of its key gets its value. -/
theorem inputs_of_slot (hfits : t.Fits (x.document.inputs n))
    (hslot : x.document.slot? n t.input.key = some t.position) :
    (y.document.inputs n)[t.position]? = some { t.input with default := some t.value } := by
  obtain ⟨w, hw⟩ := Option.ne_none_iff_exists'.1 hfits.holds
  have hfilled := h.filled _ (List.mem_map_of_mem ht) _ hslot
  rw [hfilled, hfits.input, Option.map_some, ValueInput.overwrite, hw]
  rfl

omit ht in
/-- A taker that has not is left as it is. -/
theorem inputs_of_ne_slot (hfits : t.Fits (x.document.inputs n))
    (hne : x.document.slot? n t.input.key ≠ some t.position) :
    (y.document.inputs n)[t.position]? = some t.input := by
  rcases h.kept_or n t.position with hsame | ⟨c, -, -, hslot⟩
  · rw [hsame, hfits.input]
  · obtain ⟨i, hi, hkey⟩ := slot?_eq_some hslot
    cases hfits.input.symm.trans hi
    exact absurd (hkey ▸ hslot) hne

/-- A slot that holds the value already stays as it is. -/
theorem inputs_of_held {p : Nat} (hp : x.document.slot? n t.input.key = some p)
    (hheld : x.document.heldValue? n t.input.key = some t.value) :
    (y.document.inputs n)[p]? = (x.document.inputs n)[p]? := by
  obtain ⟨i, hi, -⟩ := slot?_eq_some hp
  rw [heldValue?_of_slot? hp, hi, Option.bind_some] at hheld
  rw [h.filled _ (List.mem_map_of_mem ht) p hp, hi, Option.map_some, ValueInput.overwrite, hheld,
    Option.map_some]
  exact congrArg (fun v => some { i with default := v }) hheld.symm

end

/-- Taking by type and writing by key come to the same iff each taker has the slot of its key, or
it and the slot both held the value already. -/
theorem assigns_iff {ts : List Taker} (h : Fills n (ts.map Taker.claim) x y)
    (hfits : ∀ t ∈ ts, t.Fits (x.document.inputs n)) :
    Assigns n ts x y ↔ ∀ t ∈ ts, x.document.slot? n t.input.key = some t.position ∨
      t.input.default = some t.value ∧ x.document.heldValue? n t.input.key = some t.value := by
  constructor
  · intro ha t ht
    by_cases hslot : x.document.slot? n t.input.key = some t.position
    · exact .inl hslot
    · have hmissed := h.inputs_of_ne_slot (hfits t ht) hslot
      have hdefault : t.input.default = some t.value :=
        congrArg ValueInput.default (Option.some.inj (hmissed.symm.trans (ha.held t ht)))
      -- the note of the taker is that of the slot
      obtain ⟨notes, hjournal, hnotes⟩ := ha.noted
      have hnote : some (Change.defaultSet n t.input.key t.value) ∈ notes.map some := by
        rw [hnotes]
        exact List.mem_map.2 ⟨t, ht, by rw [hdefault]; rfl⟩
      obtain ⟨c, hc, hnote⟩ := List.mem_map.1 hnote
      cases hnote
      rw [← List.append_cancel_left (h.noted.symm.trans hjournal)] at hc
      obtain ⟨c, -, hc⟩ := List.mem_filterMap.1 hc
      obtain ⟨w, hw, hc⟩ := Option.map_eq_some_iff.1 hc
      obtain ⟨-, hkey, rfl⟩ := Change.defaultSet.inj hc
      exact .inr ⟨hdefault, hkey ▸ hw⟩
  · intro hall
    have hprevious : ∀ t ∈ ts, x.document.heldValue? n t.input.key = t.input.default := by
      intro t ht
      rcases hall t ht with hslot | ⟨hdefault, hheld⟩
      · rw [heldValue?_of_slot? hslot, (hfits t ht).input, Option.bind_some]
      · rw [hheld, hdefault]
    have hchanged : ∀ m p, (y.document.inputs m)[p]? = (x.document.inputs m)[p]? ∨
        ∃ t ∈ ts, m = n ∧ t.position = p ∧ x.document.slot? n t.input.key = some p := by
      intro m p
      rcases h.kept_or m p with hsame | ⟨c, hc, rfl, hp⟩
      · exact .inl hsame
      · obtain ⟨t, ht, rfl⟩ := List.mem_map.1 hc
        rcases hall t ht with hslot | ⟨-, hheld⟩
        · exact .inr ⟨t, ht, rfl, Option.some.inj (hslot.symm.trans hp), hp⟩
        · exact .inl (h.inputs_of_held ht hp hheld)
    refine ⟨fun t ht => ?_, fun m p i hi hne => ?_, fun m p hp => ?_, _, h.noted, ?_⟩
    · by_cases hslot : x.document.slot? n t.input.key = some t.position
      · exact h.inputs_of_slot ht (hfits t ht) hslot
      · obtain ⟨hdefault, -⟩ := (hall t ht).resolve_left hslot
        rw [h.inputs_of_ne_slot (hfits t ht) hslot, ← hdefault]
    · rcases hchanged m p with hsame | ⟨t, ht, rfl, rfl, hslot⟩
      · exact absurd (hsame ▸ hi) hne
      · cases (h.inputs_of_slot ht (hfits t ht) hslot).symm.trans hi
        exact ⟨t.value, rfl, (hfits t ht).accepts⟩
    · rcases hchanged m p with hsame | ⟨t, ht, rfl, hposition, -⟩
      · exact hsame
      · exact absurd hposition (hp rfl t ht)
    · rw [List.filterMap_map, List.map_filterMap_some_eq_filter_map_isSome, List.filter_eq_self.2]
      · refine List.map_congr_left fun t ht => ?_
        rw [← hprevious t ht]
        rfl
      · intro note hnote
        obtain ⟨t, ht, rfl⟩ := List.mem_map.1 hnote
        have hheld : x.document.heldValue? n t.input.key ≠ none :=
          hprevious t ht ▸ (hfits t ht).holds
        exact Option.isSome_map.trans (Option.isSome_iff_ne_none.2 hheld)

end Fills

/-! ## Assigning -/

theorem applyClaims_eq (hn : x.document.selection.head? = some n) (claims : List Claim) :
    x.applyClaims claims = (x.setClaims n claims).done := by
  unfold applyClaims
  rw [hn]

theorem assignDefaults_eq (hn : x.document.selection.head? = some n) {a : Node}
    (ha : x.document.node? n = some a) (typed : List String) :
    x.assignDefaults typed = (x.setClaims n ((takers (x.document.inputs n) typed
      (positions x.document n (x.document.inputs n) [] typed)).map Taker.claim)).done := by
  unfold assignDefaults
  rw [probe_eq hn ha, inputs_of_node? ha]
  exact applyClaims_eq hn _

/-- Values can be assigned iff something is selected. They are given to inputs of the selected node
by first fit and written under the keys of these. The one comes to the other, and each value into
the very input that it was given to, iff that input is the first of its key, or both it and the
first one held the value already. -/
theorem assignDefaults_fills (h : x.document.Reachable) (typed : List String) :
    let o := x.assignDefaults typed
    (x.document.selection = [] → o.error = some .nothingSelected ∧ o.draft = x) ∧
    ∀ n, x.document.selection.head? = some n → o.error = none ∧ ∃ takes,
      FirstFit x.document n (x.document.inputs n) typed takes ∧
      let ts := takers (x.document.inputs n) typed takes
      probe x.document typed = some (ts.map Taker.claim) ∧
      Fills n (ts.map Taker.claim) x o.draft ∧
      (Assigns n ts x o.draft ↔ ∀ t ∈ ts, x.document.slot? n t.input.key = some t.position ∨
        t.input.default = some t.value ∧
          x.document.heldValue? n t.input.key = some t.value) := by
  have hv := h.valid
  constructor
  · intro hnone
    unfold assignDefaults
    rw [probe_eq_none (by rw [hnone]; rfl)]
    exact ⟨rfl, rfl⟩
  · intro n hn
    obtain ⟨a, ha⟩ := hv.exists_selected hn
    rw [assignDefaults_eq hn ha]
    have hfits := firstFit_positions hv ha (x.document.inputs n) typed
    have hfills := fills_setClaims (n := n)
      (nodup_keys_claims x.document n (x.document.inputs n) typed) x
    have hprobe := probe_eq hn ha typed
    rw [← inputs_of_node? ha] at hprobe
    exact ⟨rfl, _, hfits, hprobe, hfills, hfills.assigns_iff fun t ht => hfits.fits ht⟩

/-- A selected node with two inputs of one key, the first of which takes no text. -/
def pairing : Document :=
  Operation.runAll
    [.addNode .root
       { kind := .unit "Pair", title := "Pair"
         ports :=
           { valueInputs :=
               [⟨"x", .float, some (.float 0)⟩, ⟨"x", .string, some (.string "")⟩] } } .origin,
     .select (some ⟨0⟩)]
    (.empty "Main")

theorem assignDefaults_fills_pairing :
    pairing.Reachable ∧ pairing.selection.head? = some ⟨0⟩ ∧
      let o := Draft.assignDefaults ["1.5"] ⟨pairing, [], [], {}⟩
      o.error = none ∧ o.draft.document.inputs ⟨0⟩ =
        [⟨"x", .float, some (.float 1.5)⟩, ⟨"x", .string, some (.string "")⟩] ∧
      ∃ takes, FirstFit pairing ⟨0⟩ (pairing.inputs ⟨0⟩) ["1.5"] takes ∧
        Fills ⟨0⟩ ((takers (pairing.inputs ⟨0⟩) ["1.5"] takes).map Taker.claim)
          ⟨pairing, [], [], {}⟩ o.draft := by
  have hreachable : pairing.Reachable := ⟨"Main", _, rfl⟩
  obtain ⟨-, hselected⟩ := assignDefaults_fills (x := ⟨pairing, [], [], {}⟩) hreachable ["1.5"]
  obtain ⟨herror, takes, hfits, -, hfills, -⟩ := hselected ⟨0⟩ rfl
  exact ⟨hreachable, rfl, herror, by decide +kernel, takes, hfits, hfills⟩

/-- A text is given to the second input and comes into the first one. -/
theorem not_assigns_pairing :
    pairing.Reachable ∧ pairing.selection.head? = some ⟨0⟩ ∧
      let o := Draft.assignDefaults ["hi"] ⟨pairing, [], [], {}⟩
      o.error = none ∧ ∃ takes, FirstFit pairing ⟨0⟩ (pairing.inputs ⟨0⟩) ["hi"] takes ∧
        ¬Assigns ⟨0⟩ (takers (pairing.inputs ⟨0⟩) ["hi"] takes) ⟨pairing, [], [], {}⟩ o.draft := by
  have hreachable : pairing.Reachable := ⟨"Main", _, rfl⟩
  obtain ⟨a, ha⟩ := hreachable.valid.exists_selected (n := ⟨0⟩) rfl
  have hfits := firstFit_positions hreachable.valid ha (pairing.inputs ⟨0⟩) ["hi"]
  refine ⟨hreachable, rfl, rfl, _, hfits, fun h => ?_⟩
  have hmem : ⟨1, ⟨"x", .string, some (.string "")⟩, .string "hi"⟩ ∈ takers (pairing.inputs ⟨0⟩)
      ["hi"] (positions pairing ⟨0⟩ (pairing.inputs ⟨0⟩) [] ["hi"]) := List.mem_singleton.2 rfl
  have hsecond : ((Draft.assignDefaults ["hi"] ⟨pairing, [], [], {}⟩).draft.document.inputs
      ⟨0⟩)[1]? = some ⟨"x", .string, some (.string "")⟩ := by decide +kernel
  have hheld := (h.held _ hmem).symm.trans hsecond
  simp at hheld

end Draft

end GraphDraft

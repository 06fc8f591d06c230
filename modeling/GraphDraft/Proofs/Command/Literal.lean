import GraphDraft.Proofs.Command.FirstFit
import GraphDraft.Proofs.Decimal

/-!
# Values that can be typed

A typed text is read as a finite number, as a truth value, or as itself (`Value.typed_ofText`).
Whole numbers are among the finite numbers, so none is ever read as a value of type `int`. Of the
inputs of a node, typed values therefore go into those of type `object`, `float`, `bool` and
`string` only (`Claim.probe_typed`).
-/

namespace GraphDraft

namespace Value

/-- The values that a typed text can be read as. -/
inductive Typed (t : String) : Value → Prop
  | float {x : Float32} (h : x.isFinite = true) : Typed t (float x)
  | bool (b : Bool) : Typed t (bool b)
  | string : Typed t (string t)

theorem isFinite_of_finiteNumber? {t : String} {x : Float32} (h : finiteNumber? t = some x) :
    x.isFinite = true :=
  (Option.filter_eq_some_iff.1 h).2

theorem finiteNumber?_of_wholeNumber? {t : String} {n : Int32}
    (h : wholeNumber? t.toList = some n) : ∃ x, finiteNumber? t = some x := by
  obtain ⟨m, hm, hrange⟩ := Option.bind_eq_some_iff.1 h
  obtain ⟨⟨hlow, hhigh⟩, -⟩ := Option.ite_none_right_eq_some.1 hrange
  obtain ⟨negative, hread⟩ := Decimal.ofChars?_of_integer? hm
  have hbound : m.natAbs ≤ 0x80000000 := by omega
  have hfinite : (Decimal.toFloat32 ⟨negative, m.natAbs, 0⟩).isFinite = true :=
    Decimal.isFinite_toFloat32 (Decimal.magnitudeCode_lt (Nat.lt_of_le_of_lt hbound (by decide)))
  -- what is read as a decimal is not looked up among the names
  have hvalue : float32? t = some (Decimal.toFloat32 ⟨negative, m.natAbs, 0⟩) := by
    rw [float32?, hread, Option.map_some, Option.orElse_some]
  exact ⟨_, Option.filter_eq_some_iff.2 ⟨hvalue, hfinite⟩⟩

theorem ofText_of_wholeNumber? {t : String} {n : Int32} (h : wholeNumber? t.toList = some n) :
    ∃ x, ofText t = float x ∧ x.isFinite = true := by
  obtain ⟨x, hx⟩ := finiteNumber?_of_wholeNumber? h
  exact ⟨x, by rw [ofText, hx], isFinite_of_finiteNumber? hx⟩

theorem typed_ofText (t : String) : Typed t (ofText t) := by
  -- texts of whole numbers are set apart first, since `ofText` would try them second
  cases hwhole : wholeNumber? t.toList with
  | some n =>
    obtain ⟨x, hx, hfinite⟩ := ofText_of_wholeNumber? hwhole
    rw [hx]
    exact .float hfinite
  | none =>
    rw [ofText, hwhole]
    split
    next x hx => exact .float (isFinite_of_finiteNumber? hx)
    next =>
      dsimp only
      split
      · exact .bool _
      · exact .string

end Value

namespace Claim

open Document

/-- The value is what one of the texts is read as, which is not the empty one. -/
def Taker.IsTyped (typed : List String) (t : Taker) : Prop :=
  ∃ s ∈ typed, s ≠ "" ∧ t.value = .ofText s

variable {d : Document} {n : NodeId} {inputs : List ValueInput}

/-- The taker for one text, if there is one, has an input that suits the text. -/
theorem fits_of_mem_takers {taken : List String} {s : String} {t : Taker}
    (ht : t ∈ takers inputs [s] [inputs.findIdx? (suits d n taken (.ofText s))]) :
    t.Fits inputs ∧ t.IsTyped [s] := by
  obtain ⟨⟨s', p⟩, hmem, htake⟩ := List.mem_filterMap.1 ht
  obtain ⟨rfl, rfl⟩ := Prod.mk.inj (List.mem_singleton.1 hmem)
  obtain ⟨hne, htake⟩ := Option.ite_none_left_eq_some.1 htake
  obtain ⟨p, hp, htake⟩ := Option.bind_eq_some_iff.1 htake
  obtain ⟨i, hi, rfl⟩ := Option.map_eq_some_iff.1 htake
  obtain ⟨hlt, hsuits, -⟩ := List.findIdx?_eq_some_iff_getElem.1 hp
  cases (List.getElem?_eq_getElem hlt).symm.trans hi
  have hempty : (Value.ofText s').isEmptyString = false :=
    Bool.eq_false_iff.2 (mt (Value.isEmptyString_ofText s').1 hne)
  simp only [suits, hempty, Bool.false_or, Bool.and_eq_true] at hsuits
  obtain ⟨⟨⟨hholds, haccepts⟩, -⟩, -⟩ := hsuits
  exact ⟨⟨hi, Option.isSome_iff_ne_none.1 hholds, haccepts⟩, s', List.mem_singleton.2 rfl, hne, rfl⟩

theorem fits_positions {typed : List String} (taken : List String) {t : Taker}
    (ht : t ∈ takers inputs typed (positions d n inputs taken typed)) :
    t.Fits inputs ∧ t.IsTyped typed := by
  induction typed generalizing taken with
  | nil => cases ht
  | cons s ss ih =>
    rw [positions, takers_cons, List.mem_append] at ht
    rcases ht with ht | ht
    · obtain ⟨hfits, s', hs', hne, hvalue⟩ := fits_of_mem_takers ht
      cases List.mem_singleton.1 hs'
      exact ⟨hfits, s, List.mem_cons_self, hne, hvalue⟩
    · obtain ⟨hfits, s', hs', hne, hvalue⟩ := ih _ ht
      exact ⟨hfits, s', List.mem_cons_of_mem s hs', hne, hvalue⟩

/-- Of the types of inputs, those that no typed value has are out of reach. -/
theorem type_of_accepts {type : DataType} {t : String} {v : Value} (hv : v.Typed t)
    (h : type.accepts v.type = true) :
    type ≠ .int ∧ (∀ name, type ≠ .named name) ∧ ∀ element, type ≠ .list element := by
  rcases DataType.accepts_iff.1 h with rfl | rfl
  · exact ⟨by decide, fun name => by simp, fun element => by simp⟩
  · cases hv <;> simp [Value.type]

/-- A text is read as a finite number, a truth value or itself, and whole numbers of 32 bits are
read as finite numbers. So the values that are typed go, by first fit, into inputs that accept
them, none of which has the type `int`, a named type or that of a list. What is taken by an empty
text is left as it is. -/
theorem probe_typed :
    (∀ t, (Value.ofText t).Typed t) ∧
    (∀ t n, Value.wholeNumber? t.toList = some n →
      ∃ x, Value.ofText t = .float x ∧ x.isFinite = true) ∧
    ∀ d typed, (d.anchor? = none → probe d typed = none) ∧
      ∀ n x, d.anchor? = some (n, x) →
        let inputs := x.ports.valueInputs
        let takes := positions d n inputs [] typed
        probe d typed = some ((takers inputs typed takes).map Taker.claim) ∧
        (d.Reachable → FirstFit d n inputs typed takes) ∧
        ∀ t ∈ takers inputs typed takes, t.Fits inputs ∧
          t.input.type ≠ .int ∧ (∀ name, t.input.type ≠ .named name) ∧
          ∀ element, t.input.type ≠ .list element := by
  refine ⟨Value.typed_ofText, fun t n => Value.ofText_of_wholeNumber?, fun d typed => ⟨?_, ?_⟩⟩
  · intro hanchor
    rw [probe, hanchor, Option.map_none]
  · intro n x hanchor
    obtain ⟨hn, hx⟩ := anchor?_eq_some_iff.1 hanchor
    refine ⟨probe_eq hn hx typed, fun h => firstFit_positions h.valid hx _ typed, fun t ht => ?_⟩
    obtain ⟨hfits, s, -, -, hvalue⟩ := fits_positions [] ht
    exact ⟨hfits, type_of_accepts (Value.typed_ofText s) (hvalue ▸ hfits.accepts)⟩

/-- A selected loop, the first two of whose inputs are whole numbers. -/
def looping : Document :=
  let inputs : List ValueInput :=
    [⟨"first", .int, some (.int 0)⟩, ⟨"last", .int, some (.int 0)⟩,
      ⟨"speed", .float, some (.float 0)⟩, ⟨"body", .list .int, some .null⟩]
  Operation.runAll
    [.addNode .root { kind := .unit "Loop", title := "Loop", ports := { valueInputs := inputs } }
       .origin, .select (some ⟨0⟩)]
    (.empty "Main")

/-- The number passes by the inputs of type `int`, the first of which is taken by the empty text
and stays as it is. Nothing is left for the second number. -/
theorem probe_typed_looping :
    let typed := ["7", "", "8"]
    Value.wholeNumber? "7".toList = some 7 ∧
      (∃ x, Value.ofText "7" = .float x ∧ x.isFinite = true) ∧ looping.Reachable ∧
      ∃ x, looping.anchor? = some (⟨0⟩, x) ∧
        FirstFit looping ⟨0⟩ x.ports.valueInputs typed [some 2, some 0, none] ∧
        probe looping typed = some [⟨"speed", .float 7⟩] ∧
        ∀ t ∈ takers x.ports.valueInputs typed [some 2, some 0, none], t.input.type ≠ .int := by
  have hread : Value.wholeNumber? "7".toList = some 7 := by decide +kernel
  have hreachable : looping.Reachable := ⟨"Main", _, rfl⟩
  obtain ⟨-, hwhole, hprobe⟩ := probe_typed
  obtain ⟨x, hx⟩ : ∃ x, looping.anchor? = some (⟨0⟩, x) := ⟨_, rfl⟩
  obtain ⟨-, hfits, htypes⟩ := (hprobe looping ["7", "", "8"]).2 ⟨0⟩ x hx
  have htakes : positions looping ⟨0⟩ x.ports.valueInputs [] ["7", "", "8"] =
      [some 2, some 0, none] := by
    cases hx
    decide +kernel
  rw [htakes] at hfits htypes
  exact ⟨hread, hwhole "7" 7 hread, hreachable, x, hx, hfits hreachable, by decide +kernel,
    fun t ht => (htypes t ht).2.1⟩

end Claim

end GraphDraft

import GraphDraft.Draft.Change

/-!
# Values for inputs

Typed values fill the inputs of the selected node, first fit: each value claims the first input
that can hold it, is not connected, and has a key that no earlier value has claimed.
-/

namespace GraphDraft

/-- A value for the input of a key. -/
structure Claim where
  key : String
  value : Value
deriving DecidableEq, Repr

namespace Claim

/-- Whether a value may go into an input of node `n` of which the keys `taken` are claimed. An
empty text fits everywhere. -/
def suits (d : Document) (n : NodeId) (taken : List String) (v : Value) (i : ValueInput) : Bool :=
  i.default.isSome && (v.isEmptyString || i.type.accepts v.type) && !taken.contains i.key &&
    !d.inputConnected n .value i.key

/-- The claims of some values. Empty texts claim an input and leave it as it is. -/
def firstFit (d : Document) (n : NodeId) (inputs : List ValueInput) :
    (taken : List String) → List Value → List Claim
  | _, [] => []
  | taken, v :: vs =>
    match inputs.find? (suits d n taken v) with
    | some i =>
      (if v.isEmptyString then [] else [⟨i.key, v⟩]) ++ firstFit d n inputs (taken ++ [i.key]) vs
    | none => firstFit d n inputs taken vs

/-- What typed values claim of the selected node; none if nothing is selected. -/
def probe (d : Document) (typed : List String) : Option (List Claim) :=
  d.anchor?.map fun (n, x) => firstFit d n x.ports.valueInputs [] (typed.map Value.ofText)

end Claim

/-- Writes claimed values into the inputs of a node. -/
def Draft.setClaims (d : Draft) (n : NodeId) (claims : List Claim) : Draft :=
  claims.foldl (fun d c => d.setDefault n c.key c.value) d

end GraphDraft

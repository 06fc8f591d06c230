import GraphDraft.Document.Nodes

/-!
# Layout

Where new nodes go. Widths are estimated from the lengths of port keys; a node goes beside the
anchor and is then nudged down until it is clear of its neighbours.
-/

namespace GraphDraft.Layout

/-- The estimated width of a character of a port key. -/
def letterWidth : Float32 := 14

/-- The width of the narrowest node, and the distance to the left of the anchor. -/
def narrowestNode : Float32 := 180

/-- How far below the anchor a node to its left goes. -/
def leftDrop : Float32 := 100

/-- The width of the port named `target`, and what a parameter port needs beside its key. -/
def targetWidth : Float32 := 120

/-- Nodes nearer than this overlap. -/
def clearance : Float32 := 100

/-- How far one nudge moves a node. -/
def nudge : Point := ⟨0, 10⟩

/-- How often a node is nudged at most. -/
def nudgeLimit : Nat := 100

/-- The estimated width of a port. -/
def portWidth (key : String) : Float32 :=
  let letters := Float32.ofNat key.length * letterWidth
  if key = "target" then targetWidth
  else if key.toList.head? = some '%' then targetWidth + letters
  else letters

/-- The width of the widest of some ports. -/
def widest (keys : List String) : Float32 :=
  (keys.map portWidth).foldl max 0

/-- The estimated width of a node: its widest input beside its widest output. -/
def nodeWidth (p : Ports) : Float32 :=
  max (widest p.inputKeys + widest p.outputKeys) narrowestNode

/-- The way from an anchor to a node on its left. -/
def leftOffset : Point := ⟨-narrowestNode, leftDrop⟩

/-- The way from an anchor to a node on its right. -/
def rightOffset (p : Ports) : Point := ⟨nodeWidth p, 0⟩

/-- The position beside an anchor. -/
def beside (anchor : Node) (left : Bool) : Point :=
  anchor.position + if left then leftOffset else rightOffset anchor.ports

/-- Whether a node is too near to another one of its graph. -/
def overlaps (d : Document) (id : NodeId) : Bool :=
  match d.node? id with
  | some n =>
    (d.nodesIn n.graph).any fun (other, o) =>
      other ≠ id && o.position.distance n.position < clearance
  | none => false

/-- Nudges a node down until it is clear, at most `limit` times; also gives how often. -/
def nudgeClear : (limit : Nat) → NodeId → Document → Nat × Document
  | 0, _, d => (0, d)
  | limit + 1, id, d =>
    if overlaps d id then
      match d.node? id with
      | some n =>
        let (count, d) := nudgeClear limit id (d.setPosition id (n.position + nudge))
        (count + 1, d)
      | none => (0, d)
    else (0, d)

/-- Nudges a node down until it is clear of its neighbours or the limit is reached. -/
def spaceOut (d : Document) (id : NodeId) : Nat × Document :=
  nudgeClear nudgeLimit id d

end GraphDraft.Layout

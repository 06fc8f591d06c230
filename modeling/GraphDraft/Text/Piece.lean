/-!
# Pieces of a text

Whether one text is found in another.
-/

namespace GraphDraft.Text

/-- Whether `piece` stands somewhere in a text, its characters side by side. -/
def isPieceOf (piece : List Char) : List Char → Bool
  | [] => piece.isEmpty
  | c :: cs => piece.isPrefixOf (c :: cs) || isPieceOf piece cs

theorem isPieceOf_iff {piece cs : List Char} : isPieceOf piece cs = true ↔ piece <:+: cs := by
  induction cs with
  | nil => simp [isPieceOf]
  | cons c cs ih => simp [isPieceOf, ih, List.infix_cons_iff]

end GraphDraft.Text

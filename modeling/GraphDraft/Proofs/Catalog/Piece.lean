import GraphDraft.Catalog.Basic
import GraphDraft.Proofs.Text.Sigma

/-!
# Searching for a piece of a name

A search lowercases its query without what stands around it in a name. So an entry is found by a
piece of the name that it was given whenever each capital sigma of the piece ends a word in the name
if and only if it does in the piece, and by a piece that has all the sigmas of the name in no other
case (`Catalog.search_piece`).
-/

namespace GraphDraft.Catalog

variable {es : List Entry}

/-- A search without a bound finds just the entries whose names contain the query in lower case. -/
theorem mem_search_iff (es : List Entry) (e : Entry) (query : String) :
    e ∈ (ofList es).search query (ofList es).size ↔
      e ∈ es ∧ (Text.lowercase query).toList <:+: e.name.toList := by
  rw [search, size, List.take_of_length_le (List.length_filter_le ..), List.mem_filter,
    Entry.matchesText, Text.isPieceOf_iff]
  exact and_congr_left' List.mem_mergeSort

/-- Whether an entry is found by a piece of its name. -/
theorem search_piece {left piece right : String} {build : Except BuildError Blueprint}
    (h : .named (left ++ piece ++ right) build ∈ es) :
    (Text.SigmasAgree left.toList piece.toList right.toList →
      .named (left ++ piece ++ right) build ∈ (ofList es).search piece (ofList es).size) ∧
    ((∀ c ∈ left.toList ++ right.toList, Text.isSigma c = false) →
      (.named (left ++ piece ++ right) build ∈ (ofList es).search piece (ofList es).size ↔
        Text.SigmasAgree left.toList piece.toList right.toList)) := by
  have hfound : .named (left ++ piece ++ right) build ∈
      (ofList es).search piece (ofList es).size ↔
        Text.lowercaseFrom [] piece.toList <:+:
          Text.lowercaseFrom [] (left.toList ++ piece.toList ++ right.toList) := by
    rw [mem_search_iff, and_iff_right h, Entry.named, Text.lowercase, Text.lowercase,
      String.toList_ofList, String.toList_ofList, String.toList_append, String.toList_append]
  rw [hfound]
  exact ⟨Text.infix_of_agree, fun hnone => Text.infix_lowercase_iff hnone⟩

/-- A name of two words, of which the first has the only sigma, at its end. -/
def streetSign : List Entry :=
  [.named ("ΟΔ" ++ "ΟΣ" ++ " 1") (.ok .null), .named "street" (.ok .null)]

theorem search_piece_streetSign :
    .named ("ΟΔ" ++ "ΟΣ" ++ " 1") (.ok .null) ∈ streetSign ∧
    Text.SigmasAgree "ΟΔ".toList "ΟΣ".toList " 1".toList ∧
    (∀ c ∈ "ΟΔ".toList ++ " 1".toList, Text.isSigma c = false) ∧
    .named ("ΟΔ" ++ "ΟΣ" ++ " 1") (.ok .null) ∈
      (ofList streetSign).search "ΟΣ" (ofList streetSign).size := by
  have hmem : .named ("ΟΔ" ++ "ΟΣ" ++ " 1") (.ok .null) ∈ streetSign := List.mem_cons_self
  have hagree : Text.SigmasAgree "ΟΔ".toList "ΟΣ".toList " 1".toList := by decide +kernel
  have hany : ("ΟΔ".toList ++ " 1".toList).any Text.isSigma = false := by decide +kernel
  have hnone : ∀ c ∈ "ΟΔ".toList ++ " 1".toList, Text.isSigma c = false :=
    fun c hc => Bool.eq_false_iff.2 (List.any_eq_false.1 hany c hc)
  exact ⟨hmem, hagree, hnone, ((search_piece hmem).2 hnone).2 hagree⟩

/-- A name is not found by its first four letters, whose sigma ends no word in the name. -/
theorem not_search_piece_sigma : ¬∀ (es : List Entry) (left piece right : String)
    (build : Except BuildError Blueprint), .named (left ++ piece ++ right) build ∈ es →
      .named (left ++ piece ++ right) build ∈ (ofList es).search piece (ofList es).size := by
  intro h
  have hfound := h [.named ("" ++ "ΟΔΟΣ" ++ "Α") (.ok .null)] "" "ΟΔΟΣ" "Α" (.ok .null)
    List.mem_cons_self
  have hpiece := ((mem_search_iff ..).1 hfound).2
  revert hpiece
  decide +kernel

end GraphDraft.Catalog

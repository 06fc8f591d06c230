import GraphDraft.Proofs.Catalog.Order
import GraphDraft.Proofs.Text.Lowercase

/-!
# Searching for a name

A name that contains another one and is not longer is that name. So the first entry that a search
for a name of the catalog finds has just this name, since no shorter one contains it, and it is the
first of its name to be given, since sorting is stable (`Catalog.search_name`).
-/

namespace GraphDraft

namespace Entry

/-- The name of the entry is one that lowercasing gives, as it is in all entries made by `named`. -/
def Lowercased (e : Entry) : Prop :=
  ∃ name, e.name = Text.lowercase name

theorem lowercased_named (name : String) (build : Except BuildError Blueprint) :
    (named name build).Lowercased :=
  ⟨name, rfl⟩

theorem Lowercased.lowercase_name {e : Entry} (h : e.Lowercased) :
    Text.lowercase e.name = e.name := by
  obtain ⟨name, hname⟩ := h
  rw [hname, Text.lowercase_lowercase]

/-- A name that contains a text and is not longer is the text. -/
theorem name_eq_of_matchesText {e : Entry} {n : String} (h : e.matchesText n = true)
    (hle : e.name.length ≤ n.length) : e.name = n := by
  have hpiece : n.toList <:+: e.name.toList := Text.isPieceOf_iff.1 h
  rw [← String.length_toList, ← String.length_toList] at hle
  exact String.toList_injective (hpiece.eq_of_length_le hle).symm

theorem matchesText_name (e : Entry) : e.matchesText e.name = true :=
  Text.isPieceOf_iff.2 (List.infix_refl _)

end Entry

namespace Catalog

variable {es : List Entry} {n : String}

/-- The first match of a name of the catalog has this name. -/
theorem exists_first_match (hn : ∃ e ∈ (ofList es).entries, e.name = n) :
    ∃ e rest, (ofList es).entries.filter (·.matchesText n) = e :: rest ∧ e.name = n := by
  obtain ⟨m, hm, rfl⟩ := hn
  have hmatch : m ∈ (ofList es).entries.filter (·.matchesText m.name) :=
    List.mem_filter.2 ⟨hm, m.matchesText_name⟩
  have hsorted : ((ofList es).entries.filter (·.matchesText m.name)).Pairwise
      fun a b => a.notLonger b = true :=
    (List.pairwise_mergeSort Entry.notLonger_trans Entry.notLonger_total es).filter _
  cases hfound : (ofList es).entries.filter (·.matchesText m.name) with
  | nil =>
    rw [hfound] at hmatch
    cases hmatch
  | cons e rest =>
    have he : e ∈ (ofList es).entries.filter (·.matchesText m.name) := by
      rw [hfound]
      exact List.mem_cons_self
    rw [hfound] at hmatch hsorted
    have hle : e.name.length ≤ m.name.length := by
      rcases List.mem_cons.1 hmatch with rfl | hmatch
      · exact Nat.le_refl _
      · simpa [Entry.notLonger] using (List.pairwise_cons.1 hsorted).1 m hmatch
    exact ⟨e, rest, rfl, Entry.name_eq_of_matchesText (List.mem_filter.1 he).2 hle⟩

/-- Sorting leaves the entries of one name in the order in which they were given. -/
theorem filter_name_entries : (ofList es).entries.filter (·.name = n) = es.filter (·.name = n) := by
  refine filter_mergeSort Entry.notLonger_trans Entry.notLonger_total (fun a b ha hb => ?_) es
  rw [decide_eq_true_eq] at ha hb
  simp [Entry.notLonger, ha, hb]

/-- A search for a name of the catalog finds an entry of this very name, and of several the one that
was given first. -/
theorem search_name (hes : ∀ e ∈ es, e.Lowercased)
    (hn : ∃ e ∈ (ofList es).entries, e.name = n) :
    ∃ before e after, es = before ++ e :: after ∧ e.name = n ∧ (∀ f ∈ before, f.name ≠ n) ∧
      (ofList es).search n 1 = [e] := by
  have hlower : Text.lowercase n = n := by
    obtain ⟨m, hm, rfl⟩ := hn
    exact (hes m (List.mem_mergeSort.1 hm)).lowercase_name
  obtain ⟨e, rest, hfound, hname⟩ := exists_first_match hn
  have hfirst : es.find? (·.name = n) = some e := by
    have hall : ∀ f : Entry, (decide (f.name = n) && f.matchesText n) = decide (f.name = n) := by
      intro f
      by_cases hf : f.name = n
      · simp [hf, hf ▸ f.matchesText_name]
      · simp [hf]
    have hnamed : es.filter (·.name = n) = (e :: rest).filter (·.name = n) := by
      rw [← hfound, List.filter_filter, ← filter_name_entries]
      exact List.filter_congr fun f _ => (hall f).symm
    rw [← List.head?_filter, hnamed, List.filter_cons_of_pos (by simpa using hname)]
    rfl
  obtain ⟨-, before, after, hes, hbefore⟩ := List.find?_eq_some_iff_append.1 hfirst
  refine ⟨before, e, after, hes, hname, fun f hf => by simpa using hbefore f hf, ?_⟩
  rw [search, hlower, hfound]
  rfl

/-- Several entries of one name, given behind longer names that contain it. -/
def doubled : List Entry :=
  [.named "Addition" (.ok .null), .named "ADD" (.ok (.composite none ⟨"first", []⟩)),
   .named "Padded" (.ok .null), .named "add" (.ok (.composite none ⟨"second", []⟩)),
   .named "İ" (.ok .null)]

theorem search_name_doubled :
    (∀ e ∈ doubled, e.Lowercased) ∧ (∃ e ∈ (ofList doubled).entries, e.name = "add") ∧
      ∃ before e after, doubled = before ++ e :: after ∧ e.name = "add" ∧
        (∀ f ∈ before, f.name ≠ "add") ∧ (ofList doubled).search "add" 1 = [e] := by
  have hes : ∀ e ∈ doubled, e.Lowercased := by
    intro e he
    simp only [doubled, List.mem_cons, List.not_mem_nil, or_false] at he
    rcases he with rfl | rfl | rfl | rfl | rfl <;> exact Entry.lowercased_named _ _
  have hn : ∃ e ∈ (ofList doubled).entries, e.name = "add" := by
    refine ⟨_, List.mem_mergeSort.2 (List.mem_cons_of_mem _ List.mem_cons_self), ?_⟩
    decide +kernel
  exact ⟨hes, hn, search_name hes hn⟩

end Catalog

end GraphDraft

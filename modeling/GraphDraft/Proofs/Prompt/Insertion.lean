import GraphDraft.Proofs.Prompt.Line
import Mathlib.Data.List.Induction

/-!
# Typing in the middle of a line

A character is put in at the cursor, but the cursor does not always follow it: it stands behind the
character if and only if there is a boundary between this and what follows
(`PromptLine.sides_insert_iff`). Otherwise the next character goes somewhere else. So a text is
typed in order as long as none of its first parts joins what is to its right, and only then; and any
text is where nothing follows that can be joined (`PromptLine.typable_runAll`).

In any case nothing is lost, and what stands to the left of the cursor stays there.
-/

namespace GraphDraft.PromptLine

/-- Types characters one after another. -/
def insertAll (l : PromptLine) (cs : List Char) : PromptLine :=
  cs.foldl insert l

/-- The characters come to stand at the cursor, side by side and in order. -/
def InOrder (l : PromptLine) (cs : List Char) : Prop :=
  (l.insertAll cs).text.toList = l.sides.1 ++ cs ++ l.sides.2

instance (l : PromptLine) (cs : List Char) : Decidable (l.InOrder cs) :=
  inferInstanceAs (Decidable (_ = _))

variable {l : PromptLine} {c : Char} {cs : List Char}

theorem insertAll_concat (l : PromptLine) (cs : List Char) (c : Char) :
    l.insertAll (cs ++ [c]) = (l.insertAll cs).insert c := by
  rw [insertAll, List.foldl_append]
  rfl

theorem Placed.insertAll (h : l.Placed) (cs : List Char) : (l.insertAll cs).Placed := by
  induction cs using List.reverseRecOn with
  | nil => exact h
  | append_singleton cs c ih =>
    rw [insertAll_concat]
    exact ih.insert c

/-! ## One character -/

theorem sides_append (l : PromptLine) : l.sides.1 ++ l.sides.2 = l.text.toList :=
  Text.splitClusters_append l.cursor l.text

theorem toList_text_insert (l : PromptLine) (c : Char) :
    (l.insert c).text.toList = l.sides.1 ++ c :: l.sides.2 :=
  String.toList_ofList

/-- The cursor follows a character that nothing to its right joins. -/
theorem sides_insert_of_boundary (hl : l.Placed)
    (h : Text.Boundary (l.sides.1 ++ [c]) l.sides.2) :
    (l.insert c).sides = (l.sides.1 ++ [c], l.sides.2) := by
  have hleft : (Text.clusters l.sides.1).length = l.cursor := Text.length_clusters_splitClusters hl
  have hbefore : Text.clusterCount l.text = l.cursor + (Text.clusters l.sides.2).length := by
    rw [Text.clusterCount, ← l.sides_append, Text.clusters_append (cut?_cursor l).2,
      List.length_append, hleft]
  have htext : (l.insert c).text = String.ofList (l.sides.1 ++ [c] ++ l.sides.2) := by
    rw [List.append_assoc]
    rfl
  have hafter : Text.clusterCount (l.insert c).text =
      (Text.clusters (l.sides.1 ++ [c])).length + (Text.clusters l.sides.2).length := by
    rw [Text.clusterCount, htext, String.toList_ofList, Text.clusters_append h, List.length_append]
  -- whether the character joins the left side decides both the count and the cursor
  have hone := Text.length_clusters_concat l.sides.1 c
  have hcursor : (l.insert c).cursor = (Text.clusters (l.sides.1 ++ [c])).length := by
    rw [cursor_insert]
    split <;> omega
  rw [sides, hcursor, htext, Text.splitClusters_of_boundary h]

theorem sides_insert_iff (hl : l.Placed) :
    (l.insert c).sides = (l.sides.1 ++ [c], l.sides.2) ↔
      Text.Boundary (l.sides.1 ++ [c]) l.sides.2 := by
  refine ⟨fun h => ?_, sides_insert_of_boundary hl⟩
  have hboundary := (cut?_cursor (l.insert c)).2
  rwa [h] at hboundary

/-- What stands to the left of the cursor stays to the left of it. -/
theorem left_prefix_insert (hl : l.Placed) (c : Char) : l.sides.1 <+: (l.insert c).sides.1 := by
  have hleft : (Text.clusters l.sides.1).length = l.cursor := Text.length_clusters_splitClusters hl
  have hcursor : l.cursor ≤ (l.insert c).cursor := by
    rw [cursor_insert]
    split <;> omega
  have hkept := Text.prefix_take_clusters l.sides.1 (c :: l.sides.2)
  rw [hleft, ← toList_text_insert] at hkept
  refine hkept.trans ?_
  obtain ⟨more, hmore⟩ := List.take_prefix_take_left hcursor
    (l := Text.clusters (l.insert c).text.toList)
  exact ⟨more.flatten, by rw [← List.flatten_append, hmore]; rfl⟩

/-! ## Places in a text -/

theorem eq_nil_of_forall_cons {m r : List Char} (h : ∀ d, d :: (m ++ r) = m ++ d :: r) :
    m = [] := by
  cases m with
  | nil => rfl
  | cons x m =>
    have ha : 'a' = x := (List.cons.inj (h 'a')).1
    have hb : 'b' = x := (List.cons.inj (h 'b')).1
    exact absurd (ha.trans hb.symm) (by decide)

/-- Two places in a text are the same one if it makes no difference which character is put at one or
the other. -/
theorem eq_of_forall_append_cons {l₁ l₂ r₁ r₂ : List Char} (h : l₁ ++ r₁ = l₂ ++ r₂)
    (hput : ∀ d, l₁ ++ d :: r₁ = l₂ ++ d :: r₂) : l₁ = l₂ := by
  rcases List.append_eq_append_iff.1 h with ⟨m, rfl, rfl⟩ | ⟨m, rfl, rfl⟩
  · have hm := eq_nil_of_forall_cons fun d => by simpa using hput d
    rw [hm, List.append_nil]
  · have hm := eq_nil_of_forall_cons fun d => by simpa using (hput d).symm
    rw [hm, List.append_nil]

/-! ## Any characters -/

theorem sides_insertAll (hl : l.Placed)
    (h : ∀ p, p <+: cs → Text.Boundary (l.sides.1 ++ p) l.sides.2) :
    (l.insertAll cs).sides = (l.sides.1 ++ cs, l.sides.2) := by
  induction cs using List.reverseRecOn with
  | nil =>
    rw [List.append_nil]
    rfl
  | append_singleton cs c ih =>
    have hsides := ih fun p hp => h p (hp.trans (List.prefix_append ..))
    have hboundary : Text.Boundary ((l.insertAll cs).sides.1 ++ [c]) (l.insertAll cs).sides.2 := by
      rw [hsides, List.append_assoc]
      exact h _ List.prefix_rfl
    rw [insertAll_concat, sides_insert_of_boundary (hl.insertAll cs) hboundary, hsides,
      List.append_assoc]

theorem inOrder_nil (l : PromptLine) : l.InOrder [] := by
  rw [InOrder, List.append_nil, sides_append]
  rfl

theorem inOrder_of_sides (h : (l.insertAll cs).sides = (l.sides.1 ++ cs, l.sides.2)) :
    l.InOrder cs := by
  rw [InOrder, ← sides_append, h]

/-- All that can be typed next goes behind what has been typed if and only if the cursor does. -/
theorem forall_inOrder_concat_iff (h : l.InOrder cs) :
    (∀ d, l.InOrder (cs ++ [d])) ↔ (l.insertAll cs).sides = (l.sides.1 ++ cs, l.sides.2) := by
  constructor
  · intro hnext
    have hleft : (l.insertAll cs).sides.1 = l.sides.1 ++ cs := by
      refine eq_of_forall_append_cons ((sides_append _).trans h) fun d => ?_
      have hd := hnext d
      rw [InOrder, insertAll_concat, toList_text_insert] at hd
      simpa using hd
    have hsplit := (l.insertAll cs).sides_append
    rw [h, hleft, List.append_cancel_left_eq] at hsplit
    exact Prod.ext hleft hsplit
  · intro hsides d
    rw [InOrder, insertAll_concat, toList_text_insert, hsides]
    simp

/-- A text is typed in order, whatever comes next at any time, if and only if no first part of it
joins what is to its right. -/
theorem inOrder_iff (hl : l.Placed) (cs : List Char) :
    (∀ p d, p <+: cs → l.InOrder (p ++ [d])) ↔
      ∀ p, p <+: cs → Text.Boundary (l.sides.1 ++ p) l.sides.2 := by
  constructor
  · intro h p hp
    have horder : l.InOrder p := by
      rcases p.eq_nil_or_concat' with rfl | ⟨q, d, rfl⟩
      · exact l.inOrder_nil
      · exact h q d ((List.prefix_append ..).trans hp)
    -- the cursor is right behind `p`, and it always stands at a boundary
    have hsides := (forall_inOrder_concat_iff horder).1 fun d => h p d hp
    have hboundary := (cut?_cursor (l.insertAll p)).2
    rwa [hsides] at hboundary
  · intro h p d hp
    have hsides := sides_insertAll hl fun q hq => h q (hq.trans hp)
    exact (forall_inOrder_concat_iff (inOrder_of_sides hsides)).2 hsides d

/-- Any text is typed in order if and only if there is nothing to the right, or a control that
nothing joins. -/
theorem forall_inOrder_iff (hl : l.Placed) : (∀ cs, l.InOrder cs) ↔
    ∀ c ∈ l.sides.2.head?, (Text.ClusterClass.of c).isSeparate = true := by
  rw [← Text.forall_boundary_iff l.sides.1]
  constructor
  · intro h cs
    exact (inOrder_iff hl cs).1 (fun p d _ => h _) cs List.prefix_rfl
  · intro h cs
    rcases cs.eq_nil_or_concat' with rfl | ⟨p, d, rfl⟩
    · exact l.inOrder_nil
    · exact (inOrder_iff hl p).2 (fun q _ => h q) p d List.prefix_rfl

theorem left_prefix_insertAll (hl : l.Placed) (cs : List Char) :
    l.sides.1 <+: (l.insertAll cs).sides.1 := by
  induction cs using List.reverseRecOn with
  | nil => exact List.prefix_rfl
  | append_singleton cs c ih =>
    rw [insertAll_concat]
    exact ih.trans (left_prefix_insert (hl.insertAll cs) c)

/-- Nothing is lost of the text, nor of what is typed. -/
theorem insertAll_perm (l : PromptLine) (cs : List Char) :
    (l.insertAll cs).text.toList.Perm (cs ++ l.text.toList) := by
  induction cs using List.reverseRecOn with
  | nil => exact .refl _
  | append_singleton cs c ih =>
    rw [insertAll_concat, toList_text_insert]
    refine List.perm_middle.trans ?_
    rw [sides_append, List.append_assoc]
    exact (ih.cons c).trans List.perm_middle.symm

/-- What becomes of the characters that are typed into a line. -/
structure Typable (l : PromptLine) : Prop where
  /-- They are put in somewhere behind what stands to the left of the cursor. -/
  kept : ∀ cs, (l.insertAll cs).text.toList.Perm (cs ++ l.text.toList) ∧
    l.sides.1 <+: (l.insertAll cs).sides.1
  /-- The cursor follows a single one just if this does not join the rest. -/
  follows : ∀ c, (l.insert c).sides = (l.sides.1 ++ [c], l.sides.2) ↔
    Text.Boundary (l.sides.1 ++ [c]) l.sides.2
  /-- They stay in order, whatever is typed next at any time, just if they do not join the rest. -/
  inOrder : ∀ cs, (∀ p d, p <+: cs → l.InOrder (p ++ [d])) ↔
    ∀ p, p <+: cs → Text.Boundary (l.sides.1 ++ p) l.sides.2
  /-- Any characters stay in order just if nothing can join the rest. -/
  always : (∀ cs, l.InOrder cs) ↔
    ∀ c ∈ l.sides.2.head?, (Text.ClusterClass.of c).isSeparate = true

theorem typable_runAll (es : List LineEdit) : (LineEdit.runAll es {}).Typable := by
  have hplaced : (LineEdit.runAll es {}).Placed := LineEdit.placed_runAll (Nat.zero_le _) es
  exact {
    kept := fun cs => ⟨insertAll_perm _ cs, left_prefix_insertAll hplaced cs⟩
    follows := fun _ => sides_insert_iff hplaced
    inOrder := inOrder_iff hplaced
    always := forall_inOrder_iff hplaced }

/-- A flag typed before another flag is taken apart. -/
theorem not_inOrder_flags : ¬∀ (es : List LineEdit) (cs : List Char),
    (LineEdit.runAll es {}).InOrder cs := by
  intro h
  have hflags := h [.insert '🇫', .insert '🇷', .edit .home] ['🇩', '🇪']
  revert hflags
  decide +kernel

end GraphDraft.PromptLine

import GraphDraft.Prompt.Line
import GraphDraft.Proofs.Text.Boundary
import GraphDraft.Proofs.Text.Cut

/-!
# The cursor of a prompt line

A line is edited at offsets in bytes (`byteAt`), and a text can be cut only between two characters.
`insertBytes?` and `editBytes?` are the edits on bytes; on any line they come to what `insert` and
`edit` say. In a new line and after any edits (`LineEdit.runAll`) the cursor is among the clusters
of the text. An edit can merge the clusters around it; the ones before the cursor are still there,
since what follows a text takes no cluster from it (`Text.length_clusters_le_append`).
-/

namespace GraphDraft

open String (utf8Len)

namespace PromptLine

variable (l : PromptLine)

/-! ## Edits on bytes -/

/-- The offset of a cluster in bytes; past the last one, the end of the text. -/
def byteAt (n : Nat) : Nat :=
  (Text.clusterOffset? n l.text).getD l.text.utf8ByteSize

/-- Types a character at the offset of the cursor. -/
def insertBytes? (c : Char) : Option PromptLine := do
  let cs ← Text.insertAt? (l.byteAt l.cursor) c l.text.toList
  let text := String.ofList cs
  return {
    text
    cursor := if Text.clusterCount l.text < Text.clusterCount text then l.cursor + 1 else l.cursor }

/-- Edits the line, and says whether the text changes. -/
def editBytes? (k : Key) : Option (Bool × PromptLine) :=
  match k with
  | .backspace =>
    if 0 < l.cursor then do
      let cs ← Text.cutOut? (l.byteAt (l.cursor - 1)) (l.byteAt l.cursor) l.text.toList
      return (true, ⟨String.ofList cs, l.cursor - 1⟩)
    else some (false, l)
  | .delete =>
    if l.cursor < Text.clusterCount l.text then do
      let cs ← Text.cutOut? (l.byteAt l.cursor) (l.byteAt (l.cursor + 1)) l.text.toList
      return (true, { l with text := String.ofList cs })
    else some (false, l)
  | .left => some (false, { l with cursor := l.cursor - 1 })
  | .right => some (false, { l with cursor := min (l.cursor + 1) (Text.clusterCount l.text) })
  | .home => some (false, { l with cursor := 0 })
  | .end => some (false, { l with cursor := Text.clusterCount l.text })
  | _ => some (false, l)

/-- An offset is that of all the clusters before it. -/
theorem byteAt_eq (n : Nat) : l.byteAt n = utf8Len (Text.splitClusters n l.text).1 := by
  rw [byteAt, Text.clusterOffset?]
  split
  · rw [Option.getD_some, String.utf8ByteSize_ofList]
  · rename_i hn
    have hall : (Text.splitClusters n l.text).1 = l.text.toList := by
      rw [Text.splitClusters, List.take_of_length_le (Nat.le_of_not_lt hn), Text.clusters_flatten]
    rw [Option.getD_none, hall, String.utf8Len_toList]

theorem insertBytes?_eq (c : Char) : l.insertBytes? c = some (l.insert c) := by
  have hsides := Text.splitClusters_append l.cursor l.text
  have htext : Text.insertAt? (l.byteAt l.cursor) c l.text.toList =
      some (l.sides.1 ++ c :: l.sides.2) := by
    rw [byteAt_eq, ← hsides]
    exact Text.insertAt?_append ..
  rw [insertBytes?, htext]
  rfl

/-- What stands between the offsets of two neighbouring clusters is the first of them. -/
theorem cutOut?_cluster (n : Nat) : Text.cutOut? (l.byteAt n) (l.byteAt (n + 1)) l.text.toList =
    some (withoutCluster n l.text).toList := by
  obtain ⟨next, hleft, hright, -⟩ := Text.splitClusters_succ n l.text
  have htext := Text.splitClusters_append n l.text
  rw [byteAt_eq, byteAt_eq, hleft, ← htext, hright, Text.cutOut?_append, withoutCluster,
    String.toList_ofList]

theorem editBytes?_eq (k : Key) : l.editBytes? k = some (l.changedBy k, l.edit k) := by
  cases k with
  | backspace =>
    rw [editBytes?, edit, changedBy]
    by_cases hcursor : 0 < l.cursor
    · have hcut := l.cutOut?_cluster (l.cursor - 1)
      rw [Nat.sub_add_cancel hcursor] at hcut
      simp [hcursor, hcut]
    · simp [hcursor]
  | delete =>
    rw [editBytes?, edit, changedBy]
    by_cases hcursor : l.cursor < Text.clusterCount l.text
    · simp [hcursor, l.cutOut?_cluster l.cursor]
    · simp [hcursor]
  | left | right | home | «end» | char | ctrl | alt | esc | enter | tab | up | down | null => rfl

/-! ## The cursor -/

theorem cursor_insert (c : Char) : (l.insert c).cursor =
    if Text.clusterCount l.text < Text.clusterCount (l.insert c).text then l.cursor + 1
    else l.cursor :=
  rfl

/-- The cursor is among the clusters of the text. -/
def Placed : Prop :=
  l.cursor ≤ Text.clusterCount l.text

variable {l}

/-- The clusters before some place, as long as there are so many, are kept by a text that starts in
the same way. -/
theorem le_clusterCount {n : Nat} {s : String} (hn : n ≤ Text.clusterCount s) (r : List Char) :
    n ≤ Text.clusterCount (String.ofList ((Text.splitClusters n s).1 ++ r)) := by
  have hfirst := Text.length_clusters_splitClusters hn
  rw [Text.clusterCount, String.toList_ofList]
  exact hfirst.symm.le.trans (Text.length_clusters_le_append _ r)

theorem Placed.insert (h : l.Placed) (c : Char) : (l.insert c).Placed := by
  have hkept : l.cursor ≤ Text.clusterCount (l.insert c).text := le_clusterCount h _
  simp only [Placed] at h ⊢
  rw [cursor_insert]
  split
  -- the text has more clusters than before, and before it had as many as the cursor says
  · omega
  -- clusters may have merged, though none of those before the cursor
  · exact hkept

theorem Placed.edit (h : l.Placed) (k : Key) : (l.edit k).Placed := by
  simp only [Placed] at h
  cases k with
  | backspace =>
    rw [PromptLine.edit]
    split
    · exact le_clusterCount ((Nat.sub_le ..).trans h) _
    · exact h
  | delete =>
    rw [PromptLine.edit]
    split
    · exact le_clusterCount h _
    · exact h
  | left => exact (Nat.sub_le ..).trans h
  | right => exact Nat.min_le_right ..
  | home => exact Nat.zero_le _
  | «end» => exact Nat.le_refl _
  | char | ctrl | alt | esc | enter | tab | up | down | null => exact h

/-- Without one of its clusters, a text is another one. -/
theorem withoutCluster_ne {n : Nat} {s : String} (hn : n < Text.clusterCount s) :
    withoutCluster n s ≠ s := by
  obtain ⟨next, -, hright, hne⟩ := Text.splitClusters_succ n s
  intro heq
  have htext := Text.splitClusters_append n s
  have hrest : (Text.splitClusters (n + 1) s).2 = next ++ (Text.splitClusters (n + 1) s).2 := by
    have hlist := congrArg String.toList heq
    rw [withoutCluster, String.toList_ofList, ← htext, hright] at hlist
    exact List.append_cancel_left hlist
  exact hne hn (List.self_eq_append_left.1 hrest)

/-- A key that does not change the text moves the cursor at most. -/
theorem text_edit {k : Key} (h : l.changedBy k = false) : (l.edit k).text = l.text := by
  cases k <;> simp_all [edit]

theorem Placed.changedBy_iff (h : l.Placed) (k : Key) :
    l.changedBy k = true ↔ (l.edit k).text ≠ l.text := by
  refine ⟨fun hk => ?_, fun hne => by_contra fun hk => hne (text_edit (Bool.eq_false_iff.2 hk))⟩
  simp only [Placed] at h
  cases k with
  | backspace =>
    have hcursor : 0 < l.cursor := by simpa [changedBy] using hk
    rw [PromptLine.edit, if_pos hk]
    exact withoutCluster_ne (by omega)
  | delete =>
    have hcursor : l.cursor < Text.clusterCount l.text := by simpa [changedBy] using hk
    rw [PromptLine.edit, if_pos hk]
    exact withoutCluster_ne hcursor
  | left | right | home | «end» | char | ctrl | alt | esc | enter | tab | up | down | null =>
    cases hk

end PromptLine

/-! ## Edits of a line -/

/-- What can be done to a line. -/
inductive LineEdit where
  | insert (c : Char)
  | edit (k : Key)
  | clear
deriving DecidableEq, Repr

namespace LineEdit

def run : LineEdit → PromptLine → PromptLine
  | insert c, l => l.insert c
  | edit k, l => l.edit k
  | clear, _ => {}

def runAll (es : List LineEdit) (l : PromptLine) : PromptLine :=
  es.foldl (fun l e => e.run l) l

variable {l : PromptLine}

theorem placed_run (h : l.Placed) (e : LineEdit) : (e.run l).Placed := by
  cases e with
  | insert c => exact h.insert c
  | edit k => exact h.edit k
  | clear => exact Nat.zero_le _

theorem placed_runAll (h : l.Placed) (es : List LineEdit) : (runAll es l).Placed := by
  induction es generalizing l with
  | nil => exact h
  | cons e es ih => exact ih (placed_run h e)

end LineEdit

namespace PromptLine

/-- What holds of a line that is being edited: the cursor is among the clusters, its offset is at a
boundary, no edit cuts a text within a character, and `changedBy` tells whether the text changes. -/
structure Editable (l : PromptLine) : Prop where
  placed : l.Placed
  boundary : ∃ left right, Text.cut? (l.byteAt l.cursor) l.text.toList = some (left, right) ∧
    Text.Boundary left right
  insert : ∀ c, l.insertBytes? c = some (l.insert c)
  edit : ∀ k, l.editBytes? k = some (l.changedBy k, l.edit k)
  changed : ∀ k, l.changedBy k = true ↔ (l.edit k).text ≠ l.text

theorem cut?_cursor (l : PromptLine) :
    Text.cut? (l.byteAt l.cursor) l.text.toList = some l.sides ∧
      Text.Boundary l.sides.1 l.sides.2 := by
  have htext := Text.splitClusters_append l.cursor l.text
  constructor
  · exact Text.cut?_eq_some_iff.2 ⟨htext, (l.byteAt_eq l.cursor).symm⟩
  · refine Text.boundary_iff.2 ⟨l.cursor, ?_⟩
    rw [sides, htext]
    exact ⟨rfl, rfl⟩

/-- A new line stays in order, whatever edits are made. -/
theorem editable_runAll (es : List LineEdit) : (LineEdit.runAll es {}).Editable := by
  have hplaced : (LineEdit.runAll es {}).Placed := LineEdit.placed_runAll (Nat.zero_le _) es
  exact {
    placed := hplaced
    boundary := ⟨_, _, (cut?_cursor _).1, (cut?_cursor _).2⟩
    insert := insertBytes?_eq _
    edit := editBytes?_eq _
    changed := hplaced.changedBy_iff }

end PromptLine

end GraphDraft

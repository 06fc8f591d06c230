import GraphDraft.Proofs.Text.Cut
import GraphDraft.Terminal.Screen

/-!
# Screens of every size

`layOut?` lays out a screen with operations that can fail: subtracting what is larger, taking or
dropping more than there is, and cutting a text where no character begins. On a screen of any size
none of them fails, and the outcome is the one of `compose` (`layOut?_eq`).

`LaidOut` says what stands where on the screen. It follows from the rows before they are clipped
(`allRows`): there are as many as the screen has, the prompt line and the hint are the last of them
(`shownBottom_eq_append`), and only rows of the bottom are dim (`dimFrom_allRows`).
-/

namespace GraphDraft.Screen

/-! ## Checked operations -/

section
variable {α : Type}

/-- Subtracts a number from one that is not smaller. -/
def minus? (a b : Nat) : Option Nat :=
  if b ≤ a then some (a - b) else none

/-- The first `n` elements, if there are as many. -/
def first? (n : Nat) (l : List α) : Option (List α) :=
  if n ≤ l.length then some (l.take n) else none

/-- What follows the first `n` elements, if there are as many. -/
def past? (n : Nat) (l : List α) : Option (List α) :=
  if n ≤ l.length then some (l.drop n) else none

theorem minus?_of_le {a b : Nat} (h : b ≤ a) : minus? a b = some (a - b) :=
  if_pos h

theorem first?_of_le {n : Nat} {l : List α} (h : n ≤ l.length) : first? n l = some (l.take n) :=
  if_pos h

theorem past?_of_le {n : Nat} {l : List α} (h : n ≤ l.length) : past? n l = some (l.drop n) :=
  if_pos h

end

/-- The row that says how many of the changes are not shown. -/
def moreRows? (shown count : Nat) : Option (List Row) :=
  if shown < count then
    (minus? count shown).map fun more => [⟨"  ... " ++ toString more ++ " more", true⟩]
  else some []

/-- The rows of the preview. -/
def previewRows? (changes : List DiffLine) (rows : Nat) : Option (List Row) :=
  if changes.isEmpty || rows ≤ crampedRows then some []
  else do
    let shown := min changes.length (max (rows / 3) 1)
    let first ← first? shown changes
    let more ← moreRows? shown changes.length
    return ⟨previewRule, true⟩ :: first.map (fun c => ⟨c.text, false⟩) ++ more

/-- The rows below the outline. -/
def bottomRows? (s : ScreenContent) (rows : Nat) : Option (List Row) := do
  let preview ← previewRows? s.changes rows
  let output ← past? (s.output.length - outputRows) s.output
  return preview ++ output.map (fun m => ⟨m, false⟩) ++
    [⟨s.hint.getD "", true⟩, ⟨promptMark ++ s.line, false⟩]

/-- The last rows of the bottom that fit. -/
def shownBottom? (s : ScreenContent) (rows : Nat) : Option (List Row) := do
  let bottom ← bottomRows? s rows
  if rows < bottom.length then
    let excess ← minus? bottom.length rows
    past? excess bottom
  else return bottom

/-- A line cut to the width of the screen, by as many bytes as the clipped line has. -/
def cutLine? (columns : Nat) (line : String) : Option String := do
  let clipped ← Text.clipBytes? columns line.toList
  let cut ← Text.truncate? (String.utf8Len clipped) line.toList
  return String.ofList cut

/-- Adds a row below some lines, and its number to the dim ones. -/
def pushRow (below : List String × List Nat) (r : Row) : List String × List Nat :=
  (below.1 ++ [r.text], if r.dim then below.2 ++ [below.1.length] else below.2)

/-- Lays out a screen row by row. -/
def layOut? (s : ScreenContent) (columns rows : Nat) : Option Frame := do
  let bottom ← shownBottom? s rows
  let room ← minus? rows bottom.length
  let outline := (Text.lines s.document).take room
  let top := outline ++ List.replicate (room - outline.length) ""
  let (all, dimRows) := bottom.foldl pushRow (top, [])
  let lines ← all.mapM (cutLine? columns)
  return {
    lines
    dimRows
    column := cursorColumn s columns
    row := lines.length - 1 }

/-! ## No operation fails -/

theorem moreRows?_eq (room count : Nat) : moreRows? (min count room) count =
    some (if 0 < count - room then [⟨"  ... " ++ toString (count - room) ++ " more", true⟩]
      else []) := by
  rw [moreRows?]
  by_cases hmore : room < count
  · rw [Nat.min_eq_right hmore.le, if_pos hmore, if_pos (Nat.sub_pos_of_lt hmore),
      minus?_of_le hmore.le]
    rfl
  · have hle : count ≤ room := Nat.le_of_not_lt hmore
    rw [Nat.min_eq_left hle, if_neg (Nat.lt_irrefl _), if_neg (by omega)]

theorem previewRows?_eq (changes : List DiffLine) (rows : Nat) :
    previewRows? changes rows = some (previewRows changes rows) := by
  have htake (room : Nat) : changes.take (min changes.length room) = changes.take room := by
    rw [Nat.min_comm, ← List.take_take, List.take_length]
  rw [previewRows?, previewRows]
  split
  · rfl
  · simp only [first?_of_le (Nat.min_le_left ..), htake, moreRows?_eq, Option.bind_eq_bind,
      Option.bind_some]
    rfl

theorem bottomRows?_eq (s : ScreenContent) (rows : Nat) :
    bottomRows? s rows = some (bottomRows s rows) := by
  rw [bottomRows?, previewRows?_eq, past?_of_le (Nat.sub_le ..)]
  rfl

theorem shownBottom?_eq (s : ScreenContent) (rows : Nat) :
    shownBottom? s rows = some (shownBottom s rows) := by
  rw [shownBottom?, bottomRows?_eq, shownBottom, Option.bind_eq_bind, Option.bind_some]
  split
  · rename_i hlt
    rw [minus?_of_le hlt.le, Option.bind_eq_bind, Option.bind_some, past?_of_le (Nat.sub_le ..)]
  · rename_i hle
    rw [Nat.sub_eq_zero_of_le (Nat.le_of_not_lt hle), List.drop_zero]
    rfl

theorem cutLine?_eq (columns : Nat) (line : String) :
    cutLine? columns line = some (Text.clip columns line) := by
  obtain ⟨r, hr⟩ := Text.clip_prefix columns line
  rw [cutLine?, Text.clipBytes?_eq, Option.bind_eq_bind, Option.bind_some, ← hr,
    Text.truncate?_append]
  simp

theorem foldl_pushRow (lines : List String) (dims : List Nat) (rs : List Row) :
    rs.foldl pushRow (lines, dims) =
      (lines ++ rs.map (·.text), dims ++ dimFrom lines.length rs) := by
  induction rs generalizing lines dims with
  | nil => simp [dimFrom]
  | cons r rs ih => cases hr : r.dim <;> simp [pushRow, dimFrom, ih, hr]

/-! ## The rows of a screen -/

section
variable (s : ScreenContent) (columns rows : Nat)

/-- The number of rows of the outline. -/
def outlineRoom : Nat :=
  rows - (shownBottom s rows).length

theorem length_shownBottom : (shownBottom s rows).length = min (bottomRows s rows).length rows := by
  rw [shownBottom, List.length_drop]
  omega

theorem length_shownBottom_le : (shownBottom s rows).length ≤ rows :=
  (length_shownBottom s rows).trans_le (Nat.min_le_right ..)

theorem outlineRoom_eq : outlineRoom s rows = rows - (bottomRows s rows).length := by
  rw [outlineRoom, length_shownBottom]
  omega

theorem map_text_topRows (document : String) (room : Nat) :
    (topRows document room).map (·.text) = (Text.lines document).take room ++
      List.replicate (room - ((Text.lines document).take room).length) "" := by
  simp [topRows, Function.comp_def]

theorem length_topRows (document : String) (room : Nat) :
    (topRows document room).length = room := by
  simp only [topRows, List.length_map, List.length_append, List.length_replicate, List.length_take]
  omega

/-- A screen has as many rows as it is to have. -/
theorem length_allRows : (allRows s rows).length = rows := by
  rw [allRows, List.length_append, length_topRows,
    Nat.sub_add_cancel (length_shownBottom_le s rows)]

theorem dimFrom_append (first : Nat) (rs qs : List Row) :
    dimFrom first (rs ++ qs) = dimFrom first rs ++ dimFrom (first + rs.length) qs := by
  induction rs generalizing first with
  | nil => rfl
  | cons r rs ih =>
    have hfirst : first + 1 + rs.length = first + (r :: rs).length := by
      rw [List.length_cons]
      omega
    cases hr : r.dim <;> simp [dimFrom, hr, ih, hfirst]

theorem dimFrom_eq_nil {first : Nat} {rs : List Row} (h : ∀ r ∈ rs, r.dim = false) :
    dimFrom first rs = [] := by
  induction rs generalizing first with
  | nil => rfl
  | cons r rs ih =>
    rw [dimFrom, h r List.mem_cons_self, ih fun q hq => h q (List.mem_cons_of_mem _ hq)]
    rfl

theorem mem_dimFrom {first n : Nat} {rs : List Row} :
    n ∈ dimFrom first rs ↔ ∃ i r, rs[i]? = some r ∧ r.dim = true ∧ n = first + i := by
  induction rs generalizing first with
  | nil => simp [dimFrom]
  | cons r rs ih =>
    have hsplit : (∃ i q, (r :: rs)[i]? = some q ∧ q.dim = true ∧ n = first + i) ↔
        (r.dim = true ∧ n = first) ∨ n ∈ dimFrom (first + 1) rs := by
      rw [ih]
      constructor
      · rintro ⟨i, q, hq, hdim, rfl⟩
        cases i with
        | zero => cases hq; exact .inl ⟨hdim, rfl⟩
        | succ i => exact .inr ⟨i, q, hq, hdim, by omega⟩
      · rintro (⟨hdim, rfl⟩ | ⟨i, q, hq, hdim, rfl⟩)
        · exact ⟨0, r, rfl, hdim, rfl⟩
        · exact ⟨i + 1, q, hq, hdim, by omega⟩
    rw [hsplit, dimFrom]
    cases r.dim <;> simp

theorem pairwise_dimFrom (first : Nat) (rs : List Row) : (dimFrom first rs).Pairwise (· < ·) := by
  induction rs generalizing first with
  | nil => exact .nil
  | cons r rs ih =>
    rw [dimFrom]
    split
    · refine List.pairwise_cons.2 ⟨fun n hn => ?_, ih _⟩
      obtain ⟨i, q, -, -, rfl⟩ := mem_dimFrom.1 hn
      omega
    · exact ih _

/-- Only rows below the outline are dim. -/
theorem dimFrom_allRows :
    dimFrom 0 (allRows s rows) = dimFrom (outlineRoom s rows) (shownBottom s rows) := by
  have htop : dimFrom 0 (topRows s.document (outlineRoom s rows)) = [] :=
    dimFrom_eq_nil fun r hr => by
      obtain ⟨l, -, rfl⟩ := List.mem_map.1 hr
      rfl
  rw [allRows, ← outlineRoom, dimFrom_append, htop, length_topRows, Nat.zero_add, List.nil_append]

/-- Laying out a screen fails on no content and at no size. -/
theorem layOut?_eq : layOut? s columns rows = some (compose s columns rows) := by
  have hcut : cutLine? columns = fun l => pure (Text.clip columns l) :=
    funext (cutLine?_eq columns)
  simp only [layOut?, shownBottom?_eq, minus?_of_le (length_shownBottom_le s rows),
    Option.bind_eq_bind, Option.bind_some, foldl_pushRow, hcut, List.mapM_pure,
    ← map_text_topRows, List.length_map, length_topRows, List.nil_append]
  rw [compose, dimFrom_allRows]
  simp [allRows, outlineRoom, Function.comp_def]

/-- The prompt line and the hint are the last rows that are given up. -/
theorem shownBottom_eq_append (hrows : 2 ≤ rows) : ∃ rs, shownBottom s rows =
    rs ++ [⟨s.hint.getD "", true⟩, ⟨promptMark ++ s.line, false⟩] := by
  rw [shownBottom, bottomRows]
  refine ⟨_, List.drop_append_of_le_length ?_⟩
  simp only [List.length_append, List.length_cons, List.length_nil]
  omega

theorem getElem?_allRows_hint (hrows : 2 ≤ rows) :
    (allRows s rows)[rows - 2]? = some ⟨s.hint.getD "", true⟩ := by
  obtain ⟨rs, hrs⟩ := shownBottom_eq_append s rows hrows
  obtain ⟨above, habove⟩ : ∃ above, allRows s rows =
      above ++ [⟨s.hint.getD "", true⟩, ⟨promptMark ++ s.line, false⟩] :=
    ⟨_, by rw [allRows, hrs, List.append_assoc]⟩
  have hlen : above.length = rows - 2 := by
    have hrows := length_allRows s rows
    rw [habove, List.length_append] at hrows
    exact Nat.eq_sub_of_add_eq hrows
  rw [habove, ← hlen, List.getElem?_append_right le_rfl, Nat.sub_self]
  rfl

theorem getLast?_shownBottom (hrows : 1 ≤ rows) :
    (shownBottom s rows).getLast? = some ⟨promptMark ++ s.line, false⟩ := by
  have hlast : (bottomRows s rows).getLast? = some ⟨promptMark ++ s.line, false⟩ := by
    rw [bottomRows, List.getLast?_append]
    rfl
  have hlen : 1 ≤ (bottomRows s rows).length := by
    rw [bottomRows, List.length_append, List.length_cons]
    omega
  rw [shownBottom, List.getLast?_drop, if_neg (by omega), hlast]

end

/-- What stands where on a screen. -/
structure LaidOut (s : ScreenContent) (columns rows : Nat) (f : Frame) : Prop where
  length : f.lines.length = rows
  fits : ∀ l ∈ f.lines, Text.columns l.toList ≤ columns
  dim_increasing : f.dimRows.Pairwise (· < ·)
  dim_lt : ∀ n ∈ f.dimRows, n < rows
  /-- The cursor stands on the screen, unless the screen has no columns. -/
  column_lt : f.column < max columns 1
  /-- The cursor stands on the last row, if the screen has rows. -/
  row : f.row = rows - 1
  prompt : 1 ≤ rows → f.lines.getLast? = some (Text.clip columns (promptMark ++ s.line))
  hint : 2 ≤ rows →
    f.lines[rows - 2]? = some (Text.clip columns (s.hint.getD "")) ∧ rows - 2 ∈ f.dimRows
  /-- What the bottom leaves room for is the first of the outline. -/
  outline : f.lines.take (rows - (bottomRows s rows).length) =
    ((Text.lines s.document).take (rows - (bottomRows s rows).length)).map (Text.clip columns) ++
      List.replicate (rows - (bottomRows s rows).length - (Text.lines s.document).length) ""

theorem laidOut_compose (s : ScreenContent) (columns rows : Nat) :
    LaidOut s columns rows (compose s columns rows) where
  length := by rw [compose, List.length_map, length_allRows]
  fits l hl := by
    obtain ⟨r, -, rfl⟩ := List.mem_map.1 hl
    exact Text.columns_clip columns r.text
  dim_increasing := pairwise_dimFrom ..
  dim_lt n hn := by
    obtain ⟨i, r, hi, -, rfl⟩ := mem_dimFrom.1 hn
    obtain ⟨hlt, -⟩ := List.getElem?_eq_some_iff.1 hi
    rwa [Nat.zero_add, ← length_allRows s rows]
  column_lt := by
    simp only [compose, cursorColumn]
    omega
  row := by rw [compose, length_allRows]
  prompt hrows := by
    rw [compose, List.getLast?_map, allRows, List.getLast?_append,
      getLast?_shownBottom s rows hrows]
    rfl
  hint hrows := by
    have hall := getElem?_allRows_hint s rows hrows
    exact ⟨by rw [compose, List.getElem?_map, hall]; rfl, mem_dimFrom.2 ⟨_, _, hall, rfl, by omega⟩⟩
  outline := by
    have hlen : ((topRows s.document (outlineRoom s rows)).map fun r =>
        Text.clip columns r.text).length = outlineRoom s rows := by
      rw [List.length_map, length_topRows]
    have htext : (topRows s.document (outlineRoom s rows)).map (fun r => Text.clip columns r.text) =
        ((topRows s.document (outlineRoom s rows)).map (·.text)).map (Text.clip columns) := by
      rw [List.map_map]
      rfl
    have hrest : outlineRoom s rows - ((Text.lines s.document).take (outlineRoom s rows)).length =
        outlineRoom s rows - (Text.lines s.document).length := by
      rw [List.length_take]
      omega
    have hempty : Text.clip columns "" = "" := rfl
    rw [← outlineRoom_eq, compose, allRows, List.map_append, ← outlineRoom, List.take_left' hlen,
      htext, map_text_topRows, List.map_append, List.map_replicate, hempty, hrest]

/-- A screen of any size, with any content, is laid out without failing, every part in its place. -/
theorem layOut?_laidOut (s : ScreenContent) (columns rows : Nat) :
    layOut? s columns rows = some (compose s columns rows) ∧
      LaidOut s columns rows (compose s columns rows) :=
  ⟨layOut?_eq s columns rows, laidOut_compose s columns rows⟩

end GraphDraft.Screen

/-!
# Line differences

What has to be removed from one text and added to it to get another one, line by line. The two
texts are split into runs of lines that are kept, dropped or added: an edit path is found from both
ends towards its middle, and again on the two sides of the middle (`runsBetween`). Dropped and added
runs are then slid upwards and downwards, added ones also along equal lines, so that runs of one
kind meet and merge (`compact`). Between two kept runs, what is dropped is listed before what is
added.
-/

namespace GraphDraft

/-- A changed line. -/
inductive DiffLine where
  | added (line : String)
  | removed (line : String)
deriving DecidableEq, Repr

def DiffLine.text : DiffLine → String
  | added line => "+ " ++ line
  | removed line => "- " ++ line

namespace LineDiff

/-! ## Runs -/

inductive RunKind where
  | kept
  | dropped
  | added
deriving DecidableEq, Repr

/-- Consecutive lines with one fate. A dropped run has no lines in the new text and an added run has
none in the old one, but both have a place there. -/
structure Run where
  kind : RunKind
  old : Nat
  new : Nat
  length : Nat
deriving DecidableEq, Repr

namespace Run

/-- The same run, some lines earlier. -/
def slideUp (r : Run) (by' : Nat) : Run :=
  { r with old := r.old - by', new := r.new - by' }

/-- The same run, some lines later. -/
def slideDown (r : Run) (by' : Nat) : Run :=
  { r with old := r.old + by', new := r.new + by' }

/-- The run with some more lines at its start. -/
def extendUp (r : Run) (by' : Nat) : Run :=
  { r.slideUp by' with length := r.length + by' }

/-- The run with some more lines at its end. -/
def extendDown (r : Run) (by' : Nat) : Run :=
  { r with length := r.length + by' }

/-- The run without some lines at its start. -/
def trimStart (r : Run) (by' : Nat) : Run :=
  { r.slideDown by' with length := r.length - by' }

/-- The run without some lines at its end. -/
def trimEnd (r : Run) (by' : Nat) : Run :=
  { r with length := r.length - by' }

/-- Where the run ends in the old text. -/
def oldEnd (r : Run) : Nat :=
  if r.kind = .added then r.old else r.old + r.length

/-- Where the run ends in the new text. -/
def newEnd (r : Run) : Nat :=
  if r.kind = .dropped then r.new else r.new + r.length

end Run

/-- Some of the lines of a text. -/
def slice (ls : List String) (first length : Nat) : List String :=
  (ls.drop first).take length

/-- How many lines two texts begin with in common. -/
def commonStart : List String → List String → Nat
  | a :: as, b :: bs => if a = b then commonStart as bs + 1 else 0
  | _, _ => 0

/-- How many lines two texts end with in common. -/
def commonEnd (as bs : List String) : Nat :=
  commonStart as.reverse bs.reverse

theorem commonStart_le (as bs : List String) : commonStart as bs ≤ as.length := by
  induction as generalizing bs with
  | nil => simp [commonStart]
  | cons a as ih =>
    cases bs with
    | nil => simp [commonStart]
    | cons b bs =>
      simp only [commonStart]
      split
      · simpa using ih bs
      · simp

theorem commonEnd_le (as bs : List String) : commonEnd as bs ≤ as.length := by
  simpa [commonEnd] using commonStart_le as.reverse bs.reverse

theorem slice_length_le (ls : List String) (first length : Nat) :
    (slice ls first length).length ≤ length := by
  rw [slice, List.length_take]
  exact Nat.min_le_left _ _

/-! ## The middle of an edit path -/

/-- How far paths have come on each diagonal: the lines of the old text that are used up. -/
structure Frontier where
  cells : Array Nat
  offset : Nat

namespace Frontier

/-- Nothing is used up. -/
def start (reach : Nat) : Frontier :=
  ⟨.replicate (2 * reach + 1) 0, reach⟩

def get (f : Frontier) (k : Int) : Nat :=
  f.cells.getD (k + f.offset).toNat 0

def set (f : Frontier) (k : Int) (x : Nat) : Frontier :=
  { f with cells := f.cells.setIfInBounds (k + f.offset).toNat x }

/-- Where a path with one more change enters diagonal `k` in round `d`: from above, or from the
left, whichever has come further. -/
def entry (f : Frontier) (d : Nat) (k : Int) : Nat :=
  if k = -d ∨ k ≠ d ∧ f.get (k - 1) < f.get (k + 1) then f.get (k + 1) else f.get (k - 1) + 1

end Frontier

/-- The diagonals of a round, from the highest down. -/
def diagonals (d : Nat) : List Int :=
  (List.range (d + 1)).map fun i : Nat => (d : Int) - 2 * i

/-- Extends the paths on some diagonals along equal lines. Stops with the diagonal `k`, the place
where the path entered it and the place that it reached, at the first path that meets one from the
other end. -/
def advance (as bs : List String) (meets : Int → Nat → Bool) (d : Nat) :
    List Int → Frontier → Frontier × Option (Int × Nat × Nat)
  | [], f => (f, none)
  | k :: ks, f =>
    let x := f.entry d k
    let y := (x - k : Int).toNat
    let reached := x + commonStart (as.drop x) (bs.drop y)
    let f := f.set k reached
    if meets k reached then (f, some (k, x, reached)) else advance as bs meets d ks f

/-- Searches the middle in the given rounds, forwards from the start and backwards from the end in
turn. The middle is given by how many lines of each text lie before it. -/
def middleIn (as bs ras rbs : List String) :
    List Nat → (forward backward : Frontier) → Option (Nat × Nat)
  | [], _, _ => none
  | d :: ds, forward, backward =>
    let n := as.length
    let m := bs.length
    let delta : Int := n - m
    let odd := delta % 2 ≠ 0
    let near (k : Int) (reach : Int) : Bool := (k - delta).natAbs ≤ reach
    let (forward, met) := advance as bs
      (fun k x => odd && near k (d - 1) && n ≤ x + backward.get (delta - k)) d (diagonals d) forward
    match met with
    | some (k, x, _) => some (x, (x - k : Int).toNat)
    | none =>
      let (backward, met) := advance ras rbs
        (fun k x => !odd && near k d && n ≤ x + forward.get (delta - k)) d (diagonals d) backward
      match met with
      | some (k, _, x) => some (n - x, m - (x - k : Int).toNat)
      | none => middleIn as bs ras rbs ds forward backward

/-- The middle of a shortest edit path. -/
def middle? (as bs : List String) : Option (Nat × Nat) :=
  let rounds := (as.length + bs.length + 1) / 2 + 1
  let frontier := Frontier.start (rounds + 1)
  middleIn as bs as.reverse bs.reverse (List.range rounds) frontier frontier

/-- A run, unless it is empty. -/
def nonempty (kind : RunKind) (old new length : Nat) : List Run :=
  if length = 0 then [] else [⟨kind, old, new, length⟩]

/-- The runs that lead from `as` to `bs`, of which the first lines are numbered `old` and `new`.
Common lines at both ends are kept; the rest is split at its middle, at most `depth` times. -/
def runsBetween : (depth : Nat) → (as bs : List String) → (old new : Nat) → List Run
  | 0, as, bs, old, new =>
    nonempty .dropped old new as.length ++ nonempty .added (old + as.length) new bs.length
  | depth + 1, as, bs, old, new =>
    let before := commonStart as bs
    let as := as.drop before
    let bs := bs.drop before
    let behind := commonEnd as bs
    let as := as.take (as.length - behind)
    let bs := bs.take (bs.length - behind)
    let first := old + before
    let second := new + before
    let inner :=
      if as = [] ∨ bs = [] then
        nonempty .dropped first second as.length ++ nonempty .added first second bs.length
      else match middle? as bs with
        | some (x, y) =>
          runsBetween depth (as.take x) (bs.take y) first second ++
            runsBetween depth (as.drop x) (bs.drop y) (first + x) (second + y)
        | none =>
          nonempty .dropped first second as.length ++ nonempty .added first second bs.length
    nonempty .kept old new before ++ inner ++
      nonempty .kept (first + as.length) (second + bs.length) behind

/-! ## Sliding and merging runs -/

/-- The lines that a run adds. A dropped run adds none. -/
def Run.added (r : Run) (new : List String) : List String :=
  if r.kind = .added then slice new r.new r.length else []

/-- The lines of the old text that a run keeps or drops. -/
def Run.taken (r : Run) (old : List String) : List String :=
  slice old r.old r.length

/-- What sliding a run upwards looks at: the runs above it, nearest first, the run itself, and the
runs below it. -/
structure Cursor where
  above : List Run
  here : Run
  below : List Run

/-- A bound for sliding: the lines of some runs and their number. -/
def weight : List Run → Nat
  | [] => 0
  | r :: rs => r.length + 1 + weight rs

/-- What is left of a run, in front of other ones. -/
def leftover (r : Run) (rs : List Run) : List Run :=
  if r.length = 0 then rs else r :: rs

theorem weight_leftover_lt {r s : Run} (h : r.length < s.length) (rs : List Run) :
    weight (leftover r rs) < weight (s :: rs) := by
  simp only [leftover, weight]
  split
  · omega
  · simp only [weight]
    omega

/-- The kept lines that a run leaves below itself when it slides up. -/
def keepBelow (up here : Run) (count : Nat) : List Run → List Run
  | r :: rs =>
    if r.kind = .kept then r.extendUp count :: rs
    else ⟨.kept, up.oldEnd - count, here.newEnd - count, count⟩ :: r :: rs
  | [] => [⟨.kept, up.oldEnd - count, here.newEnd - count, count⟩]

/-- The kept lines that a run leaves above itself when it slides down. -/
def keepAbove (here down : Run) (count : Nat) : List Run → List Run
  | r :: rs =>
    if r.kind = .kept then r.extendDown count :: rs
    else ⟨.kept, down.old, here.new, count⟩ :: r :: rs
  | [] => [⟨.kept, down.old, here.new, count⟩]

/-- Slides a run up: along kept lines that end like what the run adds, past a run of the other kind,
and into a run of the same kind. -/
def slideUp (old new : List String) (c : Cursor) : Cursor :=
  match _h : c.above with
  | [] => c
  | up :: above =>
    if up.kind = .kept then
      let count := commonEnd (up.taken old) (c.here.added new)
      if _hc : 0 < count then
        slideUp old new
          ⟨leftover (up.trimEnd count) above, c.here.slideUp count,
            keepBelow up c.here count c.below⟩
      else if up.length = 0 then slideUp old new { c with above }
      else c
    else if up.kind = c.here.kind then
      slideUp old new ⟨above, up.extendDown c.here.length, c.below⟩
    else slideUp old new ⟨above, c.here, up :: c.below⟩
termination_by weight c.above
decreasing_by
  · have hle : count ≤ up.length := Nat.le_trans (commonEnd_le _ _) (slice_length_le _ _ _)
    rw [_h]
    exact weight_leftover_lt (Nat.sub_lt (Nat.lt_of_lt_of_le _hc hle) _hc) above
  all_goals simp [_h, weight]

/-- Slides a run down: along kept lines that begin like what the run adds, past a run of the other
kind, and over a run of the same kind. -/
def slideDown (old new : List String) (c : Cursor) : Cursor :=
  match _h : c.below with
  | [] => c
  | down :: below =>
    if down.kind = .kept then
      let count := commonStart (down.taken old) (c.here.added new)
      if _hc : 0 < count then
        slideDown old new
          ⟨keepAbove c.here down count c.above, c.here.slideDown count,
            leftover (down.trimStart count) below⟩
      else if down.length = 0 then slideDown old new { c with below }
      else c
    else if down.kind = c.here.kind then
      slideDown old new ⟨c.above, c.here.extendDown down.length, below⟩
    else slideDown old new ⟨down :: c.above, c.here, below⟩
termination_by weight c.below
decreasing_by
  · have hle : count ≤ down.length := Nat.le_trans (commonStart_le _ _) (slice_length_le _ _ _)
    rw [_h]
    exact weight_leftover_lt (Nat.sub_lt (Nat.lt_of_lt_of_le _hc hle) _hc) below
  all_goals simp [_h, weight]

/-- Slides each run of one kind, up and then down, from the top; at most `steps` runs. -/
def slideAll (kind : RunKind) (old new : List String) :
    (steps : Nat) → (above below : List Run) → List Run
  | 0, above, below => above.reverse ++ below
  | _ + 1, above, [] => above.reverse
  | steps + 1, above, r :: below =>
    if r.kind = kind then
      let c := slideDown old new (slideUp old new ⟨above, r, below⟩)
      slideAll kind old new steps (c.here :: c.above) c.below
    else slideAll kind old new steps (r :: above) below

/-- Slides dropped runs first and added runs then. The lines of both texts bound the runs. -/
def compact (old new : List String) (rs : List Run) : List Run :=
  let steps := 4 * (old.length + new.length + rs.length + 1)
  slideAll .added old new steps [] (slideAll .dropped old new steps [] rs)

/-! ## Changed lines -/

/-- The line feeds at the end of a line taken off. -/
def bare (line : String) : String :=
  String.ofList (line.toList.reverse.dropWhile (· = '\n')).reverse

/-- The lines dropped and then those added between two kept runs, given by the first line of each
and their number. -/
def changedLines (old new : List String) (dropped added : Option (Nat × Nat)) : List DiffLine :=
  (dropped.elim [] fun (first, count) => (slice old first count).map (.removed <| bare ·)) ++
    added.elim [] fun (first, count) => (slice new first count).map (.added <| bare ·)

/-- Lengthens what was collected, or begins it. -/
def collect (first count : Nat) : Option (Nat × Nat) → Nat × Nat
  | some (f, c) => (f, c + count)
  | none => (first, count)

/-- The changed lines of some runs, after what has been collected since the last kept run. -/
def changes (old new : List String) :
    (dropped added : Option (Nat × Nat)) → List Run → List DiffLine
  | dropped, added, [] => changedLines old new dropped added
  | dropped, added, r :: rs =>
    match r.kind with
    | .kept => changedLines old new dropped added ++ changes old new none none rs
    | .dropped => changes old new (collect r.old r.length dropped) added rs
    | .added => changes old new dropped (collect r.new r.length added) rs

/-- The lines of a text with what ends them: a line feed, a carriage return, or both. -/
def endedLines : List Char → List (List Char)
  | [] => []
  | '\r' :: '\n' :: cs => ['\r', '\n'] :: endedLines cs
  | c :: cs =>
    if c = '\n' ∨ c = '\r' then [c] :: endedLines cs
    else match endedLines cs with
      | [] => [[c]]
      | l :: ls => (c :: l) :: ls

/-- The changed lines from one list of lines to another. -/
def between (old new : List String) : List DiffLine :=
  changes old new none none
    (compact old new (runsBetween (old.length + new.length + 1) old new 0 0))

end LineDiff

/-- The changed lines from one text to another, in their order. -/
def diffLines (before after : String) : List DiffLine :=
  LineDiff.between ((LineDiff.endedLines before.toList).map String.ofList)
    ((LineDiff.endedLines after.toList).map String.ofList)

end GraphDraft

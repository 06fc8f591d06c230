import GraphDraft.Proofs.Text.Cluster

/-!
# Boundaries between clusters

Whether a boundary stands between two texts is a matter of the context at the end of the left one
and of the first character of the right one (`Boundary`). These are the places between clusters, and
no others (`boundary_iff`): at a boundary the clusters are those of the two sides
(`clusters_append`), and the clusters up to some place are those of the text up to there
(`clusters_take`).
-/

namespace GraphDraft.Text

/-- The context after one more character, which joins the cluster or begins the next one. -/
def Context.step (x : Context) (c : Char) : Context :=
  if x.joins (.of c) then x.push (.of c) else .start (.of c)

/-- The context at the end of a text that goes on from a context. -/
def Context.after (x : Context) (cs : List Char) : Context :=
  cs.foldl Context.step x

/-- The context at the end of a text; none for the empty text. -/
def contextOf? : List Char → Option Context
  | [] => none
  | c :: cs => some (Context.after (.start (.of c)) cs)

/-- The rules have a boundary between two texts. -/
def Boundary (left right : List Char) : Prop :=
  ∀ x ∈ contextOf? left, ∀ c ∈ right.head?, x.joins (.of c) = false

variable {x : Context} {cs l r : List Char}

/-! ## At a boundary -/

theorem followers_of_boundary (h : ∀ c ∈ r.head?, x.joins (.of c) = false) :
    followers x r = ([], clusters r) := by
  cases r with
  | nil => rfl
  | cons c cs =>
    rw [followers, h c rfl]
    rfl

theorem followers_append (h : ∀ c ∈ r.head?, (x.after l).joins (.of c) = false) :
    followers x (l ++ r) = ((followers x l).1, (followers x l).2 ++ clusters r) := by
  induction l generalizing x with
  | nil => exact followers_of_boundary h
  | cons d ds ih =>
    have hrest := ih h
    rw [List.cons_append, followers, followers]
    by_cases hj : x.joins (.of d)
    · rw [Context.step, if_pos hj] at hrest
      simp only [hj, if_true, hrest]
    · rw [Context.step, if_neg hj] at hrest
      simp only [hj, Bool.false_eq_true, if_false, hrest, List.cons_append]

/-- At a boundary, the clusters are those of the two sides. -/
theorem clusters_append (h : Boundary l r) : clusters (l ++ r) = clusters l ++ clusters r := by
  cases l with
  | nil => rfl
  | cons d ds =>
    have hrest := followers_append (h _ rfl)
    rw [List.cons_append, clusters, clusters, hrest, List.cons_append]

/-! ## Between clusters -/

variable (x cs) (n : Nat)

theorem followers_take : followers x ((followers x cs).1 ++ ((followers x cs).2.take n).flatten) =
    ((followers x cs).1, (followers x cs).2.take n) := by
  induction cs generalizing x n with
  | nil => simp [followers]
  | cons c cs ih =>
    by_cases hj : x.joins (.of c)
    · have hrest := ih (x.push (.of c)) n
      simp only [followers, hj, if_true, List.cons_append, hrest]
    -- the character begins the first of the clusters after `x`
    · cases n with
      | zero => simp [followers, hj]
      | succ n =>
        have hrest := ih (.start (.of c)) n
        simp only [followers, hj, Bool.false_eq_true, if_false, List.nil_append,
          List.take_succ_cons, List.flatten_cons, List.cons_append, hrest]

theorem joins_drop_followers :
    ∀ c ∈ ((followers x cs).2.drop n).flatten.head?,
      (x.after ((followers x cs).1 ++ ((followers x cs).2.take n).flatten)).joins (.of c) =
        false := by
  induction cs generalizing x n with
  | nil => simp [followers]
  | cons c cs ih =>
    by_cases hj : x.joins (.of c)
    · have hrest := ih (x.push (.of c)) n
      simpa [followers, hj, Context.after, Context.step] using hrest
    · cases n with
      | zero => simp [followers, hj, Context.after]
      | succ n =>
        have hrest := ih (.start (.of c)) n
        simpa [followers, hj, Context.after, Context.step] using hrest

/-- The clusters of the text up to some place are the clusters up to there. -/
theorem clusters_take : clusters ((clusters cs).take n).flatten = (clusters cs).take n := by
  cases cs with
  | nil => simp [clusters]
  | cons c cs =>
    cases n with
    | zero => rfl
    | succ n =>
      have hrest := followers_take (.start (.of c)) cs n
      simp only [clusters, List.take_succ_cons, List.flatten_cons, List.cons_append, hrest]

/-- Between two clusters there is a boundary. -/
theorem boundary_clusters :
    Boundary ((clusters cs).take n).flatten ((clusters cs).drop n).flatten := by
  cases cs with
  | nil => simp [clusters, Boundary]
  | cons c cs =>
    cases n with
    | zero => simp [Boundary, contextOf?]
    | succ n =>
      have hrest := joins_drop_followers (.start (.of c)) cs n
      simpa [clusters, Boundary, contextOf?] using hrest

variable {x cs n}

/-- Boundaries stand between clusters, and nowhere else. -/
theorem boundary_iff : Boundary l r ↔ ∃ n, l = ((clusters (l ++ r)).take n).flatten ∧
    r = ((clusters (l ++ r)).drop n).flatten := by
  constructor
  -- the place is behind all the clusters that the left side has alone
  · intro h
    refine ⟨(clusters l).length, ?_, ?_⟩
    · rw [clusters_append h, List.take_left, clusters_flatten]
    · rw [clusters_append h, List.drop_left, clusters_flatten]
  · rintro ⟨n, hl, hr⟩
    have hbetween := boundary_clusters (l ++ r) n
    rwa [← hl, ← hr] at hbetween

/-- The first clusters and the next one. -/
theorem splitClusters_succ (n : Nat) (s : String) : ∃ next,
    (splitClusters (n + 1) s).1 = (splitClusters n s).1 ++ next ∧
    (splitClusters n s).2 = next ++ (splitClusters (n + 1) s).2 ∧
    (n < clusterCount s → next ≠ []) := by
  simp only [splitClusters, clusterCount]
  by_cases hn : n < (clusters s.toList).length
  · refine ⟨(clusters s.toList)[n], ?_, ?_, fun _ => ?_⟩
    · rw [List.take_succ_eq_append_getElem hn, List.flatten_append, List.flatten_singleton]
    · rw [List.drop_eq_getElem_cons hn, List.flatten_cons]
    · exact ne_nil_of_mem_clusters (List.getElem_mem hn)
  · have hle := Nat.le_of_not_lt hn
    refine ⟨[], ?_, ?_, fun h => absurd h hn⟩
    · rw [List.take_of_length_le hle, List.take_of_length_le (Nat.le_succ_of_le hle),
        List.append_nil]
    · rw [List.drop_of_length_le hle, List.drop_of_length_le (Nat.le_succ_of_le hle)]
      rfl

/-- A text has at least as many clusters as any first part of it. -/
theorem length_clusters_le_append (l r : List Char) :
    (clusters l).length ≤ (clusters (l ++ r)).length := by
  induction r generalizing l with
  | nil => simp
  | cons c r ih =>
    have hone := length_clusters_concat l c
    have hrest := ih (l ++ [c])
    rw [List.append_assoc, List.singleton_append] at hrest
    omega

/-- As many clusters of a text as a first part of it has hold this part. -/
theorem prefix_take_clusters (l r : List Char) :
    l <+: ((clusters (l ++ r)).take (clusters l).length).flatten := by
  have hboundary := boundary_clusters (l ++ r) (clusters l).length
  have hfirst := clusters_take (l ++ r) (clusters l).length
  have htext : ((clusters (l ++ r)).take (clusters l).length).flatten ++
      ((clusters (l ++ r)).drop (clusters l).length).flatten = l ++ r := by
    rw [← List.flatten_append, List.take_append_drop, clusters_flatten]
  generalize ((clusters (l ++ r)).take (clusters l).length).flatten = first at *
  generalize ((clusters (l ++ r)).drop (clusters l).length).flatten = rest at *
  rcases List.append_eq_append_iff.1 htext with ⟨s, rfl, rfl⟩ | ⟨s, rfl, -⟩
  · cases s with
    | nil => simp
    -- what `l` has beyond these clusters would be one more
    | cons c s =>
      have hl : clusters (first ++ c :: s) = clusters first ++ clusters (c :: s) :=
        clusters_append fun x hx d hd => hboundary x hx d hd
      have hle := length_clusters_le_append (first ++ c :: s) r
      have hlength := congrArg List.length hl
      rw [List.length_append, hfirst, List.length_take, Nat.min_eq_left hle] at hlength
      simp [clusters] at hlength
  · exact List.prefix_append ..

/-! ## Cutting at clusters -/

theorem length_clusters_splitClusters {n : Nat} {s : String} (hn : n ≤ clusterCount s) :
    (clusters (splitClusters n s).1).length = n := by
  rw [splitClusters, clusters_take, List.length_take]
  exact Nat.min_eq_left hn

theorem splitClusters_of_boundary (h : Boundary l r) :
    splitClusters (clusters l).length (String.ofList (l ++ r)) = (l, r) := by
  rw [splitClusters, String.toList_ofList, clusters_append h, List.take_left, List.drop_left,
    clusters_flatten, clusters_flatten]

/-! ## Boundaries behind any text -/

theorem exists_contextOf?_concat (cs : List Char) (c : Char) :
    ∃ x, contextOf? (cs ++ [c]) = some x ∧ x.last = ClusterClass.of c := by
  cases cs with
  | nil => exact ⟨_, rfl, rfl⟩
  | cons d ds =>
    refine ⟨Context.after (.start (.of d)) (ds ++ [c]), rfl, ?_⟩
    rw [Context.after, List.foldl_append, List.foldl_cons, List.foldl_nil, Context.step]
    split <;> rfl

/-- Nothing that begins with a character of these classes is joined, whatever stands before it. -/
def ClusterClass.isSeparate : ClusterClass → Bool
  | carriageReturn | control => true
  | _ => false

theorem joins_of_isSeparate {k : ClusterClass} (h : k.isSeparate = true) (x : Context) :
    x.joins k = false := by
  cases k <;> simp_all [ClusterClass.isSeparate, Context.joins, ClusterClass.isBreaking]

/-- A line feed is joined by a carriage return, and all else but controls by the mark `\u0600`. -/
theorem exists_joins {k : ClusterClass} (h : k.isSeparate = false) :
    ∃ c, ∀ x : Context, x.last = .of c → x.joins k = true := by
  by_cases hfeed : k = .lineFeed
  · refine ⟨'\r', fun x hx => ?_⟩
    have hclass : ClusterClass.of '\r' = .carriageReturn := by decide +kernel
    simp [Context.joins, hx, hclass, hfeed]
  · refine ⟨'\u0600', fun x hx => ?_⟩
    have hclass : ClusterClass.of '\u0600' = .prepend := by decide +kernel
    have hbreaking : k.isBreaking = false := by
      cases k <;> simp_all [ClusterClass.isSeparate, ClusterClass.isBreaking]
    have hlast : ClusterClass.prepend.isBreaking = false := rfl
    simp [Context.joins, hx, hclass, hbreaking, hlast]

/-- There is a boundary before a text, whatever is put there, just if the text is empty or begins
with a control other than a line feed. -/
theorem forall_boundary_iff (l r : List Char) : (∀ cs, Boundary (l ++ cs) r) ↔
    ∀ c ∈ r.head?, (ClusterClass.of c).isSeparate = true := by
  refine ⟨fun h c hc => ?_, fun h cs x _ c hc => joins_of_isSeparate (h c hc) x⟩
  cases hclass : (ClusterClass.of c).isSeparate with
  | true => rfl
  | false =>
    obtain ⟨d, hd⟩ := exists_joins hclass
    obtain ⟨x, hx, hlast⟩ := exists_contextOf?_concat l d
    have hboundary := h [d] x hx c hc
    rw [hd x hlast] at hboundary
    cases hboundary

end GraphDraft.Text

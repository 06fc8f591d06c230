import GraphDraft.Text.Table.Cluster

/-!
# Grapheme clusters

What a reader takes for one character: a base with its marks, a syllable, a joined picture, a flag.
The prompt's cursor moves by clusters. Whether two neighbours belong to one cluster depends on the
class of the right one and on a bounded context to the left (`Context`), so the clusters are found
in one pass: `clusters` is `followers` with the context of the first character.
-/

namespace GraphDraft.Text

/-- The part a character plays in the rules for cluster boundaries. -/
inductive ClusterClass where
  | carriageReturn
  | lineFeed
  | control
  | extend
  | linker
  | nonJoiner
  | joiner
  | spacing
  | prepend
  | regional
  | pictograph
  | consonant
  | leadJamo
  | vowelJamo
  | tailJamo
  | openSyllable
  | closedSyllable
  | other
deriving DecidableEq, Repr

namespace ClusterClass

private def within (c : Char) (first last : Nat) : Bool :=
  first ≤ c.toNat && c.toNat ≤ last

/-- The class of a character. -/
def of (c : Char) : ClusterClass :=
  if within c 0x20 0x7E then .other
  else if c = '\r' then .carriageReturn
  else if c = '\n' then .lineFeed
  else if Table.control.has c then .control
  else if c = '\u200D' then .joiner
  else if c = '\u200C' then .nonJoiner
  else if within c 0x1F1E6 0x1F1FF then .regional
  else if within c 0x1100 0x115F || within c 0xA960 0xA97C then .leadJamo
  else if within c 0x1160 0x11A7 || within c 0xD7B0 0xD7C6 || c = Char.ofNat 0x16D63 ||
      within c 0x16D67 0x16D6A then .vowelJamo
  else if within c 0x11A8 0x11FF || within c 0xD7CB 0xD7FB then .tailJamo
  else if within c 0xAC00 0xD7A3 then
    if (c.toNat - 0xAC00) % 28 = 0 then .openSyllable else .closedSyllable
  else if Table.extend.has c then .extend
  else if Table.linker.has c then .linker
  else if Table.spacing.has c then .spacing
  else if Table.prepend.has c then .prepend
  else if Table.pictograph.has c then .pictograph
  else if Table.consonant.has c then .consonant
  else .other

/-- A boundary always stands before and after these. -/
def isBreaking : ClusterClass → Bool
  | carriageReturn | lineFeed | control => true
  | _ => false

/-- Marks and joiners, which continue any cluster but a control. -/
def isExtending : ClusterClass → Bool
  | extend | linker | nonJoiner | joiner => true
  | _ => false

/-- Jamo and syllables that continue a syllable whose last part has class `k`. -/
def continuesSyllable : (k next : ClusterClass) → Bool
  | leadJamo, leadJamo | leadJamo, vowelJamo | leadJamo, openSyllable
  | leadJamo, closedSyllable => true
  | openSyllable, vowelJamo | openSyllable, tailJamo => true
  | vowelJamo, vowelJamo | vowelJamo, tailJamo => true
  | closedSyllable, tailJamo | tailJamo, tailJamo => true
  | _, _ => false

end ClusterClass

/-- How far a joined picture has come: a pictograph with marks, and then a joiner. -/
inductive PictureState where
  | absent
  | begun
  | joined
deriving DecidableEq, Repr

/-- How far a conjunct has come: a consonant with marks, and then a linker among them. -/
inductive ConjunctState where
  | absent
  | begun
  | linked
deriving DecidableEq, Repr

/-- What the rules need to know of the text to the left within a cluster. -/
structure Context where
  last : ClusterClass
  /-- The regional indicators at the end are odd in number. -/
  loneRegional : Bool
  picture : PictureState
  conjunct : ConjunctState
deriving DecidableEq, Repr

namespace Context

/-- The context after the first character of a cluster. -/
def start (k : ClusterClass) : Context where
  last := k
  loneRegional := k = .regional
  picture := if k = .pictograph then .begun else .absent
  conjunct := if k = .consonant then .begun else .absent

/-- The context after one more character of the cluster. -/
def push (x : Context) (k : ClusterClass) : Context where
  last := k
  loneRegional := k = .regional && !x.loneRegional
  picture :=
    match k, x.picture with
    | .pictograph, _ => .begun
    | .joiner, .begun => .joined
    | .extend, .begun | .linker, .begun | .nonJoiner, .begun => .begun
    | _, _ => .absent
  conjunct :=
    match k, x.conjunct with
    | .consonant, _ => .begun
    | .linker, .begun | .linker, .linked => .linked
    | .extend, s | .joiner, s => s
    | _, _ => .absent

/-- Whether a character of class `k` belongs to the cluster. -/
def joins (x : Context) (k : ClusterClass) : Bool :=
  if x.last = .carriageReturn && k = .lineFeed then true
  else if x.last.isBreaking || k.isBreaking then false
  else x.last.continuesSyllable k || k.isExtending || k = .spacing || x.last = .prepend ||
    x.conjunct = .linked && k = .consonant ||
    x.picture = .joined && k = .pictograph ||
    x.loneRegional && k = .regional

end Context

/-- After a context: the rest of its cluster, and the clusters after it. -/
def followers (x : Context) : List Char → List Char × List (List Char)
  | [] => ([], [])
  | c :: cs =>
    let k := ClusterClass.of c
    if x.joins k then
      let r := followers (x.push k) cs
      (c :: r.1, r.2)
    else
      let r := followers (.start k) cs
      ([], (c :: r.1) :: r.2)

/-- The grapheme clusters of a text, in order. -/
def clusters : List Char → List (List Char)
  | [] => []
  | c :: cs =>
    let r := followers (.start (.of c)) cs
    (c :: r.1) :: r.2

theorem followers_flatten (x : Context) (cs : List Char) :
    (followers x cs).1 ++ (followers x cs).2.flatten = cs := by
  induction cs generalizing x with
  | nil => rfl
  | cons c cs ih =>
    simp only [followers]
    split <;> simp [ih]

/-- Clusters lose nothing: put together they are the text. -/
theorem clusters_flatten (cs : List Char) : (clusters cs).flatten = cs := by
  cases cs with
  | nil => rfl
  | cons c cs => simp [clusters, followers_flatten]

theorem followers_ne_nil (x : Context) (cs : List Char) : ∀ g ∈ (followers x cs).2, g ≠ [] := by
  induction cs generalizing x with
  | nil => simp [followers]
  | cons c cs ih =>
    simp only [followers]
    split
    · exact ih _
    · intro g hg
      rcases List.mem_cons.1 hg with rfl | h
      · simp
      · exact ih _ g h

/-- No cluster is empty. -/
theorem ne_nil_of_mem_clusters {cs g : List Char} (h : g ∈ clusters cs) : g ≠ [] := by
  cases cs with
  | nil => simp [clusters] at h
  | cons c cs =>
    rcases List.mem_cons.1 h with rfl | h
    · simp
    · exact followers_ne_nil _ _ g h

/-- The number of clusters. -/
def clusterCount (s : String) : Nat :=
  (clusters s.toList).length

/-- The text of the first `n` clusters, and the text after them. -/
def splitClusters (n : Nat) (s : String) : List Char × List Char :=
  (((clusters s.toList).take n).flatten, ((clusters s.toList).drop n).flatten)

theorem splitClusters_append (n : Nat) (s : String) :
    (splitClusters n s).1 ++ (splitClusters n s).2 = s.toList := by
  rw [splitClusters, ← List.flatten_append, List.take_append_drop, clusters_flatten]

/-- The offset in bytes at which cluster `n` begins; none past the last. -/
def clusterOffset? (n : Nat) (s : String) : Option Nat :=
  if n < clusterCount s then some (String.ofList (splitClusters n s).1).utf8ByteSize else none

end GraphDraft.Text

import GraphDraft.Text.Cluster

/-!
# Clusters of a text that grows

Clusters are found from left to right, so a character behind a text leaves all of them but the last
one as they were. It joins the last cluster or begins one more (`length_clusters_concat`).
-/

namespace GraphDraft.Text

theorem length_followers_concat (x : Context) (cs : List Char) (c : Char) :
    (followers x (cs ++ [c])).2.length = (followers x cs).2.length ∨
      (followers x (cs ++ [c])).2.length = (followers x cs).2.length + 1 := by
  induction cs generalizing x with
  | nil =>
    rw [List.nil_append, followers, followers]
    split
    · exact .inl rfl
    · exact .inr rfl
  | cons d ds ih =>
    rw [List.cons_append, followers, followers]
    split
    · exact ih _
    · simpa using ih (.start (.of d))

theorem length_clusters_concat (cs : List Char) (c : Char) :
    (clusters (cs ++ [c])).length = (clusters cs).length ∨
      (clusters (cs ++ [c])).length = (clusters cs).length + 1 := by
  cases cs with
  | nil => exact .inr rfl
  | cons d ds => simpa [clusters] using length_followers_concat (.start (.of d)) ds c

/-- Past its last cluster there is nothing of a text. -/
theorem splitClusters_clusterCount (s : String) :
    splitClusters (clusterCount s) s = (s.toList, []) := by
  simp [splitClusters, clusterCount, clusters_flatten]

end GraphDraft.Text

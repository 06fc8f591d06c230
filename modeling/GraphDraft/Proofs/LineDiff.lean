import GraphDraft.LineDiff

/-!
# A text and itself

Between a text and itself no line has changed (`diffLines_self`): all lines are common to both, the
one run that keeps them is not moved, and a kept run changes nothing.
-/

namespace GraphDraft

namespace LineDiff

theorem commonStart_self (ls : List String) : commonStart ls ls = ls.length := by
  induction ls with
  | nil => rfl
  | cons l ls ih => rw [commonStart, if_pos rfl, ih, List.length_cons]

/-- All the lines of a text are kept in one run. -/
theorem runsBetween_self (depth : Nat) (ls : List String) :
    runsBetween (depth + 1) ls ls 0 0 = nonempty .kept 0 0 ls.length := by
  simp [runsBetween, commonStart_self, commonEnd, nonempty]

/-- A run of another kind stays where it is. -/
theorem slideAll_kept {kind : RunKind} (hk : kind ≠ .kept) (old new : List String) (steps : Nat)
    {rs : List Run} (hrs : ∀ r ∈ rs, r.kind = .kept) (above : List Run) :
    slideAll kind old new steps above rs = above.reverse ++ rs := by
  induction rs generalizing steps above with
  | nil => cases steps <;> simp [slideAll]
  | cons r rs ih =>
    cases steps with
    | zero => rfl
    | succ steps =>
      have hr : r.kind ≠ kind := by
        intro he
        exact hk (he ▸ hrs r List.mem_cons_self)
      rw [slideAll, if_neg hr, ih steps fun s hs => hrs s (List.mem_cons_of_mem r hs)]
      simp

theorem compact_kept (old new : List String) {rs : List Run} (hrs : ∀ r ∈ rs, r.kind = .kept) :
    compact old new rs = rs := by
  have hdropped : RunKind.dropped ≠ .kept := by decide
  have hadded : RunKind.added ≠ .kept := by decide
  simp only [compact, slideAll_kept hdropped _ _ _ hrs, slideAll_kept hadded _ _ _ hrs,
    List.reverse_nil, List.nil_append]

theorem changes_kept (old new : List String) {rs : List Run} (hrs : ∀ r ∈ rs, r.kind = .kept) :
    changes old new none none rs = [] := by
  induction rs with
  | nil => rfl
  | cons r rs ih =>
    rw [changes, hrs r List.mem_cons_self]
    exact ih fun s hs => hrs s (List.mem_cons_of_mem r hs)

theorem between_self (ls : List String) : between ls ls = [] := by
  have hkept : ∀ r ∈ nonempty .kept 0 0 ls.length, r.kind = .kept := by
    intro r hr
    rw [nonempty] at hr
    split at hr
    · cases hr
    · rw [List.mem_singleton.1 hr]
  rw [between, runsBetween_self, compact_kept ls ls hkept, changes_kept ls ls hkept]

end LineDiff

theorem diffLines_self (s : String) : diffLines s s = [] :=
  LineDiff.between_self _

end GraphDraft

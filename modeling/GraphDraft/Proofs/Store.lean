import GraphDraft.Store
import Mathlib.Data.List.Nodup

/-!
# Stores with distinct keys

A store whose keys are distinct is determined by its keys and by what `get?` gives (`eq_of_get?`).
Every operation keeps the keys distinct, and says what becomes of the keys. Changing a value twice
is changing it once (`modify_modify`), and a change that does nothing to the value under its key
does nothing to the store (`modify_eq_self`).
-/

namespace GraphDraft.Store

variable {κ α β : Type} [DecidableEq κ]

/-- No key has two entries. -/
def Distinct (s : Store κ α) : Prop := s.keys.Nodup

/-! ## Reading -/

theorem contains_iff {s : Store κ α} {k : κ} : s.contains k = true ↔ ∃ a, s.get? k = some a := by
  simp [contains, Option.isSome_iff_exists]

theorem mem_keys_of_get? {s : Store κ α} {k : κ} {a : α} (h : s.get? k = some a) : k ∈ s.keys := by
  obtain ⟨e, he, -⟩ := Option.map_eq_some_iff.1 h
  have hk : e.1 = k := by simpa using List.find?_some he
  exact List.mem_map.2 ⟨e, List.mem_of_find?_eq_some he, hk⟩

theorem get?_of_mem {s : Store κ α} (h : s.Distinct) {e : κ × α} (he : e ∈ s.entries) :
    s.get? e.1 = some e.2 := by
  obtain ⟨es⟩ := s
  simp only [Distinct, keys] at h
  simp only [get?] at he ⊢
  induction es with
  | nil => simp at he
  | cons f es ih =>
    simp only [List.map_cons, List.nodup_cons] at h
    rcases List.mem_cons.1 he with rfl | he
    · simp
    · have hne : f.1 ≠ e.1 := fun hf => h.1 (hf ▸ List.mem_map_of_mem he)
      rw [List.find?_cons_of_neg (by simpa using hne)]
      exact ih h.2 he

theorem get?_eq_some_iff {s : Store κ α} (h : s.Distinct) {k : κ} {a : α} :
    s.get? k = some a ↔ (k, a) ∈ s.entries := by
  refine ⟨fun hg => ?_, fun he => get?_of_mem h he⟩
  obtain ⟨e, he, rfl⟩ := Option.map_eq_some_iff.1 hg
  have hk : e.1 = k := by simpa using List.find?_some he
  exact hk ▸ List.mem_of_find?_eq_some he

/-- A store with distinct keys is determined by its keys and what it holds under them. -/
theorem eq_of_get? {s t : Store κ α} (hs : s.Distinct) (hk : t.keys = s.keys)
    (hg : ∀ k, t.get? k = s.get? k) : t = s := by
  have ht : t.Distinct := by rwa [Distinct, hk]
  obtain ⟨es⟩ := s
  obtain ⟨fs⟩ := t
  congr 1
  refine List.ext_getElem (by simpa [keys] using congrArg List.length hk) fun i h₁ h₂ => ?_
  have hki : fs[i].1 = es[i].1 := by
    have := congrArg (·[i]?) hk
    simpa [keys, h₁, h₂] using this
  have h := hg es[i].1
  rw [get?_of_mem hs (List.getElem_mem h₂), ← hki, get?_of_mem ht (List.getElem_mem h₁)] at h
  exact Prod.ext hki (Option.some.inj h)

/-! ## Keys -/

theorem keys_put_of_new {s : Store κ α} {k : κ} (a : α) (h : s.get? k = none) :
    (s.put k a).keys = s.keys ++ [k] := by
  simp [keys, put, putEntry_of_new a (get?_eq_none_iff.1 h)]

theorem keys_put_of_mem {s : Store κ α} {k : κ} (a : α) (h : k ∈ s.keys) :
    (s.put k a).keys = s.keys := by
  obtain ⟨es⟩ := s
  simp only [keys, put] at h ⊢
  induction es with
  | nil => simp at h
  | cons e es ih =>
    by_cases hk : e.1 = k
    · simp [putEntry, hk]
    · have hm : k ∈ es.map (·.1) := by
        rcases List.mem_cons.1 h with he | hm
        · exact absurd he.symm hk
        · exact hm
      simp [putEntry, hk, ih hm]

@[simp] theorem keys_erase (s : Store κ α) (k : κ) : (s.erase k).keys = s.keys.filter (· ≠ k) := by
  simp only [keys, erase, List.filter_map]
  rfl

theorem get?_eq_none_iff_keys {s : Store κ α} {k : κ} : s.get? k = none ↔ k ∉ s.keys := by
  rw [get?_eq_none_iff]
  simp only [keys, List.mem_map, not_exists, not_and]

theorem Distinct.put {s : Store κ α} (h : s.Distinct) (k : κ) (a : α) : (s.put k a).Distinct := by
  by_cases hk : k ∈ s.keys
  · rwa [Distinct, keys_put_of_mem a hk]
  · rw [Distinct, keys_put_of_new a (get?_eq_none_iff_keys.2 hk)]
    exact List.nodup_append.2 ⟨h, List.nodup_singleton k, by simp; grind⟩

theorem Distinct.erase {s : Store κ α} (h : s.Distinct) (k : κ) : (s.erase k).Distinct := by
  rw [Distinct, keys_erase]
  exact h.filter _

theorem Distinct.modify {s : Store κ α} (h : s.Distinct) (k : κ) (f : α → α) :
    (s.modify k f).Distinct := by
  rwa [Distinct, keys_modify]

omit [DecidableEq κ] in
theorem Distinct.empty : (⟨[]⟩ : Store κ α).Distinct := List.nodup_nil

/-! ## Changing values -/

/-- A part of a value that a change keeps is the same afterwards. -/
theorem map_get?_modify {s : Store κ α} {k : κ} {f : α → α} {p : α → β}
    (h : ∀ a, s.get? k = some a → p (f a) = p a) (l : κ) :
    ((s.modify k f).get? l).map p = (s.get? l).map p := by
  rw [get?_modify]
  split
  · subst l
    cases hs : s.get? k with
    | none => rfl
    | some a => simp [h a hs]
  · rfl

theorem modify_modify (s : Store κ α) (k : κ) (f g : α → α) :
    (s.modify k f).modify k g = s.modify k (g ∘ f) := by
  simp only [modify, List.map_map]
  congr 1
  refine List.map_congr_left fun e _ => ?_
  by_cases h : e.1 = k <;> simp [h]

/-- Changes that can change places as functions can change places in a store. -/
theorem modify_comm (s : Store κ α) (k l : κ) {f g : α → α} (h : ∀ a, f (g a) = g (f a)) :
    (s.modify k f).modify l g = (s.modify l g).modify k f := by
  simp only [modify, List.map_map]
  congr 1
  refine List.map_congr_left fun e _ => ?_
  obtain ⟨m, a⟩ := e
  simp only [Function.comp]
  split <;> split <;> simp_all

/-- A change that does nothing to the value under its key does nothing. -/
theorem modify_eq_self {s : Store κ α} (hs : s.Distinct) {k : κ} {f : α → α}
    (h : ∀ a, s.get? k = some a → f a = a) : s.modify k f = s := by
  refine eq_of_get? hs (keys_modify s k f) fun l => ?_
  simpa using map_get?_modify (p := id) h l

theorem erase_modify_self (s : Store κ α) (k : κ) (f : α → α) :
    (s.modify k f).erase k = s.erase k := by
  obtain ⟨es⟩ := s
  simp only [erase, modify]
  congr 1
  induction es with
  | nil => rfl
  | cons e es ih => by_cases h : e.1 = k <;> simp_all

theorem modify_put_self {s : Store κ α} {k : κ} (a : α) (f : α → α) (h : s.get? k = none) :
    (s.put k a).modify k f = s.put k (f a) := by
  have hn := get?_eq_none_iff.1 h
  have hm : s.entries.map (fun e => if e.1 = k then (e.1, f e.2) else e) = s.entries :=
    (List.map_congr_left fun e he => if_neg (hn e he)).trans (List.map_id _)
  simp [put, modify, putEntry_of_new _ hn, hm]

theorem modify_put_of_ne {s : Store κ α} {k l : κ} (h : l ≠ k) (a : α) (f : α → α) :
    (s.put k a).modify l f = (s.modify l f).put k a := by
  obtain ⟨es⟩ := s
  simp only [modify, put]
  congr 1
  induction es with
  | nil => simp [putEntry, h.symm]
  | cons e es ih =>
    by_cases hk : e.1 = k
    · have hl : e.1 ≠ l := fun hl => h (hl.symm.trans hk)
      simp [putEntry, hk, h.symm]
    · by_cases hl : e.1 = l <;> simp_all [putEntry]

/-! ## Keeping some of the values -/

/-- Keeps the entries on which `f` is defined, with the values it gives. -/
def filterMap (s : Store κ α) (f : κ → α → Option α) : Store κ α :=
  ⟨s.entries.filterMap fun e => (f e.1 e.2).map (e.1, ·)⟩

theorem erase_eq_filterMap (s : Store κ α) (k : κ) :
    s.erase k = s.filterMap fun l a => if l = k then none else some a := by
  obtain ⟨es⟩ := s
  simp only [erase, filterMap]
  congr 1
  induction es with
  | nil => rfl
  | cons e es ih => by_cases h : e.1 = k <;> simp_all

theorem modify_eq_filterMap (s : Store κ α) (k : κ) (f : α → α) :
    s.modify k f = s.filterMap fun l a => some (if l = k then f a else a) := by
  simp only [modify, filterMap, Option.map_some, List.filterMap_eq_map']
  congr 1
  refine List.map_congr_left fun e _ => ?_
  by_cases h : e.1 = k <;> simp [h]

omit [DecidableEq κ] in
theorem filterMap_filterMap (s : Store κ α) (f g : κ → α → Option α) :
    (s.filterMap f).filterMap g = s.filterMap fun k a => (f k a).bind (g k) := by
  simp only [filterMap, List.filterMap_filterMap]
  congr 2
  funext e
  cases f e.1 e.2 <;> rfl

theorem filterMap_congr {s : Store κ α} (hs : s.Distinct) {f g : κ → α → Option α}
    (h : ∀ k a, s.get? k = some a → f k a = g k a) : s.filterMap f = s.filterMap g := by
  simp only [filterMap]
  congr 1
  refine List.filterMap_congr fun e he => ?_
  rw [h e.1 e.2 (get?_of_mem hs he)]

theorem filterMap_eq_self {s : Store κ α} (hs : s.Distinct) {f : κ → α → Option α}
    (h : ∀ k a, s.get? k = some a → f k a = some a) : s.filterMap f = s := by
  rw [filterMap_congr hs h]
  simp [filterMap]

/-- Only what a change makes of the value under its key matters. -/
theorem modify_congr {s : Store κ α} (hs : s.Distinct) {k : κ} {f g : α → α}
    (h : ∀ a, s.get? k = some a → f a = g a) : s.modify k f = s.modify k g := by
  rw [modify_eq_filterMap, modify_eq_filterMap]
  refine filterMap_congr hs fun l a ha => ?_
  split
  · subst l
    rw [h a ha]
  · rfl

/-- A new entry that is not kept makes no difference. -/
theorem filterMap_put_of_none {s : Store κ α} {k : κ} {a : α} {f : κ → α → Option α}
    (hk : s.get? k = none) (hf : f k a = none) : (s.put k a).filterMap f = s.filterMap f := by
  simp [filterMap, put, putEntry_of_new a (get?_eq_none_iff.1 hk), hf]

omit [DecidableEq κ] in
theorem Distinct.filterMap {s : Store κ α} (h : s.Distinct) (f : κ → α → Option α) :
    (s.filterMap f).Distinct := by
  obtain ⟨es⟩ := s
  simp only [Distinct, keys, Store.filterMap] at h ⊢
  induction es with
  | nil => exact h
  | cons e es ih =>
    simp only [List.map_cons, List.nodup_cons] at h
    cases hf : f e.1 e.2 with
    | none => simpa [hf] using ih h.2
    | some b =>
      simp only [List.filterMap_cons, hf, Option.map_some, List.map_cons, List.nodup_cons]
      refine ⟨fun hm => h.1 ?_, ih h.2⟩
      obtain ⟨c, hc, hk⟩ := List.mem_map.1 hm
      obtain ⟨c', hc', hm⟩ := List.mem_filterMap.1 hc
      obtain ⟨b', -, hb'⟩ := Option.map_eq_some_iff.1 hm
      exact List.mem_map.2 ⟨c', hc', by rw [← hk, ← hb']⟩

theorem get?_filterMap {s : Store κ α} (h : s.Distinct) (f : κ → α → Option α) (k : κ) :
    (s.filterMap f).get? k = (s.get? k).bind (f k) := by
  have hiff : ∀ b, (s.filterMap f).get? k = some b ↔ (s.get? k).bind (f k) = some b := by
    intro b
    rw [get?_eq_some_iff (h.filterMap f), filterMap, List.mem_filterMap, Option.bind_eq_some_iff]
    constructor
    · rintro ⟨e, he, hm⟩
      obtain ⟨c, hc, hk⟩ := Option.map_eq_some_iff.1 hm
      cases hk
      exact ⟨e.2, get?_of_mem h he, hc⟩
    · rintro ⟨a, ha, hf⟩
      exact ⟨(k, a), (get?_eq_some_iff h).1 ha, by simp [hf]⟩
  exact Option.ext hiff

omit [DecidableEq κ] in
theorem size_filterMap_le (s : Store κ α) (f : κ → α → Option α) : (s.filterMap f).size ≤ s.size :=
  List.length_filterMap_le ..

theorem size_erase_lt {s : Store κ α} {k : κ} {a : α} (h : s.get? k = some a) :
    (s.erase k).size < s.size := by
  obtain ⟨e, he, rfl⟩ := List.mem_map.1 (mem_keys_of_get? h)
  exact List.length_filter_lt_length_iff_exists.2 ⟨e, he, by simp⟩

/-- A key has one entry. -/
theorem size_erase {s : Store κ α} (hs : s.Distinct) {k : κ} {a : α} (h : s.get? k = some a) :
    (s.erase k).size + 1 = s.size := by
  have hsize : ∀ t : Store κ α, t.size = t.keys.length := fun t => (List.length_map ..).symm
  have herase : (s.erase k).keys = s.keys.erase k := by
    rw [keys_erase, hs.erase_eq_filter]
    refine List.filter_congr fun l _ => ?_
    rw [Bool.eq_iff_iff, decide_eq_true_eq, bne_iff_ne]
  rw [hsize, hsize, herase]
  exact List.length_erase_add_one (mem_keys_of_get? h)

end GraphDraft.Store

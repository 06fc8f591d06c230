/-!
# Stores

Values kept under keys, each key once, in the order in which the keys were first put. Putting a
value under a key that is there already keeps its place. Putting and changing values are described
by what `get?` gives after them (`get?_put`, `get?_modify`). Erasing the key that was put last gives
back the store before it (`erase_put`).
-/

namespace GraphDraft

/-- Values under keys. -/
structure Store (κ α : Type) where
  entries : List (κ × α) := []
deriving Repr, DecidableEq

namespace Store

variable {κ α : Type} [DecidableEq κ]

instance : Inhabited (Store κ α) := ⟨{}⟩

/-- The value under a key. -/
def get? (s : Store κ α) (k : κ) : Option α :=
  (s.entries.find? (·.1 = k)).map (·.2)

def contains (s : Store κ α) (k : κ) : Bool :=
  (s.get? k).isSome

/-- Replaces the first entry of a key, or appends one. -/
def putEntry (k : κ) (a : α) : List (κ × α) → List (κ × α)
  | [] => [(k, a)]
  | e :: es => if e.1 = k then (k, a) :: es else e :: putEntry k a es

/-- Puts a value under a key. -/
def put (s : Store κ α) (k : κ) (a : α) : Store κ α :=
  ⟨putEntry k a s.entries⟩

/-- Drops a key with its value. -/
def erase (s : Store κ α) (k : κ) : Store κ α :=
  ⟨s.entries.filter (·.1 ≠ k)⟩

/-- Changes the value under a key, if there is one. -/
def modify (s : Store κ α) (k : κ) (f : α → α) : Store κ α :=
  ⟨s.entries.map fun e => if e.1 = k then (e.1, f e.2) else e⟩

def keys (s : Store κ α) : List κ :=
  s.entries.map (·.1)

def size (s : Store κ α) : Nat :=
  s.entries.length

theorem get?_eq_none_iff {s : Store κ α} {k : κ} :
    s.get? k = none ↔ ∀ e ∈ s.entries, e.1 ≠ k := by
  simp [get?]

@[simp] theorem get?_put (s : Store κ α) (k : κ) (a : α) (l : κ) :
    (s.put k a).get? l = if l = k then some a else s.get? l := by
  obtain ⟨es⟩ := s
  simp only [get?, put]
  induction es with
  | nil => by_cases hl : l = k <;> simp [putEntry, hl, eq_comm]
  | cons e es ih =>
    by_cases h : e.1 = k <;> by_cases he : e.1 = l <;> by_cases hl : l = k <;>
      simp_all [putEntry]

@[simp] theorem get?_modify (s : Store κ α) (k : κ) (f : α → α) (l : κ) :
    (s.modify k f).get? l = if l = k then (s.get? l).map f else s.get? l := by
  obtain ⟨es⟩ := s
  simp only [get?, modify]
  induction es with
  | nil => simp
  | cons e es ih =>
    by_cases h : e.1 = k <;> by_cases he : e.1 = l <;> by_cases hl : l = k <;>
      simp_all

theorem putEntry_of_new {k : κ} (a : α) {es : List (κ × α)} (h : ∀ e ∈ es, e.1 ≠ k) :
    putEntry k a es = es ++ [(k, a)] := by
  induction es with
  | nil => rfl
  | cons e es ih => simp_all [putEntry]

/-- Erasing a key that was just put gives the store before it. -/
theorem erase_put {s : Store κ α} {k : κ} (a : α) (h : s.get? k = none) :
    (s.put k a).erase k = s := by
  obtain ⟨es⟩ := s
  have h := get?_eq_none_iff.1 h
  simpa [put, erase, putEntry_of_new a h] using h

@[simp] theorem keys_modify (s : Store κ α) (k : κ) (f : α → α) : (s.modify k f).keys = s.keys := by
  obtain ⟨es⟩ := s
  simp only [keys, modify, List.map_map]
  refine List.map_congr_left fun e _ => ?_
  by_cases h : e.1 = k <;> simp [h]

end Store

end GraphDraft

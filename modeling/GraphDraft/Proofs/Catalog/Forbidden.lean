import GraphDraft.Catalog.Manifest
import GraphDraft.Proofs.Text.Lowercase
import Mathlib.Data.List.Basic

/-!
# Forbidden characters in names

Lowercasing keeps the characters that names may not have (`isForbiddenName_lowercase`), so a name of
an entry has one if and only if one of its parts does. The parts are checked but for two: the type
names of parameters, and the name of a constructor. The entries with a forbidden character are just
those of the members that have one there (`Manifest.forbidden_source`).
-/

namespace GraphDraft

/-! ## Lowercase names -/

theorem isForbidden_iff {c : Char} : isForbidden c = true ↔
    c.toNat = 0x60 ∨ c.toNat = 0x5F ∨ c.toNat = 0x3C ∨ c.toNat = 0x3E := by
  simp only [isForbidden, Bool.or_eq_true, decide_eq_true_eq, ← Char.toNat_inj, or_assoc]
  exact Iff.rfl

theorem lowered_of_isForbidden {c : Char} (h : isForbidden c = true) : Text.Lowered c := by
  have hc := isForbidden_iff.1 h
  exact ⟨by omega, (Text.Table.settled_ascii_iff (by omega)).2 (by omega)⟩

/-- The forms that the table gives lie beyond the forbidden characters. -/
theorem lt_target : (Text.Table.lowercase.all fun r => Nat.blt 0x60 r.target) = true := by
  decide +kernel

theorem any_isForbidden_lowercaseChar (c : Char) :
    (Text.lowercaseChar c).any isForbidden = isForbidden c := by
  rw [Bool.eq_iff_iff, List.any_eq_true]
  constructor
  · rintro ⟨d, hd, hforbidden⟩
    rcases Text.mem_lowercaseChar hd with ⟨rfl, -⟩ | ⟨-, rfl | rfl⟩ | ⟨r, hr, hlower⟩
    · exact hforbidden
    · cases hforbidden
    · cases hforbidden
    · have htarget : 0x60 < r.target := Nat.le_of_ble_eq_true (List.all_eq_true.1 lt_target r hr)
      obtain ⟨-, -, -, hform⟩ := Text.Table.CaseRun.lower?_eq_some hlower
      have hcode := isForbidden_iff.1 hforbidden
      omega
  · intro h
    rw [(lowered_of_isForbidden h).lowercaseChar]
    exact ⟨c, List.mem_singleton_self c, h⟩

theorem any_isForbidden_lowercaseFrom (before cs : List Char) :
    (Text.lowercaseFrom before cs).any isForbidden = cs.any isForbidden := by
  induction cs generalizing before with
  | nil => rfl
  | cons c cs ih =>
    rw [Text.lowercaseFrom, List.any_append, ih, List.any_cons]
    split
    · rename_i hsigma
      subst hsigma
      split <;> rfl
    · rw [any_isForbidden_lowercaseChar]

theorem isForbiddenName_lowercase (name : String) :
    isForbiddenName (Text.lowercase name) = isForbiddenName name := by
  rw [isForbiddenName, Text.lowercase, String.toList_ofList, any_isForbidden_lowercaseFrom]
  rfl

/-! ## Names that are put together -/

theorem isForbiddenName_append (a b : String) :
    isForbiddenName (a ++ b) = (isForbiddenName a || isForbiddenName b) := by
  rw [isForbiddenName, String.toList_append, List.any_append]
  rfl

theorem any_intercalate {p : Char → Bool} {s : Char} (hs : p s = false) (ls : List (List Char)) :
    ([s].intercalate ls).any p = ls.any (·.any p) := by
  induction ls with
  | nil => rfl
  | cons l ls ih =>
    cases ls with
    | nil => simp
    | cons m ls => simp [List.intercalate_cons_cons, hs, ih]

namespace Member

theorem isForbiddenName_signature (m : Member) :
    isForbiddenName m.signature = m.parameters.any (isForbiddenName ·.typeName) := by
  rw [signature]
  split
  · rename_i hnone
    rw [List.isEmpty_iff.1 hnone]
    rfl
  · have hnames : isForbiddenName (",".intercalate (m.parameters.map (·.typeName))) =
        m.parameters.any (isForbiddenName ·.typeName) := by
      rw [isForbiddenName, String.toList_intercalate]
      refine (any_intercalate (s := ',') rfl _).trans ?_
      simp only [List.any_map]
      rfl
    rw [isForbiddenName_append, isForbiddenName_append, hnames]
    exact Bool.or_false _

theorem isForbiddenName_entry (owner : String) (m : Member) (how : MemberUse) (name : String) :
    isForbiddenName (m.entry owner how name).name =
      (isForbiddenName owner || isForbiddenName name) := by
  have hdot : isForbiddenName "." = false := rfl
  rw [entry, Entry.named, isForbiddenName_lowercase, isForbiddenName_append,
    isForbiddenName_append, hdot, Bool.or_false]

/-! ## Members -/

/-- The member has an entry with a forbidden character in its name, in one of the parts that are not
checked. -/
def evades (m : Member) : Bool :=
  match m.kind with
  | .constructor =>
    !m.isGeneric && (isForbiddenName m.name || m.parameters.any (isForbiddenName ·.typeName))
  | .method _ =>
    !m.isGeneric && !isForbiddenName m.name && m.parameters.any (isForbiddenName ·.typeName)
  | .property .. | .field .. => false

variable {owner : String} {m : Member}

theorem filter_accessors (howner : isForbiddenName owner = false) (writable : Bool) :
    (m.accessors owner writable).filter (isForbiddenName ·.name) = [] := by
  have hset : isForbiddenName "set" = false := rfl
  rw [accessors]
  split
  · rfl
  · rename_i hname
    cases writable <;>
      simp [isForbiddenName_entry, isForbiddenName_append, howner, hset, hname]

theorem filter_call (howner : isForbiddenName owner = false) (how : MemberUse) :
    [m.entry owner how (m.name ++ m.signature)].filter (isForbiddenName ·.name) =
      if isForbiddenName m.name || m.parameters.any (isForbiddenName ·.typeName) then
        [m.entry owner how (m.name ++ m.signature)] else [] := by
  rw [List.filter_cons, List.filter_nil, isForbiddenName_entry, isForbiddenName_append,
    isForbiddenName_signature, howner, Bool.false_or]

/-- All entries of a member have forbidden characters in their names, or none has. -/
theorem filter_entries (howner : isForbiddenName owner = false) (m : Member) :
    (m.entries owner).filter (isForbiddenName ·.name) =
      if m.evades then m.entries owner else [] := by
  rw [entries, evades]
  cases m.kind with
  | constructor =>
    cases m.isGeneric with
    | true => rfl
    | false => exact filter_call howner .construct
  | method returns =>
    cases hname : isForbiddenName m.name with
    | true => simp
    | false =>
      cases m.isGeneric with
      | true => rfl
      | false =>
        have hcall := filter_call (m := m) howner .invoke
        rwa [hname, Bool.false_or] at hcall
  | property type writable => exact filter_accessors howner writable
  | field type readOnly => exact filter_accessors howner _

theorem entries_ne_nil (h : m.evades = true) : m.entries owner ≠ [] := by
  rw [evades] at h
  rw [entries]
  cases hkind : m.kind <;> simp_all

end Member

namespace Manifest

variable (ts : List Manifest) (config : Config) (discovered : List Entry)

theorem isForbiddenName_of_isScanned {t : Manifest} (h : t.isScanned config = true) :
    isForbiddenName t.name = false := by
  simp only [isScanned, Bool.and_eq_true, Bool.not_eq_true'] at h
  exact h.1.2

theorem filter_source : ((source ts).entries config discovered).filter (isForbiddenName ·.name) =
    (ts.filter (·.isScanned config)).flatMap fun t =>
      t.members.flatMap fun m => if m.evades then m.entries t.name else [] := by
  rw [source, List.filter_flatMap]
  refine List.flatMap_congr fun t ht => ?_
  have howner := isForbiddenName_of_isScanned config (List.mem_filter.1 ht).2
  rw [entries, List.filter_flatMap]
  exact List.flatMap_congr fun m _ => Member.filter_entries howner m

/-- A source gives entries with a forbidden character in their names for each member that has one
in the type name of a parameter, or in its own name if it is a constructor, and for no others. -/
theorem forbidden_source :
    ((source ts).entries config discovered).filter (isForbiddenName ·.name) =
      ((ts.filter (·.isScanned config)).flatMap fun t =>
        t.members.flatMap fun m => if m.evades then m.entries t.name else []) ∧
    ((∀ e ∈ (source ts).entries config discovered, isForbiddenName e.name = false) ↔
      ∀ t ∈ ts, t.isScanned config = true → ∀ m ∈ t.members, m.evades = false) := by
  have hfilter := filter_source ts config discovered
  refine ⟨hfilter, ?_⟩
  have hnone : (∀ e ∈ (source ts).entries config discovered, isForbiddenName e.name = false) ↔
      ((source ts).entries config discovered).filter (isForbiddenName ·.name) = [] := by
    simp [List.filter_eq_nil_iff]
  rw [hnone, hfilter]
  simp only [List.flatMap_eq_nil_iff, List.mem_filter, and_imp, ite_eq_right_iff]
  refine forall₂_congr fun t ht => forall_congr' fun hscanned => forall₂_congr fun m hm => ?_
  rw [← Bool.not_eq_true]
  exact ⟨fun h hevades => Member.entries_ne_nil hevades (h hevades),
    fun h hevades => absurd hevades h⟩

/-- A type whose constructor takes a parameter of a generic type. -/
def wrapping : Manifest where
  assembly := "Host"
  namespaceName := none
  name := "Stack"
  shape := .classType
  members := [⟨"ctor", .constructor, [⟨"items", "List<int>", .list .int⟩], false, false⟩]

/-- The parameter's type takes forbidden characters into the name of the constructor. -/
theorem not_forbidden_wrapping : ¬∀ (ts : List Manifest) (config : Config),
    ∀ e ∈ (source ts).entries config [], isForbiddenName e.name = false := by
  intro h
  have hname := h [wrapping] { assemblies := ["Host"] }
  revert hname
  decide +kernel

end Manifest

end GraphDraft

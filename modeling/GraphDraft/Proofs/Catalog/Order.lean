import GraphDraft.Catalog.Shortcut
import Mathlib.Data.List.Basic

/-!
# The order of the catalog

Every entry of a catalog is provided by some source, at some place among what that source provides
(`Provision`). A catalog lists everything that its sources provide once, in the order of
`Provision.Precedes`: by the length of the name, and among names of one length as the entries were
given, shortcuts ahead. It depends on how the sources of each stage stand among themselves and on
nothing else, and a search for one entry finds the first that matches (`Catalog.build_ordered`).

All of it rests on sorting being stable: entries that tie stay as they were given
(`filter_mergeSort`).
-/

namespace GraphDraft

/-! ## Stable sorting -/

section
variable {α : Type} {le : α → α → Bool} (trans : ∀ a b c, le a b → le b c → le a c)
  (total : ∀ a b, le a b || le b a)
include trans total

/-- Elements that tie with each other stay in the order in which they were given. -/
theorem filter_mergeSort {p : α → Bool} (hp : ∀ a b, p a = true → p b = true → le a b = true)
    (l : List α) : (l.mergeSort le).filter p = l.filter p := by
  have hties : (l.filter p).Pairwise fun a b => le a b = true :=
    List.pairwise_of_forall_mem_list fun a ha b hb =>
      hp a b (List.mem_filter.1 ha).2 (List.mem_filter.1 hb).2
  have hsub : (l.filter p).Sublist ((l.mergeSort le).filter p) := by
    simpa using (List.sublist_mergeSort trans total hties List.filter_sublist).filter p
  have hlength := ((List.mergeSort_perm l le).filter p).length_eq
  exact (hsub.eq_of_length hlength.symm).symm

/-- What holds of elements as they are given holds after sorting of those that tie. -/
theorem pairwise_mergeSort_of_ties {l : List α} {r : α → α → Prop} (h : l.Pairwise r) :
    (l.mergeSort le).Pairwise fun a b => le a b = true ∧ (le b a = true → r a b) := by
  refine List.pairwise_iff_forall_sublist.2 fun {a b} hab => ?_
  have hle : le a b = true :=
    List.pairwise_iff_forall_sublist.1 (List.pairwise_mergeSort trans total l) hab
  refine ⟨hle, fun hba => List.pairwise_iff_forall_sublist.1 h ?_⟩
  have hself : ∀ x, le x x = true := fun x => by simpa using total x x
  -- the elements that tie with `a` keep their order, and `b` is one of them
  have hties := filter_mergeSort trans total (p := fun x => le a x && le x a) (fun x y hx hy => by
    simp only [Bool.and_eq_true] at hx hy
    exact trans x a y hx.2 hy.1) l
  have hpair : [a, b].filter (fun x => le a x && le x a) = [a, b] := by simp [hself, hle, hba]
  have hsub := hab.filter fun x => le a x && le x a
  rw [hpair, hties] at hsub
  exact hsub.trans List.filter_sublist

end

theorem Entry.notLonger_trans (a b c : Entry) (hab : a.notLonger b) (hbc : b.notLonger c) :
    a.notLonger c := by
  simp only [notLonger, decide_eq_true_eq] at *
  omega

theorem Entry.notLonger_total (a b : Entry) : a.notLonger b || b.notLonger a := by
  simp only [notLonger, Bool.or_eq_true, decide_eq_true_eq]
  omega

/-- Positions go up along a list. -/
theorem pairwise_zipIdx {α : Type} (l : List α) : l.zipIdx.Pairwise fun a b => a.2 < b.2 := by
  rw [← List.pairwise_map (f := Prod.snd), List.zipIdx_map_snd]
  exact List.pairwise_lt_range'

/-! ## Where entries come from -/

/-- An entry, and where it comes from. -/
structure Provision where
  stage : Stage
  /-- The position of the source among all sources. -/
  source : Nat
  /-- The position of the entry among those of the source. -/
  place : Nat
  entry : Entry

namespace Catalog

/-- What the sources of a stage are told of: nothing while the host is searched, and then everything
that was discovered. -/
def told (sources : List Source) (config : Config) : Stage → List Entry
  | .discovery => []
  | .shortcut => gather .discovery sources config []

/-- What the sources of one stage provide, in order. -/
def provisions (stage : Stage) (sources : List Source) (config : Config) : List Provision :=
  (sources.zipIdx.filter (·.1.stage = stage)).flatMap fun s =>
    (s.1.entries config (told sources config stage)).zipIdx.map fun e => ⟨stage, s.2, e.2, e.1⟩

end Catalog

namespace Provision

/-- Shortcuts are given ahead of what is discovered; otherwise the sources are taken in order, and
so are the entries of a source. -/
def Earlier (p q : Provision) : Prop :=
  p.stage = .shortcut ∧ q.stage = .discovery ∨
    p.stage = q.stage ∧ (p.source < q.source ∨ p.source = q.source ∧ p.place < q.place)

/-- The order of the catalog: by the length of the name, then as the entries are given. -/
def Precedes (p q : Provision) : Prop :=
  p.entry.name.length < q.entry.name.length ∨
    p.entry.name.length = q.entry.name.length ∧ p.Earlier q

/-- The source in this position belongs to the stage and provides the entry in this place. -/
def Given (sources : List Source) (config : Config) (p : Provision) : Prop :=
  ∃ s, sources[p.source]? = some s ∧ s.stage = p.stage ∧
    (s.entries config (Catalog.told sources config p.stage))[p.place]? = some p.entry

theorem Earlier.irrefl (p : Provision) : ¬p.Earlier p := by
  rintro (⟨hs, hd⟩ | ⟨-, h | ⟨-, h⟩⟩)
  · rw [hs] at hd
    cases hd
  · omega
  · omega

theorem Earlier.trans {p q r : Provision} (hpq : p.Earlier q) (hqr : q.Earlier r) :
    p.Earlier r := by
  rcases hpq with ⟨hp, hq⟩ | ⟨hs, hpq⟩ <;> rcases hqr with ⟨hq', hr⟩ | ⟨hs', hqr⟩
  · rw [hq] at hq'
    cases hq'
  · exact .inl ⟨hp, hs' ▸ hq⟩
  · exact .inl ⟨hs.trans hq', hr⟩
  · exact .inr ⟨hs.trans hs', by omega⟩

theorem Precedes.asymm {p q : Provision} (hpq : p.Precedes q) : ¬q.Precedes p := by
  intro hqp
  rcases hpq with hpq | ⟨hl, hpq⟩ <;> rcases hqp with hqp | ⟨hl', hqp⟩
  · omega
  · omega
  · omega
  · exact Earlier.irrefl p (hpq.trans hqp)

end Provision

namespace Catalog

variable (stage : Stage) (sources : List Source) (config : Config)

theorem map_entry_provisions : (provisions stage sources config).map (·.entry) =
    gather stage sources config (told sources config stage) := by
  have hsource : ∀ s : Source × Nat, ((s.1.entries config (told sources config stage)).zipIdx.map
      fun e => (⟨stage, s.2, e.2, e.1⟩ : Provision)).map (·.entry) =
        s.1.entries config (told sources config stage) := fun s => by
    rw [List.map_map]
    exact List.zipIdx_map_fst ..
  have hsources : (sources.zipIdx.filter (·.1.stage = stage)).map (·.1) =
      sources.filter (·.stage = stage) := by
    conv_rhs => rw [← List.zipIdx_map_fst 0 sources, List.filter_map]
    rfl
  rw [provisions, List.map_flatMap, gather, ← hsources, List.flatMap_map]
  exact List.flatMap_congr fun s _ => hsource s

theorem mem_provisions {p : Provision} :
    p ∈ provisions stage sources config ↔ p.stage = stage ∧ p.Given sources config := by
  simp only [provisions, List.mem_flatMap, List.mem_filter, List.mem_map, decide_eq_true_eq,
    List.mem_zipIdx_iff_getElem?]
  constructor
  · rintro ⟨⟨s, i⟩, ⟨hs, hstage⟩, ⟨e, j⟩, he, rfl⟩
    exact ⟨rfl, s, hs, hstage, he⟩
  · obtain ⟨stage', i, j, e⟩ := p
    rintro ⟨rfl, s, hs, hstage, he⟩
    exact ⟨(s, i), ⟨hs, hstage⟩, (e, j), he, rfl⟩

theorem pairwise_provisions : (provisions stage sources config).Pairwise Provision.Earlier := by
  refine List.pairwise_flatMap.2 ⟨fun s _ => ?_, ?_⟩
  · refine List.pairwise_map.2 ((pairwise_zipIdx _).imp fun h => ?_)
    exact .inr ⟨rfl, .inr ⟨rfl, h⟩⟩
  · refine ((pairwise_zipIdx sources).filter _).imp fun {s t} hst p hp q hq => ?_
    obtain ⟨e, -, rfl⟩ := List.mem_map.1 hp
    obtain ⟨f, -, rfl⟩ := List.mem_map.1 hq
    exact .inr ⟨rfl, .inl hst⟩

/-- Everything that sources provide, as it is given. -/
def given : List Provision :=
  provisions .shortcut sources config ++ provisions .discovery sources config

/-- Everything that sources provide, in the order of the catalog. -/
def ranked : List Provision :=
  (given sources config).mergeSort fun p q => p.entry.notLonger q.entry

theorem mem_ranked {p : Provision} : p ∈ ranked sources config ↔ p.Given sources config := by
  rw [ranked, List.mem_mergeSort, given, List.mem_append, mem_provisions, mem_provisions,
    ← or_and_right]
  exact and_iff_right (by cases p.stage <;> simp)

theorem entries_build :
    (build sources config).entries = (ranked sources config).map (·.entry) := by
  rw [ranked, List.map_mergeSort (s := Entry.notLonger) fun _ _ _ _ => rfl, given, List.map_append,
    map_entry_provisions, map_entry_provisions]
  rfl

theorem pairwise_ranked : (ranked sources config).Pairwise Provision.Precedes := by
  have hgiven : (given sources config).Pairwise Provision.Earlier := by
    refine List.pairwise_append.2 ⟨pairwise_provisions .., pairwise_provisions .., ?_⟩
    intro p hp q hq
    exact .inl ⟨((mem_provisions ..).1 hp).1, ((mem_provisions ..).1 hq).1⟩
  have hle : ∀ p q : Provision,
      p.entry.notLonger q.entry = true ↔ p.entry.name.length ≤ q.entry.name.length := fun p q => by
    simp [Entry.notLonger]
  have htrans : ∀ p q r : Provision, p.entry.notLonger q.entry → q.entry.notLonger r.entry →
      p.entry.notLonger r.entry := fun p q r => Entry.notLonger_trans p.entry q.entry r.entry
  have htotal : ∀ p q : Provision, p.entry.notLonger q.entry || q.entry.notLonger p.entry :=
    fun p q => Entry.notLonger_total p.entry q.entry
  refine (pairwise_mergeSort_of_ties htrans htotal hgiven).imp fun {p q} h => ?_
  obtain ⟨hpq, hties⟩ := h
  rw [hle] at hpq hties
  rcases Nat.lt_or_ge p.entry.name.length q.entry.name.length with hlt | hge
  · exact .inl hlt
  · exact .inr ⟨by omega, hties hge⟩

theorem mem_told_shortcut {e : Entry} : e ∈ told sources config .shortcut ↔
    ∃ p : Provision, p.Given sources config ∧ p.stage = .discovery ∧ p.entry = e := by
  rw [told, ← show told sources config .discovery = [] from rfl, ← map_entry_provisions,
    List.mem_map]
  simp only [mem_provisions, and_assoc, and_left_comm (b := Provision.Given sources config _)]

/-- A catalog depends on how the sources of each stage stand among themselves. -/
theorem build_congr {others : List Source}
    (h : ∀ stage, others.filter (·.stage = stage) = sources.filter (·.stage = stage)) :
    build others config = build sources config := by
  have hgather : ∀ stage discovered,
      gather stage others config discovered = gather stage sources config discovered :=
    fun stage discovered => by rw [gather, h stage, gather]
  simp only [build, hgather]

/-- A search finds what matches, in the order of the catalog. -/
theorem search_build (query : String) (limit : Nat) : (build sources config).search query limit =
    (((ranked sources config).filter (·.entry.matchesText (Text.lowercase query))).take limit).map
      (·.entry) := by
  rw [search, entries_build, List.filter_map, List.map_take]
  rfl

end Catalog

/-- The first of what sources provide, in the order of the catalog, whose name contains a piece. -/
structure Provision.First (sources : List Source) (config : Config) (piece : List Char)
    (p : Provision) : Prop where
  given : p.Given sources config
  contains : piece <:+: p.entry.name.toList
  first : ∀ q : Provision, q.Given sources config → piece <:+: q.entry.name.toList →
    q = p ∨ p.Precedes q

namespace Catalog

theorem search_one (sources : List Source) (config : Config) (query : String) :
    (build sources config).search query 1 = [] ∧ (∀ p : Provision, p.Given sources config →
        ¬(Text.lowercase query).toList <:+: p.entry.name.toList) ∨
      ∃ p : Provision, p.First sources config (Text.lowercase query).toList ∧
        (build sources config).search query 1 = [p.entry] := by
  have hmem : ∀ p, p ∈ (ranked sources config).filter
      (·.entry.matchesText (Text.lowercase query)) ↔
        p.Given sources config ∧ (Text.lowercase query).toList <:+: p.entry.name.toList := by
    intro p
    rw [List.mem_filter, mem_ranked, Entry.matchesText, Text.isPieceOf_iff]
  have hsorted := (pairwise_ranked sources config).filter
    (·.entry.matchesText (Text.lowercase query))
  rw [search_build]
  cases hfound : (ranked sources config).filter (·.entry.matchesText (Text.lowercase query)) with
  | nil =>
    refine .inl ⟨rfl, fun p hp hpiece => ?_⟩
    have := (hmem p).2 ⟨hp, hpiece⟩
    rw [hfound] at this
    cases this
  | cons p ps =>
    rw [hfound] at hmem hsorted
    obtain ⟨hp, hpiece⟩ := (hmem p).1 List.mem_cons_self
    refine .inr ⟨p, ⟨hp, hpiece, fun q hq hqpiece => ?_⟩, rfl⟩
    rcases List.mem_cons.1 ((hmem q).2 ⟨hq, hqpiece⟩) with h | h
    · exact .inl h
    · exact .inr ((List.pairwise_cons.1 hsorted).1 q h)

/-- A catalog lists all that its sources provide once, and in order. Shortcuts are told of all that
was discovered, so only the order of the sources within their stages matters; and a search for one
entry finds the first that matches. -/
theorem build_ordered (sources : List Source) (config : Config) :
    (∃ ps : List Provision, (build sources config).entries = ps.map (·.entry) ∧ ps.Nodup ∧
      (∀ p, p ∈ ps ↔ p.Given sources config) ∧ ps.Pairwise Provision.Precedes) ∧
    (∀ e, e ∈ told sources config .shortcut ↔
      ∃ p : Provision, p.Given sources config ∧ p.stage = .discovery ∧ p.entry = e) ∧
    (∀ others : List Source,
      (∀ stage, others.filter (·.stage = stage) = sources.filter (·.stage = stage)) →
        build others config = build sources config) ∧
    ∀ query, (build sources config).search query 1 = [] ∧ (∀ p : Provision,
        p.Given sources config → ¬(Text.lowercase query).toList <:+: p.entry.name.toList) ∨
      ∃ p : Provision, p.First sources config (Text.lowercase query).toList ∧
        (build sources config).search query 1 = [p.entry] := by
  refine ⟨⟨ranked sources config, entries_build .., ?_, fun p => mem_ranked .., pairwise_ranked ..⟩,
    fun e => mem_told_shortcut .., fun _ h => build_congr _ _ h, search_one sources config⟩
  exact (pairwise_ranked sources config).imp fun h he => (he ▸ h).asymm (he ▸ h)

/-- A host that offers a sum of scalars and a maximum. -/
def scalarHost : Source :=
  .fixed .discovery [⟨"scalarsum", .ok .null⟩, ⟨"max", .ok .null⟩]

/-- The short name of the sum is given although it is asked for before the host is. -/
theorem build_ordered_scalarHost :
    (given [Shortcut.scalars, scalarHost] {}).map (·.entry.name) = ["sum", "scalarsum", "max"] ∧
    (∀ stage, [scalarHost, Shortcut.scalars].filter (·.stage = stage) =
      [Shortcut.scalars, scalarHost].filter (·.stage = stage)) ∧
    build [scalarHost, Shortcut.scalars] {} = build [Shortcut.scalars, scalarHost] {} := by
  have hstages : ∀ stage, [scalarHost, Shortcut.scalars].filter (·.stage = stage) =
      [Shortcut.scalars, scalarHost].filter (·.stage = stage) := by
    intro stage
    cases stage <;> rfl
  refine ⟨by decide +kernel, hstages, ?_⟩
  obtain ⟨-, -, hsame, -⟩ := build_ordered [Shortcut.scalars, scalarHost] {}
  exact hsame _ hstages

end Catalog

end GraphDraft

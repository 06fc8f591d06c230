import GraphDraft.Proofs.Store
import GraphDraft.Session

/-!
# The verb that a token calls

A registry is built by registering verbs and by redirecting verbs to others; just the registries
with distinct verbs can be built (`Registry.built_iff`). `Registry.Answers` is the rule for what a
token calls: the longest verb that it begins with, among the verbs that count, and otherwise the
fallback verb, which is left the whole token. The rule has one answer, and it depends only on which
verb stands for which command.

A token is answered by the rule in which all verbs count but the fallback verb. It is answered by
the rule in which that one counts too unless the fallback verb is passed over
(`Registry.lookup_built`).
-/

namespace GraphDraft

namespace Registry

variable {r : Registry} {text : String}

/-! ## Building registries -/

/-- A call that changes the verbs of a registry. -/
inductive Call where
  | register (verb : String) (command : Command)
  | redirect (verb target : String)

/-- The registry after a call. Redirecting a verb to an unknown one changes nothing. -/
def Call.apply (r : Registry) : Call → Registry
  | register verb c => r.register verb c
  | redirect verb target => (r.alias? verb target).getD r

/-- Calls lead to the registry from one without verbs. -/
def Built (r : Registry) : Prop :=
  ∃ fallback, ∃ calls : List Call, r = calls.foldl Call.apply { fallback }

theorem distinct_apply (h : r.verbs.Distinct) (c : Call) : (c.apply r).verbs.Distinct := by
  cases c with
  | register verb command => exact h.put verb command
  | redirect verb target =>
    rw [Call.apply, alias?]
    cases r.verbs.get? target with
    | none => exact h
    | some command => exact h.put verb command

theorem distinct_foldl (h : r.verbs.Distinct) (calls : List Call) :
    (calls.foldl Call.apply r).verbs.Distinct := by
  induction calls generalizing r with
  | nil => exact h
  | cons c calls ih => exact ih (distinct_apply h c)

/-- Registering verbs in order gives them in order. -/
theorem foldl_register (fallback : String) : ∀ es fs : List (String × Command),
    Store.Distinct ⟨fs ++ es⟩ →
      (es.map fun e => Call.register e.1 e.2).foldl Call.apply ⟨⟨fs⟩, fallback⟩ =
        ⟨⟨fs ++ es⟩, fallback⟩
  | [], fs, _ => by simp
  | e :: es, fs, h => by
    have hnew : ∀ f ∈ fs, f.1 ≠ e.1 := by
      intro f hf
      have hnodup : (fs.map (·.1) ++ e.1 :: es.map (·.1)).Nodup := by
        simpa [Store.Distinct, Store.keys] using h
      exact (List.nodup_append.1 hnodup).2.2 f.1 (List.mem_map_of_mem hf) e.1 List.mem_cons_self
    have hput : Store.put ⟨fs⟩ e.1 e.2 = ⟨fs ++ [e]⟩ :=
      congrArg Store.mk (Store.putEntry_of_new e.2 hnew)
    rw [List.map_cons, List.foldl_cons, Call.apply, Registry.register, hput,
      foldl_register fallback es (fs ++ [e]) (by simpa using h)]
    simp

/-- A registry can be built just if its verbs are distinct. -/
theorem built_iff : r.Built ↔ r.verbs.Distinct := by
  constructor
  · rintro ⟨fallback, calls, rfl⟩
    exact distinct_foldl .empty calls
  · intro h
    exact ⟨r.fallback, _, (foldl_register r.fallback r.verbs.entries [] h).symm⟩

theorem built_standard : standard.Built := by
  refine built_iff.2 ?_
  rw [Store.Distinct]
  decide +kernel

theorem Built.withAliases (h : r.Built) (aliases : List Alias) :
    (Session.withAliases r aliases).Built := by
  induction aliases generalizing r with
  | nil => exact h
  | cons a aliases ih => exact ih (built_iff.2 (distinct_apply (built_iff.1 h) (.redirect _ _)))

/-! ## The rule -/

/-- The verb is registered and counts, the text is the verb followed by the rest, and no verb that
counts is longer among those that the text begins with. -/
structure Longest (r : Registry) (counts : String → Prop) (text : String) (f : Found) : Prop where
  registered : r.verbs.get? f.verb = some f.command
  counted : counts f.verb
  text_eq : f.verb ++ f.rest = text
  longest : ∀ verb c, r.verbs.get? verb = some c → counts verb → verb.toList <+: text.toList →
    verb.length ≤ f.verb.length

/-- The answer to a text: the longest verb, among those that count, that it begins with; if there is
none, the fallback verb, if that is registered, with the whole text. -/
def Answers (r : Registry) (counts : String → Prop) (text : String) (answer : Option Found) :
    Prop :=
  (∃ f, answer = some f ∧ r.Longest counts text f) ∨
    (∀ verb c, r.verbs.get? verb = some c → counts verb → ¬verb.toList <+: text.toList) ∧
      answer = (r.verbs.get? r.fallback).map (⟨r.fallback, ·, text⟩)

/-- The fallback verb is the longest verb that a text begins with, and there is something to it. -/
structure PassesFallback (r : Registry) (text : String) : Prop where
  registered : ∃ c, r.verbs.get? r.fallback = some c
  not_blank : r.fallback ≠ ""
  begins : r.fallback.toList <+: text.toList
  longest : ∀ verb c, r.verbs.get? verb = some c → verb.toList <+: text.toList →
    verb.length ≤ r.fallback.length

variable {counts : String → Prop} {f g : Found}

theorem begins_iff {verb : String} :
    verb.toList <+: text.toList ↔ ∃ rest : String, verb ++ rest = text := by
  constructor
  · rintro ⟨cs, hcs⟩
    exact ⟨String.ofList cs, String.toList_injective (by simpa using hcs)⟩
  · rintro ⟨rest, rfl⟩
    rw [String.toList_append]
    exact List.prefix_append ..

theorem Longest.begins (h : r.Longest counts text f) : f.verb.toList <+: text.toList :=
  begins_iff.2 ⟨f.rest, h.text_eq⟩

/-- Beginnings of a text that are equally long are the same. -/
theorem eq_of_begins {v w : String} (hv : v.toList <+: text.toList) (hw : w.toList <+: text.toList)
    (hl : v.length = w.length) : v = w := by
  rw [← String.length_toList, ← String.length_toList] at hl
  have hbegins := List.prefix_of_prefix_length_le hv hw (Nat.le_of_eq hl)
  exact String.toList_injective (hbegins.eq_of_length hl)

theorem Longest.unique (hf : r.Longest counts text f) (hg : r.Longest counts text g) : f = g := by
  have hle := hg.longest _ _ hf.registered hf.counted hf.begins
  have hge := hf.longest _ _ hg.registered hg.counted hg.begins
  have hverb : f.verb = g.verb := eq_of_begins hf.begins hg.begins (Nat.le_antisymm hle hge)
  obtain ⟨verb, c, rest⟩ := f
  obtain ⟨verb', c', rest'⟩ := g
  cases hverb
  have hc : some c = some c' := hf.registered.symm.trans hg.registered
  have hrest : verb ++ rest = verb ++ rest' := hf.text_eq.trans hg.text_eq.symm
  simp_all

theorem Answers.unique {a b : Option Found} (ha : r.Answers counts text a)
    (hb : r.Answers counts text b) : a = b := by
  rcases ha with ⟨f, rfl, hf⟩ | ⟨hnone, rfl⟩ <;> rcases hb with ⟨g, rfl, hg⟩ | ⟨hnone', rfl⟩
  · rw [hf.unique hg]
  · exact absurd hf.begins (hnone' _ _ hf.registered hf.counted)
  · exact absurd hg.begins (hnone _ _ hg.registered hg.counted)
  · rfl

/-- Only which verb stands for which command matters, not the order of the verbs. -/
theorem Answers.congr {q : Registry} {a : Option Found} (h : q.Answers counts text a)
    (hfallback : q.fallback = r.fallback) (hverbs : ∀ verb, q.verbs.get? verb = r.verbs.get? verb) :
    r.Answers counts text a := by
  rcases h with ⟨f, rfl, hf⟩ | ⟨hnone, rfl⟩
  · refine .inl ⟨f, rfl, { hf with registered := ?_, longest := fun verb c hc => ?_ }⟩
    · rw [← hverbs, hf.registered]
    · exact hf.longest verb c ((hverbs verb).trans hc)
  · refine .inr ⟨fun verb c hc => hnone verb c ((hverbs verb).trans hc), ?_⟩
    rw [hfallback, hverbs]

/-! ## Looking a token up -/

theorem rest?_eq_some_iff {verb rest : String} :
    rest? verb text = some rest ↔ verb ++ rest = text := by
  rw [rest?, Option.map_eq_some_iff]
  constructor
  · rintro ⟨cs, hcs, rfl⟩
    refine String.toList_injective ?_
    simpa using List.isPrefixOf?_eq_some_iff_append_eq.1 hcs
  · rintro rfl
    refine ⟨rest.toList, List.isPrefixOf?_eq_some_iff_append_eq.2 ?_, String.ofList_toList⟩
    rw [String.toList_append]

/-- One of the two is taken, and none is longer. -/
theorem longer_eq_some (best : Option Found) (g : Found) : ∃ f, longer best g = some f ∧
    f ∈ best.toList ++ [g] ∧ ∀ b ∈ best.toList ++ [g], b.verb.length ≤ f.verb.length := by
  cases best with
  | none => exact ⟨g, rfl, by simp, by simp⟩
  | some b =>
    rw [longer]
    split
    · rename_i hlt
      refine ⟨b, rfl, by simp, fun c hc => ?_⟩
      rcases List.mem_cons.1 hc with rfl | hc
      · exact Nat.le_refl _
      · rw [List.mem_singleton.1 hc]
        exact Nat.le_of_lt hlt
    · rename_i hge
      refine ⟨g, rfl, by simp, fun c hc => ?_⟩
      rcases List.mem_cons.1 hc with rfl | hc
      · exact Nat.le_of_not_lt hge
      · exact List.mem_singleton.1 hc ▸ Nat.le_refl _

/-- Of all that was found one is taken, and none is longer. -/
theorem foldl_longer (fs : List Found) (best : Option Found) :
    best.toList ++ fs = [] ∧ fs.foldl longer best = none ∨
      ∃ f, fs.foldl longer best = some f ∧ f ∈ best.toList ++ fs ∧
        ∀ g ∈ best.toList ++ fs, g.verb.length ≤ f.verb.length := by
  induction fs generalizing best with
  | nil =>
    cases best with
    | none => exact .inl ⟨rfl, rfl⟩
    | some b => exact .inr ⟨b, rfl, by simp, by simp⟩
  | cons g fs ih =>
    obtain ⟨b, hb, hmem, hmax⟩ := longer_eq_some best g
    rw [List.foldl_cons, hb, List.append_cons]
    obtain ⟨hnil, -⟩ | ⟨f, hf, hfmem, hfmax⟩ := ih (some b)
    · cases hnil
    · refine .inr ⟨f, hf, ?_, fun c hc => ?_⟩
      · rcases List.mem_cons.1 hfmem with rfl | hfmem
        · exact List.mem_append_left _ hmem
        · exact List.mem_append_right _ hfmem
      · rcases List.mem_append.1 hc with hc | hc
        · exact Nat.le_trans (hmax c hc) (hfmax b List.mem_cons_self)
        · exact hfmax c (List.mem_cons_of_mem _ hc)

/-- The verbs that a text begins with, without the fallback verb. -/
theorem mem_found_iff (h : r.verbs.Distinct) : f ∈ (r.verbs.entries.filterMap fun (verb, c) =>
      if verb = r.fallback then none else (rest? verb text).map (⟨verb, c, ·⟩)) ↔
    r.verbs.get? f.verb = some f.command ∧ f.verb ≠ r.fallback ∧ f.verb ++ f.rest = text := by
  rw [List.mem_filterMap, Store.get?_eq_some_iff h]
  constructor
  · rintro ⟨⟨verb, c⟩, he, hf⟩
    simp only at hf
    split at hf
    · cases hf
    · rename_i hne
      obtain ⟨rest, hrest, rfl⟩ := Option.map_eq_some_iff.1 hf
      exact ⟨he, hne, rest?_eq_some_iff.1 hrest⟩
  · rintro ⟨he, hne, htext⟩
    refine ⟨(f.verb, f.command), he, ?_⟩
    simp only [if_neg hne, rest?_eq_some_iff.2 htext]
    rfl

/-- A token calls what the rule gives if the fallback verb does not count. -/
theorem answers_lookup (h : r.verbs.Distinct) (text : String) :
    r.Answers (· ≠ r.fallback) text (r.lookup text) := by
  rw [lookup]
  obtain ⟨hnil, hnone⟩ | ⟨f, hf, hmem, hmax⟩ := foldl_longer
    (r.verbs.entries.filterMap fun (verb, c) =>
      if verb = r.fallback then none else (rest? verb text).map (⟨verb, c, ·⟩)) none
  · refine .inr ⟨fun verb c hc hne hbegins => ?_, by rw [hnone]⟩
    obtain ⟨rest, hrest⟩ := begins_iff.1 hbegins
    have hfound := (mem_found_iff (f := ⟨verb, c, rest⟩) h).2 ⟨hc, hne, hrest⟩
    rw [Option.toList_none, List.nil_append] at hnil
    rw [hnil] at hfound
    cases hfound
  · obtain ⟨hc, hne, htext⟩ := (mem_found_iff h).1 hmem
    rw [hf]
    refine .inl ⟨f, rfl, hc, hne, htext, fun verb c hc hne hbegins => ?_⟩
    obtain ⟨rest, hrest⟩ := begins_iff.1 hbegins
    exact hmax ⟨verb, c, rest⟩ ((mem_found_iff h).2 ⟨hc, hne, hrest⟩)

/-- A fallback verb that is registered and begins the text, as long as any other that does. -/
theorem longest_fallback {c : Command} (hc : r.verbs.get? r.fallback = some c) {rest : String}
    (hrest : r.fallback ++ rest = text) (hmax : ∀ verb c, r.verbs.get? verb = some c →
      verb.toList <+: text.toList → verb.length ≤ r.fallback.length) :
    r.Longest (fun _ => True) text ⟨r.fallback, c, rest⟩ :=
  ⟨hc, trivial, hrest, fun verb c hc _ => hmax verb c hc⟩

/-- A token that passes the fallback verb calls it by the rule in which all verbs count, and not by
the rule in which that one does not. -/
theorem PassesFallback.not_answers (h : r.PassesFallback text) {a : Option Found}
    (ha : r.Answers (· ≠ r.fallback) text a) : ¬r.Answers (fun _ => True) text a := by
  intro hall
  obtain ⟨c, hc⟩ := h.registered
  obtain ⟨rest, hrest⟩ := begins_iff.1 h.begins
  have hlongest := longest_fallback hc hrest h.longest
  obtain rfl : a = some ⟨r.fallback, c, rest⟩ := hall.unique (.inl ⟨_, rfl, hlongest⟩)
  rcases ha with ⟨f, hf, hlf⟩ | ⟨-, hwhole⟩
  · cases hf
    exact hlf.counted rfl
  · rw [hc, Option.map_some] at hwhole
    cases hwhole
    have hlength : (r.fallback ++ text).length = text.length := congrArg String.length hrest
    rw [String.length_append] at hlength
    exact h.not_blank (String.length_eq_zero_iff.1 (by omega))

/-- A fallback verb that is not passed over although a text begins with it is outdone. -/
theorem exists_longer (h : ¬r.PassesFallback text) {c : Command}
    (hc : r.verbs.get? r.fallback = some c) (hbegins : r.fallback.toList <+: text.toList)
    (hblank : r.fallback ≠ "") : ∃ verb c', r.verbs.get? verb = some c' ∧ verb ≠ r.fallback ∧
      verb.toList <+: text.toList ∧ r.fallback.length < verb.length := by
  by_contra hno
  refine h ⟨⟨c, hc⟩, hblank, hbegins, fun verb c' hc' hverb => Nat.le_of_not_lt fun hlt => ?_⟩
  have hne : verb ≠ r.fallback := by
    rintro rfl
    exact Nat.lt_irrefl _ hlt
  exact hno ⟨verb, c', hc', hne, hverb, hlt⟩

/-- Where the fallback verb is not passed over, it does not matter whether it counts. -/
theorem Answers.all (h : ¬r.PassesFallback text) {a : Option Found}
    (ha : r.Answers (· ≠ r.fallback) text a) : r.Answers (fun _ => True) text a := by
  rcases ha with ⟨f, rfl, hf⟩ | ⟨hnone, rfl⟩
  · refine .inl ⟨f, rfl, hf.registered, trivial, hf.text_eq, fun verb c hc _ hbegins => ?_⟩
    by_cases hv : verb = r.fallback
    · subst hv
      by_cases hblank : r.fallback = ""
      · simp [hblank]
      · obtain ⟨w, c', hc', hw, hbegins', hlt⟩ := exists_longer h hc hbegins hblank
        exact Nat.le_trans (Nat.le_of_lt hlt) (hf.longest w c' hc' hw hbegins')
    · exact hf.longest verb c hc hv hbegins
  · by_cases hbegins : ∃ c, r.verbs.get? r.fallback = some c ∧ r.fallback.toList <+: text.toList
    · -- only a blank fallback verb is not outdone, and it leaves the whole text as well
      obtain ⟨c, hc, hbegins⟩ := hbegins
      have hblank : r.fallback = "" := by
        by_contra hne
        obtain ⟨w, c', hc', hw, hbegins', -⟩ := exists_longer h hc hbegins hne
        exact hnone w c' hc' hw hbegins'
      have hwhole : r.fallback ++ text = text := by simp [hblank]
      refine .inl ⟨_, by rw [hc]; rfl, longest_fallback hc hwhole fun verb c hc hverb => ?_⟩
      by_cases hv : verb = r.fallback
      · exact Nat.le_of_eq (congrArg String.length hv)
      · exact absurd hverb (hnone verb c hc hv)
    · refine .inr ⟨fun verb c hc _ hverb => ?_, rfl⟩
      by_cases hv : verb = r.fallback
      · exact hbegins ⟨c, hv ▸ hc, hv ▸ hverb⟩
      · exact hnone verb c hc hv hverb

/-- A token is answered by the rule in which all verbs count but the fallback verb, and by the rule
in which that one counts too unless it is passed over. Either rule has one answer at most, and
registries with the same verbs answer alike, in whatever order the verbs were registered. -/
theorem lookup_built (h : r.Built) (text : String) :
    r.verbs.Distinct ∧ r.Answers (· ≠ r.fallback) text (r.lookup text) ∧
      (r.Answers (fun _ => True) text (r.lookup text) ↔ ¬r.PassesFallback text) ∧
      (∀ counts a b, r.Answers counts text a → r.Answers counts text b → a = b) ∧
      ∀ q : Registry, q.Built → q.fallback = r.fallback →
        (∀ verb, q.verbs.get? verb = r.verbs.get? verb) → q.lookup text = r.lookup text := by
  have hd := built_iff.1 h
  have hanswers := answers_lookup hd text
  refine ⟨hd, hanswers, ⟨fun hall hp => hp.not_answers hanswers hall, hanswers.all⟩,
    fun _ _ _ ha hb => ha.unique hb, fun q hq hfallback hverbs => ?_⟩
  have hq := (answers_lookup (built_iff.1 hq) text).congr hfallback hverbs
  rw [hfallback] at hq
  exact hq.unique hanswers

/-- The verbs of the prompt, and another name for the verb of bare tokens. -/
def withBare : Registry :=
  Session.withAliases standard [⟨"e:", bareVerb⟩]

theorem lookup_built_withBare :
    withBare.Built ∧ withBare.lookup "e:add" = some ⟨"e:", .bare, "add"⟩ ∧
      withBare.Answers (· ≠ bareVerb) "e:add" (some ⟨"e:", .bare, "add"⟩) := by
  have hbuilt : withBare.Built := built_standard.withAliases _
  have hlookup : withBare.lookup "e:add" = some ⟨"e:", .bare, "add"⟩ := by decide +kernel
  obtain ⟨-, hanswers, -⟩ := lookup_built hbuilt "e:add"
  exact ⟨hbuilt, hlookup, hlookup ▸ hanswers⟩

/-- No other verb of the prompt begins with the first letter of the verb of bare tokens. -/
theorem eq_bareVerb_of_begins {verb rest : String} {c : Command}
    (hc : standard.verbs.get? verb = some c)
    (hbegins : verb.toList <+: (bareVerb ++ rest).toList) : verb = bareVerb := by
  have hfirst : ∀ e ∈ standard.verbs.entries,
      e.1 = bareVerb ∨ e.1.toList ≠ [] ∧ e.1.toList.head? ≠ some 'e' := by
    decide +kernel
  have hmem := (Store.get?_eq_some_iff (built_iff.1 built_standard)).1 hc
  refine (hfirst _ hmem).resolve_right fun ⟨hnil, hhead⟩ => ?_
  rw [String.toList_append, show bareVerb.toList = 'e' :: "mpty:".toList from rfl,
    List.cons_append] at hbegins
  cases hverb : verb.toList with
  | nil => exact hnil hverb
  | cons x xs =>
    rw [hverb, List.cons_prefix_cons] at hbegins
    refine hhead ?_
    rw [hverb, hbegins.1]
    rfl

/-- Tokens that begin with the verb of bare tokens are left whole. -/
theorem lookup_bareVerb (rest : String) : standard.lookup (bareVerb ++ rest) =
    some ⟨bareVerb, .bare, bareVerb ++ rest⟩ := by
  refine (answers_lookup (built_iff.1 built_standard) _).unique (.inr ⟨?_, ?_⟩)
  · exact fun verb c hc hne hbegins => hne (eq_bareVerb_of_begins hc hbegins)
  · rfl

/-- No verb of the prompt begins another one. -/
theorem eq_of_verb_begins {v w : String} {c c' : Command} (hv : standard.verbs.get? v = some c)
    (hw : standard.verbs.get? w = some c') (hbegins : v.toList <+: w.toList) : v = w := by
  have hapart : ∀ e ∈ standard.verbs.entries, ∀ f ∈ standard.verbs.entries,
      e.1.toList <+: f.1.toList → e.1 = f.1 := by
    decide +kernel
  have hd := built_iff.1 built_standard
  exact hapart _ ((Store.get?_eq_some_iff hd).1 hv) _ ((Store.get?_eq_some_iff hd).1 hw) hbegins

/-- So each verb but that of bare tokens is called by all tokens that begin with it. -/
theorem lookup_verb {verb : String} {c : Command} (hc : standard.verbs.get? verb = some c)
    (hne : verb ≠ bareVerb) (rest : String) :
    standard.lookup (verb ++ rest) = some ⟨verb, c, rest⟩ := by
  refine (answers_lookup (built_iff.1 built_standard) _).unique (.inl ⟨_, rfl, ?_⟩)
  refine ⟨hc, hne, rfl, fun w c' hc' _ hbegins => Nat.le_of_not_lt fun hlt => ?_⟩
  have hlength : verb.toList.length ≤ w.toList.length := by
    rw [String.length_toList, String.length_toList]
    exact Nat.le_of_lt hlt
  have hverb : verb.toList <+: (verb ++ rest).toList := begins_iff.2 ⟨rest, rfl⟩
  obtain rfl := eq_of_verb_begins hc hc' (List.prefix_of_prefix_length_le hverb hbegins hlength)
  exact Nat.lt_irrefl _ hlt

/-- Tokens that are taken for bare ones are left whole. -/
theorem rest_of_bare {text : String} {f : Found} (h : standard.lookup text = some f)
    (hbare : f.command = .bare) : f.rest = text := by
  have hverb : ∀ e ∈ standard.verbs.entries, e.2 = .bare → e.1 = bareVerb := by decide +kernel
  rcases answers_lookup (built_iff.1 built_standard) text with ⟨g, hg, hlongest⟩ | ⟨-, hwhole⟩
  · cases h.symm.trans hg
    have hmem := (Store.get?_eq_some_iff (built_iff.1 built_standard)).1 hlongest.registered
    exact absurd (hverb _ hmem hbare) hlongest.counted
  · rw [h] at hwhole
    obtain ⟨c, -, hf⟩ := Option.map_eq_some_iff.1 hwhole.symm
    rw [← hf]

/-- The verb of bare tokens is registered, but it is not what a token that begins with it calls. -/
theorem not_answers_bareVerb : standard.Built ∧
    ¬standard.Answers (fun _ => True) "empty:add" (standard.lookup "empty:add") := by
  refine ⟨built_standard, ?_⟩
  have hbare : standard.verbs.get? bareVerb = some .bare := rfl
  rw [show "empty:add" = bareVerb ++ "add" from rfl, lookup_bareVerb]
  rintro (⟨f, hf, hlongest⟩ | ⟨hnone, -⟩)
  · cases hf
    exact absurd hlongest.text_eq (by decide)
  · exact hnone bareVerb .bare hbare trivial (begins_iff.2 ⟨"add", rfl⟩)

end Registry

end GraphDraft

import SymbolSieve.Proofs.Presets.Stored
import SymbolSieve.Proofs.Query.RoundTrip
import SymbolSieve.Proofs.Selection.Demands
import SymbolSieve.Proofs.Selection.Requested
import SymbolSieve.Service.Presets

/-!
# What is left of filters that were saved

A preset that is created from filters keeps their canonical query, in which nothing is quoted.  So a
value with white space in it falls into several words, a value that looks like a labelled word is
read as one, and a kind that is no word of the vocabulary is dropped.  The preset means the same as
the filters exactly if what is read back asks for the same, which no such accident may have
changed.

## What is here

* `query_of_created`: a preset that is created from filters has their canonical query.
* `Filters.KeepsMeaning`: the query of a preset can be read, and selects what filters select.
* `Filters.IsPlain`: filters that are safe to write down; `IsPlain.parse_canonical` reads them back.
* `Filters.IsPlainUpToCase`: filters that may happen to be kept.
* `created_keepsMeaning_iff`: when a created preset means the same as its filters.
* `meaning_lost_on_spaced_pattern`: a pattern with a space, whose preset selects other records.
-/

set_option autoImplicit false

namespace SymbolSieve

open Text Query Desk

/-! ## Creating presets -/

namespace PresetStore

variable {h : Handle} {key name query : String} {d d' : Desk} {p : Preset}

theorem query_of_add (hadd : (add h key name query).run d = (.ok p, d')) : p.query = query := by
  rw [add] at hadd
  rcases happend : (append h key (.text name) (.text query)).run d with ⟨id | id, d₁⟩
  · rw [run_bind_error happend] at hadd
    cases hadd
  · rw [run_bind_ok happend] at hadd
    cases hadd
    rfl

/-- A created preset is one that was added with the query of the form, and after that nothing is
stored any more. -/
theorem exists_add_of_created {f : PresetForm} {reply : Reply}
    (hcreated : (Service.createPreset h f).run d = (.ok reply, d')) (hstatus : reply.status = 201) :
    ∃ query p d₁, f.queryText = .ok query ∧
      (add h Vocabulary.presetsKey (trim f.name) query).run d = (.ok p, d₁) ∧
        reply = .created (.map p.entries) ∧ d'.storage = d₁.storage := by
  rw [Service.createPreset] at hcreated
  cases hquery : f.queryText with
  | error fault =>
    rw [hquery] at hcreated
    cases hcreated
  | ok query =>
    have hgives : (liftM (Except.ok query : Except ValueFault String) : Attempt String).run d =
        (.ok query, d) := rfl
    rw [hquery, run_bind_ok hgives] at hcreated
    split at hcreated
    · cases hcreated
      cases hstatus
    · split at hcreated
      · cases hcreated
        cases hstatus
      · rcases hadd : (add h Vocabulary.presetsKey (trim f.name) query).run d with ⟨e | p, d₁⟩
        · rw [run_bind_error hadd] at hcreated
          cases hcreated
        · rw [run_bind_ok hadd] at hcreated
          refine ⟨query, p, d₁, rfl, hadd, ?_⟩
          cases hcreated
          exact ⟨rfl, rfl⟩

/-- **A preset that is created from filters has their canonical query.** -/
theorem query_of_created {g : Filters}
    (hcreated : (Service.createPreset h ⟨name, none, some g.spec⟩).run d =
      (.ok (.created (.map p.entries)), d')) :
    canonical g.spec = .ok p.query := by
  obtain ⟨query, p', d₁, hquery, hadd, hreply, -⟩ := exists_add_of_created hcreated rfl
  -- The entries of a preset determine it.
  obtain rfl : p = p' := by simpa using congrArg Preset.ofValue (Reply.created.inj hreply)
  rw [query_of_add hadd]
  exact hquery

/-- On healthy storage that holds nothing yet, a preset with a name and a query is created. -/
theorem exists_created (hd : Good h d) (hraw : Storage.raw Vocabulary.presetsKey d.storage = .null)
    (hclock : ∃ ms, millisOf d.clock = .ok ms) {f : PresetForm}
    (hname : trim f.name ≠ "") (hquery : f.queryText = .ok query) (hne : query ≠ "") :
    ∃ (p : Preset) (d' : Desk),
      (Service.createPreset h f).run d = (.ok (.created (.map p.entries)), d') ∧
        p.query = query := by
  have hadded : ∃ p d₁,
      (add h Vocabulary.presetsKey (trim f.name) query).run d = (.ok p, d₁) := by
    have hresult := (simulates_add Vocabulary.presetsKey (trim f.name) query).result_eq hd
    have hlist : presetsOf Vocabulary.presetsKey ((view d).contents Vocabulary.presetsKey) =
        .ok Preset.builtIn := by
      rw [show (view d).contents Vocabulary.presetsKey = .null from hraw]
      rfl
    obtain ⟨ms, hclock⟩ := hclock
    rw [addView, hlist, show millisOf (view d).clock = .ok ms from hclock] at hresult
    exact ⟨_, _, Prod.ext hresult rfl⟩
  obtain ⟨p, d₁, hadd⟩ := hadded
  have hgives : (liftM (Except.ok query : Except ValueFault String) : Attempt String).run d =
      (.ok query, d) := rfl
  have hcreated : ∃ d', (Service.createPreset h f).run d =
      (.ok (.created (.map p.entries)), d') := by
    rw [Service.createPreset, hquery, run_bind_ok hgives, if_neg (by simpa using hname),
      if_neg (by simpa using hne), run_bind_ok hadd]
    exact ⟨_, rfl⟩
  obtain ⟨d', hd'⟩ := hcreated
  exact ⟨p, d', hd', query_of_add hadd⟩

end PresetStore

namespace Filters

/-! ## Filters that are safe to write down -/

/-- The query of a preset can be read, and selects what filters select. -/
def KeepsMeaning (g : Filters) (p : Preset) : Prop :=
  ∃ s, parse p.query = .ok s ∧ SameSelection g.spec s

/-- Filters that can be written down as they are: the search text is words without labels, with one
space between neighbours, the kind is a word of the vocabulary, and there is no white space in state
and pattern.  The state need not be a word of the vocabulary. -/
structure IsPlain (g : Filters) : Prop where
  search : IsJoined g.search
  free : ∀ w ∈ words g.search, IsFree w
  kind : g.kind ∈ Vocabulary.kindWords
  state : ∀ c ∈ g.state.toList, isBlank c = false
  file : ∀ c ∈ g.file.toList, isBlank c = false

/-- Filters that could be plain if case did not matter and if the search text, being found in every
path that is allowed, did not matter, whatever their state. -/
structure IsPlainUpToCase (g : Filters) : Prop where
  search : (∃ t, IsJoined t ∧ (∀ w ∈ words t, IsFree w) ∧ lower g.search = lower t) ∨
    ∀ path, g.allowsPath path = true → g.finds path = true
  kind : lower g.kind ∈ Vocabulary.kindWords
  file : ∀ c ∈ g.file.toList, isBlank c = false

/-- The state that is left when an unknown one is dropped. -/
def knownState (state : String) : String :=
  if state ∈ Vocabulary.stateWords then state else "all"

/-- What is read back of plain filters: a state that is unknown and an entry field that asks for
nothing are dropped. -/
def readBack (g : Filters) : Filters :=
  { g with
    state := knownState g.state
    entry := if g.entry = some false then none else g.entry }

variable {g : Filters}

theorem asksSame_readBack (g : Filters) : g.AsksSame g.readBack where
  kind := rfl
  mark := by
    simp only [mark, readBack, knownState]
    split_ifs <;> simp_all [Vocabulary.stateWords, Vocabulary.states]
  entry := by
    simp only [asksEntry, readBack, knownState]
    split_ifs <;> simp_all [Vocabulary.stateWords, Vocabulary.states]
  minRefs := rfl
  maxRefs := rfl
  hasCallers := rfl
  hasCallees := rfl
  path _ := rfl
  search := .inl rfl

/-- A state without white space is one word, which sets the state if it is known. -/
theorem tells_knownState {state : String} (hblank : ∀ c ∈ state.toList, isBlank c = false) :
    Tells (unlessThat ((Value.text state).equal (.text "all")) "state:" (.text state)) .state
      (.text (knownState state)) := by
  by_cases hknown : state ∈ Vocabulary.stateWords
  · rw [knownState, if_pos hknown]
    exact tells_state (.inr ⟨state, hknown, rfl⟩)
  · rw [knownState, if_neg hknown]
    by_cases hall : state = "all"
    · subst hall
      exact tells_nothing .state
    · have hwords : unlessThat ((Value.text state).equal (.text "all")) "state:" (.text state)
          = .ok ["state:" ++ state] := by
        simp [unlessThat, hall, labelled, Except.map]
      have hsets : Label.state.settings state.toList = .ok [] := by simp [Label.settings, hknown]
      refine ⟨_, [], hwords, says_labelled .state state.toList String.toList_append hblank hsets,
        fun t ht => ?_⟩
      rw [show Value.text "all" = t.get .state from ht.symm, set_get_self]
      rfl

theorem writable_of_labelled {label w : String} {n : Int} (h : labelled label (.int n) = .ok w) :
    n.natAbs < 10 ^ digitLimit := by
  obtain ⟨t, ht, -⟩ := map_eq_ok_iff.1 h
  by_contra hlong
  have hunwritable : writableInt n = false := by
    rw [Bool.eq_false_iff, Ne, writableInt_iff]
    exact hlong
  have hshown : (Value.int n).shown = .error .tooManyDigits := by
    simp [Value.shown, Value.quoted, intShown, hunwritable]
  rw [hshown] at ht
  cases ht

/-- A bound that is there is written. -/
theorem writable_of_unlessThat {label : String} {o : Option Int} {ws : List String}
    (h : unlessThat ((o.map Value.int).getD .null).isNull label ((o.map .int).getD .null) =
      .ok ws) : ∀ n ∈ o, n.natAbs < 10 ^ digitLimit := by
  rintro n rfl
  have hword : (labelled label (.int n)).map ([·]) = .ok ws := h
  obtain ⟨w, hw, -⟩ := map_eq_ok_iff.1 hword
  exact writable_of_labelled hw

/-- Bounds that are written have no more digits than are read. -/
theorem writable_of_refsWords {ws : List String} (h : refsWords g.spec = .ok ws) :
    (∀ n ∈ g.minRefs, n.natAbs < 10 ^ digitLimit) ∧
      ∀ n ∈ g.maxRefs, n.natAbs < 10 ^ digitLimit := by
  rw [refsWords] at h
  split at h
  next hequal =>
    -- Both bounds are there and equal, and they are written as one.
    obtain ⟨w, hw, -⟩ := map_eq_ok_iff.1 h
    cases hmin : g.minRefs with
    | none => simp [spec, hmin, Value.isNull] at hequal
    | some m =>
      simp only [spec, hmin, Option.map_some, Option.getD_some] at hw hequal
      have hm := writable_of_labelled hw
      cases hmax : g.maxRefs with
      | none => simpa using hm
      | some n =>
        obtain rfl : m = n := by simpa [hmax, Value.isNull] using hequal
        exact ⟨by simpa using hm, by simpa using hm⟩
  next =>
    obtain ⟨low, hlow, h⟩ := bind_eq_ok_iff.1 h
    obtain ⟨high, hhigh, -⟩ := bind_eq_ok_iff.1 h
    exact ⟨writable_of_unlessThat hlow, writable_of_unlessThat hhigh⟩

theorem writable_of_canonical {q : String} (h : canonical g.spec = .ok q) :
    (∀ n ∈ g.minRefs, n.natAbs < 10 ^ digitLimit) ∧
      ∀ n ∈ g.maxRefs, n.natAbs < 10 ^ digitLimit := by
  obtain ⟨rest, hrest, -⟩ := bind_eq_ok_iff.1 h
  obtain ⟨kind, -, hrest⟩ := bind_eq_ok_iff.1 hrest
  obtain ⟨state, -, hrest⟩ := bind_eq_ok_iff.1 hrest
  obtain ⟨file, -, hrest⟩ := bind_eq_ok_iff.1 hrest
  obtain ⟨refs, hrefs, -⟩ := bind_eq_ok_iff.1 hrest
  exact writable_of_refsWords hrefs

theorem admits_bound_of_writable {o : Option Int} (h : ∀ n ∈ o, n.natAbs < 10 ^ digitLimit) :
    (o.map Value.int).getD .null = .null ∨
      ∃ n : Int, (o.map Value.int).getD .null = .int n ∧ n.natAbs < 10 ^ digitLimit := by
  cases o with
  | none => exact .inl rfl
  | some n => exact .inr ⟨n, rfl, h n rfl⟩

theorem IsPlain.wellFormed (hg : g.IsPlain) {q : String} (hq : canonical g.spec = .ok q) :
    WellFormed (g.spec.set .state (.text (knownState g.state))) := by
  obtain ⟨hmin, hmax⟩ := writable_of_canonical hq
  intro f
  cases f with
  | search => exact ⟨g.search, rfl, hg.search, hg.free⟩
  | kind => exact ⟨g.kind, hg.kind, rfl⟩
  | state =>
    rw [Spec.get_set_self, knownState]
    split
    next hknown => exact .inr ⟨g.state, hknown, rfl⟩
    next => exact .inl rfl
  | file => exact ⟨g.file, rfl, hg.file⟩
  | minRefs => exact admits_bound_of_writable hmin
  | maxRefs => exact admits_bound_of_writable hmax
  | hasCallers | hasCallees | entry => exact isOwn_getD _

/-- **Plain filters are read back**, but for what asks for nothing. -/
theorem IsPlain.parse_canonical (hg : g.IsPlain) {q : String} (hq : canonical g.spec = .ok q) :
    parse q = .ok g.readBack.spec := by
  obtain ⟨t, ht, hparse⟩ := parse_canonical_of_tells (s := g.spec) (tells_knownState hg.state)
    (hg.wellFormed hq)
  obtain rfl : t = q := Except.ok.inj (ht.symm.trans hq)
  rw [hparse]
  refine congrArg Except.ok ?_
  obtain ⟨search, kind, state, file, minRefs, maxRefs, hasCallers, hasCallees, entry⟩ := g
  rcases entry with _ | _ | _ <;> rfl

/-! ## When the meaning is kept -/

variable {p : Preset}

/-- The meaning is kept exactly if what is read back asks for the same. -/
theorem keepsMeaning_iff : g.KeepsMeaning p ↔ ∃ g' : Filters, parse p.query = .ok g'.spec ∧
    (g.Impossible ∧ g'.Impossible ∨ g.AsksSame g') := by
  constructor
  · rintro ⟨s, hs, hsame⟩
    obtain ⟨g', rfl⟩ := exists_spec_of_parse hs
    exact ⟨g', hs, sameSelection_iff.1 hsame⟩
  · rintro ⟨g', hs, hsame⟩
    exact ⟨g'.spec, hs, sameSelection_iff.2 hsame⟩

theorem IsPlain.keepsMeaning (hg : g.IsPlain) (hp : canonical g.spec = .ok p.query) :
    g.KeepsMeaning p :=
  keepsMeaning_iff.2 ⟨g.readBack, hg.parse_canonical hp, .inr (asksSame_readBack g)⟩

/-- A query describes well-formed filters, so filters that ask for the same are well formed up to
what cannot be told apart. -/
theorem isPlainUpToCase_of_asksSame {g' : Filters} {q : String} (hq : parse q = .ok g'.spec)
    (h : g.AsksSame g') : g.IsPlainUpToCase := by
  have hwell := wellFormed_of_parse hq
  refine ⟨?_, ?_, fun c hc => ?_⟩
  · obtain ⟨t, ht, hjoined, hfree⟩ := hwell .search
    obtain rfl : g'.search = t := by simpa [spec, Spec.get] using ht
    rcases h.search with hneedle | hall
    · exact .inl ⟨g'.search, hjoined, hfree, String.toList_inj.1 hneedle⟩
    · exact .inr fun path hpath => (hall path hpath).1
  · obtain ⟨k, hk, hkind⟩ := hwell .kind
    obtain rfl : g'.kind = k := by simpa [spec, Spec.get] using hkind
    have hlower : ∀ k ∈ Vocabulary.kindWords, lower k = k := by decide
    have hasked := h.kind
    simp only [kindAsked] at hasked
    split_ifs at hasked with hall hall'
    · rw [hall]
      decide
    · rw [Option.some.inj hasked, hlower _ hk]
      exact hk
  · rw [Bool.eq_false_iff]
    intro hblank
    obtain ⟨d, hd, hdblank⟩ := exists_isBlank_file h.path hc hblank
    obtain ⟨file, hfile, hnone⟩ := hwell .file
    obtain rfl : g'.file = file := by simpa [spec, Spec.get] using hfile
    rw [hnone d hd] at hdblank
    cases hdblank

theorem isPlainUpToCase_of_keepsMeaning (hkept : g.KeepsMeaning p) (hpossible : ¬ g.Impossible) :
    g.IsPlainUpToCase := by
  obtain ⟨g', hparse, ⟨himpossible, -⟩ | hsame⟩ := keepsMeaning_iff.1 hkept
  · exact absurd himpossible hpossible
  · exact isPlainUpToCase_of_asksSame hparse hsame

/-- **When a preset that is created from filters means the same as these.**  It does exactly if
their canonical query can be read and asks for the same, or if both ask for an impossible number of
references.  That is always so for plain filters, and if the bounds are possible, only for filters
that are plain up to case. -/
theorem created_keepsMeaning_iff {h : Handle} {name : String} {d d' : Desk}
    (hcreated : (Service.createPreset h ⟨name, none, some g.spec⟩).run d =
      (.ok (.created (.map p.entries)), d')) :
    (g.KeepsMeaning p ↔ ∃ (query : String) (g' : Filters),
      canonical g.spec = .ok query ∧ parse query = .ok g'.spec ∧
        (g.Impossible ∧ g'.Impossible ∨ g.AsksSame g')) ∧
    (g.IsPlain → g.KeepsMeaning p) ∧
    (g.KeepsMeaning p → ¬ g.Impossible → g.IsPlainUpToCase) := by
  have hquery := PresetStore.query_of_created hcreated
  refine ⟨?_, fun hg => hg.keepsMeaning hquery, isPlainUpToCase_of_keepsMeaning⟩
  rw [keepsMeaning_iff]
  constructor
  · rintro ⟨g', hparse, hasks⟩
    exact ⟨p.query, g', hquery, hparse, hasks⟩
  · rintro ⟨query, g', hcanonical, hparse, hasks⟩
    obtain rfl : p.query = query := Except.ok.inj (hquery.symm.trans hcanonical)
    exact ⟨g', hparse, hasks⟩

/-- Filters that ask for functions with callers below a directory, in a state that is unknown. -/
def inSources : Filters where
  search := "trace run"
  kind := "function"
  state := "legacy"
  file := "src/trace"
  minRefs := none
  maxRefs := none
  hasCallers := some true
  hasCallees := none
  entry := some false

/-- A preset that is created from plain filters means the same, although the state is dropped. -/
theorem created_keepsMeaning_iff_inSources : ∃ (p : Preset) (d' : Desk),
    (Service.createPreset 0 ⟨"Sources", none, some inSources.spec⟩).run {} =
      (.ok (.created (.map p.entries)), d') ∧ inSources.KeepsMeaning p := by
  have hquery : canonical inSources.spec =
      .ok "trace run kind:function state:legacy file:src/trace has:callers" := rfl
  obtain ⟨p, d', hcreated, -⟩ := PresetStore.exists_created (h := 0) (d := {})
    (f := ⟨"Sources", none, some inSources.spec⟩) ⟨fun _ => rfl, fun _ => rfl⟩ rfl ⟨_, rfl⟩
    (by decide) hquery (by decide)
  have hplain : inSources.IsPlain :=
    { search := rfl
      free := by
        rw [show words inSources.search = ["trace", "run"] from rfl]
        intro w hw
        rcases List.mem_pair.1 hw with rfl | rfl
        · exact readWord_eq_free_iff.1 rfl
        · exact readWord_eq_free_iff.1 rfl
      kind := by decide
      state := fun _ => isBlank_of_any rfl
      file := fun _ => isBlank_of_any rfl }
  exact ⟨p, d', hcreated, (created_keepsMeaning_iff hcreated).2.1 hplain⟩

/-! ## A pattern with a space -/

/-- Filters that ask for the files of a directory with a space in its name. -/
def inSpacedDirectory : Filters where
  search := ""
  kind := "all"
  state := "all"
  file := "my dir/*"
  minRefs := none
  maxRefs := none
  hasCallers := none
  hasCallees := none
  entry := none

/-- Such a file is found by the filters, but the preset looks for other things. -/
theorem meaning_lost_on_spaced_pattern : ∃ (p : Preset) (d' : Desk),
    (Service.createPreset 0 ⟨"Mine", none, some inSpacedDirectory.spec⟩).run {} =
      (.ok (.created (.map p.entries)), d') ∧ p.query = "file:my dir/*" ∧
        ¬ inSpacedDirectory.KeepsMeaning p := by
  have hquery : canonical inSpacedDirectory.spec = .ok "file:my dir/*" := rfl
  obtain ⟨p, d', hcreated, hp⟩ := PresetStore.exists_created (h := 0) (d := {})
    (f := ⟨"Mine", none, some inSpacedDirectory.spec⟩) ⟨fun _ => rfl, fun _ => rfl⟩ rfl
    ⟨_, rfl⟩ (by decide) hquery (by decide)
  refine ⟨p, d', hcreated, hp, ?_⟩
  rintro ⟨s, hs, hsame⟩
  let readAs : Filters := { inSpacedDirectory with search := "dir/*", file := "my" }
  have hread : parse "file:my dir/*" = .ok readAs.spec := rfl
  obtain rfl : readAs.spec = s := Except.ok.inj (hread.symm.trans (hp ▸ hs))
  let symbol : Traits :=
    ⟨"x", "my dir/a.py", "function", ⟨none, false, false, false⟩, 0, 0⟩
  exact absurd (sameSelection_iff_accepts.1 hsame symbol) (by decide)

end Filters

end SymbolSieve

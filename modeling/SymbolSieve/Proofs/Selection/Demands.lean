import Mathlib.Data.List.Infix
import SymbolSieve.Proofs.Glob
import SymbolSieve.Proofs.Selection.Filters

/-!
# When filters select the same

Two choices of filters may differ in their values and still select the same from every list of
records: a kind may be written in capitals, an unknown state asks for nothing, entry points may be
asked for by the state or by the field for it.  What they ask for can be compared part by part,
because a record may have any traits, and a record that is selected stays selected when one of its
traits is changed to another one that is allowed.  Only two things are not independent: bounds that
no number is within make everything else irrelevant, and a search text may be found in every path
that is allowed.

## What is here

* `Filters.Impossible`: no number of references is within the bounds.
* `Filters.AsksSame`: two choices of filters ask for the same.
* `sameSelection_iff`: they select the same exactly if they ask for the same, or for the impossible.
-/

set_option autoImplicit false

namespace SymbolSieve

open Text Selection

namespace Filters

variable {g g' : Filters}

/-! ## What is asked for -/

/-- No number of references is within the bounds. -/
def Impossible (g : Filters) : Prop :=
  ∃ m n, g.minRefs = some m ∧ g.maxRefs = some n ∧ n < m

/-- Two choices of filters ask for the same: the same kind up to case, the same of the standing and
of the counts, paths that the same patterns describe, and the same search text up to case, unless
both search texts are in all of those paths. -/
structure AsksSame (g g' : Filters) : Prop where
  kind : g.kindAsked = g'.kindAsked
  mark : g.mark = g'.mark
  entry : g.asksEntry = g'.asksEntry
  minRefs : g.minRefs = g'.minRefs
  maxRefs : g.maxRefs = g'.maxRefs
  hasCallers : g.hasCallers = g'.hasCallers
  hasCallees : g.hasCallees = g'.hasCallees
  path : ∀ path, g.allowsPath path = g'.allowsPath path
  search : g.needle = g'.needle ∨
    ∀ path, g.allowsPath path = true → g.finds path = true ∧ g'.finds path = true

theorem allowsRefs_iff {n : Int} :
    g.allowsRefs n = true ↔ (∀ a ∈ g.minRefs, a ≤ n) ∧ ∀ b ∈ g.maxRefs, n ≤ b := by
  cases hmin : g.minRefs <;> cases hmax : g.maxRefs <;> simp [allowsRefs, hmin, hmax]

theorem accepts_of_impossible (h : g.Impossible) (t : Traits) : g.accepts t = false := by
  obtain ⟨m, n, hm, hn, hlt⟩ := h
  have hrefs : g.allowsRefs t.standing.count = false := by
    rw [Bool.eq_false_iff, Ne, allowsRefs_iff, hm, hn]
    rintro ⟨hmin, hmax⟩
    have := hmin m rfl
    have := hmax n rfl
    omega
  simp [accepts, allowsStanding, hrefs]

/-- Filters that ask for the same accept the same. -/
theorem AsksSame.accepts_eq (h : AsksSame g g') (t : Traits) : g.accepts t = g'.accepts t := by
  have hplace : g.allowsPlace t.name t.path = g'.allowsPlace t.name t.path := by
    rw [allowsPlace, allowsPlace, ← h.path]
    rcases h.search with hneedle | hall
    · simp only [finds, hneedle]
    · cases hpath : g.allowsPath t.path with
      | false => simp
      | true => simp [hall t.path hpath]
  simp only [accepts, hplace, allowsKind, h.kind, allowsStanding, h.mark, h.entry, allowsRefs,
    h.minRefs, h.maxRefs, h.hasCallers, h.hasCallees]

/-! ## Part by part -/

/-- The tests of two choices of filters agree on every part of the traits. -/
structure SameParts (g g' : Filters) : Prop where
  place : ∀ name path, g.allowsPlace name path = g'.allowsPlace name path
  kind : ∀ kind, g.allowsKind kind = g'.allowsKind kind
  standing : ∀ s, g.allowsStanding s = g'.allowsStanding s
  callers : ∀ n, allowsCount g.hasCallers n = allowsCount g'.hasCallers n
  callees : ∀ n, allowsCount g.hasCallees n = allowsCount g'.hasCallees n

/-- If some traits are accepted, a part of them can be changed to see the test of that part. -/
theorem sameParts_of_accepts (h : ∀ t, g.accepts t = g'.accepts t) {t : Traits}
    (ht : g.accepts t = true) : SameParts g g' := by
  have ht' : g'.accepts t = true := by rw [← h t, ht]
  simp only [accepts, Bool.and_eq_true] at ht ht'
  refine ⟨fun name path => ?_, fun kind => ?_, fun s => ?_, fun n => ?_, fun n => ?_⟩
  · simpa [accepts, ht, ht'] using h { t with name := name, path := path }
  · simpa [accepts, ht, ht'] using h { t with kind := kind }
  · simpa [accepts, ht, ht'] using h { t with standing := s }
  · simpa [accepts, ht, ht'] using h { t with callers := n }
  · simpa [accepts, ht, ht'] using h { t with callees := n }

/-! ### The counts -/

theorem exists_allowsCount (wanted : Option Bool) : ∃ n, allowsCount wanted n = true := by
  rcases wanted with _ | _ | _
  · exact ⟨0, rfl⟩
  · exact ⟨0, rfl⟩
  · exact ⟨1, rfl⟩

theorem eq_of_allowsCount {wanted wanted' : Option Bool}
    (h : ∀ n, allowsCount wanted n = allowsCount wanted' n) : wanted = wanted' := by
  have hzero := h 0
  have hone := h 1
  rcases wanted with _ | _ | _ <;> rcases wanted' with _ | _ | _ <;>
    simp [allowsCount] at hzero hone ⊢

/-! ### The kind -/

theorem lower_kind_of_kindAsked {k : String} (h : g.kindAsked = some k) : lower g.kind = k := by
  rw [kindAsked] at h
  split at h
  · cases h
  · exact Option.some.inj h

theorem allowsKind_kind (g : Filters) : g.allowsKind g.kind = true := by
  cases hasked : g.kindAsked with
  | none => simp [allowsKind, hasked]
  | some k => simp [allowsKind, hasked, lower_kind_of_kindAsked hasked]

/-- No kind is asked for if every kind is allowed, since two kinds may differ. -/
theorem kindAsked_eq_none_of_allowsKind (h : ∀ kind, g.allowsKind kind = true) :
    g.kindAsked = none := by
  cases hasked : g.kindAsked with
  | none => rfl
  | some k =>
    have hempty : lower "" = k := by simpa [allowsKind, hasked] using h ""
    have hletter : lower "a" = k := by simpa [allowsKind, hasked] using h "a"
    exact absurd (hempty.trans hletter.symm) (by decide)

theorem kindAsked_eq_of_allowsKind (h : ∀ kind, g.allowsKind kind = g'.allowsKind kind) :
    g.kindAsked = g'.kindAsked := by
  cases hasked : g.kindAsked with
  | none =>
    refine (kindAsked_eq_none_of_allowsKind fun kind => ?_).symm
    rw [← h kind, allowsKind, hasked]
    rfl
  | some k =>
    have hallowed : g'.allowsKind g.kind = true := by rw [← h, allowsKind_kind]
    cases hasked' : g'.kindAsked with
    | none =>
      have hnone := kindAsked_eq_none_of_allowsKind (g := g) fun kind => by
        rw [h kind, allowsKind, hasked']
        rfl
      rw [hasked] at hnone
      cases hnone
    | some k' =>
      have hk' : lower g.kind = k' := by simpa [allowsKind, hasked'] using hallowed
      rw [← hk', lower_kind_of_kindAsked hasked]

/-! ### The standing -/

/-- A standing that has the mark that is asked for, is that of an entry point, and has a given
number of references.  A symbol in use may have none, if it does not report them. -/
def sampleStanding (g : Filters) (n : Int) : Standing where
  refs := if n = 0 ∧ g.mark = some .used then none else some n
  dead := g.mark == some .dead
  cycle := true
  entry := true

theorem count_sampleStanding (g : Filters) (n : Int) : (g.sampleStanding n).count = n := by
  rw [Standing.count, sampleStanding]
  split
  next h => exact h.1.symm
  next => rfl

theorem mark_sampleStanding (g : Filters) (n : Int) :
    g.mark.all (g.sampleStanding n).has = true := by
  rcases hmark : g.mark with _ | _ | _ | _ <;> simp [Standing.has, sampleStanding, hmark]

theorem allowsStanding_sampleStanding (g : Filters) (n : Int) :
    g.allowsStanding (g.sampleStanding n) = g.allowsRefs n := by
  rw [allowsStanding, mark_sampleStanding, count_sampleStanding]
  simp [sampleStanding]

/-- A number of references that is within the bounds, unless they are impossible. -/
theorem exists_allowsRefs (h : ¬ g.Impossible) : ∃ n, g.allowsRefs n = true := by
  simp only [allowsRefs_iff]
  rcases hmin : g.minRefs with _ | m <;> rcases hmax : g.maxRefs with _ | n
  · exact ⟨0, by simp⟩
  · exact ⟨n, by simp⟩
  · exact ⟨m, by simp⟩
  · have hle : m ≤ n := Int.not_lt.1 fun hlt => h ⟨m, n, hmin, hmax, hlt⟩
    exact ⟨m, by simpa using hle⟩

/-- Bounds that some number is within, and that are within other bounds, are as tight as these:
otherwise a number just outside the other bounds would be within them. -/
theorem bounds_of_allowsRefs {n : Int} (hn : g.allowsRefs n = true)
    (h : ∀ n, g.allowsRefs n = true → g'.allowsRefs n = true) :
    (∀ b ∈ g'.minRefs, ∃ a ∈ g.minRefs, a ≥ b) ∧ ∀ b ∈ g'.maxRefs, ∃ a ∈ g.maxRefs, a ≤ b := by
  simp only [allowsRefs_iff] at hn h
  constructor
  · intro b hb
    by_contra hlow
    push Not at hlow
    have hbelow : min (b - 1) n ≤ n := by omega
    have hall := h (min (b - 1) n) ⟨fun a ha => ?_, fun c hc => Int.le_trans hbelow (hn.2 c hc)⟩
    · have := hall.1 b hb
      omega
    · have := hlow a ha
      have := hn.1 a ha
      omega
  · intro b hb
    by_contra hhigh
    push Not at hhigh
    have habove : n ≤ max (b + 1) n := by omega
    have hall := h (max (b + 1) n) ⟨fun a ha => Int.le_trans (hn.1 a ha) habove, fun c hc => ?_⟩
    · have := hall.2 b hb
      omega
    · have := hhigh c hc
      have := hn.2 c hc
      omega

/-- Bounds of which each is as tight as the other are the same. -/
theorem eq_of_bounds {tighter : Int → Int → Prop} (hanti : ∀ a b, tighter a b → tighter b a → a = b)
    {o o' : Option Int} (h : ∀ b ∈ o', ∃ a ∈ o, tighter a b)
    (h' : ∀ a ∈ o, ∃ b ∈ o', tighter b a) : o = o' := by
  rcases o with _ | a <;> rcases o' with _ | b <;> simp at h h' ⊢
  exact hanti a b h h'

/-- The marks differ in which of three standings they allow. -/
theorem eq_of_all_has {m m' : Option Mark} {n : Int}
    (h : ∀ s : Standing, s.count = n → s.entry = true → m.all s.has = m'.all s.has) :
    m = m' := by
  have hdead := h ⟨some n, true, false, true⟩ rfl rfl
  have hcycle := h ⟨some n, true, true, true⟩ rfl rfl
  have hcount : Standing.count ⟨if n = 0 then none else some n, false, true, true⟩ = n := by
    rw [Standing.count]
    split <;> simp_all
  have hused := h _ hcount rfl
  rcases m with _ | _ | _ | _ <;> rcases m' with _ | _ | _ | _ <;>
    simp [Standing.has] at hdead hcycle hused ⊢

theorem allowsRefs_eq_of_allowsStanding
    (h : ∀ s, g.allowsStanding s = g'.allowsStanding s) (n : Int) :
    g.allowsRefs n = g'.allowsRefs n := by
  rw [Bool.eq_iff_iff]
  constructor
  · intro hn
    have hsample := allowsStanding_sampleStanding g n
    rw [h, hn, allowsStanding, count_sampleStanding, Bool.and_eq_true] at hsample
    exact hsample.2
  · intro hn
    have hsample := allowsStanding_sampleStanding g' n
    rw [← h, hn, allowsStanding, count_sampleStanding, Bool.and_eq_true] at hsample
    exact hsample.2

theorem mark_eq_of_allowsStanding {n : Int} (hn : g.allowsRefs n = true)
    (h : ∀ s, g.allowsStanding s = g'.allowsStanding s) : g.mark = g'.mark := by
  have hn' : g'.allowsRefs n = true := by rw [← allowsRefs_eq_of_allowsStanding h, hn]
  refine eq_of_all_has (n := n) fun s hcount hentry => ?_
  simpa [allowsStanding, hcount, hentry, hn, hn'] using h s

theorem asksEntry_eq_of_allowsStanding {n : Int} (hn : g.allowsRefs n = true)
    (h : ∀ s, g.allowsStanding s = g'.allowsStanding s) : g.asksEntry = g'.asksEntry := by
  have hn' : g'.allowsRefs n = true := by rw [← allowsRefs_eq_of_allowsStanding h, hn]
  have hmark := mark_eq_of_allowsStanding hn h
  -- The sample with another entry flag has the same marks and the same number of references.
  let s : Standing := { g.sampleStanding n with entry := false }
  have hcount : s.count = n := count_sampleStanding g n
  have hhas : g.mark.all s.has = true := by
    rw [← mark_sampleStanding g n]
    rcases g.mark with _ | _ | _ | _ <;> rfl
  have hhas' : g'.mark.all s.has = true := by rw [← hmark, hhas]
  have hsample := h s
  simpa [allowsStanding, hhas, hhas', hcount, hn, hn', s] using hsample

/-! ### The place -/

theorem finds_search (g : Filters) : g.finds g.search = true :=
  occursIn_iff.2 List.infix_rfl

theorem exists_allowsPath (g : Filters) : ∃ path, g.allowsPath path = true := by
  obtain ⟨path, hpath, -⟩ := Glob.exists_accepts g.file
  exact ⟨path, by simp [allowsPath, hpath]⟩

theorem allowsPath_of_allowsPlace
    (h : ∀ name path, g.allowsPlace name path = g'.allowsPlace name path) {path : String}
    (hpath : g.allowsPath path = true) : g'.allowsPath path = true := by
  have hplace : g.allowsPlace g.search path = true := by simp [allowsPlace, finds_search, hpath]
  rw [h, allowsPlace, Bool.and_eq_true] at hplace
  exact hplace.2

/-- A pattern with white space allows the same paths only as another one with white space. -/
theorem exists_isBlank_file (h : ∀ path, g.allowsPath path = g'.allowsPath path) {c : Char}
    (hc : c ∈ g.file.toList) (hblank : isBlank c = true) :
    ∃ d ∈ g'.file.toList, isBlank d = true := by
  obtain ⟨path, hpath, hblanks⟩ := Glob.exists_accepts g'.file
  have hallowed : g.allowsPath path = true := by
    rw [h, allowsPath, hpath, Bool.or_true]
  have hfile : g.file ≠ "" := by rintro hfile; simp [hfile] at hc
  have haccepts : (Glob.ofText g.file).accepts path = true := by
    simpa [allowsPath, hfile] using hallowed
  obtain ⟨d, hd, hdblank⟩ := Glob.exists_isBlank_of_accepts hc hblank haccepts
  exact ⟨d, hblanks d hd hdblank, hdblank⟩

/-- Texts of which each is found in the other are the same in lower case. -/
theorem needle_eq_of_finds (h : g'.finds g.search = true) (h' : g.finds g'.search = true) :
    g.needle = g'.needle := by
  have hinside := occursIn_iff.1 h
  have hinside' := occursIn_iff.1 h'
  exact (hinside.eq_of_length_le hinside'.length_le).symm

theorem search_of_allowsPlace
    (h : ∀ name path, g.allowsPlace name path = g'.allowsPlace name path) :
    g.needle = g'.needle ∨
      ∀ path, g.allowsPath path = true → g.finds path = true ∧ g'.finds path = true := by
  by_cases hall : ∀ path, g.allowsPath path = true → g.finds path = true ∧ g'.finds path = true
  · exact .inr hall
  · push Not at hall
    obtain ⟨path, hpath, hmissing⟩ := hall
    have hpath' := allowsPath_of_allowsPlace h hpath
    have hname : ∀ name, (g.finds name || g.finds path) = (g'.finds name || g'.finds path) := by
      intro name
      simpa [allowsPlace, hpath, hpath'] using h name path
    -- The path itself as a name shows that neither text is found in it.
    have hsame : g.finds path = g'.finds path := by simpa using hname path
    have hno : g.finds path = false := by
      rw [Bool.eq_false_iff]
      intro hfound
      exact hmissing hfound (by rw [← hsame, hfound])
    have hfinds : ∀ name, g.finds name = g'.finds name := by
      intro name
      simpa [hno, ← hsame] using hname name
    exact .inl (needle_eq_of_finds (by rw [← hfinds, finds_search]) (by rw [hfinds, finds_search]))

/-! ## All parts together -/

/-- Filters whose bounds are possible accept something. -/
theorem exists_accepts (h : ¬ g.Impossible) : ∃ t, g.accepts t = true := by
  obtain ⟨n, hn⟩ := exists_allowsRefs h
  obtain ⟨path, hpath⟩ := exists_allowsPath g
  obtain ⟨callers, hcallers⟩ := exists_allowsCount g.hasCallers
  obtain ⟨callees, hcallees⟩ := exists_allowsCount g.hasCallees
  refine ⟨⟨g.search, path, g.kind, g.sampleStanding n, callers, callees⟩, ?_⟩
  simp [accepts, allowsPlace, finds_search, hpath, allowsKind_kind, allowsStanding_sampleStanding,
    hn, hcallers, hcallees]

theorem asksSame_of_accepts (hg : ¬ g.Impossible) (h : ∀ t, g.accepts t = g'.accepts t) :
    AsksSame g g' := by
  obtain ⟨t, ht⟩ := exists_accepts hg
  obtain ⟨n, hn⟩ := exists_allowsRefs hg
  have hparts := sameParts_of_accepts h ht
  have hrefs := allowsRefs_eq_of_allowsStanding hparts.standing
  have hn' : g'.allowsRefs n = true := by rw [← hrefs, hn]
  have hbounds := bounds_of_allowsRefs hn fun k hk => by rw [← hrefs, hk]
  have hbounds' := bounds_of_allowsRefs hn' fun k hk => by rw [hrefs, hk]
  exact
    { kind := kindAsked_eq_of_allowsKind hparts.kind
      mark := mark_eq_of_allowsStanding hn hparts.standing
      entry := asksEntry_eq_of_allowsStanding hn hparts.standing
      minRefs := eq_of_bounds (fun _ _ hab hba => Int.le_antisymm hba hab) hbounds.1 hbounds'.1
      maxRefs := eq_of_bounds (fun _ _ => Int.le_antisymm) hbounds.2 hbounds'.2
      hasCallers := eq_of_allowsCount hparts.callers
      hasCallees := eq_of_allowsCount hparts.callees
      path := fun path => by
        rw [Bool.eq_iff_iff]
        exact ⟨allowsPath_of_allowsPlace hparts.place,
          allowsPath_of_allowsPlace fun name path => (hparts.place name path).symm⟩
      search := search_of_allowsPlace hparts.place }

end Filters

/-- **Filters select the same from every list of well-typed records exactly if they ask for the
same**, or both for a number of references that is impossible. -/
theorem sameSelection_iff {g g' : Filters} : SameSelection g.spec g'.spec ↔
    g.Impossible ∧ g'.Impossible ∨ g.AsksSame g' := by
  rw [sameSelection_iff_accepts]
  constructor
  · intro h
    by_cases hg : g.Impossible
    · refine .inl ⟨hg, ?_⟩
      by_contra hg'
      obtain ⟨t, ht⟩ := Filters.exists_accepts hg'
      rw [← h t, Filters.accepts_of_impossible hg] at ht
      cases ht
    · exact .inr (Filters.asksSame_of_accepts hg h)
  · rintro (⟨hg, hg'⟩ | hsame) t
    · rw [Filters.accepts_of_impossible hg, Filters.accepts_of_impossible hg']
    · exact hsame.accepts_eq t

end SymbolSieve

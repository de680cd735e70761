import SymbolSieve.Proofs.Query.Given
import SymbolSieve.Proofs.Query.WellFormed

/-!
# The last word decides

Words are read from the left into one specification, and each overwrites what it is accepted for.
So the value of a field is what the last word gives that is accepted for it, whatever stands in
between, and the words without a label make up the search text in their order.  Words that are
accepted for different fields can therefore change places, and words that are accepted for nothing
can be left out.

## What is here

* `Decided`: the value that words decide for a field.
* `Describes`, `parse_eq_ok_iff`: the specification that words describe, field by field, which is
  what the reader returns if it can read every word.
* `Rearranged`, `Spared`: words in another order, and words without some that are rejected.
* `parse_by_last_words`: the three together.
-/

set_option autoImplicit false

namespace SymbolSieve.Query

open Text

/-! ## What words decide -/

/-- A word is accepted for a field. -/
def Touches (w : String) (f : Field) : Prop := ∃ v, Gives w f v

/-- A word has a label and is accepted for nothing. -/
def Rejected (w : String) : Prop := ¬ IsFree w ∧ ∀ f, ¬ Touches w f

instance (w : String) : Decidable (IsFree w) := decidable_of_iff _ ofLower?_eq_none_iff

theorem isSome_given?_iff {w : String} {f : Field} : (given? w f).isSome = true ↔ Touches w f := by
  simp [Option.isSome_iff_exists, given?_eq_some_iff, Touches]

instance (w : String) (f : Field) : Decidable (Touches w f) :=
  decidable_of_iff _ isSome_given?_iff

/-- The last of the words that are accepted for a field decides what it is; if there is none, it has
its default. -/
inductive Decided (ws : List String) (f : Field) : Value → Prop where
  | last {before after : List String} {w : String} {v : Value} (hws : ws = before ++ w :: after)
    (hw : Gives w f v) (hafter : ∀ w' ∈ after, ¬ Touches w' f) : Decided ws f v
  | default (h : ∀ w ∈ ws, ¬ Touches w f) : Decided ws f f.default

/-- The value that the last of the words that are accepted for a field gives it. -/
def lastGiven (ws : List String) (f : Field) : Option Value := (ws.filterMap (given? · f)).getLast?

theorem not_touches_iff {w : String} {f : Field} : ¬ Touches w f ↔ given? w f = none := by
  rw [given?_eq_none_iff, Touches, not_exists]

theorem decided_lastGiven (ws : List String) (f : Field) :
    Decided ws f ((lastGiven ws f).getD f.default) := by
  cases hlast : lastGiven ws f with
  | none =>
    refine .default fun w hw => not_touches_iff.2 ?_
    exact List.filterMap_eq_nil_iff.1 (List.getLast?_eq_none_iff.1 hlast) w hw
  | some v =>
    obtain ⟨vs, hvs⟩ := List.getLast?_eq_some_iff.1 hlast
    obtain ⟨front, back, rfl, -, hback⟩ := List.filterMap_eq_append_iff.1 hvs
    obtain ⟨between, w, after, rfl, -, hw, hafter⟩ := List.filterMap_eq_cons_iff.1 hback
    have hws : front ++ (between ++ w :: after) = front ++ between ++ w :: after := by simp
    refine .last hws (given?_eq_some_iff.1 hw) fun w' hw' => not_touches_iff.2 ?_
    exact List.filterMap_eq_nil_iff.1 hafter w' hw'

/-- Only words that are accepted for a field matter for it. -/
theorem lastGiven_congr {ws vs : List String} {f : Field}
    (h : ws.filter (Touches · f) = vs.filter (Touches · f)) : lastGiven ws f = lastGiven vs f := by
  have hfilter : ∀ us : List String,
      us.filterMap (given? · f) = (us.filter (Touches · f)).filterMap (given? · f) := by
    intro us
    rw [List.filterMap_filter]
    refine List.filterMap_congr fun w _ => ?_
    by_cases hw : Touches w f
    · simp [hw]
    · simp [hw, not_touches_iff.1 hw]
  rw [lastGiven, lastGiven, hfilter, h, ← hfilter]

/-! ## Reading words one after the other -/

/-- Settings for different fields do not get in each other's way. -/
theorem get_foldl_set {as : List Setting} (h : (Assoc.keys as).Nodup) (s : Spec) (f : Field) :
    (as.foldl (fun s a => s.set a.1 a.2) s).get f = (Assoc.get? f as).getD (s.get f) := by
  induction as generalizing s with
  | nil => rfl
  | cons a as ih =>
    obtain ⟨g, v⟩ := a
    obtain ⟨hg, has⟩ := List.nodup_cons.1 h
    rw [List.foldl_cons, ih has, Assoc.get?]
    by_cases hf : g = f
    · subst hf
      have hnone : Assoc.get? g as = none := Assoc.get?_eq_none_iff.2 hg
      simp [hnone]
    · rw [Spec.get_set_of_ne s v fun h => hf h.symm]
      simp [hf]

/-- One word writes what it gives over a specification. -/
theorem get_reading {w : String} {r : Reading} (hr : readWord w = .ok r) (s : Spec) (f : Field) :
    ((allSettings [(w, r)]).foldl (fun s a => s.set a.1 a.2) s).get f =
      (given? w f).getD (s.get f) := by
  cases r with
  | free =>
    rw [(readWord_eq_free_iff.1 hr).given?_eq_none]
    rfl
  | sets as =>
    have hall : allSettings [(w, .sets as)] = as := List.append_nil as
    rw [hall, get_foldl_set (nodup_of_readWord hr), given?, hr]

theorem lastGiven_cons (w : String) (ws : List String) (f : Field) (v : Value) :
    (lastGiven (w :: ws) f).getD v = (lastGiven ws f).getD ((given? w f).getD v) := by
  rw [lastGiven, lastGiven, List.filterMap_cons]
  cases given? w f with
  | none => rfl
  | some u => simp [List.getLast?_cons]

/-- Words that can be read write over a specification what the last of them give. -/
theorem get_readings {ws : List String} {rs : List (String × Reading)}
    (h : List.Forall₂ (fun w r => r.1 = w ∧ readWord w = .ok r.2) ws rs) (s : Spec) (f : Field) :
    ((allSettings rs).foldl (fun s a => s.set a.1 a.2) s).get f =
      (lastGiven ws f).getD (s.get f) := by
  -- The rest of the words is read into what the first one has made of the specification.
  induction h generalizing s with
  | nil => rfl
  | @cons w r ws rs hr _ ih =>
    obtain ⟨u, x⟩ := r
    obtain ⟨rfl, hx⟩ := hr
    rw [allSettings_cons, List.foldl_append, ih, get_reading hx, lastGiven_cons]

theorem freeWords_readings {ws : List String} {rs : List (String × Reading)}
    (h : List.Forall₂ (fun w r => r.1 = w ∧ readWord w = .ok r.2) ws rs) :
    freeWords rs = ws.filter (IsFree ·) := by
  induction h with
  | nil => rfl
  | @cons w r ws rs hr _ ih =>
    obtain ⟨u, x⟩ := r
    obtain ⟨rfl, hx⟩ := hr
    cases x with
    | free =>
      rw [List.filter_cons_of_pos (by simpa using readWord_eq_free_iff.1 hx), ← ih]
      rfl
    | sets as =>
      have hnot : ¬ IsFree u := by
        rw [← readWord_eq_free_iff, show readWord u = .ok (.sets as) from hx]
        simp
      rw [List.filter_cons_of_neg (by simpa using hnot), ← ih]
      rfl

/-- A specification has what words decide, field by field. -/
structure Describes (ws : List String) (s : Spec) : Prop where
  given : ∀ f, f ≠ .search → s.get f = (lastGiven ws f).getD f.default
  search : s.search = .text (joined (ws.filter (IsFree ·)))

theorem Describes.eq {ws : List String} {s t : Spec} (hs : Describes ws s) (ht : Describes ws t) :
    s = t := by
  refine Spec.ext_get fun f => ?_
  by_cases hf : f = .search
  · subst hf
    exact hs.search.trans ht.search.symm
  · rw [hs.given f hf, ht.given f hf]

theorem describes_specOf {ws : List String} {rs : List (String × Reading)}
    (h : List.Forall₂ (fun w r => r.1 = w ∧ readWord w = .ok r.2) ws rs) :
    Describes ws (specOf rs) where
  given f hf := by
    rw [specOf, Spec.get_set_of_ne _ _ hf, get_readings h, Spec.get_unconstrained]
  search := by
    rw [← freeWords_readings h]
    rfl

/-- **A query is read if each of its words can be read**, and then has what they decide. -/
theorem parse_eq_ok_iff {q : String} {s : Spec} :
    parse q = .ok s ↔ (∀ w ∈ words q, ∃ r, readWord w = .ok r) ∧ Describes (words q) s := by
  rw [parse, map_eq_ok_iff, ← exists_readings_iff]
  constructor
  · rintro ⟨rs, hrs, rfl⟩
    exact ⟨⟨rs, hrs⟩, describes_specOf (readings_eq_ok_iff.1 hrs)⟩
  · rintro ⟨⟨rs, hrs⟩, hs⟩
    exact ⟨rs, hrs, (describes_specOf (readings_eq_ok_iff.1 hrs)).eq hs⟩

/-! ## Words that change places, and words that are left out -/

/-- Words in another order, in which those that are accepted for the same field come one after the
other as before, and so do those without a label. -/
structure Rearranged (ws vs : List String) : Prop where
  perm : ws.Perm vs
  accepted : ∀ f, ws.filter (Touches · f) = vs.filter (Touches · f)
  free : ws.filter (IsFree ·) = vs.filter (IsFree ·)

/-- Words without some that are rejected. -/
inductive Spared : List String → List String → Prop where
  | nil : Spared [] []
  | keep (w : String) {ws vs : List String} (h : Spared ws vs) : Spared (w :: ws) (w :: vs)
  | spare {w : String} {ws vs : List String} (hw : Rejected w) (h : Spared ws vs) :
    Spared ws (w :: vs)

theorem Spared.sublist {ws vs : List String} (h : Spared ws vs) : ws.Sublist vs := by
  induction h with
  | nil => exact .slnil
  | keep w _ ih => exact ih.cons_cons w
  | spare _ _ ih => exact ih.cons _

/-- Words of a kind stay if no rejected word is of that kind. -/
theorem Spared.filter {p : String → Bool} (hp : ∀ w, Rejected w → p w = false)
    {ws vs : List String} (h : Spared ws vs) : ws.filter p = vs.filter p := by
  induction h with
  | nil => rfl
  | keep w _ ih => rw [List.filter_cons, List.filter_cons, ih]
  | spare hw _ ih => rw [ih, List.filter_cons_of_neg (by simp [hp _ hw])]

/-- A query describes the same as another one if it has no other words, and the same ones for every
field and for the search. -/
theorem parse_of_filter_eq {q q' : String} {s : Spec} (h : parse q = .ok s)
    (hsubset : words q' ⊆ words q)
    (haccepted : ∀ f, (words q').filter (Touches · f) = (words q).filter (Touches · f))
    (hfree : (words q').filter (IsFree ·) = (words q).filter (IsFree ·)) : parse q' = .ok s := by
  obtain ⟨hread, hs⟩ := parse_eq_ok_iff.1 h
  refine parse_eq_ok_iff.2 ⟨fun w hw => hread w (hsubset hw), fun f hf => ?_, ?_⟩
  · rw [hs.given f hf, lastGiven_congr (haccepted f)]
  · rw [hs.search, hfree]

/-- **The last accepted word decides.**  In the specification of a query that can be read, every
field has what the last of the words that are accepted for it gives, or its default, and the search
text is made of the words without a label.  A query with these words in an order that keeps the
words of each kind in order describes the same, and so does one that leaves out rejected words. -/
theorem parse_by_last_words {q : String} {s : Spec} (h : parse q = .ok s) :
    (∀ f, f ≠ .search → Decided (words q) f (s.get f)) ∧
      s.search = .text (joined ((words q).filter (IsFree ·))) ∧
      (∀ q', Rearranged (words q') (words q) → parse q' = .ok s) ∧
      ∀ q', Spared (words q') (words q) → parse q' = .ok s := by
  obtain ⟨-, hs⟩ := parse_eq_ok_iff.1 h
  refine ⟨fun f hf => ?_, hs.search, fun q' hq' => ?_, fun q' hq' => ?_⟩
  · rw [hs.given f hf]
    exact decided_lastGiven (words q) f
  · exact parse_of_filter_eq h hq'.perm.subset hq'.accepted hq'.free
  · have haccepted : ∀ f, ∀ w, Rejected w → decide (Touches w f) = false :=
      fun f w hw => decide_eq_false (hw.2 f)
    have hfree : ∀ w, Rejected w → decide (IsFree w) = false := fun w hw => decide_eq_false hw.1
    exact parse_of_filter_eq h hq'.sublist.subset (fun f => hq'.filter (haccepted f))
      (hq'.filter hfree)

theorem parse_by_last_words_mixed :
    ∃ s, parse "refs:>2 trace refs:x has:callers sym Callers:0 kind:nothing" = .ok s ∧
      parse "refs:>2 trace has:callers sym Callers:0" = .ok s ∧
      parse "trace kind:nothing has:callers sym refs:x Callers:0 refs:>2" = .ok s ∧
      Decided ["refs:>2", "trace", "refs:x", "has:callers", "sym", "Callers:0", "kind:nothing"]
        .hasCallers (s.get .hasCallers) ∧ s.search = .text "trace sym" := by
  have hread : parse "refs:>2 trace refs:x has:callers sym Callers:0 kind:nothing" =
      .ok { search := .text "trace sym", minRefs := .int 2, hasCallers := .bool false } := rfl
  have hwords : words "refs:>2 trace refs:x has:callers sym Callers:0 kind:nothing" =
      ["refs:>2", "trace", "refs:x", "has:callers", "sym", "Callers:0", "kind:nothing"] := rfl
  have hspare : words "refs:>2 trace has:callers sym Callers:0" =
      ["refs:>2", "trace", "has:callers", "sym", "Callers:0"] := rfl
  have hmoved : words "trace kind:nothing has:callers sym refs:x Callers:0 refs:>2" =
      ["trace", "kind:nothing", "has:callers", "sym", "refs:x", "Callers:0", "refs:>2"] := rfl
  have hrejected : Rejected "refs:x" ∧ Rejected "kind:nothing" := by
    constructor <;> refine ⟨by decide, fun f => ?_⟩ <;> cases f <;> decide
  obtain ⟨hdecided, -, hrearranged, hspared⟩ := parse_by_last_words hread
  rw [hwords] at hdecided hrearranged hspared
  refine ⟨_, hread, hspared _ ?_, hrearranged _ ?_, hdecided .hasCallers (by decide), rfl⟩
  · rw [hspare]
    exact .keep _ (.keep _ (.spare hrejected.1 (.keep _ (.keep _ (.keep _
      (.spare hrejected.2 .nil))))))
  · rw [hmoved]
    exact ⟨by decide, fun f => by cases f <;> decide, by decide⟩

end SymbolSieve.Query

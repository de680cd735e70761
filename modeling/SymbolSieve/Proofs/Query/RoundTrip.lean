import SymbolSieve.Proofs.Query.WellFormed
import SymbolSieve.Query.Canonical

/-!
# Reading canonical queries

A specification is written down as a flat text, in which nothing separates the search text from the
labelled words but a space.  All nine fields are found again when the text is read: the words of the
search text carry no label, and every labelled word sets its own field and no other.  Only an entry
field that asks for nothing is lost, because it constrains nothing and is not written.

## What is here

* `Says`: what the words of a query say, taken together; `parse_joined` reads a query that is put
  together from words.
* `Tells`: words that say which value a field has, one lemma for each field.
* `settled`: a specification without an entry field that asks for nothing.
* `parse_canonical`: the canonical query of a well-formed specification describes it;
  `parse_canonical_of_tells` allows for a state that is written in another way.
* `parse_canonical_correspondence`: queries describe exactly the well-formed specifications, and
  canonical queries stand for them one to one.
-/

set_option autoImplicit false

namespace SymbolSieve.Query

open Text

/-! ## What words say together -/

/-- A specification with some settings made, in order. -/
def applyAll (as : List Setting) (s : Spec) : Spec := as.foldl (fun s a => s.set a.1 a.2) s

/-- Words of a query of which some are searched for, and the others make settings. -/
structure Says (ws free : List String) (as : List Setting) : Prop where
  isWord : ∀ w ∈ ws, IsWord w
  reads : ∃ rs, readings ws = .ok rs ∧ freeWords rs = free ∧ allSettings rs = as

theorem Says.nil : Says [] [] [] := ⟨by simp, [], rfl, rfl, rfl⟩

theorem Says.append {ws vs free free' : List String} {as bs : List Setting} (h : Says ws free as)
    (h' : Says vs free' bs) : Says (ws ++ vs) (free ++ free') (as ++ bs) := by
  obtain ⟨rs, hrs, rfl, rfl⟩ := h.reads
  obtain ⟨qs, hqs, rfl, rfl⟩ := h'.reads
  refine ⟨?_, rs ++ qs, ?_, by simp [freeWords], by simp [allSettings]⟩
  · intro w hw
    rcases List.mem_append.1 hw with hw | hw
    · exact h.isWord w hw
    · exact h'.isWord w hw
  · exact readings_eq_ok_iff.2
      (List.rel_append (readings_eq_ok_iff.1 hrs) (readings_eq_ok_iff.1 hqs))

/-- Words without labels are searched for. -/
theorem says_free {ws : List String} (hword : ∀ w ∈ ws, IsWord w) (hfree : ∀ w ∈ ws, IsFree w) :
    Says ws ws [] := by
  refine ⟨hword, ws.map fun w => (w, .free), ?_, ?_, ?_⟩
  · rw [readings_eq_ok_iff, List.forall₂_map_right_iff, List.forall₂_same]
    exact fun w hw => ⟨rfl, readWord_eq_free_iff.2 (hfree w hw)⟩
  · simp [freeWords, List.filterMap_map]
  · simp [allSettings, List.flatMap_map]

/-- A labelled word makes the settings of its label. -/
theorem says_labelled {w : String} (l : Label) (value : List Char) {as : List Setting}
    (hw : w.toList = l.text ++ value) (hvalue : ∀ c ∈ value, isBlank c = false)
    (h : l.settings value = .ok as) : Says [w] [] as := by
  have hne : l.text ≠ [] := by cases l <;> decide
  have hword : IsWord w := by
    refine ⟨?_, ?_⟩
    · rintro rfl
      exact hne (List.append_eq_nil_iff.1 hw.symm).1
    · intro c hc
      rw [hw] at hc
      rcases List.mem_append.1 hc with hc | hc
      · exact isBlank_of_mem_text hc
      · exact hvalue c hc
  have hread : readWord w = .ok (.sets as) := by rw [readWord_of_label hw, h]; rfl
  refine ⟨by simpa using hword, [(w, .sets as)], ?_, rfl, by simp [allSettings]⟩
  exact readings_eq_ok_iff.2 (.cons ⟨rfl, hread⟩ .nil)

/-- **A query that is put together from words says what its words say.** -/
theorem parse_joined {ws free : List String} {as : List Setting} (h : Says ws free as) :
    parse (joined ws) = .ok ((applyAll as .unconstrained).set .search (.text (joined free))) := by
  obtain ⟨rs, hrs, rfl, rfl⟩ := h.reads
  rw [parse, words_joined h.isWord, hrs]
  rfl

/-! ## The words of the fields -/

/-- Words that can be written, and that say which value a field has if it has its default before. -/
def Tells (words : Except ValueFault (List String)) (f : Field) (v : Value) : Prop :=
  ∃ ws as, words = .ok ws ∧ Says ws [] as ∧
    ∀ t : Spec, t.get f = f.default → applyAll as t = t.set f v

theorem set_get_self (t : Spec) (f : Field) : t.set f (t.get f) = t := by
  cases f <;> rfl

/-- No words at all say that a field has its default. -/
theorem tells_nothing (f : Field) : Tells (.ok []) f f.default :=
  ⟨[], [], rfl, .nil, fun t ht => by rw [← ht, set_get_self]; rfl⟩

/-- A labelled word says what its only setting says. -/
theorem tells_labelled {w : String} (l : Label) (value : List Char) {f : Field} {v : Value}
    (hw : w.toList = l.text ++ value) (hvalue : ∀ c ∈ value, isBlank c = false)
    (h : l.settings value = .ok [(f, v)]) : Tells (.ok [w]) f v :=
  ⟨[w], [(f, v)], rfl, says_labelled l value hw hvalue h, fun _ _ => rfl⟩

theorem isBlank_of_mem_vocabulary {k : String}
    (h : k ∈ Vocabulary.kindWords ++ Vocabulary.stateWords) :
    ∀ c ∈ k.toList, isBlank c = false := by
  have hall : ∀ k ∈ Vocabulary.kindWords ++ Vocabulary.stateWords,
      k.toList.any isBlank = false := by decide
  exact fun _ => isBlank_of_any (hall k h)

theorem tells_kind {v : Value} (h : Admits .kind v) :
    Tells (unlessThat (v.equal (.text "all")) "kind:" v) .kind v := by
  obtain ⟨k, hk, rfl⟩ := h
  by_cases hall : k = "all"
  · subst hall
    exact tells_nothing .kind
  · have hwords : unlessThat ((Value.text k).equal (.text "all")) "kind:" (.text k)
        = .ok ["kind:" ++ k] := by
      simp [unlessThat, hall, labelled, Except.map]
    have hsets : Label.kind.settings k.toList = .ok [(.kind, .text k)] := by
      simp [Label.settings, hk]
    rw [hwords]
    exact tells_labelled .kind k.toList String.toList_append
      (isBlank_of_mem_vocabulary (List.mem_append_left _ hk)) hsets

theorem tells_state {v : Value} (h : Admits .state v) :
    Tells (unlessThat (v.equal (.text "all")) "state:" v) .state v := by
  rcases h with rfl | ⟨k, hk, rfl⟩
  · exact tells_nothing .state
  · have hall : k ≠ "all" := by rintro rfl; exact absurd hk (by decide)
    have hwords : unlessThat ((Value.text k).equal (.text "all")) "state:" (.text k)
        = .ok ["state:" ++ k] := by
      simp [unlessThat, hall, labelled, Except.map]
    have hsets : Label.state.settings k.toList = .ok [(.state, .text k)] := by
      simp [Label.settings, hk]
    rw [hwords]
    exact tells_labelled .state k.toList String.toList_append
      (isBlank_of_mem_vocabulary (List.mem_append_right _ hk)) hsets

theorem tells_file {v : Value} (h : Admits .file v) :
    Tells (unlessThat (!v.truthy) "file:" v) .file v := by
  obtain ⟨p, rfl, hp⟩ := h
  by_cases hempty : p = ""
  · subst hempty
    exact tells_nothing .file
  · have hwords : unlessThat (!(Value.text p).truthy) "file:" (.text p) = .ok ["file:" ++ p] := by
      simp [unlessThat, Value.truthy, hempty, labelled, Except.map]
    have hsets : Label.file.settings p.toList = .ok [(.file, .text p)] := by simp [Label.settings]
    rw [hwords]
    exact tells_labelled .file p.toList String.toList_append hp hsets

/-- The words of a presence field say which value it has, if the two words it can have do. -/
theorem tells_presence {f : Field} {name : String} {v : Value} (hdefault : f.default = .null)
    (hthere : Tells (.ok ["has:" ++ name]) f (.bool true))
    (hnone : Tells (.ok [name ++ ":0"]) f (.bool false)) (h : v = .null ∨ ∃ b, v = .bool b) :
    Tells (.ok (presenceWords name v)) f v := by
  rcases h with rfl | ⟨b, rfl⟩
  · rw [← hdefault]
    simpa [presenceWords, hdefault] using tells_nothing f
  · cases b with
    | true => exact hthere
    | false => exact hnone

theorem tells_callers {v : Value} (h : Admits .hasCallers v) :
    Tells (.ok (presenceWords "callers" v)) .hasCallers v :=
  tells_presence rfl (tells_labelled .has "callers".toList rfl (fun _ => isBlank_of_any rfl) rfl)
    (tells_labelled .callers ['0'] rfl (fun _ => isBlank_of_any rfl) rfl) h

theorem tells_callees {v : Value} (h : Admits .hasCallees v) :
    Tells (.ok (presenceWords "callees" v)) .hasCallees v :=
  tells_presence rfl (tells_labelled .has "callees".toList rfl (fun _ => isBlank_of_any rfl) rfl)
    (tells_labelled .callees ['0'] rfl (fun _ => isBlank_of_any rfl) rfl) h

/-! ### Bounds on references -/

/-- A written integer is made of a minus sign and digits. -/
theorem mem_intText {n : Int} {c : Char} (h : c ∈ (intText n).toList) :
    c = '-' ∨ c.isDigit = true := by
  by_cases hneg : n < 0
  · rcases (by simpa [intText, hneg, natText] using h : c = '-' ∨ c ∈ Nat.toDigits 10 n.natAbs)
      with hc | hc
    · exact .inl hc
    · exact .inr (isDigit_toDigits hc)
  · exact .inr (isDigit_toDigits (by simpa [intText, hneg, natText] using h))

theorem isBlank_of_mem_intText {n : Int} {c : Char} (h : c ∈ (intText n).toList) :
    isBlank c = false := by
  rcases mem_intText h with rfl | hc
  · rfl
  · exact isBlank_of_isDigit hc

theorem leadingInt_intText {n : Int} (h : n.natAbs < 10 ^ digitLimit) :
    leadingInt (intText n).toList = .ok (some n) := by
  rw [leadingInt, Number.leadingInt_intText (writableInt_iff.2 h)]

/-- A written integer gives both bounds, because it begins with neither `>` nor `<`. -/
theorem refsSettings_intText {n : Int} (h : n.natAbs < 10 ^ digitLimit) :
    refsSettings (intText n).toList = .ok [(.minRefs, .int n), (.maxRefs, .int n)] := by
  have hhead : ∀ c ∈ (intText n).toList, c ≠ '>' ∧ c ≠ '<' := by
    intro c hc
    constructor <;> rintro rfl <;> exact absurd (mem_intText hc) (by decide)
  have hread := leadingInt_intText h
  unfold refsSettings
  split
  next heq => exact absurd rfl (hhead '>' (by rw [heq]; simp)).1
  next heq => exact absurd rfl (hhead '<' (by rw [heq]; simp)).2
  next => rw [hread]; rfl

theorem labelled_int {n : Int} (h : n.natAbs < 10 ^ digitLimit) (label : String) :
    labelled label (.int n) = .ok (label ++ intText n) := by
  simp [labelled, Value.shown, Value.quoted, intShown, writableInt_iff.2 h, Except.map]

theorem says_refs {n : Int} (h : n.natAbs < 10 ^ digitLimit) :
    Says ["refs:" ++ intText n] [] [(.minRefs, .int n), (.maxRefs, .int n)] :=
  says_labelled .refs (intText n).toList String.toList_append (fun _ => isBlank_of_mem_intText)
    (refsSettings_intText h)

/-- A written integer behind a sign gives the bound that the sign stands for. -/
theorem says_bound {n : Int} {label : String} (side : Char) {f : Field}
    (hlabel : label.toList = Label.refs.text ++ [side]) (hside : isBlank side = false)
    (hread : refsSettings (side :: (intText n).toList) = .ok [(f, .int n)]) :
    Says [label ++ intText n] [] [(f, .int n)] := by
  have hword : (label ++ intText n).toList = Label.refs.text ++ side :: (intText n).toList := by
    simp [String.toList_append, hlabel]
  refine says_labelled .refs (side :: (intText n).toList) hword ?_ hread
  intro c hc
  rcases List.mem_cons.1 hc with rfl | hc
  · exact hside
  · exact isBlank_of_mem_intText hc

theorem says_least {n : Int} (h : n.natAbs < 10 ^ digitLimit) :
    Says ["refs:>" ++ intText n] [] [(.minRefs, .int n)] :=
  says_bound '>' rfl rfl (by simp [refsSettings, leadingInt_intText h, Except.map])

theorem says_greatest {n : Int} (h : n.natAbs < 10 ^ digitLimit) :
    Says ["refs:<" ++ intText n] [] [(.maxRefs, .int n)] :=
  says_bound '<' rfl rfl (by simp [refsSettings, leadingInt_intText h, Except.map])

/-- The words for the bounds say what both bounds are. -/
theorem tells_refs {s : Spec} (hmin : Admits .minRefs s.minRefs)
    (hmax : Admits .maxRefs s.maxRefs) : ∃ ws as, refsWords s = .ok ws ∧ Says ws [] as ∧
      ∀ t : Spec, t.minRefs = .null → t.maxRefs = .null →
        applyAll as t = (t.set .minRefs s.minRefs).set .maxRefs s.maxRefs := by
  rcases hmin with hmin | ⟨m, hmin, hm⟩ <;> rcases hmax with hmax | ⟨n, hmax, hn⟩
  · refine ⟨[], [], ?_, .nil, ?_⟩
    · simp [refsWords, hmin, hmax, Value.isNull, unlessThat, bind, Except.bind, pure, Except.pure]
    · intro t htmin htmax
      have hsetmin : t.set .minRefs .null = t := by rw [← htmin]; exact set_get_self t .minRefs
      have hsetmax : t.set .maxRefs .null = t := by rw [← htmax]; exact set_get_self t .maxRefs
      rw [hmin, hmax, hsetmin, hsetmax]
      rfl
  · refine ⟨["refs:<" ++ intText n], _, ?_, says_greatest hn, ?_⟩
    · simp [refsWords, hmin, hmax, Value.isNull, unlessThat, labelled_int hn, bind, Except.bind,
        pure, Except.pure, Except.map]
    · intro t htmin _
      rw [hmin, hmax, ← htmin]
      rfl
  · have hne : (Value.int m).equal .null = false := by
      simp [Value.equal, Value.compareNumbers?, Value.number?, Value.integer?]
    refine ⟨["refs:>" ++ intText m], _, ?_, says_least hm, ?_⟩
    · simp [refsWords, hmin, hmax, Value.isNull, hne, unlessThat, labelled_int hm, bind,
        Except.bind, pure, Except.pure, Except.map]
    · intro t _ htmax
      rw [hmin, hmax, ← htmax]
      rfl
  · by_cases heq : m = n
    · subst heq
      refine ⟨["refs:" ++ intText m], _, ?_, says_refs hm, fun t _ _ => by rw [hmin, hmax]; rfl⟩
      simp [refsWords, hmin, hmax, Value.isNull, labelled_int hm, Except.map]
    · refine ⟨["refs:>" ++ intText m] ++ ["refs:<" ++ intText n], _, ?_,
        (says_least hm).append (says_greatest hn), fun t _ _ => by rw [hmin, hmax]; rfl⟩
      simp [refsWords, hmin, hmax, heq, Value.isNull, unlessThat, labelled_int hm, labelled_int hn,
        bind, Except.bind, pure, Except.pure, Except.map]

/-! ### The entry field -/

/-- The value of the entry field without the one that asks for nothing. -/
def settledEntry : Value → Value
  | .bool false => .null
  | v => v

/-- A specification without an entry field that asks for nothing. -/
def settled (s : Spec) : Spec := s.set .entry (settledEntry s.entry)

theorem tells_entry {v : Value} (h : Admits .entry v) :
    Tells (.ok (entryWords v)) .entry (settledEntry v) := by
  rcases h with rfl | ⟨b, rfl⟩
  · exact tells_nothing .entry
  · cases b with
    | true => exact tells_labelled .entry "true".toList rfl (fun _ => isBlank_of_any rfl) rfl
    | false => exact tells_nothing .entry

/-! ## The canonical query -/

theorem applyAll_append (as bs : List Setting) (t : Spec) :
    applyAll (as ++ bs) t = applyAll bs (applyAll as t) := by
  simp [applyAll]

section

variable {s : Spec} {v : Value}

/-- The labelled words of a specification say everything but the search text.  The state may be
written in any way that says which state is meant. -/
theorem says_labelledWords
    (hstate : Tells (unlessThat (s.state.equal (.text "all")) "state:" s.state) .state v)
    (h : WellFormed (s.set .state v)) :
    ∃ ws as, labelledWords s = .ok ws ∧ Says ws [] as ∧
      (applyAll as .unconstrained).set .search s.search = settled (s.set .state v) := by
  obtain ⟨kind, as₁, hkind, hsaid₁, hset₁⟩ := tells_kind (h .kind)
  obtain ⟨state, as₂, hstate, hsaid₂, hset₂⟩ := hstate
  obtain ⟨file, as₃, hfile, hsaid₃, hset₃⟩ := tells_file (h .file)
  obtain ⟨refs, as₄, hrefs, hsaid₄, hset₄⟩ := tells_refs (s := s) (h .minRefs) (h .maxRefs)
  obtain ⟨callers, as₅, hcallers, hsaid₅, hset₅⟩ := tells_callers (h .hasCallers)
  obtain ⟨callees, as₆, hcallees, hsaid₆, hset₆⟩ := tells_callees (h .hasCallees)
  obtain ⟨entry, as₇, hentry, hsaid₇, hset₇⟩ := tells_entry (h .entry)
  refine ⟨kind ++ state ++ file ++ refs ++ callers ++ callees ++ entry,
    as₁ ++ as₂ ++ as₃ ++ as₄ ++ as₅ ++ as₆ ++ as₇, ?_, ?_, ?_⟩
  · simp only [Spec.get, Spec.set] at hkind hfile hcallers hcallees hentry
    simp only [Except.ok.injEq] at hcallers hcallees hentry
    simp only [labelledWords, hkind, hstate, hfile, hrefs, hcallers, hcallees, hentry, bind,
      Except.bind, pure, Except.pure]
  · exact (((((hsaid₁.append hsaid₂).append hsaid₃).append hsaid₄).append hsaid₅).append
      hsaid₆).append hsaid₇
  · -- Each group of settings finds the default in its own fields, and writes only these.
    simp only [applyAll_append]
    rw [hset₁ _ rfl, hset₂ _ rfl, hset₃ _ rfl, hset₄ _ rfl rfl, hset₅ _ rfl, hset₆ _ rfl,
      hset₇ _ rfl]
    rfl

/-- The canonical query of a specification is put together from words that say what it says. -/
theorem says_canonical_of_tells
    (hstate : Tells (unlessThat (s.state.equal (.text "all")) "state:" s.state) .state v)
    (h : WellFormed (s.set .state v)) :
    ∃ ws free as, canonical s = .ok (joined ws) ∧ Says ws free as ∧
      (applyAll as .unconstrained).set .search (.text (joined free)) =
        settled (s.set .state v) := by
  obtain ⟨ws, as, hws, hsaid, hset⟩ := says_labelledWords hstate h
  obtain ⟨search, hsearch, hjoined, hfree⟩ := h .search
  have hsearch : s.search = .text search := hsearch
  have hall := (says_free (fun w hw => isWord_of_mem_words hw) hfree).append hsaid
  refine ⟨_, _, _, ?_, hall, ?_⟩
  · by_cases hempty : search = ""
    · simp [canonical, hws, searchWords, hsearch, Value.truthy, hempty, bind, Except.bind, pure,
        Except.pure]
    · simp [canonical, hws, searchWords, hsearch, Value.truthy, hempty, bind, Except.bind, pure,
        Except.pure, joined_cons_isJoined hjoined hempty]
  · rw [List.append_nil, List.nil_append, ← hjoined, ← hsearch, hset]

theorem parse_canonical_of_tells
    (hstate : Tells (unlessThat (s.state.equal (.text "all")) "state:" s.state) .state v)
    (h : WellFormed (s.set .state v)) :
    ∃ t, canonical s = .ok t ∧ parse t = .ok (settled (s.set .state v)) := by
  obtain ⟨ws, free, as, hws, hsaid, hset⟩ := says_canonical_of_tells hstate h
  exact ⟨_, hws, by rw [parse_joined hsaid, hset]⟩

end

/-- A well-formed specification says in its canonical query what it says itself. -/
theorem says_canonical {s : Spec} (h : WellFormed s) :
    ∃ ws free as, canonical s = .ok (joined ws) ∧ Says ws free as ∧
      (applyAll as .unconstrained).set .search (.text (joined free)) = settled s :=
  says_canonical_of_tells (tells_state (h .state)) h

/-- **The canonical query of a well-formed specification describes it**, up to an entry field that
asks for nothing. -/
theorem parse_canonical {s : Spec} (h : WellFormed s) :
    ∃ t, canonical s = .ok t ∧ parse t = .ok (settled s) :=
  parse_canonical_of_tells (tells_state (h .state)) h

/-- Every well-formed specification is described by a query.  Where its entry field asks for
nothing, a word that says so is put behind the canonical query. -/
theorem exists_parse_eq {s : Spec} (h : WellFormed s) : ∃ q, parse q = .ok s := by
  obtain ⟨ws, free, as, hws, hsaid, hset⟩ := says_canonical h
  by_cases hentry : s.entry = .bool false
  · have hidle : Says ["entry:false"] [] [(.entry, .bool false)] :=
      says_labelled .entry "false".toList rfl (fun _ => isBlank_of_any rfl) rfl
    refine ⟨joined (ws ++ ["entry:false"]), ?_⟩
    have hread := parse_joined (hsaid.append hidle)
    have hback : (settled s).set .entry (.bool false) = s := by rw [← hentry]; rfl
    rw [List.append_nil, applyAll_append] at hread
    rw [hread, ← hback, ← hset]
    rfl
  · have hsettled : settled s = s := by
      have hself : settledEntry s.entry = s.entry := by
        rcases h .entry with hs | ⟨b, hs⟩
        · rw [show s.entry = _ from hs]; rfl
        · rw [show s.entry = _ from hs] at hentry ⊢
          cases b with
          | true => rfl
          | false => exact absurd rfl hentry
      rw [settled, hself]
      rfl
    exact ⟨_, by rw [parse_joined hsaid, hset, hsettled]⟩

/-! ## Specifications and their canonical queries -/

/-- An entry field that asks for nothing is not written. -/
theorem canonical_settled (s : Spec) : canonical (settled s) = canonical s := by
  have hentry : entryWords (settledEntry s.entry) = entryWords s.entry := by
    cases hs : s.entry with
    | bool b => cases b <;> rfl
    | _ => rfl
  have hlabelled : labelledWords (settled s) = labelledWords s := by
    simp only [labelledWords, settled, Spec.set, hentry]
    rfl
  rw [canonical, hlabelled]
  rfl

/-- Well-formed specifications have the same canonical query exactly when they differ at most in an
entry field that asks for nothing. -/
theorem canonical_eq_iff {s t : Spec} (hs : WellFormed s) (ht : WellFormed t) :
    canonical s = canonical t ↔ settled s = settled t := by
  constructor
  · intro heq
    obtain ⟨u, hu, hreads⟩ := parse_canonical hs
    obtain ⟨v, hv, hreadt⟩ := parse_canonical ht
    obtain rfl : u = v := by simpa [hu, hv] using heq
    simpa [hreads] using hreadt
  · intro heq
    rw [← canonical_settled s, heq, canonical_settled]

theorem settledEntry_eq_null_iff (v : Value) :
    settledEntry v = .null ↔ v = .null ∨ v = .bool false := by
  cases v with
  | bool b => cases b <;> simp [settledEntry]
  | _ => simp [settledEntry]

/-- The canonical query is empty exactly if nothing is asked for. -/
theorem canonical_eq_empty_iff {s : Spec} (hs : WellFormed s) :
    canonical s = .ok "" ↔ ∀ f, s.get f = f.default ∨ f = .entry ∧ s.get f = .bool false := by
  have hempty : canonical .unconstrained = .ok "" := rfl
  have hsettled : settled .unconstrained = .unconstrained := rfl
  rw [← hempty, canonical_eq_iff hs wellFormed_unconstrained, hsettled]
  constructor
  · intro heq f
    have hf := congrArg (Spec.get · f) heq
    by_cases hentry : f = .entry
    · subst hentry
      rw [settled, Spec.get_set_self, Spec.get_unconstrained] at hf
      rcases (settledEntry_eq_null_iff _).1 hf with hnull | hfalse
      · exact .inl hnull
      · exact .inr ⟨rfl, hfalse⟩
    · rw [settled, Spec.get_set_of_ne _ _ hentry, Spec.get_unconstrained] at hf
      exact .inl hf
  · intro h
    refine Spec.ext_get fun f => ?_
    rw [Spec.get_unconstrained]
    by_cases hentry : f = .entry
    · subst hentry
      rw [settled, Spec.get_set_self]
      exact (settledEntry_eq_null_iff _).2 ((h .entry).imp_right And.right)
    · rw [settled, Spec.get_set_of_ne _ _ hentry]
      exact (h f).resolve_right fun hf => hentry hf.1

/-- **Queries describe exactly the well-formed specifications, and canonical queries stand for them
one to one**: reading the canonical query gives the specification back without an entry field that
asks for nothing, and writing what was read gives the canonical query back. -/
theorem parse_canonical_correspondence :
    (∀ q s, parse q = .ok s → WellFormed s) ∧
    (∀ s, WellFormed s → ∃ t, canonical s = .ok t ∧ parse t = .ok (settled s)) ∧
    (∀ s, (∃ q, parse q = .ok s) ↔ WellFormed s) ∧
    (∀ q s, parse q = .ok s → ∃ t, canonical s = .ok t ∧ parse t >>= canonical = .ok t) ∧
    (∀ q₁ q₂ s₁ s₂, parse q₁ = .ok s₁ → parse q₂ = .ok s₂ →
      (canonical s₁ = canonical s₂ ↔ settled s₁ = settled s₂)) := by
  refine ⟨fun q s => wellFormed_of_parse, fun s => parse_canonical, fun s => ⟨?_, exists_parse_eq⟩,
    ?_, ?_⟩
  · rintro ⟨q, hq⟩
    exact wellFormed_of_parse hq
  · intro q s hq
    obtain ⟨t, ht, hread⟩ := parse_canonical (wellFormed_of_parse hq)
    refine ⟨t, ht, ?_⟩
    rw [hread, ← ht]
    exact canonical_settled s
  · intro q₁ q₂ s₁ s₂ h₁ h₂
    exact canonical_eq_iff (wellFormed_of_parse h₁) (wellFormed_of_parse h₂)

/-- The search text may stand anywhere and labels may be in any case, numbers may have digits of any
script, and the last bound wins. -/
theorem parse_canonical_correspondence_mixed :
    ∃ s, parse "  trace KIND:function  refs:7 sym\u3000refs:<\u0663x entry:no callers:>" = .ok s ∧
      WellFormed s ∧
      canonical s = .ok "trace sym kind:function refs:>7 refs:<3 has:callers" ∧
      parse "trace sym kind:function refs:>7 refs:<3 has:callers" = .ok (settled s) := by
  have hread : parse "  trace KIND:function  refs:7 sym\u3000refs:<\u0663x entry:no callers:>" = .ok
      { search := .text "trace sym", kind := .text "function", minRefs := .int 7, maxRefs := .int 3,
        hasCallers := .bool true, entry := .bool false } := rfl
  obtain ⟨hwf, hback, -⟩ := parse_canonical_correspondence
  obtain ⟨t, ht, hparse⟩ := hback _ (hwf _ _ hread)
  have htext : canonical
      { search := .text "trace sym", kind := .text "function", minRefs := .int 7, maxRefs := .int 3,
        hasCallers := .bool true, entry := .bool false }
      = .ok "trace sym kind:function refs:>7 refs:<3 has:callers" := by decide +kernel
  obtain rfl : "trace sym kind:function refs:>7 refs:<3 has:callers" = t :=
    Except.ok.inj (htext.symm.trans ht)
  exact ⟨_, hread, hwf _ _ hread, ht, hparse⟩

end SymbolSieve.Query

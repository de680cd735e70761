import SymbolSieve.Proofs.Engine.Restoring
import SymbolSieve.Proofs.Engine.Unseen
import SymbolSieve.Proofs.Json.Unlimited

/-!
# Engines that begin with what is stored

A new engine that restores its filters gets each of the durable ones from what is stored, if there
is a valid one, and has the default otherwise.  The fields do not depend on each other, and whatever
is stored, nobody is told and nothing is written.

There are two kinds of text that the reader gives up on.  On one that is nested too deeply the
engine fails.  One with an integer that is too long counts as corrupt, and the filters in it are
lost.

## What is here

* `Offers`: what is stored has a valid text for a field.
* `Chosen`: every field has what is offered for it, or its default.
* `kinds_of_content`: what a read can give.
* `Opens`: everything that is expected when a new engine restores its filters.
* `opens_iff`: exactly when that is what happens.
-/

set_option autoImplicit false

namespace SymbolSieve.Session

open Document (documentFor)
open Json (decode decodeWith)

/-! ## What is offered -/

/-- A text that is valid for a field. -/
def Valid : Field → String → Prop
  | .kind, x => x ∈ Vocabulary.kindWords
  | .state, x => x = "all" ∨ x ∈ Vocabulary.stateWords
  | _, _ => True

theorem acceptsStored_iff {f : Field} {v : Value} :
    acceptsStored f v = true ↔ ∃ x, v = .text x ∧ Valid f x := by
  constructor
  · intro h
    obtain ⟨x, rfl⟩ := exists_text_of_acceptsStored h
    refine ⟨x, rfl, ?_⟩
    cases f with
    | kind => exact List.contains_iff_mem.1 h
    | state => simpa [acceptsStored, Valid] using h
    | _ => trivial
  · rintro ⟨x, rfl, hx⟩
    cases f with
    | kind => exact List.contains_iff_mem.2 hx
    | state => simpa [acceptsStored, Valid] using hx
    | _ => rfl

/-- What is stored is a mapping with a valid text for a field among its filters, whatever else there
is in it. -/
def Offers (content : Except AccessFault Value) (f : Field) (x : String) : Prop :=
  ∃ t es fs, content = .ok (.text t) ∧ decodeWith {} t = .ok (.map es) ∧
    Assoc.get? "filters" es = some (.map fs) ∧ Assoc.get? f.wireName fs = some (.text x) ∧ Valid f x

/-- A durable field has what is offered for it, and every field for which nothing is offered has its
default. -/
structure Chosen (content : Except AccessFault Value) (spec : Spec) : Prop where
  offered : ∀ f ∈ Field.durable, ∀ x, Offers content f x → spec.get f = .text x
  others : ∀ f, (f ∈ Field.durable → ∀ x, ¬ Offers content f x) → spec.get f = f.default

/-- What is stored offers something other than a default, but holds an integer that is too long to
be read. -/
def Misread (content : Except AccessFault Value) : Prop :=
  ∃ t, content = .ok (.text t) ∧ decode t = .error .longInteger ∧
    ∃ f ∈ Field.durable, ∃ x, Offers content f x ∧ f.default ≠ .text x

/-- What a text that can be read offers. -/
theorem offers_text_iff {t : String} {es : Entries} (h : decode t = .ok (.map es)) {f : Field}
    {x : String} : Offers (.ok (.text t)) f x ↔ ∃ fs, Assoc.get? "filters" es = some (.map fs) ∧
      Assoc.get? f.wireName fs = some (.text x) ∧ Valid f x := by
  have hunlimited := Json.decodeWith_of_decode h
  constructor
  · rintro ⟨t', es', fs, ht, hes, hrest⟩
    obtain rfl : t = t' := Value.text.inj (Except.ok.inj ht)
    obtain rfl : es = es' := Value.map.inj (Except.ok.inj (hunlimited.symm.trans hes))
    exact ⟨fs, hrest⟩
  · rintro ⟨fs, hrest⟩
    exact ⟨t, es, fs, rfl, hunlimited, hrest⟩

theorem chosen_unconstrained_iff {content : Except AccessFault Value} :
    Chosen content .unconstrained ↔
      ∀ f ∈ Field.durable, ∀ x, Offers content f x → f.default = .text x := by
  constructor
  · intro h f hf x hx
    have hget := h.offered f hf x hx
    rwa [Spec.get_unconstrained] at hget
  · intro h
    refine ⟨fun f hf x hx => ?_, fun f _ => Spec.get_unconstrained f⟩
    rw [Spec.get_unconstrained]
    exact h f hf x hx

/-- **A document that can be read** gives a new engine what it offers. -/
theorem chosen_takenOver {t : String} {es : Entries} (h : decode t = .ok (.map es)) :
    Chosen (.ok (.text t)) (View.takenOver (Document.restore es) .unconstrained) := by
  have hplain := (Json.faithful_of_decode h).1
  refine ⟨fun f hf x hx => ?_, fun f hnone => ?_⟩
  · obtain ⟨fs, hfilters, hx, hvalid⟩ := (offers_text_iff h).1 hx
    rw [get_takenOver_restore hplain _ hf, hfilters]
    dsimp only
    rw [hx, if_neg nofun, taken?_of_some hx, if_pos (acceptsStored_iff.2 ⟨x, rfl, hvalid⟩)]
    rfl
  · by_cases hf : f ∈ Field.durable
    · rw [get_takenOver_restore hplain _ hf, Spec.get_unconstrained]
      split
      next => rfl
      next fs hfilters =>
        split
        next => rfl
        next hstored =>
          obtain ⟨v, hv⟩ := Option.ne_none_iff_exists'.1 hstored
          have hrefused : ¬ acceptsStored f v = true := by
            rw [acceptsStored_iff]
            rintro ⟨x, rfl, hvalid⟩
            exact hnone hf x ((offers_text_iff h).2 ⟨fs, hfilters, hv, hvalid⟩)
          rw [taken?_of_some hv, if_neg hrefused]
          rfl
      next => rfl
    · rw [get_takenOver_of_not_mem _ _ hf, Spec.get_unconstrained]

/-! ## What is read -/

theorem documentFor_of_unfathomable {content : Except AccessFault Value}
    (h : Unfathomable content) : documentFor content = .error .tooDeep := by
  obtain ⟨raw, rfl, hdeep⟩ := h
  rw [Document.documentFor_ok]
  exact (Document.read_eq_error_iff _ _).2 ⟨hdeep, rfl⟩

theorem documentFor_of_decode {t : String} {v : Value} (h : decode t = .ok v) :
    documentFor (.ok (.text t)) = .ok (Document.ofStored v).1 := by
  rw [Document.documentFor_ok, Document.read, Document.key, Storage.ofRaw, h]

theorem ofStored_of_isLeaf {v : Value} (h : v.IsLeaf) :
    (Document.ofStored v).1 = Document.default := by
  match v with
  | .map es => exact absurd rfl (h es)
  | .null | .bool _ | .int _ | .float _ | .text _ | .list _ | .object _ => rfl

/-- A text offers nothing if what it stands for is no mapping. -/
theorem not_offers_of_decodeWith {t : String} (h : ∀ es, decodeWith {} t ≠ .ok (.map es))
    (f : Field) (x : String) : ¬ Offers (.ok (.text t)) f x := by
  rintro ⟨t', es, fs, ht, hes, -⟩
  obtain rfl : t = t' := Value.text.inj (Except.ok.inj ht)
  exact h es hes

/-- A text that can be read is neither nested too deeply nor misread. -/
theorem readable_of_decode {t : String} {v : Value} (h : decode t = .ok v) :
    ¬ Unfathomable (.ok (.text t)) ∧ ¬ Misread (.ok (.text t)) := by
  constructor
  · rintro ⟨raw, hraw, t', rfl, hdeep⟩
    rw [← Value.text.inj (Except.ok.inj hraw), h] at hdeep
    cases hdeep
  · rintro ⟨t', ht, hlong, -⟩
    rw [← Value.text.inj (Except.ok.inj ht), h] at hlong
    cases hlong

/-- What a read gives offers nothing, and the default document takes its place. -/
def Vain (content : Except AccessFault Value) : Prop :=
  (∀ f x, ¬ Offers content f x) ∧ documentFor content = .ok Document.default

/-- The default document takes the place of a text that breaks off, goes wrong or holds an integer
that is too long. -/
theorem documentFor_of_fault {t : String} {fault : Json.Fault} (h : decode t = .error fault)
    (hdepth : fault ≠ .tooDeep) : documentFor (.ok (.text t)) = .ok Document.default := by
  rw [Document.documentFor_ok]
  refine Document.read_of_corrupt (fun v hv => ?_) ?_
  · rw [h] at hv
    cases hv
  · rintro ⟨t', ht, hdeep⟩
    rw [← Value.text.inj ht, h] at hdeep
    exact hdepth (Except.error.inj hdeep)

theorem vain_of_fault {t : String} {fault : Json.Fault} (h : decode t = .error fault)
    (hdigits : fault ≠ .longInteger) (hdepth : fault ≠ .tooDeep) : Vain (.ok (.text t)) := by
  have hunlimited : decodeWith {} t = .error fault := by
    obtain hsame | hlong | hdeep := Json.decode_upToLimits t
    · rw [← hsame, h]
    · exact absurd (Except.error.inj (h.symm.trans hlong)) hdigits
    · exact absurd (Except.error.inj (h.symm.trans hdeep)) hdepth
  refine ⟨not_offers_of_decodeWith fun es hes => ?_, documentFor_of_fault h hdepth⟩
  rw [hunlimited] at hes
  cases hes

/-- **What a read can give**: a text that is nested too deeply, a mapping, a text with an integer
that is too long, or nothing that offers anything. -/
theorem kinds_of_content {content : Except AccessFault Value}
    (hcontent : (∃ e, content = .error (.storage e)) ∨ ∃ raw, content = .ok raw) :
    Unfathomable content ∨ (∃ t es, content = .ok (.text t) ∧ decode t = .ok (.map es)) ∨
      (∃ t, content = .ok (.text t) ∧ decode t = .error .longInteger) ∨ Vain content := by
  obtain ⟨e, rfl⟩ | ⟨raw, rfl⟩ := hcontent
  · exact .inr (.inr (.inr ⟨fun f x => nofun, rfl⟩))
  match raw with
  | .text t =>
    match hdecode : decode t with
    | .ok v =>
      obtain hv | ⟨es, rfl⟩ := v.isLeaf_or_map
      · refine .inr (.inr (.inr ⟨not_offers_of_decodeWith fun es hes => ?_, ?_⟩))
        · rw [Json.decodeWith_of_decode hdecode] at hes
          exact hv es (Except.ok.inj hes)
        · rw [documentFor_of_decode hdecode, ofStored_of_isLeaf hv]
      · exact .inr (.inl ⟨t, es, rfl, hdecode⟩)
    | .error .tooDeep => exact .inl ⟨_, rfl, t, rfl, hdecode⟩
    | .error .longInteger => exact .inr (.inr (.inl ⟨t, rfl, hdecode⟩))
    | .error (.unexpected _) | .error .notText =>
      exact .inr (.inr (.inr (vain_of_fault hdecode nofun nofun)))
  | .null | .bool _ | .int _ | .float _ | .list _ | .map _ | .object _ =>
    exact .inr (.inr (.inr ⟨fun f x => nofun, rfl⟩))

/-! ## What a new engine gets -/

theorem takenOver_default_unconstrained :
    View.takenOver Document.default .unconstrained = .unconstrained := by
  refine Spec.ext_get fun f => ?_
  rw [get_takenOver_default, Spec.get_unconstrained, ite_self]

/-- From the default document a new engine gets what is offered if that is the defaults. -/
theorem chosen_default_iff {content : Except AccessFault Value}
    (hdoc : documentFor content = .ok Document.default) :
    (∃ doc, documentFor content = .ok doc ∧
        Chosen content (View.takenOver doc .unconstrained)) ↔
      ∀ f ∈ Field.durable, ∀ x, Offers content f x → f.default = .text x := by
  rw [← chosen_unconstrained_iff]
  constructor
  · rintro ⟨doc, hdoc', hchosen⟩
    obtain rfl := Except.ok.inj (hdoc.symm.trans hdoc')
    rwa [takenOver_default_unconstrained] at hchosen
  · exact fun hchosen => ⟨_, hdoc, takenOver_default_unconstrained.symm ▸ hchosen⟩

/-- **A new engine gets what is offered**, unless the text is nested too deeply or something in it
is lost to an integer that is too long. -/
theorem chosen_documentFor_iff {content : Except AccessFault Value}
    (hcontent : (∃ e, content = .error (.storage e)) ∨ ∃ raw, content = .ok raw) :
    (∃ doc, documentFor content = .ok doc ∧
        Chosen content (View.takenOver doc .unconstrained)) ↔
      ¬ Unfathomable content ∧ ¬ Misread content := by
  have hfathomable : ∀ {doc : Entries}, documentFor content = .ok doc → ¬ Unfathomable content := by
    intro doc hdoc hdeep
    rw [documentFor_of_unfathomable hdeep] at hdoc
    cases hdoc
  obtain hdeep | ⟨t, es, rfl, hdecode⟩ | ⟨t, rfl, hdecode⟩ | ⟨hnone, hdoc⟩ :=
    kinds_of_content hcontent
  · exact iff_of_false (fun h => hfathomable h.choose_spec.1 hdeep) fun h => h.1 hdeep
  · exact iff_of_true ⟨_, documentFor_of_decode hdecode, chosen_takenOver hdecode⟩
      (readable_of_decode hdecode)
  · have hdoc := documentFor_of_fault hdecode nofun
    rw [chosen_default_iff hdoc, and_iff_right (hfathomable hdoc)]
    constructor
    · rintro h ⟨t', -, -, f, hf, x, hx, hne⟩
      exact hne (h f hf x hx)
    · exact fun h f hf x hx => by_contra fun hne => h ⟨t, rfl, hdecode, f, hf, x, hx, hne⟩
  · rw [chosen_default_iff hdoc]
    refine iff_of_true (fun f _ x hx => absurd hx (hnone f x)) ⟨hfathomable hdoc, ?_⟩
    rintro ⟨t, -, -, f, -, x, hx, -⟩
    exact hnone f x hx

section

variable {h : Handle} {name : String} {s : Session}

/-- Everything that is expected when a new engine restores its filters: it does not fail, nobody is
told, nothing is written, and every field has what is offered for it or its default. -/
structure Opens (h : Handle) (name : String) (s : Session) : Prop where
  result : (restore (.text name) s).1 = .ok ()
  heard : (restore (.text name) s).2.heard = s.heard
  storage : s.desk.storage.OnlyRead (restore (.text name) s).2.desk.storage
  chosen : Chosen (content h s) ((restore (.text name) s).2.engineOf (.text name)).spec

/-- **A new engine begins with what is stored**, whatever that is and however the storage fails,
exactly if the text is not nested too deeply and nothing in it is lost to an integer that is too
long. -/
theorem opens_iff (hhandle : (s.engineOf (.text name)).handle = some h)
    (hfresh : (s.engineOf (.text name)).spec = .unconstrained) :
    Opens h name s ↔ ¬ Unfathomable (content h s) ∧ ¬ Misread (content h s) := by
  have hrestored := restored_of_handle hhandle
  have hcontent : (∃ e, content h s = .error (.storage e)) ∨ ∃ raw, content h s = .ok raw :=
    (content_cases h s).imp_right fun hok => ⟨_, hok⟩
  rw [← chosen_documentFor_iff hcontent]
  have hresult := hrestored.result
  have hspec := hrestored.spec
  rw [hfresh] at hspec
  constructor
  · intro hopens
    match hdoc : documentFor (content h s) with
    | .error fault =>
      rw [hdoc, hopens.result] at hresult
      cases hresult
    | .ok doc =>
      rw [hdoc, View.takenFrom] at hspec
      exact ⟨doc, rfl, hspec ▸ hopens.chosen⟩
  · rintro ⟨doc, hdoc, hchosen⟩
    rw [hdoc] at hresult
    rw [hdoc, View.takenFrom] at hspec
    exact ⟨hresult, hrestored.heard, hrestored.storage, hspec ▸ hchosen⟩

end

theorem content_holdingRaw (raw : Value) : content 0 (holdingRaw raw) = .ok raw := by
  have hhealthy : Storage.Healthy 0 (holdingRaw raw).desk.storage := ⟨fun _ => rfl, fun _ => rfl⟩
  obtain ⟨s', hget, -, -⟩ := Storage.getItem_healthy hhealthy Vocabulary.stateKey
  rw [raw_holdingRaw] at hget
  exact congrArg Prod.fst hget

/-- Filters of which the kind is valid and the state is not. -/
def mixedText : String :=
  "\x7b\"version\": 0, \"filters\": \x7b\"kind\": \"function\", \"state\": \"gone\"\x7d\x7d"

/-- The filters of a new engine after it has restored them. -/
def openedOn (raw : Value) : Spec :=
  ((restore (.text "main") (holdingRaw raw)).2.engineOf (.text "main")).spec

/-- A new engine takes the kind over, and not the state. -/
theorem opens_iff_mixedText :
    Opens 0 "main" (holdingRaw (.text mixedText)) ∧
      (openedOn (.text mixedText)).kind = .text "function" ∧
      (openedOn (.text mixedText)).state = .text "all" := by
  have hkind : ((openedOn (.text mixedText)).kind == .text "function") = true := by
    decide +kernel
  have hstate : ((openedOn (.text mixedText)).state == .text "all") = true := by decide +kernel
  have hreadable : ¬ Unfathomable (content 0 (holdingRaw (.text mixedText))) ∧
      ¬ Misread (content 0 (holdingRaw (.text mixedText))) := by
    have hok : (decode mixedText).isOk = true := by decide +kernel
    rw [content_holdingRaw]
    match hdecode : decode mixedText with
    | .ok v => exact readable_of_decode hdecode
    | .error fault =>
      rw [hdecode] at hok
      cases hok
  exact ⟨(opens_iff rfl rfl).2 hreadable, (Value.beq_text_iff _ _).1 hkind,
    (Value.beq_text_iff _ _).1 hstate⟩

/-- A new engine fails on a list of lists that is nested too deeply. -/
theorem opening_fails_on_deepText :
    ((holdingRaw (.text Document.deepText)).engineOf (.text "main")).handle = some 0 ∧
      ((holdingRaw (.text Document.deepText)).engineOf (.text "main")).spec = .unconstrained ∧
      (restore (.text "main") (holdingRaw (.text Document.deepText))).1 = .error .tooDeep ∧
      ¬ Opens 0 "main" (holdingRaw (.text Document.deepText)) := by
  have hhandle : ((holdingRaw (.text Document.deepText)).engineOf (.text "main")).handle =
      some 0 := rfl
  have hdeep : Unfathomable (content 0 (holdingRaw (.text Document.deepText))) :=
    ⟨_, content_holdingRaw _, Document.tooDeep_deepText⟩
  have hresult := (restored_of_handle hhandle).result
  rw [documentFor_of_unfathomable hdeep] at hresult
  refine ⟨hhandle, rfl, hresult, fun hopens => ?_⟩
  rw [hopens.result] at hresult
  cases hresult

end SymbolSieve.Session

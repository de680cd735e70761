import SymbolSieve.Proofs.RecordIndex.Found

/-!
# Replacements that fail

When other records cannot be put in, one would expect an index to answer as it did before.  So it
does if there are no records at all in what it was given.  But if one of the records has no key that
can be written, the others have taken the place of the old ones by then, and the table of positions
ends before that record.  Then the old records are gone, the keys cannot be shown, and the records
that follow are there and cannot be found.

## What is here

* `Made`: the indices that there can be, after replacements that succeeded and others that failed.
* `Made.byKey_eq`: the table of each of them is made from its records, as far as that goes.
* `AnswersAlike`: two indices that cannot be told apart.
* `failed_replace_iff`: exactly when an index answers as before although a replacement has failed.
-/

set_option autoImplicit false

namespace SymbolSieve.RecordIndex

variable {index : RecordIndex} {records : Value} {vs : List Value}

/-! ## Indices -/

/-- The indices that there can be: without records at first, and after any number of replacements,
whether these succeeded or not. -/
inductive Made : RecordIndex → Prop
  | new (keyField : Value) : Made { keyField }
  | replace {index : RecordIndex} (h : Made index) (records : Value) : Made (index.replace records).1

/-- A replacement leaves a table that is made from the records, if it finds one. -/
theorem byKey_replace (h : index.byKey = (register index.keyField [] 0 index.records).1)
    (records : Value) : (index.replace records).1.byKey =
      (register (index.replace records).1.keyField [] 0 (index.replace records).1.records).1 := by
  cases hitems : records.items with
  | error e => rwa [replace_of_error index hitems]
  | ok vs => rw [replace_of_items index hitems]

/-- **The table of an index** is made from its records, as far as they have keys. -/
theorem Made.byKey_eq (h : Made index) :
    index.byKey = (register index.keyField [] 0 index.records).1 := by
  induction h with
  | new keyField => rfl
  | replace _ records ih => exact byKey_replace ih records

/-! ## Answers -/

/-- Two indices that give the same answers. -/
structure AnswersAlike (a b : RecordIndex) : Prop where
  keys : a.keys = b.keys
  get : ∀ key, a.get key = b.get key
  at_position : ∀ p, a.at? p = b.at? p
  size : a.size = b.size
  records : a.records = b.records

theorem AnswersAlike.refl (a : RecordIndex) : AnswersAlike a a :=
  ⟨rfl, fun _ => rfl, fun _ => rfl, rfl, rfl⟩

/-- An index does not show keys that cannot all be made. -/
theorem keys_of_failed {fault : ValueFault} (hitems : records.items = .ok vs)
    (hfault : (index.replace records).2 = .error fault) :
    (index.replace records).1.keys = .error fault := by
  rw [replace_of_items index hitems] at hfault ⊢
  rw [keys_eq]
  cases hkeys : keysFrom index.keyField 0 vs with
  | error e =>
    rw [hkeys] at hfault
    exact congrArg Except.error (Except.error.inj hfault)
  | ok ks =>
    rw [hkeys] at hfault
    cases hfault

/-- **After a replacement that failed** an index answers as before exactly if what it was given
could not be gone through, or was the list of the records that it has, with which it had failed
before and for which it cannot show keys. -/
theorem failed_replace_iff {fault : ValueFault} (h : Made index)
    (hfault : (index.replace records).2 = .error fault) :
    AnswersAlike index (index.replace records).1 ↔
      (∃ e, records.items = .error e) ∨
        records.items = .ok index.records ∧ index.keys = .error fault := by
  cases hitems : records.items with
  | error e =>
    rw [replace_of_error index hitems]
    exact iff_of_true (.refl index) (.inl ⟨e, rfl⟩)
  | ok vs =>
    have hkeys := keys_of_failed hitems hfault
    rw [replace_of_items index hitems] at hkeys ⊢
    constructor
    · intro halike
      exact .inr ⟨congrArg Except.ok halike.records.symm, halike.keys.trans hkeys⟩
    · rintro (⟨e, herror⟩ | ⟨hsame, -⟩)
      · cases herror
      · obtain rfl := Except.ok.inj hsame
        rw [← h.byKey_eq]
        exact .refl index

/-- An index with one record. -/
def single : RecordIndex where
  keyField := .text "id"
  records := [named "main"]
  byKey := [("main", 0)]

theorem made_single : Made single :=
  (Made.new (.text "id")).replace (.list [named "main"])

/-- A number is given in place of records. -/
theorem failed_replace_iff_number : Made single ∧
    (single.replace (.int 5)).2 = .error .wrongKind ∧
    AnswersAlike single (single.replace (.int 5)).1 :=
  ⟨made_single, rfl, (failed_replace_iff made_single rfl).2 (.inl ⟨.wrongKind, rfl⟩)⟩

/-- A record that has an integer as its key. -/
def numbered (n : Int) : Value := .map [("id", .int n)]

theorem keyAt_map {v : Value} (h : v.isNull = false) (position : Value) :
    keyAt (.text "id") (.map [("id", v)]) position = v.shown := by
  have hfield : Record.fieldUnder (.text "id") (.map [("id", v)]) = .ok v := by
    simp [Record.field, Value.field?, Value.fieldAt?, Value.part?, Assoc.get?, Option.filter, h]
  rw [keyAt, hfield]
  show (if v.isNull then _ else v.shown : Except ValueFault String) = _
  rw [h]
  rfl

theorem keyAt_numbered (n : Int) (position : Value) :
    keyAt (.text "id") (numbered n) position = intShown n := by
  rw [numbered, keyAt_map rfl, shown_int]

/-- An index with one record is given two others, the first of which has an integer as its key that
cannot be written. -/
theorem replace_numbered {n : Int} {fault : ValueFault} (h : intShown n = .error fault) :
    single.replace (.list [numbered n, named "other"]) =
      (⟨.text "id", [numbered n, named "other"], []⟩, .error fault) := by
  rw [replace_of_items single (Value.items_list _)]
  simp only [single, register, keysFrom_cons, keyAt_numbered, h]
  rfl

theorem intShown_limit : intShown (10 ^ digitLimit : Nat) = .error .tooManyDigits := by
  rw [intShown, if_neg (by decide +kernel)]

/-- The index has lost its record when that has failed: it cannot show its keys, and finds neither
the old record nor the second of the new ones. -/
theorem not_answersAlike_numbered : Made single ∧ ∃ after,
    single.replace (.list [numbered (10 ^ digitLimit : Nat), named "other"]) =
      (after, .error .tooManyDigits) ∧
    single.keys = .ok ["main"] ∧ after.keys = .error .tooManyDigits ∧
    single.get (.text "main") = .ok (some (named "main")) ∧
    after.get (.text "main") = .ok none ∧
    after.at? (.int 1) = .ok (some (named "other")) ∧ after.get (.text "other") = .ok none ∧
    ¬ AnswersAlike single after := by
  have hreplace := replace_numbered intShown_limit
  have hkeys := keys_of_failed (Value.items_list _) (congrArg Prod.snd hreplace)
  rw [hreplace] at hkeys
  refine ⟨made_single, _, hreplace, rfl, hkeys, rfl, rfl, rfl, rfl, fun halike => ?_⟩
  have hsame := halike.keys
  rw [hkeys] at hsame
  cases hsame

end SymbolSieve.RecordIndex

import SymbolSieve.Proofs.Number.Decimal
import SymbolSieve.Proofs.RecordIndex.Scan

/-!
# Whether every record is found

A record without a key goes by its position, and the sign before the number is meant to keep such a
name apart from the keys that records have.  Nothing keeps a record from having a key that begins
with this sign, though.  If it spells the position of a record without a key, there are two records
of one name, and an index finds only the first of them.

## What is here

* `HasKey`, `Lacks`: whether a record has a key.
* `Labelled`: records that have different keys, or none.
* `EachFound`: an index finds each of its records under the key that it shows for the record.
* `eachFound_iff`: so it is exactly if no key spells the position of a record that has none.
-/

set_option autoImplicit false

namespace SymbolSieve

/-- Integers with the same text are the same. -/
theorem intShown_inj {m n : Int} {t : String} (hm : intShown m = .ok t) (hn : intShown n = .ok t) :
    m = n := by
  rw [intShown] at hm hn
  split at hm
  next hmw =>
    split at hn
    next hnw =>
      have htext : Text.intText m = Text.intText n :=
        (Except.ok.inj hm).trans (Except.ok.inj hn).symm
      have hread := Number.leadingInt_intText hmw
      rw [htext, Number.leadingInt_intText hnw] at hread
      exact (Option.some.inj (Except.ok.inj hread)).symm
    next => cases hn
  next => cases hm

theorem shown_int (n : Int) : Value.shown (.int n) = intShown n := by
  rw [Value.shown, Value.quoted]
  simp

namespace RecordIndex

variable {keyField : Value} {vs : List Value} {ks : List String} {v : Value} {t : String}

/-! ## Keys of their own -/

/-- A record has a text as its key. -/
def HasKey (keyField record : Value) (t : String) : Prop :=
  Record.fieldUnder keyField record = .ok (.text t)

/-- A record has no key. -/
def Lacks (keyField record : Value) : Prop := Record.fieldUnder keyField record = .ok .null

/-- Records each of which has another text as its key, or none. -/
structure Labelled (keyField : Value) (vs : List Value) : Prop where
  each : ∀ v ∈ vs, Lacks keyField v ∨ ∃ t, HasKey keyField v t
  distinct : vs.Pairwise fun v w => ∀ t, HasKey keyField v t → ¬ HasKey keyField w t

theorem HasKey.not_lacks (h : HasKey keyField v t) : ¬ Lacks keyField v := by
  intro hlacks
  rw [Lacks, h] at hlacks
  cases hlacks

theorem HasKey.keyAt_eq (h : HasKey keyField v t) (position : Value) :
    keyAt keyField v position = .ok t := by
  rw [keyAt, h]
  rfl

/-- A record without a key goes by its position. -/
theorem Lacks.keyAt_eq (h : Lacks keyField v) (position : Value) :
    keyAt keyField v position = position.shown.map ("#" ++ ·) := by
  rw [keyAt, h]
  show (do return "#" ++ (← position.shown) : Except ValueFault String) = _
  cases position.shown <;> rfl

theorem Labelled.eq_of_hasKey (h : Labelled keyField vs) {i j : Nat} {w : Value}
    (hi : vs[i]? = some v) (hj : vs[j]? = some w) (hv : HasKey keyField v t)
    (hw : HasKey keyField w t) : i = j := by
  obtain ⟨hil, rfl⟩ := List.getElem?_eq_some_iff.1 hi
  obtain ⟨hjl, rfl⟩ := List.getElem?_eq_some_iff.1 hj
  have hdistinct := List.pairwise_iff_getElem.1 h.distinct
  rcases Nat.lt_trichotomy i j with hlt | heq | hgt
  · exact absurd hw (hdistinct i j hil hjl hlt t hv)
  · exact heq
  · exact absurd hv (hdistinct j i hjl hil hgt t hw)

/-! ## Keys of records -/

/-- The keys of all records can be made if the key of each can. -/
theorem exists_keysFrom_iff : (∃ ks, keysFrom keyField 0 vs = .ok ks) ↔
    ∀ (i : Nat) v, vs[i]? = some v → ∃ k, keyAt keyField v (.int i) = .ok k := by
  rw [keysFrom, exists_mapM_iff]
  constructor
  · exact fun h i v hv => h (v, i) (List.mem_zipIdx_iff_getElem?.2 hv)
  · rintro h ⟨v, i⟩ hmem
    exact h i v (List.mem_zipIdx_iff_getElem?.1 hmem)

theorem keyAt_of_getElem? (h : keysFrom keyField 0 vs = .ok ks) {i : Nat} {k : String}
    (hv : vs[i]? = some v) (hk : ks[i]? = some k) : keyAt keyField v (.int i) = .ok k := by
  have hzip : (vs.zipIdx)[i]? = some (v, i) := by simp [List.getElem?_zipIdx, hv]
  obtain ⟨hi, hr⟩ := List.getElem?_eq_some_iff.1 hzip
  obtain ⟨hj, rfl⟩ := List.getElem?_eq_some_iff.1 hk
  have hkey := (forall₂_of_keysFrom h).get hi hj
  rw [List.get_eq_getElem, hr] at hkey
  exact hkey

/-- There is a key at every position at which there is a record. -/
theorem exists_key (h : keysFrom keyField 0 vs = .ok ks) {i : Nat} (hv : vs[i]? = some v) :
    ∃ k, ks[i]? = some k := by
  obtain ⟨hi, -⟩ := List.getElem?_eq_some_iff.1 hv
  exact ⟨_, List.getElem?_eq_getElem (length_of_keysFrom h ▸ hi)⟩

theorem exists_record (h : keysFrom keyField 0 vs = .ok ks) {i : Nat} {k : String}
    (hk : ks[i]? = some k) : ∃ v, vs[i]? = some v := by
  obtain ⟨hi, -⟩ := List.getElem?_eq_some_iff.1 hk
  exact ⟨_, List.getElem?_eq_getElem (length_of_keysFrom h ▸ hi)⟩

/-! ## Records that are found -/

/-- The position of every record without a key has a text, and no record has that as its key. -/
def Unspelled (keyField : Value) (vs : List Value) : Prop :=
  ∀ (i : Nat) v, vs[i]? = some v → Lacks keyField v →
    ∃ t, intShown i = .ok t ∧ ∀ w ∈ vs, ¬ HasKey keyField w ("#" ++ t)

/-- An index shows different keys, and finds each of its records under the one that it shows for
it. -/
structure EachFound (index : RecordIndex) (vs : List Value) (ks : List String) : Prop where
  keys : index.keys = .ok ks
  nodup : ks.Nodup
  found : ∀ (i : Nat) v, vs[i]? = some v → ∃ k, ks[i]? = some k ∧ index.get (.text k) = .ok (some v)

theorem Unspelled.exists_keysFrom (hlabelled : Labelled keyField vs) (h : Unspelled keyField vs) :
    ∃ ks, keysFrom keyField 0 vs = .ok ks := by
  refine exists_keysFrom_iff.2 fun i v hv => ?_
  rcases hlabelled.each v (List.mem_of_getElem? hv) with hlacks | ⟨t, ht⟩
  · obtain ⟨t, ht, -⟩ := h i v hv hlacks
    exact ⟨"#" ++ t, by rw [hlacks.keyAt_eq, shown_int, ht]; rfl⟩
  · exact ⟨t, ht.keyAt_eq _⟩

/-- Records at different positions have different keys. -/
theorem Unspelled.eq_of_keys (hlabelled : Labelled keyField vs) (h : Unspelled keyField vs)
    (hks : keysFrom keyField 0 vs = .ok ks) {i j : Nat} {k : String} (hi : ks[i]? = some k)
    (hj : ks[j]? = some k) : i = j := by
  obtain ⟨v, hv⟩ := exists_record hks hi
  obtain ⟨w, hw⟩ := exists_record hks hj
  have hvk := keyAt_of_getElem? hks hv hi
  have hwk := keyAt_of_getElem? hks hw hj
  -- the name of a position against a key that a record has
  have hclash : ∀ {i v w}, vs[i]? = some v → w ∈ vs → Lacks keyField v →
      keyAt keyField v (.int (i : Nat)) = .ok k → ¬ HasKey keyField w k := by
    intro i v w hv hw hlacks hk
    obtain ⟨t, ht, hfree⟩ := h i v hv hlacks
    rw [hlacks.keyAt_eq, shown_int, ht] at hk
    exact Except.ok.inj hk ▸ hfree w hw
  rcases hlabelled.each v (List.mem_of_getElem? hv) with hvl | ⟨t, ht⟩ <;>
    rcases hlabelled.each w (List.mem_of_getElem? hw) with hwl | ⟨u, hu⟩
  · rw [hvl.keyAt_eq, shown_int] at hvk
    rw [hwl.keyAt_eq, shown_int] at hwk
    obtain ⟨a, ha, rfl⟩ := map_eq_ok_iff.1 hvk
    obtain ⟨b, hb, hab⟩ := map_eq_ok_iff.1 hwk
    obtain rfl : b = a := (String.append_right_inj "#").1 hab
    exact Int.ofNat_inj.1 (intShown_inj ha hb)
  · obtain rfl : u = k := Except.ok.inj ((hu.keyAt_eq _).symm.trans hwk)
    exact absurd hu (hclash hv (List.mem_of_getElem? hw) hvl hvk)
  · obtain rfl : t = k := Except.ok.inj ((ht.keyAt_eq _).symm.trans hvk)
    exact absurd ht (hclash hw (List.mem_of_getElem? hv) hwl hwk)
  · obtain rfl : t = k := Except.ok.inj ((ht.keyAt_eq _).symm.trans hvk)
    obtain rfl : u = t := Except.ok.inj ((hu.keyAt_eq _).symm.trans hwk)
    exact hlabelled.eq_of_hasKey hv hw ht hu

/-- Where all keys are different every record is found. -/
theorem Shows.eachFound {index : RecordIndex} (h : index.Shows vs ks)
    (hkeys : ∀ (i j : Nat) k, ks[i]? = some k → ks[j]? = some k → i = j) : index.EachFound vs ks where
  keys := h.keys
  nodup := List.pairwise_iff_getElem.2 fun i j hi hj hij heq =>
    Nat.ne_of_lt hij (hkeys i j _ (List.getElem?_eq_getElem hi)
      ((List.getElem?_eq_getElem hj).trans (congrArg some heq.symm)))
  found i v hv := by
    obtain ⟨hi, -⟩ := List.getElem?_eq_some_iff.1 hv
    have hk := List.getElem?_eq_getElem (h.length ▸ hi)
    refine ⟨_, hk, ?_⟩
    rw [h.first (.text _) _ i rfl hk fun j hj heq => Nat.ne_of_lt hj (hkeys j i _ heq hk), hv]

/-- Where every record is found, no key spells the position of a record that has none. -/
theorem EachFound.unspelled {index : RecordIndex} (h : index.EachFound vs ks)
    (hks : keysFrom keyField 0 vs = .ok ks) : Unspelled keyField vs := by
  intro i v hv hlacks
  obtain ⟨k, hk⟩ := exists_key hks hv
  have hname := keyAt_of_getElem? hks hv hk
  rw [hlacks.keyAt_eq, shown_int] at hname
  obtain ⟨t, ht, rfl⟩ := map_eq_ok_iff.1 hname
  refine ⟨t, ht, fun w hw hown => ?_⟩
  obtain ⟨j, hj⟩ := List.mem_iff_getElem?.1 hw
  obtain ⟨k, hkj⟩ := exists_key hks hj
  obtain rfl : "#" ++ t = k :=
    Except.ok.inj ((hown.keyAt_eq _).symm.trans (keyAt_of_getElem? hks hj hkj))
  obtain ⟨hi, -⟩ := List.getElem?_eq_some_iff.1 hk
  obtain rfl : i = j := (List.getElem?_inj hi h.nodup).1 (hk.trans hkj.symm)
  obtain rfl : v = w := Option.some.inj (hv.symm.trans hj)
  exact hown.not_lacks hlacks

/-- **Every record is found**, by an index that is given records with different keys or none,
exactly if no key spells the position of a record that has none. -/
theorem eachFound_iff {index : RecordIndex} (h : Labelled index.keyField vs) :
    (∃ after ks, index.replace (.list vs) = (after, .ok ()) ∧ after.EachFound vs ks) ↔
      Unspelled index.keyField vs := by
  constructor
  · rintro ⟨after, ks, hafter, hfound⟩
    rw [replace_of_items index (Value.items_list vs), Prod.mk.injEq] at hafter
    obtain ⟨rfl, -⟩ := hafter
    exact hfound.unspelled hfound.keys
  · intro hunspelled
    obtain ⟨ks, hks⟩ := hunspelled.exists_keysFrom h
    obtain ⟨after, hafter, hshows⟩ := exists_replace index (Value.items_list vs) hks
    exact ⟨after, ks, hafter, hshows.eachFound fun i j k => hunspelled.eq_of_keys h hks⟩

theorem intShown_one : intShown 1 = .ok "1" := by
  rw [intShown, if_pos (by decide +kernel)]
  rfl

/-- A record that has a key. -/
def named (t : String) : Value := .map [("id", .text t)]

/-- A record that has none. -/
def unnamed : Value := .map [("name", .text "main")]

theorem hasKey_named (t : String) : HasKey (.text "id") (named t) t := rfl

theorem lacks_unnamed : Lacks (.text "id") unnamed := rfl

theorem eq_of_hasKey_named {t u : String} (h : HasKey (.text "id") (named t) u) : t = u :=
  Value.text.inj (Except.ok.inj h)

/-- A record without a key stands between two others, one of which has a key that spells a position.
It is not the position of the record without a key. -/
def aside : List Value := [named "#2", unnamed, named "main"]

theorem labelled_aside : Labelled (.text "id") aside where
  each := by
    rw [aside, List.forall_mem_cons, List.forall_mem_cons, List.forall_mem_singleton]
    exact ⟨.inr ⟨_, hasKey_named _⟩, .inl lacks_unnamed, .inr ⟨_, hasKey_named _⟩⟩
  distinct := by
    rw [aside, List.pairwise_cons, List.pairwise_cons]
    refine ⟨fun w hw t ht hwt => ?_, fun w _ t ht _ => ht.not_lacks lacks_unnamed,
      List.pairwise_singleton _ _⟩
    obtain rfl := eq_of_hasKey_named ht
    obtain rfl | rfl : w = unnamed ∨ w = named "main" := by simpa using hw
    · exact hwt.not_lacks lacks_unnamed
    · exact absurd (eq_of_hasKey_named hwt) (by decide)

theorem unspelled_aside : Unspelled (.text "id") aside := by
  intro i v hv hlacks
  match i with
  | 0 | 2 =>
    obtain rfl := Option.some.inj hv
    exact absurd hlacks (hasKey_named _).not_lacks
  | 1 =>
    refine ⟨"1", intShown_one, fun w hw hown => ?_⟩
    obtain rfl | rfl | rfl : w = named "#2" ∨ w = unnamed ∨ w = named "main" := by
      simpa [aside] using hw
    · exact absurd (eq_of_hasKey_named hown) (by decide)
    · exact hown.not_lacks lacks_unnamed
    · exact absurd (eq_of_hasKey_named hown) (by decide)

/-- All three of them are found. -/
theorem eachFound_iff_aside : Labelled (.text "id") aside ∧
    ∃ after ks, replace { keyField := .text "id" } (.list aside) = (after, .ok ()) ∧
      after.EachFound aside ks :=
  ⟨labelled_aside, (eachFound_iff labelled_aside).2 unspelled_aside⟩

/-- A record without a key, after another one the key of which spells its position. -/
def spelled : List Value := [named "#1", unnamed]

/-- The second of these two is not found: the index shows the same key for both, and finds the
first. -/
theorem not_eachFound_spelled : Labelled (.text "id") spelled ∧
    (replace { keyField := .text "id" } (.list spelled)).1.keys = .ok ["#1", "#1"] ∧
    (replace { keyField := .text "id" } (.list spelled)).1.get (.text "#1") =
      .ok (some (named "#1")) ∧
    ¬ ∃ after ks, replace { keyField := .text "id" } (.list spelled) = (after, .ok ()) ∧
      after.EachFound spelled ks := by
  have hkeys : keysFrom (.text "id") 0 spelled = .ok ["#1", "#1"] := by decide +kernel
  have hlabelled : Labelled (.text "id") spelled := by
    constructor
    · rw [spelled, List.forall_mem_cons, List.forall_mem_singleton]
      exact ⟨.inr ⟨_, hasKey_named _⟩, .inl lacks_unnamed⟩
    · rw [spelled, List.pairwise_pair]
      exact fun t _ hown => hown.not_lacks lacks_unnamed
  obtain ⟨after, hreplace, hshows⟩ :=
    exists_replace { keyField := .text "id" } (Value.items_list spelled) hkeys
  rw [hreplace]
  refine ⟨hlabelled, hshows.keys, hshows.first _ "#1" 0 rfl rfl nofun, ?_⟩
  rintro ⟨after', ks, hafter, hfound⟩
  obtain rfl : after = after' := congrArg Prod.fst hafter
  obtain rfl := Except.ok.inj (hfound.keys.symm.trans hshows.keys)
  exact absurd hfound.nodup (by decide)

end RecordIndex

end SymbolSieve

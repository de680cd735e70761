import SymbolSieve.Proofs.Outcome
import SymbolSieve.RecordIndex
import SymbolSieve.Value.Order

/-!
# Looking keys up is going through the records

An index keeps the position of every key beside the records, and makes that table once, when the
records are put in.  The keys that it shows are made anew whenever it is asked for them.  The table
and the keys agree: what an index finds under a key is the first record that has the key, as one
would find it by going through the records one by one.

Each record of several with the same key has that key, whatever its field holds: a number and the
text of that number are one key, and so are the name of a position and a text that spells it.

## What is here

* `keysFrom`: the keys of records, the first of which is at any position.
* `snd_register`, `lookup_register`: what the table of positions says.
* `scan`: the first record with a key, found by going through them.
* `Shows`: everything that is expected of an index with certain records.
* `exists_replace`, `shows_of_replace`: an index whose records were replaced shows the new ones.
* `shows_current`: so it is after any number of replacements.
-/

set_option autoImplicit false

namespace SymbolSieve.RecordIndex

variable {keyField : Value} {vs : List Value} {ks : List String} {key : String}

/-! ## Keys -/

/-- The keys of records, the first of which is at a position. -/
def keysFrom (keyField : Value) (position : Nat) (vs : List Value) :
    Except ValueFault (List String) :=
  (vs.zipIdx position).mapM fun r => keyAt keyField r.1 (.int r.2)

theorem keys_eq (index : RecordIndex) : index.keys = keysFrom index.keyField 0 index.records := rfl

theorem keysFrom_cons (keyField : Value) (position : Nat) (v : Value) (vs : List Value) :
    keysFrom keyField position (v :: vs) = (do
      let k ← keyAt keyField v (.int position)
      return k :: (← keysFrom keyField (position + 1) vs)) := by
  rw [keysFrom, List.zipIdx_cons, List.mapM_cons]
  rfl

/-- Every record has a key. -/
theorem forall₂_of_keysFrom {position : Nat} (h : keysFrom keyField position vs = .ok ks) :
    List.Forall₂ (fun r k => keyAt keyField r.1 (.int r.2) = .ok k) (vs.zipIdx position) ks :=
  mapM_eq_ok_iff.1 h

theorem length_of_keysFrom {position : Nat} (h : keysFrom keyField position vs = .ok ks) :
    ks.length = vs.length := by
  rw [← (forall₂_of_keysFrom h).length_eq, List.length_zipIdx]

/-! ## The table of positions -/

/-- Making the table fails where making the keys does. -/
theorem snd_register (found : List (String × Nat)) (position : Nat) (vs : List Value) :
    (register keyField found position vs).2 = (keysFrom keyField position vs).map fun _ => () := by
  induction vs generalizing found position with
  | nil => rfl
  | cons v vs ih =>
    rw [register, keysFrom_cons]
    cases keyAt keyField v (.int position) with
    | error e => rfl
    | ok k =>
      dsimp only
      rw [ih]
      cases keysFrom keyField (position + 1) vs <;> rfl

/-- A key that is new in the table gets its position, and a key that is there keeps the one that it
has. -/
theorem lookup_noted (found : List (String × Nat)) (k key : String) (position : Nat) :
    (if (found.lookup k).isSome then found else found ++ [(k, position)]).lookup key =
      (found.lookup key).or (if k = key then some position else none) := by
  by_cases hkey : k = key
  · subst hkey
    cases hfound : found.lookup k with
    | some i => simp [hfound]
    | none => simp [List.lookup_append, hfound]
  · have hother : (key == k) = false := by simpa using Ne.symm hkey
    rw [if_neg hkey, Option.or_none]
    split
    · rfl
    · simp [List.lookup_append, List.lookup_cons, hother]

/-- **The table of positions** has the first position of every key, unless an earlier one was there
already. -/
theorem lookup_register (found : List (String × Nat)) {position : Nat}
    (h : keysFrom keyField position vs = .ok ks) (key : String) :
    (register keyField found position vs).1.lookup key =
      (found.lookup key).or ((ks.idxOf? key).map (· + position)) := by
  induction vs generalizing found position ks with
  | nil =>
    obtain rfl : [] = ks := Except.ok.inj h
    simp [register]
  | cons v vs ih =>
    rw [keysFrom_cons] at h
    obtain ⟨k, hk, h⟩ := bind_eq_ok_iff.1 h
    obtain ⟨rest, hrest, h⟩ := bind_eq_ok_iff.1 h
    obtain rfl : k :: rest = ks := Except.ok.inj h
    rw [register, hk]
    dsimp only
    rw [ih _ hrest, lookup_noted, Option.or_assoc, List.idxOf?_cons]
    congr 1
    by_cases hkey : k = key
    · simp [hkey]
    · cases rest.idxOf? key <;> simp [hkey, Nat.add_assoc, Nat.add_comm 1]

/-! ## Scanning -/

/-- The first record with a key, found by going through the records one by one. -/
def scan (ks : List String) (vs : List Value) (key : String) : Option Value :=
  ((ks.zip vs).find? fun e => e.1 == key).map Prod.snd

theorem scan_cons (k : String) (ks : List String) (v : Value) (vs : List Value) (key : String) :
    scan (k :: ks) (v :: vs) key = if k = key then some v else scan ks vs key := by
  by_cases hkey : k = key <;> simp [scan, hkey]

/-- What is found is at the first position of the key. -/
theorem scan_eq_bind_idxOf? (h : ks.length = vs.length) (key : String) :
    scan ks vs key = (ks.idxOf? key).bind (vs[·]?) := by
  induction ks generalizing vs with
  | nil => rfl
  | cons k ks ih =>
    obtain ⟨v, vs, rfl⟩ := List.exists_cons_of_length_eq_add_one h.symm
    rw [scan_cons, ih (by simpa using h), List.idxOf?_cons]
    by_cases hkey : k = key
    · simp [hkey]
    · cases ks.idxOf? key <;> simp [hkey]

/-- Nothing is found under a key that no record has. -/
theorem scan_of_not_mem (h : key ∉ ks) (vs : List Value) : scan ks vs key = none := by
  rw [scan, Option.map_eq_none_iff, List.find?_eq_none]
  rintro ⟨k, v⟩ he
  have hk : k ∈ ks := (List.of_mem_zip he).1
  simpa using fun heq : k = key => h (heq ▸ hk)

/-- Of several records with a key the first is found. -/
theorem scan_of_first {i : Nat} (hlength : ks.length = vs.length) (hi : ks[i]? = some key)
    (hfirst : ∀ j < i, ks[j]? ≠ some key) : scan ks vs key = vs[i]? := by
  induction ks generalizing vs i with
  | nil => cases hi
  | cons k ks ih =>
    obtain ⟨v, vs, rfl⟩ := List.exists_cons_of_length_eq_add_one hlength.symm
    rw [scan_cons]
    cases i with
    | zero =>
      obtain rfl : k = key := by simpa using hi
      simp
    | succ i =>
      have hne : k ≠ key := by simpa using hfirst 0 (Nat.succ_pos i)
      rw [if_neg hne]
      exact ih (by simpa using hlength) (by simpa using hi) fun j hj => by
        simpa using hfirst (j + 1) (Nat.succ_lt_succ hj)

/-! ## Indices -/

/-- Everything that is expected of an index with certain records, which have certain keys. -/
structure Shows (index : RecordIndex) (vs : List Value) (ks : List String) : Prop where
  keys : index.keys = .ok ks
  length : ks.length = vs.length
  get : ∀ key : Value, index.get key = key.shown.map (scan ks vs)
  /-- Nothing else can be found. -/
  missing : ∀ (key : Value) (t : String), key.shown = .ok t → t ∉ ks → index.get key = .ok none
  /-- Of several records with the same key the first is found. -/
  first : ∀ (key : Value) (t : String) (i : Nat), key.shown = .ok t → ks[i]? = some t →
    (∀ j < i, ks[j]? ≠ some t) → index.get key = .ok vs[i]?
  at_position : ∀ (p : Value) (n : Int), p.integer? = some n →
    index.at? p = .ok (if n < 0 then none else vs[n.toNat]?)
  size : index.size = vs.length
  records : index.records = vs

/-- Positions are looked up in the records as they are. -/
theorem at?_of_integer (index : RecordIndex) {p : Value} {n : Int} (h : p.integer? = some n) :
    index.at? p = .ok (if n < 0 then none else index.records[n.toNat]?) := by
  cases p with
  | int m =>
    obtain rfl : m = n := by simpa [Value.integer?] using h
    rfl
  | bool b =>
    obtain rfl : (b.toNat : Int) = n := by simpa [Value.integer?] using h
    have hnonneg : ¬ (b.toNat : Int) < 0 := by omega
    rw [if_neg hnonneg, Int.toNat_natCast]
    rfl
  | _ => cases h

/-- An index whose table was made from its records, without a failure, shows these. -/
theorem shows_of_register {index : RecordIndex}
    (htable : index.byKey = (register index.keyField [] 0 index.records).1)
    (hkeys : index.keys = .ok ks) : index.Shows index.records ks := by
  have hlength := length_of_keysFrom (index.keys_eq ▸ hkeys)
  have hget : ∀ key : Value, index.get key = key.shown.map (scan ks index.records) := by
    intro key
    rw [RecordIndex.get, htable]
    cases key.shown with
    | error e => rfl
    | ok t =>
      have hlookup := lookup_register [] (index.keys_eq ▸ hkeys) t
      show Except.ok (((register _ _ _ _).1.lookup t).bind _) = Except.ok (scan ks index.records t)
      rw [hlookup, scan_eq_bind_idxOf? hlength]
      simp
  refine ⟨hkeys, hlength, hget, fun key t ht hmem => ?_, fun key t i ht hi hfirst => ?_,
    fun p n => index.at?_of_integer, rfl, rfl⟩
  · rw [hget, ht]
    exact congrArg Except.ok (scan_of_not_mem hmem _)
  · rw [hget, ht]
    exact congrArg Except.ok (scan_of_first hlength hi hfirst)

/-! ## Replacements -/

/-- Records that cannot be gone through are not put in. -/
theorem replace_of_error {records : Value} {e : ValueFault} (index : RecordIndex)
    (h : records.items = .error e) : index.replace records = (index, .error e) := by
  rw [replace, h]

/-- Records that can be gone through are put in, whether all of them have keys or not. -/
theorem replace_of_items {records : Value} (index : RecordIndex) (h : records.items = .ok vs) :
    index.replace records =
      ({ index with records := vs, byKey := (register index.keyField [] 0 vs).1 },
        (keysFrom index.keyField 0 vs).map fun _ => ()) := by
  rw [replace, h, ← snd_register []]

/-- **Records that have keys** are put in and shown, whatever an index showed before. -/
theorem exists_replace {records : Value} (index : RecordIndex) (hitems : records.items = .ok vs)
    (hkeys : keysFrom index.keyField 0 vs = .ok ks) :
    ∃ after, index.replace records = (after, .ok ()) ∧ after.Shows vs ks := by
  have hreplace := replace_of_items index hitems
  rw [hkeys] at hreplace
  exact ⟨_, hreplace, shows_of_register rfl hkeys⟩

/-- A replacement that succeeds puts records in that have keys. -/
theorem shows_of_replace {index after : RecordIndex} {records : Value}
    (h : index.replace records = (after, .ok ())) :
    ∃ vs ks, records.items = .ok vs ∧ after.Shows vs ks := by
  cases hitems : records.items with
  | error e =>
    rw [replace_of_error index hitems] at h
    cases h
  | ok vs =>
    have hreturns := congrArg Prod.snd h
    rw [replace_of_items index hitems] at hreturns
    obtain ⟨ks, hkeys, -⟩ := map_eq_ok_iff.1 hreturns
    obtain ⟨after', hreplace, hshows⟩ := exists_replace index hitems hkeys
    obtain rfl : after' = after := congrArg Prod.fst (hreplace.symm.trans h)
    exact ⟨vs, ks, rfl, hshows⟩

/-- The index after its records were replaced again and again, as long as that succeeds. -/
def replaceEach (index : RecordIndex) : List Value → Except ValueFault RecordIndex
  | [] => .ok index
  | records :: rest => match index.replace records with
    | (after, .ok ()) => after.replaceEach rest
    | (_, .error e) => .error e

/-- The records that an index begins with. -/
def initialItems (initial : Value) : Except ValueFault (List Value) :=
  if initial.isNull then .ok [] else initial.items

/-- The records that were put in last. -/
def currentItems (before : Except ValueFault (List Value)) (lists : List Value) :
    Except ValueFault (List Value) :=
  (lists.getLast?.map Value.items).getD before

theorem currentItems_cons (before : Except ValueFault (List Value)) (records : Value)
    (lists : List Value) :
    currentItems before (records :: lists) = currentItems records.items lists := by
  rw [currentItems, List.getLast?_cons, currentItems]
  cases lists.getLast? <;> rfl

/-- A new index shows the records that it was made from. -/
theorem shows_of_ofRecords {initial : Value} {index : RecordIndex}
    (h : ofRecords keyField initial = .ok index) :
    ∃ vs ks, initialItems initial = .ok vs ∧ index.Shows vs ks := by
  rw [ofRecords] at h
  rw [initialItems]
  split at h
  next hnull =>
    obtain rfl := Except.ok.inj h
    exact ⟨[], [], if_pos hnull, shows_of_register rfl rfl⟩
  next hnull =>
    rw [if_neg hnull]
    split at h
    next after hafter =>
      obtain rfl := Except.ok.inj h
      exact shows_of_replace hafter
    next => cases h

theorem shows_of_replaceEach {before : Except ValueFault (List Value)} {index after : RecordIndex}
    {lists : List Value} (hbefore : ∃ vs ks, before = .ok vs ∧ index.Shows vs ks)
    (h : index.replaceEach lists = .ok after) :
    ∃ vs ks, currentItems before lists = .ok vs ∧ after.Shows vs ks := by
  induction lists generalizing before index with
  | nil =>
    obtain rfl := Except.ok.inj h
    exact hbefore
  | cons records lists ih =>
    rw [replaceEach] at h
    rw [currentItems_cons]
    split at h
    next next hnext => exact ih (shows_of_replace hnext) h
    next => cases h

/-- **An index shows the records that it was given last**, whatever its keys are made of, and
nothing of the records before these can be found. -/
theorem shows_current {initial : Value} {lists : List Value} {index : RecordIndex}
    (h : (ofRecords keyField initial >>= fun index => index.replaceEach lists) = .ok index) :
    ∃ vs ks, currentItems (initialItems initial) lists = .ok vs ∧ index.Shows vs ks := by
  obtain ⟨before, hbefore, hafter⟩ := bind_eq_ok_iff.1 h
  exact shows_of_replaceEach (shows_of_ofRecords hbefore) hafter

/-- Records with a number, the text of that number, nothing, and what stands for the position of the
one before. -/
def assorted : Value :=
  .list [.map [("id", .int 7)], .map [("id", .text "7")], .map [],
    .map [("id", .text "#2")]]

/-- The records take the place of another one, which took the place of none. -/
theorem shows_current_assorted : ∃ index,
    (ofRecords (.text "id") .null >>= fun index =>
      index.replaceEach [.list [.map [("id", .text "main")]], assorted]) = .ok index ∧
    ∃ vs ks, currentItems (initialItems .null) [.list [.map [("id", .text "main")]], assorted] =
      .ok vs ∧ index.Shows vs ks := by
  have hreturns : (ofRecords (.text "id") .null >>= fun index =>
      index.replaceEach [.list [.map [("id", .text "main")]], assorted]).isOk = true := by
    decide +kernel
  generalize hindex : (ofRecords (.text "id") .null >>= fun index =>
      index.replaceEach [.list [.map [("id", .text "main")]], assorted]) = replaced at hreturns
  cases replaced with
  | error e => cases hreturns
  | ok index => exact ⟨index, rfl, shows_current hindex⟩

end SymbolSieve.RecordIndex

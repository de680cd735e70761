import SymbolSieve.Proofs.Storage.Updates

/-!
# Storage in whatever condition

An access to storage under a text has a result or it does not, and in the second case the trouble is
one with the storage.  A read changes nothing that is stored, and a write nothing but the one value.
So an update of the document meets no other trouble either, unless what is stored or what is written
is nested too deeply.

## What is here

* `getItem_cases`, `setItem_cases`: what an access can come to; `onlyRead_getItem`, that a read
  writes nothing.
* `load_cases`: a document is loaded in whatever condition the storage is.
* `Flat`: values that have no parts; `written_flat` says that a document in which such values are
  put is not nested too deeply.
* `not_blocked_update`: an update never makes the document one that cannot be loaded.
* `update_flat`: an update with such values meets no other trouble than one with the storage.
-/

set_option autoImplicit false

namespace SymbolSieve

namespace Storage

/-! ## Accesses -/

/-- Connecting to a database leaves its rows as they are. -/
theorem rows_connect {h : Handle} {d d' : Database} (hconnect : connect h d = .ok d') :
    rows d' = rows d := by
  unfold connect at hconnect
  split at hconnect
  next => cases hconnect
  next =>
    split at hconnect
    next =>
      cases hconnect
      rfl
    next =>
      split at hconnect
      next => cases hconnect
      all_goals
        next hfile =>
          cases hconnect
          simp [rows, hfile]

/-- An access to the table of a database fails, or is made to the rows of the database. -/
theorem onTable_cases {α : Type} (h : Handle) (key : String) (access : Access) (d : Database)
    {action : Assoc String String → Except TableFault (α × Assoc String String)}
    (haction : ∀ rows, ∃ x after, action rows = .ok (x, after)) :
    (∃ e d', onTable h access (.text key) action d = (.error (.storage e), .database d') ∧
      rows d' = rows d) ∨
    ∃ x d', onTable h access (.text key) action d = (.ok x, .database d') ∧
      action (rows d) = .ok (x, rows d') := by
  rw [onTable]
  cases hconnect : connect h d with
  | error e => exact .inl ⟨e, d, rfl, rfl⟩
  | ok d' =>
    have hrows := rows_connect hconnect
    dsimp only
    cases hfile : d'.file with
    | absent => exact .inl ⟨_, d', rfl, hrows⟩
    | noTable => exact .inl ⟨_, d', rfl, hrows⟩
    | garbage => exact .inl ⟨_, d', rfl, hrows⟩
    | table rs =>
      obtain ⟨x, after, hok⟩ := haction rs
      have hrs : rows d = rs := by rw [← hrows, rows, hfile]
      exact .inr ⟨x, { d' with file := .table after }, by simp only [hok], by rw [hrs, hok]; rfl⟩

/-- **A read** fails or gives what is stored, and changes nothing that is stored. -/
theorem getItem_cases (h : Handle) (key : String) (s : Storage) :
    ∃ s', (∀ k, raw k s' = raw k s) ∧
      (getItem h (.text key) s = (.ok (raw key s), s') ∨
        ∃ e, getItem h (.text key) s = (.error (.storage e), s')) := by
  cases s with
  | memory m =>
    refine ⟨.memory (Memory.afterRead m), fun _ => rfl, ?_⟩
    cases hreads : m.faults.reads 0 with
    | true => exact .inr ⟨.unavailable, by simp [getItem, hreads]⟩
    | false => exact .inl (by simp [getItem, hreads, underKey, Value.isKey, raw])
  | database d =>
    have hfind : ∀ rows, ∃ v after, findRow (.text key) rows = .ok (v, after) :=
      fun rows => ⟨_, _, rfl⟩
    rcases onTable_cases h key .read d hfind with ⟨e, d', hread, hrows⟩ | ⟨v, d', hread, hok⟩
    · exact ⟨.database d', fun k => by rw [raw_database, raw_database, hrows], .inr ⟨e, hread⟩⟩
    · obtain ⟨hv, hrows⟩ := Prod.mk.inj (Except.ok.inj hok)
      refine ⟨.database d', fun k => by rw [raw_database, raw_database, ← hrows], .inl ?_⟩
      rw [getItem, hread, raw_database, ← hv]
      rfl

/-- Storage to which nothing was written: it has the texts that it had, and memory has not even been
asked to take one. -/
def OnlyRead : Storage → Storage → Prop
  | .memory m, .memory m' => m'.items = m.items ∧ m'.faults.writes = m.faults.writes
  | .database d, .database d' => rows d' = rows d
  | _, _ => False

theorem onlyRead_getItem (h : Handle) (key : String) (s : Storage) :
    OnlyRead s (getItem h (.text key) s).2 := by
  match s with
  | .memory m => exact ⟨rfl, rfl⟩
  | .database d =>
    have hfind : ∀ rows, ∃ v after, findRow (.text key) rows = .ok (v, after) :=
      fun rows => ⟨_, _, rfl⟩
    obtain ⟨e, d', hread, hrows⟩ | ⟨v, d', hread, hok⟩ := onTable_cases h key .read d hfind
    · rw [getItem, hread]
      exact hrows
    · rw [getItem, hread]
      exact (Prod.mk.inj (Except.ok.inj hok)).2.symm

/-- **A write** fails and changes nothing that is stored, or puts a text under the key. -/
theorem setItem_cases (h : Handle) (key t : String) (s : Storage) :
    ∃ s', (setItem h (.text key) (.text t) s = (.ok (), s') ∧
        ∀ k, raw k s' = if k = key then .text t else raw k s) ∨
      (∃ e, setItem h (.text key) (.text t) s = (.error (.storage e), s')) ∧
        ∀ k, raw k s' = raw k s := by
  cases s with
  | memory m =>
    cases hwrites : m.faults.writes 0 with
    | true =>
      exact ⟨.memory (Memory.afterWrite m), .inr ⟨⟨.unavailable, by simp [setItem, hwrites]⟩,
        fun _ => rfl⟩⟩
    | false =>
      refine ⟨.memory { Memory.afterWrite m with
        items := Assoc.put (.text key) (.text t) m.items }, .inl ⟨?_, fun k => ?_⟩⟩
      · simp [setItem, hwrites, underKey, Value.isKey]
      · simp only [raw, Assoc.get?_put_text]
        split <;> rfl
  | database d =>
    have hput : ∀ rows, ∃ u after, putRow (.text key) (.text t) rows = .ok (u, after) :=
      fun rows => ⟨_, _, rfl⟩
    rcases onTable_cases h key .write d hput with ⟨e, d', hwrite, hrows⟩ | ⟨u, d', hwrite, hok⟩
    · exact ⟨.database d', .inr ⟨⟨e, hwrite⟩, fun k => by
        rw [raw_database, raw_database, hrows]⟩⟩
    · have hrows : Assoc.put key t (rows d) = rows d' := (Prod.mk.inj (Except.ok.inj hok)).2
      refine ⟨.database d', .inl ⟨hwrite, fun k => ?_⟩⟩
      rw [raw_database, raw_database, ← hrows]
      by_cases hk : k = key
      · subst hk
        rw [if_pos rfl, Assoc.get?_put_self]
        rfl
      · rw [if_neg hk, Assoc.get?_put_of_ne _ _ hk]

end Storage

namespace Document

open Json Desk

/-! ## Loading -/

/-- A raw value under the key of the document that is nested too deeply. -/
def Blocked (s : Storage) : Prop := TooDeep (Storage.raw Vocabulary.stateKey s)

/-- The document for what a read has given. -/
def documentFor (content : Except AccessFault Value) : Except ValueFault Entries :=
  documentOf (content.bind (Storage.ofRaw key))

theorem documentFor_ok (raw : Value) : documentFor (.ok raw) = read raw :=
  (read_eq_documentOf raw).symm

/-- A text that cannot be read is replaced by the default document. -/
theorem read_of_corrupt {t : String} (h : ∀ v, decode t ≠ .ok v) (hdeep : ¬ TooDeep (.text t)) :
    read (.text t) = .ok default := by
  rw [read, key, Storage.ofRaw]
  rcases hdecode : decode t with (_ | _ | _ | _) | v
  · rfl
  · rfl
  · exact absurd ⟨t, rfl, hdecode⟩ hdeep
  · rfl
  · exact absurd hdecode (h v)

/-- Loading is a read, and a document for what it gives. -/
theorem run_load_getItem (h : Handle) (d : Desk) : ∃ log, (load h).run d =
    (documentFor (Storage.getItem h key d.storage).1,
      { d with storage := (Storage.getItem h key d.storage).2, log }) := by
  obtain ⟨log, hrun⟩ := run_load h d
  refine ⟨log, hrun.trans ?_⟩
  rw [onStorage, Storage.getJson, documentFor]
  obtain ⟨content | content, s⟩ := Storage.getItem h key d.storage <;> rfl

/-- **A document is loaded** in whatever condition the storage is, and nothing that is stored
changes. -/
theorem load_cases (h : Handle) {d : Desk} (hd : ¬ Blocked d.storage) :
    ∃ doc s log, (load h).run d = (.ok doc, { d with storage := s, log }) ∧ Sound doc ∧
      ∀ k, Storage.raw k s = Storage.raw k d.storage := by
  obtain ⟨s, hraw, hget⟩ := Storage.getItem_cases h Vocabulary.stateKey d.storage
  obtain ⟨log, hrun⟩ := run_load h d
  rcases hget with hget | ⟨e, hget⟩
  · obtain ⟨doc, hdoc⟩ := exists_read _ hd
    refine ⟨doc, s, log, ?_, (sound_of_read hdoc).1, hraw⟩
    rw [hrun]
    simp only [onStorage, key, Storage.getJson, hget]
    rw [show Value.text Vocabulary.stateKey = key from rfl, ← read_eq_documentOf, hdoc]
  · refine ⟨default, s, log, ?_, sound_default, hraw⟩
    rw [hrun]
    simp only [onStorage, key, Storage.getJson, hget]
    rfl

/-! ## Values without parts -/

/-- A value that has no parts and is no floating-point number. -/
def Flat : Value → Prop
  | .null | .bool _ | .int _ | .text _ => True
  | _ => False

theorem obstacle?_ne_tooDeep {depth : Nat} {v : Value} (hv : Flat v) :
    obstacle? depth v ≠ some .tooDeep := by
  cases v with
  | int n =>
    rw [obstacle?]
    split <;> simp
  | null | bool b | text s => simp [obstacle?]
  | _ => exact hv.elim

/-- An obstacle in a mapping is one in a value of it. -/
theorem exists_obstacle?_of_entries {depth : Nat} {es : Entries} {o : Obstacle}
    (h : obstacleEntries? depth es = some o) : ∃ e ∈ es, obstacle? depth e.2 = some o := by
  induction es with
  | nil => cases h
  | cons e es ih =>
    obtain ⟨k, v⟩ := e
    rw [obstacleEntries?, Option.or_eq_some_iff] at h
    rcases h with hv | ⟨-, hes⟩
    · exact ⟨(k, v), List.mem_cons_self, hv⟩
    · obtain ⟨e, he, ho⟩ := ih hes
      exact ⟨e, List.mem_cons_of_mem _ he, ho⟩

/-- **A document in which flat values are put** is not nested too deeply. -/
theorem written_flat {doc fs : Entries} (hsound : Sound doc) (hfs : ∀ e ∈ fs, Flat e.2)
    (k : String) (fault : ValueFault) :
    Storage.written Vocabulary.stateKey (.map (Assoc.put k (.map fs) doc)) ≠
      .error (.value fault) := by
  have hinner : ∀ e ∈ Assoc.put k (.map fs) doc,
      obstacle? innerDepth e.2 ≠ some .tooDeep := by
    intro e he hdeep
    rcases Assoc.snd_eq_or_mem_of_mem_put he with heq | hmem
    · rw [heq, obstacle?, if_neg (by decide)] at hdeep
      obtain ⟨e', he', hdeep'⟩ := exists_obstacle?_of_entries hdeep
      exact obstacle?_ne_tooDeep (hfs e' he') hdeep'
    · rw [((sound_iff.1 hsound).2 e hmem).2] at hdeep
      cases hdeep
  have hwhole : obstacle? depthLimit (.map (Assoc.put k (.map fs) doc)) ≠ some .tooDeep := by
    intro hdeep
    rw [obstacle?, if_neg (by decide)] at hdeep
    obtain ⟨e, he, ho⟩ := exists_obstacle?_of_entries hdeep
    exact hinner e he ho
  rw [Storage.written, encode]
  cases ho : obstacle? depthLimit (.map (Assoc.put k (.map fs) doc)) with
  | none => simp
  | some o =>
    cases o with
    | tooDeep => exact absurd ho hwhole
    | _ => simp

/-! ## Updates -/

/-- **An update** leaves the document such that it can be loaded again. -/
theorem not_blocked_update (h : Handle) {d : Desk} (hd : ¬ Blocked d.storage) (path : String)
    (value : Value) : ¬ Blocked ((update h path value).run d).2.storage := by
  obtain ⟨doc, s, log, hload, hsound, hraw⟩ := load_cases h hd
  have hnot : ¬ Blocked s := fun hdeep => hd (by rwa [Blocked, hraw] at hdeep)
  have hset := setJson_eq h Vocabulary.stateKey (.map (putAt value (keysOf path) doc)) s
  cases hwritten : Storage.written Vocabulary.stateKey (.map (putAt value (keysOf path) doc)) with
  | error e =>
    rw [hwritten] at hset
    rw [run_update_of_ok hload hset]
    exact hnot
  | ok t =>
    rw [hwritten] at hset
    obtain ⟨s', ⟨hput, hraw'⟩ | ⟨⟨e, hput⟩, hraw'⟩⟩ :=
      Storage.setItem_cases h Vocabulary.stateKey t s
    · rw [run_update_of_ok hload (hset.trans hput)]
      rintro ⟨t', ht', hdecode⟩
      rw [hraw', if_pos rfl] at ht'
      obtain rfl := Value.text.inj ht'
      rw [decode_written (nodup_keys_putAt _ _ (sound_iff.1 hsound).1) hwritten] at hdecode
      cases hdecode
    · rw [run_update_of_ok hload (hset.trans hput)]
      exact fun hdeep => hnot (by rwa [Blocked, hraw'] at hdeep)

/-- **An update with flat values** meets no other trouble than one with the storage, and leaves the
document such that it can be loaded again. -/
theorem update_flat (h : Handle) {d : Desk} (hd : ¬ Blocked d.storage) {fs : Entries}
    (hfs : ∀ e ∈ fs, Flat e.2) :
    (∀ fault, ((update h "filters" (.map fs)).run d).1 ≠ .error (.value fault)) ∧
      ¬ Blocked ((update h "filters" (.map fs)).run d).2.storage := by
  refine ⟨fun fault hfault => ?_, not_blocked_update h hd _ _⟩
  obtain ⟨doc, s, log, hload, hsound, -⟩ := load_cases h hd
  have hkeys : putAt (.map fs) (keysOf "filters") doc = Assoc.put "filters" (.map fs) doc := by
    rw [show keysOf "filters" = ["filters"] from by decide]
    rfl
  have hset := setJson_eq h Vocabulary.stateKey (.map (putAt (.map fs) (keysOf "filters") doc)) s
  cases hwritten : Storage.written Vocabulary.stateKey
      (.map (putAt (.map fs) (keysOf "filters") doc)) with
  | error e =>
    rw [hwritten] at hset
    rw [run_update_of_ok hload hset] at hfault
    have he : e = .value fault := Except.error.inj hfault
    rw [hkeys, he] at hwritten
    exact written_flat hsound hfs "filters" fault hwritten
  | ok t =>
    rw [hwritten] at hset
    obtain ⟨s', ⟨hput, -⟩ | ⟨⟨e, hput⟩, -⟩⟩ := Storage.setItem_cases h Vocabulary.stateKey t s <;>
    · rw [run_update_of_ok hload (hset.trans hput)] at hfault
      cases hfault

end Document

end SymbolSieve

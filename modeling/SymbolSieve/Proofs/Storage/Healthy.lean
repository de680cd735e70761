import SymbolSieve.Proofs.Outcome
import SymbolSieve.Storage.Basic

/-!
# Healthy storage

Storage is healthy for those who use it through a handle if no access of theirs fails.  It stays so
when it is used, and then it is no more than a raw value under every key, whether it is memory or a
database.

## What is here

* `Healthy`: storage of which no access through a handle fails.
* `raw`: what is stored under a key.
* `getItem_healthy`, `setItem_healthy`: reading changes nothing that is stored, and writing changes
  what is stored under the one key.
* `getJson_healthy`: reading a value as JSON text; `written`, the text that is written for a value.
-/

set_option autoImplicit false

namespace SymbolSieve

/-! ## Keys that are texts -/

theorem Value.beq_text_iff (v : Value) (s : String) : (v == .text s) = true ↔ v = .text s := by
  rw [Value.beq_eq_equal, Value.equal_text_right_iff]

theorem Value.text_beq_iff (v : Value) (s : String) : (.text s == v) = true ↔ v = .text s := by
  rw [Value.beq_eq_equal]
  cases v with
  | text t => rw [Value.equal_text, beq_iff_eq, Value.text.injEq, eq_comm]
  | _ => simp [Value.equal, Value.compareNumbers?, Value.number?, Value.integer?]

/-- A key that is a text is told apart from whatever other keys. -/
theorem Assoc.get?_text_put {α : Type} (key : Value) (other : String) (x : α)
    (xs : Assoc Value α) :
    Assoc.get? (.text other) (Assoc.put key x xs) =
      if key == .text other then some x else Assoc.get? (.text other) xs := by
  induction xs with
  | nil => simp only [Assoc.put, Assoc.get?]
  | cons e rest ih =>
    obtain ⟨k, y⟩ := e
    by_cases hk : k = .text other
    · subst hk
      by_cases hkey : key = .text other
      · simp [Assoc.put, Assoc.get?, hkey, Value.beq_text_iff]
      · simp [Assoc.put, Assoc.get?, hkey, Value.beq_text_iff, Value.text_beq_iff]
    · by_cases hkey : k == key
      · have hne : key ≠ .text other := by
          rintro rfl
          exact hk ((Value.beq_text_iff _ _).1 hkey)
        simp [Assoc.put, Assoc.get?, hk, hkey, hne, Value.beq_text_iff]
      · simp [Assoc.put, Assoc.get?, hk, hkey, Value.beq_text_iff, ih]

/-- Keys that are texts are told apart, among whatever other keys. -/
theorem Assoc.get?_put_text {α : Type} (key other : String) (x : α) (xs : Assoc Value α) :
    Assoc.get? (.text other) (Assoc.put (.text key) x xs) =
      if other = key then some x else Assoc.get? (.text other) xs := by
  rw [Assoc.get?_text_put]
  simp only [Value.beq_text_iff, Value.text.injEq, @eq_comm _ key]

namespace Storage

/-! ## Health -/

/-- A database that can be used through a handle: its directory can be made, and its table is there
or is about to be made. -/
def UsableDatabase (h : Handle) (d : Database) : Prop :=
  d.barrier = none ∧ match d.file with
    | .table _ => True
    | .absent | .noTable => d.used[h]?.getD false = false
    | .garbage => False

/-- Storage of which no access through a handle fails. -/
def Healthy (h : Handle) : Storage → Prop
  | .memory m => (∀ n, m.faults.reads n = false) ∧ ∀ n, m.faults.writes n = false
  | .database d => UsableDatabase h d

/-- What is stored under a key, null standing for nothing. -/
def raw (key : String) : Storage → Value
  | .memory m => (Assoc.get? (.text key) m.items).getD .null
  | .database d => match d.file with
    | .table rows => ((Assoc.get? key rows).map Value.text).getD .null
    | _ => .null

/-- The rows of a database. -/
def rows (d : Database) : Assoc String String := match d.file with
  | .table rows => rows
  | _ => []

theorem raw_database (key : String) (d : Database) :
    raw key (.database d) = ((Assoc.get? key (rows d)).map Value.text).getD .null := by
  cases hfile : d.file <;> simp [raw, rows, hfile, Assoc.get?]

/-- A usable database is opened with the rows that it has. -/
theorem connect_usable {h : Handle} {d : Database} (hd : UsableDatabase h d) :
    ∃ d', connect h d = .ok d' ∧ d'.barrier = none ∧ d'.file = .table (rows d) := by
  obtain ⟨hbarrier, hfile⟩ := hd
  rw [connect, rows]
  rw [hbarrier]
  cases hcase : d.file with
  | table rows =>
    dsimp only
    split
    · exact ⟨d, rfl, hbarrier, hcase⟩
    · exact ⟨_, rfl, rfl, rfl⟩
  | absent =>
    rw [hcase] at hfile
    simp only [hfile]
    exact ⟨_, rfl, rfl, rfl⟩
  | noTable =>
    rw [hcase] at hfile
    simp only [hfile]
    exact ⟨_, rfl, rfl, rfl⟩
  | garbage =>
    rw [hcase] at hfile
    exact hfile.elim

theorem onTable_usable {α : Type} {h : Handle} {d : Database} (hd : UsableDatabase h d)
    (access : Access) (key : Value) (action : Assoc String String → _) {x : α}
    {after : Assoc String String} (haction : action (rows d) = .ok (x, after)) :
    ∃ d', onTable h access key action d = (.ok x, .database d') ∧ UsableDatabase h d' ∧
      rows d' = after := by
  obtain ⟨d', hconnect, hbarrier, hfile⟩ := connect_usable hd
  refine ⟨{ d' with file := .table after }, ?_, ⟨hbarrier, trivial⟩, rfl⟩
  simp only [onTable, hconnect, hfile, haction]

/-! ## Raw values -/

/-- **Reading** healthy storage gives what is stored, and changes nothing that is stored. -/
theorem getItem_healthy {h : Handle} {s : Storage} (hs : Healthy h s) (key : String) :
    ∃ s', getItem h (.text key) s = (.ok (raw key s), s') ∧ Healthy h s' ∧
      ∀ k, raw k s' = raw k s := by
  cases s with
  | memory m =>
    refine ⟨.memory (Memory.afterRead m), ?_, ⟨fun n => hs.1 (n + 1), hs.2⟩, fun k => rfl⟩
    simp [getItem, hs.1 0, underKey, Value.isKey, raw]
  | database d =>
    obtain ⟨d', hread, hd', hrows⟩ := onTable_usable (h := h) (d := d) hs .read (.text key)
      (findRow (.text key)) rfl
    refine ⟨.database d', ?_, hd', fun k => by rw [raw_database, raw_database, hrows]⟩
    rw [getItem, hread, raw_database]
    rfl

/-- **Writing** to healthy storage changes what is stored under one key. -/
theorem setItem_healthy {h : Handle} {s : Storage} (hs : Healthy h s) (key t : String) :
    ∃ s', setItem h (.text key) (.text t) s = (.ok (), s') ∧ Healthy h s' ∧
      ∀ k, raw k s' = if k = key then .text t else raw k s := by
  cases s with
  | memory m =>
    refine ⟨.memory { Memory.afterWrite m with items := Assoc.put (.text key) (.text t) m.items },
      ?_, ⟨hs.1, fun n => hs.2 (n + 1)⟩, fun k => ?_⟩
    · simp [setItem, hs.2 0, underKey, Value.isKey]
    · simp only [raw, Assoc.get?_put_text]
      split <;> rfl
  | database d =>
    obtain ⟨d', hwrite, hd', hrows⟩ := onTable_usable (h := h) (d := d) hs .write (.text key)
      (putRow (.text key) (.text t)) rfl
    refine ⟨.database d', hwrite, hd', fun k => ?_⟩
    rw [raw_database, raw_database, hrows]
    by_cases hk : k = key
    · subst hk
      rw [if_pos rfl, Assoc.get?_put_self]
      rfl
    · rw [if_neg hk, Assoc.get?_put_of_ne _ _ hk]

/-! ## Values -/

theorem getJson_healthy {h : Handle} {s : Storage} (hs : Healthy h s) (key : String) :
    ∃ s', getJson h (.text key) s = (ofRaw (.text key) (raw key s), s') ∧ Healthy h s' ∧
      ∀ k, raw k s' = raw k s := by
  obtain ⟨s', hget, hs', hraw⟩ := getItem_healthy hs key
  exact ⟨s', by rw [getJson, hget], hs', hraw⟩

/-- The text of a value as it is stored, unless the value cannot be written. -/
def written (key : String) (v : Value) : Except AccessFault String :=
  match Json.encode v with
  | .ok t => .ok t
  | .error .tooDeep => .error (.value .tooDeep)
  | .error o => .error (.naming (.text key) (.notWritable · o))

end Storage

end SymbolSieve

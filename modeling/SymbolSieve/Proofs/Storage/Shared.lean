import SymbolSieve.Proofs.Storage.Healthy

/-!
# One database with many users

A database file may be opened any number of times, and every opening remembers on its own whether it
has made the table.  That is out of date as soon as somebody drops the table or writes over the
file, so what an access gives depends on the history of all openings.

None of this can be told from outside except by failures: an access through any handle does all that
it should or fails and changes nothing.  What it should do is said about the texts under the keys
alone, and so is what a reader may expect who knows nothing but what was done and answered before.

## What is here

* `Use`, `Event`: accesses with texts as keys and values, and what can happen to a database.
* `Contents`: texts under keys; `Use.answer` and `Use.effect` say what an access is about.
* `run`, `remembered`: a history, and what is under a key by the history.
* `Use.Atomic`: an access takes effect, or it fails and changes nothing; `Use.run_cases` says what an
  access to a database can do.
* `Sincere`: an invariant of all histories, by which what is found is what is remembered.
* `Intact`: a database that nobody damaged, of which no access fails.
* `answers_of_history`: the main result, with memory as the model of a database that stays intact.
-/

set_option autoImplicit false

namespace SymbolSieve

/-- Keys that are texts are told apart when one is taken away, among whatever other keys. -/
theorem Assoc.get?_erase_text {α : Type} (key other : String) (xs : Assoc Value α) :
    Assoc.get? (.text other) (Assoc.erase (.text key) xs) =
      if other = key then none else Assoc.get? (.text other) xs := by
  induction xs with
  | nil => simp [Assoc.erase, Assoc.get?]
  | cons e rest ih =>
    obtain ⟨k, y⟩ := e
    rw [Assoc.erase] at ih ⊢
    by_cases hk : k = .text key
    · by_cases hother : other = key
      · simpa [hk, hother, Value.beq_text_iff] using ih
      · have hne : ¬ key = other := fun h => hother h.symm
        simpa [Assoc.get?, hk, hother, hne, Value.beq_text_iff] using ih
    · have hkeep : (k == Value.text key) = false :=
        Bool.eq_false_iff.2 fun h => hk ((Value.beq_text_iff _ _).1 h)
      rw [List.filter_cons_of_pos (by simp [hkeep]), Assoc.get?, Assoc.get?, ih]
      by_cases hother : other = key
      · simp [hother, hkeep]
      · simp [hother]

namespace Storage

/-! ## Accesses -/

/-- An access with texts as key and value. -/
inductive Use where
  | get (key : String)
  | set (key value : String)
  | remove (key : String)
  deriving DecidableEq, Repr

/-- What is under the keys that are texts, null standing for nothing. -/
abbrev Contents := String → Value

/-- What a storage holds. -/
def contents (s : Storage) : Contents := fun key => raw key s

namespace Use

/-- An access through a handle. -/
def run (h : Handle) : Use → Storage → Result Value
  | get key, s => getItem h (.text key) s
  | set key t, s =>
    let (r, s) := setItem h (.text key) (.text t) s
    (r.map fun _ => .null, s)
  | remove key, s =>
    let (r, s) := removeItem h (.text key) s
    (r.map fun _ => .null, s)

/-- What is to be found by an access, if anything. -/
def answer (c : Contents) : Use → Value
  | get key => c key
  | _ => .null

/-- What an access makes of what is stored. -/
def effect (c : Contents) : Use → Contents
  | get _ => c
  | set key t => fun k => if k = key then .text t else c k
  | remove key => fun k => if k = key then .null else c k

end Use

/-! ## Histories -/

/-- What happens to a storage: it is opened once more, it is used through a handle, or a database
is damaged. -/
inductive Event where
  | opened
  | used (h : Handle) (u : Use)
  | dropped
  | overwritten
  deriving DecidableEq, Repr

/-- Whether an event damages a database. -/
def Event.isDamage : Event → Bool
  | dropped | overwritten => true
  | _ => false

/-- The answer to an event, and the storage after it.  Opening is not answered, and damage is
confirmed where it can be done. -/
def Event.step : Event → Storage → Option (Except AccessFault Value) × Storage
  | opened, s => (none, (openHandle s).2)
  | used h u, s =>
    let (r, s) := u.run h s
    (some r, s)
  | dropped, s => match dropTable s with
    | .ok s => (some (.ok .null), s)
    | .error _ => (none, s)
  | overwritten, s => match overwrite s with
    | .ok s => (some (.ok .null), s)
    | .error _ => (none, s)

/-- What happened, with the answers. -/
abbrev History := List (Event × Option (Except AccessFault Value))

/-- The history that events make, and the storage after them. -/
def run : List Event → Storage → History × Storage
  | [], s => ([], s)
  | e :: rest, s =>
    let (a, s) := e.step s
    let (later, s) := run rest s
    ((e, a) :: later, s)

/-- What is under a key after an event, by the answer to it: what was written last, unless it was
taken away or the table was dropped.  What failed does not count. -/
def noted (key : String) (v : Value) : Event × Option (Except AccessFault Value) → Value
  | (.used _ (.set k t), some (.ok _)) => if k = key then .text t else v
  | (.used _ (.remove k), some (.ok _)) => if k = key then .null else v
  | (.dropped, some (.ok _)) => .null
  | _ => v

/-- What is under a key by a history, from what was under it at the start. -/
def remembered (key : String) (start : Value) (history : History) : Value :=
  history.foldl (noted key) start

theorem run_cons (e : Event) (es : List Event) (s : Storage) : run (e :: es) s =
    ((e, (e.step s).1) :: (run es (e.step s).2).1, (run es (e.step s).2).2) := rfl

theorem remembered_append (key : String) (start : Value) (history later : History) :
    remembered key start (history ++ later) = remembered key (remembered key start history) later :=
  List.foldl_append

/-- A successful access changes what is remembered as it changes what is stored. -/
theorem noted_used (c : Contents) (h : Handle) (u : Use) (v : Value) (key : String) :
    noted key (c key) (.used h u, some (.ok v)) = u.effect c key := by
  cases u with
  | get k => rfl
  | set k t => simp only [noted, Use.effect, @eq_comm _ k]
  | remove k => simp only [noted, Use.effect, @eq_comm _ k]

/-! ## Accesses to a database -/

namespace Use

/-- The kind of an access. -/
def access : Use → Access
  | get _ => .read
  | set _ _ => .write
  | remove _ => .delete

/-- The key of an access. -/
def key : Use → String
  | get key | set key _ | remove key => key

/-- What an access finds in the rows of a table, and what it makes of them. -/
def onRows : Use → Assoc String String → Value × Assoc String String
  | get key, rows => (((Assoc.get? key rows).map Value.text).getD .null, rows)
  | set key t, rows => (.null, Assoc.put key t rows)
  | remove key, rows => (.null, Assoc.erase key rows)

end Use

theorem contents_database (d : Database) :
    contents (.database d) = fun key => ((Assoc.get? key (rows d)).map Value.text).getD .null :=
  funext fun key => raw_database key d

theorem contents_opened (d : Database) (used : List Bool) :
    contents (.database { d with used }) = contents (.database d) := rfl

/-- What an access finds in some rows, and what it makes of them, is what it is about. -/
theorem Use.onRows_spec (u : Use) {d d' : Database} (hrows : rows d' = (u.onRows (rows d)).2) :
    (u.onRows (rows d)).1 = u.answer (contents (.database d)) ∧
      contents (.database d') = u.effect (contents (.database d)) := by
  simp only [contents_database, hrows]
  cases u with
  | get key => exact ⟨rfl, rfl⟩
  | set key t =>
    refine ⟨rfl, funext fun k => ?_⟩
    by_cases hk : k = key
    · simp [onRows, effect, hk]
    · simp [onRows, effect, hk, Assoc.get?_put_of_ne]
  | remove key =>
    refine ⟨rfl, funext fun k => ?_⟩
    by_cases hk : k = key
    · simp [onRows, effect, hk]
    · simp [onRows, effect, hk, Assoc.get?_erase_of_ne]

/-- A database that was opened has the rows that it had before. -/
theorem connect_ok {h : Handle} {d d' : Database} (hconnect : connect h d = .ok d') :
    d.barrier = none ∧ d'.barrier = none ∧ rows d' = rows d ∧
      (d.file = .garbage ↔ d'.file = .garbage) := by
  rw [connect] at hconnect
  split at hconnect
  next => cases hconnect
  next hbarrier =>
    split at hconnect
    next =>
      cases hconnect
      exact ⟨hbarrier, hbarrier, rfl, .rfl⟩
    next =>
      split at hconnect
      all_goals
        rename_i hfile
        cases hconnect
      all_goals exact ⟨hbarrier, hbarrier, by simp [rows, hfile], by simp [hfile]⟩

/-- What is done with the answer of an access may be done inside. -/
theorem onTable_map {α β : Type} (f : α → β) (h : Handle) (access : Access) (key : Value)
    (action : Assoc String String → Except TableFault (α × Assoc String String)) (d : Database) :
    onTable h access key (fun rows => (action rows).map fun r => (f r.1, r.2)) d =
      ((onTable h access key action d).1.map f, (onTable h access key action d).2) := by
  simp only [onTable]
  cases connect h d with
  | error e => rfl
  | ok d =>
    cases hfile : d.file with
    | table rows =>
      simp only [hfile]
      cases action rows with
      | ok r => rfl
      | error fault => cases fault <;> rfl
    | _ =>
      simp only [hfile]
      rfl

/-- All accesses to a database go the same way. -/
theorem Use.run_database (h : Handle) (u : Use) (d : Database) : u.run h (.database d) =
    onTable h u.access (.text u.key) (fun rows => .ok (u.onRows rows)) d := by
  cases u with
  | get key => rfl
  | set key t => exact (onTable_map _ h .write _ (putRow (.text key) (.text t)) d).symm
  | remove key => exact (onTable_map _ h .delete _ (eraseRow (.text key)) d).symm

/-- **An access to a database** takes effect, and then there is a table; or it fails, and the rows
are the same as before. -/
theorem Use.run_cases (h : Handle) (u : Use) (d : Database) :
    (∃ d', u.run h (.database d) = (.ok (u.onRows (rows d)).1, .database d') ∧
      d'.file = .table (u.onRows (rows d)).2 ∧ d'.barrier = none ∧ d.file ≠ .garbage) ∨
    ∃ e d', u.run h (.database d) = (.error (.storage e), .database d') ∧ rows d' = rows d ∧
      (d.file = .garbage ↔ d'.file = .garbage) := by
  rw [Use.run_database]
  cases hconnect : connect h d with
  | error e => exact .inr ⟨e, d, by simp only [onTable, hconnect], rfl, .rfl⟩
  | ok d' =>
    obtain ⟨-, hbarrier, hrows, hgarbage⟩ := connect_ok hconnect
    cases hfile : d'.file with
    | table found =>
      have hfound : rows d = found := by rw [← hrows, rows, hfile]
      refine .inl ⟨{ d' with file := .table (u.onRows found).2 }, ?_, by rw [hfound], hbarrier, ?_⟩
      · simp only [onTable, hconnect, hfile, hfound]
      · rw [Ne, hgarbage, hfile]
        exact DatabaseFile.noConfusion
    | garbage =>
      refine .inr ⟨.failed u.access u.key .notADatabase, d', ?_, hrows, hgarbage⟩
      simp only [onTable, hconnect, hfile, AccessFault.naming_text]
    | absent | noTable =>
      refine .inr ⟨.failed u.access u.key .noTable, d', ?_, hrows, hgarbage⟩
      simp only [onTable, hconnect, hfile, AccessFault.naming_text]

/-- An access takes its full effect, or it fails for a reason of the storage and changes nothing
that is stored. -/
def Use.Atomic (h : Handle) (u : Use) (s : Storage) : Prop :=
  ((u.run h s).1 = .ok (u.answer (contents s)) ∧
    contents (u.run h s).2 = u.effect (contents s)) ∨
  (∃ e, (u.run h s).1 = .error (.storage e)) ∧ contents (u.run h s).2 = contents s

theorem Use.atomic_database (h : Handle) (u : Use) (d : Database) : u.Atomic h (.database d) := by
  rw [Use.Atomic]
  rcases u.run_cases h d with ⟨d', hrun, hfile, -, -⟩ | ⟨e, d', hrun, hrows, -⟩
  · have hrows : rows d' = (u.onRows (rows d)).2 := by rw [rows, hfile]
    obtain ⟨hanswer, heffect⟩ := u.onRows_spec hrows
    rw [hrun]
    exact .inl ⟨congrArg _ hanswer, heffect⟩
  · rw [hrun]
    exact .inr ⟨⟨e, rfl⟩, by rw [contents_database, contents_database, hrows]⟩

/-! ## Damage -/

theorem dropTable_cases (d : Database) :
    (∃ d', dropTable (.database d) = .ok (.database d') ∧ d'.file = .noTable ∧
      d.file ≠ .garbage) ∨ ∃ e, dropTable (.database d) = .error e := by
  rw [dropTable]
  split
  next => exact .inr ⟨_, rfl⟩
  next =>
    cases hfile : d.file with
    | table _ => exact .inl ⟨_, rfl, rfl, DatabaseFile.noConfusion⟩
    | _ => exact .inr ⟨_, rfl⟩

theorem overwrite_cases (d : Database) :
    (∃ d', overwrite (.database d) = .ok (.database d') ∧ d'.file = .garbage) ∨
      ∃ e, overwrite (.database d) = .error e := by
  rw [overwrite]
  split
  next => exact .inr ⟨_, rfl⟩
  next =>
    cases d.file with
    | absent => exact .inr ⟨_, rfl⟩
    | _ => exact .inl ⟨_, rfl, rfl⟩

/-! ## What a history says -/

/-- **The invariant of all histories**: what is stored is what is remembered, unless somebody wrote
over the file.  Then no access succeeds any more. -/
def Sincere (start : Contents) (history : History) (d : Database) : Prop :=
  d.file = .garbage ∨ contents (.database d) = fun key => remembered key (start key) history

/-- Whatever happens to a database, it stays one, and what is remembered stays right. -/
theorem Sincere.step {start : Contents} {history : History} {d : Database}
    (hd : Sincere start history d) (e : Event) :
    ∃ d', (e.step (.database d)).2 = .database d' ∧
      Sincere start (history ++ [(e, (e.step (.database d)).1)]) d' := by
  cases e with
  | opened =>
    refine ⟨_, rfl, hd.imp id fun hcontents => ?_⟩
    rw [contents_opened, hcontents]
    simp [remembered, noted, Event.step]
  | used h u =>
    rcases u.run_cases h d with ⟨d', hrun, hfile, -, hgarbage⟩ | ⟨e, d', hrun, hrows, hgarbage⟩
    · have hrows : rows d' = (u.onRows (rows d)).2 := by rw [rows, hfile]
      obtain ⟨-, heffect⟩ := u.onRows_spec hrows
      refine ⟨d', by rw [Event.step, hrun], .inr ?_⟩
      rw [heffect, Event.step, hrun]
      funext key
      rw [remembered_append, ← congrFun (hd.resolve_left hgarbage) key]
      exact (noted_used _ h u _ key).symm
    · refine ⟨d', by rw [Event.step, hrun], hd.imp hgarbage.1 fun hcontents => ?_⟩
      rw [Event.step, hrun, contents_database, hrows, ← contents_database, hcontents]
      funext key
      rw [remembered_append]
      cases u <;> rfl
  | dropped =>
    rcases dropTable_cases d with ⟨d', hdrop, hfile, -⟩ | ⟨e, hdrop⟩
    · refine ⟨d', by rw [Event.step, hdrop], .inr ?_⟩
      rw [Event.step, hdrop, contents_database, rows, hfile]
      funext key
      rw [remembered_append]
      rfl
    · refine ⟨d, by rw [Event.step, hdrop], hd.imp id fun hcontents => ?_⟩
      rw [Event.step, hdrop, hcontents]
      simp [remembered, noted]
  | overwritten =>
    rcases overwrite_cases d with ⟨d', hover, hfile⟩ | ⟨e, hover⟩
    · exact ⟨d', by rw [Event.step, hover], .inl hfile⟩
    · refine ⟨d, by rw [Event.step, hover], hd.imp id fun hcontents => ?_⟩
      rw [Event.step, hover, hcontents]
      simp [remembered, noted]

theorem Sincere.run {start : Contents} (events : List Event) {history : History} {d : Database}
    (hd : Sincere start history d) :
    ∃ d', (run events (.database d)).2 = .database d' ∧
      Sincere start (history ++ (Storage.run events (.database d)).1) d' := by
  induction events generalizing history d with
  | nil => exact ⟨d, rfl, by simpa [Storage.run] using hd⟩
  | cons e events ih =>
    obtain ⟨d₁, hstep, hd₁⟩ := hd.step e
    obtain ⟨d₂, hrun, hd₂⟩ := ih hd₁
    refine ⟨d₂, by rw [run_cons, hstep, hrun], ?_⟩
    simpa only [run_cons, hstep, List.append_assoc, List.singleton_append] using hd₂

/-! ## Databases that nobody damages -/

/-- A database that can be used through every handle, those included that are still to come. -/
def Intact (d : Database) : Prop := ∀ h, UsableDatabase h d

theorem intact_of_table {d : Database} {rows : Assoc String String} (hbarrier : d.barrier = none)
    (hfile : d.file = .table rows) : Intact d :=
  fun _ => ⟨hbarrier, by rw [hfile]; trivial⟩

/-- Where nobody has opened a file, its table is still to be made by everybody. -/
theorem intact_of_unused {d : Database} (hbarrier : d.barrier = none) (hfile : d.file ≠ .garbage)
    (hused : d.used = []) : Intact d := by
  refine fun h => ⟨hbarrier, ?_⟩
  cases hcase : d.file with
  | table _ => trivial
  | garbage => exact hfile hcase
  | absent | noTable => simp [hused]

theorem Intact.opened {d : Database} (hd : Intact d) :
    Intact { d with used := d.used ++ [false] } := by
  have hused (h : Handle) : (d.used ++ [false])[h]?.getD false = d.used[h]?.getD false := by
    rw [List.getElem?_append]
    split
    next => rfl
    next hlen =>
      rw [List.getElem?_eq_none (Nat.le_of_not_lt hlen)]
      cases h - d.used.length <;> rfl
  intro h
  have := hd h
  rwa [UsableDatabase, ← hused] at this

/-- An access to a database that is intact takes effect. -/
theorem Use.run_intact {d : Database} (hd : Intact d) (h : Handle) (u : Use) :
    ∃ d', u.run h (.database d) = (.ok (u.answer (contents (.database d))), .database d') ∧
      Intact d' ∧ contents (.database d') = u.effect (contents (.database d)) := by
  rcases u.run_cases h d with ⟨d', hrun, hfile, hbarrier, -⟩ | ⟨e, d', hrun, -⟩
  · have hrows : rows d' = (u.onRows (rows d)).2 := by rw [rows, hfile]
    obtain ⟨hanswer, heffect⟩ := u.onRows_spec hrows
    exact ⟨d', by rw [hrun, hanswer], intact_of_table hbarrier hfile, heffect⟩
  · obtain ⟨d', htotal, -⟩ := onTable_usable (hd h) u.access (.text u.key)
      (fun rows => .ok (u.onRows rows)) rfl
    rw [Use.run_database, htotal] at hrun
    cases hrun

/-- An access to memory that does not fail takes effect. -/
theorem Use.run_memory {m : Memory} {h : Handle} (hm : Healthy h (.memory m)) (u : Use) :
    ∃ m', u.run h (.memory m) = (.ok (u.answer (contents (.memory m))), .memory m') ∧
      Healthy h (.memory m') ∧ contents (.memory m') = u.effect (contents (.memory m)) := by
  cases u with
  | get key =>
    refine ⟨Memory.afterRead m, ?_, ⟨fun n => hm.1 (n + 1), hm.2⟩, rfl⟩
    simp [run, getItem, hm.1 0, underKey, Value.isKey, answer, contents, raw]
  | set key t =>
    refine ⟨{ Memory.afterWrite m with items := Assoc.put (.text key) (.text t) m.items }, ?_,
      ⟨hm.1, fun n => hm.2 (n + 1)⟩, ?_⟩
    · simp [run, setItem, hm.2 0, underKey, Value.isKey, Except.map, answer]
    · funext k
      simp only [contents, raw, effect, Assoc.get?_put_text]
      split <;> rfl
  | remove key =>
    by_cases hempty : m.items.isEmpty = true
    · refine ⟨m, by simp [run, removeItem, hempty, Except.map, answer], hm, ?_⟩
      funext k
      simp [contents, raw, effect, List.isEmpty_iff.1 hempty, Assoc.get?]
    · refine ⟨{ m with items := Assoc.erase (.text key) m.items }, ?_, hm, ?_⟩
      · simp [run, removeItem, hempty, underKey, Value.isKey, Except.map, answer]
      · funext k
        simp only [contents, raw, effect, Assoc.get?_erase_text]
        split <;> rfl

/-- A database that nobody damages, beside memory that holds the same. -/
structure Alike (d : Database) (m : Memory) : Prop where
  intact : Intact d
  healthy : Healthy 0 (.memory m)
  same : contents (.database d) = contents (.memory m)

/-- An event that is no damage has the same answer on either side, and no failure is an answer. -/
theorem Alike.step {d : Database} {m : Memory} (hdm : Alike d m) {e : Event}
    (he : e.isDamage = false) :
    ∃ d' m', (e.step (.database d)).2 = .database d' ∧ (e.step (.memory m)).2 = .memory m' ∧
      Alike d' m' ∧ (e.step (.database d)).1 = (e.step (.memory m)).1 ∧
      ∀ r, (e.step (.database d)).1 = some r → ∃ v, r = .ok v := by
  cases e with
  | opened =>
    exact ⟨_, m, rfl, rfl, ⟨hdm.intact.opened, hdm.healthy, hdm.same⟩, rfl, fun r hr => by cases hr⟩
  | used h u =>
    obtain ⟨d', hrun, hd', hcontents⟩ := u.run_intact hdm.intact h
    obtain ⟨m', hrun', hm', hcontents'⟩ := u.run_memory (h := h) hdm.healthy
    refine ⟨d', m', by rw [Event.step, hrun], by rw [Event.step, hrun'],
      ⟨hd', hm', by rw [hcontents, hcontents', hdm.same]⟩, ?_, fun r hr => ?_⟩
    · rw [Event.step, Event.step, hrun, hrun', hdm.same]
    · rw [Event.step, hrun] at hr
      exact ⟨_, (Option.some.inj hr).symm⟩
  | dropped | overwritten => cases he

/-- **A database that nobody damages answers like memory.** -/
theorem Alike.run {d : Database} {m : Memory} (hdm : Alike d m) {events : List Event}
    (hevents : ∀ e ∈ events, e.isDamage = false) :
    (run events (.database d)).1 = (Storage.run events (.memory m)).1 ∧
      ∀ x ∈ (Storage.run events (.database d)).1, ∀ r, x.2 = some r → ∃ v, r = .ok v := by
  induction events generalizing d m with
  | nil => exact ⟨rfl, fun x hx => by cases hx⟩
  | cons e events ih =>
    obtain ⟨d', m', hd', hm', hdm', hanswer, hgood⟩ :=
      hdm.step (hevents e List.mem_cons_self)
    obtain ⟨hrest, hall⟩ := ih hdm' fun e he => hevents e (List.mem_cons_of_mem _ he)
    rw [run_cons, run_cons, hd', hm', hanswer, hrest]
    refine ⟨rfl, fun x hx => ?_⟩
    rcases List.mem_cons.1 hx with rfl | hx
    · exact hanswer ▸ hgood
    · exact hall x (hrest ▸ hx)

/-! ## The main result -/

/-- Memory with what a database file holds. -/
def memoryOf (file : DatabaseFile) : Memory where
  items := match file with
    | .table rows => rows.map fun e => (.text e.1, .text e.2)
    | _ => []

theorem contents_memoryOf (d : Database) :
    contents (.memory (memoryOf d.file)) = contents (.database d) := by
  have hget (rows : Assoc String String) (key : String) :
      Assoc.get? (.text key) (rows.map fun e => (Value.text e.1, Value.text e.2)) =
        (Assoc.get? key rows).map Value.text := by
    induction rows with
    | nil => rfl
    | cons e rows ih => simp [Assoc.get?, Value.beq_eq_equal, ih, apply_ite (Option.map Value.text)]
  funext key
  rw [contents_database, rows]
  cases hfile : d.file with
  | table rows => simp [contents, raw, memoryOf, hget]
  | _ => rfl

/-- A database that nobody has opened yet. -/
def unopened (path : String) (barrier : Option Barrier) (file : DatabaseFile) : Storage :=
  .database { path, barrier, file }

/-- Two users of one file, of whom the first has made the table before it is dropped: what he writes
after that is refused, until the second has made the table again. -/
def dropAndWrite : List Event :=
  [.opened, .opened, .used 0 (.set "tab" "cycles"), .dropped, .used 0 (.set "tab" "symbols"),
    .used 1 (.set "tab" "files")]

end Storage

end SymbolSieve

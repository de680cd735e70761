import SymbolSieve.Preset
import SymbolSieve.Proofs.Storage.Documents

/-!
# Presets on healthy storage

The list of presets is a function of the raw value under its key, and every operation on it reads
that list and perhaps stores another one, which is read as itself.

## What is here

* `presetsOf`: the presets for a raw value; `presetsOf_eq_error_iff` says when there are none.
* `listText`: the text of a list of presets; `presetsOf_listText` says that it is read as that list.
* `simulates_load`, `simulates_save`, `simulates_add`, `simulates_remove`, `simulates_get`: the
  operations, seen from outside; `addView` and `removeView` say what they make of a view.
* `freshIdOf`: the ids of new presets; `freshIdOf_injective` says that the counter tells them apart.
-/

set_option autoImplicit false

namespace SymbolSieve.PresetStore

open Json Desk

/-! ## Lists as texts -/

/-- The presets for what was read; the built-in ones take the place of what is no list. -/
def listOf : Except AccessFault Value → Except ValueFault (List Preset)
  | .error (.value fault) => .error fault
  | .error (.storage _) => .ok Preset.builtIn
  | .ok (.list vs) => .ok (vs.filterMap fun v => (Preset.ofValue v).toOption)
  | .ok _ => .ok Preset.builtIn

/-- The presets for a raw value. -/
def presetsOf (key : String) (raw : Value) : Except ValueFault (List Preset) :=
  listOf (Storage.ofRaw (.text key) raw)

/-- **Every raw value stands for presets**, unless it is nested too deeply. -/
theorem presetsOf_eq_error_iff (key : String) (raw : Value) (fault : ValueFault) :
    presetsOf key raw = .error fault ↔ Document.TooDeep raw ∧ fault = .tooDeep := by
  rw [← Document.ofRaw_eq_value_error_iff key, presetsOf]
  generalize Storage.ofRaw (.text key) raw = r
  unfold listOf
  split <;> simp_all

theorem exists_presetsOf (key : String) (raw : Value) (h : ¬ Document.TooDeep raw) :
    ∃ ps, presetsOf key raw = .ok ps := by
  cases hread : presetsOf key raw with
  | ok ps => exact ⟨ps, rfl⟩
  | error fault => exact absurd ((presetsOf_eq_error_iff key raw fault).1 hread).1 h

/-- A list of presets as a value. -/
def listValue (ps : List Preset) : Value := .list (ps.map fun p => .map p.entries)

/-- A list of presets as a text. -/
def listText (ps : List Preset) : String := String.ofList (text (listValue ps))

theorem faithful_entries (p : Preset) : Faithful Document.innerDepth (.map p.entries) := by
  refine Document.faithful_map_iff.2 ⟨by simp [Preset.entries, Preset.entriesOf, Assoc.keys],
    fun e he => ?_⟩
  rcases (by simpa [Preset.entries, Preset.entriesOf] using he : e = _ ∨ e = _ ∨ e = _) with
    rfl | rfl | rfl <;> exact Document.faithful_text _ _

theorem faithful_listValue (ps : List Preset) : Faithful depthLimit (listValue ps) := by
  refine faithful_list ?_
  induction ps with
  | nil => exact ⟨trivial, rfl⟩
  | cons p ps ih =>
    obtain ⟨hplain, hobstacle⟩ := faithful_entries p
    refine ⟨⟨hplain, ih.1⟩, ?_⟩
    rw [List.map_cons, obstacleItems?, Option.or_eq_none_iff]
    exact ⟨hobstacle, ih.2⟩

theorem encode_listValue (ps : List Preset) : encode (listValue ps) = .ok (listText ps) := by
  rw [encode, (faithful_listValue ps).2]
  rfl

@[simp] theorem ofValue_entries (p : Preset) : Preset.ofValue (.map p.entries) = .ok p := rfl

/-- **A stored list of presets is read as that list.** -/
@[simp] theorem presetsOf_listText (key : String) (ps : List Preset) :
    presetsOf key (.text (listText ps)) = .ok ps := by
  have hread : decode (listText ps) = .ok (listValue ps) := by
    rw [decode_encode (encode_listValue ps), reread_of_plain _ (faithful_listValue ps).1]
  have hvalues : (ps.map fun p => Value.map p.entries).filterMap
      (fun v => (Preset.ofValue v).toOption) = ps := by
    rw [List.filterMap_map]
    exact List.filterMap_some
  rw [presetsOf, Storage.ofRaw, hread]
  exact congrArg Except.ok hvalues

/-! ## Ids -/

/-- The id that a new preset gets at a time in milliseconds, with the number of its draw. -/
def freshIdOf (ms : Int) (n : Nat) : String :=
  "preset-" ++ Text.intText ms ++ "-" ++ String.ofList (Text.hexText 8 n)

theorem minus_not_mem_hexText (width n : Nat) : '-' ∉ Text.hexText width n := by
  intro h
  obtain ⟨d, hd, heq⟩ := Text.exists_digit_of_mem_hexText h
  have hall : ∀ d : Fin 16, '-' ≠ Nat.digitChar d := by decide
  exact hall ⟨d, hd⟩ heq

/-- What stands behind the last minus sign of a text. -/
theorem eq_of_append_minus {a b c d : List Char} (hb : '-' ∉ b) (hd : '-' ∉ d)
    (h : a ++ '-' :: b = c ++ '-' :: d) : b = d := by
  rcases List.append_eq_append_iff.1 h with ⟨between, -, heq⟩ | ⟨between, -, heq⟩
  · cases between with
    | nil => exact (List.cons.inj heq).2
    | cons x xs =>
      obtain rfl := (List.cons.inj heq).2
      exact absurd (by simp) hb
  · cases between with
    | nil => exact (List.cons.inj heq).2.symm
    | cons x xs =>
      obtain rfl := (List.cons.inj heq).2
      exact absurd (by simp) hd

/-- **Different draws give different ids**, whatever the time. -/
theorem freshIdOf_injective {ms ms' : Int} {n n' : Nat} (h : freshIdOf ms n = freshIdOf ms' n') :
    n = n' := by
  refine Text.hexText_injective 8 (eq_of_append_minus (minus_not_mem_hexText 8 n)
    (minus_not_mem_hexText 8 n') (a := ("preset-" ++ Text.intText ms).toList)
    (c := ("preset-" ++ Text.intText ms').toList) ?_)
  simpa [freshIdOf] using congrArg String.toList h

/-- The ids of new presets are none of those that the built-in presets have. -/
theorem id_ne_freshIdOf_of_mem_builtIn {p : Preset} (hp : p ∈ Preset.builtIn) (ms : Int) (n : Nat) :
    p.id ≠ freshIdOf ms n := by
  intro heq
  have hids : ∀ p ∈ Preset.builtIn, p.id.toList.head? ≠ some 'p' := by decide
  have hhead : (freshIdOf ms n).toList.head? = some 'p' := by simp [freshIdOf]
  exact hids p hp (heq ▸ hhead)

/-! ## Operations -/

variable {h : Handle}

theorem run_readOne (x : Value) (d : Desk) :
    ∃ log, readOne x d = ((Preset.ofValue x).toOption, { d with log }) := by
  rw [readOne]
  cases Preset.ofValue x with
  | ok p => exact ⟨d.log, rfl⟩
  | error fault => exact ⟨_, rfl⟩

/-- Reading presets writes to the log and does nothing else. -/
theorem run_readAll (xs : List Value) (d : Desk) : ∃ log, readAll xs d =
    (xs.filterMap fun x => (Preset.ofValue x).toOption, { d with log }) := by
  induction xs generalizing d with
  | nil => exact ⟨d.log, rfl⟩
  | cons x xs ih =>
    obtain ⟨log, hone⟩ := run_readOne x d
    obtain ⟨log', hall⟩ := ih { d with log }
    refine ⟨log', ?_⟩
    have hrun : readAll (x :: xs) d = (((readOne x d).1.toList ++ (readAll xs (readOne x d).2).1),
        (readAll xs (readOne x d).2).2) := rfl
    rw [hrun, hone]
    dsimp only
    rw [hall]
    cases hx : (Preset.ofValue x).toOption <;> simp [hx]

/-- Loading reads what is stored, and takes a list of presets from it. -/
theorem run_load (h : Handle) (key : String) (d : Desk) : ∃ log, (load h key).run d =
    (listOf (onStorage (Storage.getJson h (.text key)) d).1,
      { (onStorage (Storage.getJson h (.text key)) d).2 with log }) := by
  rw [load]
  generalize hget : onStorage (Storage.getJson h (.text key)) d = r
  obtain ⟨r, d'⟩ := r
  rw [run_lift_bind hget]
  match r with
  | .error (.value fault) => exact ⟨d'.log, rfl⟩
  | .error (.storage e) => exact ⟨_, rfl⟩
  | .ok .null => exact ⟨d'.log, rfl⟩
  | .ok (.list xs) =>
    obtain ⟨log, hall⟩ := run_readAll xs d'
    refine ⟨log, ?_⟩
    change (Except.ok (readAll xs d').1, (readAll xs d').2) = _
    rw [hall]
    rfl
  | .ok (.bool _) => exact ⟨_, rfl⟩
  | .ok (.int _) => exact ⟨_, rfl⟩
  | .ok (.float _) => exact ⟨_, rfl⟩
  | .ok (.text _) => exact ⟨_, rfl⟩
  | .ok (.map _) => exact ⟨_, rfl⟩
  | .ok (.object _) => exact ⟨_, rfl⟩

/-- Saving writes the text of a list, and reports it if the storage cannot be used. -/
theorem run_saveEntries (h : Handle) (key : String) (ps : List Preset) (d : Desk) :
    ∃ log, (saveEntries h key (ps.map Preset.entries)).run d =
      (reported (onStorage (Storage.setItem h (.text key) (.text (listText ps))) d).1,
        { (onStorage (Storage.setItem h (.text key) (.text (listText ps))) d).2 with log }) := by
  have hvalue : Value.list ((ps.map Preset.entries).map Value.map) = listValue ps := by
    rw [List.map_map]
    rfl
  have hjson : Storage.setJson h (.text key) (listValue ps) =
      Storage.setItem h (.text key) (.text (listText ps)) := by
    funext s
    rw [Storage.setJson, encode_listValue]
  rw [saveEntries]
  rw [hvalue, hjson]
  generalize hset : onStorage (Storage.setItem h (.text key) (.text (listText ps))) d = r
  obtain ⟨r, d'⟩ := r
  rw [run_lift_bind hset]
  match r with
  | .ok () => exact ⟨d'.log, rfl⟩
  | .error (.value fault) => exact ⟨d'.log, rfl⟩
  | .error (.storage e) => exact ⟨_, rfl⟩

theorem simulates_load (key : String) : Simulates (Good h) view (load h key).run
    fun v => (presetsOf key (v.contents key), v) := by
  intro d hd
  obtain ⟨hgood, heq⟩ := simulates_getJson key d hd
  obtain ⟨log, hrun⟩ := run_load h key d
  obtain ⟨hresult, hview⟩ := Prod.mk.inj heq
  rw [hrun]
  refine ⟨hgood, Prod.ext ?_ hview⟩
  exact congrArg listOf hresult

theorem simulates_saveEntries (key : String) (ps : List Preset) :
    Simulates (Good h) view (saveEntries h key (ps.map Preset.entries)).run
      fun v => (.ok (), v.put key (listText ps)) := by
  intro d hd
  obtain ⟨hgood, heq⟩ := simulates_setItem key (listText ps) d hd
  obtain ⟨log, hrun⟩ := run_saveEntries h key ps d
  obtain ⟨hresult, hview⟩ := Prod.mk.inj heq
  rw [hrun, ← hresult]
  exact ⟨hgood, Prod.ext rfl hview⟩

theorem simulates_save (key : String) (ps : List Preset) :
    Simulates (Good h) view (save h key ps).run fun v => (.ok (), v.put key (listText ps)) :=
  simulates_saveEntries key ps

/-- The time in milliseconds, if the clock can be read. -/
def millisOf (clock : Except ValueFault Int) : Except ValueFault Int := clock.bind Clock.millis

theorem run_freshId (d : Desk) : freshId.run d = match millisOf d.clock with
    | .error fault => (.error fault, d)
    | .ok ms => (.ok (freshIdOf ms (d.drawn + 1)), { d with drawn := d.drawn + 1 }) := by
  obtain ⟨storage, clock, drawn, wire, files, log⟩ := d
  cases clock with
  | error fault => rfl
  | ok us =>
    change ((liftM (Clock.millis us) : Attempt Int) >>= _).run _ = match Clock.millis us with
      | .error fault => _
      | .ok ms => _
    cases Clock.millis us <;> rfl

theorem simulates_freshId : Simulates (Good h) view freshId.run fun v =>
    match millisOf v.clock with
    | .error fault => (.error fault, v)
    | .ok ms => (.ok (freshIdOf ms (v.drawn + 1)), { v with drawn := v.drawn + 1 }) := by
  intro d hd
  rw [run_freshId]
  simp only [view]
  cases millisOf d.clock with
  | error fault => exact ⟨hd, rfl⟩
  | ok ms => exact ⟨hd, rfl⟩

/-- What the addition of a preset makes of a view: the new preset stands at the end of the list. -/
def addView (key name query : String) (v : View) : Except ValueFault Preset × View :=
  match presetsOf key (v.contents key), millisOf v.clock with
  | .error fault, _ => (.error fault, v)
  | .ok _, .error fault => (.error fault, v)
  | .ok ps, .ok ms =>
    let p : Preset := ⟨freshIdOf ms (v.drawn + 1), name, query⟩
    (.ok p, ({ v with drawn := v.drawn + 1 } : View).put key (listText (ps ++ [p])))

theorem simulates_add (key name query : String) :
    Simulates (Good h) view (add h key name query).run (addView key name query) := by
  rw [add, append]
  refine (Simulates.bindExcept (f := fun v =>
    match presetsOf key (v.contents key), millisOf v.clock with
      | .error fault, _ => (.error fault, v)
      | .ok _, .error fault => (.error fault, v)
      | .ok ps, .ok ms => (.ok (freshIdOf ms (v.drawn + 1)),
          ({ v with drawn := v.drawn + 1 } : View).put key
            (listText (ps ++ [⟨freshIdOf ms (v.drawn + 1), name, query⟩])))) ?_ fun id =>
    Simulates.pure (Except.ok { id, name, query : Preset })).congr fun v => ?_
  · refine (Simulates.bindExcept (simulates_load key) fun ps =>
      Simulates.bindExcept simulates_freshId fun id =>
        Simulates.bindExcept (f := fun v =>
          (.ok (), v.put key (listText (ps ++ [⟨id, name, query⟩])))) ?_ fun _ =>
            Simulates.bindExcept (f := fun v => (.ok (Text.quoted name), v)) (.pure _) fun t =>
              Simulates.bindLift (simulates_report _ _ _) fun _ =>
                Simulates.pure (Except.ok id)).congr fun v => ?_
    · have hsave := simulates_saveEntries (h := h) key (ps ++ [⟨id, name, query⟩])
      rwa [List.map_append] at hsave
    · cases presetsOf key (v.contents key) with
      | error fault => rfl
      | ok ps =>
        dsimp only
        cases millisOf v.clock <;> rfl
  · rw [addView]
    cases presetsOf key (v.contents key) with
    | error fault => rfl
    | ok ps => cases millisOf v.clock <;> rfl

/-- What a removal makes of a view: the other presets stay as they are. -/
def removeView (key : String) (id : Value) (v : View) : Except ValueFault Unit × View :=
  match presetsOf key (v.contents key) with
  | .error fault => (.error fault, v)
  | .ok ps => (.ok (), v.put key (listText (ps.filter fun p => !p.hasId id)))

theorem simulates_remove (key : String) (id : Value) :
    Simulates (Good h) view (remove h key id).run (removeView key id) :=
  (Simulates.bindExcept (simulates_load key) fun _ => simulates_save key _).congr fun v => by
    rw [removeView]
    cases presetsOf key (v.contents key) <;> rfl

theorem simulates_get (key : String) (id : Value) :
    Simulates (Good h) view (get h key id).run fun v =>
      ((presetsOf key (v.contents key)).map fun ps => ps.find? (·.hasId id), v) :=
  (Simulates.bindExcept (simulates_load key) fun _ => .pure _).congr fun v => by
    cases presetsOf key (v.contents key) <;> rfl

end SymbolSieve.PresetStore

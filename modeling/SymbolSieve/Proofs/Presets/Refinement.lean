import SymbolSieve.Proofs.Presets.Stored

/-!
# A preset store is a list

On healthy storage nothing is to be seen of a preset store but a list of presets, the clock and the
number of ids that were drawn.  Whatever is stored stands for a list to begin with, and every
request gets the answer that the list gives, for ever after.

A text that is nested too deeply is the one exception: it stands for no list at all, and every
request fails on it.

## What is here

* `ofValue_eq_ok_iff`: among values that were read, those with an id and a name are presets.
* `Begins`: the list that something stored stands for; `begins_iff` says that it is what is loaded.
* `Request`: what can be asked of a preset store; `Request.run` asks it of the store, and
  `Request.onList` of a list.
* `simulates_request`: a store answers a request like its list.
* `refines_list_iff`: exactly when a store answers all requests like a list.
-/

set_option autoImplicit false

namespace SymbolSieve

open Json Desk

/-! ## Texts of values that were read -/

mutual

/-- A value that can be written has a text. -/
theorem Value.exists_quoted {depth : Nat} (v : Value) (h : obstacle? depth v = none) :
    ∃ t, v.quoted = .ok t := by
  cases v with
  | int n =>
    have hwritable : writableInt n = true := by
      rw [obstacle?] at h
      split at h
      next hn => exact hn
      next => cases h
    exact ⟨_, by rw [Value.quoted, intShown, if_pos hwritable]⟩
  | list items =>
    rw [obstacle?] at h
    split at h
    next => cases h
    next =>
      obtain ⟨ts, hts⟩ := exists_quotedItems items h
      exact ⟨_, by rw [Value.quoted, hts]; rfl⟩
  | map entries =>
    rw [obstacle?] at h
    split at h
    next => cases h
    next =>
      obtain ⟨ts, hts⟩ := exists_quotedEntries entries h
      exact ⟨_, by rw [Value.quoted, hts]; rfl⟩
  | object attributes => simp [obstacle?] at h
  | null => exact ⟨_, rfl⟩
  | bool b => exact ⟨_, rfl⟩
  | float x => exact ⟨_, rfl⟩
  | text s => exact ⟨_, rfl⟩
termination_by structural v

theorem Value.exists_quotedItems {depth : Nat} (items : List Value)
    (h : obstacleItems? depth items = none) : ∃ ts, Value.quotedItems items = .ok ts := by
  match items with
  | [] => exact ⟨[], rfl⟩
  | v :: rest =>
    rw [obstacleItems?, Option.or_eq_none_iff] at h
    obtain ⟨t, ht⟩ := exists_quoted v h.1
    obtain ⟨ts, hts⟩ := exists_quotedItems rest h.2
    exact ⟨t :: ts, by rw [Value.quotedItems, ht, hts]; rfl⟩
termination_by structural items

theorem Value.exists_quotedEntries {depth : Nat} (entries : List (String × Value))
    (h : obstacleEntries? depth entries = none) :
    ∃ ts, Value.quotedEntries entries = .ok ts := by
  match entries with
  | [] => exact ⟨[], rfl⟩
  | (k, v) :: rest =>
    rw [obstacleEntries?, Option.or_eq_none_iff] at h
    obtain ⟨t, ht⟩ := exists_quoted v h.1
    obtain ⟨ts, hts⟩ := exists_quotedEntries rest h.2
    exact ⟨_ :: ts, by rw [Value.quotedEntries, ht, hts]; rfl⟩
termination_by structural entries

end

theorem Value.exists_shown {depth : Nat} (v : Value) (h : obstacle? depth v = none) :
    ∃ t, v.shown = .ok t := by
  obtain ⟨t, ht⟩ := v.exists_quoted h
  cases v with
  | text s => exact ⟨s, rfl⟩
  | _ => exact ⟨t, ht⟩

namespace PresetStore

/-! ## The list to begin with -/

/-- Whether a value is a mapping with an id and a name. -/
def isEntitled : Value → Bool
  | .map es => (Assoc.get? "id" es).isSome && (Assoc.get? "name" es).isSome
  | _ => false

theorem entryOf_eq_ok_iff {key : String} {es : Entries} {x : Value} :
    Preset.entryOf (.map es) key = .ok x ↔ Assoc.get? key es = some x := by
  simp only [Preset.entryOf]
  cases Assoc.get? key es <;> simp

/-- **Among the values that can be written**, those with an id and a name are presets. -/
theorem ofValue_eq_ok_iff {depth : Nat} {v : Value} (hv : obstacle? depth v = none) :
    (∃ p, Preset.ofValue v = .ok p) ↔ isEntitled v = true := by
  constructor
  · rintro ⟨p, hp⟩
    obtain ⟨x, hid, hp⟩ := bind_eq_ok_iff.1 hp
    obtain ⟨id, -, hp⟩ := bind_eq_ok_iff.1 hp
    obtain ⟨y, hname, -⟩ := bind_eq_ok_iff.1 hp
    cases v with
    | map es =>
      simp [isEntitled, entryOf_eq_ok_iff.1 hid, entryOf_eq_ok_iff.1 hname]
    | _ => cases hid
  · intro h
    cases v with
    | map es =>
      have hinner : ∀ e ∈ es, obstacle? (depth - 1) e.2 = none := by
        rw [obstacle?] at hv
        split at hv
        next => cases hv
        next => exact obstacleEntries?_eq_none_iff.1 hv
      have hshown : ∀ {key : String} {x : Value}, Assoc.get? key es = some x →
          ∃ t, x.shown = .ok t := fun hx =>
        Value.exists_shown _ (hinner _ (Assoc.mem_of_get?_eq_some hx))
      obtain ⟨hid, hname⟩ := Bool.and_eq_true_iff.1 h
      obtain ⟨x, hx⟩ := Option.isSome_iff_exists.1 hid
      obtain ⟨y, hy⟩ := Option.isSome_iff_exists.1 hname
      obtain ⟨id, hid⟩ := hshown hx
      obtain ⟨name, hname⟩ := hshown hy
      obtain ⟨query, hquery⟩ : ∃ t, ((Assoc.get? "query" es).getD (.text "")).shown = .ok t := by
        cases hz : Assoc.get? "query" es with
        | none => exact ⟨"", rfl⟩
        | some z => exact hshown hz
      refine ⟨⟨id, name, query⟩, ?_⟩
      rw [Preset.ofValue, entryOf_eq_ok_iff.2 hx, entryOf_eq_ok_iff.2 hy]
      refine bind_eq_ok_iff.2 ⟨x, rfl, bind_eq_ok_iff.2 ⟨id, hid, ?_⟩⟩
      refine bind_eq_ok_iff.2 ⟨y, rfl, bind_eq_ok_iff.2 ⟨name, hname, ?_⟩⟩
      exact bind_eq_ok_iff.2 ⟨query, hquery, rfl⟩
    | _ => cases h

/-- The list of presets that something stored stands for.  A stored list stands for the presets that
its entries with an id and a name describe, and anything else for the built-in presets. -/
inductive Begins : Value → List Preset → Prop where
  | list {t : String} {vs : List Value} {ps : List Preset} (hdecode : decode t = .ok (.list vs))
      (hall : List.Forall₂ (fun v p => Preset.ofValue v = .ok p) (vs.filter isEntitled) ps) :
      Begins (.text t) ps
  | builtIn {raw : Value} (hnone : ∀ t vs, raw = .text t → decode t ≠ .ok (.list vs)) :
      Begins raw Preset.builtIn

/-- A text that is nested too deeply is not read as a list, so it stands for the built-in
presets. -/
theorem begins_of_tooDeep {raw : Value} (h : Document.TooDeep raw) : Begins raw Preset.builtIn := by
  obtain ⟨t, rfl, hdecode⟩ := h
  refine .builtIn fun t' vs heq hlist => ?_
  obtain rfl := Value.text.inj heq
  rw [hdecode] at hlist
  cases hlist

/-- Some values stand for the presets that the entitled ones among them describe. -/
theorem forall₂_entitled {vs : List Value}
    (h : ∀ v ∈ vs, (∃ p, Preset.ofValue v = .ok p) ↔ isEntitled v = true) {ps : List Preset} :
    List.Forall₂ (fun v p => Preset.ofValue v = .ok p) (vs.filter isEntitled) ps ↔
      vs.filterMap (fun v => (Preset.ofValue v).toOption) = ps := by
  induction vs generalizing ps with
  | nil => simp [eq_comm]
  | cons v vs ih =>
    have hv := h v List.mem_cons_self
    have hrest : ∀ v ∈ vs, (∃ p, Preset.ofValue v = .ok p) ↔ isEntitled v = true := fun w hw =>
      h w (List.mem_cons_of_mem _ hw)
    cases hp : Preset.ofValue v with
    | error fault =>
      have hnot : ¬ isEntitled v = true := fun hent => by
        obtain ⟨p, hok⟩ := hv.2 hent
        rw [hp] at hok
        cases hok
      rw [List.filter_cons_of_neg hnot, List.filterMap_cons, hp]
      exact ih hrest
    | ok p =>
      rw [List.filter_cons_of_pos (hv.1 ⟨p, hp⟩), List.filterMap_cons, hp,
        List.forall₂_cons_left_iff]
      constructor
      · rintro ⟨q, qs, hq, hqs, rfl⟩
        rw [hp] at hq
        obtain rfl := Except.ok.inj hq
        exact congrArg (p :: ·) ((ih hrest).1 hqs)
      · rintro rfl
        exact ⟨p, _, hp, (ih hrest).2 rfl, rfl⟩

/-- Every item of a list that was read can be written. -/
theorem exists_obstacle?_eq_none {t : String} {vs : List Value} (h : decode t = .ok (.list vs)) :
    ∀ v ∈ vs, ∃ depth, obstacle? depth v = none := by
  have hlist := (faithful_of_decode h).2
  rw [obstacle?, if_neg (by decide)] at hlist
  clear h
  induction vs with
  | nil => simp
  | cons v vs ih =>
    rw [obstacleItems?, Option.or_eq_none_iff] at hlist
    intro w hw
    rcases List.mem_cons.1 hw with rfl | hmem
    · exact ⟨_, hlist.1⟩
    · exact ih hlist.2 w hmem

/-- A stored list stands for what is loaded from it. -/
theorem forall₂_iff_presetsOf (key : String) {t : String} {vs : List Value}
    (h : decode t = .ok (.list vs)) {ps : List Preset} :
    List.Forall₂ (fun v p => Preset.ofValue v = .ok p) (vs.filter isEntitled) ps ↔
      presetsOf key (.text t) = .ok ps := by
  have hentitled : ∀ v ∈ vs, (∃ p, Preset.ofValue v = .ok p) ↔ isEntitled v = true := by
    intro v hv
    obtain ⟨depth, hdepth⟩ := exists_obstacle?_eq_none h v hv
    exact ofValue_eq_ok_iff hdepth
  rw [forall₂_entitled hentitled, presetsOf, Storage.ofRaw, h]
  exact ⟨fun heq => congrArg Except.ok heq, Except.ok.inj⟩

/-- Where no list is stored, the built-in presets are loaded. -/
theorem presetsOf_eq_builtIn (key : String) {raw : Value} (h : ¬ Document.TooDeep raw)
    (hnone : ∀ t vs, raw = .text t → decode t ≠ .ok (.list vs)) :
    presetsOf key raw = .ok Preset.builtIn := by
  cases raw with
  | text t =>
    rw [presetsOf, Storage.ofRaw]
    cases hdecode : decode t with
    | error fault =>
      cases fault with
      | tooDeep => exact absurd ⟨t, rfl, hdecode⟩ h
      | _ => rfl
    | ok w =>
      cases w with
      | list vs => exact absurd hdecode (hnone t vs rfl)
      | _ => rfl
  | _ => rfl

/-- **What is loaded to begin with** is the list that the raw value stands for. -/
theorem begins_iff (key : String) {raw : Value} (h : ¬ Document.TooDeep raw) {ps : List Preset} :
    Begins raw ps ↔ presetsOf key raw = .ok ps := by
  constructor
  · intro hbegins
    cases hbegins with
    | list hdecode hall => exact (forall₂_iff_presetsOf key hdecode).1 hall
    | builtIn hnone => exact presetsOf_eq_builtIn key h hnone
  · intro hps
    by_cases hlist : ∃ t vs, raw = .text t ∧ decode t = .ok (.list vs)
    · obtain ⟨t, vs, rfl, hdecode⟩ := hlist
      exact .list hdecode ((forall₂_iff_presetsOf key hdecode).2 hps)
    · have hnone : ∀ t vs, raw = .text t → decode t ≠ .ok (.list vs) :=
        fun t vs hraw hdecode => hlist ⟨t, vs, hraw, hdecode⟩
      rw [presetsOf_eq_builtIn key h hnone] at hps
      exact Except.ok.inj hps ▸ .builtIn hnone

/-! ## Requests -/

/-- What can be asked of a preset store.  Between requests the clock may come to show anything. -/
inductive Request where
  | load
  | get (id : String)
  | add (name query : String)
  | remove (id : String)
  | save (ps : List Preset)
  | wait (clock : Except ValueFault Int)

/-- What comes back. -/
inductive Answer where
  | presets (ps : List Preset)
  | found (p : Option Preset)
  | added (p : Preset)
  | done
  | failed (fault : ValueFault)
  deriving DecidableEq

/-- A list of presets, together with the clock and the number of ids that were drawn. -/
structure Collection where
  presets : List Preset
  clock : Except ValueFault Int
  drawn : Nat

namespace Request

/-- A result as an answer. -/
def answer {α : Type} (f : α → Answer) : Except ValueFault α → Answer
  | .ok a => f a
  | .error fault => .failed fault

/-- A request that is made to a store. -/
def run (h : Handle) (key : String) : Request → StateM Desk Answer
  | load => answer .presets <$> (PresetStore.load h key).run
  | get id => answer .found <$> (PresetStore.get h key (.text id)).run
  | add name query => answer .added <$> (PresetStore.add h key name query).run
  | remove id => answer (fun _ => .done) <$> (PresetStore.remove h key (.text id)).run
  | save ps => answer (fun _ => .done) <$> (PresetStore.save h key ps).run
  | wait clock => fun d => (.done, { d with clock })

/-- A request that is made to a list: a new preset comes last and everything with an id that is
removed is left out.  A new preset needs a time for its id. -/
def onList : Request → StateM Collection Answer
  | load => fun c => (.presets c.presets, c)
  | get id => fun c => (.found (c.presets.find? fun p => p.id == id), c)
  | add name query => fun c => match millisOf c.clock with
    | .error fault => (.failed fault, c)
    | .ok ms =>
      let p : Preset := ⟨freshIdOf ms (c.drawn + 1), name, query⟩
      (.added p, { c with presets := c.presets ++ [p], drawn := c.drawn + 1 })
  | remove id => fun c => (.done, { c with presets := c.presets.filter fun p => p.id != id })
  | save ps => fun c => (.done, { c with presets := ps })
  | wait clock => fun c => (.done, { c with clock })

end Request

/-! ## Refinement -/

/-- What is seen of a store: the list that is loaded from it. -/
def collection (key : String) (v : View) : Collection where
  presets := ((presetsOf key (v.contents key)).toOption).getD []
  clock := v.clock
  drawn := v.drawn

/-- Something is loaded from what is stored. -/
def Loads (key : String) (v : View) : Prop := ¬ Document.TooDeep (v.contents key)

variable {h : Handle} {key : String}

theorem presetsOf_eq_collection {v : View} (hv : Loads key v) :
    presetsOf key (v.contents key) = .ok (collection key v).presets := by
  obtain ⟨ps, hps⟩ := exists_presetsOf key _ hv
  rw [collection, hps]
  rfl

theorem loads_put (v : View) (ps : List Preset) : Loads key (v.put key (listText ps)) := by
  intro hdeep
  rw [View.contents_put_self] at hdeep
  have hfails := (presetsOf_eq_error_iff key _ .tooDeep).2 ⟨hdeep, rfl⟩
  rw [presetsOf_listText] at hfails
  cases hfails

theorem collection_put (v : View) (ps : List Preset) :
    collection key (v.put key (listText ps)) = ⟨ps, v.clock, v.drawn⟩ := by
  rw [collection, View.contents_put_self, presetsOf_listText]
  rfl

/-- **A store answers a request like its list**, and its list becomes what the request makes of it.
-/
theorem simulates_request (r : Request) :
    Simulates (fun d => Good h d ∧ Loads key (view d)) (fun d => collection key (view d))
      (r.run h key) r.onList := by
  cases r with
  | load =>
    refine ((simulates_load key).map (Request.answer Answer.presets)).trans fun v hv => ⟨hv, ?_⟩
    dsimp only
    rw [presetsOf_eq_collection hv]
    rfl
  | get id =>
    refine ((simulates_get key (.text id)).map (Request.answer Answer.found)).trans
      fun v hv => ⟨hv, ?_⟩
    dsimp only
    rw [presetsOf_eq_collection hv]
    simp only [Preset.hasId_text]
    rfl
  | add name query =>
    refine ((simulates_add key name query).map (Request.answer Answer.added)).trans fun v hv => ?_
    dsimp only [addView]
    rw [presetsOf_eq_collection hv]
    simp only [Request.onList]
    have hclock : (collection key v).clock = v.clock := rfl
    rw [hclock]
    cases millisOf v.clock with
    | error fault => exact ⟨hv, rfl⟩
    | ok ms =>
      refine ⟨loads_put _ _, ?_⟩
      dsimp only
      rw [collection_put]
      rfl
  | remove id =>
    refine ((simulates_remove key (.text id)).map (Request.answer fun _ => Answer.done)).trans
      fun v hv => ?_
    dsimp only [removeView]
    rw [presetsOf_eq_collection hv]
    refine ⟨loads_put _ _, ?_⟩
    dsimp only
    rw [collection_put]
    simp only [Preset.hasId_text]
    rfl
  | save ps =>
    refine ((simulates_save key ps).map (Request.answer fun _ => Answer.done)).trans
      fun v _ => ⟨loads_put v ps, ?_⟩
    rw [collection_put]
    rfl
  | wait clock => exact fun d hd => ⟨hd, rfl⟩

/-- **A store answers any requests like its list**, one after the other. -/
theorem answers_eq {d : Desk} (hd : Good h d) {ps : List Preset}
    (hps : presetsOf key (Storage.raw key d.storage) = .ok ps) (rs : List Request) :
    (rs.mapM (Request.run h key) d).1 = (rs.mapM Request.onList ⟨ps, d.clock, d.drawn⟩).1 := by
  have hloads : Loads key (view d) := fun hdeep => by
    have hfails := (presetsOf_eq_error_iff key _ .tooDeep).2 ⟨hdeep, rfl⟩
    rw [show (view d).contents key = Storage.raw key d.storage from rfl, hps] at hfails
    cases hfails
  have hview : collection key (view d) = ⟨ps, d.clock, d.drawn⟩ := by
    rw [collection, show (view d).contents key = Storage.raw key d.storage from rfl, hps]
    rfl
  rw [← hview]
  exact (Simulates.mapM simulates_request rs).result_eq ⟨hd, hloads⟩

/-- A desk on memory that holds a value under a key. -/
def deskWith (key : String) (raw : Value) : Desk where
  storage := .memory { items := [(.text key, raw)] }

theorem good_deskWith (key : String) (raw : Value) : Good h (deskWith key raw) :=
  ⟨fun _ => rfl, fun _ => rfl⟩

theorem raw_deskWith (key : String) (raw : Value) :
    Storage.raw key (deskWith key raw).storage = raw := by
  simp [deskWith, Storage.raw, Assoc.get?, Value.beq_text_iff]

/-- Nothing is loaded from a text that is nested too deeply. -/
theorem load_of_tooDeep {raw : Value} (hdeep : Document.TooDeep raw) :
    ([Request.load].mapM (Request.run h key) (deskWith key raw)).1 = [.failed .tooDeep] := by
  have hload := (simulates_load key).result_eq (good_deskWith (h := h) key raw)
  have hfails := (presetsOf_eq_error_iff key raw .tooDeep).2 ⟨hdeep, rfl⟩
  rw [show (view (deskWith key raw)).contents key = raw from raw_deskWith key raw, hfails] at hload
  show [Request.answer .presets ((load h key).run (deskWith key raw)).1] = _
  rw [hload]
  rfl

/-- **A preset store is a list**, whatever was stored, unless that is a text that is nested too
deeply.  Then there is no list whose answers are those of the store. -/
theorem refines_list_iff (key : String) (raw : Value) :
    (∃ ps, Begins raw ps ∧ ∀ (h : Handle) (d : Desk), Good h d → Storage.raw key d.storage = raw →
      ∀ rs : List Request,
        (rs.mapM (Request.run h key) d).1 = (rs.mapM Request.onList ⟨ps, d.clock, d.drawn⟩).1) ↔
    ¬ Document.TooDeep raw := by
  constructor
  · rintro ⟨ps, -, hall⟩ hdeep
    have hload := hall 0 (deskWith key raw) (good_deskWith key raw) (raw_deskWith key raw) [.load]
    rw [load_of_tooDeep hdeep] at hload
    cases hload
  · intro h
    obtain ⟨ps, hps⟩ := exists_presetsOf key raw h
    exact ⟨ps, (begins_iff key h).2 hps, fun h d hd hraw rs => answers_eq hd (hraw ▸ hps) rs⟩

/-! ## A text that is never closed -/

/-- A text that is no JSON, since it opens lists and closes none. -/
def unclosedText : String := String.ofList (List.replicate 1500 '[')

theorem tooDeep_unclosedText : Document.TooDeep (.text unclosedText) := by
  have h := decode_nested (n := 1500) (by decide) []
  rw [List.append_nil] at h
  exact ⟨_, rfl, h⟩

/-- That text stands for the built-in presets like any other that is no JSON, but they are not
loaded. -/
theorem load_fails_on_unclosedText :
    Begins (.text unclosedText) Preset.builtIn ∧
      Good 0 (deskWith Vocabulary.presetsKey (.text unclosedText)) ∧
      Storage.raw Vocabulary.presetsKey
        (deskWith Vocabulary.presetsKey (.text unclosedText)).storage = .text unclosedText ∧
      ([Request.load].mapM (Request.run 0 Vocabulary.presetsKey)
        (deskWith Vocabulary.presetsKey (.text unclosedText))).1 = [.failed .tooDeep] :=
  ⟨begins_of_tooDeep tooDeep_unclosedText, good_deskWith _ _,
    raw_deskWith _ _, load_of_tooDeep tooDeep_unclosedText⟩

end PresetStore

end SymbolSieve

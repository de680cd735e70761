import SymbolSieve.Proofs.Presets.Meaning
import SymbolSieve.Proofs.Storage.Unsteady
import SymbolSieve.Service.Routes

/-!
# What becomes of presets that were acknowledged

The service says that a preset is created or deleted when the list of presets was read, changed and
handed to the storage.  Trouble with the storage is reported and goes no further, so this does not
mean that the storage has taken the list.  If it has, then the preset is there from now on, or is
gone.

## What is here

* `Storage.TakesWrite`: storage that takes the next write; `Storage.Leaves`, what is stored after a
  write that may fail.
* `seen`: the list of presets that a request works on, whatever is stored and whatever fails.
* `created_leaves`, `deleted_leaves`: what is stored after a request that was answered well.
* `Reopened`: storage that works again and holds what was left there.
* `acknowledged_durable`: what a request for a single preset finds after that.
* `acknowledged_not_found`: presets that were acknowledged and are not found as they should be.
-/

set_option autoImplicit false

namespace SymbolSieve

open Desk

/-! ## Writes that may fail -/

namespace Storage

/-- Storage that takes the next write through a handle. -/
def TakesWrite (h : Handle) : Storage → Prop
  | .memory m => m.faults.writes 0 = false
  | .database d => UsableDatabase h d

/-- Connecting to a database leaves it as it is, or makes it one with a table. -/
theorem connect_cases {h : Handle} {d d' : Database} (hconnect : connect h d = .ok d') :
    d.barrier = none ∧ (d' = d ∨ UsableDatabase h d ∧ UsableDatabase h d') := by
  unfold connect at hconnect
  split at hconnect
  next => cases hconnect
  next hbarrier =>
    refine ⟨hbarrier, ?_⟩
    split at hconnect
    next =>
      cases hconnect
      exact .inl rfl
    next hused =>
      have hunused : d.used[h]?.getD false = false := by simpa using hused
      split at hconnect
      next => cases hconnect
      all_goals
        next hfile =>
          cases hconnect
          exact .inr ⟨⟨hbarrier, by simp [hfile, hunused]⟩, ⟨hbarrier, by simp [hfile]⟩⟩

/-- A database that cannot be used fails, and it goes on so. -/
theorem onTable_unusable {α : Type} {h : Handle} {d : Database} (hd : ¬ UsableDatabase h d)
    (access : Access) (key : String)
    (action : Assoc String String → Except TableFault (α × Assoc String String)) :
    ∃ e d', onTable h access (.text key) action d = (.error (.storage e), .database d') ∧
      ¬ UsableDatabase h d' := by
  rw [onTable]
  cases hconnect : connect h d with
  | error e => exact ⟨e, d, rfl, hd⟩
  | ok d' =>
    obtain ⟨hbarrier, rfl | ⟨husable, -⟩⟩ := connect_cases hconnect
    · cases hfile : d'.file with
      | table rs => exact absurd ⟨hbarrier, by rw [hfile]; trivial⟩ hd
      | absent => exact ⟨_, d', by simp only [hfile]; rfl, hd⟩
      | noTable => exact ⟨_, d', by simp only [hfile]; rfl, hd⟩
      | garbage => exact ⟨_, d', by simp only [hfile]; rfl, hd⟩
    · exact absurd husable hd

variable (h : Handle) (key : String) (s : Storage)

/-- Reading makes no difference to whether a write is taken. -/
theorem takesWrite_getItem :
    TakesWrite h (getItem h (.text key) s).2 ↔ TakesWrite h s := by
  cases s with
  | memory m => exact Iff.rfl
  | database d =>
    by_cases hd : UsableDatabase h d
    · obtain ⟨d', hread, hd', -⟩ := onTable_usable hd .read (.text key) (findRow (.text key)) rfl
      rw [getItem, hread]
      exact iff_of_true hd' hd
    · obtain ⟨e, d', hread, hd'⟩ := onTable_unusable hd .read key (findRow (.text key))
      rw [getItem, hread]
      exact iff_of_false hd' hd

/-- **A write goes well** exactly if the storage takes it. -/
theorem setItem_eq_ok_iff (t : String) :
    (setItem h (.text key) (.text t) s).1 = .ok () ↔ TakesWrite h s := by
  cases s with
  | memory m => cases hwrites : m.faults.writes 0 <;>
      simp [setItem, TakesWrite, hwrites, underKey, Value.isKey]
  | database d =>
    by_cases hd : UsableDatabase h d
    · obtain ⟨d', hwrite, -⟩ := onTable_usable hd .write (.text key) (putRow (.text key) (.text t))
        rfl
      rw [setItem, hwrite]
      exact iff_of_true rfl hd
    · obtain ⟨e, d', hwrite, -⟩ := onTable_unusable hd .write key (putRow (.text key) (.text t))
      rw [setItem, hwrite]
      exact iff_of_false (fun hok => by cases hok) hd

/-- What is stored after a text was written: the text under its key if the storage takes the write,
and otherwise what was stored before. -/
structure Leaves (t : String) (s s' : Storage) : Prop where
  taken : TakesWrite h s → raw key s' = .text t
  refused : ¬ TakesWrite h s → ∀ k, raw k s' = raw k s

theorem setItem_leaves (t : String) : ∃ r s', setItem h (.text key) (.text t) s = (r, s') ∧
    (∀ fault, r ≠ .error (.value fault)) ∧ Leaves h key t s s' := by
  have hok := setItem_eq_ok_iff h key s t
  obtain ⟨s', ⟨hset, hraw⟩ | ⟨⟨e, hset⟩, hraw⟩⟩ := setItem_cases h key t s
  · rw [hset] at hok
    exact ⟨_, s', hset, nofun, fun _ => by rw [hraw, if_pos rfl],
      fun hrefused => absurd (hok.1 rfl) hrefused⟩
  · rw [hset] at hok
    exact ⟨_, s', hset, nofun, fun htakes => absurd (hok.2 htakes) nofun, fun _ => hraw⟩

end Storage

open Storage (TakesWrite Leaves)

/-! ## Requests that change the list -/

namespace PresetStore

variable {h : Handle} {key : String} {d d' : Desk}

/-- The presets that a request works on: those that are stored, or the built-in ones if nothing can
be read. -/
def seen (h : Handle) (key : String) (d : Desk) : Except ValueFault (List Preset) :=
  listOf (Storage.getJson h (.text key) d.storage).1

/-- A request works on the stored list, unless the read fails. -/
theorem seen_cases (h : Handle) (key : String) (d : Desk) :
    seen h key d = presetsOf key (Storage.raw key d.storage) ∨
      seen h key d = .ok Preset.builtIn := by
  obtain ⟨s, -, hget | ⟨e, hget⟩⟩ := Storage.getItem_cases h key d.storage
  · refine .inl ?_
    rw [seen, Storage.getJson, hget]
    rfl
  · refine .inr ?_
    rw [seen, Storage.getJson, hget]
    rfl

/-- Loading changes nothing that is stored, and makes no difference to the write that follows. -/
theorem load_seen (h : Handle) (key : String) (d : Desk) : ∃ s log,
    (load h key).run d = (seen h key d, { d with storage := s, log }) ∧
      (∀ k, Storage.raw k s = Storage.raw k d.storage) ∧
      (TakesWrite h s ↔ TakesWrite h d.storage) := by
  have htakes := Storage.takesWrite_getItem h key d.storage
  obtain ⟨s, hraw, hget⟩ := Storage.getItem_cases h key d.storage
  obtain ⟨log, hrun⟩ := run_load h key d
  refine ⟨s, log, ?_, hraw, ?_⟩
  · rw [hrun, seen]
    rcases hget with hget | ⟨e, hget⟩ <;> simp only [onStorage, Storage.getJson, hget]
  · rcases hget with hget | ⟨e, hget⟩ <;> rwa [hget] at htakes

theorem save_leaves (h : Handle) (key : String) (ps : List Preset) (d : Desk) : ∃ d',
    (saveEntries h key (ps.map Preset.entries)).run d = (.ok (), d') ∧
      Leaves h key (listText ps) d.storage d'.storage := by
  obtain ⟨r, s, hset, hfault, hleaves⟩ := Storage.setItem_leaves h key d.storage (listText ps)
  obtain ⟨log, hrun⟩ := run_saveEntries h key ps d
  refine ⟨{ d with storage := s, log }, ?_, hleaves⟩
  rw [hrun]
  simp only [onStorage, hset]
  rcases r with (e | fault) | _
  · rfl
  · exact absurd rfl (hfault fault)
  · rfl

/-- What a write leaves after a read is what it leaves without it. -/
theorem leaves_after_load {t : String} {s s' s'' : Storage}
    (hraw : ∀ k, Storage.raw k s' = Storage.raw k s) (htakes : TakesWrite h s' ↔ TakesWrite h s)
    (hleaves : Leaves h key t s' s'') : Leaves h key t s s'' where
  taken hs := hleaves.taken (htakes.2 hs)
  refused hs k := (hleaves.refused (mt htakes.1 hs) k).trans (hraw k)

/-- A request that begins with a look at the list and goes well has seen a list.  What it leaves
after that, it leaves of the whole. -/
theorem exists_seen {α : Type} {k : List Preset → Attempt α} {a : α}
    (hrun : (load h key >>= k).run d = (.ok a, d')) : ∃ base d₁, seen h key d = .ok base ∧
      (k base).run d₁ = (.ok a, d') ∧
      ∀ t s, Leaves h key t d₁.storage s → Leaves h key t d.storage s := by
  obtain ⟨s, log, hload, hraw, htakes⟩ := load_seen h key d
  cases hseen : seen h key d with
  | error fault =>
    rw [hseen] at hload
    rw [run_bind_error hload] at hrun
    cases hrun
  | ok base =>
    rw [hseen] at hload
    rw [run_bind_ok hload] at hrun
    exact ⟨base, _, rfl, hrun, fun _ _ => leaves_after_load hraw htakes⟩

/-- **After a preset was added**, it stands at the end of the list that was read, under a fresh id,
if the storage takes the write. -/
theorem add_leaves {name query : String} {p : Preset}
    (hadd : (add h key name query).run d = (.ok p, d')) :
    ∃ base, seen h key d = .ok base ∧ (∃ ms n, p.id = freshIdOf ms n) ∧
      Leaves h key (listText (base ++ [p])) d.storage d'.storage := by
  simp only [add, append, bind_assoc] at hadd
  obtain ⟨base, d₁, hseen, hrest, hleaves⟩ := exists_seen hadd
  have hid := run_freshId d₁
  cases hms : millisOf d₁.clock with
  | error fault =>
    rw [hms] at hid
    rw [run_bind_error hid] at hrest
    cases hrest
  | ok ms =>
    rw [hms] at hid
    rw [run_bind_ok hid] at hrest
    obtain ⟨d₂, hsave, hsaved⟩ := save_leaves h key
      (base ++ [⟨freshIdOf ms (d₁.drawn + 1), name, query⟩]) { d₁ with drawn := d₁.drawn + 1 }
    rw [List.map_append, List.map_singleton, Preset.entries] at hsave
    rw [run_bind_ok hsave] at hrest
    cases hrest
    exact ⟨base, hseen, ⟨ms, d₁.drawn + 1, rfl⟩, hleaves _ _ hsaved⟩

theorem remove_leaves {id : String} (hremove : (remove h key (.text id)).run d = (.ok (), d')) :
    ∃ base : List Preset, Leaves h key (listText (base.filter fun p => !p.hasId (.text id)))
      d.storage d'.storage := by
  rw [remove] at hremove
  obtain ⟨base, d₁, -, hrest, hleaves⟩ := exists_seen hremove
  obtain ⟨d₂, hsave, hsaved⟩ := save_leaves h key (base.filter fun p => !p.hasId (.text id)) d₁
  rw [save, hsave] at hrest
  cases hrest
  exact ⟨base, hleaves _ _ hsaved⟩

/-- Healthy storage is seen as it is. -/
theorem seen_healthy (hd : Good h d) :
    seen h key d = presetsOf key (Storage.raw key d.storage) := by
  obtain ⟨s, hget, -⟩ := Storage.getJson_healthy hd key
  rw [seen, hget]
  rfl

end PresetStore

/-! ## The place of a preset -/

namespace Endpoint

/-- Nothing else is kept below the place of the presets. -/
theorem atPath?_preset {id : String} (hne : id ≠ "") (hslash : '/' ∉ id.toList) :
    atPath? (presetsPath ++ "/" ++ id) = some (.preset id) := by
  have hpath : (presetsPath ++ "/" ++ id).toList = (presetsPath ++ "/").toList ++ id.toList :=
    String.toList_append
  have habove : (presetsPath ++ "/").toList <+: (presetsPath ++ "/" ++ id).toList :=
    hpath ▸ List.prefix_append _ _
  have hplaces : places.find? (fun p => presetsPath ++ "/" ++ id = p.1 ||
      presetsPath ++ "/" ++ id = p.1 ++ "\n") = none := by
    have hnone : ∀ p ∈ places, ¬ (presetsPath ++ "/").toList <+: p.1.toList ∧
        ¬ (presetsPath ++ "/").toList <+: (p.1 ++ "\n").toList := by decide
    refine List.find?_eq_none.2 fun p hp heq => ?_
    obtain ⟨hplace, hline⟩ := hnone p hp
    rcases (by simpa using heq : _ = p.1 ∨ _ = p.1 ++ "\n") with heq | heq
    · exact hplace (heq ▸ habove)
    · exact hline (heq ▸ habove)
  have hid : presetId? (presetsPath ++ "/" ++ id) = some id := by
    have hprefix := List.isPrefixOf_iff_prefix.2 habove
    have hnonempty : id.toList ≠ [] := by simpa using hne
    rw [presetId?, hprefix, hpath, List.drop_left]
    simp [hslash, hnonempty]
  rw [atPath?, hplaces, hid]
  rfl

theorem ofPath?_preset {id : String} (hne : id ≠ "") (hslash : '/' ∉ id.toList) :
    ofPath? (presetsPath ++ "/" ++ id) = some (.preset id) := by
  rw [ofPath?]
  cases (presetsPath ++ "/" ++ id).length with
  | zero => exact atPath?_preset hne hslash
  | succ n =>
    rw [reached?, atPath?_preset hne hslash]
    rfl

end Endpoint

/-- A fresh id can stand in a path. -/
theorem PresetStore.slash_not_mem_freshIdOf (ms : Int) (n : Nat) :
    '/' ∉ (freshIdOf ms n).toList := by
  have hdecimal : ∀ n : Nat, '/' ∉ Nat.toDigits 10 n := fun n hmem =>
    absurd (isDigit_toDigits hmem) (by decide)
  have hhex : '/' ∉ Text.hexText 8 n := by
    intro hmem
    obtain ⟨d, hd, heq⟩ := Text.exists_digit_of_mem_hexText hmem
    have hall : ∀ d : Fin 16, '/' ≠ Nat.digitChar d := by decide
    exact hall ⟨d, hd⟩ heq
  have hint : '/' ∉ (Text.intText ms).toList := by
    rw [Text.intText]
    split <;> simp [Text.natText, hdecimal]
  simp [freshIdOf, hint, hhex]

/-! ## Requests -/

namespace Service

variable {h : Handle} {d d' : Desk} {s : Service} {r : ServiceRequest}

theorem deletePreset_leaves {id : String} {reply : Reply}
    (hdeleted : (deletePreset h id).run d = (.ok reply, d')) (hstatus : reply.status = 204) :
    ∃ base : List Preset, Leaves h Vocabulary.presetsKey
      (PresetStore.listText (base.filter fun p => !p.hasId (.text id))) d.storage d'.storage := by
  rw [deletePreset, PresetStore.get, bind_assoc] at hdeleted
  obtain ⟨base, d₁, -, hrest, hleaves⟩ := PresetStore.exists_seen hdeleted
  rw [pure_bind] at hrest
  cases hfound : base.find? (·.hasId (.text id)) with
  | none =>
    rw [hfound] at hrest
    cases hrest
    cases hstatus
  | some p =>
    rw [hfound] at hrest
    rcases hremove : (PresetStore.remove h Vocabulary.presetsKey (.text id)).run d₁ with
      ⟨fault | _, d₂⟩
    · rw [run_bind_error hremove] at hrest
      cases hrest
    · rw [run_bind_ok hremove] at hrest
      cases hrest
      obtain ⟨base', hremoved⟩ := PresetStore.remove_leaves hremove
      exact ⟨base', hleaves _ _ hremoved⟩

/-- The reply to a request for a preset, by the presets that are stored. -/
def shown (id : String) (ps : List Preset) : Reply :=
  match ps.find? (·.hasId (.text id)) with
  | some p => .done (.map p.entries)
  | none => presetNotFound

/-- A preset is shown as it is stored. -/
theorem showPreset_listText {ps : List Preset} (hd : Good h d)
    (hraw : Storage.raw Vocabulary.presetsKey d.storage = .text (PresetStore.listText ps))
    (id : String) : ((showPreset h id).run d).1 = .ok (shown id ps) := by
  obtain ⟨s, log, hload, -⟩ := PresetStore.load_seen h Vocabulary.presetsKey d
  rw [PresetStore.seen_healthy hd, hraw, PresetStore.presetsOf_listText] at hload
  rw [showPreset, PresetStore.get, bind_assoc, run_bind_ok hload, pure_bind, shown]
  cases ps.find? (·.hasId (.text id)) <;> rfl

/-- The reply of the endpoint to which a request leads. -/
def routed (s : Service) (r : ServiceRequest) : Option Endpoint → StateM Desk Reply
  | none => pure Reply.notFound
  | some e => if e.methods.contains r.method then s.run r e else pure Reply.notAllowed

theorem answer_apply (s : Service) {r : ServiceRequest} (hhead : r.method ≠ "HEAD") (d : Desk) :
    s.answer r d = s.routed r (Endpoint.ofPath? r.path) d := by
  simp only [answer, if_neg hhead, bind_pure]
  cases Endpoint.ofPath? r.path <;> rfl

/-- What is shown of the preset at a path. -/
theorem answer_show {id : String} (hmethod : r.method = "GET")
    (hpath : Endpoint.ofPath? r.path = some (.preset id)) {ps : List Preset}
    (hd : Good s.handle d)
    (hraw : Storage.raw Vocabulary.presetsKey d.storage = .text (PresetStore.listText ps)) :
    (s.answer r d).1 = shown id ps := by
  have hrun : s.answer r d = completed (showPreset s.handle id) d := by
    rw [answer_apply s (by simp [hmethod]), hpath, routed, hmethod,
      if_pos (by simp [Endpoint.methods]), run, if_pos hmethod]
  rw [hrun]
  show Reply.ofExcept ((showPreset s.handle id).run d).1 = _
  rw [showPreset_listText hd hraw]
  rfl

/-- An operation that is not completed is no success. -/
theorem run_of_completed {action : Attempt Reply} {n : Nat} (hn : n ≠ 500)
    (hstatus : (completed action d).1.status = n) :
    action.run d = (.ok (completed action d).1, (completed action d).2) := by
  have hrun : completed action d = (Reply.ofExcept (action.run d).1, (action.run d).2) := rfl
  rw [hrun] at hstatus ⊢
  generalize action.run d = ran at hstatus ⊢
  obtain ⟨fault | given, d₁⟩ := ran
  · exact absurd hstatus.symm hn
  · rfl

/-- Nothing is created because of a body that cannot be read. -/
theorem status_of_readForm {α : Type} {read : Value → Checked α} {body : String} {reply : Reply}
    (hform : readForm read body = .error reply) : reply.status ≠ 201 := by
  have hcomplaints : ∀ complaints, (Reply.ofComplaints complaints).status ≠ 201 := by
    intro complaints
    rw [Reply.ofComplaints]
    split <;> simp [Reply.status]
  cases hbody : readBody body with
  | error reply' =>
    rw [readForm, hbody] at hform
    obtain rfl : reply' = reply := Except.error.inj hform
    rw [readBody] at hbody
    split at hbody
    next =>
      cases hbody
      simp [Reply.status]
    next =>
      split at hbody
      next =>
        split at hbody <;> cases hbody
        simp [Reply.status]
      next =>
        cases hbody
        simp [Reply.status]
      next =>
        cases hbody
        simp [Reply.status]
  | ok given =>
    rw [readForm, hbody] at hform
    have hread : ((read given).within (.field "body")).mapError Reply.ofComplaints =
        .error reply := hform
    generalize (read given).within (.field "body") = checked at hread
    cases checked with
    | ok a => cases hread
    | error complaints =>
      obtain rfl := Except.error.inj hread
      exact hcomplaints complaints

/-- **What a request to create a preset leaves**, if it is answered with a preset. -/
theorem created_leaves (hmethod : r.method = "POST") (hpath : r.path = Endpoint.presetsPath)
    (hstatus : (s.answer r d).1.status = 201) :
    ∃ p base, (s.answer r d).1 = .created (.map p.entries) ∧
      PresetStore.seen s.handle Vocabulary.presetsKey d = .ok base ∧
      (∃ ms n, p.id = PresetStore.freshIdOf ms n) ∧
      Leaves s.handle Vocabulary.presetsKey (PresetStore.listText (base ++ [p])) d.storage
        (s.answer r d).2.storage := by
  have hplace : Endpoint.ofPath? r.path = some .presets := by rw [hpath]; rfl
  have hrun : s.answer r d = onForm (readForm PresetForm.read r.body)
      (fun f => completed (createPreset s.handle f)) d := by
    rw [answer_apply s (by simp [hmethod]), hplace, routed, hmethod, if_pos (by decide), run,
      if_neg (by simp [hmethod])]
  rw [hrun] at hstatus ⊢
  cases hform : readForm PresetForm.read r.body with
  | error reply =>
    rw [hform] at hstatus
    exact absurd hstatus (status_of_readForm hform)
  | ok f =>
    rw [hform] at hstatus
    have hcreated := run_of_completed (by decide) hstatus
    obtain ⟨query, p, d₁, -, hadd, hreply, hstorage⟩ :=
      PresetStore.exists_add_of_created hcreated hstatus
    obtain ⟨base, hseen, hid, hleaves⟩ := PresetStore.add_leaves hadd
    exact ⟨p, base, hreply, hseen, hid, hstorage ▸ hleaves⟩

/-- **What a request to delete a preset leaves**, if it is answered without content. -/
theorem deleted_leaves (hmethod : r.method = "DELETE") (hstatus : (s.answer r d).1.status = 204) :
    ∃ (id : String) (base : List Preset), Endpoint.ofPath? r.path = some (.preset id) ∧
      Leaves s.handle Vocabulary.presetsKey
        (PresetStore.listText (base.filter fun p => !p.hasId (.text id))) d.storage
        (s.answer r d).2.storage := by
  rw [answer_apply s (by simp [hmethod])] at hstatus ⊢
  cases hpath : Endpoint.ofPath? r.path with
  | none =>
    rw [hpath] at hstatus
    cases hstatus
  | some e =>
    rw [hpath] at hstatus
    rw [routed, hmethod] at hstatus ⊢
    cases e with
    | preset id =>
      rw [if_pos (by simp [Endpoint.methods]), run, if_neg (by simp [hmethod])] at hstatus ⊢
      have hdeleted := run_of_completed (by decide) hstatus
      obtain ⟨base, hleaves⟩ := deletePreset_leaves hdeleted hstatus
      exact ⟨id, base, rfl, hleaves⟩
    | _ => cases hstatus

/-! ## Durability -/

/-- A desk whose storage works again and holds the presets that were left there. -/
structure Reopened (h : Handle) (d d' : Desk) : Prop where
  healthy : Good h d'
  kept : Storage.raw Vocabulary.presetsKey d'.storage = Storage.raw Vocabulary.presetsKey d.storage

/-- The request for a preset. -/
def getPreset (id : String) : ServiceRequest where
  method := "GET"
  path := Endpoint.presetsPath ++ "/" ++ id

theorem find?_append_self {base : List Preset} {p : Preset}
    (hunique : ∀ q ∈ base, q.id = p.id → q = p) :
    (base ++ [p]).find? (·.hasId (.text p.id)) = some p := by
  rw [List.find?_append]
  cases hfound : base.find? (·.hasId (.text p.id)) with
  | none => simp
  | some q =>
    have hid : q.id = p.id := by simpa using List.find?_some hfound
    rw [hunique q (List.mem_of_find?_eq_some hfound) hid]
    rfl

/-- **Presets that were acknowledged are durable** if the storage takes the write of the request.  A
preset that was created is found by its id, unless the list to which it was added holds another one
with that id; one that was deleted is not found.  If the storage refuses the write, what is stored
stays as it was. -/
theorem acknowledged_durable (s : Service) (d : Desk) (r : ServiceRequest) :
    (r.method = "POST" → r.path = Endpoint.presetsPath → (s.answer r d).1.status = 201 →
      ∃ p base, (s.answer r d).1 = .created (.map p.entries) ∧
        PresetStore.seen s.handle Vocabulary.presetsKey d = .ok base ∧
        (TakesWrite s.handle d.storage → (∀ q ∈ base, q.id = p.id → q = p) →
          ∀ d', Reopened s.handle (s.answer r d).2 d' →
            (s.answer (getPreset p.id) d').1 = .done (.map p.entries)) ∧
        (¬ TakesWrite s.handle d.storage →
          ∀ k, Storage.raw k (s.answer r d).2.storage = Storage.raw k d.storage)) ∧
    (r.method = "DELETE" → (s.answer r d).1.status = 204 →
      (TakesWrite s.handle d.storage → ∀ d', Reopened s.handle (s.answer r d).2 d' →
        (s.answer { r with method := "GET" } d').1 = presetNotFound) ∧
      (¬ TakesWrite s.handle d.storage →
        ∀ k, Storage.raw k (s.answer r d).2.storage = Storage.raw k d.storage)) := by
  constructor
  · intro hmethod hpath hstatus
    obtain ⟨p, base, hreply, hseen, ⟨ms, n, hid⟩, hleaves⟩ := created_leaves hmethod hpath hstatus
    refine ⟨p, base, hreply, hseen, fun htakes hunique d' hopen => ?_, hleaves.refused⟩
    have hplace : Endpoint.ofPath? (getPreset p.id).path = some (.preset p.id) :=
      Endpoint.ofPath?_preset (by simp [hid, PresetStore.freshIdOf])
        (hid ▸ PresetStore.slash_not_mem_freshIdOf ms n)
    rw [answer_show rfl hplace hopen.healthy (hopen.kept.trans (hleaves.taken htakes)), shown,
      find?_append_self hunique]
  · intro hmethod hstatus
    obtain ⟨id, base, hplace, hleaves⟩ := deleted_leaves hmethod hstatus
    refine ⟨fun htakes d' hopen => ?_, hleaves.refused⟩
    have hnone : (base.filter fun p => !p.hasId (.text id)).find? (·.hasId (.text id)) = none := by
      simp
    rw [answer_show (r := { r with method := "GET" }) rfl hplace hopen.healthy
      (hopen.kept.trans (hleaves.taken htakes)), shown, hnone]

/-! ## Requests at the start of 1970 -/

/-- A service that uses the storage through its first handle. -/
def plain : Service where
  settings := { storagePath := ⟨0, []⟩ }
  handle := 0
  client := ⟨Client.defaultBase, Target.root, 1⟩

/-- A desk on memory with some presets, if any were stored.  Writes all fail or all succeed. -/
def deskOn (stored : Option (List Preset)) (refuses : Bool) : Desk where
  storage := .memory
    { items := stored.toList.map fun ps =>
        (.text Vocabulary.presetsKey, .text (PresetStore.listText ps))
      faults := ⟨fun _ => false, fun _ => refuses⟩ }

/-- The request to create a preset for functions. -/
def createMine : ServiceRequest where
  method := "POST"
  path := Endpoint.presetsPath
  body := "\x7b\"name\": \"Mine\", \"query\": \"kind:function\"\x7d"

/-- The request to delete a built-in preset. -/
def deleteBuiltIn : ServiceRequest where
  method := "DELETE"
  path := "/api/presets/dead-functions"

/-- The preset that is created for functions. -/
def mine : Preset := ⟨"preset-0-00000001", "Mine", "kind:function"⟩

/-- Another preset that happens to have the same id. -/
def other : Preset := { mine with name := "Other", query := "kind:enum" }

/-- The preset that a reply shows. -/
def presetOf? : Reply → Option Preset
  | .done v | .created v => (Preset.ofValue v).toOption
  | _ => none

theorem good_deskOn (stored : Option (List Preset)) : Good 0 (deskOn stored false) :=
  ⟨fun _ => rfl, fun _ => rfl⟩

theorem raw_deskOn (ps : List Preset) (refuses : Bool) :
    Storage.raw Vocabulary.presetsKey (deskOn (some ps) refuses).storage =
      .text (PresetStore.listText ps) := by
  simp [deskOn, Storage.raw, Assoc.get?, Value.beq_text_iff]

/-- Storage that refused a write is found as it was before. -/
theorem reopened_of_refused {t : String} {stored : Option (List Preset)} {d' : Desk}
    (hleaves : Leaves 0 Vocabulary.presetsKey t (deskOn stored true).storage d'.storage) :
    Reopened 0 d' (deskOn stored false) where
  healthy := good_deskOn stored
  kept := (hleaves.refused (Bool.false_ne_true ∘ Eq.symm) Vocabulary.presetsKey).symm

/-- Storage that took a list holds that list. -/
theorem reopened_of_taken {ps : List Preset} {stored : Option (List Preset)} {d' : Desk}
    (hleaves : Leaves 0 Vocabulary.presetsKey (PresetStore.listText ps)
      (deskOn stored false).storage d'.storage) : Reopened 0 d' (deskOn (some ps) false) where
  healthy := good_deskOn (some ps)
  kept := (raw_deskOn ps false).trans (hleaves.taken rfl).symm

/-- The preset for functions is created, and it is added to what is seen. -/
theorem createMine_leaves {stored : Option (List Preset)} {refuses : Bool} {base : List Preset}
    (hseen : PresetStore.seen 0 Vocabulary.presetsKey (deskOn stored refuses) = .ok base)
    (hstatus : (plain.answer createMine (deskOn stored refuses)).1.status = 201)
    (hmine : presetOf? (plain.answer createMine (deskOn stored refuses)).1 = some mine) :
    (plain.answer createMine (deskOn stored refuses)).1 = .created (.map mine.entries) ∧
    Leaves 0 Vocabulary.presetsKey (PresetStore.listText (base ++ [mine]))
      (deskOn stored refuses).storage
      (plain.answer createMine (deskOn stored refuses)).2.storage := by
  obtain ⟨p, base', hreply, hseen', -, hleaves⟩ := created_leaves rfl rfl hstatus
  obtain rfl : base = base' := Except.ok.inj (hseen.symm.trans hseen')
  rw [hreply] at hmine
  obtain rfl : p = mine := Option.some.inj hmine
  exact ⟨hreply, hleaves⟩

/-- On healthy storage that holds no presets yet, a preset is created and another one is deleted,
and that is how they are found. -/
theorem acknowledged_durable_plain :
    (∃ d', Reopened 0 (plain.answer createMine (deskOn none false)).2 d' ∧
      (plain.answer (getPreset mine.id) d').1 = .done (.map mine.entries)) ∧
    ∃ d', Reopened 0 (plain.answer deleteBuiltIn (deskOn none false)).2 d' ∧
      (plain.answer { deleteBuiltIn with method := "GET" } d').1 = presetNotFound := by
  have hseen : PresetStore.seen 0 Vocabulary.presetsKey (deskOn none false) =
      .ok Preset.builtIn := rfl
  have hcreated : (plain.answer createMine (deskOn none false)).1.status = 201 := by decide +kernel
  have hdeleted : (plain.answer deleteBuiltIn (deskOn none false)).1.status = 204 := by
    decide +kernel
  obtain ⟨hmine, hadded⟩ := createMine_leaves hseen hcreated (by decide +kernel)
  obtain ⟨id, left, -, hremoved⟩ := deleted_leaves rfl hdeleted
  have hopen := reopened_of_taken hadded
  have hopen' := reopened_of_taken hremoved
  refine ⟨⟨_, hopen, ?_⟩, _, hopen',
    ((acknowledged_durable plain (deskOn none false) deleteBuiltIn).2 rfl hdeleted).1 rfl _ hopen'⟩
  obtain ⟨p, base, hreply, hbase, hdurable, -⟩ :=
    (acknowledged_durable plain (deskOn none false) createMine).1 rfl rfl hcreated
  obtain rfl : Preset.builtIn = base := Except.ok.inj (hseen.symm.trans hbase)
  have hvalue := Reply.created.inj (hreply.symm.trans hmine)
  obtain rfl : p = mine := by simpa using congrArg Preset.ofValue hvalue
  exact hdurable rfl (by decide) _ hopen

/-- **What was acknowledged is not always found.**  If the storage refuses the write, a preset that
was created is not there later, and one that was deleted still is.  If the list holds another preset
with the id of a new one, that one is found. -/
theorem acknowledged_not_found :
    (∃ d', (plain.answer createMine (deskOn none true)).1 = .created (.map mine.entries) ∧
      Reopened 0 (plain.answer createMine (deskOn none true)).2 d' ∧
      (plain.answer (getPreset mine.id) d').1.status = 404) ∧
    (∃ d', (plain.answer deleteBuiltIn (deskOn none true)).1.status = 204 ∧
      Reopened 0 (plain.answer deleteBuiltIn (deskOn none true)).2 d' ∧
      (plain.answer { deleteBuiltIn with method := "GET" } d').1.status = 200) ∧
    ∃ d', (plain.answer createMine (deskOn (some [other]) false)).1 =
        .created (.map mine.entries) ∧
      Reopened 0 (plain.answer createMine (deskOn (some [other]) false)).2 d' ∧
      (plain.answer (getPreset mine.id) d').1 = .done (.map other.entries) := by
  refine ⟨⟨deskOn none false, ?_⟩, ⟨deskOn none false, ?_⟩, deskOn (some [other, mine]) false, ?_⟩
  · have hseen : PresetStore.seen 0 Vocabulary.presetsKey (deskOn none true) =
        .ok Preset.builtIn := rfl
    obtain ⟨hmine, hrefused⟩ := createMine_leaves hseen (by decide +kernel) (by decide +kernel)
    exact ⟨hmine, reopened_of_refused hrefused, by decide +kernel⟩
  · have hdeleted : (plain.answer deleteBuiltIn (deskOn none true)).1.status = 204 := by
      decide +kernel
    obtain ⟨id, left, -, hrefused⟩ := deleted_leaves rfl hdeleted
    exact ⟨hdeleted, reopened_of_refused hrefused, by decide +kernel⟩
  · have hseen : PresetStore.seen 0 Vocabulary.presetsKey (deskOn (some [other]) false) =
        .ok [other] := by
      rw [PresetStore.seen_healthy (good_deskOn _), raw_deskOn, PresetStore.presetsOf_listText]
    obtain ⟨hmine, hadded⟩ := createMine_leaves hseen (by decide +kernel) (by decide +kernel)
    have hplace : Endpoint.ofPath? (getPreset mine.id).path = some (.preset mine.id) := rfl
    exact ⟨hmine, reopened_of_taken hadded,
      answer_show rfl hplace (good_deskOn _) (raw_deskOn _ _)⟩

end Service

end SymbolSieve

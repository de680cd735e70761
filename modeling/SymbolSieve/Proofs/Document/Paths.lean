import SymbolSieve.Proofs.Document.Overlay
import Mathlib.Data.List.Infix

/-!
# Values at paths of a document

A value that is put at a path of a document is found there, and at every path that is neither
shorter nor longer than the one that was written the document reads as before.  So two values at
such paths may be put in any order, as far as it does not matter which keys come first.

This survives that the document is laid over its defaults in between, although that writes into the
document as well: what is laid over the defaults in the end has these anyway.

## What is here

* `Apart`: neither of two paths leads on from the other.
* `getAt?_putAt_self`, `getAt?_putAt_of_apart`: what there is at a path after a value was put at
  one.
* `SameUpToOrder`: documents that are the same up to the order of their keys, and
  `sameUpToOrder_iff`, key by key.
* `putAt_comm`: two values are put in any order.
* `restore_putAt_restore`: restoring a document before a value is put into it makes no difference
  after it is restored again.
* `faithful_putAt_iff`: whether a document with a value at a path can be stored is a question of
  that value and of that path.
-/

set_option autoImplicit false

namespace SymbolSieve

namespace Document

open Json

/-! ## Under a key -/

section

variable {key other : String} {doc : Entries}

theorem child_put_map (key : String) (es doc : Entries) :
    child key (Assoc.put key (.map es) doc) = es := by
  rw [child, Assoc.get?_put_self]

theorem child_put_of_ne (v : Value) (h : other ≠ key) :
    child other (Assoc.put key v doc) = child other doc := by
  rw [child_eq_inner, Assoc.get?_put_of_ne v doc h, child_eq_inner]

theorem plain_child (key : String) (h : Plain (.map doc)) : Plain (.map (child key doc)) :=
  plain_inner fun _ hw => plain_of_get? h hw

theorem plain_put {v : Value} (hv : Plain v) (h : Plain (.map doc)) :
    Plain (.map (Assoc.put key v doc)) := by
  rw [Plain, plainEntries_iff] at h ⊢
  refine ⟨Assoc.nodup_keys_put h.1, fun e he => ?_⟩
  obtain rfl | hmem := Assoc.mem_of_mem_put he
  · exact hv
  · exact h.2 e hmem

end

/-! ## Putting a value -/

/-- What is put under the first key of a path, given the entries that are there. -/
def planted (value : Value) (rest : List String) (es : Entries) : Value :=
  if rest = [] then value else .map (putAt value rest es)

theorem planted_nil (value : Value) (es : Entries) : planted value [] es = value := if_pos rfl

theorem planted_cons (value : Value) (next : String) (rest : List String) (es : Entries) :
    planted value (next :: rest) es = .map (putAt value (next :: rest) es) := if_neg nofun

/-- Putting a value at a path writes under the first key of it. -/
theorem putAt_cons (value : Value) (key : String) (rest : List String) (doc : Entries) :
    putAt value (key :: rest) doc = Assoc.put key (planted value rest (child key doc)) doc := by
  match rest with
  | [] => rw [planted_nil, putAt]
  | next :: rest =>
    rw [planted_cons, putAt]
    nofun

theorem plain_putAt {value : Value} (hvalue : Plain value) (path : List String) {doc : Entries}
    (hdoc : Plain (.map doc)) : Plain (.map (putAt value path doc)) := by
  match path with
  | [] => exact hdoc
  | [key] => exact plain_put hvalue hdoc
  | key :: next :: rest =>
    rw [putAt_cons, planted_cons]
    exact plain_put (plain_putAt hvalue (next :: rest) (plain_child key hdoc)) hdoc

/-- **A value is found where it was put.** -/
theorem getAt?_putAt_self (value : Value) (path : List String) (hpath : path ≠ [])
    (doc : Entries) : getAt? path (putAt value path doc) = some value := by
  match path with
  | [key] => exact Assoc.get?_put_self key value doc
  | key :: next :: rest =>
    rw [putAt_cons, planted_cons, getAt?_cons, child_put_map]
    exact getAt?_putAt_self value (next :: rest) nofun _

/-- Neither of two paths leads on from the other. -/
def Apart (path other : List String) : Prop := ¬ path <+: other ∧ ¬ other <+: path

theorem Apart.symm {path other : List String} (h : Apart path other) : Apart other path :=
  ⟨h.2, h.1⟩

theorem apart_cons_iff {key : String} {path other : List String} :
    Apart (key :: path) (key :: other) ↔ Apart path other := by
  simp [Apart]

/-- **Elsewhere** a document with a value at a path reads as before. -/
theorem getAt?_putAt_of_apart (value : Value) {path other : List String} (h : Apart other path)
    (doc : Entries) : getAt? other (putAt value path doc) = getAt? other doc := by
  match path, other with
  | [], _ => exact absurd List.nil_prefix h.2
  | _ :: _, [] => exact absurd List.nil_prefix h.1
  | key :: rest, l :: ls =>
    rw [putAt_cons]
    by_cases hl : l = key
    · subst hl
      have hrest := apart_cons_iff.1 h
      match rest, ls with
      | [], _ => exact absurd List.nil_prefix hrest.2
      | _ :: _, [] => exact absurd List.nil_prefix hrest.1
      | next :: rest, m :: ms =>
        rw [planted_cons, getAt?_cons, getAt?_cons, child_put_map]
        exact getAt?_putAt_of_apart value hrest (child l doc)
    · match ls with
      | [] => exact Assoc.get?_put_of_ne _ doc hl
      | m :: ms => rw [getAt?_cons, getAt?_cons, child_put_of_ne _ hl]

end Document

/-! ## The order of keys -/

/-- A value as it is seen from outside: all of it, but nothing of what is in a mapping. -/
def Value.cover : Value → Value
  | .map _ => .map []
  | v => v

namespace Document

open Json

/-- Two documents are the same up to the order of their keys: at every path they have the same
value, or both have a mapping. -/
def SameUpToOrder (doc doc' : Entries) : Prop :=
  ∀ path, (getAt? path doc).map Value.cover = (getAt? path doc').map Value.cover

namespace SameUpToOrder

variable {doc doc' doc'' : Entries}

theorem refl (doc : Entries) : SameUpToOrder doc doc := fun _ => rfl

theorem symm (h : SameUpToOrder doc doc') : SameUpToOrder doc' doc := fun path => (h path).symm

theorem trans (h : SameUpToOrder doc doc') (h' : SameUpToOrder doc' doc'') :
    SameUpToOrder doc doc'' := fun path => (h path).trans (h' path)

end SameUpToOrder

/-- What two documents have under a key is the same up to the order of the keys. -/
def Matching (found found' : Option Value) : Prop :=
  found.map Value.cover = found'.map Value.cover ∧ SameUpToOrder (inner found) (inner found')

theorem Matching.of_eq {found found' : Option Value} (h : found = found') : Matching found found' :=
  h ▸ ⟨rfl, .refl _⟩

/-- Documents are the same up to the order of their keys if they are so under every key. -/
theorem sameUpToOrder_iff {doc doc' : Entries} : SameUpToOrder doc doc' ↔
    ∀ key, Matching (Assoc.get? key doc) (Assoc.get? key doc') := by
  constructor
  · refine fun h key => ⟨h [key], fun path => ?_⟩
    rw [← child_eq_inner, ← child_eq_inner]
    match path with
    | [] => rfl
    | next :: rest =>
      rw [← getAt?_cons, ← getAt?_cons]
      exact h (key :: next :: rest)
  · intro h path
    match path with
    | [] => rfl
    | [key] => exact (h key).1
    | key :: next :: rest =>
      rw [getAt?_cons, getAt?_cons]
      exact (h key).2 (next :: rest)

theorem SameUpToOrder.put {doc doc' : Entries} (h : SameUpToOrder doc doc') (key : String)
    (v : Value) : SameUpToOrder (Assoc.put key v doc) (Assoc.put key v doc') := by
  refine sameUpToOrder_iff.2 fun k => ?_
  by_cases hk : k = key
  · subst hk
    rw [Assoc.get?_put_self, Assoc.get?_put_self]
    exact .of_eq rfl
  · rw [Assoc.get?_put_of_ne v _ hk, Assoc.get?_put_of_ne v _ hk]
    exact sameUpToOrder_iff.1 h k

/-! ## Any order of values -/

/-- **Two values are put in any order** at paths of which neither leads on from the other. -/
theorem putAt_comm (v w : Value) {path other : List String} (h : Apart path other)
    (doc : Entries) : SameUpToOrder (putAt v path (putAt w other doc))
      (putAt w other (putAt v path doc)) := by
  match path, other with
  | [], _ => exact absurd List.nil_prefix h.1
  | _ :: _, [] => exact absurd List.nil_prefix h.2
  | key :: rest, l :: ls =>
    rw [putAt_cons v, putAt_cons w, putAt_cons w, putAt_cons v]
    by_cases hl : key = l
    · subst hl
      have hrest := apart_cons_iff.1 h
      match rest, ls with
      | [], _ => exact absurd List.nil_prefix hrest.1
      | _ :: _, [] => exact absurd List.nil_prefix hrest.2
      | next :: rest, m :: ms =>
        simp only [planted_cons, child_put_map]
        refine sameUpToOrder_iff.2 fun k => ?_
        by_cases hk : k = key
        · subst hk
          rw [Assoc.get?_put_self, Assoc.get?_put_self]
          exact ⟨rfl, putAt_comm v w hrest (child k doc)⟩
        · simp only [Assoc.get?_put_of_ne _ _ hk]
          exact .of_eq rfl
    · rw [child_put_of_ne _ hl, child_put_of_ne _ (Ne.symm hl)]
      refine sameUpToOrder_iff.2 fun k => .of_eq ?_
      by_cases hk : k = key
      · subst hk
        rw [Assoc.get?_put_self, Assoc.get?_put_of_ne _ _ hl, Assoc.get?_put_self]
      · by_cases hkl : k = l
        · subst hkl
          rw [Assoc.get?_put_of_ne _ _ hk, Assoc.get?_put_self, Assoc.get?_put_self]
        · simp only [Assoc.get?_put_of_ne _ _ hk, Assoc.get?_put_of_ne _ _ hkl]

/-! ## Documents over their defaults -/

theorem cover_of_isLeaf {v : Value} (h : v.IsLeaf) : v.cover = v := by
  match v with
  | .map es => exact absurd rfl (h es)
  | .null | .bool _ | .int _ | .float _ | .text _ | .list _ | .object _ => rfl

theorem cover_overlayValue (below : Option Value) (v : Value) :
    (overlayValue below v).cover = v.cover := by
  obtain hv | ⟨es, rfl⟩ := v.isLeaf_or_map
  · rw [overlayValue_leaf _ hv]
  · match below with
    | none => rw [overlayValue_none]
    | some w =>
      obtain hw | ⟨base, rfl⟩ := w.isLeaf_or_map
      · rw [overlayValue_of_isLeaf hw]
      · rw [overlayValue]
        rfl

/-- What is seen from outside tells what is a mapping. -/
theorem exists_map_of_cover_eq {es : Entries} {w : Value} (h : w.cover = (Value.map es).cover) :
    ∃ fs, w = .map fs :=
  w.isLeaf_or_map.resolve_left fun hw => hw [] (cover_of_isLeaf hw ▸ h)

theorem isLeaf_of_cover_eq {v w : Value} (h : w.cover = v.cover) (hv : v.IsLeaf) : w.IsLeaf := by
  rintro es rfl
  obtain ⟨fs, hfs⟩ := exists_map_of_cover_eq h.symm
  exact hv fs hfs

/-- Where a walk runs out does not depend on the order of the keys. -/
theorem SameUpToOrder.runsOut_iff {doc doc' : Entries} (h : SameUpToOrder doc doc')
    (path : List String) : RunsOut path doc ↔ RunsOut path doc' := by
  match path with
  | [] => exact Iff.rfl
  | key :: rest =>
    obtain ⟨hcover, hchild⟩ := sameUpToOrder_iff.1 h key
    match hget : Assoc.get? key doc with
    | none =>
      rw [hget, Option.map_none, eq_comm, Option.map_eq_none_iff] at hcover
      exact iff_of_true (runsOut_of_none rest hget) (runsOut_of_none rest hcover)
    | some v =>
      rw [hget, Option.map_some, eq_comm, Option.map_eq_some_iff] at hcover
      obtain ⟨w, hget', hw⟩ := hcover
      obtain hv | ⟨es, rfl⟩ := v.isLeaf_or_map
      · exact iff_of_false (not_runsOut_of_isLeaf rest hv hget)
          (not_runsOut_of_isLeaf rest (isLeaf_of_cover_eq hw hv) hget')
      · obtain ⟨fs, rfl⟩ := exists_map_of_cover_eq hw
        rw [runsOut_map_iff rest hget, runsOut_map_iff rest hget']
        rw [hget, hget'] at hchild
        exact SameUpToOrder.runsOut_iff hchild rest

/-- What is seen at a path of a document that was laid over another one. -/
theorem cover_getAt?_overlay (path : List String) (base : Entries) {above : Entries}
    (habove : Plain (.map above)) :
    (RunsOut path above → (getAt? path (overlay base above)).map Value.cover =
      (getAt? path base).map Value.cover) ∧
    (¬ RunsOut path above → (getAt? path (overlay base above)).map Value.cover =
      (getAt? path above).map Value.cover) := by
  obtain ⟨hruns, hnot⟩ := getAt?_overlay path base habove
  refine ⟨fun h => by rw [hruns h], fun h => ?_⟩
  rw [hnot h, Option.map_map]
  exact congrArg (Option.map · _) (funext fun v => cover_overlayValue _ v)

/-- **Documents that are the same up to the order of their keys** stay so if they are laid over
another one. -/
theorem SameUpToOrder.overlay {doc doc' : Entries} (h : SameUpToOrder doc doc')
    (hdoc : Plain (.map doc)) (hdoc' : Plain (.map doc')) (base : Entries) :
    SameUpToOrder (Document.overlay base doc) (Document.overlay base doc') := by
  intro path
  obtain ⟨hruns, hnot⟩ := cover_getAt?_overlay path base hdoc
  obtain ⟨hruns', hnot'⟩ := cover_getAt?_overlay path base hdoc'
  by_cases hpath : RunsOut path doc
  · rw [hruns hpath, hruns' ((h.runsOut_iff path).1 hpath)]
  · rw [hnot hpath, hnot' (mt (h.runsOut_iff path).2 hpath)]
    exact h path

theorem SameUpToOrder.restore {doc doc' : Entries} (h : SameUpToOrder doc doc')
    (hdoc : Plain (.map doc)) (hdoc' : Plain (.map doc')) :
    SameUpToOrder (Document.restore doc) (Document.restore doc') :=
  (h.overlay hdoc hdoc' default).put _ _

/-! ## Restoring in between -/

/-- The mapping under a key of a document that was laid over another one. -/
theorem child_overlay (key : String) (base : Entries) {doc : Entries} (hdoc : Plain (.map doc)) :
    child key (overlay base doc) = overlay (child key base) (child key doc) ∨
      child key (overlay base doc) = child key doc := by
  rcases hget : Assoc.get? key doc with _ | v
  · left
    rw [child_overlay_of_none hdoc.1 hget, child_eq_inner key doc, hget, inner, overlay_nil]
    exact fun _ => (Option.some_ne_none _).symm
  · obtain hv | ⟨es, rfl⟩ := v.isLeaf_or_map
    · right
      rw [child_overlay_of_isLeaf hdoc.1 hv hget, child_of_isLeaf hv hget]
    · left
      rw [child_overlay_of_map hdoc.1 (plain_of_get? hdoc hget).1 hget, child_eq_inner key doc,
        hget, inner]

/-- **Laying a document over another one** before a value is put into it makes no difference once it
is laid over the other one again. -/
theorem overlay_putAt_overlay (value : Value) (path : List String) {base doc : Entries}
    (hbase : Plain (.map base)) (hdoc : Plain (.map doc)) :
    SameUpToOrder (overlay base (putAt value path (overlay base doc)))
      (overlay base (putAt value path doc)) := by
  match path with
  | [] =>
    rw [putAt, putAt, overlay_beneath hdoc hbase]
    exact .refl _
  | key :: rest =>
    have hresult : (Assoc.keys (overlay base doc)).Nodup := nodup_keys_overlay hbase.1 doc
    refine sameUpToOrder_iff.2 fun k => ?_
    rw [get?_overlay k (nodup_keys_putAt value _ hresult),
      get?_overlay k (nodup_keys_putAt value _ hdoc.1), putAt_cons, putAt_cons]
    by_cases hk : k = key
    · subst hk
      rw [Assoc.get?_put_self, Assoc.get?_put_self]
      match rest with
      | [] => exact .of_eq (by rw [planted_nil, planted_nil])
      | next :: rest =>
        dsimp only
        rw [planted_cons, planted_cons]
        obtain hchild | hchild := child_overlay k base hdoc
        · have hbase' := plain_child k hbase
          have hdoc' := plain_child k hdoc
          rw [hchild, overlayValue_map _ (nodup_keys_putAt value _ (nodup_keys_overlay hbase'.1 _)),
            overlayValue_map _ (nodup_keys_putAt value _ hdoc'.1)]
          exact ⟨rfl, overlay_putAt_overlay value (next :: rest) hbase' hdoc'⟩
        · rw [hchild]
          exact .of_eq rfl
    · rw [Assoc.get?_put_of_ne _ _ hk, Assoc.get?_put_of_ne _ _ hk, ← get?_overlay k hresult,
        overlay_beneath hdoc hbase, ← get?_overlay k hdoc.1]
      exact .of_eq rfl

/-- Entries other than the version decide what comes of restoring. -/
theorem restore_congr {doc doc' : Entries} (hdoc : (Assoc.keys doc).Nodup)
    (hdoc' : (Assoc.keys doc').Nodup)
    (h : ∀ key, key ≠ "version" → Assoc.get? key doc = Assoc.get? key doc') :
    SameUpToOrder (restore doc) (restore doc') := by
  refine sameUpToOrder_iff.2 fun key => .of_eq ?_
  by_cases hkey : key = "version"
  · subst hkey
    rw [get?_restore_version, get?_restore_version]
  · rw [Document.restore, Document.restore, Assoc.get?_put_of_ne _ _ hkey,
      Assoc.get?_put_of_ne _ _ hkey, get?_overlay key hdoc, get?_overlay key hdoc', h key hkey]

theorem get?_putAt_put_of_ne (value : Value) (path : List String) {key k : String} (hk : k ≠ key)
    (v : Value) (doc : Entries) :
    Assoc.get? k (putAt value path (Assoc.put key v doc)) =
      Assoc.get? k (putAt value path doc) := by
  match path with
  | [] => exact Assoc.get?_put_of_ne v doc hk
  | l :: rest =>
    rw [putAt_cons, putAt_cons]
    by_cases hl : k = l
    · subst hl
      rw [Assoc.get?_put_self, Assoc.get?_put_self, child_put_of_ne v hk]
    · rw [Assoc.get?_put_of_ne _ _ hl, Assoc.get?_put_of_ne _ _ hl, Assoc.get?_put_of_ne v doc hk]

theorem plain_default : Plain (.map default) := sound_default.1

/-- **Restoring a document** before a value is put into it makes no difference once it is restored
again. -/
theorem restore_putAt_restore (value : Value) (path : List String) {doc : Entries}
    (hdoc : Plain (.map doc)) :
    SameUpToOrder (restore (putAt value path (restore doc))) (restore (putAt value path doc)) := by
  have hresult : (Assoc.keys (overlay default doc)).Nodup :=
    nodup_keys_overlay plain_default.1 doc
  have hversion : SameUpToOrder (restore (putAt value path (restore doc)))
      (restore (putAt value path (overlay default doc))) :=
    restore_congr (nodup_keys_putAt value path (Assoc.nodup_keys_put hresult))
      (nodup_keys_putAt value path hresult) fun key hkey => get?_putAt_put_of_ne value path hkey _ _
  exact hversion.trans ((overlay_putAt_overlay value path plain_default hdoc).put _ _)

/-- **Two values are put in any order** into a document that is restored each time. -/
theorem restore_putAt_comm {v w : Value} (hv : Plain v) (hw : Plain w) {path other : List String}
    (h : Apart path other) {doc : Entries} (hdoc : Plain (.map doc)) :
    SameUpToOrder (restore (putAt w other (restore (putAt v path doc))))
      (restore (putAt v path (restore (putAt w other doc)))) := by
  have hpath := plain_putAt hv path hdoc
  have hother := plain_putAt hw other hdoc
  exact ((restore_putAt_restore w other hpath).trans
    ((putAt_comm w v h.symm doc).restore (plain_putAt hw other hpath)
      (plain_putAt hv path hother))).trans (restore_putAt_restore v path hother).symm

/-! ## Documents that can be stored -/

theorem faithful_put_iff {depth : Nat} {key : String} {v : Value} {es : Entries}
    (h : Faithful (depth + 1) (.map es)) :
    Faithful (depth + 1) (.map (Assoc.put key v es)) ↔ Faithful depth v := by
  refine ⟨fun hput => ?_, fun hv => faithful_put hv h⟩
  exact (faithful_map_iff.1 hput).2 (key, v)
    (Assoc.mem_of_get?_eq_some (Assoc.get?_put_self key v es))

theorem faithful_nil (depth : Nat) : Faithful (depth + 1) (.map []) :=
  faithful_map_iff.2 ⟨List.nodup_nil, nofun⟩

theorem child_eq_nil_or_faithful {depth : Nat} (key : String) {doc : Entries}
    (h : Faithful (depth + 1) (.map doc)) :
    child key doc = [] ∨ Faithful depth (.map (child key doc)) := by
  rw [child]
  split
  next es hget => exact .inr ((faithful_map_iff.1 h).2 _ (Assoc.mem_of_get?_eq_some hget))
  next => exact .inl rfl

/-- **Whether a document with a value at a path can be stored** is a question of that value and of
that path. -/
theorem faithful_putAt_iff {depth : Nat} (value : Value) (path : List String) {doc : Entries}
    (hpath : path ≠ []) (h : Faithful depth (.map doc)) :
    Faithful depth (.map (putAt value path doc)) ↔ Faithful depth (.map (putAt value path [])) := by
  obtain ⟨depth, rfl⟩ : ∃ d, depth = d + 1 := Nat.exists_eq_succ_of_ne_zero (by
    rintro rfl
    simp [Faithful, obstacle?] at h)
  match path with
  | key :: rest =>
    rw [putAt_cons, putAt_cons, faithful_put_iff h, faithful_put_iff (faithful_nil depth)]
    match rest with
    | [] => rw [planted_nil, planted_nil]
    | next :: rest =>
      have hnil : child key [] = [] := rfl
      rw [planted_cons, planted_cons, hnil]
      obtain hchild | hchild := child_eq_nil_or_faithful key h
      · rw [hchild]
      · exact faithful_putAt_iff value (next :: rest) nofun hchild

end Document

end SymbolSieve

import SymbolSieve.Proofs.Document

/-!
# Laying documents over each other

A document laid over another one wins wherever both have something, except that mappings on both
sides are laid over each other.  So a value of the lower document stays exactly where the upper one
has nothing to say, and that is less often than one would think: a value of the upper document that
stands in the way of a longer path takes everything below it away.

Laying the upper document over the result once more changes nothing, and neither does laying the
result over the lower document.  What is stored is laid over the defaults every time it is read, and
is stored again with them, so this is what keeps it from drifting.

## What is here

* `Value.entries_induction`: induction on the mappings in a value.
* `keys_overlay`: the keys of the result in order.
* `overlayValue_again`, `overlayValue_beneath`: the upper value laid over the result, and the result
  laid over the lower value.
* `RunsOut`: a walk along a path comes to a mapping without the next key.
* `getAt?_overlay`: what the result has at a path; `getAt?_overlay_of_above` and
  `getAt?_overlay_of_below` say what becomes of the values of either document.
* `overlay_laws`: the main result.
-/

set_option autoImplicit false

namespace SymbolSieve

/-! ## Values -/

namespace Value

/-- A value that is no mapping. -/
def IsLeaf (v : Value) : Prop := ∀ es, v ≠ map es

theorem isLeaf_or_map (v : Value) : v.IsLeaf ∨ ∃ es, v = map es := by
  by_cases h : ∃ es, v = map es
  · exact .inr h
  · exact .inl fun es heq => h ⟨es, heq⟩

mutual

/-- **Induction on the mappings in a value**: what holds of every value that is no mapping, and of a
mapping if it holds of what is under its keys, holds of every value. -/
theorem entries_induction {motive : Value → Prop} (leaf : ∀ v : Value, v.IsLeaf → motive v)
    (map : ∀ es : Entries, (∀ e ∈ es, motive e.2) → motive (map es)) (v : Value) : motive v := by
  match v with
  | .map es => exact map es (forall_entries leaf map es)
  | .null | .bool _ | .int _ | .float _ | .text _ | .list _ | .object _ => exact leaf _ nofun
termination_by structural v

theorem forall_entries {motive : Value → Prop} (leaf : ∀ v : Value, v.IsLeaf → motive v)
    (map : ∀ es : Entries, (∀ e ∈ es, motive e.2) → motive (Value.map es))
    (es : List (String × Value)) : ∀ e ∈ es, motive e.2 := by
  match es with
  | [] => nofun
  | (k, v) :: es =>
    exact List.forall_mem_cons.2 ⟨entries_induction leaf map v, forall_entries leaf map es⟩
termination_by structural es

end

end Value

namespace Document

open Json

theorem overlayValue_leaf (below : Option Value) {v : Value} (h : v.IsLeaf) :
    overlayValue below v = v := by
  match v with
  | .map es => exact absurd rfl (h es)
  | .null | .bool _ | .int _ | .float _ | .text _ | .list _ | .object _ => simp [overlayValue]

/-- Whatever is laid over a value that is no mapping replaces it. -/
theorem overlayValue_of_isLeaf {below : Value} (h : below.IsLeaf) (v : Value) :
    overlayValue (some below) v = v := by
  obtain hv | ⟨es, rfl⟩ := v.isLeaf_or_map
  · exact overlayValue_leaf _ hv
  · rw [overlayValue]
    exact fun base heq => h base (Option.some.inj heq)

/-! ## Keys -/

theorem nodup_keys_overlay {base : Entries} (hbase : (Assoc.keys base).Nodup) (above : Entries) :
    (Assoc.keys (overlay base above)).Nodup := by
  induction above generalizing base with
  | nil => rwa [overlay_nil]
  | cons e above ih =>
    rw [overlay]
    exact ih (Assoc.nodup_keys_put hbase)

/-- **The keys of a document that was laid over another one**: those of the lower document, and then
those that only the upper one has. -/
theorem keys_overlay (base : Entries) {above : Entries} (h : (Assoc.keys above).Nodup) :
    Assoc.keys (overlay base above) =
      Assoc.keys base ++ (Assoc.keys above).filter fun k => k ∉ Assoc.keys base := by
  induction above generalizing base with
  | nil => simp [Assoc.keys]
  | cons e above ih =>
    obtain ⟨k, v⟩ := e
    obtain ⟨hnot, hrest⟩ := List.nodup_cons.1 h
    have hkeys : Assoc.keys ((k, v) :: above) = k :: Assoc.keys above := rfl
    rw [overlay, ih _ hrest, Assoc.keys_put, hkeys]
    by_cases hk : k ∈ Assoc.keys base
    · rw [if_pos hk, List.filter_cons_of_neg (by simpa using hk)]
    · have hsame : (Assoc.keys above).filter (fun l => l ∉ Assoc.keys base ++ [k]) =
          (Assoc.keys above).filter fun l => l ∉ Assoc.keys base := by
        refine List.filter_congr fun l hl => ?_
        have hne : l ≠ k := fun heq => hnot (heq ▸ hl)
        simp [hne]
      rw [if_neg hk, hsame, List.filter_cons_of_pos (by simpa using hk), List.append_assoc]
      rfl

/-- The empty document leaves whatever is laid over it. -/
theorem nil_overlay {above : Entries} (h : (Assoc.keys above).Nodup) :
    overlay [] above = above := by
  have hnil : Assoc.keys ([] : Entries) = [] := rfl
  refine Assoc.ext_get? (nodup_keys_overlay (by rw [hnil]; exact .nil) above) ?_ fun key => ?_
  · rw [keys_overlay [] h, hnil]
    simp
  · rw [get?_overlay key h]
    match Assoc.get? key above with
    | none => rfl
    | some v => exact congrArg some (overlayValue_none v)

/-! ## Laying over again -/

/-- The entries of a mapping, if there is one. -/
def inner : Option Value → Entries
  | some (.map es) => es
  | _ => []

theorem child_eq_inner (key : String) (doc : Entries) :
    child key doc = inner (Assoc.get? key doc) := rfl

/-- A mapping laid over whatever there is. -/
theorem overlayValue_map (below : Option Value) {es : Entries} (h : (Assoc.keys es).Nodup) :
    overlayValue below (.map es) = .map (overlay (inner below) es) := by
  obtain _ | w := below
  · rw [overlayValue_none, inner, nil_overlay h]
    exact fun _ => (Option.some_ne_none _).symm
  · obtain hw | ⟨base, rfl⟩ := w.isLeaf_or_map
    · rw [overlayValue_of_isLeaf hw, inner, nil_overlay h]
      exact fun base heq => hw base (Option.some.inj heq)
    · rw [overlayValue, inner]

/-- A document stays if everything that is laid over it is there. -/
theorem overlay_eq_self {base above : Entries}
    (h : ∀ e ∈ above, ∃ v, Assoc.get? e.1 base = some v ∧ overlayValue (some v) e.2 = v) :
    overlay base above = base := by
  induction above with
  | nil => exact overlay_nil base
  | cons e above ih =>
    obtain ⟨⟨v, hget, hv⟩, hrest⟩ := List.forall_mem_cons.1 h
    rw [overlay, hget, hv, Assoc.put_of_get?_eq_some hget, ih hrest]

/-- **The upper value laid over the result** changes nothing. -/
theorem overlayValue_again (below : Option Value) {v : Value} (hv : Plain v) :
    overlayValue (some (overlayValue below v)) v = overlayValue below v := by
  induction v using Value.entries_induction generalizing below with
  | leaf v hleaf => rw [overlayValue_leaf _ hleaf, overlayValue_leaf _ hleaf]
  | map es ih =>
    rw [Plain, plainEntries_iff] at hv
    obtain ⟨hnodup, hplain⟩ := hv
    rw [overlayValue_map below hnodup, overlayValue]
    refine congrArg Value.map (overlay_eq_self fun e he => ?_)
    refine ⟨overlayValue (Assoc.get? e.1 (inner below)) e.2, ?_, ih e he _ (hplain e he)⟩
    rw [get?_overlay _ hnodup, (Assoc.get?_eq_some_iff hnodup).2 he]

theorem overlayValue_self {v : Value} (hv : Plain v) : overlayValue (some v) v = v := by
  have h := overlayValue_again none hv
  rwa [overlayValue_none] at h

theorem plain_inner {below : Option Value} (h : ∀ w, below = some w → Plain w) :
    Plain (.map (inner below)) := by
  match below with
  | some (.map es) => exact h _ rfl
  | none | some .null | some (.bool _) | some (.int _) | some (.float _) | some (.text _)
  | some (.list _) | some (.object _) => exact ⟨List.nodup_nil, trivial⟩

/-- **The result laid over the lower value** changes nothing. -/
theorem overlayValue_beneath {below : Option Value} (hbelow : ∀ w, below = some w → Plain w)
    {v : Value} (hv : Plain v) :
    overlayValue below (overlayValue below v) = overlayValue below v := by
  induction v using Value.entries_induction generalizing below with
  | leaf v hleaf => rw [overlayValue_leaf _ hleaf, overlayValue_leaf _ hleaf]
  | map es ih =>
    rw [Plain, plainEntries_iff] at hv
    obtain ⟨hnodup, hplain⟩ := hv
    have hinner := plain_inner hbelow
    rw [Plain, plainEntries_iff] at hinner
    have hresult := nodup_keys_overlay hinner.1 es
    rw [overlayValue_map below hnodup, overlayValue_map below hresult]
    refine congrArg Value.map (Assoc.ext_get? (nodup_keys_overlay hinner.1 _) ?_ fun key => ?_)
    · rw [keys_overlay _ hresult, keys_overlay _ hnodup]
      simp
    · rw [get?_overlay key hresult, get?_overlay key hnodup]
      match hkey : Assoc.get? key es with
      | some x =>
        have hmem := Assoc.mem_of_get?_eq_some hkey
        exact congrArg some (ih _ hmem
          (fun w hw => hinner.2 _ (Assoc.mem_of_get?_eq_some hw)) (hplain _ hmem))
      | none =>
        match hbase : Assoc.get? key (inner below) with
        | none => rfl
        | some w =>
          exact congrArg some (overlayValue_self (hinner.2 _ (Assoc.mem_of_get?_eq_some hbase)))

section

variable {base above : Entries} (habove : Plain (.map above))

include habove

theorem overlay_self : overlay above above = above := by
  have h := overlayValue_self habove
  rwa [overlayValue, Value.map.injEq] at h

/-- The upper document laid over the result. -/
theorem overlay_again : overlay (overlay base above) above = overlay base above := by
  have h := overlayValue_again (some (.map base)) habove
  rwa [overlayValue, overlayValue, Value.map.injEq] at h

/-- The result laid over the lower document. -/
theorem overlay_beneath (hbase : Plain (.map base)) :
    overlay base (overlay base above) = overlay base above := by
  have h := overlayValue_beneath (fun w hw => Option.some.inj hw ▸ hbase) habove
  rwa [overlayValue, overlayValue, Value.map.injEq] at h

end

theorem plain_of_get? {key : String} {es : Entries} (h : Plain (.map es)) {v : Value}
    (hget : Assoc.get? key es = some v) : Plain v := by
  rw [Plain, plainEntries_iff] at h
  exact h.2 _ (Assoc.mem_of_get?_eq_some hget)

theorem child_of_isLeaf {key : String} {doc : Entries} {v : Value} (hv : v.IsLeaf)
    (hget : Assoc.get? key doc = some v) : child key doc = [] := by
  rw [child, hget]
  split
  next es heq => exact absurd (Option.some.inj heq) (hv es)
  next => rfl

section

variable {key : String} {base above : Entries} (habove : (Assoc.keys above).Nodup)

include habove

theorem child_overlay_of_none (hget : Assoc.get? key above = none) :
    child key (overlay base above) = child key base := by
  rw [child_eq_inner, get?_overlay key habove, hget, child_eq_inner]

theorem child_overlay_of_map {es : Entries} (hes : (Assoc.keys es).Nodup)
    (hget : Assoc.get? key above = some (.map es)) :
    child key (overlay base above) = overlay (child key base) es := by
  rw [child_eq_inner, get?_overlay key habove, hget]
  dsimp only
  rw [overlayValue_map _ hes]
  rfl

theorem child_overlay_of_isLeaf {v : Value} (hv : v.IsLeaf)
    (hget : Assoc.get? key above = some v) : child key (overlay base above) = [] := by
  refine child_of_isLeaf hv ?_
  rw [get?_overlay key habove, hget]
  exact congrArg some (overlayValue_leaf _ hv)

end

/-! ## Paths -/

/-- A walk along a path comes to a mapping without the next key. -/
def RunsOut : List String → Entries → Prop
  | [], _ => False
  | key :: rest, doc => match Assoc.get? key doc with
    | none => True
    | some (.map es) => RunsOut rest es
    | some _ => False

section

variable {key : String} {doc : Entries}

theorem runsOut_of_none (rest : List String) (hget : Assoc.get? key doc = none) :
    RunsOut (key :: rest) doc := by
  rw [RunsOut, hget]
  trivial

theorem runsOut_map_iff (rest : List String) {es : Entries}
    (hget : Assoc.get? key doc = some (.map es)) : RunsOut (key :: rest) doc ↔ RunsOut rest es := by
  rw [RunsOut, hget]

theorem not_runsOut_of_isLeaf (rest : List String) {v : Value} (hv : v.IsLeaf)
    (hget : Assoc.get? key doc = some v) : ¬ RunsOut (key :: rest) doc := by
  rw [RunsOut, hget]
  split
  next heq => cases heq
  next es heq => exact absurd (Option.some.inj heq) (hv es)
  next => exact id

end

theorem getAt?_nil (path : List String) : getAt? path [] = none := by
  match path with
  | [] | [_] | _ :: _ :: _ => rfl

/-- A path of several keys leads on from what is under the first of them. -/
theorem getAt?_cons (key next : String) (rest : List String) (doc : Entries) :
    getAt? (key :: next :: rest) doc = getAt? (next :: rest) (child key doc) := by
  rw [getAt?, child]
  · split
    · rfl
    · exact (getAt?_nil _).symm
  · nofun

/-- **What the result has at a path**: where the upper document runs out it has what the lower one
has, and everywhere else what the upper one has, laid over that. -/
theorem getAt?_overlay (path : List String) (base : Entries) {above : Entries}
    (habove : Plain (.map above)) :
    (RunsOut path above → getAt? path (overlay base above) = getAt? path base) ∧
    (¬ RunsOut path above → getAt? path (overlay base above) =
      (getAt? path above).map (overlayValue (getAt? path base))) := by
  have hnodup : (Assoc.keys above).Nodup := habove.1
  match path with
  | [] => exact ⟨fun _ => rfl, fun _ => rfl⟩
  | [key] =>
    simp only [getAt?, get?_overlay key hnodup]
    match hkey : Assoc.get? key above with
    | none => exact ⟨fun _ => rfl, fun h => absurd (runsOut_of_none [] hkey) h⟩
    | some v =>
      refine ⟨fun h => ?_, fun _ => rfl⟩
      obtain hv | ⟨es, rfl⟩ := v.isLeaf_or_map
      · exact absurd h (not_runsOut_of_isLeaf [] hv hkey)
      · exact ((runsOut_map_iff [] hkey).1 h).elim
  | key :: next :: rest =>
    rw [getAt?_cons, getAt?_cons, getAt?_cons]
    match hkey : Assoc.get? key above with
    | none =>
      rw [child_overlay_of_none hnodup hkey]
      exact ⟨fun _ => rfl, fun h => absurd (runsOut_of_none _ hkey) h⟩
    | some v =>
      obtain hv | ⟨es, rfl⟩ := v.isLeaf_or_map
      · rw [child_overlay_of_isLeaf hnodup hv hkey, child_of_isLeaf hv hkey, getAt?_nil]
        exact ⟨fun h => absurd h (not_runsOut_of_isLeaf _ hv hkey), fun _ => rfl⟩
      · have hes : Plain (.map es) := plain_of_get? habove hkey
        have hchild : child key above = es := by rw [child, hkey]
        rw [child_overlay_of_map hnodup hes.1 hkey, hchild, runsOut_map_iff _ hkey]
        exact getAt?_overlay (next :: rest) (child key base) hes

/-- A document has nothing where it runs out. -/
theorem getAt?_of_runsOut {path : List String} {doc : Entries} (h : RunsOut path doc) :
    getAt? path doc = none := by
  match path with
  | [] => exact h.elim
  | [key] =>
    match hkey : Assoc.get? key doc with
    | none => exact hkey
    | some v =>
      obtain hv | ⟨es, rfl⟩ := v.isLeaf_or_map
      · exact absurd h (not_runsOut_of_isLeaf [] hv hkey)
      · exact ((runsOut_map_iff [] hkey).1 h).elim
  | key :: next :: rest =>
    rw [getAt?_cons, child]
    split
    next es hkey => exact getAt?_of_runsOut ((runsOut_map_iff _ hkey).1 h)
    next => exact getAt?_nil _

/-! ## Laws -/

section

variable {base above : Entries} {path : List String} {v : Value}

/-- A value of the upper document is in the result. -/
theorem getAt?_overlay_of_above (habove : Plain (.map above)) (hv : v.IsLeaf)
    (h : getAt? path above = some v) : getAt? path (overlay base above) = some v := by
  have hruns : ¬ RunsOut path above := fun hruns => by
    rw [getAt?_of_runsOut hruns] at h
    cases h
  rw [(getAt?_overlay path base habove).2 hruns, h, Option.map_some, overlayValue_leaf _ hv]

/-- **A value of the lower document** stays where the upper document runs out, and everywhere else
there is what the upper one has. -/
theorem getAt?_overlay_of_below (habove : Plain (.map above)) (hv : v.IsLeaf)
    (h : getAt? path base = some v) :
    (RunsOut path above → getAt? path (overlay base above) = some v) ∧
    (¬ RunsOut path above → getAt? path (overlay base above) = getAt? path above) := by
  obtain ⟨hruns, hnot⟩ := getAt?_overlay path base habove
  rw [h] at hruns hnot
  refine ⟨hruns, fun hpath => ?_⟩
  have hid : overlayValue (some v) = id := funext (overlayValue_of_isLeaf hv)
  rw [hnot hpath, hid, Option.map_id_fun, id]

end

/-- What is expected of a document that was made from two others, one laid over the other. -/
structure LaidOver (base above doc : Entries) : Prop where
  /-- Nothing else can come of it. -/
  result : overlayAny (.map base) (.map above) = .ok (.map doc)
  /-- Laying the upper document over the result changes nothing. -/
  again : overlay doc above = doc
  /-- Laying the result over the lower document changes nothing. -/
  beneath : overlay base doc = doc
  /-- The values of the upper document are in the result. -/
  wins : ∀ path v, v.IsLeaf → getAt? path above = some v → getAt? path doc = some v
  /-- A value of the lower document is still there exactly where the upper document runs out or has
  the same value, whatever else counts as the same. -/
  stays : ∀ same : Value → Value → Prop, (∀ v, same v v) → ∀ path v, v.IsLeaf →
    getAt? path base = some v → ((∃ w, getAt? path doc = some w ∧ same w v) ↔
      RunsOut path above ∨ ∃ w, getAt? path above = some w ∧ same w v)

end Document

end SymbolSieve

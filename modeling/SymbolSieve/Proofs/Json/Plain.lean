import SymbolSieve.Proofs.Assoc
import SymbolSieve.Proofs.Json.RoundTrip
import SymbolSieve.Proofs.Value.Shown

/-!
# Values that were read

The reader keeps to the limits of the writer: its integers are short enough to be written, and its
lists and mappings are not nested too deeply.  It makes numbers of the format only, and mappings
with distinct keys.  So a value that was read can be written, and is read as itself from then on.

## What is here

* `Plain`: the values that a text shows completely, and `reread_of_plain`.
* `faithful_of_decode`: a value that was read is such a value and can be written.
* `not_holdsLong_of_decodeBytes`: no integer in it is too long.
* `readValue_nested`: opening brackets beyond the depth that is allowed are nested too deeply.
-/

set_option autoImplicit false

namespace SymbolSieve.Json

open Text Binary64

/-! ## Values that a text shows completely -/

mutual

/-- A value that a text shows completely: its numbers are in the format, and no key comes twice. -/
def Plain : Value → Prop
  | .float x => InFormat x
  | .list items => PlainItems items
  | .map entries => (Assoc.keys entries).Nodup ∧ PlainEntries entries
  | .object _ => False
  | _ => True

/-- All items of a list are plain. -/
def PlainItems : List Value → Prop
  | [] => True
  | v :: rest => Plain v ∧ PlainItems rest

/-- All values in a mapping are plain. -/
def PlainEntries : List (String × Value) → Prop
  | [] => True
  | (_, v) :: rest => Plain v ∧ PlainEntries rest

end

theorem plainEntries_iff {es : List (String × Value)} :
    PlainEntries es ↔ ∀ e ∈ es, Plain e.2 := by
  induction es with
  | nil => simp [PlainEntries]
  | cons e es ih =>
    obtain ⟨k, v⟩ := e
    simp [PlainEntries, ih]

theorem obstacleItems?_eq_none_iff {depth : Nat} {vs : List Value} :
    obstacleItems? depth vs = none ↔ ∀ v ∈ vs, obstacle? depth v = none := by
  induction vs with
  | nil => simp [obstacleItems?]
  | cons v vs ih => simp [obstacleItems?, ih]

theorem obstacleEntries?_eq_none_iff {depth : Nat} {es : List (String × Value)} :
    obstacleEntries? depth es = none ↔ ∀ e ∈ es, obstacle? depth e.2 = none := by
  induction es with
  | nil => simp [obstacleEntries?]
  | cons e es ih =>
    obtain ⟨k, v⟩ := e
    simp [obstacleEntries?, ih]

mutual

/-- **A value that a text shows completely is read as itself.** -/
theorem reread_of_plain (v : Value) (h : Plain v) : reread v = v := by
  cases v with
  | float x => rw [reread, rereadFloat_of_inFormat h]
  | list items => rw [reread, rereadItems_of_plain items h]
  | map entries =>
    rw [Plain] at h
    rw [reread, rereadEntries_of_plain entries h.2, Assoc.ofPairs_of_nodup h.1]
  | object attributes => exact absurd h (by simp [Plain])
  | null => rfl
  | bool b => rfl
  | int n => rfl
  | text s => rfl
termination_by structural v

theorem rereadItems_of_plain (items : List Value) (h : PlainItems items) :
    rereadItems items = items := by
  cases items with
  | nil => rfl
  | cons v items =>
    rw [PlainItems] at h
    rw [rereadItems, reread_of_plain v h.1, rereadItems_of_plain items h.2]
termination_by structural items

theorem rereadEntries_of_plain (entries : List (String × Value)) (h : PlainEntries entries) :
    rereadEntries entries = entries := by
  match entries with
  | [] => rfl
  | (k, v) :: entries =>
    rw [PlainEntries] at h
    rw [rereadEntries, reread_of_plain v h.1, rereadEntries_of_plain entries h.2]
termination_by structural entries

end

/-! ## What the reader makes -/

/-- A value that can be written at a depth, and that its text shows completely. -/
def Faithful (depth : Nat) (v : Value) : Prop := Plain v ∧ obstacle? depth v = none

theorem lt_of_mem_spanDigits {s : List Char} {d : Nat} (h : d ∈ (spanDigits s).1) : d < 10 := by
  obtain ⟨c, hc, rfl⟩ := List.mem_map.1 h
  have := isDigit_iff_toNat.1 (List.mem_takeWhile_imp hc)
  omega

theorem lt_of_mem_readWhole {s rest : List Char} {ds : List Nat}
    (h : readWhole s = some (ds, rest)) {d : Nat} (hd : d ∈ ds) : d < 10 := by
  unfold readWhole at h
  split at h
  · cases h
    obtain rfl := List.mem_singleton.1 hd
    decide
  · split at h
    · cases h
    next hspan =>
      cases h
      exact lt_of_mem_spanDigits (by rw [hspan]; exact hd)

theorem faithful_of_readNumber {depth : Nat} {s rest : List Char} {v : Value}
    (h : readNumber (some digitLimit) s = .ok (v, rest)) : Faithful depth v := by
  have hint : ∀ {s rest : List Char} {whole : List Nat} (negative : Bool),
      readWhole s = some (whole, rest) → ¬ digitLimit < whole.length →
      Faithful depth (.int (if negative then -(ofDigits whole : Int) else ofDigits whole)) := by
    intro s rest whole negative hwhole hlength
    refine ⟨trivial, ?_⟩
    have hlt : ofDigits whole < 10 ^ digitLimit :=
      Nat.lt_of_lt_of_le (ofDigits_lt fun d hd => lt_of_mem_readWhole hwhole hd)
        (Nat.pow_le_pow_right (by decide) (by omega))
    have hwritable : writableInt (if negative then -(ofDigits whole : Int) else ofDigits whole) =
        true := by
      rw [writableInt_iff]
      cases negative <;> simpa using hlt
    rw [obstacle?, if_pos hwritable]
  simp only [readNumber] at h
  split at h
  next => cases h
  next whole rest' hwhole =>
    split at h
    next =>
      split at h
      next => cases h
      next hlength =>
        cases h
        exact hint _ hwhole (by simpa using hlength)
    next =>
      cases h
      exact ⟨inFormat_ofDecimal _ _ _, rfl⟩

theorem faithful_of_readScalar {depth : Nat} {s rest : List Char} {v : Value}
    (h : readScalar (some digitLimit) s = .ok (v, rest)) : Faithful depth v := by
  unfold readScalar at h
  split at h
  case h_7 => exact faithful_of_readNumber h
  all_goals
    cases h
    exact ⟨trivial, rfl⟩

theorem faithful_list {depth : Nat} {vs : List Value}
    (h : PlainItems vs ∧ obstacleItems? depth vs = none) : Faithful (depth + 1) (.list vs) :=
  ⟨h.1, by rw [obstacle?, if_neg (Nat.succ_ne_zero depth)]; exact h.2⟩

theorem faithful_map {depth : Nat} (es : List (String × Value))
    (h : ∀ e ∈ es, Faithful depth e.2) : Faithful (depth + 1) (.map (Assoc.ofPairs es)) := by
  refine ⟨⟨Assoc.nodup_keys_ofPairs es, plainEntries_iff.2 fun e he => ?_⟩, ?_⟩
  · exact (h e (Assoc.mem_of_mem_ofPairs he)).1
  · rw [obstacle?, if_neg (Nat.succ_ne_zero depth)]
    exact obstacleEntries?_eq_none_iff.2 fun e he => (h e (Assoc.mem_of_mem_ofPairs he)).2

/-- What the reader makes can be written, as long as it recurs so often at most. -/
structure ReadsFaithfully (fuel : Nat) : Prop where
  value : ∀ {depth s v rest}, readValue fuel (.upTo depth) s = .ok (v, rest) → Faithful depth v
  items : ∀ {depth s vs rest}, readItems fuel (.upTo depth) s = .ok (vs, rest) →
    PlainItems vs ∧ obstacleItems? depth vs = none
  entries : ∀ {depth s es rest}, readEntries fuel (.upTo depth) s = .ok (es, rest) →
    ∀ e ∈ es, Faithful depth e.2

namespace ReadsFaithfully

variable {fuel depth : Nat} {s rest : List Char}

theorem value_succ (ih : ReadsFaithfully fuel) {v : Value}
    (h : readValue (fuel + 1) (.upTo depth) s = .ok (v, rest)) : Faithful depth v := by
  unfold readValue at h
  split at h
  case h_1 heq => cases heq
  case h_2 heq =>
    cases heq
    cases depth with
    | zero => cases h
    | succ depth =>
      dsimp only [Limits.inside, Limits.upTo] at h
      split at h
      next heq => cases heq
      next =>
        cases h
        exact faithful_list ⟨trivial, rfl⟩
      next heq _ =>
        cases heq
        obtain ⟨r, hread, hr⟩ := map_eq_ok_iff.1 h
        cases hr
        exact faithful_list (ih.items hread)
  case h_3 heq =>
    cases heq
    cases depth with
    | zero => cases h
    | succ depth =>
      dsimp only [Limits.inside, Limits.upTo] at h
      split at h
      next heq => cases heq
      next =>
        cases h
        exact faithful_map [] (by simp)
      next heq _ =>
        cases heq
        obtain ⟨r, hread, hr⟩ := map_eq_ok_iff.1 h
        cases hr
        exact faithful_map _ (ih.entries hread)
  case h_4 =>
    obtain ⟨r, -, hr⟩ := map_eq_ok_iff.1 h
    cases hr
    exact ⟨trivial, rfl⟩
  case h_5 => exact faithful_of_readScalar h

theorem items_succ (ih : ReadsFaithfully fuel) {vs : List Value}
    (h : readItems (fuel + 1) (.upTo depth) s = .ok (vs, rest)) :
    PlainItems vs ∧ obstacleItems? depth vs = none := by
  rw [readItems] at h
  obtain ⟨⟨v, rest'⟩, hv, h⟩ := bind_eq_ok_iff.1 h
  have hfirst := ih.value hv
  dsimp only at h
  split at h
  next =>
    cases h
    exact ⟨⟨hfirst.1, trivial⟩, by simp [obstacleItems?, hfirst.2]⟩
  next =>
    obtain ⟨⟨vs, rest''⟩, hvs, h⟩ := bind_eq_ok_iff.1 h
    have hrest := ih.items hvs
    cases h
    exact ⟨⟨hfirst.1, hrest.1⟩, by simp [obstacleItems?, hfirst.2, hrest.2]⟩
  next => cases h

theorem entries_succ (ih : ReadsFaithfully fuel) {es : List (String × Value)}
    (h : readEntries (fuel + 1) (.upTo depth) s = .ok (es, rest)) :
    ∀ e ∈ es, Faithful depth e.2 := by
  rw [readEntries] at h
  obtain ⟨⟨k, rest'⟩, -, h⟩ := bind_eq_ok_iff.1 h
  obtain ⟨⟨v, rest'⟩, hv, h⟩ := bind_eq_ok_iff.1 h
  have hfirst := ih.value hv
  dsimp only at h
  split at h
  next =>
    cases h
    simpa using hfirst
  next =>
    obtain ⟨⟨es, rest''⟩, hes, h⟩ := bind_eq_ok_iff.1 h
    have hrest := ih.entries hes
    cases h
    intro e he
    rcases List.mem_cons.1 he with rfl | he
    · exact hfirst
    · exact hrest e he
  next => cases h

end ReadsFaithfully

/-- **What the reader makes can be written**, and is read as itself from then on. -/
theorem readsFaithfully (fuel : Nat) : ReadsFaithfully fuel := by
  induction fuel with
  | zero =>
    constructor <;> intro depth s v rest h <;> simp [readValue, readItems, readEntries] at h
  | succ fuel ih => exact ⟨ih.value_succ, ih.items_succ, ih.entries_succ⟩

theorem faithful_of_decodeChars {cs : List Char} {v : Value}
    (h : decodeChars .standard cs = .ok v) : Faithful depthLimit v := by
  simp only [decodeChars] at h
  split at h
  next => cases h
  next => cases h
  next => cases h
  next hread =>
    split at h
    next =>
      cases h
      exact (readsFaithfully _).value hread
    next => cases h

theorem faithful_of_decode {t : String} {v : Value} (h : decode t = .ok v) :
    Faithful depthLimit v := by
  simp only [decode, decodeWith] at h
  split at h
  next => cases h
  next => exact faithful_of_decodeChars h

/-- A value that holds an integer that is too long cannot be written. -/
theorem obstacle?_ne_none_of_holdsLong {v : Value} (h : v.HoldsLong) (depth : Nat) :
    obstacle? depth v ≠ none := by
  induction h generalizing depth with
  | @int n h =>
    have hlong : ¬ writableInt n = true := fun hshort =>
      absurd (writableInt_iff.1 hshort) (Nat.not_lt.2 h)
    rw [obstacle?, if_neg hlong]
    nofun
  | item hmem _ ih =>
    rw [obstacle?]
    split
    next => nofun
    next => exact fun hnone => ih _ (obstacleItems?_eq_none_iff.1 hnone _ hmem)
  | entry hmem _ ih =>
    rw [obstacle?]
    split
    next => nofun
    next => exact fun hnone => ih _ (obstacleEntries?_eq_none_iff.1 hnone _ hmem)
  | named =>
    rw [obstacle?]
    nofun

/-- No integer in a value that was read is too long. -/
theorem not_holdsLong_of_decodeBytes {bytes : ByteArray} {v : Value}
    (h : decodeBytes bytes = .ok v) : ¬ v.HoldsLong := by
  unfold decodeBytes at h
  split at h
  next => exact fun hlong => obstacle?_ne_none_of_holdsLong hlong _ (faithful_of_decodeChars h).2
  next => cases h

/-- **A value that was read can be written**, and is read as itself again. -/
theorem decode_encode_of_decode {t : String} {v : Value} (h : decode t = .ok v) :
    ∃ t', encode v = .ok t' ∧ decode t' = .ok v := by
  obtain ⟨hplain, hobstacle⟩ := faithful_of_decode h
  have hencode : encode v = .ok (String.ofList (text v)) := by rw [encode, hobstacle]
  refine ⟨_, hencode, ?_⟩
  rw [decode_encode hencode, reread_of_plain v hplain]

/-! ## Nesting -/

/-- Opening brackets beyond the depth that is allowed are nested too deeply. -/
theorem readValue_nested (depth fuel : Nat) (hfuel : 2 * depth + 1 ≤ fuel)
    (rest : List Char) : readValue fuel (.upTo depth) (List.replicate (depth + 1) '[' ++ rest) =
      .error .tooDeep := by
  induction depth generalizing fuel with
  | zero =>
    obtain ⟨fuel, rfl⟩ := Nat.exists_eq_succ_of_ne_zero (n := fuel) (by omega)
    rfl
  | succ depth ih =>
    obtain ⟨fuel, rfl⟩ : ∃ f, fuel = f + 2 := ⟨fuel - 2, by omega⟩
    have hinner := ih fuel (by omega)
    rw [List.replicate_succ, List.cons_append]
    have hopen : ∃ cs, List.replicate (depth + 1) '[' ++ rest = '[' :: cs :=
      ⟨List.replicate depth '[' ++ rest, by rw [List.replicate_succ, List.cons_append]⟩
    obtain ⟨cs, hcs⟩ := hopen
    rw [hcs] at hinner ⊢
    show ((readValue fuel (.upTo depth) ('[' :: cs) >>= _).map _ : Except Stop _) = _
    rw [hinner]
    rfl

/-- **A text that opens too many lists cannot be read**, whatever follows. -/
theorem decode_nested {n : Nat} (h : depthLimit < n) (rest : List Char) :
    decode (String.ofList (List.replicate n '[' ++ rest)) = .error .tooDeep := by
  obtain ⟨k, rfl⟩ := Nat.exists_eq_add_of_lt h
  have hsplit : List.replicate (depthLimit + k + 1) '[' ++ rest =
      List.replicate (depthLimit + 1) '[' ++ (List.replicate k '[' ++ rest) := by
    rw [← List.append_assoc, List.replicate_append_replicate, Nat.add_right_comm]
  have hopen : List.replicate (depthLimit + 1) '[' ++ (List.replicate k '[' ++ rest) =
      '[' :: (List.replicate depthLimit '[' ++ (List.replicate k '[' ++ rest)) := by
    rw [List.replicate_succ, List.cons_append]
  have hread := readValue_nested depthLimit
    (2 * (List.replicate (depthLimit + 1) '[' ++ (List.replicate k '[' ++ rest)).length + 1)
    (by simp; omega) (List.replicate k '[' ++ rest)
  rw [hsplit, decode, decodeWith, String.toList_ofList]
  split
  next heq =>
    rw [hopen] at heq
    exact absurd (List.cons.inj heq).1 (by decide)
  next =>
    have hskip : skip (List.replicate (depthLimit + 1) '[' ++ (List.replicate k '[' ++ rest)) =
        List.replicate (depthLimit + 1) '[' ++ (List.replicate k '[' ++ rest) := by
      rw [hopen]
      rfl
    simp only [decodeChars, hskip]
    rw [show Limits.standard = Limits.upTo depthLimit from rfl, hread]

end SymbolSieve.Json

import SymbolSieve.Proofs.Json.Numbers
import SymbolSieve.Proofs.Outcome
import SymbolSieve.Proofs.Selection.Traits
import SymbolSieve.Table.Symbols

/-!
# Rows of symbol tables

A row of a table of symbols shows one record.  It does not depend on that record alone: if the line
of some other symbol is not known, then the lines of all symbols are written as floating-point
numbers, as long as they fit into words of one kind.  So the rows of a table are not always those of
its parts.

## What is here

* `layout_eq_floats_iff`: the columns of integers that are written as floating-point numbers.
* `IsSymbol`: the records of symbols; `text_eq_ok_iff`, the table of some of them.
* `eq_or_none_of_rowText`: rows show how the lines are written.
* `RowsStand`, `rowsStand_iff`: tables whose rows stand as they are in the table of both, and exactly
  when they do.
* `not_rowsStand_unplaced`: a symbol with a line next to one without.
-/

set_option autoImplicit false

namespace SymbolSieve

open Column Number

/-! ## Columns of integers -/

/-- An integer in a column, or a gap where it is not reported. -/
def Value.reported (n : Option Int) : Value := (n.map .int).getD .null

/-- All integers of a column fit into words of one kind. -/
def FitWords (ns : List (Option Int)) : Prop :=
  (∀ n ∈ ns, n.all fitsSigned = true) ∨ ∀ n ∈ ns, n.all fitsUnsigned = true

namespace Column

theorem fitsUnsigned_iff {n : Int} (h : fitsSigned n = true ∨ fitsUnsigned n = true) :
    fitsUnsigned n = true ↔ 0 ≤ n := by
  simp only [fitsSigned, fitsUnsigned, Bool.and_eq_true, decide_eq_true_eq] at h ⊢
  omega

/-- One more integer can be seen exactly if it fits into words of a kind that all others fit into. -/
theorem withInt_cases (seen : Seen) (n : Int) :
    (seen.withInt n = none ∧ ¬ (seen.large = false ∧ fitsSigned n = true) ∧
      ¬ (seen.negative = false ∧ fitsUnsigned n = true)) ∨
    ∃ seen', seen.withInt n = some seen' ∧ seen'.missing = seen.missing ∧
      seen'.truth = seen.truth ∧ seen'.fraction = seen.fraction ∧
      ¬ (seen'.negative = true ∧ seen'.large = true) ∧
      (seen'.large = false ↔ seen.large = false ∧ fitsSigned n = true) ∧
      (seen'.negative = false ↔ seen.negative = false ∧ fitsUnsigned n = true) := by
  rw [Seen.withInt]
  by_cases hfits : fitsSigned n = true ∨ fitsUnsigned n = true
  · have hunsigned := fitsUnsigned_iff hfits
    have hnot : ¬ (!fitsSigned n && !fitsUnsigned n) = true := by
      rcases hfits with h | h <;> simp [h]
    rw [if_neg hnot]
    dsimp only
    by_cases hpos : 0 ≤ n <;> cases hs : fitsSigned n <;> cases seen.negative <;>
      cases seen.large <;> simp_all
  · have hnot : (!fitsSigned n && !fitsUnsigned n) = true := by simpa using hfits
    rw [if_pos hnot]
    exact .inl ⟨rfl, fun h => hfits (.inl h.2), fun h => hfits (.inr h.2)⟩

/-- A column of integers and gaps, of which something has been seen, is written as floating-point
numbers if there is a gap and all integers fit into words of one kind. -/
theorem layoutFrom_eq_floats_iff {seen : Seen} (htruth : seen.truth = false)
    (hfraction : seen.fraction = false) (hwords : ¬ (seen.negative = true ∧ seen.large = true))
    (ns : List (Option Int)) : layoutFrom seen (ns.map .reported) = .floats ↔
      (seen.missing = true ∨ none ∈ ns) ∧
        ((seen.large = false ∧ ∀ n ∈ ns, n.all fitsSigned = true) ∨
          (seen.negative = false ∧ ∀ n ∈ ns, n.all fitsUnsigned = true)) := by
  induction ns generalizing seen with
  | nil =>
    rw [List.map_nil, layoutFrom]
    cases seen.missing <;> cases hn : seen.negative <;> cases hl : seen.large <;> simp_all
  | cons n ns ih =>
    cases n with
    | none =>
      show layoutFrom { seen with missing := true } (ns.map .reported) = .floats ↔ _
      rw [@ih { seen with missing := true } htruth hfraction hwords]
      simp
    | some n =>
      have hcons : (some n :: ns).map Value.reported = .int n :: ns.map .reported := rfl
      rw [hcons, layoutFrom]
      rcases withInt_cases seen n with ⟨hnone, hsigned, hunsigned⟩ | ⟨seen', hsome, hmissing,
        htruth', hfraction', hwords', hlarge, hnegative⟩
      · rw [hnone]
        refine iff_of_false (by simp) ?_
        rintro ⟨-, ⟨hl, hall⟩ | ⟨hn, hall⟩⟩
        · exact hsigned ⟨hl, hall (some n) (by simp)⟩
        · exact hunsigned ⟨hn, hall (some n) (by simp)⟩
      · rw [hsome]
        dsimp only
        rw [ih (htruth'.trans htruth) (hfraction'.trans hfraction) hwords', hmissing, hlarge,
          hnegative]
        simp [and_assoc]

/-- **A column of integers is written as floating-point numbers** if there is a gap in it and all
integers fit into words of one kind. -/
theorem layout_eq_floats_iff (ns : List (Option Int)) :
    layout (ns.map .reported) = .floats ↔ none ∈ ns ∧ FitWords ns := by
  rw [layout, layoutFrom_eq_floats_iff rfl rfl (by simp)]
  simp [FitWords]

theorem layout_ints (ns : List Int) : layout (ns.map .int) = .each := by
  have h := mt (layout_eq_floats_iff (ns.map some)).1 (by simp)
  rw [List.map_map] at h
  cases hl : layout (ns.map .int) with
  | each => rfl
  | floats => exact absurd hl h

/-! ## Cells of integers -/

/-- The text of an integer in a column with a layout, and of a gap. -/
def numberText : Layout → Option Int → String
  | _, none => ""
  | .each, some n => Text.intText n
  | .floats, some n => ((Binary64.ofInt? n).map Binary64.text).getD (Text.intText n)

theorem natAbs_lt_of_fits {n : Int} (h : fitsSigned n = true ∨ fitsUnsigned n = true) :
    n.natAbs < 2 ^ 64 := by
  norm_num [fitsSigned, fitsUnsigned, firstBit] at h
  omega

/-- An integer that fits into a word is in the range of floating-point numbers. -/
theorem exists_ofInt?_eq {n : Int} (h : fitsSigned n = true ∨ fitsUnsigned n = true) :
    ∃ m e, Binary64.ofInt? n = some (.finite (n < 0) m e) := by
  have hlt := natAbs_lt_of_fits h
  suffices hratio : ∃ m e, Binary64.ofRatio (n < 0) n.natAbs 1 = .finite (n < 0) m e by
    obtain ⟨m, e, hratio⟩ := hratio
    exact ⟨m, e, by rw [Binary64.ofInt?, hratio]⟩
  rcases Nat.eq_zero_or_pos n.natAbs with hzero | hpos
  · exact ⟨0, -1074, by rw [Binary64.ofRatio, if_pos hzero]; rfl⟩
  · have hunit : Binary64.unitExponent n.natAbs 1 ≤ 12 := by
      have hcast : (0 : ℚ) < (n.natAbs : ℚ) / (1 : Nat) := Binary64.natCast_div_pos hpos one_pos
      have hlog : Int.log 2 ((n.natAbs : ℚ) / (1 : Nat)) < 64 := by
        rw [← Int.lt_zpow_iff_log_lt (by norm_num) hcast, Nat.cast_one, div_one]
        exact_mod_cast hlt
      rw [Binary64.unitExponent_eq hpos one_pos]
      omega
    simp only [Binary64.ofRatio, if_neg (Nat.ne_of_gt hpos)]
    generalize Binary64.unitExponent n.natAbs 1 = e at hunit
    split
    · exact ⟨_, _, if_neg (by dsimp only; omega)⟩
    · exact ⟨_, _, if_neg (by dsimp only; omega)⟩

theorem writableInt_of_fits {n : Int} (h : fitsSigned n = true ∨ fitsUnsigned n = true) :
    writableInt n = true := by
  have hpow : (2 : Nat) ^ 64 ≤ 10 ^ digitLimit :=
    Nat.le_trans (by decide : 2 ^ 64 ≤ 10 ^ 20) (Nat.pow_le_pow_right (by decide) (by decide))
  exact writableInt_iff.2 (Nat.lt_of_lt_of_le (natAbs_lt_of_fits h) hpow)

/-- The cell of an integer has a text if it can be written, provided that it fits into a word where
it is a floating-point number. -/
theorem cell_reported {l : Layout} {n : Option Int}
    (h : l = .floats → ∀ k, n = some k → fitsSigned k = true ∨ fitsUnsigned k = true) :
    cell l (.reported n) =
      if n.all writableInt then .ok (numberText l n) else .error .tooManyDigits := by
  cases n with
  | none => cases l <;> rfl
  | some n =>
    cases l with
    | each =>
      simp only [Value.reported, Option.map_some, Option.getD_some, cell, isMissing, Value.shown,
        Value.quoted, intShown, numberText, Option.all_some, Bool.false_eq_true, if_false]
    | floats =>
      have hfits := h rfl n rfl
      obtain ⟨m, e, hfloat⟩ := exists_ofInt?_eq hfits
      simp only [Value.reported, Option.map_some, Option.getD_some, cell, isMissing, float?, hfloat,
        numberText, Option.all_some, writableInt_of_fits hfits, Bool.false_eq_true, if_false,
        if_true]

end Column

/-! ## Numbers in a row -/

namespace Csv

theorem field_intText (n : Int) : field (Text.intText n) = (Text.intText n).toList := by
  have hplain : needsQuotes (Text.intText n).toList = false := by
    rw [needsQuotes, List.any_eq_false]
    intro c hc
    have hchar : c = '-' ∨ c.isDigit = true := by
      rw [Text.intText] at hc
      split at hc
      · rw [String.toList_append, List.mem_append] at hc
        rcases hc with hc | hc
        · exact .inl (by simpa using hc)
        · exact .inr (isDigit_toDigits (by simpa [Text.natText] using hc))
      · exact .inr (isDigit_toDigits (by simpa [Text.natText] using hc))
    rcases hchar with rfl | hdigit
    · decide
    · rw [isDigit_iff_toNat] at hdigit
      rintro hspecial
      simp only [Bool.or_eq_true, decide_eq_true_eq] at hspecial
      rcases hspecial with (rfl | rfl) | rfl <;> revert hdigit <;> decide
  rw [field, hplain]
  rfl

/-- **An integer does not look like a floating-point number** in front of a comma. -/
theorem field_intText_ne {n : Int} (hn : writableInt n = true) (negative : Bool) (m : Nat) (e : Int)
    (rest rest' : List Char) :
    field (Text.intText n) ++ ',' :: rest ≠
      field (Binary64.text (.finite negative m e)) ++ ',' :: rest' := by
  intro h
  have hint := Json.readNumber_intText hn (Json.closes_cons (.inl rfl) rest)
  rw [← field_intText, h, field] at hint
  split at hint
  next => cases hint
  next =>
    have hfloat := Json.readNumber_finiteText (some digitLimit) negative m e
      (Json.closes_cons (.inl rfl) rest')
    rw [Binary64.text, String.toList_ofList, List.append_assoc] at hint
    cases hint.symm.trans hfloat

end Csv

/-! ## Records of symbols -/

namespace SymbolTable

open Record

/-- The record of a symbol: its name, its kind and its path are texts, and its line and the number
of its references are integers or missing. -/
structure IsSymbol (r : Value) : Prop where
  name : ∃ s, field r ["name"] = .text s
  kind : ∃ s, field r ["kind", "type"] = .text s
  path : ∃ s, field r ["path", "file"] = .text s
  line : field r ["line"] = .null ∨ ∃ n, field r ["line"] = .int n
  refs : Record.refs r = .null ∨ ∃ n, Record.refs r = .int n

/-- The text of a field that is one. -/
def textOfField (v : Value) : String :=
  match v with
  | .text s => s
  | _ => ""

/-- The integer of a field that is one. -/
def intOfField? (v : Value) : Option Int :=
  match v with
  | .int n => some n
  | _ => none

/-- The line of a symbol, if it is reported. -/
def lineOf (r : Value) : Option Int := intOfField? (field r ["line"])

/-- The number of references to a symbol, none if it is not reported. -/
def refsOf (r : Value) : Int := (intOfField? (Record.refs r)).getD 0

/-- The row of a symbol. -/
def rowOf (r : Value) : SymbolRow where
  name := .text (textOfField (field r ["name"]))
  kind := textOfField (field r ["kind", "type"])
  file := .text (textOfField (field r ["path", "file"]))
  line := .reported (lineOf r)
  refs := .int (refsOf r)
  dead := isDead r
  inCycle := isInCycle r

theorem ofRecord_of_isSymbol {r : Value} (h : IsSymbol r) : SymbolRow.ofRecord r = .ok (rowOf r) := by
  obtain ⟨name, hname⟩ := h.name
  obtain ⟨kind, hkind⟩ := h.kind
  obtain ⟨path, hpath⟩ := h.path
  have hline : field r ["line"] = .reported (lineOf r) := by
    rw [lineOf]
    rcases h.line with hn | ⟨n, hn⟩ <;> rw [hn] <;> rfl
  have hrefs : (Record.refs r).orElse (.int 0) = .int (refsOf r) := by
    rw [refsOf]
    rcases h.refs with hn | ⟨n, hn⟩ <;> rw [hn]
    · rfl
    · exact orElse_int n
  simp only [SymbolRow.ofRecord, rowOf, Record.kind, Record.path, hname, hkind, hpath, orElse_text,
    Value.shown_text, hline, hrefs, textOfField]
  rfl

/-- The cells of a symbol, with a text for its line. -/
def fieldsOf (r : Value) (line : String) : List String :=
  [textOfField (field r ["name"]), textOfField (field r ["kind", "type"]),
    textOfField (field r ["path", "file"]), line, Text.intText (refsOf r),
    if isDead r then "yes" else "no", if isInCycle r then "yes" else "no"]

/-- The row of a symbol in a table whose lines have a layout. -/
def rowText (l : Layout) (r : Value) : List Char := Csv.line (fieldsOf r (numberText l (lineOf r)))

/-- The layout of the lines of some symbols. -/
def lineLayout (records : List Value) : Layout :=
  layout ((records.map lineOf).map .reported)

/-- The header of a table. -/
def header : String := Csv.text [Vocabulary.columns]

/-- The rows of a table under a layout of its lines. -/
def body (l : Layout) (records : List Value) : String :=
  String.ofList (records.flatMap (rowText l))

/-- The integers of a symbol are short enough to be written. -/
def Writable (r : Value) : Prop :=
  (lineOf r).all writableInt = true ∧ writableInt (refsOf r) = true

theorem rows_of_isSymbol {records : List Value} (h : ∀ r ∈ records, IsSymbol r) :
    rows records = .ok (records.map rowOf) :=
  mapM_eq_ok_iff.2 (List.forall₂_map_right_iff.2
    (List.forall₂_same.2 fun r hr => ofRecord_of_isSymbol (h r hr)))

/-- The layouts of the columns.  Those of the texts do not matter. -/
theorem layouts_eq (records : List Value) : ∃ a b c d e, layouts (records.map rowOf) =
    [a, b, c, lineLayout records, .each, d, e] := by
  have hline : column (records.map rowOf) 3 = (records.map lineOf).map .reported := by
    rw [column, List.map_map, List.map_map]
    rfl
  have hrefs : column (records.map rowOf) 4 = (records.map refsOf).map .int := by
    rw [column, List.map_map, List.map_map]
    rfl
  have hall (rows : List SymbolRow) : layouts rows =
      [layout (column rows 0), layout (column rows 1), layout (column rows 2),
        layout (column rows 3), layout (column rows 4), layout (column rows 5),
        layout (column rows 6)] := rfl
  have hrow := hall (records.map rowOf)
  rw [hline, hrefs, layout_ints] at hrow
  exact ⟨_, _, _, _, _, hrow⟩

/-- The integers of some lines fit into words if they are written as floating-point numbers. -/
theorem fits_of_lineLayout {records : List Value} (h : lineLayout records = .floats) {r : Value}
    (hr : r ∈ records) {n : Int} (hn : lineOf r = some n) :
    fitsSigned n = true ∨ fitsUnsigned n = true := by
  have hmem : some n ∈ records.map lineOf := hn ▸ List.mem_map_of_mem hr
  rcases ((layout_eq_floats_iff _).1 h).2 with hall | hall
  · exact .inl (hall _ hmem)
  · exact .inr (hall _ hmem)

theorem cell_text (l : Layout) (s : String) : cell l (.text s) = .ok s := by
  cases l <;> rfl

/-- The cells of a symbol have texts if its integers can be written. -/
theorem written_eq_ok_iff {l a b c d e : Layout} {r : Value}
    (h : l = .floats → ∀ n, lineOf r = some n → fitsSigned n = true ∨ fitsUnsigned n = true)
    {cells : List String} : written [a, b, c, l, .each, d, e] (rowOf r) = .ok cells ↔
      Writable r ∧ cells = fieldsOf r (numberText l (lineOf r)) := by
  have hline := cell_reported h
  have hrefs : cell .each (.int (refsOf r)) =
      if writableInt (refsOf r) then .ok (Text.intText (refsOf r)) else .error .tooManyDigits := by
    simp only [cell, isMissing, Value.shown, Value.quoted, intShown, Bool.false_eq_true, if_false]
  have hwritten : written [a, b, c, l, .each, d, e] (rowOf r) = (do
      let line ← cell l (.reported (lineOf r))
      let refs ← cell .each (.int (refsOf r))
      return [textOfField (field r ["name"]), textOfField (field r ["kind", "type"]),
        textOfField (field r ["path", "file"]), line, refs,
        if isDead r then "yes" else "no", if isInCycle r then "yes" else "no"]) := by
    simp only [written, rowOf, SymbolRow.cells, SymbolRow.flag, List.zip_cons_cons, List.zip_nil_right,
      List.mapM_cons, List.mapM_nil, cell_text]
    generalize cell l (.reported (lineOf r)) = line
    generalize cell .each (.int (refsOf r)) = refs
    cases line <;> cases refs <;> rfl
  rw [hwritten, hline, hrefs, Writable, fieldsOf]
  generalize (lineOf r).all writableInt = short
  generalize writableInt (refsOf r) = short'
  cases short <;> cases short' <;> simp [bind, Except.bind, pure, Except.pure]
  exact eq_comm

/-- **A table of symbols** is its header with a row for each of them, if their integers can be
written. -/
theorem text_eq_ok_iff {records : List Value} (h : ∀ r ∈ records, IsSymbol r) {t : String} :
    text records = .ok t ↔
      (∀ r ∈ records, Writable r) ∧ t = header ++ body (lineLayout records) records := by
  obtain ⟨a, b, c, d, e, hlayouts⟩ := layouts_eq records
  rw [text, rows_of_isSymbol h]
  show textOf (records.map rowOf) = .ok t ↔ _
  have hlines {lines : List (List String)} :
      (records.map rowOf).mapM (written [a, b, c, lineLayout records, .each, d, e]) = .ok lines ↔
        (∀ r ∈ records, Writable r) ∧
          lines = records.map fun r => fieldsOf r (numberText (lineLayout records) (lineOf r)) := by
    rw [List.mapM_map]
    exact mapM_eq_ok_iff_of_forall fun r hr cells =>
      written_eq_ok_iff fun hlayout n hn => fits_of_lineLayout hlayout hr hn
  have htext : header ++ body (lineLayout records) records = Csv.text (Vocabulary.columns ::
      records.map fun r => fieldsOf r (numberText (lineLayout records) (lineOf r))) := by
    rw [header, body, Csv.text, Csv.text, ← String.ofList_append, List.flatMap_singleton,
      List.flatMap_cons, List.flatMap_map]
    rfl
  rw [textOf, hlayouts, map_eq_ok_iff, htext]
  constructor
  · rintro ⟨lines, hok, rfl⟩
    obtain ⟨hall, rfl⟩ := hlines.1 hok
    exact ⟨hall, rfl⟩
  · rintro ⟨hall, rfl⟩
    exact ⟨_, hlines.2 ⟨hall, rfl⟩, rfl⟩

/-! ## Rows next to each other -/

/-- A row is the cells in front of the line, the line, and the cells behind it. -/
theorem exists_rowText_eq (r : Value) : ∃ front back, ∀ l,
    rowText l r = front ++ (Csv.field (numberText l (lineOf r)) ++ ',' :: back) := by
  refine ⟨Csv.field (textOfField (field r ["name"])) ++ ',' ::
    (Csv.field (textOfField (field r ["kind", "type"])) ++ ',' ::
      (Csv.field (textOfField (field r ["path", "file"])) ++ [','])),
    Csv.field (Text.intText (refsOf r)) ++ ',' ::
      (Csv.field (if isDead r then "yes" else "no") ++ ',' ::
        (Csv.field (if isInCycle r then "yes" else "no") ++ ['\n'])), fun l => ?_⟩
  simp [rowText, Csv.line, fieldsOf, List.intercalate]

/-- A layout makes a difference to lines only. -/
theorem rowText_congr {l l' : Layout} {r : Value} (h : lineOf r = none ∨ l = l') :
    rowText l r = rowText l' r := by
  rcases h with h | rfl
  · rw [rowText, rowText, h]
    cases l <;> cases l' <;> rfl
  · rfl

/-- **Rows show how the lines are written.**  If two texts agree that begin with the same row under
two layouts, then the layouts agree, or there is no line in the row. -/
theorem eq_or_none_of_rowText {l l' : Layout} {r : Value}
    (h : l ≠ l' → ∀ n, lineOf r = some n → fitsSigned n = true ∨ fitsUnsigned n = true)
    {rest rest' : List Char} (heq : rowText l r ++ rest = rowText l' r ++ rest') :
    (lineOf r = none ∨ l = l') ∧ rest = rest' := by
  by_cases hsame : lineOf r = none ∨ l = l'
  · rw [rowText_congr hsame] at heq
    exact ⟨hsame, List.append_cancel_left heq⟩
  · obtain ⟨hn, hl⟩ := not_or.1 hsame
    obtain ⟨n, hn⟩ := Option.ne_none_iff_exists'.1 hn
    have hfits := h hl n hn
    obtain ⟨m, e, hfloat⟩ := exists_ofInt?_eq hfits
    have hdiffer := Csv.field_intText_ne (writableInt_of_fits hfits) (n < 0) m e
    obtain ⟨front, back, hrow⟩ := exists_rowText_eq r
    rw [hrow, hrow, hn] at heq
    simp only [List.append_assoc, List.cons_append] at heq
    have heq := List.append_cancel_left heq
    cases l with
    | each =>
      cases l' with
      | each => exact absurd rfl hl
      | floats =>
        rw [numberText, numberText, hfloat] at heq
        exact absurd heq (hdiffer _ _)
    | floats =>
      cases l' with
      | floats => exact absurd rfl hl
      | each =>
        rw [numberText, numberText, hfloat] at heq
        exact absurd heq.symm (hdiffer _ _)

/-- Rows under one layout are rows under several ones if these make no difference. -/
theorem flatMap_rowText_iff {l : Layout} {xs : List (Value × Layout)}
    (h : ∀ x ∈ xs, l ≠ x.2 → ∀ n, lineOf x.1 = some n →
      fitsSigned n = true ∨ fitsUnsigned n = true) :
    (xs.flatMap fun x => rowText l x.1) = (xs.flatMap fun x => rowText x.2 x.1) ↔
      ∀ x ∈ xs, lineOf x.1 = none ∨ l = x.2 := by
  induction xs with
  | nil => simp
  | cons x xs ih =>
    have ih := ih fun x' hx' => h x' (List.mem_cons_of_mem x hx')
    rw [List.flatMap_cons, List.flatMap_cons, List.forall_mem_cons, ← ih]
    refine ⟨eq_or_none_of_rowText (h x List.mem_cons_self), fun ⟨hx, hxs⟩ => ?_⟩
    rw [rowText_congr hx, hxs]

/-! ## Tables of two lists -/

/-- The lines of some symbols are written as floating-point numbers: one is not reported, and the
others fit into words of one kind. -/
def LinesAsFloats (records : List Value) : Prop :=
  (∃ r ∈ records, lineOf r = none) ∧ FitWords (records.map lineOf)

theorem lineLayout_eq_floats_iff {records : List Value} :
    lineLayout records = .floats ↔ LinesAsFloats records := by
  rw [lineLayout, layout_eq_floats_iff, List.mem_map, LinesAsFloats]

theorem lineLayout_eq_iff {records records' : List Value} :
    lineLayout records = lineLayout records' ↔ (LinesAsFloats records ↔ LinesAsFloats records') := by
  rw [← lineLayout_eq_floats_iff, ← lineLayout_eq_floats_iff]
  cases lineLayout records <;> cases lineLayout records' <;> simp

/-- The table of the records in two lists is the header with the rows of the one table and the rows
of the other. -/
def RowsStand (first second : List Value) : Prop :=
  ∃ rows rows', text first = .ok (header ++ rows) ∧ text second = .ok (header ++ rows') ∧
    text (first ++ second) = .ok (header ++ rows ++ rows')

/-- If rows stand as they are, then the one table is the beginning of the table of both. -/
theorem RowsStand.begins {first second : List Value} (h : RowsStand first second) {t t' : String}
    (hfirst : text first = .ok t) (hboth : text (first ++ second) = .ok t') :
    t.toList <+: t'.toList := by
  obtain ⟨rows, rows', hrows, -, hall⟩ := h
  obtain rfl := Except.ok.inj (hfirst.symm.trans hrows)
  obtain rfl := Except.ok.inj (hboth.symm.trans hall)
  exact ⟨rows'.toList, String.toList_append.symm⟩

/-- The rows of two lists stand as they are if their lines, if there are any, are written alike. -/
theorem body_append_iff {first second : List Value} :
    body (lineLayout (first ++ second)) (first ++ second) =
        body (lineLayout first) first ++ body (lineLayout second) second ↔
      ∀ part ∈ [first, second], (∃ r ∈ part, lineOf r ≠ none) →
        lineLayout (first ++ second) = lineLayout part := by
  generalize hboth : lineLayout (first ++ second) = both
  let rows := first.map (·, lineLayout first) ++ second.map (·, lineLayout second)
  have hmem {x : Value × Layout} (hx : x ∈ rows) : x.1 ∈ first ++ second ∧
      ∃ part, x.1 ∈ part ∧ x.2 = lineLayout part := by
    rcases List.mem_append.1 hx with hx | hx <;> obtain ⟨r, hr, rfl⟩ := List.mem_map.1 hx
    · exact ⟨List.mem_append_left _ hr, first, hr, rfl⟩
    · exact ⟨List.mem_append_right _ hr, second, hr, rfl⟩
  -- one of two different layouts is that of floating-point numbers
  have hfits (x) (hx : x ∈ rows) (hne : both ≠ x.2) (n : Int) (hn : lineOf x.1 = some n) :
      fitsSigned n = true ∨ fitsUnsigned n = true := by
    obtain ⟨hx, part, hpart, hlayout⟩ := hmem hx
    cases both with
    | floats => exact fits_of_lineLayout hboth hx hn
    | each =>
      refine fits_of_lineLayout ?_ hpart hn
      rw [← hlayout]
      cases hfloats : x.2 with
      | floats => rfl
      | each => exact absurd hfloats.symm hne
  have hiff := flatMap_rowText_iff hfits
  simp only [rows, List.flatMap_append, List.flatMap_map, List.forall_mem_append,
    List.forall_mem_map] at hiff
  rw [body, body, body, ← String.ofList_append, String.ofList_inj,
    List.flatMap_append, hiff]
  simp only [List.forall_mem_cons, List.not_mem_nil, false_implies, implies_true, and_true, ne_eq,
    forall_exists_index, and_imp, or_iff_not_imp_left]

/-- A function of which everything is known. -/
def parser : Value :=
  .map [("name", .text "parse"), ("kind", .text "function"), ("path", .text "parse.py"),
    ("line", .int 12), ("refs", .int 2)]

/-- Another one. -/
def printer : Value :=
  .map [("name", .text "print"), ("kind", .text "function"), ("path", .text "print.py"),
    ("line", .int 7), ("dead", .bool true)]

/-- A function of which it is not known where it is in its file. -/
def unplaced : Value :=
  .map [("name", .text "main"), ("kind", .text "function"), ("path", .text "main.py")]

theorem parser_isSymbol : IsSymbol parser :=
  ⟨⟨_, rfl⟩, ⟨_, rfl⟩, ⟨_, rfl⟩, .inr ⟨_, rfl⟩, .inr ⟨_, rfl⟩⟩

theorem printer_isSymbol : IsSymbol printer :=
  ⟨⟨_, rfl⟩, ⟨_, rfl⟩, ⟨_, rfl⟩, .inr ⟨_, rfl⟩, .inl rfl⟩

theorem unplaced_isSymbol : IsSymbol unplaced :=
  ⟨⟨_, rfl⟩, ⟨_, rfl⟩, ⟨_, rfl⟩, .inl rfl, .inl rfl⟩

end SymbolTable

end SymbolSieve

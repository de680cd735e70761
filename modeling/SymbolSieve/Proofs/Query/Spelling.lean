import SymbolSieve.Proofs.Query.WellFormed

/-!
# Labels in any spelling

A label is recognised in the lower case of a word, but the value is what the word has behind as many
characters as the label has.  So the two have to be counted alike, and they are: where a label is
found, its characters are those of the word in lower case, one by one, and the last of them is the
first colon of the word.  The value begins behind that colon, however the label is written, and
nothing in a query depends on which of its spellings a label has.

## What is here

* `exists_eq_append_colon`: a label ends at the first colon of a word.
* `Respelled`: a word and the same word with its label in another spelling.
* `readWord_of_respelled`, `said_readings_respelled`: a word says the same in another spelling, and
  so do words together.
* `label_ends_at_colon`: where a label is found, where it ends, and that its spelling does not
  matter.
-/

set_option autoImplicit false

namespace SymbolSieve.Query

open Text

/-! ## The colon of a label -/

theorem text_eq (l : Label) : l.text = l.text.dropLast ++ [':'] := by cases l <;> rfl

theorem colon_not_mem_dropLast_text (l : Label) : ':' ∉ l.text.dropLast := by cases l <;> decide

/-- **A label ends at the first colon of a word**, so that its value is what stands behind it. -/
theorem exists_eq_append_colon {l : Label} {w : String} (h : l.text <+: (lower w).toList) :
    ∃ name, w.toList = name ++ ':' :: w.toList.drop l.text.length ∧ ':' ∉ name := by
  have hfront := text_prefix_lower_iff.1 h
  rw [text_eq] at hfront
  have hname := List.forall₂_take_append _ _ _ hfront
  obtain ⟨c, rest, hc, hrest, hback⟩ :=
    List.forall₂_cons_right_iff.1 (List.forall₂_drop_append _ _ _ hfront)
  obtain rfl : c = ':' := hc.eq_colon_iff.2 rfl
  obtain rfl : rest = [] := List.forall₂_nil_right_iff.1 hrest
  rw [← text_eq] at hname hback
  have hcolon := fun h => colon_not_mem_dropLast_text l ((colon_mem_iff_of_forall₂ hname).1 h)
  refine ⟨_, ?_, hcolon⟩
  calc w.toList
      = w.toList.take l.text.length ++ w.toList.drop l.text.length :=
        (List.take_append_drop _ _).symm
    _ = (w.toList.take l.text.length).take l.text.dropLast.length ++ [':'] ++
          w.toList.drop l.text.length := by
        rw [← hback, List.take_append_drop l.text.dropLast.length]
    _ = _ := List.append_assoc _ _ _

/-! ## Words in another spelling -/

/-- A word with a label, and the same word with other characters in its place that become the label
in lower case. -/
def Respelled (l : Label) (w w' : String) : Prop :=
  l.text <+: (lower w).toList ∧ ∃ front, lower (String.ofList front) = String.ofList l.text ∧
    w'.toList = front ++ w.toList.drop l.text.length

/-- A word in another spelling carries the same label with the same value. -/
theorem Respelled.carries {l : Label} {w w' : String} (h : Respelled l w w') :
    Carries w' l (w.toList.drop l.text.length) := by
  obtain ⟨-, front, hfront, hw'⟩ := h
  have hone : List.Forall₂ LowersTo front l.text :=
    forall₂_lowersTo_of_lower_eq (fun _ => toNat_lt_of_mem_text) (getLast?_text_ne l) hfront
  have hlength : l.text.length = front.length := hone.length_eq.symm
  refine ⟨text_prefix_lower_iff.2 ?_, ?_⟩
  · rwa [hw', hlength, List.take_left]
  · rw [hw', hlength, List.drop_left]

/-- **The spelling of its label does not matter** for what a word says. -/
theorem readWord_of_respelled {l : Label} {w w' : String} (h : Respelled l w w') :
    readWord w' = readWord w := by
  have hw : Carries w l (w.toList.drop l.text.length) := ⟨h.1, rfl⟩
  rw [readWord_of_carries h.carries, readWord_of_carries hw]

/-! ## Queries in another spelling -/

/-- What words say together: the settings in order, and the words that are searched for. -/
def said (rs : List (String × Reading)) : List Setting × List String :=
  (allSettings rs, freeWords rs)

theorem specOf_congr {rs rs' : List (String × Reading)} (h : said rs = said rs') :
    specOf rs = specOf rs' := by
  obtain ⟨hsettings, hfree⟩ := Prod.mk.inj h
  rw [specOf, specOf, hsettings, hfree]

theorem said_readings_cons (w : String) (ws : List String) :
    (readings (w :: ws)).map said = readWord w >>= fun r => ((readings ws).map said).map fun p =>
      (allSettings [(w, r)] ++ p.1, freeWords [(w, r)] ++ p.2) := by
  simp only [readings, List.mapM_cons]
  cases readWord w with
  | error e => rfl
  | ok r =>
    cases ws.mapM fun w => (readWord w).map (w, ·) with
    | error e => rfl
    | ok rs => exact congrArg Except.ok (Prod.ext (allSettings_cons _ rs) (freeWords_cons _ rs))

/-- Words say the same together if some of them have their labels in another spelling. -/
theorem said_readings_respelled {ws ws' : List String}
    (h : List.Forall₂ (fun w w' => w = w' ∨ ∃ l, Respelled l w w') ws ws') :
    (readings ws').map said = (readings ws).map said := by
  induction h with
  | nil => rfl
  | @cons w w' ws ws' hw _ ih =>
    rw [said_readings_cons, said_readings_cons, ih]
    rcases hw with rfl | ⟨l, hl⟩
    · rfl
    · -- Neither word is searched for, so that it does not matter which of them it is.
      rw [readWord_of_respelled hl, readWord_of_carries ⟨hl.1, rfl⟩]
      cases l.settings (w.toList.drop l.text.length) <;> rfl

/-- **The spelling of labels does not matter** for what a query describes, nor for whether it can be
read. -/
theorem parse_respelled {q q' : String}
    (h : List.Forall₂ (fun w w' => w = w' ∨ ∃ l, Respelled l w w') (words q) (words q')) :
    parse q' = parse q :=
  map_eq_map_of_imp (fun _ _ => specOf_congr) (said_readings_respelled h)

/-- **Labels end at the colon.**  A label is found in the lower case of a word exactly if the first
characters of the word become its characters one by one.  What the label sets is then decided by
what the word has behind its first colon.  A word that has other characters there, which become the
label in lower case as well, says the same, and a query with such words describes the same. -/
theorem label_ends_at_colon :
    (∀ (l : Label) (w : String), l.text <+: (lower w).toList ↔
      List.Forall₂ LowersTo (w.toList.take l.text.length) l.text) ∧
    (∀ (l : Label) (w : String), l.text <+: (lower w).toList →
      ∃ name value, w.toList = name ++ ':' :: value ∧ ':' ∉ name ∧
        w.toList.drop l.text.length = value ∧ readWord w = (l.settings value).map .sets) ∧
    (∀ (l : Label) (w w' : String), Respelled l w w' → readWord w' = readWord w) ∧
    ∀ q q' : String,
      List.Forall₂ (fun w w' => w = w' ∨ ∃ l, Respelled l w w') (words q) (words q') →
        parse q' = parse q := by
  refine ⟨fun l w => text_prefix_lower_iff, fun l w h => ?_, fun l w w' => readWord_of_respelled,
    fun q q' => parse_respelled⟩
  obtain ⟨name, hname, hcolon⟩ := exists_eq_append_colon h
  exact ⟨name, _, hname, hcolon, rfl, readWord_of_carries ⟨h, rfl⟩⟩

theorem label_ends_at_colon_kelvin :
    Label.kind.text <+: (lower "\u212AIND:Class").toList ∧
      (∃ name value, "\u212AIND:Class".toList = name ++ ':' :: value ∧ ':' ∉ name ∧
        readWord "\u212AIND:Class" = (Label.kind.settings value).map .sets) ∧
      Respelled .file "FILE:\u0130\u03A3" "fILe:\u0130\u03A3" ∧
      readWord "fILe:\u0130\u03A3" = readWord "FILE:\u0130\u03A3" ∧
      parse "sym kind:function" = parse "sym \u212AIND:function" := by
  obtain ⟨-, hvalue, hword, hquery⟩ := label_ends_at_colon
  have hkind : Label.kind.text <+: (lower "\u212AIND:Class").toList := by decide
  have hfile : Respelled .file "FILE:\u0130\u03A3" "fILe:\u0130\u03A3" :=
    ⟨by decide, "fILe:".toList, by decide, by decide⟩
  have hfunction : Respelled .kind "\u212AIND:function" "kind:function" :=
    ⟨by decide, "kind:".toList, by decide, by decide⟩
  have hwords : words "sym \u212AIND:function" = ["sym", "\u212AIND:function"] := rfl
  have hwords' : words "sym kind:function" = ["sym", "kind:function"] := rfl
  obtain ⟨name, value, hname, hcolon, -, hread⟩ := hvalue _ _ hkind
  refine ⟨hkind, ⟨name, value, hname, hcolon, hread⟩, hfile, hword _ _ _ hfile, hquery _ _ ?_⟩
  rw [hwords, hwords']
  exact .cons (.inl rfl) (.cons (.inr ⟨_, hfunction⟩) .nil)

end SymbolSieve.Query

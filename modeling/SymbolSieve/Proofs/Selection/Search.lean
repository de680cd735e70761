import SymbolSieve.Proofs.Selection.Independence
import SymbolSieve.Proofs.Text.Sigma

/-!
# Searching for a part of a name or a path

A search looks for a text in lower case in names and paths in lower case.  One would expect that it
finds every text that is a part of a name or a path as it is written.  It does not, because a
capital sigma is put in lower case according to its place in a word, and the place in the text that
is looked for may be another one than in the name: `ΤΑΣ` is not found in `ΤΑΣΗ`.  This can happen
only with texts that have such a sigma at an end.

## What is here

* `Finds`: a search for a text selects a record.
* `finds_part_iff`: the texts that are found wherever they are a part, which are the settled ones.
-/

set_option autoImplicit false

namespace SymbolSieve.Selection

open Text

/-- A search for a text selects a record. -/
def Finds (s : String) (r : Value) : Prop := selects { search := .text s } r = .ok true

variable {s name path : String} {r : Value}

/-- A search looks at nothing but names and paths. -/
theorem selects_search (hname : Record.name r = .text name) (hpath : Record.path r = .text path) :
    selects { search := .text s } r = .ok (occursIn (lower s).toList (lower name).toList ||
      occursIn (lower s).toList (lower path).toList) := by
  rw [← passesSearch_text hname hpath]
  exact selects_only { search := .text s } r .search

theorem finds_iff (hname : Record.name r = .text name) (hpath : Record.path r = .text path) :
    Finds s r ↔ (lower s).toList <:+: (lower name).toList ∨
      (lower s).toList <:+: (lower path).toList := by
  rw [Finds, selects_search hname hpath, Except.ok.injEq, Bool.or_eq_true, occursIn_iff,
    occursIn_iff]

/-- A record with a name and a path. -/
def placed (name path : String) : Value := .map [("name", .text name), ("path", .text path)]

theorem name_placed (name path : String) : Record.name (placed name path) = .text name :=
  Record.orElse_text name

theorem path_placed (name path : String) : Record.path (placed name path) = .text path :=
  Record.orElse_text path

/-- **A text is found in every record whose name or path it is a part of** exactly if no sigma at an
end of it depends on what surrounds it. -/
theorem finds_part_iff (s : String) :
    (∀ (r : Value) (name path : String), Record.name r = .text name → Record.path r = .text path →
      s.toList <:+: name.toList ∨ s.toList <:+: path.toList → Finds s r) ↔
    IsSettled s.toList := by
  have hlower : ∀ t : String, (lower t).toList = lowerFrom false t.toList := fun t =>
    String.toList_ofList
  rw [← infix_lower_iff]
  constructor
  · intro h t ht
    have hfinds := h (placed (String.ofList t) "") (String.ofList t) "" (name_placed _ _)
      (path_placed _ _) (.inl (by rwa [String.toList_ofList]))
    rw [finds_iff (name_placed _ _) (path_placed _ _), hlower, hlower, hlower,
      String.toList_ofList] at hfinds
    rcases hfinds with hname | hpath
    · exact hname
    · rw [List.eq_nil_of_infix_nil hpath]
      exact List.nil_infix
  · intro h r name path hname hpath hpart
    rw [finds_iff hname hpath, hlower, hlower, hlower]
    exact hpart.imp (h _) (h _)

theorem finds_part_iff_capitals :
    IsSettled "ΣΗΜ".toList ∧ "ΣΗΜ".toList <:+: "ΤΑΣΗΜΑ".toList ∧
      Finds "ΣΗΜ" (placed "x" "src/ΤΑΣΗΜΑ.py") := by
  have hsettled : IsSettled "ΣΗΜ".toList := by decide
  have hpart : "ΣΗΜ".toList <:+: "src/ΤΑΣΗΜΑ.py".toList := by decide
  exact ⟨hsettled, by decide, (finds_part_iff "ΣΗΜ").2 hsettled _ _ _ (name_placed _ _)
    (path_placed _ _) (.inr hpart)⟩

/-- A text that is a part of a name and is not found there. -/
theorem not_finds_sigma :
    Record.name (placed "ΤΑΣΗ" "src/a.py") = .text "ΤΑΣΗ" ∧
      Record.path (placed "ΤΑΣΗ" "src/a.py") = .text "src/a.py" ∧
      "ΤΑΣ" ≠ "" ∧ "ΤΑΣ".toList <:+: "ΤΑΣΗ".toList ∧
      selects { search := .text "ΤΑΣ" } (placed "ΤΑΣΗ" "src/a.py") = .ok false := by
  refine ⟨name_placed _ _, path_placed _ _, by decide, by decide, ?_⟩
  rw [selects_search (name_placed _ _) (path_placed _ _)]
  decide

end SymbolSieve.Selection

import SymbolSieve.Proofs.Engine.Mutations
import SymbolSieve.Proofs.Storage.Updates

/-!
# What storing leaves of the document

Engines and the dashboard store the document, each of them one entry of it.  The other entries are
kept whatever fails, unless the document cannot be read and is written all the same: then the
default document has taken its place.  Besides, a document that is stored gets the default filters
that it lacks, so its filters may grow when another entry is written.

## What is here

* `Operation`: a mutation of filters, or a value written at a path.
* `exists_updates`: an operation touches the storage by updates of the document only.
* `operation_keeps_entries`: what an operation keeps, as long as none of its updates overwrites what
  it could not read.
* `entries_not_kept`: without that an entry may be lost, and filters may grow in any case.
-/

set_option autoImplicit false

namespace SymbolSieve.Session

open Document

/-! ## Operations -/

/-- What stores the document: a mutation of the filters of an engine, or a value that is written at
a path. -/
inductive Operation where
  | mutate (m : Mutation)
  | write (h : Handle) (path : String) (value : Value)

namespace Operation

/-- Does an operation. -/
def run : Operation → StateM Session (Except AccessFault Unit)
  | mutate m => do return (← m.run).mapError AccessFault.value
  | write h path value => do return (← onDesk (update h path value).run).map fun _ => ()

/-- The path that an operation writes at. -/
def path : Operation → String
  | mutate _ => "filters"
  | write _ path _ => path

end Operation

/-- Writing a value at a path is one update of the document. -/
theorem storage_write (h : Handle) (path : String) (value : Value) (s : Session) :
    ((Operation.write h path value).run s).2.desk.storage =
      ((update h path value).run s.desk).2.storage := rfl

theorem updates_write (h : Handle) (path : String) (value : Value) (s : Session) :
    Updates path s.desk.storage [s.desk.storage]
      ((Operation.write h path value).run s).2.desk.storage := by
  rw [storage_write]
  exact .step (.refl _)

/-- The desk before and after some updates of the filters. -/
def UpdatesFilters (d d' : Desk) : Prop := ∃ ss, Updates "filters" d.storage ss d'.storage

theorem tolerates_updatesFilters : Tolerates UpdatesFilters where
  refl d := ⟨[], .refl _⟩
  trans := by
    rintro d d' d'' ⟨ss, h⟩ ⟨ss', h'⟩
    exact ⟨ss ++ ss', h.trans h'⟩
  report _ _ _ d := ⟨[], .refl _⟩
  update h value d := ⟨[d.storage], .step (.refl _)⟩

/-- **An operation touches the storage by updates only.** -/
theorem exists_updates (o : Operation) (s : Session) :
    ∃ ss, Updates o.path s.desk.storage ss (o.run s).2.desk.storage := by
  cases o with
  | mutate m => exact tolerates_updatesFilters.moves_mutation m s
  | write h path value => exact ⟨_, updates_write h path value s⟩

/-- **Operations keep the other entries of the document**, whatever they are and whatever fails, as
long as none of the updates that they come down to writes where it could not read. -/
theorem operation_keeps_entries (o : Operation) (s : Session) (es : Entries)
    (hes : HoldsObject (Storage.raw Vocabulary.stateKey s.desk.storage) es) :
    (∃ ss, Updates o.path s.desk.storage ss (o.run s).2.desk.storage) ∧
    ∀ ss, Updates o.path s.desk.storage ss (o.run s).2.desk.storage →
      (∀ x ∈ ss, ¬ Overwrites x) →
      ∃ es', HoldsObject (Storage.raw Vocabulary.stateKey (o.run s).2.desk.storage) es' ∧
        Keeps (keysOf o.path).head? es es' :=
  ⟨exists_updates o s, fun _ hupdates hfaults => hupdates.keeps hfaults hes⟩

/-! ## Entries that are not kept -/

/-- A session on memory that holds a document.  Reads all fail or all succeed, and so do writes. -/
def holdingDocument (doc : Entries) (reads writes : Bool) : Session where
  desk.storage := .memory {
    items := [(key, .text (String.ofList (Json.text (.map doc))))]
    faults := ⟨fun _ => reads, fun _ => writes⟩ }
  handle := some 0

variable {doc : Entries} {reads writes : Bool}

theorem raw_holdingDocument :
    Storage.raw Vocabulary.stateKey (holdingDocument doc reads writes).desk.storage =
      .text (String.ofList (Json.text (.map doc))) := by
  simp [holdingDocument, Storage.raw, key, Assoc.get?, Value.beq_text_iff]

theorem holdsObject_holdingDocument (hsound : Sound doc) :
    HoldsObject (Storage.raw Vocabulary.stateKey (holdingDocument doc reads writes).desk.storage)
      doc := by
  refine ⟨_, raw_holdingDocument, Json.decodeWith_of_decode ?_⟩
  rw [Json.decode_encode (by rw [Json.encode, hsound.2]), Json.reread_of_plain _ hsound.1]

theorem read_text_of_sound (hsound : Sound doc) :
    read (.text (String.ofList (Json.text (.map doc)))) = .ok (Document.restore doc) := by
  have hdecode := Json.decode_encode (v := .map doc) (by rw [Json.encode, hsound.2])
  rw [read_eq_documentOf, Storage.ofRaw, hdecode, Json.reread_of_plain _ hsound.1]
  rfl

/-- What is stored after a text was written at a key of a document that perhaps could not be read.
-/
theorem holdsObject_after_write (hsound : Sound doc) {path k t : String}
    (hpath : keysOf path = [k]) :
    HoldsObject (Storage.raw Vocabulary.stateKey
        ((Operation.write 0 path (.text t)).run (holdingDocument doc reads false)).2.desk.storage)
      (Assoc.put k (.text t) (if reads then Document.default else Document.restore doc)) := by
  have hbase : Sound (if reads then Document.default else Document.restore doc) := by
    cases reads
    · exact sound_restore hsound
    · exact sound_default
  have hput : putAt (.text t) (keysOf path)
      (if reads then Document.default else Document.restore doc) =
      Assoc.put k (.text t) (if reads then Document.default else Document.restore doc) := by
    rw [hpath]
    rfl
  have hload : (if (holdingDocument doc reads false).desk.storage.failsRead then
      .ok Document.default else read (.text (String.ofList (Json.text (.map doc))))) =
      (.ok (if reads then Document.default else Document.restore doc) :
        Except ValueFault Entries) := by
    rw [read_text_of_sound hsound]
    cases reads <;> rfl
  have hwrite : (holdingDocument doc reads false).desk.storage.failsWrite = false := rfl
  rw [storage_write, ← hput]
  refine holdsObject_after_update raw_holdingDocument hload hwrite ?_
  rw [hput]
  exact hbase.put k (faithful_text _ t)

/-- A document in which a tab is noted. -/
def withTab : Entries := [("tab", .text "cycles")]

/-- A document with a single filter. -/
def withKind : Entries := [("filters", .map [("kind", .text "enum")])]

theorem sound_withTab : Sound withTab := by
  refine sound_iff.2 ⟨by decide, fun e he => ?_⟩
  obtain rfl := List.mem_singleton.1 he
  exact faithful_text _ _

theorem sound_withKind : Sound withKind := by
  refine sound_iff.2 ⟨by decide, fun e he => ?_⟩
  obtain rfl := List.mem_singleton.1 he
  refine faithful_map_iff.2 ⟨by decide, fun e he => ?_⟩
  obtain rfl := List.mem_singleton.1 he
  exact faithful_text _ _

theorem keysOf_sortState : keysOf "sortState" = ["sortState"] := by decide

/-- If reads and writes fail together, a tab is kept when something else is written. -/
theorem operation_keeps_entries_both_fail :
    ∃ es', HoldsObject (Storage.raw Vocabulary.stateKey
        ((Operation.write 0 "sortState" (.text "name")).run
          (holdingDocument withTab true true)).2.desk.storage) es' ∧
      Keeps (keysOf "sortState").head? withTab es' := by
  have hkept := (operation_keeps_entries (.write 0 "sortState" (.text "name"))
    (holdingDocument withTab true true) withTab (holdsObject_holdingDocument sound_withTab)).2
  refine hkept _ (updates_write 0 "sortState" (.text "name") (holdingDocument withTab true true))
    fun x hx hfaults => ?_
  obtain rfl := List.mem_singleton.1 hx
  exact Bool.noConfusion hfaults.2

/-- **Entries that are not kept.**  If only the read fails, a tab is lost when something else is
written.  If nothing fails, a single filter does not stay the only one. -/
theorem entries_not_kept :
    (HoldsObject (Storage.raw Vocabulary.stateKey
        (holdingDocument withTab true false).desk.storage) withTab ∧
      ∃ es', HoldsObject (Storage.raw Vocabulary.stateKey
          ((Operation.write 0 "sortState" (.text "name")).run
            (holdingDocument withTab true false)).2.desk.storage) es' ∧
        Assoc.get? "tab" es' = none) ∧
    HoldsObject (Storage.raw Vocabulary.stateKey
        (holdingDocument withKind false false).desk.storage) withKind ∧
      ∃ es', HoldsObject (Storage.raw Vocabulary.stateKey
          ((Operation.write 0 "sortState" (.text "name")).run
            (holdingDocument withKind false false)).2.desk.storage) es' ∧
        Assoc.get? "filters" es' ≠ some (.map [("kind", .text "enum")]) := by
  refine ⟨⟨holdsObject_holdingDocument sound_withTab, _,
    holdsObject_after_write sound_withTab keysOf_sortState, rfl⟩,
    holdsObject_holdingDocument sound_withKind, _,
    holdsObject_after_write sound_withKind keysOf_sortState, ?_⟩
  have hgrown : Assoc.get? "filters"
      (Assoc.put "sortState" (.text "name") (Document.restore withKind)) =
      some (.map [("search", .text ""), ("kind", .text "enum"), ("state", .text "all"),
        ("file", .text "")]) := rfl
  intro heq
  have hsame := hgrown.symm.trans heq
  simp at hsame

end SymbolSieve.Session

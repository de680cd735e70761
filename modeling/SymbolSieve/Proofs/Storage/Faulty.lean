import SymbolSieve.Proofs.Storage.Healthy

/-!
# Storage that may fail

A read or a write that fails changes nothing that is stored.  Memory fails by its plan; a database
that holds something fails only as a whole, when its directory cannot be made.

## What is here

* `failsRead`, `failsWrite`: whether the next read or write fails.
* `getJson_faulty`, `setItem_faulty`: what an access gives and what it leaves, whether it fails or
  not.
-/

set_option autoImplicit false

namespace SymbolSieve.Storage

/-- Whether the next read fails, of storage that holds something. -/
def failsRead : Storage → Bool
  | .memory m => m.faults.reads 0
  | .database d => d.barrier.isSome

/-- Whether the next write fails, of storage that holds something. -/
def failsWrite : Storage → Bool
  | .memory m => m.faults.writes 0
  | .database d => d.barrier.isSome

variable {h : Handle} {key t : String}

/-- A database that holds something can be used, unless its directory cannot be made. -/
theorem usable_of_raw {d : Database} (hbarrier : d.barrier = none)
    (hraw : raw key (.database d) = .text t) : UsableDatabase h d := by
  refine ⟨hbarrier, ?_⟩
  cases hfile : d.file with
  | table rows => trivial
  | _ => simp [raw, hfile] at hraw

theorem onTable_of_barrier {α : Type} {d : Database} {b : Barrier} (hbarrier : d.barrier = some b)
    (access : Access) (key : Value) (action : Assoc String String → Except TableFault (α × _)) :
    onTable h access key action d = (.error (.storage (.noDirectory d.path b)), .database d) := by
  simp [onTable, connect, hbarrier]

/-- **A read** fails or gives what is stored, and changes nothing that is stored. -/
theorem getJson_faulty {s : Storage} (hraw : raw key s = .text t) :
    ∃ e s', getJson h (.text key) s =
        (if s.failsRead then .error (.storage e) else ofRaw (.text key) (.text t), s') ∧
      raw key s' = .text t ∧ s'.failsWrite = s.failsWrite := by
  cases s with
  | memory m =>
    refine ⟨.unavailable, .memory (Memory.afterRead m), ?_, hraw, rfl⟩
    rw [← hraw]
    cases hreads : m.faults.reads 0 <;>
      simp [getJson, getItem, failsRead, underKey, Value.isKey, raw, hreads]
  | database d =>
    cases hbarrier : d.barrier with
    | some b =>
      refine ⟨.noDirectory d.path b, .database d, ?_, hraw, rfl⟩
      simp [getJson, getItem, onTable_of_barrier hbarrier, failsRead, hbarrier]
    | none =>
      obtain ⟨d', hread, hd', hrows⟩ := onTable_usable (usable_of_raw (h := h) hbarrier hraw) .read
        (.text key) (findRow (.text key)) rfl
      rw [raw_database] at hraw
      refine ⟨.unavailable, .database d', ?_, by rw [raw_database, hrows, hraw], ?_⟩
      · rw [getJson, getItem, hread, ← hraw]
        simp [failsRead, hbarrier]
      · simp [failsWrite, hbarrier, hd'.1]

/-- **A write** fails and changes nothing that is stored, or puts a text under the key. -/
theorem setItem_faulty {s : Storage} (hraw : raw key s = .text t) (t' : String) :
    ∃ e s', setItem h (.text key) (.text t') s =
        (if s.failsWrite then .error (.storage e) else .ok (), s') ∧
      raw key s' = .text (if s.failsWrite then t else t') := by
  cases s with
  | memory m =>
    cases hwrites : m.faults.writes 0 with
    | true =>
      refine ⟨.unavailable, .memory (Memory.afterWrite m), ?_, ?_⟩
      · simp [setItem, failsWrite, hwrites]
      · simpa [failsWrite, hwrites, raw, Memory.afterWrite] using hraw
    | false =>
      refine ⟨.unavailable, .memory { Memory.afterWrite m with
        items := Assoc.put (.text key) (.text t') m.items }, ?_, ?_⟩
      · simp [setItem, failsWrite, underKey, Value.isKey, hwrites]
      · simp [failsWrite, hwrites, raw, Assoc.get?_put_text]
  | database d =>
    cases hbarrier : d.barrier with
    | some b =>
      refine ⟨.noDirectory d.path b, .database d, ?_, by simpa [failsWrite, hbarrier] using hraw⟩
      simp [setItem, onTable_of_barrier hbarrier, failsWrite, hbarrier]
    | none =>
      obtain ⟨d', hwrite, -, hrows⟩ := onTable_usable (usable_of_raw (h := h) hbarrier hraw) .write
        (.text key) (putRow (.text key) (.text t')) rfl
      refine ⟨.unavailable, .database d', ?_, ?_⟩
      · rw [setItem, hwrite]
        simp [failsWrite, hbarrier]
      · rw [raw_database, hrows, Assoc.get?_put_self]
        simp [failsWrite, hbarrier]

end SymbolSieve.Storage

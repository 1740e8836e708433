import CodeAtlas.Proofs.Index.WellFormed
import CodeAtlas.Proofs.Ordered.Sorting

/-!
# The diagnostics of a file

Every unit that compiles a file reports its own diagnostics of it, so most of them come more than
once. They are sorted by range, message and code, and neighbours that are equal are listed once.
Diagnostics also have a severity and a source, which the order does not look at: two that differ
only there may stand between each other, and then both are listed as often as they come.

## Architecture

- **Layer A**: the order of diagnostics;
- **Layer B**: what the indexed units report, and the list as a function of it;
- **Layer C**: the main result, and a file whose diagnostics are listed twice.
-/

namespace CodeAtlas

/-! ## Layer A: the order -/

namespace Diagnostic

/-- **The order in which diagnostics are listed**: by range, then message, then code. -/
def compareListed : Diagnostic → Diagnostic → Ordering :=
  compareLex (compareOn range) (compareLex (compareOn message) (compareOn code))

instance : Std.TransCmp compareListed :=
  inferInstanceAs (Std.TransCmp (compareLex (compareOn range)
    (compareLex (compareOn message) (compareOn code))))

/-- What the order does not tell apart. -/
theorem compareListed_eq_iff {d e : Diagnostic} :
    d.compareListed e = .eq ↔ d.range = e.range ∧ d.message = e.message ∧ d.code = e.code := by
  simp [compareListed, compareLex_eq_eq, compareOn]

end Diagnostic

/-! ## Layer B: reports -/

/-- **The diagnostics that a snapshot reports**, under the normalized paths of their files. -/
def Snapshot.reported (s : Snapshot) : List Diagnostic :=
  s.diagnostics.map fun d => { d with file := (s.directory.join d.file).normalize }

/-- The records of a unit have the diagnostics that its snapshot reports. -/
theorem Index.Reflects.diagnostics_eq {x : Index} {u : UnitId} {r : UnitRecords} {s : Snapshot}
    (h : x.Reflects u r s) : r.diagnostics = s.reported := by
  obtain ⟨-, l, hl, rfl⟩ := h
  obtain ⟨-, -, -, -, -, -, -, -, -, rfl⟩ := Snapshot.lowered_eq_ok_iff.1 hl
  show (s.diagnostics.map fun d => { d with file := (s.scope x.names.space u).resolve d.file }) =
    s.reported
  simp [Snapshot.reported, LoweringScope.resolve_eq, Snapshot.scope]

namespace Ledger

variable {t : Ledger}

/-- All reports about a file, one unit after the other. -/
def reports (t : Ledger) (file : Path) : List Diagnostic :=
  t.last.values.flatMap fun s => s.reported.filter fun d => d.file == file.normalize

/-- **Only reports about the file are listed**, in order and without equal neighbours. -/
theorem Sound.diagnostics_eq (h : t.Sound) (file : Path) :
    t.index.view.diagnostics file =
      dropRepeats (· == ·) (sortUnder Diagnostic.compareListed (t.reports file)) := by
  have hreports := h.records.map_values_eq
    (fun r => r.diagnostics.filter fun d => d.file == file.normalize)
    (fun s => s.reported.filter fun d => d.file == file.normalize)
    (fun u r s hreflects => by rw [hreflects.diagnostics_eq])
  have hfound : t.index.view.records.flatMap
      (fun r => r.diagnostics.filter fun d => d.file == file.normalize) = t.reports file := by
    rw [reports, List.flatMap_def, List.flatMap_def]
    exact congrArg List.flatten hreports
  show dropRepeats (· == ·) (sortUnder Diagnostic.compareListed (t.index.view.records.flatMap
    fun r => r.diagnostics.filter fun d => d.file == file.normalize)) = _
  rw [hfound]

/-- What is reported about a file comes from the last accepted snapshot of an indexed unit. -/
theorem Sound.mem_reports_iff (h : t.Sound) {file : Path} {d : Diagnostic} :
    d ∈ t.reports file ↔ ∃ u ∈ t.index.view.indexedUnits, ∃ s, t.last.get? u = some s ∧
      d ∈ s.reported ∧ d.file = file.normalize := by
  -- the indexed units are those with a last accepted snapshot
  have hkeys : t.index.view.indexedUnits = t.last.keys := h.records.keys_eq
  have hordered : t.last.Ordered := h.records.ordered h.ordered
  simp only [reports, List.mem_flatMap, List.mem_filter, beq_iff_eq, Table.values, List.mem_map]
  constructor
  · intro hd
    obtain ⟨s, ⟨⟨u, _⟩, hentry, rfl⟩, hreported, hfile⟩ := hd
    refine ⟨u, ?_, _, (hordered.get?_eq_some_iff u _).2 hentry, hreported, hfile⟩
    rw [hkeys]
    exact List.mem_map_of_mem hentry
  · intro hd
    obtain ⟨u, -, s, hs, hreported, hfile⟩ := hd
    have hentry : (u, s) ∈ t.last.entries := (hordered.get?_eq_some_iff u s).1 hs
    exact ⟨s, ⟨(u, s), hentry, rfl⟩, hreported, hfile⟩

/-! ## Layer C: the main result -/

/-- **The diagnostics of a file are in order and complete, and no two neighbours are equal.** They
are free of repeats exactly if no report stands, among the reports of all units one after the
other, both before and behind a different one of the same range, message and code. -/
theorem diagnostics_are_sorted_reports (history : List IndexUpdate) (file : Path) :
    let t := Ledger.after history
    let ds := t.index.view.diagnostics file
    (ds.Pairwise fun d e => (d.compareListed e).isLE) ∧
    (∀ d, d ∈ ds ↔ ∃ u ∈ t.index.view.indexedUnits, ∃ s, t.last.get? u = some s ∧
      d ∈ s.reported ∧ d.file = file.normalize) ∧
    ds.IsChain (· ≠ ·) ∧
    (ds.Nodup ↔ ∀ d e, d ≠ e → d.range = e.range → d.message = e.message → d.code = e.code →
      ¬ [d, e, d].Sublist (t.reports file)) := by
  intro t ds
  have hsound : t.Sound := sound_after history
  have hds : ds = dropRepeats (· == ·) (sortUnder Diagnostic.compareListed (t.reports file)) :=
    hsound.diagnostics_eq file
  rw [hds]
  refine ⟨?sorted, ?complete, isChain_dropRepeats _, ?distinct⟩
  case sorted => exact (pairwise_sortUnder _).sublist (dropRepeats_sublist _)
  case complete =>
    intro d
    rw [mem_dropRepeats, mem_sortUnder]
    exact hsound.mem_reports_iff
  case distinct =>
    rw [nodup_dropRepeats_sortUnder_iff]
    simp only [Diagnostic.compareListed_eq_iff, and_imp]

/-- An error without a code. -/
def unusedError : Diagnostic := .error ⟨"/w/app/src/lib.rs"⟩ ⟨⟨0, 3⟩, ⟨0, 7⟩⟩ "unused"

/-- The same message as a warning. -/
def unusedWarning : Diagnostic := { unusedError with severity := .warning }

/-- A snapshot that reports the error and the warning. -/
def unusedTwice : Snapshot := { Snapshot.empty with diagnostics := [unusedError, unusedWarning] }

/-- **Repeats that are no neighbours are listed.** A library and its tests report the same error and
the same warning; sorting leaves the warning of one unit between the errors of both. -/
theorem unusedTwice_is_listed_twice :
    ¬ ∀ (history : List IndexUpdate) (file : Path),
      ((Ledger.after history).index.view.diagnostics file).Nodup := by
  intro h
  let history : List IndexUpdate :=
    [.merge (.lib "app") unusedTwice, .merge (UnitId.lib "app").testVariant unusedTwice]
  have hnodup := h history unusedError.file
  rw [(sound_after history).diagnostics_eq, nodup_dropRepeats_sortUnder_iff] at hnodup
  apply hnodup unusedError unusedWarning (by decide) (by decide)
  show [unusedError, unusedWarning, unusedError].Sublist ((after history).reports unusedError.file)
  decide +kernel

end Ledger

end CodeAtlas

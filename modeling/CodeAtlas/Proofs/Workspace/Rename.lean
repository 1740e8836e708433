import CodeAtlas.Proofs.Index.Agreement
import CodeAtlas.Proofs.Index.WellFormed
import CodeAtlas.Proofs.Ordered.Sorting
import CodeAtlas.Workspace.Query

/-!
# The edits of a renaming

A renaming replaces the name of a definition and all references to it. The replacements are gathered
by file, sorted, and listed once each; so those of a file increase strictly, and together they
replace exactly the places that the index knows. Whether they can be applied together is up to these
places: an analysis may report references inside of each other, and nothing takes them apart.

## Architecture

- **Layer A**: ranges that overlap;
- **Layer B**: the places that an index knows do not end before they begin;
- **Layer C**: edits gathered by file;
- **Layer D**: the edits of a renaming, and the main result;
- **Layer E**: a function whose references overlap.
-/

namespace CodeAtlas

/-! ## Layer A: ranges -/

namespace Range

/-- A range that does not end before it begins. -/
def Forward (r : Range) : Prop := (compare r.start r.stop).isLE

/-- **Different ranges overlap** if each begins before the other one ends. -/
structure Overlaps (r r' : Range) : Prop where
  ne : r ≠ r'
  start_lt : compare r.start r'.stop = .lt
  start_lt' : compare r'.start r.stop = .lt

instance (r r' : Range) : Decidable (r.Overlaps r') :=
  decidable_of_iff (r ≠ r' ∧ compare r.start r'.stop = .lt ∧ compare r'.start r.stop = .lt)
    ⟨fun h => ⟨h.1, h.2.1, h.2.2⟩, fun h => ⟨h.ne, h.start_lt, h.start_lt'⟩⟩

/-- The order of ranges looks at their beginnings first. -/
theorem lt_cases {r r' : Range} (h : compare r r' = .lt) :
    compare r.start r'.start = .lt ∨
      compare r.start r'.start = .eq ∧ compare r.stop r'.stop = .lt := by
  have hthen : (compare r.start r'.start).then (compare r.stop r'.stop) = .lt := h
  cases hstart : compare r.start r'.start with
  | lt => exact Or.inl rfl
  | eq => simpa [hstart] using hthen
  | gt => simp [hstart] at hthen

/-- **Of two ranges that do not overlap, the smaller one ends where the other one begins**, or
before that. -/
theorem stop_le_start {r r' : Range} (hr : r.Forward) (hr' : r'.Forward)
    (hlt : compare r r' = .lt) (h : ¬ r.Overlaps r') : (compare r.stop r'.start).isLE := by
  by_contra hover
  have hstart' : compare r'.start r.stop = .lt := Std.OrientedCmp.lt_of_not_isLE hover
  have hne : r ≠ r' := by
    intro heq
    simp [heq, Std.ReflCmp.compare_self] at hlt
  apply h
  refine ⟨hne, ?_, hstart'⟩
  -- The first one begins before the second one does, or it is shorter.
  cases lt_cases hlt with
  | inl hstart => exact Std.TransCmp.lt_of_lt_of_isLE hstart hr'
  | inr hsame => exact Std.TransCmp.lt_of_isLE_of_lt hr hsame.2

/-- A range that ends before another one begins does not overlap it. -/
theorem Overlaps.not_stop_le_start {r r' : Range} (h : r.Overlaps r') :
    ¬ (compare r.stop r'.start).isLE :=
  Std.OrientedCmp.not_isLE_of_lt h.start_lt'

theorem Overlaps.symm {r r' : Range} (h : r.Overlaps r') : r'.Overlaps r :=
  ⟨h.ne.symm, h.start_lt', h.start_lt⟩

end Range

/-! ## Layer B: the places of an index -/

/-- **A span as an index has it**: its file is normalized, and its range is not reversed. -/
structure Span.Proper (s : Span) : Prop where
  normal : s.file.normalize = s.file
  forward : s.range.Forward

/-- The image of a place is proper. -/
theorem RawSpan.Image.proper {folder : Path} {p : RawSpan} {s : Span} (h : p.Image folder s) :
    s.Proper where
  normal := by rw [h.file, Path.normalize_normalize]
  forward := h.rangeForward

namespace Ledger

variable {t : Ledger}

/-- References are proper. -/
theorem Sound.proper_of_mem_referencesTo (h : t.Sound) {id : GlobalId} {s : Span}
    (hs : s ∈ t.index.view.referencesTo id) : s.Proper := by
  obtain ⟨i, ⟨u, snapshot, -, place, target, -, -, hplace⟩, -⟩ := h.mem_referencesTo_iff.1 hs
  exact (LoweringScope.span_eq_ok_iff.1 hplace).proper

/-- The place of a definition is proper. -/
theorem Sound.proper_of_definition (h : t.Sound) {id : GlobalId} {d : Definition}
    (hd : t.index.view.definition id = some d) : d.span.Proper := by
  unfold View.definition at hd
  split at hd
  case isTrue => cases hd
  case isFalse =>
    -- From the definition to the record it was made of, and on to the snapshot of its unit.
    obtain ⟨⟨r, record⟩, hrecord, rfl⟩ := Option.map_eq_some_iff.1 hd
    obtain ⟨hr, hmem⟩ := View.record?_spec hrecord
    obtain ⟨u, s, l, -, -, hl, rfl⟩ := h.exists_snapshot hr
    obtain ⟨ld, hld, rfl⟩ := Index.mem_of_mem_firstRecords hmem
    have hdef : ld ∈ l.defs := by
      obtain ⟨ld', hld', heq⟩ := List.mem_map.1 hld
      obtain ⟨rfl, -⟩ := Prod.mk.inj heq
      exact hld'
    obtain ⟨d, -, hlowered⟩ := Snapshot.exists_keeps_of_mem hl hdef
    exact hlowered.place.proper

end Ledger

namespace Workspace

variable {τ : Type}

/-! ## Layer C: gathering -/

instance : Std.TransOrd TextEdit :=
  inferInstanceAs (Std.TransCmp (compareLex (compareOn TextEdit.range) (compareOn TextEdit.text)))

/-- The edits that put a name in the place of those spans that lie in a file. -/
def editsIn (name : String) (spans : List Span) (f : Path) : List TextEdit :=
  (spans.filter fun s => s.file == f).map fun s => ⟨s.range, name⟩

theorem mem_editsIn {name : String} {spans : List Span} {f : Path} {e : TextEdit} :
    e ∈ editsIn name spans f ↔ ∃ s ∈ spans, s.file = f ∧ e = ⟨s.range, name⟩ := by
  simp only [editsIn, List.mem_map, List.mem_filter, beq_iff_eq, and_assoc, eq_comm (a := e)]

/-- **A table that has the edits of every file**, and no file without edits. -/
structure Gathered (name : String) (spans : List Span) (t : Table Path (List TextEdit)) :
    Prop where
  ordered : t.Ordered
  normal : ∀ f ∈ t.keys, f.normalize = f
  ne_nil : ∀ f es, t.get? f = some es → es ≠ []
  edits : ∀ f, f.normalize = f → t.getD f [] = editsIn name spans f

variable {name : String} {spans : List Span} {t : Table Path (List TextEdit)}

/-- **One span at a time**: its edit comes behind those of its file, and no other file notices. -/
theorem Gathered.addEdit (h : Gathered name spans t) {s : Span} (hs : s.file.normalize = s.file) :
    Gathered name (spans ++ [s]) (addEdit name t s) where
  ordered := h.ordered.insert _ _
  normal := by
    intro f hf
    cases Table.mem_keys_of_mem_keys_insert hf with
    | inl heq => rw [heq, hs]
    | inr hold => exact h.normal f hold
  ne_nil := by
    intro f es hes
    rw [Workspace.addEdit, Table.get?_insert] at hes
    split at hes
    case isTrue =>
      obtain rfl := Option.some.inj hes
      simp
    case isFalse => exact h.ne_nil f es hes
  edits := by
    intro f hf
    rw [Table.getD, Workspace.addEdit, Table.get?_insert]
    by_cases heq : s.file = f
    · obtain rfl := heq
      simp [editsIn, h.edits _ hs, Std.ReflCmp.compare_self]
    · -- Normalized paths that compare equal are equal.
      have hne : compare f s.file ≠ .eq := by
        intro hcompare
        exact heq (Path.eq_of_compare hf hs hcompare).symm
      rw [if_neg (by simpa using hne)]
      have hedits := h.edits f hf
      rw [Table.getD] at hedits
      simpa [editsIn, heq] using hedits

/-- **All edits are gathered.** -/
theorem gathered_foldl (hspans : ∀ s ∈ spans, s.file.normalize = s.file) :
    Gathered name spans (spans.foldl (Workspace.addEdit name) .empty) := by
  induction spans using List.reverseRecOn with
  | nil =>
    refine ⟨Table.ordered_empty, ?_, ?_, ?_⟩
    · simp [Table.keys, Table.empty]
    · simp
    · intro f _
      rfl
  | append_singleton spans s ih =>
    rw [List.foldl_append]
    apply Gathered.addEdit
    · apply ih
      intro s' hs'
      exact hspans s' (List.mem_append_left _ hs')
    · exact hspans s (by simp)

/-- The entries of a gathered table. -/
theorem Gathered.mem_entries_iff (h : Gathered name spans t) {f : Path} {es : List TextEdit} :
    (f, es) ∈ t.entries ↔ f.normalize = f ∧ es ≠ [] ∧ es = editsIn name spans f := by
  constructor
  · intro hmem
    have hnormal : f.normalize = f := h.normal f (List.mem_map_of_mem hmem)
    have hget : t.get? f = some es := h.ordered.get?_of_mem hmem
    refine ⟨hnormal, h.ne_nil f es hget, ?_⟩
    rw [← h.edits f hnormal, Table.getD, hget, Option.getD_some]
  · intro hes
    obtain ⟨hnormal, hne, rfl⟩ := hes
    have hedits := h.edits f hnormal
    cases hget : t.get? f with
    | none =>
      rw [Table.getD, hget, Option.getD_none] at hedits
      exact absurd hedits.symm hne
    | some es =>
      rw [Table.getD, hget, Option.getD_some] at hedits
      -- keys are canonical, so the one that compares equal is the file itself
      obtain ⟨g, hcompare, hmem⟩ := Table.exists_mem_of_get? hget
      obtain rfl : f = g :=
        Path.eq_of_compare hnormal (h.normal g (List.mem_map_of_mem hmem)) hcompare
      rwa [← hedits]

/-! ## Layer D: renaming -/

/-- The edits of all files, sorted and listed once each. -/
def renameEdits (name : String) (spans : List Span) : Table Path (List TextEdit) :=
  (spans.foldl (addEdit name) .empty).mapValues fun _ es => dropRepeats (· == ·) (sortBy id es)

/-- **What is renamed**: what stands at the position and is not refused. -/
theorem rename_eq_ok_iff {w : Workspace τ} {file : Path} {at_ : Position}
    {edits : Table Path (List TextEdit)} :
    w.rename file at_ name = .ok edits ↔ ∃ id d, w.idAt file at_ = .ok id ∧
      w.view.definition id = some d ∧ w.refusal? d name = none ∧
      edits = renameEdits name (d.span :: w.view.referencesTo id) := by
  unfold rename
  simp only [bind_eq_ok_iff]
  constructor
  · intro h
    obtain ⟨id, hid, d, hd, h⟩ := h
    cases hdefinition : w.view.definition id with
    | none => simp [hdefinition, orNotFound] at hd
    | some d' =>
      obtain rfl : d' = d := by simpa [hdefinition, orNotFound] using hd
      -- nothing is edited before the name is accepted
      cases hrefusal : w.refusal? d' name with
      | none =>
        rw [hrefusal] at h
        exact ⟨id, d', hid, hdefinition, hrefusal, (Except.ok.inj h).symm⟩
      | some reason =>
        rw [hrefusal] at h
        cases h
  · intro h
    obtain ⟨id, d, hid, hd, hrefusal, rfl⟩ := h
    refine ⟨id, hid, d, by rw [hd]; rfl, ?_⟩
    rw [hrefusal]
    rfl

/-- The entries of a renaming: the edits of each file that has any, sorted and without repeats. -/
theorem mem_renameEdits_iff (hspans : ∀ s ∈ spans, s.Proper) {f : Path} {es : List TextEdit} :
    (f, es) ∈ (renameEdits name spans).entries ↔ f.normalize = f ∧ editsIn name spans f ≠ [] ∧
      es = dropRepeats (· == ·) (sortBy id (editsIn name spans f)) := by
  have hgathered : Gathered name spans (spans.foldl (addEdit name) .empty) :=
    gathered_foldl fun s hs => (hspans s hs).normal
  simp only [renameEdits, Table.mapValues, List.mem_map, Prod.exists, Prod.mk.injEq]
  constructor
  · intro h
    obtain ⟨g, es', hmem, rfl, rfl⟩ := h
    obtain ⟨hnormal, hne, rfl⟩ := hgathered.mem_entries_iff.1 hmem
    exact ⟨hnormal, hne, rfl⟩
  · intro h
    obtain ⟨hnormal, hne, rfl⟩ := h
    exact ⟨f, _, hgathered.mem_entries_iff.2 ⟨hnormal, hne, rfl⟩, rfl, rfl⟩

/-- The edits of a file are those of its spans. -/
theorem mem_edits_iff (hspans : ∀ s ∈ spans, s.Proper) {f : Path} {es : List TextEdit}
    (hes : (f, es) ∈ (renameEdits name spans).entries) (e : TextEdit) :
    e ∈ es ↔ ∃ s ∈ spans, s.file = f ∧ e = ⟨s.range, name⟩ := by
  obtain ⟨-, -, rfl⟩ := (mem_renameEdits_iff hspans).1 hes
  rw [mem_dropRepeats, sortBy_eq, mem_sortUnder, mem_editsIn]

/-- **Every span is replaced**, and nothing else. -/
theorem exists_edits_iff (hspans : ∀ s ∈ spans, s.Proper) (f : Path) (e : TextEdit) :
    (∃ es, (f, es) ∈ (renameEdits name spans).entries ∧ e ∈ es) ↔
      ∃ s ∈ spans, s.file = f ∧ e = ⟨s.range, name⟩ := by
  constructor
  · intro h
    obtain ⟨es, hes, he⟩ := h
    exact (mem_edits_iff hspans hes e).1 he
  · intro h
    obtain ⟨s, hs, rfl, rfl⟩ := h
    have hmem : ⟨s.range, name⟩ ∈ editsIn name spans s.file := mem_editsIn.2 ⟨s, hs, rfl, rfl⟩
    have hentry : (s.file, dropRepeats (· == ·) (sortBy id (editsIn name spans s.file))) ∈
        (renameEdits name spans).entries :=
      (mem_renameEdits_iff hspans).2 ⟨(hspans s hs).normal, List.ne_nil_of_mem hmem, rfl⟩
    exact ⟨_, hentry, (mem_edits_iff hspans hentry _).2 ⟨s, hs, rfl, rfl⟩⟩

/-- **The edits of a file increase strictly.** -/
theorem pairwise_edits (hspans : ∀ s ∈ spans, s.Proper) {f : Path} {es : List TextEdit}
    (hes : (f, es) ∈ (renameEdits name spans).entries) :
    es.Pairwise fun a b => compare a.range b.range = .lt := by
  have htext : ∀ e ∈ es, e.text = name := by
    intro e he
    obtain ⟨-, -, -, rfl⟩ := (mem_edits_iff hspans hes e).1 he
    rfl
  obtain ⟨-, -, rfl⟩ := (mem_renameEdits_iff hspans).1 hes
  have hsorted : (dropRepeats (· == ·) (sortBy id (editsIn name spans f))).Pairwise
      fun a b => compare a b = .lt := by
    rw [sortBy_eq]
    apply pairwise_lt_dropRepeats_sortUnder
    intro a b hab
    obtain ⟨hrange, htext⟩ := compareLex_eq_eq.1 hab
    cases a
    cases b
    exact congrArg₂ _ (Std.LawfulEqOrd.eq_of_compare hrange) (Std.LawfulEqOrd.eq_of_compare htext)
  apply hsorted.imp_of_mem
  intro a b ha hb hab
  -- All edits put in the same text, so only the ranges are left to compare.
  have hthen : (compare a.range b.range).then (compare a.text b.text) = .lt := hab
  have hself : compare a.text b.text = .eq := by
    rw [htext a ha, htext b hb]
    exact Std.ReflCmp.compare_self
  cases hrange : compare a.range b.range with
  | lt => rfl
  | eq => simp [hrange, hself] at hthen
  | gt => simp [hrange] at hthen

/-- **The edits of a file are disjoint** exactly if its spans do not overlap. -/
theorem pairwise_disjoint_iff (hspans : ∀ s ∈ spans, s.Proper) {f : Path} {es : List TextEdit}
    (hes : (f, es) ∈ (renameEdits name spans).entries) :
    (es.Pairwise fun a b => (compare a.range.stop b.range.start).isLE) ↔
      ∀ s ∈ spans, ∀ s' ∈ spans, s.file = f → s'.file = f → ¬ s.range.Overlaps s'.range := by
  have hmem := mem_edits_iff hspans hes
  constructor
  · intro hdisjoint s hs s' hs' hf hf' hover
    have happart : es.Pairwise fun a b => ¬ a.range.Overlaps b.range := by
      apply hdisjoint.imp
      intro a b hab hover
      exact hover.not_stop_le_start hab
    -- spans that overlap differ, so their edits are two elements of the list, which keep apart
    have hsymm : Std.Symm fun a b : TextEdit => ¬ a.range.Overlaps b.range :=
      ⟨fun a b hab hba => hab hba.symm⟩
    have he : (⟨s.range, name⟩ : TextEdit) ∈ es := (hmem _).2 ⟨s, hs, hf, rfl⟩
    have he' : (⟨s'.range, name⟩ : TextEdit) ∈ es := (hmem _).2 ⟨s', hs', hf', rfl⟩
    apply happart.forall he he' _ hover
    intro heq
    exact hover.ne (TextEdit.mk.inj heq).1
  · intro hno
    -- the edits come in order, and one that is in front and does not overlap stops before
    apply (pairwise_edits hspans hes).imp_of_mem
    intro a b ha hb hab
    obtain ⟨s, hs, hf, rfl⟩ := (hmem a).1 ha
    obtain ⟨s', hs', hf', rfl⟩ := (hmem b).1 hb
    exact Range.stop_le_start (hspans s hs).forward (hspans s' hs').forward hab
      (hno s hs s' hs' hf hf')

/-- The places that a renaming replaces are proper. -/
theorem proper_of_renamed (history : List IndexUpdate) {w : Workspace τ}
    (hindex : w.view = (Ledger.after history).index.view) {id : GlobalId} {d : Definition}
    (hd : w.view.definition id = some d) :
    ∀ s ∈ d.span :: w.view.referencesTo id, s.Proper := by
  have hsound := Ledger.sound_after history
  rw [hindex] at hd ⊢
  rw [List.forall_mem_cons]
  exact ⟨hsound.proper_of_definition hd, fun s hs => hsound.proper_of_mem_referencesTo hs⟩

/-- **The edits of a renaming replace exactly the definition and the references, in order.** The
index is any that merging and removing leads to. For each file the edits increase strictly by their
ranges, and each ends before the next ones begin exactly if no two different ranges of the replaced
places overlap in the file. -/
theorem rename_covers_in_order (history : List IndexUpdate) {w : Workspace τ}
    (hindex : w.view = (Ledger.after history).index.view) {file : Path} {at_ : Position}
    {name : String} {edits : Table Path (List TextEdit)}
    (h : w.rename file at_ name = .ok edits) :
    ∃ id d, w.idAt file at_ = .ok id ∧ w.view.definition id = some d ∧
      let spans := d.span :: w.view.referencesTo id
      edits.Ordered ∧
      (∀ f e, (∃ es, (f, es) ∈ edits.entries ∧ e ∈ es) ↔
        ∃ s ∈ spans, s.file = f ∧ e = ⟨s.range, name⟩) ∧
      ∀ f es, (f, es) ∈ edits.entries →
        (es.Pairwise fun a b => compare a.range b.range = .lt) ∧
        ((es.Pairwise fun a b => (compare a.range.stop b.range.start).isLE) ↔
          ∀ s ∈ spans, ∀ s' ∈ spans, s.file = f → s'.file = f →
            ¬ s.range.Overlaps s'.range) := by
  obtain ⟨id, d, hid, hd, -, rfl⟩ := rename_eq_ok_iff.1 h
  -- places of an index lie in canonical files and do not run backwards
  have hspans := proper_of_renamed history hindex hd
  refine ⟨id, d, hid, hd, ?ordered, exists_edits_iff hspans, ?files⟩
  case ordered =>
    apply Table.Ordered.mapValues
    exact (gathered_foldl fun s hs => (hspans s hs).normal).ordered
  case files =>
    intro f es hes
    exact ⟨pairwise_edits hspans hes, pairwise_disjoint_iff hspans hes⟩

/-! ## Layer E: overlapping references -/

/-- Where a position lies on a single name, what this name denotes is found. -/
theorem idAt_of_single {w : Workspace τ} {file : Path} {at_ : Position} {o : Occurrence}
    {id : GlobalId} (hfile : w.overlay.has w.files file.normalize)
    (hname : (w.view.records.flatMap fun r => r.occurrences.filter fun o =>
      o.span.file == file.normalize && o.span.range.contains at_) = [o])
    (hid : w.view.resolve o.target = some id) : w.idAt file at_ = .ok id := by
  have hview : w.view.idAt file.normalize at_ = some id := by
    simp [View.idAt, View.occurrenceAt, View.occurrencesAt, hname, hid]
  simp only [idAt, existing, hfile, if_true]
  show orNotFound file.normalize at_ (w.view.idAt file.normalize at_) = .ok id
  rw [hview]
  rfl

/-- A library with a function on its first line, and calls of it. -/
def helperWith (calls : List RawSpan) : List IndexUpdate :=
  let helper : RawDef :=
    ⟨.function, ⟨0, 4⟩, ⟨⟨"/w/lib.rs"⟩, 3, 9, 1, 1, 4, 10⟩, "helper", "helper", none, "", none, [],
      none⟩
  [.merge (.lib "core") { Snapshot.empty with
    defs := [helper]
    refs := calls.map fun p => ⟨.function, p, ⟨0, 4⟩⟩ }]

/-- A workspace with the library, which is open in an editor. -/
def openHelper (calls : List RawSpan) : Workspace Unit where
  root := ⟨"/w"⟩
  config := default
  fallback := none
  queue :=
    { setup := ⟨⟨"/w"⟩, {}, {}, ⟨fun _ => throw .cancelled, fun _ _ => pure none,
        fun _ => pure (.error .noEntry)⟩⟩
      state :=
        { place := { overlay := Overlay.fresh.openBuffer ⟨"/w/lib.rs"⟩ "fn helper" 0, own := () }
          index := (Ledger.after (helperWith calls)).index }
      control := { graph := some (.assemble { (default : ProjectModel) with
        units := [.new (.lib "core") ⟨"/w/lib.rs"⟩] }) } }

/-- The function as the index has it. -/
def helperFound : Definition :=
  ⟨⟨0, 0⟩, .function, "helper", "helper", ⟨⟨"/w/lib.rs"⟩, ⟨3, 9⟩, ⟨⟨0, 3⟩, ⟨0, 9⟩⟩⟩, none, "", none,
    .lib "core"⟩

/-- Two calls on a line of their own, one behind the other. -/
def callsApart : List RawSpan :=
  [⟨⟨"/w/lib.rs"⟩, 40, 46, 3, 3, 5, 11⟩, ⟨⟨"/w/lib.rs"⟩, 50, 56, 3, 3, 15, 21⟩]

/-- Two calls of which the second begins before the first one ends. -/
def callsMixed : List RawSpan :=
  [⟨⟨"/w/lib.rs"⟩, 40, 46, 3, 3, 5, 11⟩, ⟨⟨"/w/lib.rs"⟩, 43, 49, 3, 3, 8, 14⟩]

theorem idAt_openHelper {calls : List RawSpan} (h : calls = callsApart ∨ calls = callsMixed) :
    (openHelper calls).idAt ⟨"/w/lib.rs"⟩ ⟨0, 4⟩ = .ok ⟨0, 0⟩ := by
  apply idAt_of_single (o := ⟨helperFound.span, ⟨0, 4⟩, true⟩)
  · obtain rfl | rfl := h <;> decide +kernel
  · obtain rfl | rfl := h <;> decide +kernel
  · obtain rfl | rfl := h <;> decide +kernel

theorem definition_openHelper {calls : List RawSpan}
    (h : calls = callsApart ∨ calls = callsMixed) :
    (openHelper calls).view.definition ⟨0, 0⟩ = some helperFound := by
  obtain rfl | rfl := h <;> decide +kernel

/-- The function is renamed, wherever it is called. -/
theorem rename_openHelper {calls : List RawSpan} (h : calls = callsApart ∨ calls = callsMixed) :
    (openHelper calls).rename ⟨"/w/lib.rs"⟩ ⟨0, 4⟩ "assist" = .ok
      (renameEdits "assist" (helperFound.span :: (openHelper calls).view.referencesTo ⟨0, 0⟩)) := by
  apply rename_eq_ok_iff.2
  refine ⟨⟨0, 0⟩, helperFound, idAt_openHelper h, definition_openHelper h, ?_, rfl⟩
  obtain rfl | rfl := h <;> decide +kernel

/-- The edits that rename calls apart from each other can be applied together. -/
theorem callsApart_are_renamed : ∃ edits,
    (openHelper callsApart).rename ⟨"/w/lib.rs"⟩ ⟨0, 4⟩ "assist" = .ok edits ∧
      ∀ f es, (f, es) ∈ edits.entries →
        es.Pairwise fun a b => (compare a.range.stop b.range.start).isLE := by
  have h := rename_openHelper (Or.inl (Eq.refl callsApart))
  refine ⟨_, h, ?_⟩
  intro f es hes
  obtain ⟨id, d, hid, hd, -, -, hfiles⟩ := rename_covers_in_order (helperWith callsApart) rfl h
  obtain rfl := Except.ok.inj (hid.symm.trans (idAt_openHelper (Or.inl rfl)))
  obtain rfl := Option.some.inj (hd.symm.trans (definition_openHelper (Or.inl rfl)))
  -- no two of the three places overlap
  have hapart : ∀ s ∈ helperFound.span :: (openHelper callsApart).view.referencesTo ⟨0, 0⟩,
      ∀ s' ∈ helperFound.span :: (openHelper callsApart).view.referencesTo ⟨0, 0⟩,
        ¬ s.range.Overlaps s'.range := by decide +kernel
  apply (hfiles f es hes).2.2
  intro s hs s' hs' _ _
  exact hapart s hs s' hs'

/-- **Edits may overlap**: the second of the mixed calls begins inside of the first one, and the
edits of both are listed. -/
theorem callsMixed_are_renamed_at_once :
    ¬ ∀ (history : List IndexUpdate) (w : Workspace Unit),
      w.view = (Ledger.after history).index.view → ∀ file at_ name edits,
        w.rename file at_ name = .ok edits → ∀ f es, (f, es) ∈ edits.entries →
          es.Pairwise fun a b => (compare a.range.stop b.range.start).isLE := by
  intro hclaim
  have h := rename_openHelper (Or.inr (Eq.refl callsMixed))
  have hspans : ∀ s ∈ helperFound.span :: (openHelper callsMixed).view.referencesTo ⟨0, 0⟩,
      s.Proper :=
    proper_of_renamed (helperWith callsMixed) rfl (definition_openHelper (Or.inr rfl))
  obtain ⟨es, hes, -⟩ := (exists_edits_iff hspans _ ⟨helperFound.span.range, "assist"⟩).2
    ⟨helperFound.span, by simp, rfl, rfl⟩
  have hdisjoint := hclaim _ _ rfl _ _ _ _ h _ es hes
  -- could the edits be applied together, no two places would overlap
  have happart := (pairwise_disjoint_iff hspans hes).1 hdisjoint
  have hover : ∃ s ∈ helperFound.span :: (openHelper callsMixed).view.referencesTo ⟨0, 0⟩,
      ∃ s' ∈ helperFound.span :: (openHelper callsMixed).view.referencesTo ⟨0, 0⟩,
        s.file = helperFound.span.file ∧ s'.file = helperFound.span.file ∧
          s.range.Overlaps s'.range := by decide +kernel
  obtain ⟨s, hs, s', hs', hfile, hfile', hover⟩ := hover
  exact happart s hs s' hs' hfile hfile' hover

end Workspace

end CodeAtlas

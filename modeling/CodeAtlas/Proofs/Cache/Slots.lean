import CodeAtlas.Proofs.Cache.Site
import CodeAtlas.Proofs.Cache.Store
import Mathlib.Data.List.Perm.Subperm

/-!
# One slot for every key

The store is a slot for every key, with something of the disk in it: a file, a link, a folder, or
nothing. Others may put what they like there. A look-up finds a snapshot exactly if the slot has a
file whose bytes are the form of that snapshot under the key and fingerprint that were asked for;
it throws away what no look-up could use, and touches no other slot. Storing changes the key's slot
and nothing else, or fails, at whatever step, and then changes nothing at all. So what was stored
is found until somebody writes to the slot.

## Architecture

- **Layer A**: a file that is replaced, and the mishaps on the way;
- **Layer B**: the slots of one folder;
- **Layer C**: the slots of the store on a disk;
- **Layer D**: the store over time.
-/

namespace CodeAtlas

/-! ## Layer A: replacing a file -/

/-- **What can go wrong while an entry is written** (`atomic_write`), beside what the disk itself
forbids: the lock is not given, the new file is not made, only a part of it is written, or it cannot
be moved. -/
inductive Mishap where
  | lock (fault : IoFault)
  | create (fault : IoFault)
  | fill (part : Content) (fault : IoFault)
  | move (fault : IoFault)
  deriving Repr, DecidableEq, Inhabited

namespace Folder

variable {f f' : Folder} {name other : String} {c : Content}

theorem stagingName_injective (name : String) : Function.Injective (stagingName name) := by
  intro m n h
  have hlist := congrArg String.toList h
  simp only [stagingName, String.toList_append, List.append_cancel_left_eq, Nat.toString_eq_repr,
    Nat.toList_repr] at hlist
  rw [← Nat.ofDigitChars_ten_toDigits (n := m), hlist, Nat.ofDigitChars_ten_toDigits]

/-- If the search for a staging name takes one that is taken, it met only taken ones. -/
theorem contains_of_contains_freshName {fuel n : Nat}
    (h : f.contains (f.freshName name fuel n) = true) :
    ∀ m, n ≤ m → m ≤ n + fuel → f.contains (stagingName name m) = true := by
  induction fuel generalizing n with
  | zero =>
    intro m hle hge
    obtain rfl : m = n := by omega
    exact h
  | succ fuel ih =>
    rw [freshName] at h
    split at h
    -- this name is taken, and the search went on behind it
    · rename_i hn
      intro m hle hge
      rcases Nat.eq_or_lt_of_le hle with rfl | hlt
      · exact hn
      · exact ih h m hlt (by omega)
    · rename_i hn
      exact absurd h hn

/-- **The staging name is not taken**: a folder has fewer entries than names are tried. -/
theorem get?_freshName (f : Folder) (name : String) :
    f.get? (f.freshName name f.size 0) = none := by
  by_contra htaken
  have hcontains : f.contains (f.freshName name f.size 0) = true :=
    Option.isSome_iff_ne_none.2 htaken
  have hall := contains_of_contains_freshName hcontains
  -- were it taken, all the names that were tried would be, and those are one more than entries
  have hsub : (List.range (f.size + 1)).map (stagingName name) ⊆ f.keys := by
    intro s hs
    obtain ⟨m, hm, rfl⟩ := List.mem_map.1 hs
    obtain ⟨e, he⟩ := Option.isSome_iff_exists.1 (hall m (Nat.zero_le m) (by
      have := List.mem_range.1 hm
      omega))
    obtain ⟨j, hj, hmem⟩ := Table.exists_mem_of_get? he
    rw [Std.LawfulEqOrd.eq_of_compare hj]
    exact List.mem_map.2 ⟨_, hmem, rfl⟩
  have hnodup : ((List.range (f.size + 1)).map (stagingName name)).Nodup :=
    List.nodup_range.map (stagingName_injective name)
  have hlength := (hnodup.subperm hsub).length_le
  simp only [List.length_map, List.length_range, Table.keys, Table.size] at hlength
  omega

/-- The folder after a staged file was given up, which is removed then. Removing it succeeds, as for
all plain files (`discard`): were that to fail, too, the staged file would stay. -/
def abandon (f : Folder) (fresh : String) (staged : Content) : Folder :=
  (f.insert fresh (.file staged)).erase fresh

/-- Replaces a file at one stroke, where a mishap may come in between. -/
def replaceAmid (f : Folder) (name : String) (c : Content) (mishap : Option Mishap) :
    Folder × Except IoFault Unit :=
  if !f.canStage name then (f, .error .nameTooLong)
  else
    let fresh := f.freshName name f.size 0
    match mishap with
    | some (.create fault) => (f, .error fault)
    | some (.fill part fault) => (f.abandon fresh part, .error fault)
    | some (.move fault) => (f.abandon fresh c, .error fault)
    | _ =>
      match Folder.rename (f.insert fresh (.file c)) fresh name with
      | .ok f => (f, .ok ())
      | .error fault => (f.abandon fresh c, .error fault)

/-- Where nothing goes wrong, a file is replaced as the store does it. -/
theorem replaceAmid_none (f : Folder) (name : String) (c : Content) :
    f.replaceAmid name c none = f.replace name c := rfl

/-- A staged file that was given up is gone. -/
theorem get?_abandon {fresh : String} (hfresh : f.get? fresh = none) (c : Content) :
    (f.abandon fresh c).get? other = f.get? other := by
  rw [abandon, Table.get?_erase]
  split
  · rename_i heq
    rw [← Std.LawfulEqOrd.eq_of_compare heq, hfresh]
  · rename_i hne
    have hother : other ≠ fresh := by
      rintro rfl
      exact hne Std.ReflCmp.compare_self
    exact Table.get?_insert_of_ne hother f _

/-- Moving a staged file to its name changes nothing but what stands there. -/
theorem get?_of_rename {fresh : String} (hfresh : f.get? fresh = none)
    (h : Folder.rename (f.insert fresh (.file c)) fresh name = .ok f') :
    f'.get? name = some (.file c) ∧ ∀ other, other ≠ name → f'.get? other = f.get? other := by
  rw [rename, Table.get?_insert_self] at h
  simp only at h
  split at h
  · cases h
  · obtain rfl := Except.ok.inj h
    refine ⟨Table.get?_insert_self .., fun other hother => ?_⟩
    rw [Table.get?_insert_of_ne hother]
    exact get?_abandon hfresh c

/-- **A file is replaced or nothing changes**, whatever goes wrong on the way. -/
theorem get?_replaceAmid (f : Folder) (name : String) (c : Content) (mishap : Option Mishap) :
    ((∃ fault, (f.replaceAmid name c mishap).2 = .error fault) ∧
      ∀ other, (f.replaceAmid name c mishap).1.get? other = f.get? other) ∨
    ((f.replaceAmid name c mishap).2 = .ok () ∧
      (f.replaceAmid name c mishap).1.get? name = some (.file c) ∧
      ∀ other, other ≠ name → (f.replaceAmid name c mishap).1.get? other = f.get? other) := by
  have hfresh := f.get?_freshName name
  rw [replaceAmid]
  split
  · exact Or.inl ⟨⟨_, rfl⟩, fun _ => rfl⟩
  · -- all that matters of the staging name is that nothing stands there
    generalize f.freshName name f.size 0 = fresh at hfresh ⊢
    simp only
    split
    · exact Or.inl ⟨⟨_, rfl⟩, fun _ => rfl⟩
    · exact Or.inl ⟨⟨_, rfl⟩, fun _ => get?_abandon hfresh _⟩
    · exact Or.inl ⟨⟨_, rfl⟩, fun _ => get?_abandon hfresh _⟩
    · split
      · rename_i hrename
        exact Or.inr ⟨rfl, get?_of_rename hfresh hrename⟩
      · exact Or.inl ⟨⟨_, rfl⟩, fun _ => get?_abandon hfresh _⟩

/-- Removing a file changes nothing but what stands at its name, where only a folder is left. -/
theorem get?_discard (f : Folder) (name other : String) :
    (f.discard name).1.get? other =
      if other = name ∧ f.get? name ≠ some .folder then none else f.get? other := by
  rw [discard]
  split
  · rename_i hfolder
    rw [if_neg fun h => h.2 hfolder]
  · rename_i e hne hget
    simp only [Table.get?_erase]
    by_cases hother : other = name
    · subst hother
      -- a folder would have been met in the case before
      have hfolder : f.get? other ≠ some .folder :=
        fun h => hne (Option.some.inj (hget.symm.trans h))
      rw [if_pos Std.ReflCmp.compare_self, if_pos ⟨rfl, hfolder⟩]
    · have hname : compare name other ≠ .eq :=
        fun h => hother (Std.LawfulEqOrd.eq_of_compare h).symm
      rw [if_neg hname, if_neg fun h => hother h.1]
  · rename_i hget
    by_cases hother : other = name
    · subst hother
      simp [hget]
    · rw [if_neg fun h => hother h.1]

end Folder

/-! ## Layer B: the slots of a folder -/

namespace SnapshotStore

variable {h : Hash} {f f' : Folder} {key : String} {fp : Fingerprint} {s : Snapshot}

/-- **A slot answers** a look-up with a snapshot if there is a file in it that is not too large,
whose bytes are the form of the snapshot under the key and the fingerprint that were asked for, as
the program in use writes it at some time. -/
def Answers (key : String) (fp : Fingerprint) (slot : Option Entry) (s : Snapshot) : Prop :=
  ∃ c savedAt, slot = some (.file c) ∧ c.size ≤ sizeLimit ∧
    c.toBytes = StoredSnapshot.codec.encode (.new key fp savedAt s)

/-- A stored snapshot of a key is the one that the program in use would write. -/
theorem isOf_iff {e : StoredSnapshot} :
    e.isOf key = true ↔ e = .new key e.fingerprint e.savedAt e.snapshot := by
  obtain ⟨schema, version, key', fp, savedAt, s⟩ := e
  simp [StoredSnapshot.isOf, StoredSnapshot.new, and_assoc]

/-- **What is held under a key is told by the bytes.** -/
theorem holds_iff_answers {e : StoredSnapshot} :
    Holds h f key e ↔ e.isOf key = true ∧
      ∃ c, f.get? (entryName h key) = some (.file c) ∧ c.size ≤ sizeLimit ∧
        c.toBytes = StoredSnapshot.codec.encode e := by
  constructor
  · rintro ⟨c, hc, hsize, hread, hkey⟩
    exact ⟨hkey, c, hc, hsize, (StoredSnapshot.exact_codec.encode_of_decodeAll? hread).symm⟩
  · rintro ⟨hkey, c, hc, hsize, hbytes⟩
    refine ⟨c, hc, hsize, ?_, hkey⟩
    refine StoredSnapshot.exact_codec.decodeAll?_of_toBytes ?_ hbytes
    rw [← hbytes, Content.length_toBytes]
    simp only [sizeLimit] at hsize
    omega

theorem exists_holds_iff :
    (∃ e, Holds h f key e ∧ e.fingerprint = fp ∧ e.snapshot = s) ↔
      Answers key fp (f.get? (entryName h key)) s := by
  constructor
  · rintro ⟨e, he, rfl, rfl⟩
    obtain ⟨hkey, c, hc, hsize, hbytes⟩ := holds_iff_answers.1 he
    rw [isOf_iff.1 hkey] at hbytes
    exact ⟨c, e.savedAt, hc, hsize, hbytes⟩
  · rintro ⟨c, savedAt, hc, hsize, hbytes⟩
    refine ⟨.new key fp savedAt s, holds_iff_answers.2 ⟨?_, c, hc, hsize, hbytes⟩, rfl, rfl⟩
    exact isOf_iff.2 rfl

/-- What is held under a key decides what a look-up finds, and keeps it where it is. -/
theorem load_of_holds {e : StoredSnapshot} (he : Holds h f key e) :
    load h f key fp = (f, if e.fingerprint = fp then some e.snapshot else none) := by
  obtain ⟨c, hc, hsize, hread, hkey⟩ := he
  rw [load]
  simp only [hc, not_lt.2 hsize, if_false, hread, hkey, Bool.not_true, Bool.false_eq_true]
  by_cases hfp : e.fingerprint = fp
  · simp [hfp]
  · simp [hfp]

/-- Where nothing is held, a look-up finds nothing, and throws away what is there. -/
theorem load_of_not_holds (hnone : ∀ e, ¬ Holds h f key e) :
    load h f key fp = ((f.discard (entryName h key)).1, none) := by
  rw [load]
  split
  · rename_i hget
    rw [Folder.discard, hget]
  · rename_i c hc
    split
    · rfl
    · rename_i hsize
      split
      · rfl
      · rename_i e hread
        split
        · rfl
        · rename_i hkey
          -- all checks are passed, so the entry would be held
          exact absurd ⟨c, hc, not_lt.1 hsize, hread, by simpa using hkey⟩ (hnone e)
  · rfl

/-- **A look-up finds what the slot answers.** -/
theorem load_eq_some_iff :
    (load h f key fp).2 = some s ↔ Answers key fp (f.get? (entryName h key)) s := by
  rw [← exists_holds_iff]
  constructor
  · exact holds_of_load
  · rintro ⟨e, he, hfp, rfl⟩
    rw [load_of_holds he, if_pos hfp]

/-- A look-up leaves every other entry of the folder alone. -/
theorem get?_load_of_ne {name : String} (hne : name ≠ entryName h key) :
    (load h f key fp).1.get? name = f.get? name := by
  by_cases hheld : ∃ e, Holds h f key e
  · obtain ⟨e, he⟩ := hheld
    rw [load_of_holds he]
  · rw [load_of_not_holds (not_exists.1 hheld), Folder.get?_discard, if_neg fun h => hne h.1]

/-- A look-up leaves its slot as it is or empties it. -/
theorem get?_load_or (h : Hash) (f : Folder) (key : String) (fp : Fingerprint) :
    (load h f key fp).1.get? (entryName h key) = f.get? (entryName h key) ∨
      (load h f key fp).1.get? (entryName h key) = none := by
  by_cases hheld : ∃ e, Holds h f key e
  · obtain ⟨e, he⟩ := hheld
    rw [load_of_holds he]
    exact Or.inl rfl
  · rw [load_of_not_holds (not_exists.1 hheld), Folder.get?_discard]
    split
    · exact Or.inr rfl
    · exact Or.inl rfl

/-- **What a look-up leaves in its slot**: what answers one fingerprint or another, and folders. -/
theorem get?_load {e : Entry} (hget : f.get? (entryName h key) = some e) :
    (load h f key fp).1.get? (entryName h key) = some e ↔
      (∃ asked s, Answers key asked (some e) s) ∨ e = .folder := by
  by_cases hheld : ∃ e', Holds h f key e'
  · obtain ⟨e', he'⟩ := hheld
    have hanswers : Answers key e'.fingerprint (some e) e'.snapshot :=
      hget ▸ exists_holds_iff.1 ⟨e', he', rfl, rfl⟩
    -- what is held stays, whether or not its fingerprint is the one asked for
    rw [load_of_holds he']
    exact ⟨fun _ => Or.inl ⟨_, _, hanswers⟩, fun _ => hget⟩
  · have hno : ¬ ∃ asked s, Answers key asked (some e) s := by
      rintro ⟨asked, s, hanswers⟩
      obtain ⟨e', he', -⟩ := exists_holds_iff.2 (hget ▸ hanswers)
      exact hheld ⟨e', he'⟩
    rw [load_of_not_holds (not_exists.1 hheld), Folder.get?_discard, hget]
    by_cases hfolder : e = .folder
    · simp [hfolder]
    · simp [hfolder, hno]

/-- Taking the lock changes nothing but the lock. -/
theorem get?_takeLock_of_ne {name : String} (htake : takeLock f = .ok f') (hne : name ≠ lockName) :
    f'.get? name = f.get? name := by
  unfold takeLock at htake
  split at htake
  · cases htake
  · obtain rfl := Except.ok.inj htake
    rfl
  · obtain rfl := Except.ok.inj htake
    exact Table.get?_insert_of_ne hne f _

/-- Stores a snapshot, where a mishap may come in between. -/
def storeAmid (h : Hash) (f : Folder) (key : String) (fp : Fingerprint) (savedAt : UInt64)
    (s : Snapshot) (mishap : Option Mishap) : Folder × Except IoFault Unit :=
  match takeLock f with
  | .error fault => (f, .error fault)
  | .ok f =>
    match mishap with
    | some (.lock fault) => (f, .error fault)
    | _ => f.replaceAmid (entryName h key)
        ⟨StoredSnapshot.codec.encode (.new key fp savedAt s), 0⟩ mishap

/-- Where nothing goes wrong, a snapshot is stored as the store does it. -/
theorem storeAmid_none (savedAt : UInt64) :
    storeAmid h f key fp savedAt s none = store h f key fp savedAt s := rfl

/-- **Storing fills the slot or changes nothing**, but for the lock. -/
theorem get?_storeAmid (h : Hash) (f : Folder) (key : String) (fp : Fingerprint) (savedAt : UInt64)
    (s : Snapshot) (mishap : Option Mishap) :
    let stored := storeAmid h f key fp savedAt s mishap
    ((∃ fault, stored.2 = .error fault) ∧
      ∀ name, name ≠ lockName → stored.1.get? name = f.get? name) ∨
    (stored.2 = .ok () ∧
      stored.1.get? (entryName h key) =
        some (.file ⟨StoredSnapshot.codec.encode (.new key fp savedAt s), 0⟩) ∧
      ∀ name, name ≠ entryName h key → name ≠ lockName → stored.1.get? name = f.get? name) := by
  intro stored
  simp only [stored, storeAmid]
  split
  · exact Or.inl ⟨⟨_, rfl⟩, fun _ _ => rfl⟩
  · rename_i f' htake
    have hlock : ∀ name, name ≠ lockName → f'.get? name = f.get? name :=
      fun _ => get?_takeLock_of_ne htake
    -- a folder that is locked has changed at the lock alone
    split
    · exact Or.inl ⟨⟨_, rfl⟩, hlock⟩
    · rcases f'.get?_replaceAmid (entryName h key)
        ⟨StoredSnapshot.codec.encode (.new key fp savedAt s), 0⟩ mishap with
        ⟨hfault, hsame⟩ | ⟨hok, hnew, hsame⟩
      · exact Or.inl ⟨hfault, fun name hname => (hsame name).trans (hlock name hname)⟩
      · refine Or.inr ⟨hok, hnew, fun name hname hne => ?_⟩
        exact (hsame name hname).trans (hlock name hne)

end SnapshotStore

namespace Disk

variable {h : Hash} {d d' : Disk} {root : Path} {place there : Place} {f : Folder}
  {key name : String} {fp : Fingerprint} {s : Snapshot}

/-! ## Layer C: the slots on a disk -/

/-- What stands at a name in the store's folder. -/
def under? (d : Disk) (root : Path) (name : String) : Option Entry :=
  match d.folderAt root with
  | .ok (_, f) => f.get? name
  | .error _ => none

/-- **The slot of a key.** -/
def slot? (h : Hash) (d : Disk) (root : Path) (key : String) : Option Entry :=
  d.under? root (SnapshotStore.entryName h key)

theorem Leads.under?_eq (hd : d.Leads root place) (name : String) :
    d.under? root name = (d.folders.getD place Table.empty).get? name := by
  rw [under?, hd.folderAt]

@[simp] theorem getD_withFolder (d : Disk) (place : Place) (f : Folder) :
    (d.withFolder place f).folders.getD place Table.empty = f := by
  simp [withFolder, Table.getD]

theorem Leads.under?_withFolder (hd : d.Leads root place) (f : Folder) (name : String) :
    (d.withFolder place f).under? root name = f.get? name := by
  rw [(hd.withFolder f).under?_eq, getD_withFolder]

/-- Making the folder of the store puts nothing into it. -/
theorem Firm.makeFolders (hd : d.Firm root place) (hmake : d.makeFolders root = .ok d') :
    d'.Leads root place ∧ ∀ name, d'.under? root name = d.under? root name := by
  rcases hd with hd | ⟨hnowhere, hd⟩
  · obtain rfl := Except.ok.inj (hd.makeFolders.symm.trans hmake)
    exact ⟨hd, fun _ => rfl⟩
  · obtain ⟨hd', hempty⟩ := hd d' hmake
    refine ⟨hd', fun name => ?_⟩
    rw [hd'.under?_eq, hempty name, under?]
    split
    · rename_i hat
      exact absurd hat (hnowhere _)
    · rfl

/-- **A look-up finds what the slot answers.** -/
theorem loadSnapshot_eq_some_iff :
    (d.loadSnapshot h root key fp).2 = some s ↔
      SnapshotStore.Answers key fp (d.slot? h root key) s := by
  rw [loadSnapshot, slot?, under?]
  cases hat : d.folderAt root with
  | error fault =>
    constructor
    · intro hload
      cases hload
    · rintro ⟨c, savedAt, hc, -⟩
      cases hc
  | ok there => exact SnapshotStore.load_eq_some_iff

theorem Firm.under?_loadSnapshot_of_ne (hd : d.Firm root place)
    (hne : name ≠ SnapshotStore.entryName h key) :
    (d.loadSnapshot h root key fp).1.under? root name = d.under? root name := by
  rw [loadSnapshot]
  split
  · rfl
  · rename_i there f hat
    obtain ⟨hd, rfl, rfl⟩ := hd.leads hat
    rw [hd.under?_withFolder, hd.under?_eq, SnapshotStore.get?_load_of_ne hne]

/-- A look-up leaves its slot as it is or empties it. -/
theorem Firm.slot?_loadSnapshot_or (hd : d.Firm root place) :
    (d.loadSnapshot h root key fp).1.slot? h root key = d.slot? h root key ∨
      (d.loadSnapshot h root key fp).1.slot? h root key = none := by
  rw [loadSnapshot]
  split
  · exact Or.inl rfl
  · rename_i there f hat
    obtain ⟨hd, rfl, rfl⟩ := hd.leads hat
    simp only [slot?, hd.under?_withFolder, hd.under?_eq]
    exact SnapshotStore.get?_load_or ..

/-- **What a look-up leaves in its slot**: what answers one fingerprint or another, and folders. -/
theorem Firm.slot?_loadSnapshot (hd : d.Firm root place) {e : Entry}
    (hget : d.slot? h root key = some e) :
    (d.loadSnapshot h root key fp).1.slot? h root key = some e ↔
      (∃ asked s, SnapshotStore.Answers key asked (some e) s) ∨ e = .folder := by
  rw [loadSnapshot]
  split
  · rename_i fault hat
    rw [slot?, under?, hat] at hget
    cases hget
  · rename_i there f hat
    obtain ⟨hd, rfl, rfl⟩ := hd.leads hat
    rw [slot?, hd.under?_eq] at hget
    simp only [slot?, hd.under?_withFolder]
    exact SnapshotStore.get?_load hget

/-- Removing empties the slot unless there is a folder in it, and touches nothing else. -/
theorem Firm.under?_removeSnapshot (hd : d.Firm root place) :
    (d.removeSnapshot h root key).1.under? root name =
      if name = SnapshotStore.entryName h key ∧ d.slot? h root key ≠ some .folder then none
      else d.under? root name := by
  rw [removeSnapshot]
  split
  · rename_i fault hat
    simp [under?, hat]
  · rename_i there f hat
    obtain ⟨hd, rfl, rfl⟩ := hd.leads hat
    simp only [slot?, hd.under?_withFolder, hd.under?_eq, SnapshotStore.remove, Folder.get?_discard]

/-- Stores a snapshot, where a mishap may come in between. -/
def storeAmid (h : Hash) (d : Disk) (root : Path) (key : String) (fp : Fingerprint)
    (savedAt : UInt64) (s : Snapshot) (mishap : Option Mishap) : Disk × Except CacheFault Unit :=
  match d.makeFolders root with
  | .error fault => (d, .error (.io fault))
  | .ok d =>
    match d.folderAt root with
    | .error fault => (d, .error (.io fault))
    | .ok (place, f) =>
      let (f, r) := SnapshotStore.storeAmid h f key fp savedAt s mishap
      (d.withFolder place f, orCacheFault r)

/-- Where nothing goes wrong, a snapshot is stored as the store does it. -/
theorem storeAmid_none (savedAt : UInt64) :
    d.storeAmid h root key fp savedAt s none = d.storeSnapshot h root key fp savedAt s := rfl

/-- **No file is new**, anywhere on the disk, but for the lock. -/
def NoNewFile (d' d : Disk) : Prop :=
  ∀ place f name c, name ≠ SnapshotStore.lockName → d'.folders.get? place = some f →
    f.get? name = some (.file c) →
    ∃ f', d.folders.get? place = some f' ∧ f'.get? name = some (.file c)

theorem FilesAmong.noNewFile (hd : FilesAmong d' d) : NoNewFile d' d :=
  fun place f name c _ hf hc => hd place f name c hf hc

theorem noNewFile_withFolder (hfiles : FilesAmong d' d)
    (hsame : ∀ name, name ≠ SnapshotStore.lockName →
      f.get? name = (d'.folders.getD place Table.empty).get? name) :
    NoNewFile (d'.withFolder place f) d := by
  intro q f' name c hname hf' hc
  by_cases hq : q = place
  · subst hq
    obtain rfl : f = f' := by simpa [withFolder] using hf'
    rw [hsame name hname, Table.getD] at hc
    cases hget : d'.folders.get? q with
    | none => simp [hget] at hc
    | some f₀ => exact hfiles q f₀ name c hget (by simpa [hget] using hc)
  · rw [withFolder, Table.get?_insert_of_ne hq] at hf'
    exact hfiles q f' name c hf' hc

/-- **Storing fills the slot or changes nothing**, but for the lock. -/
theorem Firm.under?_storeAmid (hd : d.Firm root place) (h : Hash) (key : String)
    (fp : Fingerprint) (savedAt : UInt64) (s : Snapshot) (mishap : Option Mishap) :
    let stored := d.storeAmid h root key fp savedAt s mishap
    ((∃ fault, stored.2 = .error fault) ∧ NoNewFile stored.1 d ∧
      ∀ name, name ≠ SnapshotStore.lockName → stored.1.under? root name = d.under? root name) ∨
    (stored.2 = .ok () ∧
      stored.1.slot? h root key =
        some (.file ⟨StoredSnapshot.codec.encode (.new key fp savedAt s), 0⟩) ∧
      ∀ name, name ≠ SnapshotStore.entryName h key → name ≠ SnapshotStore.lockName →
        stored.1.under? root name = d.under? root name) := by
  intro stored
  simp only [stored, storeAmid]
  split
  · exact Or.inl ⟨⟨_, rfl⟩, (FilesAmong.refl d).noNewFile, fun _ _ => rfl⟩
  · rename_i d' hmake
    obtain ⟨hd', hunder⟩ := hd.makeFolders hmake
    have hfiles := filesAmong_makeFolders hmake
    simp only [hd'.folderAt, slot?, hd'.under?_withFolder]
    simp only [hd'.under?_eq] at hunder
    -- the disk behaves as the one folder does, below which nothing else has changed
    let folder := d'.folders.getD place Table.empty
    rcases SnapshotStore.get?_storeAmid h folder key fp savedAt s mishap
      with ⟨⟨fault, hfault⟩, hsame⟩ | ⟨hok, hnew, hsame⟩
    · refine Or.inl ⟨⟨.io fault, by rw [hfault]; rfl⟩, noNewFile_withFolder hfiles hsame, ?_⟩
      exact fun name hname => (hsame name hname).trans (hunder name)
    · refine Or.inr ⟨by rw [hok]; rfl, hnew, ?_⟩
      exact fun name hname hlock => (hsame name hname hlock).trans (hunder name)

/-! ## Layer D: over time -/

/-- **What befalls the store** (`SnapshotCache`): its own operations, and what others put at a name
in its folder, or take away there. -/
inductive StoreEvent where
  | load (key : String) (fp : Fingerprint)
  | store (key : String) (fp : Fingerprint) (savedAt : UInt64) (s : Snapshot)
      (mishap : Option Mishap)
  | remove (key : String)
  | outside (name : String) (e : Option Entry)
  deriving Repr, DecidableEq

/-- What others do to the store's folder. -/
def meddle (d : Disk) (root : Path) (name : String) (e : Option Entry) : Disk :=
  match d.folderAt root with
  | .error _ => d
  | .ok (place, f) => d.withFolder place (f.alter name fun _ => e)

/-- The disk after one event. -/
def afterEvent (h : Hash) (root : Path) (d : Disk) : StoreEvent → Disk
  | .load key fp => (d.loadSnapshot h root key fp).1
  | .store key fp savedAt s mishap => (d.storeAmid h root key fp savedAt s mishap).1
  | .remove key => (d.removeSnapshot h root key).1
  | .outside name e => d.meddle root name e

/-- The disk after some events. -/
def after (h : Hash) (d : Disk) (root : Path) (events : List StoreEvent) : Disk :=
  events.foldl (afterEvent h root) d

/-- An event that does not write to a key's slot: look-ups, and all that is about other keys. -/
def StoreEvent.Spares (h : Hash) (keys : Set String) (key : String) : StoreEvent → Prop
  | .load asked _ => asked ∈ keys
  | .store other .. => other ∈ keys ∧ other ≠ key
  | .remove other => other ∈ keys ∧ other ≠ key
  | .outside name _ => name ≠ SnapshotStore.entryName h key

theorem Firm.afterEvent (hd : d.Firm root place) (event : StoreEvent) :
    (d.afterEvent h root event).Firm root place := by
  cases event with
  | load key fp =>
    simp only [Disk.afterEvent, loadSnapshot]
    split
    · exact hd
    · rename_i hat
      obtain ⟨hd, rfl, rfl⟩ := hd.leads hat
      exact Or.inl (hd.withFolder _)
  | store key fp savedAt s mishap =>
    simp only [Disk.afterEvent, storeAmid]
    split
    · exact hd
    · rename_i d' hmake
      have hd' := (hd.makeFolders hmake).1
      simp only [hd'.folderAt]
      exact Or.inl (hd'.withFolder _)
  | remove key =>
    simp only [Disk.afterEvent, removeSnapshot]
    split
    · exact hd
    · rename_i hat
      obtain ⟨hd, rfl, rfl⟩ := hd.leads hat
      exact Or.inl (hd.withFolder _)
  | outside name e =>
    simp only [Disk.afterEvent, meddle]
    split
    · exact hd
    · rename_i hat
      obtain ⟨hd, rfl, rfl⟩ := hd.leads hat
      exact Or.inl (hd.withFolder _)

theorem Firm.after (hd : d.Firm root place) (events : List StoreEvent) :
    (d.after h root events).Firm root place := by
  induction events generalizing d with
  | nil => exact hd
  | cons event events ih => exact ih (hd.afterEvent event)

theorem Firm.under?_meddle_of_ne (hd : d.Firm root place) {other : String} {e : Option Entry}
    (hne : other ≠ name) : (d.meddle root name e).under? root other = d.under? root other := by
  rw [meddle]
  split
  · rfl
  · rename_i hat
    obtain ⟨hd, rfl, rfl⟩ := hd.leads hat
    rw [hd.under?_withFolder, hd.under?_eq, Table.alter]
    cases e with
    | some e => exact Table.get?_insert_of_ne hne _ e
    | none => exact Table.get?_erase_of_ne hne _

variable {keys : Set String}

/-- A slot that answers some look-up stays as it is while nobody writes to it. -/
theorem Firm.slot?_afterEvent (hd : d.Firm root place)
    (hnames : Set.InjOn (SnapshotStore.entryName h) keys) (hkey : key ∈ keys)
    (hanswers : ∃ asked s, SnapshotStore.Answers key asked (d.slot? h root key) s)
    {event : StoreEvent} (hspares : event.Spares h keys key) :
    (d.afterEvent h root event).slot? h root key = d.slot? h root key := by
  -- other keys have other file names, and a slot that answers is not removed by a look-up
  have hother : ∀ other ∈ keys, other ≠ key →
      SnapshotStore.entryName h key ≠ SnapshotStore.entryName h other :=
    fun other hmem hne heq => hne (hnames hmem hkey heq.symm)
  cases event with
  | load asked fp =>
    by_cases hasked : asked = key
    · subst hasked
      obtain ⟨wanted, s, hanswers⟩ := hanswers
      obtain ⟨c, savedAt, hc, hrest⟩ := hanswers
      rw [hc]
      exact (hd.slot?_loadSnapshot hc).2 (Or.inl ⟨wanted, s, c, savedAt, rfl, hrest⟩)
    · exact hd.under?_loadSnapshot_of_ne (hother asked hspares hasked)
  | store other fp savedAt s mishap =>
    have hne := hother other hspares.1 hspares.2
    have hlock := (SnapshotStore.lockName_ne_entryName h key).symm
    rcases hd.under?_storeAmid h other fp savedAt s mishap with ⟨-, -, hsame⟩ | ⟨-, -, hsame⟩
    · exact hsame _ hlock
    · exact hsame _ hne hlock
  | remove other =>
    have hne := hother other hspares.1 hspares.2
    exact hd.under?_removeSnapshot.trans (if_neg fun h => hne h.1)
  | outside name e => exact hd.under?_meddle_of_ne (Ne.symm hspares)

/-- **What a slot answers it goes on answering** while nobody writes to it. -/
theorem Firm.slot?_after (hd : d.Firm root place)
    (hnames : Set.InjOn (SnapshotStore.entryName h) keys) (hkey : key ∈ keys)
    (hanswers : ∃ asked s, SnapshotStore.Answers key asked (d.slot? h root key) s)
    {events : List StoreEvent} (hspares : ∀ event ∈ events, event.Spares h keys key) :
    (d.after h root events).slot? h root key = d.slot? h root key := by
  induction events generalizing d with
  | nil => rfl
  | cons event events ih =>
    have hstep := hd.slot?_afterEvent hnames hkey hanswers (hspares event List.mem_cons_self)
    refine (ih (hd.afterEvent event) (hstep ▸ hanswers) ?_).trans hstep
    exact fun later hlater => hspares later (List.mem_cons_of_mem _ hlater)

/-- **The store is one slot for every key.** Whatever befell it before, and whether or not its
folder was there: a look-up finds exactly what the slot answers; it leaves the slots of other keys
alone, and its own unless no look-up could use what is in it; storing that fails, at whatever step,
leaves every entry as it was, and no new file; and storing that succeeds writes to the slot of the
key alone, which answers with what was stored until somebody writes to it. -/
theorem one_slot_per_key (hnames : Set.InjOn (SnapshotStore.entryName h) keys)
    (hfirm : d.Firm root place) (events : List StoreEvent) (hkey : key ∈ keys)
    (fp : Fingerprint) :
    let now := d.after h root events
    let looked := now.loadSnapshot h root key fp
    (∀ s, looked.2 = some s ↔ SnapshotStore.Answers key fp (now.slot? h root key) s) ∧
    (∀ other ∈ keys, other ≠ key → looked.1.slot? h root other = now.slot? h root other) ∧
    (looked.1.slot? h root key = now.slot? h root key ∨ looked.1.slot? h root key = none) ∧
    (∀ e, now.slot? h root key = some e →
      (looked.1.slot? h root key = some e ↔
        (∃ asked s, SnapshotStore.Answers key asked (some e) s) ∨ e = .folder)) ∧
    ∀ savedAt s mishap,
      let stored := now.storeAmid h root key fp savedAt s mishap
      let form := StoredSnapshot.codec.encode (.new key fp savedAt s)
      ((∃ fault, stored.2 = .error fault) →
        NoNewFile stored.1 now ∧
        ∀ name, name ≠ SnapshotStore.lockName → stored.1.under? root name = now.under? root name) ∧
      (stored.2 = .ok () →
        stored.1.slot? h root key = some (.file ⟨form, 0⟩) ∧
        (∀ name, name ≠ SnapshotStore.entryName h key → name ≠ SnapshotStore.lockName →
          stored.1.under? root name = now.under? root name) ∧
        (form.length ≤ SnapshotStore.sizeLimit →
          ∀ later : List StoreEvent, (∀ event ∈ later, event.Spares h keys key) →
            ((stored.1.after h root later).loadSnapshot h root key fp).2 = some s)) := by
  intro now looked
  have hnow : now.Firm root place := hfirm.after events
  refine ⟨fun s => loadSnapshot_eq_some_iff, ?others, hnow.slot?_loadSnapshot_or,
    fun e he => hnow.slot?_loadSnapshot he, ?store⟩
  case others =>
    intro other hother hne
    exact hnow.under?_loadSnapshot_of_ne fun heq => hne (hnames hother hkey heq)
  case store =>
    intro savedAt s mishap stored form
    have hcases := hnow.under?_storeAmid h key fp savedAt s mishap
    refine ⟨?failed, ?stored⟩
    case failed =>
      rintro ⟨fault, hfault⟩
      rcases hcases with ⟨-, hfiles, hsame⟩ | ⟨hok, -⟩
      · exact ⟨hfiles, hsame⟩
      · exact absurd (hfault.symm.trans hok) (by simp)
    case stored =>
      intro hok
      rcases hcases with ⟨⟨fault, hfault⟩, -⟩ | ⟨-, hslot, hsame⟩
      · exact absurd (hok.symm.trans hfault) (by simp)
      refine ⟨hslot, hsame, fun hsize later hlater => ?_⟩
      have hanswers : SnapshotStore.Answers key fp (stored.1.slot? h root key) s :=
        ⟨⟨form, 0⟩, savedAt, hslot, by simpa [Content.size] using hsize,
          by simp [Content.toBytes, form]⟩
      have hstored : stored.1.Firm root place :=
        hnow.afterEvent (.store key fp savedAt s mishap)
      -- others spare the slot, so it still answers with what was stored
      rw [loadSnapshot_eq_some_iff,
        hstored.slot?_after hnames hkey ⟨fp, s, hanswers⟩ hlater]
      exact hanswers

/-! A store below the root of an empty disk, whose folder is not there at first. -/

theorem firm_empty : Disk.empty.Firm ⟨"/c"⟩ ["c"] := by
  refine Or.inr ⟨fun there hat => ?_, fun d' hmake => ?_⟩
  · have hnone : Disk.empty.folderAt ⟨"/c"⟩ = .error .noEntry := by rfl
    rw [hnone] at hat
    cases hat
  · have hmade : Disk.empty.makeFolders ⟨"/c"⟩ =
        .ok ⟨⟨[([], ⟨[("c", .folder)]⟩), (["c"], ⟨[]⟩)]⟩⟩ := by rfl
    obtain rfl := Except.ok.inj (hmade.symm.trans hmake)
    refine ⟨leads_of_steps (by decide) (by decide) (by decide) (by decide) ?_ ?_, ?_⟩
    · intro s hs
      obtain rfl := List.mem_singleton.1 hs
      exact ⟨by decide, by decide, by decide⟩
    · decide
    · intro name
      rfl

/-- A hash that writes the bytes out. -/
def spelledOut : Hash := ⟨fun bs => ⟨bs.hex⟩⟩

/-- The name of a key's entry under this hash. -/
def sampleName (key : String) : String := SnapshotStore.entryName spelledOut key

theorem injOn_sampleName : Set.InjOn sampleName {"a", "b"} := by
  have hne : sampleName "a" ≠ sampleName "b" := by decide +kernel
  rintro key (rfl | rfl) other (rfl | rfl) heq
  · rfl
  · exact absurd heq hne
  · exact absurd heq.symm hne
  · rfl

/-- Something is stored under `b`, somebody puts a link into the slot of `a`, and `b` is looked up
under another fingerprint. -/
def sampleEvents : List StoreEvent :=
  [.store "b" ⟨"1"⟩ 7 Snapshot.empty none, .outside (sampleName "a") (some (.link ⟨"/x"⟩)),
    .load "b" ⟨"2"⟩]

/-- Everything that can go wrong while an entry is written. -/
def sampleMishaps : List Mishap :=
  [.lock .denied, .create .denied, .fill ⟨[1, 2], 0⟩ .denied, .move .denied]

/-- `a` is looked up under another fingerprint, and much befalls `b`. -/
def sampleSequel : List StoreEvent :=
  [.load "a" ⟨"2"⟩, .store "b" ⟨"3"⟩ 8 Snapshot.empty (some (.fill ⟨[1], 0⟩ .denied)), .remove "b",
    .outside (sampleName "b") (some .folder)]

/-- The link is thrown away by a look-up that finds nothing; a snapshot that could not be stored,
whatever went wrong, leaves no trace; and one that is stored is found after all that befalls
`b`. -/
theorem sampleEvents_slot :
    let now := Disk.empty.after spelledOut ⟨"/c"⟩ sampleEvents
    let looked := now.loadSnapshot spelledOut ⟨"/c"⟩ "a" ⟨"1"⟩
    let storing := now.storeAmid spelledOut ⟨"/c"⟩ "a" ⟨"1"⟩ 9 Snapshot.empty
    let stored := storing none
    Set.InjOn (SnapshotStore.entryName spelledOut) {"a", "b"} ∧ Disk.empty.Firm ⟨"/c"⟩ ["c"] ∧
      now.slot? spelledOut ⟨"/c"⟩ "a" = some (.link ⟨"/x"⟩) ∧ looked.2 = none ∧
      looked.1.slot? spelledOut ⟨"/c"⟩ "a" ≠ some (.link ⟨"/x"⟩) ∧
      (∀ mishap ∈ sampleMishaps, (storing (some mishap)).2 = .error (.io .denied) ∧
        NoNewFile (storing (some mishap)).1 now ∧
        (storing (some mishap)).1.slot? spelledOut ⟨"/c"⟩ "a" = some (.link ⟨"/x"⟩)) ∧
      stored.2 = .ok () ∧
      ((stored.1.after spelledOut ⟨"/c"⟩ sampleSequel).loadSnapshot spelledOut ⟨"/c"⟩ "a" ⟨"1"⟩).2 =
        some Snapshot.empty := by
  intro now looked storing stored
  obtain ⟨hfinds, -, -, hkeeps, hstores⟩ :=
    one_slot_per_key injOn_sampleName firm_empty sampleEvents (Or.inl rfl) ⟨"1"⟩
  have hslot : now.slot? spelledOut ⟨"/c"⟩ "a" = some (.link ⟨"/x"⟩) := by decide +kernel
  -- a link answers nothing
  have hno : ∀ asked s, ¬ SnapshotStore.Answers "a" asked (some (.link ⟨"/x"⟩)) s := by
    rintro asked s ⟨c, savedAt, hc, -⟩
    cases hc
  have hfailed : ∀ mishap ∈ sampleMishaps, (storing (some mishap)).2 = .error (.io .denied) := by
    decide +kernel
  have hstored : stored.2 = .ok () := by decide +kernel
  refine ⟨injOn_sampleName, firm_empty, hslot, ?_, ?_, ?_, hstored, ?_⟩
  · by_contra hfound
    obtain ⟨s, hs⟩ := Option.ne_none_iff_exists'.1 hfound
    exact hno _ s (hslot ▸ (hfinds s).1 hs)
  · intro hkept
    rcases (hkeeps _ hslot).1 hkept with ⟨asked, s, hanswers⟩ | hfolder
    · exact hno asked s hanswers
    · cases hfolder
  · intro mishap hmishap
    have hfault := hfailed mishap hmishap
    obtain ⟨hfiles, hsame⟩ := (hstores 9 Snapshot.empty (some mishap)).1 ⟨_, hfault⟩
    have hlock := (SnapshotStore.lockName_ne_entryName spelledOut "a").symm
    exact ⟨hfault, hfiles, (hsame _ hlock).trans hslot⟩
  · refine ((hstores 9 Snapshot.empty none).2 hstored).2.2 (by decide +kernel) sampleSequel ?_
    have hname : sampleName "b" ≠ SnapshotStore.entryName spelledOut "a" := by decide +kernel
    simpa [sampleSequel, StoreEvent.Spares] using hname

end Disk

end CodeAtlas

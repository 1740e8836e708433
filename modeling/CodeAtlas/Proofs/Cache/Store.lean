import CodeAtlas.Cache.Store
import CodeAtlas.Proofs.Ordered.Table
import CodeAtlas.Proofs.Snapshot.Binary
import Mathlib.Logic.Relation

/-!
# Theory of the snapshot store

What the store holds under a key is what was stored there: looking up adds nothing, storing adds
the entry that is stored, and making folders adds no file. A snapshot that is found is one that
the store holds under the fingerprint that was asked for.

## Architecture

- **Layer A**: single files of a folder;
- **Layer B**: what a folder holds under a key;
- **Layer C**: what a disk holds under a key;
- **Layer D**: what the store does to a disk over time.
-/

namespace CodeAtlas

/-! ## Layer A: files of a folder -/

namespace Folder

variable {f f' : Folder} {name other : String}

theorem stagingName_ne (name : String) (n : Nat) : stagingName name n ≠ name := by
  intro h
  have hlength := congrArg String.length h
  simp only [stagingName, String.length_append] at hlength
  have htag : 0 < (".tmp.10000." : String).length := by decide
  omega

theorem freshName_ne (f : Folder) (name : String) (fuel n : Nat) :
    f.freshName name fuel n ≠ name := by
  induction fuel generalizing n with
  | zero => exact stagingName_ne name n
  | succ fuel ih =>
    simp only [freshName]
    split
    · exact ih (n + 1)
    · exact stagingName_ne name n

theorem get?_rename {source target : String} (h : f.rename source target = .ok f') :
    ∃ e, f.get? source = some e ∧ f'.get? target = some e := by
  unfold Folder.rename at h
  split at h
  · cases h
  · rename_i e he
    split at h
    · cases h
    · obtain rfl := Except.ok.inj h
      exact ⟨e, he, Table.get?_insert_self ..⟩

/-- Under the name at which a file is replaced there is the new content, or what was there. -/
theorem get?_replace (f : Folder) (name : String) (c : Content) :
    (f.replace name c).1.get? name = some (.file c) ∨
      (f.replace name c).1.get? name = f.get? name := by
  unfold replace
  split
  · exact Or.inr rfl
  · -- the name at which it is written first is another one, so clearing it away spares this one
    have hne := f.freshName_ne name f.size 0
    generalize f.freshName name f.size 0 = fresh at hne
    simp only
    cases hrename : Folder.rename (f.insert fresh (.file c)) fresh name with
    | ok f' =>
      obtain ⟨e, he, hget⟩ := get?_rename hrename
      rw [Table.get?_insert_self] at he
      exact Or.inl (hget.trans he.symm)
    | error fault =>
      refine Or.inr ?_
      simp only
      rw [Table.get?_erase_of_ne hne.symm, Table.get?_insert_of_ne hne.symm]

/-- Removing a file leaves no other one at its name. -/
theorem get?_of_discard {e : Entry} (h : (f.discard name).1.get? other = some e) :
    f.get? other = some e := by
  unfold discard at h
  split at h
  · exact h
  · simp only [Table.get?_erase] at h
    split at h
    · cases h
    · exact h
  · exact h

end Folder

/-! ## Layer B: one folder -/

namespace SnapshotStore

variable {h : Hash} {f f' : Folder} {key asked : String} {fp : Fingerprint} {e : StoredSnapshot}

/-- **A folder holds an entry** under a key if there is a file for it that can be used. -/
def Holds (h : Hash) (f : Folder) (key : String) (e : StoredSnapshot) : Prop :=
  ∃ c, f.get? (entryName h key) = some (.file c) ∧ c.size ≤ sizeLimit ∧
    StoredSnapshot.codec.decodeAll? c = some e ∧ e.isOf key = true

theorem Holds.of_files (hfiles : ∀ c, f'.get? (entryName h key) = some (.file c) →
    f.get? (entryName h key) = some (.file c)) (he : Holds h f' key e) : Holds h f key e := by
  obtain ⟨c, hc, hrest⟩ := he
  exact ⟨c, hfiles c hc, hrest⟩

/-- **A snapshot that is found is held** under the fingerprint that was asked for. -/
theorem holds_of_load {s : Snapshot} (hload : (load h f key fp).2 = some s) :
    ∃ e, Holds h f key e ∧ e.fingerprint = fp ∧ e.snapshot = s := by
  unfold load at hload
  simp only at hload
  -- a file is found, small enough, decoded, and about the key and the fingerprint
  split at hload
  · cases hload
  · rename_i c hc
    split at hload
    · cases hload
    · rename_i hsize
      split at hload
      · cases hload
      · rename_i e he
        split at hload
        · cases hload
        · rename_i hkey
          split at hload
          · cases hload
          · rename_i hfp
            refine ⟨e, ⟨c, hc, not_lt.1 hsize, he, ?_⟩, ?_, Option.some.inj hload⟩
            · simpa using hkey
            · simpa using hfp
  · cases hload

/-- What a folder holds after a look-up it held before. -/
theorem holds_of_holds_load (he : Holds h (load h f asked fp).1 key e) : Holds h f key e := by
  refine he.of_files fun c hc => ?_
  have hfolder : (load h f asked fp).1 = f ∨
      (load h f asked fp).1 = (f.discard (entryName h asked)).1 := by
    unfold load
    simp only
    repeat' split
    all_goals first
      | exact Or.inl rfl
      | exact Or.inr rfl
  rcases hfolder with hfolder | hfolder
  · rwa [hfolder] at hc
  · rw [hfolder] at hc
    exact Folder.get?_of_discard hc

theorem lockName_ne_entryName (h : Hash) (key : String) : lockName ≠ entryName h key := by
  intro heq
  have hlist := congrArg (fun s => s.toList.reverse.take 1) heq
  simp [lockName, entryName] at hlist

theorem get?_takeLock (htake : takeLock f = .ok f') :
    f'.get? (entryName h key) = f.get? (entryName h key) := by
  unfold takeLock at htake
  split at htake
  · cases htake
  · obtain rfl := Except.ok.inj htake
    rfl
  · obtain rfl := Except.ok.inj htake
    exact Table.get?_insert_of_ne (lockName_ne_entryName h key).symm f _

/-- What is read from the form of an entry is that entry. -/
theorem eq_of_decodeAll?_encode {e' : StoredSnapshot}
    (hsize : (⟨StoredSnapshot.codec.encode e', 0⟩ : Content).size ≤ sizeLimit)
    (hdecode : StoredSnapshot.codec.decodeAll? ⟨StoredSnapshot.codec.encode e', 0⟩ = some e) :
    e = e' := by
  have hlength : (StoredSnapshot.codec.encode e').length < 256 ^ 8 := by
    simp only [Content.size, sizeLimit] at hsize
    omega
  rw [StoredSnapshot.exact_codec.decodeAll? hlength] at hdecode
  exact (Option.some.inj hdecode).symm

/-- **What a folder holds after storing** is what it held before, or the snapshot that was stored. -/
theorem holds_of_holds_store {savedAt : UInt64} {s : Snapshot}
    (he : Holds h (store h f key fp savedAt s).1 key e) :
    Holds h f key e ∨ e.fingerprint = fp ∧ e.snapshot = s := by
  unfold store at he
  split at he
  · exact Or.inl he
  · rename_i f' htake
    rcases f'.get?_replace (entryName h key)
      ⟨StoredSnapshot.codec.encode (.new key fp savedAt s), 0⟩ with hnew | hold
    · obtain ⟨c, hc, hsize, hdecode, -⟩ := he
      obtain rfl := Entry.file.inj (Option.some.inj (hnew.symm.trans hc))
      obtain rfl := eq_of_decodeAll?_encode hsize hdecode
      exact Or.inr ⟨rfl, rfl⟩
    · refine Or.inl (he.of_files fun c hc => ?_)
      rw [← get?_takeLock htake, ← hold, hc]

end SnapshotStore

/-! ## Layer C: a disk -/

namespace Disk

variable {h : Hash} {d d' d'' : Disk} {p root : Path} {key : String} {fp : Fingerprint}
  {e : StoredSnapshot}

/-- All files of one disk are files of another. -/
def FilesAmong (d' d : Disk) : Prop :=
  ∀ place f name c, d'.folders.get? place = some f → f.get? name = some (.file c) →
    ∃ f', d.folders.get? place = some f' ∧ f'.get? name = some (.file c)

theorem FilesAmong.refl (d : Disk) : FilesAmong d d := fun _ f _ _ hf hc => ⟨f, hf, hc⟩

theorem FilesAmong.trans (hd'' : FilesAmong d'' d') (hd' : FilesAmong d' d) : FilesAmong d'' d := by
  intro place f name c hf hc
  obtain ⟨f', hf', hc'⟩ := hd'' place f name c hf hc
  exact hd' place f' name c hf' hc'

/-- A new folder has no files. -/
theorem filesAmong_put_folder (d : Disk) (place : Place) : FilesAmong (d.put place .folder) d := by
  unfold put
  split
  · rename_i name f hname hf
    intro place' f' name' c hf' hc
    simp only [beq_self_eq_true, if_true, Table.get?_insert] at hf'
    -- the new folder is empty; the one around it has one entry more, which is no file
    split at hf'
    · obtain rfl := Option.some.inj hf'
      cases hc
    · split at hf'
      · rename_i hplace
        obtain rfl := Option.some.inj hf'
        rw [Table.get?_insert] at hc
        split at hc
        · cases hc
        · exact ⟨f, by rw [Std.LawfulEqOrd.eq_of_compare hplace, hf], hc⟩
      · exact ⟨f', hf', hc⟩
  · exact .refl d

theorem filesAmong_makeFolder (hmake : d.makeFolder p = .ok d') : FilesAmong d' d := by
  unfold makeFolder at hmake
  cases hspot : d.locate false p with
  | error fault => simp [hspot, bind, Except.bind] at hmake
  | ok s =>
    simp only [hspot, bind, Except.bind] at hmake
    split at hmake
    · cases hmake
    · obtain rfl := Except.ok.inj hmake
      exact filesAmong_put_folder d s.place

theorem filesAmong_ensureFolder (hmake : d.ensureFolder p = .ok d') : FilesAmong d' d := by
  unfold ensureFolder at hmake
  split at hmake
  · rename_i d₁ hd₁
    obtain rfl := Except.ok.inj hmake
    exact filesAmong_makeFolder hd₁
  · split at hmake
    · obtain rfl := Except.ok.inj hmake
      exact .refl d
    · cases hmake

theorem filesAmong_ensureFrom {ps : List Path} (hmake : d.ensureFrom ps = .ok d') :
    FilesAmong d' d := by
  induction ps generalizing d' with
  | nil =>
    obtain rfl := Except.ok.inj hmake
    exact .refl d
  | cons p outer ih =>
    rw [ensureFrom] at hmake
    split at hmake
    · rename_i d₁ hd₁
      obtain rfl := Except.ok.inj hmake
      exact filesAmong_makeFolder hd₁
    -- the folder around it is missing: that is made first
    · split at hmake
      · cases houter : d.ensureFrom outer with
        | error fault => simp [houter, bind, Except.bind] at hmake
        | ok d₁ =>
          simp only [houter, bind, Except.bind] at hmake
          exact (filesAmong_ensureFolder hmake).trans (ih houter)
      · split at hmake
        · obtain rfl := Except.ok.inj hmake
          exact .refl d
        · cases hmake

/-- Making folders makes no file. -/
theorem filesAmong_makeFolders (hmake : d.makeFolders p = .ok d') : FilesAmong d' d := by
  unfold makeFolders at hmake
  split at hmake
  · obtain rfl := Except.ok.inj hmake
    exact .refl d
  · exact filesAmong_ensureFrom hmake

/-- **A disk holds an entry** under a key if one of its folders does. -/
def Holds (h : Hash) (d : Disk) (key : String) (e : StoredSnapshot) : Prop :=
  ∃ place f, d.folders.get? place = some f ∧ SnapshotStore.Holds h f key e

theorem Holds.of_filesAmong (hfiles : FilesAmong d' d) (he : d'.Holds h key e) : d.Holds h key e := by
  obtain ⟨place, f, hf, c, hc, hrest⟩ := he
  obtain ⟨f', hf', hc'⟩ := hfiles place f _ c hf hc
  exact ⟨place, f', hf', c, hc', hrest⟩

theorem holds_withFolder {place : Place} {f : Folder} (he : (d.withFolder place f).Holds h key e) :
    SnapshotStore.Holds h f key e ∨ d.Holds h key e := by
  obtain ⟨place', f', hf', he'⟩ := he
  simp only [withFolder, Table.get?_insert] at hf'
  split at hf'
  · obtain rfl := Option.some.inj hf'
    exact Or.inl he'
  · exact Or.inr ⟨place', f', hf', he'⟩

/-- What is held by the folder that a path leads to is held by the disk. -/
theorem holds_of_folderAt {place : Place} {f : Folder} (hat : d.folderAt root = .ok (place, f))
    (he : SnapshotStore.Holds h f key e) : d.Holds h key e := by
  unfold folderAt at hat
  cases hspot : d.locate true root with
  | error fault => simp [hspot, bind, Except.bind] at hat
  | ok s =>
    simp only [hspot, bind, Except.bind] at hat
    split at hat
    · cases hat
    · obtain ⟨rfl, rfl⟩ := Prod.mk.inj (Except.ok.inj hat)
      unfold Table.getD at he
      -- a folder that is not recorded is empty, so it holds nothing
      cases hf : d.folders.get? s.place with
      | none =>
        rw [hf] at he
        obtain ⟨c, hc, -⟩ := he
        cases hc
      | some f =>
        rw [hf] at he
        exact ⟨s.place, f, hf, he⟩
    · cases hat

/-- **A snapshot that is found is held** under the fingerprint that was asked for. -/
theorem holds_of_loadSnapshot {s : Snapshot}
    (hload : (d.loadSnapshot h root key fp).2 = some s) :
    ∃ e, d.Holds h key e ∧ e.fingerprint = fp ∧ e.snapshot = s := by
  unfold loadSnapshot at hload
  split at hload
  · cases hload
  · rename_i place f hat
    obtain ⟨e, he, hrest⟩ := SnapshotStore.holds_of_load hload
    exact ⟨e, holds_of_folderAt hat he, hrest⟩

theorem holds_of_holds_loadSnapshot {asked : String}
    (he : (d.loadSnapshot h root asked fp).1.Holds h key e) : d.Holds h key e := by
  unfold loadSnapshot at he
  split at he
  · exact he
  · rename_i place f hat
    rcases holds_withFolder he with he | he
    · exact holds_of_folderAt hat (SnapshotStore.holds_of_holds_load he)
    · exact he

/-- What a disk holds after storing it held before, but for what storing brings into the folder. -/
theorem holds_of_storeSnapshot {asked : String} {savedAt : UInt64} {s : Snapshot} {P : Prop}
    (hfolder : ∀ f, SnapshotStore.Holds h (SnapshotStore.store h f asked fp savedAt s).1 key e →
      SnapshotStore.Holds h f key e ∨ P)
    (he : (d.storeSnapshot h root asked fp savedAt s).1.Holds h key e) : d.Holds h key e ∨ P := by
  unfold storeSnapshot at he
  split at he
  · exact Or.inl he
  · rename_i d₁ hmake
    have hfiles := filesAmong_makeFolders hmake
    split at he
    · exact Or.inl (he.of_filesAmong hfiles)
    · rename_i place f hat
      -- either the folder holds it, or it lies elsewhere and was there before
      rcases holds_withFolder he with he | he
      · refine (hfolder f he).imp_left fun he => ?_
        exact (holds_of_folderAt hat he).of_filesAmong hfiles
      · exact Or.inl (he.of_filesAmong hfiles)

/-- **What a disk holds after storing** is what it held before, or the snapshot that was stored. -/
theorem holds_of_holds_storeSnapshot {savedAt : UInt64} {s : Snapshot}
    (he : (d.storeSnapshot h root key fp savedAt s).1.Holds h key e) :
    d.Holds h key e ∨ e.fingerprint = fp ∧ e.snapshot = s :=
  holds_of_storeSnapshot (fun _ => SnapshotStore.holds_of_holds_store) he

/-! ## Layer D: over time -/

/-- What the store does to a disk, one look-up or one snapshot at a time. -/
inductive StoreStep (h : Hash) (root : Path) (d : Disk) : Disk → Prop
  | load (key : String) (fp : Fingerprint) : StoreStep h root d (d.loadSnapshot h root key fp).1
  | store (key : String) (fp : Fingerprint) (savedAt : UInt64) (s : Snapshot) :
      StoreStep h root d (d.storeSnapshot h root key fp savedAt s).1

/-- **The store leaves some files alone**: whatever it looks up and stores, they read the same. -/
def Untouched (h : Hash) (root : Path) (d : Disk) (files : Set Path) : Prop :=
  ∀ d', Relation.ReflTransGen (StoreStep h root) d d' →
    ∀ p ∈ files, d'.source.readText p = d.source.readText p

/-- Relative paths name nothing on any disk, so the store leaves them alone. -/
theorem untouched_relative (h : Hash) (root : Path) (d : Disk) :
    d.Untouched h root {p | p.isAbsolute = false} := by
  intro d' _ p hp
  have hlocate : d'.locate true p = d.locate true p := by
    unfold locate
    rw [show p.isAbsolute = false from hp]
    simp
  change d'.readText p = d.readText p
  unfold readText Disk.read
  rw [hlocate]

/-- The empty disk holds nothing. -/
theorem not_holds_empty (h : Hash) (key : String) (e : StoredSnapshot) :
    ¬ Disk.empty.Holds h key e := by
  rintro ⟨place, f, hf, c, hc, -⟩
  have hempty : f = Table.empty := by
    unfold Disk.empty Table.ofList at hf
    simp only [List.foldl_cons, List.foldl_nil, Table.get?_insert] at hf
    split at hf
    · exact (Option.some.inj hf).symm
    · cases hf
  rw [hempty] at hc
  cases hc

end Disk

end CodeAtlas

import CodeAtlas.Cache.Store
import CodeAtlas.Proofs.Ordered.Table

/-!
# Where a store lives

A store is found by the path of its folder. Entries come and go in there, and the path should lead
to the folder all the same: it does, unless it runs through that folder on its way. A path of plain
names never does so. Making the folder changes nothing once it is there.

## Architecture

- **Layer A**: paths that lead to a folder whatever is in it;
- **Layer B**: plain paths;
- **Layer C**: folders that are made.
-/

namespace CodeAtlas

namespace Disk

variable {d d' : Disk} {root : Path} {place there : Place} {f : Folder}

/-! ## Layer A: paths that lead to a folder whatever is in it -/

/-- **A path leads to a folder whatever is in it**: no way through that folder itself, so that
entries may come and go there. -/
def Leads (d : Disk) (root : Path) (place : Place) : Prop :=
  ∀ d' : Disk, (∀ q, q ≠ place → d'.folders.get? q = d.folders.get? q) →
    d'.locate true root = .ok ⟨place, some .folder⟩

theorem Leads.of_same (hd : d.Leads root place)
    (hsame : ∀ q, q ≠ place → d'.folders.get? q = d.folders.get? q) : d'.Leads root place :=
  fun d'' hsame' => hd d'' fun q hq => (hsame' q hq).trans (hsame q hq)

theorem Leads.withFolder (hd : d.Leads root place) (f : Folder) :
    (d.withFolder place f).Leads root place :=
  hd.of_same fun _ hq => Table.get?_insert_of_ne hq _ f

theorem Leads.locate (hd : d.Leads root place) :
    d.locate true root = .ok ⟨place, some .folder⟩ :=
  hd d fun _ _ => rfl

theorem Leads.folderAt (hd : d.Leads root place) :
    d.folderAt root = .ok (place, d.folders.getD place Table.empty) := by
  rw [Disk.folderAt, hd.locate]
  rfl

/-! ## Layer B: plain paths -/

/-- A name that a walk goes along. -/
def Walkable (s : String) : Prop := s ≠ "." ∧ s ≠ ".." ∧ s.utf8ByteSize ≤ longestName

/-- A walk along folders ends where the names on the way say. -/
theorem walk_of_folders {follow : Bool} {fuel links : Nat} {start : Place} {names : List String}
    (hfuel : names.length < fuel) (hnames : ∀ s ∈ names, Walkable s)
    (hfolders : ∀ n ≤ names.length, d.entry? (start ++ names.take n) = some .folder) :
    d.walk follow fuel links start names = .ok ⟨start ++ names, some .folder⟩ := by
  obtain ⟨fuel, rfl⟩ : ∃ n, fuel = n + 1 := ⟨fuel - 1, by omega⟩
  -- on the names: each of them is one step, which leads into a folder
  induction names generalizing fuel start with
  | nil =>
    have hhere := hfolders 0 (Nat.le_refl 0)
    simp only [List.take_zero, List.append_nil] at hhere
    rw [walk, hhere, List.append_nil]
  | cons s rest ih =>
    have hhere := hfolders 0 (Nat.zero_le _)
    have hnext := hfolders 1 (by simp)
    simp only [List.take_zero, List.append_nil] at hhere
    simp only [List.take_succ_cons, List.take_zero] at hnext
    obtain ⟨hdot, hdots, hlength⟩ := hnames s List.mem_cons_self
    rw [List.length_cons] at hfuel
    obtain ⟨fuel, rfl⟩ : ∃ n, fuel = n + 1 := ⟨fuel - 1, by omega⟩
    have hrest : d.walk follow (fuel + 1) links (start ++ [s]) rest =
        .ok ⟨start ++ [s] ++ rest, some .folder⟩ := by
      refine ih (fun t ht => hnames t (List.mem_cons_of_mem _ ht)) (fun n hn => ?_) fuel (by omega)
      have hstep := hfolders (n + 1) (by simpa using hn)
      rwa [List.take_succ_cons, List.append_cons] at hstep
    rw [walk, hhere]
    simp only [bne_self_eq_false, Bool.false_eq_true, if_false, beq_iff_eq, hdot, hdots,
      not_lt.2 hlength, hnext]
    rw [hrest, List.append_assoc, List.singleton_append]

/-- **A plain path leads to the folder that it names.** -/
theorem leads_of_steps (hnull : root.text.toList.contains '\x00' = false)
    (hlength : root.text.utf8ByteSize ≤ longestPath) (habsolute : root.isAbsolute = true)
    (hsteps : steps root = place) (hnames : ∀ s ∈ place, Walkable s)
    (hfolders : ∀ n ≤ place.length, d.entry? (place.take n) = some .folder) :
    d.Leads root place := by
  intro d' hsame
  rw [Disk.locate, hnull, habsolute]
  simp only [Bool.false_eq_true, if_false, not_lt.2 hlength, Bool.not_true, hsteps]
  have hwalk : d'.walk true (d'.walkFuel root) mostLinks [] place =
      .ok ⟨[] ++ place, some .folder⟩ := walk_of_folders ?fuel hnames ?folders
  · rwa [List.nil_append] at hwalk
  case fuel =>
    simp only [walkFuel, hsteps]
    omega
  case folders =>
    intro n hn
    rw [List.nil_append, ← hfolders n hn]
    -- what stands at a place is an entry of the folder above it, which is another one
    unfold entry?
    split
    · rfl
    · rename_i last hlast
      have hne : (place.take n).dropLast ≠ place := by
        intro heq
        have hcut : (place.take n).length ≠ 0 := by
          intro hzero
          rw [List.length_eq_zero_iff.1 hzero] at hlast
          cases hlast
        have hlen := congrArg List.length heq
        rw [List.length_dropLast] at hlen
        rw [List.length_take] at hlen hcut
        omega
      rw [hsame _ hne]

/-! ## Layer C: folders that are made -/

/-- Where a walk arrives, one that does not follow a link at the end arrives as well. -/
theorem walk_nofollow {fuel links : Nat} {start : Place} {names : List String} {q : Place}
    {e : Entry} (hwalk : d.walk true fuel links start names = .ok ⟨q, some e⟩) :
    ∃ q' e', d.walk false fuel links start names = .ok ⟨q', some e'⟩ := by
  -- on the fuel: both walks take the same steps, and part at a link in last place only
  induction fuel generalizing links start names with
  | zero => cases hwalk
  | succ fuel ih =>
    cases names with
    | nil => exact ⟨q, e, hwalk⟩
    | cons s rest =>
      rw [walk] at hwalk ⊢
      split at hwalk
      · cases hwalk
      · rename_i hfolder
        rw [if_neg hfolder]
        split at hwalk
        · rename_i hdot
          rw [if_pos hdot]
          exact ih hwalk
        · rename_i hdot
          rw [if_neg hdot]
          split at hwalk
          · rename_i hdots
            rw [if_pos hdots]
            exact ih hwalk
          · rename_i hdots
            rw [if_neg hdots]
            split at hwalk
            · cases hwalk
            · rename_i hlong
              rw [if_neg hlong]
              simp only at hwalk ⊢
              cases hget : d.entry? (start ++ [s]) with
              | none =>
                rw [hget] at hwalk
                simp only at hwalk
                split at hwalk <;> cases hwalk
              | some e' =>
                rw [hget] at hwalk
                cases e' with
                | file c => exact ih hwalk
                | folder => exact ih hwalk
                | link target =>
                  simp only [Bool.not_true, Bool.and_false, Bool.false_eq_true, if_false] at hwalk
                  simp only [Bool.not_false, Bool.and_true]
                  split
                  · exact ⟨_, _, rfl⟩
                  · split at hwalk
                    · cases hwalk
                    · rename_i hlinks
                      rw [if_neg hlinks]
                      exact ih hwalk

/-- Where a path leads, it is absolute, and its end can be looked at without following a link. -/
theorem locate_nofollow {p : Path} {q : Place} {e : Entry}
    (hlocate : d.locate true p = .ok ⟨q, some e⟩) :
    p.isAbsolute = true ∧ ∃ q' e', d.locate false p = .ok ⟨q', some e'⟩ := by
  rw [Disk.locate] at hlocate ⊢
  -- what is refused before the walk is refused either way
  split at hlocate
  · cases hlocate
  · rename_i hnull
    rw [if_neg hnull]
    split at hlocate
    · cases hlocate
    · rename_i hlong
      rw [if_neg hlong]
      split at hlocate
      · cases hlocate
      · rename_i hrelative
        rw [if_neg hrelative]
        exact ⟨by simpa using hrelative, walk_nofollow hlocate⟩

/-- Where a path leads to a folder, no folder is made. -/
theorem Leads.makeFolders (hd : d.Leads root place) : d.makeFolders root = .ok d := by
  obtain ⟨habsolute, q, e, hthere⟩ := locate_nofollow hd.locate
  have htext : root.text.isEmpty = false := by
    by_contra hempty
    rw [Bool.not_eq_false, String.isEmpty_iff] at hempty
    rw [Path.isAbsolute, hempty] at habsolute
    cases habsolute
  have hmake : d.makeFolder root = .error .entryExists := by
    rw [makeFolder, hthere]
    rfl
  have hfolder : d.isFolder root = true := by simp [isFolder, target?, hd.locate]
  -- the path itself is tried first, and there is a folder already
  obtain ⟨outer, houter⟩ : ∃ outer, lineage root.parts.length root = root :: outer := by
    cases root.parts.length with
    | zero => exact ⟨[], rfl⟩
    | succ n =>
      rw [lineage]
      split <;> exact ⟨_, rfl⟩
  rw [Disk.makeFolders, htext, houter, List.filter_cons, htext]
  simp only [Bool.false_eq_true, if_false, Bool.not_false, if_true]
  rw [ensureFrom, hmake]
  simp [IoFault.entryExists, hfolder]

/-- **A path that leads nowhere yet** leads to an empty folder once its folders are made. -/
def Awaits (d : Disk) (root : Path) (place : Place) : Prop :=
  (∀ there, d.folderAt root ≠ .ok there) ∧ ∀ d', d.makeFolders root = .ok d' →
    d'.Leads root place ∧ ∀ name, (d'.folders.getD place Table.empty).get? name = none

/-- **A path is firm** if it leads to one and the same folder whatever is in it, once the folder is
there. -/
def Firm (d : Disk) (root : Path) (place : Place) : Prop := d.Leads root place ∨ d.Awaits root place

theorem Firm.leads (hd : d.Firm root place) (hat : d.folderAt root = .ok (there, f)) :
    d.Leads root place ∧ there = place ∧ f = d.folders.getD place Table.empty := by
  rcases hd with hd | hd
  · rw [hd.folderAt] at hat
    obtain ⟨rfl, rfl⟩ := Prod.mk.inj (Except.ok.inj hat)
    exact ⟨hd, rfl, rfl⟩
  · exact absurd hat (hd.1 _)

end Disk

end CodeAtlas

import CodeAtlas.Overlay.Basic
import CodeAtlas.Proofs.Ordered.Sorting
import CodeAtlas.Proofs.Ordered.Table
import CodeAtlas.Proofs.Path.Normal

/-!
# Theory of the overlay

A change of the buffer of one path shows at the spellings of that path only. However an overlay
spreads its buffers over shards, it answers as a single map from canonical paths to buffers that is
layered over the files below. Each operation normalizes its path and picks a shard on its own; what
holds them together is that every shard keeps only canonical paths, and only those that belong to
it.

## Architecture

- **Layer A**: paths that a change does not reach;
- **Layer B**: calls and answers;
- **Layer C**: the single map;
- **Layer D**: shards that hold what belongs to them;
- **Layer E**: the paths with a buffer;
- **Layer F**: an overlay and a map that show the same buffers;
- **Layer G**: sessions.
-/

namespace CodeAtlas

namespace Overlay

variable {o : Overlay} {p q : Path} {f : Table Path Buffer → Table Path Buffer}

/-! ## Layer A: other paths -/

theorem index_updateShard : (o.updateShard p f).index q = o.index q := by
  unfold updateShard index
  simp

theorem shard_updateShard (o : Overlay) (p : Path) (f : Table Path Buffer → Table Path Buffer)
    (i : Nat) : (o.updateShard p f).shard i = o.shard i ∨
      (o.updateShard p f).shard i = f (o.shard i) := by
  unfold updateShard shard
  simp only [List.getD_eq_getElem?_getD, List.getElem?_modify]
  cases o.shards[i]? with
  | none => exact Or.inl rfl
  | some t =>
    by_cases h : o.index p = i
    · simp [h]
    · simp [h]

/-- What is not changed in any shard is not changed in the overlay. -/
private theorem buffer?_updateShard
    (hf : ∀ t : Table Path Buffer, (f t).get? q.normalize = t.get? q.normalize) :
    (o.updateShard p f).buffer? q = o.buffer? q := by
  unfold buffer?
  rw [index_updateShard]
  rcases shard_updateShard o p f (o.index q.normalize) with h | h
  · rw [h]
  · rw [h, hf]

/-- Paths that are spelled differently in canonical form are told apart. -/
theorem compare_normalize_iff : compare q.normalize p.normalize = .eq ↔ q.normalize = p.normalize :=
  ⟨Path.eq_of_compare q.normalize_normalize p.normalize_normalize,
    fun h => by rw [h]; exact Std.ReflCmp.compare_self⟩

theorem buffer?_put_of_ne (b : Buffer) (h : q.normalize ≠ p.normalize) :
    (o.put p b).buffer? q = o.buffer? q :=
  buffer?_updateShard fun t => by rw [Table.get?_insert, if_neg (mt compare_normalize_iff.1 h)]

theorem buffer?_clear_of_ne (h : q.normalize ≠ p.normalize) :
    (o.clear p).buffer? q = o.buffer? q :=
  buffer?_updateShard fun t => by
    rw [Table.get?_erase, if_neg (mt compare_normalize_iff.1 h.symm)]

/-- Only its own buffer and the file below matter to what a path reads. -/
theorem read_congr {o' : Overlay} {base base' : FileSource} (hbuffer : o'.buffer? q = o.buffer? q)
    (hbase : base'.readText q.normalize = base.readText q.normalize) :
    o'.read base' q = o.read base q := by
  unfold read
  rw [hbuffer, hbase]

/-! ## Layer B: calls and answers -/

/-- **What is asked of an overlay** (`Overlay`). -/
inductive Call where
  | write (p : Path) (text : String)
  | openBuffer (p : Path) (text : String) (version : Int)
  | applyEdits (p : Path) (version : Int) (edits : List BufferEdit)
  | clear (p : Path)
  | read (p : Path)
  | has (p : Path)
  | isOverridden (p : Path)
  | version (p : Path)
  | overridden
  deriving Repr, DecidableEq

/-- **What an overlay answers.** -/
inductive Answer where
  | done
  | flag (b : Bool)
  | text (s : String)
  | version (v : Option Int)
  | paths (ps : List Path)
  | failed (fault : OverlayFault)
  deriving Repr, DecidableEq

/-- The path that a call is about, as it was spelled. -/
def Call.path? : Call → Option Path
  | .write p _ | .openBuffer p _ _ | .applyEdits p _ _ | .clear p | .read p | .has p
  | .isOverridden p | .version p => some p
  | .overridden => none

/-- A change takes effect, or fails and leaves the overlay as it is. -/
def settle (o : Overlay) : Except OverlayFault Overlay → Overlay × Answer
  | .ok o' => (o', .done)
  | .error fault => (o, .failed fault)

/-- **One call**, over the files as they are at that moment. -/
def perform (base : FileSource) (o : Overlay) : Call → Overlay × Answer
  | .write p text => o.settle (o.write p text)
  | .openBuffer p text version => (o.openBuffer p text version, .done)
  | .applyEdits p version edits => o.settle (o.applyEdits p version edits)
  | .clear p => (o.clear p, .flag (o.isOverridden p))
  | .read p =>
    match o.read base p with
    | .ok text => (o, .text text)
    | .error fault => (o, .failed fault)
  | .has p => (o, .flag (o.has base p))
  | .isOverridden p => (o, .flag (o.isOverridden p))
  | .version p => (o, .version (o.version? p))
  | .overridden => (o, .paths o.overridden)

end Overlay

/-! ## Layer C: the single map -/

/-- Buffers by canonical path. -/
abbrev BufferMap := Table Path Buffer

namespace BufferMap

open Overlay (Call Answer)

/-- The buffer that the next text of a path makes, unless its version cannot be counted on. -/
def written? (text : String) : Option Buffer → Option Buffer
  | none => some ⟨text, 0⟩
  | some b => if b.version < Overlay.maxVersion then some ⟨text, b.version + 1⟩ else none

/-- What a path reads below the buffers: a file that is not there is told apart from one that
cannot be read. -/
def readBelow (base : FileSource) (p : Path) : Answer :=
  match base.readText p with
  | .ok text => .text text
  | .error fault =>
    .failed (if fault.kind = .notFound then .notFound p else .unreadable p fault)

/-- **One call to the map.** A call that fails returns the map it was given. -/
def perform (base : FileSource) (m : BufferMap) : Call → BufferMap × Answer
  | .write p text =>
    match written? text (m.get? p.normalize) with
    | some b => (m.insert p.normalize b, .done)
    | none => (m, .failed .versionExhausted)
  | .openBuffer p text version => (m.insert p.normalize ⟨text, version⟩, .done)
  | .applyEdits p version edits =>
    match m.get? p.normalize with
    | none => (m, .failed (.notOpen p.normalize))
    | some b =>
      match b.applyEdits version edits with
      | some b => (m.insert p.normalize b, .done)
      | none => (m, .failed (.outOfBounds p.normalize))
  | .clear p => (m.erase p.normalize, .flag (m.contains p.normalize))
  | .read p =>
    match m.get? p.normalize with
    | some b => (m, .text b.text)
    | none => (m, readBelow base p.normalize)
  | .has p => (m, .flag (m.contains p.normalize || base.has p.normalize))
  | .isOverridden p => (m, .flag (m.contains p.normalize))
  | .version p => (m, .version ((m.get? p.normalize).map (·.version)))
  | .overridden => (m, .paths m.keys)

end BufferMap

namespace Overlay

variable {o : Overlay} {m : BufferMap} {p q : Path} {f : Table Path Buffer → Table Path Buffer}

/-! ## Layer D: shards -/

/-- **Every shard holds what belongs to it**: canonical paths in order, each where the function of
the overlay puts it. -/
structure Spread (o : Overlay) : Prop where
  inhabited : 0 < o.shards.length
  ordered : ∀ i, (o.shard i).Ordered
  home : ∀ i, ∀ q ∈ (o.shard i).keys, q.normalize = q ∧ o.index q = i

theorem shard_updateShard_eq (h : 0 < o.shards.length) (i : Nat) :
    (o.updateShard p f).shard i = if o.index p = i then f (o.shard i) else o.shard i := by
  have hindex : o.index p < o.shards.length := Nat.mod_lt _ h
  unfold updateShard shard
  simp only [List.getD_eq_getElem?_getD, List.getElem?_modify]
  by_cases hi : o.index p = i
  · subst hi
    simp [hindex]
  · simp [hi]

/-- Changing what one path has in its shard leaves every path at home. -/
theorem Spread.updateShard (h : o.Spread) (hp : p.normalize = p)
    (hordered : ∀ t : Table Path Buffer, t.Ordered → (f t).Ordered)
    (hkeys : ∀ t : Table Path Buffer, ∀ q ∈ (f t).keys, q = p ∨ q ∈ t.keys) :
    (o.updateShard p f).Spread where
  inhabited := by simpa [Overlay.updateShard] using h.inhabited
  ordered i := by
    rw [shard_updateShard_eq h.inhabited]
    split
    · exact hordered _ (h.ordered i)
    · exact h.ordered i
  home i q hq := by
    rw [index_updateShard]
    rw [shard_updateShard_eq h.inhabited] at hq
    split at hq
    · rename_i hi
      -- a key of the shard is the path itself, or was at home there before
      rcases hkeys _ q hq with rfl | hq
      · exact ⟨hp, hi⟩
      · exact h.home i q hq
    · exact h.home i q hq

/-- A path sees the change of its own shard, and no other path does. -/
theorem buffer?_updateShard_eq (h : 0 < o.shards.length) :
    (o.updateShard p f).buffer? q =
      if o.index p = o.index q.normalize then (f (o.shard (o.index q.normalize))).get? q.normalize
      else o.buffer? q := by
  unfold buffer?
  rw [index_updateShard, shard_updateShard_eq h]
  split <;> rfl

theorem buffer?_put (h : 0 < o.shards.length) (b : Buffer) :
    (o.put p b).buffer? q = if q.normalize = p.normalize then some b else o.buffer? q := by
  by_cases hq : q.normalize = p.normalize
  · unfold put
    rw [buffer?_updateShard_eq h, hq, if_pos rfl, if_pos rfl, Table.get?_insert_self]
  · rw [if_neg hq, buffer?_put_of_ne b hq]

theorem buffer?_clear (h : 0 < o.shards.length) :
    (o.clear p).buffer? q = if q.normalize = p.normalize then none else o.buffer? q := by
  by_cases hq : q.normalize = p.normalize
  · unfold clear
    rw [buffer?_updateShard_eq h, hq, if_pos rfl, if_pos rfl, Table.get?_erase,
      if_pos Std.ReflCmp.compare_self]
  · rw [if_neg hq, buffer?_clear_of_ne hq]

/-! ## Layer E: the paths with a buffer -/

/-- Among canonical keys a canonical path is found exactly if it is a key. -/
theorem mem_keys_iff_of_canonical {t : Table Path Buffer} (ht : t.Ordered)
    (hkeys : ∀ k ∈ t.keys, k.normalize = k) (hq : q.normalize = q) :
    q ∈ t.keys ↔ (t.get? q).isSome := by
  constructor
  · intro hmem
    obtain ⟨⟨k, b⟩, hb, rfl⟩ := List.mem_map.1 hmem
    rw [ht.get?_of_mem hb]
    rfl
  · intro hsome
    obtain ⟨b, hb⟩ := Option.isSome_iff_exists.1 hsome
    obtain ⟨k, hqk, hmem⟩ := Table.exists_mem_of_get? hb
    have hk : k ∈ t.keys := List.mem_map.2 ⟨_, hmem, rfl⟩
    rw [Path.eq_of_compare hq (hkeys k hk) hqk]
    exact hk

/-- Increasing lists with the same members are the same list. -/
theorem eq_of_increasing {l l' : List Path} (hl : l.Pairwise fun a b => compare a b = .lt)
    (hl' : l'.Pairwise fun a b => compare a b = .lt) (hmem : ∀ q, q ∈ l ↔ q ∈ l') : l = l' := by
  have hnodup : ∀ {k : List Path}, k.Pairwise (fun a b => compare a b = .lt) → k.Nodup := by
    intro k hk
    refine hk.imp ?_
    rintro a b hab rfl
    simp at hab
  have hperm : l.Perm l' := (List.perm_ext_iff_of_nodup (hnodup hl) (hnodup hl')).2 hmem
  refine List.Perm.eq_of_pairwise ?_ hl hl' hperm
  intro a b _ _ hab hba
  have hself : compare a a = .lt := Std.TransCmp.lt_trans hab hba
  simp at hself

/-- Which shards there are, and what their keys are. -/
theorem mem_flatMap_keys : q ∈ o.shards.flatMap Table.keys ↔ ∃ i, q ∈ (o.shard i).keys := by
  rw [List.mem_flatMap]
  constructor
  · rintro ⟨t, ht, hq⟩
    obtain ⟨i, hi⟩ := List.mem_iff_getElem?.1 ht
    refine ⟨i, ?_⟩
    rwa [shard, List.getD_eq_getElem?_getD, hi]
  · rintro ⟨i, hq⟩
    rw [shard, List.getD_eq_getElem?_getD] at hq
    cases hi : o.shards[i]? with
    | none =>
      rw [hi] at hq
      exact absurd hq List.not_mem_nil
    | some t =>
      rw [hi] at hq
      exact ⟨t, List.mem_of_getElem? hi, hq⟩

/-- The listing has every canonical path with a buffer, and no other path. -/
theorem Spread.mem_overridden (h : o.Spread) :
    q ∈ o.overridden ↔ q.normalize = q ∧ (o.buffer? q).isSome := by
  rw [overridden, sortBy_eq, mem_sortUnder, mem_flatMap_keys]
  have hshard : q.normalize = q → (q ∈ (o.shard (o.index q)).keys ↔ (o.buffer? q).isSome) := by
    intro hq
    rw [mem_keys_iff_of_canonical (h.ordered _) (fun k hk => (h.home _ k hk).1) hq, buffer?, hq]
  constructor
  · rintro ⟨i, hi⟩
    obtain ⟨hq, rfl⟩ := h.home i q hi
    exact ⟨hq, (hshard hq).1 hi⟩
  · rintro ⟨hq, hsome⟩
    exact ⟨_, (hshard hq).2 hsome⟩

/-- No path is listed for two shards, nor twice for one. -/
theorem Spread.nodup_keys (h : o.Spread) : (o.shards.flatMap Table.keys).Nodup := by
  have hshard : ∀ {i : Nat} (hi : i < o.shards.length), o.shard i = o.shards[i] := by
    intro i hi
    rw [shard, List.getD_eq_getElem?_getD, List.getElem?_eq_getElem hi]
    rfl
  refine List.nodup_flatMap.2 ⟨?_, List.pairwise_iff_getElem.2 ?_⟩
  · intro t ht
    obtain ⟨i, hi, rfl⟩ := List.getElem_of_mem ht
    rw [← hshard hi]
    exact (h.ordered i).keys_nodup
  · intro i j hi hj hij q hqi hqj
    rw [← hshard hi] at hqi
    rw [← hshard hj] at hqj
    have heq : i = j := (h.home i q hqi).2.symm.trans (h.home j q hqj).2
    omega

/-- **The listing increases strictly.** -/
theorem Spread.overridden_increasing (h : o.Spread) :
    o.overridden.Pairwise fun a b => compare a b = .lt := by
  have hsorted : o.overridden.Pairwise fun a b => (compare a b).isLE := pairwise_sortUnder _
  have hnodup : o.overridden.Nodup := (sortUnder_perm compare _).nodup_iff.2 h.nodup_keys
  refine (hsorted.and hnodup).imp_of_mem ?_
  rintro a b ha hb ⟨hle, hne⟩
  cases hab : compare a b with
  | lt => rfl
  | eq =>
    -- paths of a listing are canonical, so those that compare equal are one
    exact absurd (Path.eq_of_compare (h.mem_overridden.1 ha).1 (h.mem_overridden.1 hb).1 hab) hne
  | gt => simp [hab] at hle

/-! ## Layer F: an overlay and a map -/

/-- **An overlay shows the buffers of a map**, and no others. -/
structure Shows (o : Overlay) (m : BufferMap) : Prop where
  spread : o.Spread
  ordered : m.Ordered
  canonical : ∀ k ∈ m.keys, k.normalize = k
  agrees : ∀ q, o.buffer? q = m.get? q.normalize

theorem shows_empty (shardOf : Path → Nat) {count : Nat} (hcount : 0 < count) :
    (empty shardOf count).Shows Table.empty := by
  -- beyond the last shard there is nothing either
  have hshard : ∀ i, (empty shardOf count).shard i = Table.empty := by
    intro i
    simp only [shard, empty, List.getD_eq_getElem?_getD, List.getElem?_replicate]
    split <;> rfl
  refine ⟨⟨by simpa [empty] using hcount, ?_, ?_⟩, Table.ordered_empty, ?_, ?_⟩
  · intro i
    rw [hshard]
    exact Table.ordered_empty
  · intro i q hq
    rw [hshard] at hq
    exact absurd hq List.not_mem_nil
  · intro k hk
    exact absurd hk List.not_mem_nil
  · intro q
    rw [buffer?, hshard]

/-- Putting a buffer under any spelling of a path puts it under the canonical one. -/
theorem Shows.put (h : o.Shows m) (p : Path) (b : Buffer) :
    (o.put p b).Shows (m.insert p.normalize b) where
  spread := h.spread.updateShard p.normalize_normalize (fun _ ht => ht.insert _ _)
    fun _ _ hq => Table.mem_keys_of_mem_keys_insert hq
  ordered := h.ordered.insert _ _
  canonical k hk := by
    rcases Table.mem_keys_of_mem_keys_insert hk with rfl | hk
    · exact p.normalize_normalize
    · exact h.canonical k hk
  agrees q := by
    rw [buffer?_put h.spread.inhabited, Table.get?_insert, h.agrees]
    simp only [compare_normalize_iff]

/-- Dropping the buffer of any spelling of a path drops it under the canonical one. -/
theorem Shows.clear (h : o.Shows m) (p : Path) : (o.clear p).Shows (m.erase p.normalize) where
  spread := h.spread.updateShard p.normalize_normalize (fun _ ht => ht.erase _)
    fun _ _ hq => Or.inr (Table.mem_keys_of_mem_keys_erase hq)
  ordered := h.ordered.erase _
  canonical k hk := h.canonical k (Table.mem_keys_of_mem_keys_erase hk)
  agrees q := by
    rw [buffer?_clear h.spread.inhabited, Table.get?_erase, h.agrees]
    simp only [compare_normalize_iff, @eq_comm Path q.normalize]

theorem Shows.isOverridden_eq (h : o.Shows m) (p : Path) :
    o.isOverridden p = m.contains p.normalize := by
  rw [isOverridden, h.agrees, Table.contains]

/-- **The listing is the key set of the map.** -/
theorem Shows.overridden_eq (h : o.Shows m) : o.overridden = m.keys := by
  refine eq_of_increasing h.spread.overridden_increasing (List.pairwise_map.2 h.ordered) ?_
  intro q
  rw [h.spread.mem_overridden, h.agrees]
  constructor
  · rintro ⟨hq, hsome⟩
    rw [hq] at hsome
    exact (mem_keys_iff_of_canonical h.ordered h.canonical hq).2 hsome
  · intro hmem
    have hq := h.canonical q hmem
    exact ⟨hq, by rw [hq]; exact (mem_keys_iff_of_canonical h.ordered h.canonical hq).1 hmem⟩

/-- Writing a text comes to putting the buffer that the map would get. -/
theorem write_eq (o : Overlay) (p : Path) (text : String) :
    o.write p text = match BufferMap.written? text (o.buffer? p) with
      | some b => .ok (o.put p b)
      | none => .error .versionExhausted := by
  unfold write
  cases o.buffer? p with
  | none => rfl
  | some b =>
    simp only [BufferMap.written?]
    by_cases hmax : b.version < maxVersion
    · rw [if_pos hmax, if_pos hmax]
    · rw [if_neg hmax, if_neg hmax]

/-- Reading below the buffers gives the answer of the map. -/
theorem read_below (base : FileSource) (hq : o.buffer? p = none) :
    (match o.read base p with
      | .ok text => Answer.text text
      | .error fault => .failed fault) = BufferMap.readBelow base p.normalize := by
  unfold read BufferMap.readBelow
  rw [hq]
  cases hbelow : base.readText p.normalize with
  | ok text => rfl
  | error fault =>
    simp only [OverlayFault.ofIo, beq_iff_eq]

/-- **One call keeps overlay and map together, and both answer alike.** -/
theorem Shows.perform (h : o.Shows m) (base : FileSource) (call : Call) :
    (o.perform base call).1.Shows (BufferMap.perform base m call).1 ∧
      (o.perform base call).2 = (BufferMap.perform base m call).2 := by
  cases call with
  | write p text =>
    simp only [Overlay.perform, BufferMap.perform, write_eq, h.agrees]
    cases BufferMap.written? text (m.get? p.normalize) with
    | none => exact ⟨h, rfl⟩
    | some b => exact ⟨h.put p b, rfl⟩
  | openBuffer p text version => exact ⟨h.put p ⟨text, version⟩, rfl⟩
  | applyEdits p version edits =>
    simp only [Overlay.perform, BufferMap.perform, applyEdits, h.agrees]
    cases m.get? p.normalize with
    | none => exact ⟨h, rfl⟩
    | some b =>
      simp only
      cases b.applyEdits version edits with
      | none => exact ⟨h, rfl⟩
      | some b' => exact ⟨h.put p b', rfl⟩
  | clear p => exact ⟨h.clear p, congrArg Answer.flag (h.isOverridden_eq p)⟩
  | read p =>
    simp only [Overlay.perform, BufferMap.perform]
    cases hbuffer : o.buffer? p with
    | none =>
      -- without a buffer both ask the files below
      have hread := read_below base hbuffer
      rw [h.agrees] at hbuffer
      rw [hbuffer]
      cases hr : o.read base p with
      | ok text => exact ⟨h, by rw [← hread, hr]⟩
      | error fault => exact ⟨h, by rw [← hread, hr]⟩
    | some b =>
      have hr : o.read base p = .ok b.text := by rw [read, hbuffer]
      rw [h.agrees] at hbuffer
      rw [hbuffer, hr]
      exact ⟨h, rfl⟩
  | has p =>
    refine ⟨h, congrArg Answer.flag ?_⟩
    rw [has, h.isOverridden_eq]
  | isOverridden p => exact ⟨h, congrArg Answer.flag (h.isOverridden_eq p)⟩
  | version p =>
    refine ⟨h, congrArg Answer.version ?_⟩
    rw [version?, h.agrees]
  | overridden => exact ⟨h, congrArg Answer.paths h.overridden_eq⟩

/-- A call that fails leaves the overlay as it was. -/
theorem perform_of_failed {base : FileSource} {call : Call} {fault : OverlayFault}
    (hfailed : (o.perform base call).2 = .failed fault) : (o.perform base call).1 = o := by
  -- what is settled keeps the old overlay if it failed
  have hsettle : ∀ r : Except OverlayFault Overlay, (o.settle r).2 = .failed fault →
      (o.settle r).1 = o := by
    intro r hr
    cases r with
    | ok o' => cases hr
    | error fault => rfl
  cases call with
  | write p text => exact hsettle _ hfailed
  | applyEdits p version edits => exact hsettle _ hfailed
  | read p =>
    simp only [perform]
    split <;> rfl
  | openBuffer | clear => cases hfailed
  | has | isOverridden | version | overridden => rfl

/-- A call leaves alone what other paths have. -/
theorem buffer?_perform_of_ne (base : FileSource) {call : Call}
    (hother : ∀ p, call.path? = some p → q.normalize ≠ p.normalize) :
    (o.perform base call).1.buffer? q = o.buffer? q := by
  cases call with
  | write p text =>
    simp only [perform, write_eq]
    cases BufferMap.written? text (o.buffer? p) with
    | none => rfl
    | some b => exact buffer?_put_of_ne b (hother p rfl)
  | openBuffer p text version => exact buffer?_put_of_ne _ (hother p rfl)
  | applyEdits p version edits =>
    simp only [perform, applyEdits]
    cases o.buffer? p with
    | none => rfl
    | some b =>
      simp only
      cases b.applyEdits version edits with
      | none => rfl
      | some b' => exact buffer?_put_of_ne b' (hother p rfl)
  | clear p => exact buffer?_clear_of_ne (hother p rfl)
  | read p =>
    simp only [perform]
    split <;> rfl
  | has | isOverridden | version | overridden => rfl

/-! ## Layer G: sessions -/

/-- Calls one after the other, each with the files as they are then: the last state and all
answers. -/
def replay {σ : Type} (act : FileSource → σ → Call → σ × Answer) (s : σ) :
    List (FileSource × Call) → σ × List Answer
  | [] => (s, [])
  | (base, call) :: rest =>
    let next := act base s call
    let later := replay act next.1 rest
    (later.1, next.2 :: later.2)

/-- **A whole session keeps overlay and map together.** -/
theorem Shows.replay (h : o.Shows m) (session : List (FileSource × Call)) :
    (Overlay.replay Overlay.perform o session).1.Shows
        (Overlay.replay BufferMap.perform m session).1 ∧
      (Overlay.replay Overlay.perform o session).2 =
        (Overlay.replay BufferMap.perform m session).2 := by
  induction session generalizing o m with
  | nil => exact ⟨h, rfl⟩
  | cons step rest ih =>
    obtain ⟨base, call⟩ := step
    obtain ⟨hnext, hanswer⟩ := h.perform base call
    obtain ⟨hlast, hlater⟩ := ih hnext
    exact ⟨hlast, congrArg₂ List.cons hanswer hlater⟩

/-- **An overlay answers as one map.** However paths are spread over however many shards, and
whatever the files below hold at each call, all answers of a session are those of one map from
canonical paths to buffers. The map lists its keys in strictly increasing order, a call that fails
leaves everything as it was, and no call touches what another path has. -/
theorem answers_as_one_map (shardOf : Path → Nat) {count : Nat} (hcount : 0 < count)
    (session : List (FileSource × Call)) :
    let o := replay perform (empty shardOf count) session
    let m := replay BufferMap.perform Table.empty session
    o.2 = m.2 ∧ (∀ q, o.1.buffer? q = m.1.get? q.normalize) ∧
      (m.1.keys.Pairwise fun a b => compare a b = .lt) ∧
      (∀ q, q ∈ m.1.keys ↔ q.normalize = q ∧ (o.1.buffer? q).isSome) ∧
      ∀ base call,
        (∀ fault, (o.1.perform base call).2 = .failed fault →
          (o.1.perform base call).1 = o.1) ∧
        ∀ q, (∀ p, call.path? = some p → q.normalize ≠ p.normalize) →
          (o.1.perform base call).1.buffer? q = o.1.buffer? q := by
  intro o m
  obtain ⟨hshows, hanswers⟩ := (shows_empty shardOf hcount).replay session
  refine ⟨hanswers, hshows.agrees, List.pairwise_map.2 hshows.ordered, ?_, ?_⟩
  · intro q
    rw [← hshows.overridden_eq, hshows.spread.mem_overridden]
  · intro base call
    exact ⟨fun fault => perform_of_failed, fun q => buffer?_perform_of_ne base⟩

/-- A source without files. -/
def noFiles : FileSource := ⟨fun _ => .error .absent, fun _ => false⟩

/-- One file under several spellings, up to the largest version; then a file that is nowhere. -/
def spelledSession : List (FileSource × Call) :=
  [.write ⟨"src/./a/../b.rs"⟩ "one", .read ⟨"src//b.rs"⟩, .write ⟨"src/b.rs"⟩ "two",
    .version ⟨"src/b.rs/"⟩, .openBuffer ⟨"src/b.rs"⟩ "three" maxVersion,
    .write ⟨"src/x/../b.rs"⟩ "four", .read ⟨"src/b.rs"⟩, .read ⟨"src/../c.rs"⟩, .overridden].map
    fun call => (noFiles, call)

/-- Sixteen shards answer as one map does: the write behind the largest version fails and leaves
the text that was there. -/
theorem spelledSession_answers :
    0 < 16 ∧ (replay perform (empty scatter 16) spelledSession).2 =
      [.done, .text "one", .done, .version (some 1), .done, .failed .versionExhausted,
        .text "three", .failed (.notFound ⟨"c.rs"⟩), .paths [⟨"src/b.rs"⟩]] := by
  refine ⟨by decide, ?_⟩
  rw [(answers_as_one_map scatter (by decide) spelledSession).1]
  decide +kernel

end Overlay

end CodeAtlas

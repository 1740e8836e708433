import CodeAtlas.Proofs.Project.Order

/-!
# What a change affects

A change of some units concerns the members of the workspace that depend on them. The units
concerned are found by a walk from the changed units to their dependents. Only members are walked
through, so a member that reaches a changed unit through a unit outside the workspace alone is not
found.

## Architecture

- **Layer A**: the members of a project, and which of them a change is said to concern;
- **Layer B**: the walk, for as long as it takes, and that it ends;
- **Layer C**: what a walk finds;
- **Layer D**: the main result, and the members it misses.
-/

namespace CodeAtlas

open Relation (TransGen)

/-! ## Layer A: members -/

namespace ProjectModel

/-- A unit is declared as a member of the workspace. -/
def HasMember (m : ProjectModel) (u : UnitId) : Prop := ∃ c ∈ m.units, c.id = u ∧ c.member = true

/-- A member lists a unit as a dependency. -/
def MemberDependsOn (m : ProjectModel) (u d : UnitId) : Prop := m.HasMember u ∧ m.DependsOn u d

/-- **The units to rebuild**: the known units that changed, and every member that depends on one of
them through any chain of dependencies. -/
def NeedsRebuild (m : ProjectModel) (dirty : KeySet UnitId) (u : UnitId) : Prop :=
  (u ∈ dirty.toList ∧ u ∈ m.units.map (·.id)) ∨
    (m.HasMember u ∧ ∃ d ∈ dirty.toList, TransGen m.DependsOn u d)

/-- No member depends on a unit outside the workspace that a change would have to pass through:
one that did not change itself but depends on a unit that did. -/
def Direct (m : ProjectModel) (dirty : KeySet UnitId) : Prop :=
  ∀ u v d, m.MemberDependsOn u v → TransGen m.DependsOn v d → d ∈ dirty.toList →
    m.HasMember v ∨ v ∈ dirty.toList

variable {m : ProjectModel} {dirty : KeySet UnitId} {u d : UnitId}

/-- A chain of members is a chain. -/
theorem dependsOn_of_memberDependsOn (h : TransGen m.MemberDependsOn u d) :
    TransGen m.DependsOn u d := by
  have hstep : ∀ v w, m.MemberDependsOn v w → m.DependsOn v w := fun _ _ hvw => hvw.2
  exact TransGen.mono hstep u d h

/-- The unit a chain of members starts from is a member. -/
theorem hasMember_of_memberDependsOn (h : TransGen m.MemberDependsOn u d) : m.HasMember u := by
  obtain ⟨v, hstep, -⟩ := TransGen.head'_iff.1 h
  exact hstep.1

/-- Without units to pass through, a member that depends on a changed unit does so through
members. -/
theorem Direct.memberDependsOn (h : m.Direct dirty) (hu : m.HasMember u) (hd : d ∈ dirty.toList)
    (hud : TransGen m.DependsOn u d) : ∃ e ∈ dirty.toList, TransGen m.MemberDependsOn u e := by
  -- along the chain: at each unit the walk goes on or has met a changed unit
  induction hud using TransGen.head_induction_on with
  | single hstep => exact ⟨d, hd, .single ⟨hu, hstep⟩⟩
  | @head u v hstep hrest ih =>
    rcases h u v d ⟨hu, hstep⟩ hrest hd with hmember | hdirty
    · obtain ⟨e, he, hchain⟩ := ih hmember
      exact ⟨e, he, .head ⟨hu, hstep⟩ hchain⟩
    · exact ⟨v, hdirty, .single ⟨hu, hstep⟩⟩

end ProjectModel

namespace UnitGraph

variable {m : ProjectModel} {g : UnitGraph} {dirty found out : KeySet UnitId}
  {stack : List UnitId} {u d : UnitId}

/-- The members of a graph are those of its model. -/
theorem isMember_iff (h : ofModel m = .ok g) : g.isMember u = true ↔ m.HasMember u := by
  unfold isMember
  constructor
  · intro hmember
    obtain ⟨c, hget, hc⟩ := (Option.any_eq_true _ _).1 hmember
    obtain ⟨e, he, hid, rfl⟩ := (unit?_ofModel h).1 hget
    exact ⟨e, he, hid, hc⟩
  · rintro ⟨c, hc, hid, hmember⟩
    have hget : g.unit? u = some (normalizeUnit c) := (unit?_ofModel h).2 ⟨c, hc, hid, rfl⟩
    rw [hget]
    exact hmember

/-- The known units of a graph are those its model declares. -/
theorem mem_known_iff (h : ofModel m = .ok g) :
    u ∈ (g.known dirty).toList ↔ u ∈ dirty.toList ∧ u ∈ m.units.map (·.id) := by
  have hcontains : g.units.contains u = true ↔ u ∈ m.units.map (·.id) := by
    rw [Table.contains, Option.isSome_iff_exists]
    constructor
    · rintro ⟨c, hget⟩
      obtain ⟨e, he, hid, -⟩ := (unit?_ofModel h).1 hget
      exact List.mem_map.2 ⟨e, he, hid⟩
    · intro hu
      obtain ⟨c, hc, hid⟩ := List.mem_map.1 hu
      exact ⟨normalizeUnit c, (unit?_ofModel h).2 ⟨c, hc, hid, rfl⟩⟩
  exact List.mem_filter.trans (and_congr_right' hcontains)

/-! ## Layer B: the walk -/

/-- The members that depend directly on a unit and are not found yet. -/
def freshDependents (g : UnitGraph) (found : KeySet UnitId) (id : UnitId) : List UnitId :=
  (g.dependentsOf id).filter fun d => g.isMember d && !found.contains d

/-- **Visiting units until none is left**, for as long as it takes: every unit that is visited adds
the members that depend on it, and these are visited in turn. -/
inductive Walk (g : UnitGraph) : KeySet UnitId → List UnitId → KeySet UnitId → Prop
  | done {found : KeySet UnitId} : Walk g found [] found
  | visit {found out : KeySet UnitId} {id : UnitId} {stack : List UnitId}
      (hrest : Walk g (found.insertAll (g.freshDependents found id))
        (g.freshDependents found id ++ stack) out) : Walk g found (id :: stack) out

theorem mem_freshDependents (hg : g.Linked) :
    u ∈ g.freshDependents found d ↔
      (g.isMember u = true ∧ d ∈ g.depsOf u) ∧ u ∉ found.toList := by
  unfold freshDependents
  rw [List.mem_filter, hg.dependents_iff, Bool.and_eq_true, Bool.not_eq_true', ← Bool.not_eq_true,
    KeySet.contains_iff]
  tauto

/-- Members are units of the graph. -/
theorem Linked.mem_unitIds_of_isMember (hg : g.Linked) (h : g.isMember u = true) :
    u ∈ g.unitIds.toList := by
  apply hg.contains_iff.1
  obtain ⟨c, hget, -⟩ := (Option.any_eq_true _ _).1 h
  exact Option.isSome_iff_exists.2 ⟨c, hget⟩

/-- Every member that a visit adds was not there before. -/
theorem size_insertAll_freshDependents (hg : g.Linked) (hfound : found.Ordered) (d : UnitId) :
    (found.insertAll (g.freshDependents found d)).size =
      (g.freshDependents found d).length + found.size := by
  have hnodup : (g.freshDependents found d ++ found.toList).Nodup := by
    refine List.nodup_append.2 ⟨(hg.dependents_nodup d).filter _, hfound.nodup, ?_⟩
    rintro u hu v hv rfl
    exact ((mem_freshDependents hg).1 hu).2 hv
  have hperm : (found.insertAll (g.freshDependents found d)).toList.Perm
      (g.freshDependents found d ++ found.toList) := by
    apply (List.perm_ext_iff_of_nodup (hfound.insertAll _).nodup hnodup).2
    intro u
    rw [KeySet.mem_insertAll, List.mem_append]
  simpa [KeySet.size] using hperm.length_eq

/-- **The walk ends.** A unit is visited only once after it was found, so there are at most as many
visits as units on the stack and units that are not found yet. -/
theorem walk_spread (hg : g.Linked) {fuel : Nat} (hfound : found.Ordered)
    (hknown : ∀ u ∈ found.toList, u ∈ g.unitIds.toList)
    (hfuel : stack.length + g.units.size ≤ fuel + found.size) :
    g.Walk found stack (g.spread fuel found stack) := by
  induction fuel generalizing found stack with
  | zero =>
    -- all units are found, so nothing is on the stack
    have hle : found.size ≤ g.unitIds.toList.length :=
      List.Subperm.length_le (List.subperm_of_subset hfound.nodup hknown)
    have hsize : g.unitIds.toList.length = g.units.size := by
      simp [unitIds, Table.keys, Table.size]
    have hstack : stack = [] := List.length_eq_zero_iff.1 (by omega)
    subst hstack
    exact .done
  | succ fuel ih =>
    cases stack with
    | nil => exact .done
    | cons id stack =>
      apply Walk.visit
      apply ih (hfound.insertAll _)
      · intro u hu
        rcases KeySet.mem_insertAll.1 hu with hfresh | hold
        · exact hg.mem_unitIds_of_isMember ((mem_freshDependents hg).1 hfresh).1.1
        · exact hknown u hold
      · rw [size_insertAll_freshDependents hg hfound]
        simp only [List.length_append, List.length_cons] at hfuel ⊢
        omega

/-! ## Layer C: what a walk finds -/

/-- What is found stays found. -/
theorem Walk.subset (h : g.Walk found stack out) (hu : u ∈ found.toList) : u ∈ out.toList := by
  induction h with
  | done => exact hu
  | visit _ ih => exact ih (KeySet.mem_insertAll.2 (Or.inr hu))

/-- **One property of all units found**: it passes from a unit to the members that depend on it. -/
theorem Walk.forall_mem {P : UnitId → Prop} (h : g.Walk found stack out) (hg : g.Linked)
    (hstep : ∀ d u, P d → g.isMember u = true → d ∈ g.depsOf u → P u)
    (hfound : ∀ u ∈ found.toList, P u) (hstack : ∀ u ∈ stack, P u) : ∀ u ∈ out.toList, P u := by
  induction h with
  | done => exact hfound
  | @visit found out id stack _ ih =>
    have hid : P id := hstack id (List.mem_cons_self ..)
    -- a unit is found as a member that depends on one on the stack
    have hfresh : ∀ u ∈ g.freshDependents found id, P u := by
      intro u hu
      obtain ⟨⟨hmember, hdep⟩, -⟩ := (mem_freshDependents hg).1 hu
      exact hstep id u hid hmember hdep
    apply ih
    · intro u hu
      rcases KeySet.mem_insertAll.1 hu with hu | hu
      · exact hfresh u hu
      · exact hfound u hu
    · intro u hu
      rcases List.mem_append.1 hu with hu | hu
      · exact hfresh u hu
      · exact hstack u (List.mem_cons_of_mem _ hu)

/-- **Nothing is left out**: if the members that depend on a unit are found already unless the unit
is still to be visited, then at the end they are found for every unit. -/
theorem Walk.closed (h : g.Walk found stack out) (hg : g.Linked)
    (hpending : ∀ d ∈ found.toList, d ∈ stack ∨
      ∀ u, g.isMember u = true → d ∈ g.depsOf u → u ∈ found.toList) :
    ∀ d ∈ out.toList, ∀ u, g.isMember u = true → d ∈ g.depsOf u → u ∈ out.toList := by
  induction h with
  | done => exact fun d hd => (hpending d hd).resolve_left (List.not_mem_nil)
  | @visit found out id stack _ ih =>
    apply ih
    intro d hd
    rcases KeySet.mem_insertAll.1 hd with hfresh | hold
    · exact Or.inl (List.mem_append_left _ hfresh)
    by_cases hid : d = id
    · -- the unit that is visited is the one whose dependents are added
      subst hid
      refine Or.inr fun u hmember hdep => KeySet.mem_insertAll.2 ?_
      by_cases hu : u ∈ found.toList
      · exact Or.inr hu
      · exact Or.inl ((mem_freshDependents hg).2 ⟨⟨hmember, hdep⟩, hu⟩)
    · rcases hpending d hold with hstack | hfound
      · have hrest : d ∈ stack := (List.mem_cons.1 hstack).resolve_left hid
        exact Or.inl (List.mem_append_right _ hrest)
      · exact Or.inr fun u hmember hdep =>
          KeySet.mem_insertAll.2 (Or.inr (hfound u hmember hdep))

/-- A walk from units finds them and the members that depend on them through members. -/
theorem Walk.mem_iff (h : ofModel m = .ok g) (hwalk : g.Walk found found.toList out) :
    u ∈ out.toList ↔ u ∈ found.toList ∨ ∃ d ∈ found.toList, TransGen m.MemberDependsOn u d := by
  have hg := (sound_ofModel h).toLinked
  have hstep : ∀ u d, m.MemberDependsOn u d ↔ g.isMember u = true ∧ d ∈ g.depsOf u := by
    intro u d
    obtain ⟨hvalid, hassemble, -⟩ := ofModel_eq_ok_iff.1 h
    have hdeps : d ∈ g.depsOf u ↔ m.DependsOn u d := by
      rw [hassemble]
      exact mem_depsOf_assemble hvalid
    rw [isMember_iff h, hdeps]
    rfl
  constructor
  · -- soundness: being reached passes from a unit to the members that depend on it
    apply hwalk.forall_mem (P := fun u => u ∈ found.toList ∨
      ∃ d ∈ found.toList, TransGen m.MemberDependsOn u d) hg
    · rintro d u hd hmember hdep
      have hud : m.MemberDependsOn u d := (hstep u d).2 ⟨hmember, hdep⟩
      rcases hd with hfound | ⟨e, he, hchain⟩
      · exact Or.inr ⟨d, hfound, .single hud⟩
      · exact Or.inr ⟨e, he, .head hud hchain⟩
    · exact fun u hu => Or.inl hu
    · exact fun u hu => Or.inl hu
  · -- completeness: what is found is closed under the dependents that are members
    have hclosed := hwalk.closed hg fun d hd => Or.inl hd
    rintro (hfound | ⟨d, hd, hchain⟩)
    · exact hwalk.subset hfound
    · induction hchain using TransGen.head_induction_on with
      | single hlast =>
        obtain ⟨hmember, hdep⟩ := (hstep _ _).1 hlast
        exact hclosed d (hwalk.subset hd) _ hmember hdep
      | head hfirst _ ih =>
        obtain ⟨hmember, hdep⟩ := (hstep _ _).1 hfirst
        exact hclosed _ ih _ hmember hdep

/-! ## Layer D: affected units -/

/-- **What a change affects.** In an accepted graph, for every set of changed units:
- the walk from the changed units to their dependents ends, and its units come in order;
- it finds the known units that changed and the members that depend on one of them through members,
  and nothing else; all of these are units to rebuild;
- it finds all units to rebuild unless a member depends on a unit outside the workspace that did
  not change itself but depends on a unit that did. -/
theorem affected_closes_over_members (h : ofModel m = .ok g) (hdirty : dirty.Ordered) :
    g.Walk (g.known dirty) (g.known dirty).toList (g.affected dirty) ∧
    (g.affected dirty).Ordered ∧
    (∀ u, u ∈ (g.affected dirty).toList ↔
      (u ∈ dirty.toList ∧ u ∈ m.units.map (·.id)) ∨
        ∃ d ∈ dirty.toList, TransGen m.MemberDependsOn u d) ∧
    (∀ u ∈ (g.affected dirty).toList, m.NeedsRebuild dirty u) ∧
    (m.Direct dirty → ∀ u, u ∈ (g.affected dirty).toList ↔ m.NeedsRebuild dirty u) := by
  have hg := (sound_ofModel h).toLinked
  have hwalk : g.Walk (g.known dirty) (g.known dirty).toList (g.affected dirty) := by
    apply walk_spread hg (hdirty.filter _)
    · exact fun u hu => hg.contains_iff.1 (List.mem_filter.1 hu).2
    · show (g.known dirty).size + g.units.size ≤ g.units.size + 1 + (g.known dirty).size
      omega
  have hmem : ∀ u, u ∈ (g.affected dirty).toList ↔
      (u ∈ dirty.toList ∧ u ∈ m.units.map (·.id)) ∨
        ∃ d ∈ dirty.toList, TransGen m.MemberDependsOn u d := by
    intro u
    rw [hwalk.mem_iff h, mem_known_iff h]
    refine or_congr_right ⟨?_, ?_⟩
    · rintro ⟨d, hd, hchain⟩
      exact ⟨d, ((mem_known_iff h).1 hd).1, hchain⟩
    · rintro ⟨d, hd, hchain⟩
      -- what something depends on is known, since the model is valid
      obtain ⟨v, -, hlast⟩ := TransGen.tail'_iff.1 hchain
      obtain ⟨hvalid, -, -⟩ := ofModel_eq_ok_iff.1 h
      have hdeclared := (ProjectModel.validate_eq_ok_iff.1 hvalid).2 v d hlast.2
      exact ⟨d, (mem_known_iff h).2 ⟨hd, hdeclared⟩, hchain⟩
  have hneeds : ∀ u ∈ (g.affected dirty).toList, m.NeedsRebuild dirty u := by
    intro u hu
    rcases (hmem u).1 hu with hchanged | ⟨d, hd, hchain⟩
    · exact Or.inl hchanged
    · exact Or.inr ⟨ProjectModel.hasMember_of_memberDependsOn hchain, d, hd,
        ProjectModel.dependsOn_of_memberDependsOn hchain⟩
  refine ⟨hwalk, (affected_known hg hdirty).1, hmem, hneeds, ?_⟩
  intro hdirect u
  refine ⟨hneeds u, ?_⟩
  rintro (hchanged | ⟨hmember, d, hd, hchain⟩)
  · exact (hmem u).2 (Or.inl hchanged)
  · exact (hmem u).2 (Or.inr (hdirect.memberDependsOn hmember hd hchain))

/-- A tool `app` on a unit `codec`, which is built on `bytes`; `app` is the workspace, and `codec`
belongs to it if `inside` says so. -/
def codecModel (inside : Bool) : ProjectModel :=
  { root := ⟨"/w"⟩
    units := [{ CompilationUnit.new (.lib "app") ⟨"/w/app/lib.rs"⟩ with deps := [.lib "codec"] },
      { CompilationUnit.new (.lib "codec") ⟨"/w/codec/lib.rs"⟩ with
        deps := [.lib "bytes"], member := inside },
      { CompilationUnit.new (.lib "bytes") ⟨"/v/bytes/lib.rs"⟩ with member := false }]
    manifests := []
    buildScriptFiles := [] }

/-- A change outside the workspace reaches both members; a unit that the graph does not have is
left out. -/
theorem bytes_affect_members :
    let g := assemble (codecModel true)
    let dirty : KeySet UnitId := ⟨[.lib "bytes", .lib "zip"]⟩
    g.affected dirty = ⟨[.lib "app", .lib "bytes", .lib "codec"]⟩ ∧
      ∀ u, u ∈ (g.affected dirty).toList ↔ (codecModel true).NeedsRebuild dirty u := by
  intro g dirty
  have hmodel : ofModel (codecModel true) = .ok g := by decide +kernel
  have hdirty : dirty.Ordered := by
    unfold KeySet.Ordered
    decide +kernel
  obtain ⟨-, -, -, -, hexact⟩ := affected_closes_over_members hmodel hdirty
  refine ⟨by decide +kernel, hexact ?_⟩
  -- the only unit outside the workspace changed itself
  rintro u v d ⟨-, c, hc, -, hv⟩ - -
  have hcases : v = .lib "codec" ∨ v = .lib "bytes" := by
    simp only [codecModel, List.mem_cons, List.not_mem_nil, or_false] at hc
    rcases hc with rfl | rfl | rfl
    · exact Or.inl (List.mem_singleton.1 hv)
    · exact Or.inr (List.mem_singleton.1 hv)
    · cases hv
  rcases hcases with rfl | rfl
  · exact Or.inl ⟨_, List.mem_cons_of_mem _ (List.mem_cons_self ..), rfl, rfl⟩
  · exact Or.inr (List.mem_cons_self ..)

/-- **A member behind a unit outside the workspace is missed**: `app` depends on `bytes` through
`codec`, and is not affected by its change. -/
theorem codec_hides_bytes :
    let g := assemble (codecModel false)
    let dirty : KeySet UnitId := ⟨[.lib "bytes"]⟩
    ofModel (codecModel false) = .ok g ∧ (codecModel false).NeedsRebuild dirty (.lib "app") ∧
      g.affected dirty = ⟨[.lib "bytes"]⟩ ∧
      ¬ ∀ u, u ∈ (g.affected dirty).toList ↔ (codecModel false).NeedsRebuild dirty u := by
  intro g dirty
  have haffected : g.affected dirty = ⟨[.lib "bytes"]⟩ := by decide +kernel
  -- the chain of dependencies leads over a unit that is no member
  have happ : (codecModel false).DependsOn (.lib "app") (.lib "codec") :=
    ⟨_, List.mem_cons_self .., rfl, List.mem_cons_self ..⟩
  have hcodec : (codecModel false).DependsOn (.lib "codec") (.lib "bytes") :=
    ⟨_, List.mem_cons_of_mem _ (List.mem_cons_self ..), rfl, List.mem_cons_self ..⟩
  have hneeds : (codecModel false).NeedsRebuild dirty (.lib "app") :=
    Or.inr ⟨⟨_, List.mem_cons_self .., rfl, rfl⟩, .lib "bytes", List.mem_cons_self ..,
      .head happ (.single hcodec)⟩
  refine ⟨by decide +kernel, hneeds, haffected, ?_⟩
  intro hall
  have hmem := (hall (.lib "app")).2 hneeds
  rw [haffected] at hmem
  exact absurd hmem (by decide +kernel)

end UnitGraph

end CodeAtlas

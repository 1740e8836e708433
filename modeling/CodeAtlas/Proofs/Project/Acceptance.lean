import CodeAtlas.Proofs.Project.Graph

/-!
# Accepted projects

Which models have a graph. The units of an accepted model can be put in order, so a model is
accepted only if it is well-formed. The converse fails at one point: dependencies are counted as
often as a unit lists them, but are counted down once per dependent, so a unit that lists a
dependency twice is never ready and passes for a unit on a circle.
-/

namespace CodeAtlas

namespace UnitGraph

variable {m : ProjectModel} {g : UnitGraph} {u d : UnitId}

/-- In the graph of a valid model all dependencies count. -/
theorem mem_depsWithin_assemble (h : m.validate = .ok ()) :
    d ∈ (assemble m).depsWithin u (assemble m).unitIds ↔ m.DependsOn u d := by
  rw [mem_depsWithin, mem_depsOf_assemble h]
  refine and_iff_left_of_imp ?_
  intro hud
  have hknown := (ProjectModel.validate_eq_ok_iff.1 h).2 u d hud
  obtain ⟨c, hc, hid⟩ := List.mem_map.1 hknown
  apply (linked_assemble h).contains_iff.1
  have hget := (unit?_assemble h).2 ⟨c, hc, hid, rfl⟩
  unfold unit? at hget
  simp [Table.contains, hget]

/-- A unit that is declared in an accepted model lists no dependency twice. -/
theorem deps_nodup_of_ofModel (h : ofModel m = .ok g) {c : CompilationUnit} (hc : c ∈ m.units) :
    c.deps.Nodup := by
  obtain ⟨hvalid, rfl, -⟩ := ofModel_eq_ok_iff.1 h
  have hget := (unit?_assemble hvalid).2 ⟨c, hc, rfl, rfl⟩
  have hdeps : (assemble m).depsOf c.id = c.deps := by
    simp [depsOf, hget, normalizeUnit]
  -- all of them count, so the list that is counted is the list of the unit
  have hall : (assemble m).depsWithin c.id (assemble m).unitIds = c.deps := by
    rw [depsWithin_eq, hdeps, List.filter_eq_self]
    intro d hd
    rw [KeySet.contains_iff]
    exact (mem_depsWithin.1 ((mem_depsWithin_assemble hvalid).2 ⟨c, hc, rfl, hd⟩)).2
  have hsound := sound_ofModel h
  exact hall ▸ hsound.deps_nodup c.id

theorem wellFormed_of_ofModel (h : ofModel m = .ok g) : m.WellFormed := by
  have hsound := sound_ofModel h
  obtain ⟨hvalid, rfl, -⟩ := ofModel_eq_ok_iff.1 h
  obtain ⟨hnodup, hknown⟩ := ProjectModel.validate_eq_ok_iff.1 hvalid
  obtain ⟨rank, hrank⟩ := hsound.ranked
  refine ⟨hnodup, hknown, ?_⟩
  refine ProjectModel.acyclic_of_rank rank fun u d hud => ?_
  exact hrank u d ((mem_depsWithin_assemble hvalid).2 hud)

/-- A well-formed model has a sound graph if nothing is listed twice. -/
theorem sound_assemble (h : m.WellFormed) (hdeps : ∀ c ∈ m.units, c.deps.Nodup) :
    (assemble m).Sound := by
  have hvalid := ProjectModel.validate_eq_ok_iff.2 ⟨h.nodup, h.known⟩
  obtain ⟨rank, hrank⟩ := h.exists_rank
  refine ⟨linked_assemble hvalid, ?_, rank, ?_⟩
  · intro u
    -- what a unit depends on is what its declaration lists, and that has no repeats
    rw [depsWithin_eq]
    apply List.Nodup.filter
    unfold depsOf
    cases hget : (assemble m).unit? u with
    | none => exact List.nodup_nil
    | some n =>
      obtain ⟨c, hc, -, rfl⟩ := (unit?_assemble hvalid).1 hget
      exact hdeps c hc
  · intro u d hd
    exact hrank u d ((mem_depsWithin_assemble hvalid).1 hd)

/-- Of a sound graph all units can be put in order. -/
theorem Sound.length_topoOrder (hg : g.Sound) :
    (g.topoOrder g.unitIds).length = g.units.size := by
  have hperm := hg.topoOrder_perm hg.toLinked.unitIds_ordered fun u hu => hu
  rw [hperm.length_eq]
  simp [unitIds, Table.keys, Table.size]

/-- Validation finds no circle, whatever it finds. -/
private theorem validate_ne_cycle (m : ProjectModel) : m.validate ≠ .error .cycle := by
  simp only [ProjectModel.validate]
  cases ProjectModel.firstRepeated [] (m.units.map (·.id)) with
  | some u => simp
  | none =>
    cases hfault : m.units.findSome? (ProjectModel.firstUnknown (m.units.map (·.id))) with
    | none => simp
    | some fault =>
      obtain ⟨c, -, hc⟩ := List.exists_of_findSome?_eq_some hfault
      obtain ⟨d, -, rfl⟩ := Option.map_eq_some_iff.1 hc
      simp

/-- A model is refused for a circle if it is valid and not accepted. -/
theorem ofModel_eq_cycle_iff :
    ofModel m = .error .cycle ↔ m.validate = .ok () ∧ ¬ ∃ g, ofModel m = .ok g := by
  have hinvalid := validate_ne_cycle m
  unfold ofModel
  cases hvalid : m.validate with
  | error fault =>
    rw [hvalid] at hinvalid
    simpa [bind, Except.bind] using hinvalid
  | ok _ =>
    simp only [bind, Except.bind, true_and]
    split
    · simp [pure, Except.pure]
    · simp [throw, throwThe, MonadExceptOf.throw]

/-- **A project is accepted if and only if** it is well-formed and none of its units lists a
dependency twice. A valid project that is not accepted is refused for a circle, whether it has one
or not. -/
theorem ofModel_accepts_iff (m : ProjectModel) :
    ((∃ g, ofModel m = .ok g) ↔ m.WellFormed ∧ ∀ c ∈ m.units, c.deps.Nodup) ∧
      (ofModel m = .error .cycle ↔ m.validate = .ok () ∧
        ((∃ u, Relation.TransGen m.DependsOn u u) ∨ ∃ c ∈ m.units, ¬ c.deps.Nodup)) := by
  have haccepts : (∃ g, ofModel m = .ok g) ↔ m.WellFormed ∧ ∀ c ∈ m.units, c.deps.Nodup := by
    constructor
    · rintro ⟨g, h⟩
      exact ⟨wellFormed_of_ofModel h, fun c hc => deps_nodup_of_ofModel h hc⟩
    · rintro ⟨h, hdeps⟩
      have hvalid := ProjectModel.validate_eq_ok_iff.2 ⟨h.nodup, h.known⟩
      have hlength := (sound_assemble h hdeps).length_topoOrder
      exact ⟨assemble m, ofModel_eq_ok_iff.2 ⟨hvalid, rfl, hlength⟩⟩
  refine ⟨haccepts, ?_⟩
  rw [ofModel_eq_cycle_iff, haccepts, not_and_or, ProjectModel.validate_eq_ok_iff]
  refine and_congr_right ?_
  rintro ⟨hnodup, hknown⟩
  -- a valid model lacks nothing but the absence of circles
  have hwell : m.WellFormed ↔ ∀ u, ¬ Relation.TransGen m.DependsOn u u :=
    ⟨fun h => h.acyclic, fun h => ⟨hnodup, hknown, h⟩⟩
  rw [hwell]
  simp only [not_forall, not_not, exists_prop]

/-- A unit `app` with dependencies, beside a unit `core`. -/
def modelListing (deps : List UnitId) : ProjectModel :=
  { root := ⟨"/w"⟩
    units := [CompilationUnit.new ⟨"core", "core", .lib⟩ ⟨"/w/core/src/lib.rs"⟩,
      { CompilationUnit.new ⟨"app", "app", .lib⟩ ⟨"/w/app/src/lib.rs"⟩ with deps := deps }]
    manifests := []
    buildScriptFiles := [] }

/-- **A dependency that is listed twice passes for a circle.** The project is well-formed, and is
accepted if the dependency is listed once. -/
theorem repeated_dependency_is_refused :
    let core : UnitId := ⟨"core", "core", .lib⟩
    (modelListing [core, core]).WellFormed ∧
      ofModel (modelListing [core, core]) = .error .cycle ∧
      ∃ g, ofModel (modelListing [core]) = .ok g := by
  intro core
  have hdepends : ∀ u d, (modelListing [core, core]).DependsOn u d →
      u = ⟨"app", "app", .lib⟩ ∧ d = core := by
    rintro u d ⟨c, hc, rfl, hd⟩
    simp only [modelListing, List.mem_cons, List.not_mem_nil, or_false] at hc
    rcases hc with rfl | rfl
    · simp [CompilationUnit.new] at hd
    · exact ⟨rfl, by simpa using hd⟩
  refine ⟨⟨by decide, ?known, ?acyclic⟩, by decide +kernel, ?once⟩
  case known =>
    intro u d hud
    obtain ⟨rfl, rfl⟩ := hdepends u d hud
    decide
  case acyclic =>
    -- `app` is above `core`, and there are no other dependencies
    apply ProjectModel.acyclic_of_rank fun u => if u = core then 0 else 1
    intro u d hud
    obtain ⟨rfl, rfl⟩ := hdepends u d hud
    decide
  case once =>
    have h : ofModel (modelListing [core]) = .ok (assemble (modelListing [core])) := by
      decide +kernel
    exact ⟨_, h⟩

end UnitGraph

end CodeAtlas

import CodeAtlas.Proofs.Build.Fields
import CodeAtlas.Proofs.Build.Plan

/-!
# What the key of a stored analysis covers

An analysis is stored under the fingerprints of its plan, and one of them stands for the
dependencies. Here are two situations in which a unit has the same key. If the hash does not
confuse what is hashed in them, the units below it have the same inputs, with the same contents, and
the same dependencies in both. The key of a unit says nothing, however, about the root files,
features and targets of the units below it: only if these agree too, the units below are analyzed
by the same command.

## Architecture

- **Layer A**: situations, and what plans are made of in them;
- **Layer B**: equal fingerprints, from a unit down to the units below it;
- **Layer C**: what a key covers.
-/

namespace CodeAtlas

open Fingerprint (textField pathField)

/-! ## Layer A: situations -/

/-- **All that planning depends on** (`plan_for`): the units, their sources, and a cache with
settings and learned inputs. -/
structure Situation where
  graph : UnitGraph
  read : SourceReader
  plans : PlanCache

namespace Situation

variable {h : Hash} {s t : Situation} {u v : CompilationUnit} {p q : Plan}

/-- The plan of a unit. -/
def plan? (s : Situation) (h : Hash) (u : CompilationUnit) : Except BuildFault Plan :=
  (s.plans.planFor h s.read s.graph u).2

/-- The fields that stand for the dependencies of a unit. -/
def dependencyFields (s : Situation) (h : Hash) (u : CompilationUnit) : List Bytes :=
  u.deps.flatMap fun d =>
    (PlanCache.blockOf? s.graph (fun dep => some (s.plan? h dep)) d).getD []

/-- **An accepted project whose plans at hand are current.** -/
structure Sound (s : Situation) (h : Hash) : Prop where
  accepted : ∃ m, UnitGraph.ofModel m = .ok s.graph
  current : s.plans.Current h s.read s.graph

theorem plan?_of_planned (hs : s.Sound h) (hu : s.graph.unit? u.id = some u)
    {r : Except BuildFault Plan}
    (hr : PlanCache.planned h s.read s.graph s.plans (PlanCache.planDepth s.graph) u = some r) :
    s.plan? h u = r := by
  obtain ⟨m, hg⟩ := hs.accepted
  obtain ⟨hvalue, -, -⟩ := hs.current.planWithin hg (PlanCache.planDepth s.graph) hu
  rw [hr] at hvalue
  unfold plan? PlanCache.planFor
  generalize PlanCache.planWithin h s.read s.graph _ s.plans u = out at hvalue ⊢
  obtain ⟨c, o⟩ := out
  obtain rfl : o = some r := hvalue
  rfl

/-- **What a plan is made of**: the inputs of the unit and the plans of its dependencies. -/
theorem planAfresh_of_plan? (hs : s.Sound h) (hu : s.graph.unit? u.id = some u)
    (hp : s.plan? h u = .ok p) :
    PlanCache.planAfresh h s.read s.graph.root s.plans u (.ofFields h (s.dependencyFields h u)) =
      .ok p := by
  obtain ⟨m, hg⟩ := hs.accepted
  -- an answer was found, and one step less was enough for the dependencies
  have hplanned : PlanCache.planned h s.read s.graph s.plans (PlanCache.planDepth s.graph) u =
      some (.ok p) := by
    obtain ⟨hvalue, -, -⟩ := hs.current.planWithin hg (PlanCache.planDepth s.graph) hu
    unfold plan? PlanCache.planFor at hp
    rw [← hvalue]
    generalize PlanCache.planWithin h s.read s.graph _ s.plans u = out at hp ⊢
    obtain ⟨c, o⟩ := out
    cases o with
    | none => cases hp
    | some r => exact congrArg some hp
  rw [PlanCache.planDepth, PlanCache.planned] at hplanned
  split at hplanned
  · rename_i hall
    have hblocks : ∀ d ∈ u.deps, PlanCache.blockOf? s.graph
        (PlanCache.planned h s.read s.graph s.plans (s.graph.units.size + 1)) d =
          PlanCache.blockOf? s.graph (fun dep => some (s.plan? h dep)) d := by
      intro d hd
      obtain ⟨block, hblock⟩ := Option.isSome_iff_exists.1 (List.all_eq_true.1 hall d hd)
      rw [hblock]
      unfold PlanCache.blockOf? at hblock ⊢
      cases hdep : s.graph.unit? d with
      | none => simpa [hdep] using hblock.symm
      | some dep =>
        simp only [hdep] at hblock ⊢
        obtain ⟨r, hr, rfl⟩ := Option.map_eq_some_iff.1 hblock
        have hid : s.graph.unit? dep.id = some dep := by rw [UnitGraph.id_of_unit? hg hdep, hdep]
        rw [plan?_of_planned hs hid (PlanCache.planned_succ hr)]
        rfl
    have hfields : (u.deps.flatMap fun d => (PlanCache.blockOf? s.graph
        (PlanCache.planned h s.read s.graph s.plans (s.graph.units.size + 1)) d).getD []) =
          s.dependencyFields h u :=
      List.flatMap_congr fun d hd => by rw [hblocks d hd]
    rw [hfields] at hplanned
    exact Option.some.inj hplanned
  · cases hplanned

/-- What a plan says of the unit itself. -/
theorem of_plan? (hs : s.Sound h) (hu : s.graph.unit? u.id = some u) (hp : s.plan? h u = .ok p) :
    ∃ fields, contentFields s.read (s.plans.inputsOf u) = .ok fields ∧
      p = ⟨u.id, .of s.graph.root s.plans.settings u (s.plans.inputsOf u), .ofFields h fields,
        .ofFields h (s.dependencyFields h u), s.plans.shapeOf h u⟩ := by
  have hfresh := planAfresh_of_plan? hs hu hp
  unfold PlanCache.planAfresh at hfresh
  cases hfields : contentFields s.read (s.plans.inputsOf u) with
  | error fault => simp [hfields, Except.map] at hfresh
  | ok fields =>
    rw [hfields] at hfresh
    exact ⟨fields, rfl, (Except.ok.inj hfresh).symm⟩

/-- The sequences of fields that are hashed for the plan and the key of a unit. -/
def hashedFor (s : Situation) (h : Hash) (u : CompilationUnit) : List (List Bytes) :=
  (contentFields s.read (s.plans.inputsOf u)).toOption.toList ++
    [s.dependencyFields h u, shapeFields u s.plans.settings (s.plans.inputsOf u)] ++
    (s.plan? h u).toOption.toList.map fun p =>
      [p.inputFingerprint.nested, p.depsFingerprint.nested, p.shape.nested]

/-- **All sequences of fields that are hashed in a situation.** -/
def hashed (s : Situation) (h : Hash) : List (List Bytes) :=
  s.graph.units.values.flatMap (s.hashedFor h)

theorem mem_hashed (hs : s.Sound h) (hu : s.graph.unit? u.id = some u) {fields : List Bytes}
    (hfields : fields ∈ s.hashedFor h u) : fields ∈ s.hashed h := by
  obtain ⟨m, hg⟩ := hs.accepted
  have hmem := ((UnitGraph.sound_ofModel hg).ordered.get?_eq_some_iff u.id u).1 hu
  exact List.mem_flatMap.2 ⟨u, List.mem_map.2 ⟨_, hmem, rfl⟩, hfields⟩

/-! ## Layer B: equal fingerprints -/

/-- **No two sequences that are hashed in two situations have the same fingerprint.** -/
def Clear (s t : Situation) (h : Hash) : Prop :=
  Set.InjOn (Fingerprint.ofFields h) {fields | fields ∈ s.hashed h ++ t.hashed h}

/-- Two units whose plans have the same fingerprints of inputs and of dependencies. -/
def Matches (s t : Situation) (h : Hash) (u v : CompilationUnit) : Prop :=
  ∃ p q, s.plan? h u = .ok p ∧ t.plan? h v = .ok q ∧
    p.inputFingerprint = q.inputFingerprint ∧ p.depsFingerprint = q.depsFingerprint

/-- A unit depends directly on another. -/
def DependsOn (s : Situation) (d e : UnitId) : Prop := e ∈ s.graph.depsOf d

/-- A unit and all that it depends on can be planned. -/
def Plannable (s : Situation) (h : Hash) (d : UnitId) : Prop :=
  ∀ e u, Relation.ReflTransGen s.DependsOn d e → s.graph.unit? e = some u →
    ∃ p, s.plan? h u = .ok p

variable (hs : s.Sound h) (ht : t.Sound h) (hclear : Clear s t h)
  (hu : s.graph.unit? u.id = some u) (hv : t.graph.unit? v.id = some v)
include hs ht hclear hu hv

/-- Sequences that are hashed for two units are the same if their fingerprints are. -/
theorem Clear.eq_of_mem {fields fields' : List Bytes} (hfields : fields ∈ s.hashedFor h u)
    (hfields' : fields' ∈ t.hashedFor h v)
    (heq : Fingerprint.ofFields h fields = .ofFields h fields') : fields = fields' :=
  hclear (List.mem_append_left _ (mem_hashed hs hu hfields))
    (List.mem_append_right _ (mem_hashed ht hv hfields')) heq

/-- **Equal input fingerprints**: the inputs are the same files with the same contents. -/
theorem Matches.inputs (hmatch : Matches s t h u v) :
    s.plans.inputsOf u = t.plans.inputsOf v ∧
      ∀ f ∈ s.plans.inputsOf u, s.read f = t.read f := by
  obtain ⟨p, q, hp, hq, hinput, -⟩ := hmatch
  obtain ⟨fields, hfields, rfl⟩ := of_plan? hs hu hp
  obtain ⟨fields', hfields', rfl⟩ := of_plan? ht hv hq
  have heq := Clear.eq_of_mem hs ht hclear hu hv (by simp [hashedFor, hfields, Except.toOption])
    (by simp [hashedFor, hfields', Except.toOption]) hinput
  exact eq_of_contentFields_eq hfields (heq ▸ hfields')

/-- **Equal dependency fingerprints**: the dependencies are the same units, and their plans have
the same fingerprints in turn. -/
theorem Matches.deps
    (hkeys : Set.InjOn UnitId.cacheKey {d | ∃ c, s.graph.unit? d = some c ∨ t.graph.unit? d = some c})
    (hplans : s.Plannable h u.id) (hplans' : t.Plannable h v.id) (hmatch : Matches s t h u v) :
    u.deps = v.deps ∧ ∀ d ∈ u.deps, ∃ c c', s.graph.unit? d = some c ∧ t.graph.unit? d = some c' ∧
      Matches s t h c c' := by
  obtain ⟨m, hg⟩ := hs.accepted
  obtain ⟨m', hg'⟩ := ht.accepted
  obtain ⟨p, q, hp, hq, -, hdeps⟩ := hmatch
  obtain ⟨fields, -, rfl⟩ := of_plan? hs hu hp
  obtain ⟨fields', -, rfl⟩ := of_plan? ht hv hq
  have heq := Clear.eq_of_mem hs ht hclear hu hv (by simp [hashedFor]) (by simp [hashedFor]) hdeps
  -- every dependency is known and planned, so it contributes three fields
  have hblock : ∀ d ∈ u.deps, ∃ c r, s.graph.unit? d = some c ∧ s.plan? h c = .ok r ∧
      (PlanCache.blockOf? s.graph (fun dep => some (s.plan? h dep)) d).getD [] =
        [textField d.cacheKey, r.inputFingerprint.nested, r.depsFingerprint.nested] := by
    intro d hd
    obtain ⟨c, hc⟩ := UnitGraph.unit?_of_mem_deps hg hu hd
    have hdep : s.DependsOn u.id d := by simpa [DependsOn, UnitGraph.depsOf, hu] using hd
    obtain ⟨r, hr⟩ := hplans d c (.single hdep) hc
    exact ⟨c, r, hc, hr, by simp [PlanCache.blockOf?, hc, hr, CodeAtlas.dependencyFields]⟩
  have hblock' : ∀ d ∈ v.deps, ∃ c r, t.graph.unit? d = some c ∧ t.plan? h c = .ok r ∧
      (PlanCache.blockOf? t.graph (fun dep => some (t.plan? h dep)) d).getD [] =
        [textField d.cacheKey, r.inputFingerprint.nested, r.depsFingerprint.nested] := by
    intro d hd
    obtain ⟨c, hc⟩ := UnitGraph.unit?_of_mem_deps hg' hv hd
    have hdep : t.DependsOn v.id d := by simpa [DependsOn, UnitGraph.depsOf, hv] using hd
    obtain ⟨r, hr⟩ := hplans' d c (.single hdep) hc
    exact ⟨c, r, hc, hr, by simp [PlanCache.blockOf?, hc, hr, CodeAtlas.dependencyFields]⟩
  have haligned := forall₂_of_flatMap_eq (n := 2)
    (fun d hd => by obtain ⟨c, r, -, -, hb⟩ := hblock d hd; rw [hb]; rfl)
    (fun d hd => by obtain ⟨c, r, -, -, hb⟩ := hblock' d hd; rw [hb]; rfl) heq
  have hpairs : List.Forall₂ (fun d e => d = e ∧ ∃ c c', s.graph.unit? d = some c ∧
      t.graph.unit? e = some c' ∧ Matches s t h c c') u.deps v.deps := by
    refine List.forall₂_iff_get.2 ⟨haligned.length_eq, fun i hi hi' => ?_⟩
    obtain ⟨c, r, hc, hr, hb⟩ := hblock _ (List.get_mem u.deps ⟨i, hi⟩)
    obtain ⟨c', r', hc', hr', hb'⟩ := hblock' _ (List.get_mem v.deps ⟨i, hi'⟩)
    have hsame := haligned.get hi hi'
    simp only [hb, hb', List.cons.injEq, and_true] at hsame
    obtain ⟨hkey, hinput, hdeps'⟩ := hsame
    have hid := hkeys ⟨c, Or.inl hc⟩ ⟨c', Or.inr hc'⟩ (Fingerprint.textField_injective hkey)
    exact ⟨hid, c, c', hc, hc', r, r', hr, hr', Fingerprint.nested_injective hinput,
      Fingerprint.nested_injective hdeps'⟩
  have hdepsEq : u.deps = v.deps :=
    List.forall₂_eq_eq_eq ▸ hpairs.imp fun _ _ hpair => hpair.1
  refine ⟨hdepsEq, fun d hd => ?_⟩
  obtain ⟨i, hi, rfl⟩ := List.mem_iff_getElem.1 hd
  obtain ⟨hde, c, c', hc, hc', hcc'⟩ := (List.forall₂_iff_get.1 hpairs).2 i hi (hdepsEq ▸ hi)
  exact ⟨c, c', hc, by rw [← hc', ← hde]; rfl, hcc'⟩

omit hs ht hclear hu hv

/-! ## Layer C: keys -/

/-- **What stays the same below a unit** whose key does: inputs, contents, dependencies. -/
structure Unchanged (s t : Situation) (u v : CompilationUnit) : Prop where
  inputs : s.plans.inputsOf u = t.plans.inputsOf v
  contents : ∀ f ∈ s.plans.inputsOf u, s.read f = t.read f
  deps : u.deps = v.deps

/-- **What the key of a dependent does not cover** of a unit: root file, features and target. -/
structure DeclaredAlike (u v : CompilationUnit) : Prop where
  rootFile : u.rootFile = v.rootFile
  features : u.features = v.features
  target : u.target = v.target

/-- A unit with the same inputs and dependencies that is declared alike has the same shape and is
analyzed by the same command. -/
theorem same_invocation (hs : s.Sound h) (ht : t.Sound h) (hu : s.graph.unit? u.id = some u)
    (hv : t.graph.unit? v.id = some v) (hid : u.id = v.id) (hsame : Unchanged s t u v)
    (halike : DeclaredAlike u v) (hroot : s.graph.root = t.graph.root)
    (hsettings : s.plans.settings = t.plans.settings) (hp : s.plan? h u = .ok p)
    (hq : t.plan? h v = .ok q) : p.shape = q.shape ∧ p.invocation = q.invocation := by
  obtain ⟨fields, -, rfl⟩ := of_plan? hs hu hp
  obtain ⟨fields', -, rfl⟩ := of_plan? ht hv hq
  constructor
  · simp only [PlanCache.shapeOf, shapeFields, hid, hsame.inputs, hsame.deps, halike.rootFile,
      halike.features, halike.target, hsettings]
  · simp only [Invocation.of, Invocation.args, Invocation.targetArgs, hid, hsame.inputs,
      hsame.deps, halike.rootFile, halike.features, halike.target, hsettings, hroot]

/-- Units with the same key have the same fingerprints, and shapes with the same fields. -/
theorem matches_of_key_eq (hs : s.Sound h) (ht : t.Sound h) (hclear : Clear s t h)
    (hu : s.graph.unit? u.id = some u) (hv : t.graph.unit? v.id = some v)
    (hp : s.plan? h u = .ok p) (hq : t.plan? h v = .ok q)
    (hkey : p.storeFingerprint h = q.storeFingerprint h) :
    Matches s t h u v ∧ shapeFields u s.plans.settings (s.plans.inputsOf u) =
      shapeFields v t.plans.settings (t.plans.inputsOf v) := by
  -- a key is the hash of three fingerprints, and a shape the hash of its fields:
  -- where no hash confuses what it was made from, both can be taken apart
  have hstore := Clear.eq_of_mem hs ht hclear hu hv (by simp [hashedFor, hp, Except.toOption])
    (by simp [hashedFor, hq, Except.toOption]) hkey
  simp only [List.cons.injEq, and_true] at hstore
  obtain ⟨hinput, hdeps, hshape⟩ := hstore
  have hmatch : Matches s t h u v := ⟨p, q, hp, hq, Fingerprint.nested_injective hinput,
    Fingerprint.nested_injective hdeps⟩
  refine ⟨hmatch, ?_⟩
  obtain ⟨fields, -, rfl⟩ := of_plan? hs hu hp
  obtain ⟨fields', -, rfl⟩ := of_plan? ht hv hq
  exact Clear.eq_of_mem hs ht hclear hu hv (by simp [hashedFor]) (by simp [hashedFor])
    (Fingerprint.nested_injective hshape)

/-- Below two units that match, what is reached in one situation is reached in the other, and
matches. -/
theorem Matches.reaches (hs : s.Sound h) (ht : t.Sound h) (hclear : Clear s t h)
    (hkeys : Set.InjOn UnitId.cacheKey {d | ∃ c, s.graph.unit? d = some c ∨ t.graph.unit? d = some c})
    {w : UnitId} (hu : s.graph.unit? w = some u) (hv : t.graph.unit? w = some v)
    (hplans : s.Plannable h w) (hplans' : t.Plannable h w) (hmatch : Matches s t h u v) {d : UnitId}
    (hd : Relation.ReflTransGen s.DependsOn w d) :
    Relation.ReflTransGen t.DependsOn w d ∧ ∃ c c', s.graph.unit? d = some c ∧
      t.graph.unit? d = some c' ∧ Matches s t h c c' ∧ c.deps = c'.deps := by
  obtain ⟨m, hg⟩ := hs.accepted
  obtain ⟨m', hg'⟩ := ht.accepted
  have hdeps : ∀ {e c c'}, Relation.ReflTransGen s.DependsOn w e →
      Relation.ReflTransGen t.DependsOn w e → s.graph.unit? e = some c →
      t.graph.unit? e = some c' → Matches s t h c c' → c.deps = c'.deps ∧ ∀ d ∈ c.deps, ∃ x y,
        s.graph.unit? d = some x ∧ t.graph.unit? d = some y ∧ Matches s t h x y := by
    intro e c c' he he' hc hc' hcc'
    obtain rfl := UnitGraph.id_of_unit? hg hc
    have hid := UnitGraph.id_of_unit? hg' hc'
    refine Matches.deps hs ht hclear hc (hid ▸ hc') hkeys (fun d x hd => hplans d x (he.trans hd))
      (fun d x hd => hplans' d x (he'.trans (hid ▸ hd))) hcc'
  -- along the path: every step of it is a dependency in both situations
  induction hd with
  | refl => exact ⟨.refl, u, v, hu, hv, hmatch, (hdeps .refl .refl hu hv hmatch).1⟩
  | @tail d e hde he ih =>
    obtain ⟨hpath, c, c', hc, hc', hcc', hsame⟩ := ih
    have hmem : e ∈ c.deps := by simpa [DependsOn, UnitGraph.depsOf, hc] using he
    have he' : t.DependsOn d e := by simpa [DependsOn, UnitGraph.depsOf, hc', ← hsame] using hmem
    obtain ⟨x, y, hx, hy, hxy⟩ := (hdeps hde hpath hc hc' hcc').2 e hmem
    exact ⟨hpath.tail he', x, y, hx, hy, hxy,
      (hdeps (hde.tail he) (hpath.tail he') hx hy hxy).1⟩

/-- **A stored analysis is used again only while what it refers into is unchanged.** Two situations
of accepted projects in which a unit and all it depends on can be planned, with the same key for
the unit. Whatever the unit depends on, directly or through others, it depends on in both
situations, with the same inputs, the same contents of them and the same dependencies. What it
depends on has the same shape and is analyzed by the same command, if it is declared with the same
root file, features and target, if the unit itself has the same features, if no target of the
settings is empty, and if the project lies at the same place. -/
theorem unchanged_of_key_eq (hs : s.Sound h) (ht : t.Sound h) (hclear : Clear s t h)
    (hkeys : Set.InjOn UnitId.cacheKey {d | ∃ c, s.graph.unit? d = some c ∨ t.graph.unit? d = some c})
    {w : UnitId} (hu : s.graph.unit? w = some u) (hv : t.graph.unit? w = some v)
    (hplans : s.Plannable h w) (hplans' : t.Plannable h w) (hp : s.plan? h u = .ok p)
    (hq : t.plan? h v = .ok q) (hkey : p.storeFingerprint h = q.storeFingerprint h) (d : UnitId)
    (hd : Relation.ReflTransGen s.DependsOn w d) :
    Relation.ReflTransGen t.DependsOn w d ∧ ∃ c c' r r', s.graph.unit? d = some c ∧
      t.graph.unit? d = some c' ∧ s.plan? h c = .ok r ∧ t.plan? h c' = .ok r' ∧
      Unchanged s t c c' ∧
      (DeclaredAlike c c' → u.features = v.features → s.plans.settings.target ≠ some "" →
        t.plans.settings.target ≠ some "" → s.graph.root = t.graph.root →
        r.shape = r'.shape ∧ r.invocation = r'.invocation) := by
  obtain ⟨m, hg⟩ := hs.accepted
  obtain ⟨m', hg'⟩ := ht.accepted
  have hid := (UnitGraph.id_of_unit? hg hu).symm
  have hid' := (UnitGraph.id_of_unit? hg' hv).symm
  obtain ⟨hmatch, hshape⟩ := matches_of_key_eq hs ht hclear (hid ▸ hu) (hid' ▸ hv) hp hq hkey
  have hreach := fun {e} => Matches.reaches (d := e) hs ht hclear hkeys hu hv hplans hplans' hmatch
  obtain ⟨hpath, c, c', hc, hc', hcc', hdeps⟩ := hreach hd
  have hcid := (UnitGraph.id_of_unit? hg hc).symm
  have hcid' := (UnitGraph.id_of_unit? hg' hc').symm
  obtain ⟨hinputs, hcontents⟩ := Matches.inputs hs ht hclear (hcid ▸ hc) (hcid' ▸ hc') hcc'
  have hunchanged : Unchanged s t c c' := ⟨hinputs, hcontents, hdeps⟩
  obtain ⟨r, r', hr, hr', -⟩ := hcc'
  refine ⟨hpath, c, c', r, r', hc, hc', hr, hr', hunchanged, ?_⟩
  intro halike hfeatures hblank hblank' hroot
  -- the settings show in the shape of the unit at the top
  obtain ⟨-, u', v', hu', hv', -, htop⟩ := hreach .refl
  obtain rfl := Option.some.inj (hu.symm.trans hu')
  obtain rfl := Option.some.inj (hv.symm.trans hv')
  have hsources := (Matches.inputs hs ht hclear (hid ▸ hu) (hid' ▸ hv) hmatch).1
  have hsettings := BuildSettings.eq_of_shown_eq
    (settings_of_shapeFields_eq (hsources ▸ hshape) hfeatures htop) hblank hblank'
  exact same_invocation hs ht (hcid ▸ hc) (hcid' ▸ hc') (hcid.symm.trans hcid') hunchanged halike
    hroot hsettings hr hr'

/-! A library, a program that depends on it, and a tool beside them. -/

/-- A hash that confuses nothing, since it writes out what is hashed. -/
def writtenOut : Hash := ⟨fun bs => ⟨String.ofList (bs.map fun b => Char.ofNat b.toNat)⟩⟩

theorem ofBytes_writtenOut_injective : Function.Injective writtenOut.ofBytes := by
  intro bs cs h
  have hchars := String.ofList_injective (congrArg Fingerprint.text h)
  refine List.map_injective_iff.2 ?_ hchars
  intro b c hbc
  -- numbers below 256 are characters
  have hvalid : ∀ b : UInt8, (Char.ofNat b.toNat).toNat = b.toNat := by
    intro b
    have hlt := b.toNat_lt
    have hchar : b.toNat.isValidChar := Or.inl (by omega)
    rw [Char.ofNat, dif_pos hchar]
    rfl
  have hnat : b.toNat = c.toNat := by
    rw [← hvalid b, ← hvalid c]
    exact congrArg Char.toNat hbc
  exact UInt8.toNat_inj.1 hnat

/-- Nothing is confused by a hash that keeps byte strings apart, while lengths can be written. -/
theorem clear_of_injective (hinj : Function.Injective h.ofBytes)
    (hsmall : ∀ fields ∈ s.hashed h, ∀ f ∈ fields, f.length < 256 ^ 8)
    (hsmall' : ∀ fields ∈ t.hashed h, ∀ f ∈ fields, f.length < 256 ^ 8) : Clear s t h := by
  have hboth : ∀ fields ∈ s.hashed h ++ t.hashed h, ∀ f ∈ fields, f.length < 256 ^ 8 :=
    fun fields hfields => (List.mem_append.1 hfields).elim (hsmall fields) (hsmall' fields)
  exact Fingerprint.injOn_ofFields hinj hboth

/-- All is plannable where every unit is. -/
theorem plannable_of_all (hs : s.Sound h)
    (hall : (s.graph.units.values.all fun c => (s.plan? h c).toOption.isSome) = true) (d : UnitId) :
    s.Plannable h d := by
  intro e u _ hu
  obtain ⟨m, hg⟩ := hs.accepted
  have hmem := ((UnitGraph.sound_ofModel hg).ordered.get?_eq_some_iff e u).1 hu
  have hplan := List.all_eq_true.1 hall u (List.mem_map.2 ⟨_, hmem, rfl⟩)
  cases hp : s.plan? h u with
  | error fault => simp [hp, Except.toOption] at hplan
  | ok p => exact ⟨p, rfl⟩

/-- A library with some features. -/
def libraryWith (features : List String) : CompilationUnit :=
  { CompilationUnit.new (.lib "core") ⟨"/core.rs"⟩ with
    features := KeySet.ofList features
    member := false }

/-- A program that depends on the library. -/
def programOnLibrary : CompilationUnit :=
  { CompilationUnit.new (.lib "app") ⟨"/app.rs"⟩ with
    deps := [.lib "core"]
    member := false }

/-- A tool that has to do with neither. -/
def unrelatedTool : CompilationUnit := .new (.lib "tool") ⟨"/tool.rs"⟩

/-- The model of some units. -/
def modelOf (units : List CompilationUnit) : ProjectModel := ⟨⟨"/"⟩, units, [], []⟩

/-- Some units whose sources hold their own names, before anything was planned. -/
def freshlyFound (units : List CompilationUnit) : Situation :=
  ⟨UnitGraph.assemble (modelOf units), fun f => .ok f.text, .new {}⟩

theorem sound_freshlyFound {units : List CompilationUnit} (h : Hash)
    (hg : UnitGraph.ofModel (modelOf units) = .ok (UnitGraph.assemble (modelOf units))) :
    (freshlyFound units).Sound h :=
  ⟨⟨_, hg⟩, PlanCache.current_of_empty rfl (PlanCache.tidy_new {})⟩

/-- Units are told apart by the keys of their cache entries where their names are told apart. -/
theorem cacheKey_injOn (hs : s.Sound h) (ht : t.Sound h)
    (hinj : ∀ d ∈ s.graph.units.keys ++ t.graph.units.keys,
      ∀ e ∈ s.graph.units.keys ++ t.graph.units.keys, d.cacheKey = e.cacheKey → d = e) :
    Set.InjOn UnitId.cacheKey {d | ∃ c, s.graph.unit? d = some c ∨ t.graph.unit? d = some c} := by
  obtain ⟨m, hg⟩ := hs.accepted
  obtain ⟨m', hg'⟩ := ht.accepted
  have hmem : ∀ d, (∃ c, s.graph.unit? d = some c ∨ t.graph.unit? d = some c) →
      d ∈ s.graph.units.keys ++ t.graph.units.keys := by
    rintro d ⟨c, hc | hc⟩
    · have hentry := ((UnitGraph.sound_ofModel hg).ordered.get?_eq_some_iff d c).1 hc
      exact List.mem_append_left _ (List.mem_map.2 ⟨_, hentry, rfl⟩)
    · have hentry := ((UnitGraph.sound_ofModel hg').ordered.get?_eq_some_iff d c).1 hc
      exact List.mem_append_right _ (List.mem_map.2 ⟨_, hentry, rfl⟩)
  exact fun d hd e he heq => hinj d (hmem d hd) e (hmem e he) heq

/-- Whether two units can be planned, each in its situation, so that the plans are related. -/
def plansRelated (s t : Situation) (h : Hash) (u v : CompilationUnit) (related : Plan → Plan → Bool) :
    Bool :=
  match s.plan? h u, t.plan? h v with
  | .ok p, .ok q => related p q
  | _, _ => false

theorem exists_of_plansRelated {related : Plan → Plan → Bool}
    (hrelated : plansRelated s t h u v related = true) :
    ∃ p q, s.plan? h u = .ok p ∧ t.plan? h v = .ok q ∧ related p q = true := by
  unfold plansRelated at hrelated
  split at hrelated
  · rename_i p q hp hq
    exact ⟨p, q, hp, hq, hrelated⟩
  · cases hrelated

/-- Whether two plans have the same key. -/
def sameKey (h : Hash) (p q : Plan) : Bool := p.storeFingerprint h == q.storeFingerprint h

/-- Whether two plans differ in their shapes and in the number of arguments of their commands. -/
def otherCommand (p q : Plan) : Bool :=
  p.shape != q.shape && p.invocation.command.args.length != q.invocation.command.args.length

/-- The library without features, and the program. -/
def barely : Situation := freshlyFound [libraryWith [], programOnLibrary]

/-- The library without features, the program, and a tool beside them. -/
def besideTool : Situation := freshlyFound [libraryWith [], programOnLibrary, unrelatedTool]

/-- The library with a feature, and the program. -/
def featured : Situation := freshlyFound [libraryWith ["extra"], programOnLibrary]

theorem sound_barely : barely.Sound writtenOut := sound_freshlyFound _ (by decide +kernel)

theorem small_barely : ∀ fields ∈ barely.hashed writtenOut, ∀ f ∈ fields, f.length < 256 ^ 8 := by
  decide +kernel

/-- A tool that appears beside the program leaves the key of the program as it is, and with it the
library below. -/
theorem tool_leaves_library_unchanged :
    ∃ r r', barely.plan? writtenOut (libraryWith []) = .ok r ∧
      besideTool.plan? writtenOut (libraryWith []) = .ok r' ∧
      Unchanged barely besideTool (libraryWith []) (libraryWith []) ∧
      r.shape = r'.shape ∧ r.invocation = r'.invocation := by
  have hs := sound_barely
  have ht : besideTool.Sound writtenOut := sound_freshlyFound _ (by decide +kernel)
  have hclear : Clear barely besideTool writtenOut :=
    clear_of_injective ofBytes_writtenOut_injective small_barely (by decide +kernel)
  have hu : barely.graph.unit? (.lib "app") = some programOnLibrary := by decide +kernel
  have hv : besideTool.graph.unit? (.lib "app") = some programOnLibrary := by decide +kernel
  have hdep : barely.DependsOn (.lib "app") (.lib "core") :=
    show UnitId.lib "core" ∈ barely.graph.depsOf (.lib "app") by decide +kernel
  have hkeys : plansRelated barely besideTool writtenOut programOnLibrary programOnLibrary
      (sameKey writtenOut) = true := by decide +kernel
  -- the program has the same key in both, and the library is below it
  obtain ⟨p, q, hp, hq, hkey⟩ := exists_of_plansRelated hkeys
  obtain ⟨-, c, c', r, r', hc, hc', hr, hr', hsame, halike⟩ :=
    unchanged_of_key_eq hs ht hclear (cacheKey_injOn hs ht (by decide +kernel)) hu hv
      (plannable_of_all hs (by decide +kernel) _) (plannable_of_all ht (by decide +kernel) _)
      hp hq (beq_iff_eq.1 hkey) (.lib "core") (.single hdep)
  have hlib : barely.graph.unit? (.lib "core") = some (libraryWith []) := by decide +kernel
  have hlib' : besideTool.graph.unit? (.lib "core") = some (libraryWith []) := by decide +kernel
  obtain rfl := Option.some.inj (hc.symm.trans hlib)
  obtain rfl := Option.some.inj (hc'.symm.trans hlib')
  exact ⟨r, r', hr, hr', hsame,
    halike ⟨rfl, rfl, rfl⟩ rfl (by decide +kernel) (by decide +kernel) rfl⟩

/-- A feature of the library does not show in the key of the program, though the library is
analyzed by another command with it, and nothing is confused by the hash. -/
theorem extra_feature_escapes_key :
    Clear barely featured writtenOut ∧
      (∃ p q, barely.plan? writtenOut programOnLibrary = .ok p ∧
        featured.plan? writtenOut programOnLibrary = .ok q ∧
        p.storeFingerprint writtenOut = q.storeFingerprint writtenOut) ∧
      ∃ r r', barely.plan? writtenOut (libraryWith []) = .ok r ∧
        featured.plan? writtenOut (libraryWith ["extra"]) = .ok r' ∧
        r.shape ≠ r'.shape ∧ r.invocation ≠ r'.invocation := by
  have hkeys : plansRelated barely featured writtenOut programOnLibrary programOnLibrary
      (sameKey writtenOut) = true := by decide +kernel
  have hcommands : plansRelated barely featured writtenOut (libraryWith []) (libraryWith ["extra"])
      otherCommand = true := by decide +kernel
  obtain ⟨p, q, hp, hq, hkey⟩ := exists_of_plansRelated hkeys
  obtain ⟨r, r', hr, hr', hother⟩ := exists_of_plansRelated hcommands
  simp only [otherCommand, Bool.and_eq_true, bne_iff_ne] at hother
  obtain ⟨hshape, hargs⟩ := hother
  exact ⟨clear_of_injective ofBytes_writtenOut_injective small_barely (by decide +kernel),
    ⟨p, q, hp, hq, beq_iff_eq.1 hkey⟩, r, r', hr, hr', hshape,
    fun hsame => hargs (congrArg (·.command.args.length) hsame)⟩

end Situation

end CodeAtlas

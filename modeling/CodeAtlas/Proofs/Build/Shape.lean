import CodeAtlas.Proofs.Build.Isolation
import CodeAtlas.Proofs.Build.Readable

/-!
# What the shape of a plan decides

A plan at hand is used again if its shape is the right one, so the shape has to decide the whole
invocation. It is a fingerprint of texts in a row: where one list of them ends and the next begins
is told by two words and by what the texts look like, and an empty text stands for no target. So the
row can be read back unless an input is spelt like the first word, a target is empty, or the target
of a dependency has a slash.

## Architecture

- **Layer A**: what an invocation is made of;
- **Layer B**: reading a shape back;
- **Layer C**: plans that rest on what was asked for;
- **Layer D**: sessions, and the main result;
- **Layer E**: units that share a shape, and a plan that does not fit its unit.
-/

namespace CodeAtlas

open Fingerprint (textField pathField)

/-! ## Layer A: what an invocation is made of -/

/-- **What an invocation is made of**: a version of a unit, settings, and inputs. -/
structure PlanBasis where
  unit : CompilationUnit
  settings : BuildSettings
  inputs : List Path

namespace PlanBasis

variable {h : Hash} {b b' : PlanBasis} {root : Path}

/-- The fields that are hashed. -/
def fields (b : PlanBasis) : List Bytes := shapeFields b.unit b.settings b.inputs

/-- The shape of a plan that is made of it. -/
def shape (h : Hash) (b : PlanBasis) : Fingerprint := .ofFields h b.fields

/-- The invocation that is made of it, in the project at a root. -/
def invocation (root : Path) (b : PlanBasis) : Invocation := .of root b.settings b.unit b.inputs

/-- **All that an invocation shows is the same.** -/
structure Agrees (b b' : PlanBasis) : Prop where
  id : b.unit.id = b'.unit.id
  rootFile : b.unit.rootFile = b'.unit.rootFile
  features : b.unit.features = b'.unit.features
  target : b.unit.target = b'.unit.target
  deps : b.unit.deps = b'.unit.deps
  settings : b.settings = b'.settings
  inputs : b.inputs = b'.inputs

/-- Bases that agree make the same invocation. -/
theorem Agrees.invocation_eq (hagree : b.Agrees b') : b.invocation root = b'.invocation root := by
  obtain ⟨hid, hroot, hfeatures, htarget, hdeps, hsettings, hinputs⟩ := hagree
  simp only [invocation, Invocation.of, Invocation.args, Invocation.targetArgs, hid, hroot,
    hfeatures, htarget, hdeps, hsettings, hinputs]

/-- **A legible basis**: no input is spelt like the word that ends the inputs, no target looks like
none, and the dependencies can be told by their keys. -/
structure Legible (b : PlanBasis) : Prop where
  inputs : ∀ p ∈ b.inputs, p.text ≠ "features"
  target : b.unit.target ≠ some ""
  deps : ∀ d ∈ b.unit.deps, '/' ∉ d.target.toList

/-- **A marked basis**: it shows where the settings begin. Neither a feature nor the target is
the word that starts the dependencies, the compiler is not spelt like a dependency, and the target
of the settings does not look like none. -/
structure Marked (b : PlanBasis) : Prop where
  features : "deps" ∉ b.unit.features.toList
  target : b.unit.target ≠ some "deps"
  compiler : ∀ d : UnitId, b.settings.compiler.text ≠ d.cacheKey
  settings : b.settings.target ≠ some ""

end PlanBasis

/-! ## Layer B: reading a shape back -/

namespace UnitId

variable {u v : UnitId}

/-- Units whose targets have no slash are told by their keys. -/
theorem eq_of_cacheKey_eq (hu : '/' ∉ u.target.toList) (hv : '/' ∉ v.target.toList)
    (h : u.cacheKey = v.cacheKey) : u = v := by
  by_contra hne
  obtain ⟨-, hslash⟩ | ⟨-, hslash⟩ := (cacheKey_eq_iff.1 h).slashes hne
  · exact hv hslash
  · exact hu hslash

/-- A key is not a word. -/
theorem cacheKey_ne_of_noSlash {word : String} (hword : '/' ∉ word.toList) : u.cacheKey ≠ word := by
  intro heq
  apply hword
  rw [← heq, cacheKey_eq]
  simp

/-- Lists of such units are told by the lists of their keys. -/
theorem eq_of_map_cacheKey_eq {ds es : List UnitId} (hds : ∀ d ∈ ds, '/' ∉ d.target.toList)
    (hes : ∀ e ∈ es, '/' ∉ e.target.toList)
    (h : ds.map (fun d => textField d.cacheKey) = es.map fun e => textField e.cacheKey) :
    ds = es := by
  induction ds generalizing es with
  | nil => simpa using h.symm
  | cons d ds ih =>
    cases es with
    | nil => simp at h
    | cons e es =>
      obtain ⟨hkey, hrest⟩ := List.cons_eq_cons.1 h
      rw [List.forall_mem_cons] at hds hes
      rw [eq_of_cacheKey_eq hds.1 hes.1 (Fingerprint.textField_injective hkey),
        ih hds.2 hes.2 hrest]

end UnitId

/-- A list of keys ends where something follows that is no key. -/
theorem append_inj_of_forall {α : Type} {P : α → Prop} {x y : α} {as bs cs ds : List α}
    (has : ∀ a ∈ as, P a) (hcs : ∀ c ∈ cs, P c) (hx : ¬ P x) (hy : ¬ P y)
    (h : as ++ x :: bs = cs ++ y :: ds) : as = cs ∧ x = y ∧ bs = ds := by
  induction as generalizing cs with
  | nil =>
    cases cs with
    | nil => simpa using h
    | cons c cs =>
      obtain ⟨rfl, -⟩ := List.cons.inj h
      exact absurd (hcs x List.mem_cons_self) hx
  | cons a as ih =>
    rw [List.forall_mem_cons] at has
    cases cs with
    | nil =>
      obtain ⟨rfl, -⟩ := List.cons.inj h
      exact absurd has.1 hy
    | cons c cs =>
      rw [List.forall_mem_cons] at hcs
      obtain ⟨rfl, hrest⟩ := List.cons.inj h
      obtain ⟨rfl, hxy, htail⟩ := ih has.2 hcs.2 hrest
      exact ⟨rfl, hxy, htail⟩

namespace PlanBasis

variable {h : Hash} {b b' : PlanBasis} {root : Path}

/-- The fields that stand for features and the target. -/
def variantFields (b : PlanBasis) : List Bytes :=
  b.unit.features.toList.map textField ++ [textField (b.unit.target.getD "")]

/-- The fields that stand for dependencies. -/
def keyFields (b : PlanBasis) : List Bytes := b.unit.deps.map fun d => textField d.cacheKey

/-- The fields that stand for settings after the compiler. -/
def laterFields (b : PlanBasis) : List Bytes :=
  [textField b.settings.edition, textField (b.settings.target.getD ""),
    pathField b.settings.outDir] ++ b.settings.extraArgs.map textField

/-- The fields of a shape, part by part. -/
theorem fields_eq (b : PlanBasis) : b.fields =
    textField b.unit.id.cacheKey :: pathField b.unit.rootFile :: (b.inputs.map pathField ++
      textField "features" :: (b.variantFields ++ textField "deps" ::
        (b.keyFields ++ pathField b.settings.compiler :: b.laterFields))) := by
  simp [fields, shapeFields, variantFields, keyFields, laterFields]

/-- The features and the target are read off their fields, if there is no empty target. -/
theorem eq_of_variantFields_eq (hb : b.unit.target ≠ some "") (hb' : b'.unit.target ≠ some "")
    (h : b.variantFields = b'.variantFields) :
    b.unit.features = b'.unit.features ∧ b.unit.target = b'.unit.target := by
  obtain ⟨hfeatures, htarget⟩ := List.append_inj' h rfl
  constructor
  · have hlist := List.map_injective_iff.2 Fingerprint.textField_injective hfeatures
    cases hf : b.unit.features
    cases hf' : b'.unit.features
    simp_all
  · have htext := Fingerprint.textField_injective (List.singleton_inj.1 htarget)
    cases ht : b.unit.target <;> cases ht' : b'.unit.target <;> simp_all

/-- No key is the word that starts the dependencies. -/
theorem deps_notMem_keyFields (b : PlanBasis) : textField "deps" ∉ b.keyFields := by
  intro hmem
  obtain ⟨d, -, hd⟩ := List.mem_map.1 hmem
  exact UnitId.cacheKey_ne_of_noSlash (by decide) (Fingerprint.textField_injective hd)

/-- A marked basis does not show the word in front of its dependencies. -/
theorem Marked.ne_deps_of_mem (hb : b.Marked) {f : Bytes} (hf : f ∈ b.variantFields) :
    f ≠ textField "deps" := by
  intro heq
  subst heq
  obtain hfeature | htarget := List.mem_append.1 hf
  · obtain ⟨feature, hmem, hword⟩ := List.mem_map.1 hfeature
    obtain rfl := Fingerprint.textField_injective hword
    exact hb.features hmem
  · have hword := Fingerprint.textField_injective (List.mem_singleton.1 htarget)
    cases ht : b.unit.target with
    | none => simp [ht] at hword
    | some target =>
      obtain rfl : "deps" = target := by simpa [ht] using hword
      exact hb.target ht

/-- **With the same settings** the dependencies are read from the end of the row: none of their keys
is the word in front of them. -/
theorem parts_of_settings_eq (hsettings : b.settings = b'.settings)
    (h : b.variantFields ++ textField "deps" ::
        (b.keyFields ++ pathField b.settings.compiler :: b.laterFields) =
      b'.variantFields ++ textField "deps" ::
        (b'.keyFields ++ pathField b'.settings.compiler :: b'.laterFields)) :
    b.variantFields = b'.variantFields ∧ b.keyFields = b'.keyFields := by
  have hlater : b.laterFields = b'.laterFields := by rw [laterFields, laterFields, hsettings]
  have hfront : b.variantFields ++ textField "deps" :: b.keyFields =
      b'.variantFields ++ textField "deps" :: b'.keyFields := by
    rw [hsettings, hlater] at h
    apply List.append_cancel_right
    simpa using h
  -- If the word stood further to the right in one row, it would be among the keys of the other.
  obtain hsame | ⟨-, hmem⟩ | ⟨-, hmem⟩ := eq_or_mem_of_append_cons_eq hfront
  · exact hsame
  · exact absurd hmem b'.deps_notMem_keyFields
  · exact absurd hmem b.deps_notMem_keyFields

/-- **With marks** the row is read from its start: features and target up to the first word, then
dependencies up to the compiler. -/
theorem parts_of_marked (hb : b.Marked) (hb' : b'.Marked)
    (h : b.variantFields ++ textField "deps" ::
        (b.keyFields ++ pathField b.settings.compiler :: b.laterFields) =
      b'.variantFields ++ textField "deps" ::
        (b'.keyFields ++ pathField b'.settings.compiler :: b'.laterFields)) :
    b.variantFields = b'.variantFields ∧ b.keyFields = b'.keyFields := by
  have hno (x : Bytes) : ¬ x ≠ x := by simp
  obtain ⟨hvariant, -, hrest⟩ := append_inj_of_forall (P := (· ≠ textField "deps"))
    (fun _ => hb.ne_deps_of_mem) (fun _ => hb'.ne_deps_of_mem) (hno _) (hno _) h
  -- behind the word stand keys, and the compiler is none
  have hkeys (b : PlanBasis) : ∀ f ∈ b.keyFields, ∃ d : UnitId, f = textField d.cacheKey := by
    intro f hf
    obtain ⟨d, -, rfl⟩ := List.mem_map.1 hf
    exact ⟨d, rfl⟩
  have hcompiler {b : PlanBasis} (hb : b.Marked) :
      ¬ ∃ d : UnitId, pathField b.settings.compiler = textField d.cacheKey := by
    intro hkey
    obtain ⟨d, hd⟩ := hkey
    exact hb.compiler d (Fingerprint.textField_injective hd)
  exact ⟨hvariant, (append_inj_of_forall (hkeys b) (hkeys b') (hcompiler hb) (hcompiler hb')
    hrest).1⟩

/-- **A shape can be read back**, if its basis is legible and it is known where its settings
begin. -/
theorem agrees_of_fields_eq (hid : b.unit.id = b'.unit.id) (hb : b.Legible) (hb' : b'.Legible)
    (hsettings : b.settings = b'.settings ∨ b.Marked ∧ b'.Marked) (h : b.fields = b'.fields) :
    b.Agrees b' := by
  have hrow := h
  rw [fields_eq, fields_eq, List.cons.injEq, List.cons.injEq] at hrow
  obtain ⟨-, hroot, hrow⟩ := hrow
  have hno (x : Bytes) : ¬ x ≠ x := by simp
  -- The word behind the inputs comes first where they end, as none of them is spelt like it.
  have hword {b : PlanBasis} (hb : b.Legible) :
      ∀ f ∈ b.inputs.map pathField, f ≠ textField "features" := by
    intro f hf heq
    obtain ⟨p, hp, rfl⟩ := List.mem_map.1 hf
    exact hb.inputs p hp (Fingerprint.textField_injective heq)
  obtain ⟨hinputs, -, hrow⟩ := append_inj_of_forall (hword hb) (hword hb') (hno _) (hno _) hrow
  have hparts : b.variantFields = b'.variantFields ∧ b.keyFields = b'.keyFields := by
    obtain hsame | ⟨hmarked, hmarked'⟩ := hsettings
    · exact parts_of_settings_eq hsame hrow
    · exact parts_of_marked hmarked hmarked' hrow
  obtain ⟨hfeatures, htarget⟩ := eq_of_variantFields_eq hb.target hb'.target hparts.1
  have hdeps := UnitId.eq_of_map_cacheKey_eq hb.deps hb'.deps hparts.2
  have hpaths := List.map_injective_iff.2 Fingerprint.pathField_injective hinputs
  refine ⟨hid, Fingerprint.pathField_injective hroot, hfeatures, htarget, hdeps, ?_, hpaths⟩
  obtain hsame | ⟨hmarked, hmarked'⟩ := hsettings
  · exact hsame
  · -- All in front of the settings is the same now, so the rest of the row is theirs.
    have hshape : shapeFields b.unit b.settings b'.inputs =
        shapeFields b'.unit b'.settings b'.inputs := by
      rw [← hpaths]
      simpa [fields, hpaths] using h
    exact BuildSettings.eq_of_shown_eq (settings_of_shapeFields_eq hshape hfeatures hdeps)
      hmarked.settings hmarked'.settings

end PlanBasis

/-! ## Layer C: plans that rest on what was asked for -/

namespace PlanCache

variable {h : Hash} {read : SourceReader} {root : Path} {c c' : PlanCache} {u : CompilationUnit}
  {asked : Set PlanBasis} {p : Plan}

/-- What the invocation of a unit is made of now. -/
def basisOf (c : PlanCache) (u : CompilationUnit) : PlanBasis := ⟨u, c.settings, c.inputsOf u⟩

/-- **Plans that rest on what was asked for**: every plan at hand is made of a basis that was asked
for, under the settings that still hold. -/
structure Founded (asked : Set PlanBasis) (h : Hash) (root : Path) (c : PlanCache) : Prop
    extends Tidy c where
  founded : ∀ v p, c.get? v = some p → ∃ b ∈ asked, b.unit.id = v ∧ b.settings = c.settings ∧
    p.invocation = b.invocation root ∧ p.shape = b.shape h

theorem Tidy.founded_of_none (hc : c.Tidy) (hnone : ∀ v, c.get? v = none) :
    c.Founded asked h root where
  toTidy := hc
  founded v p hp := by simp [hnone] at hp

/-- Plans that are dropped while the settings stay do no harm. -/
theorem Founded.of_fewer (hc : c.Founded asked h root) (htidy : c'.Tidy)
    (hsettings : c'.settings = c.settings)
    (hget : ∀ v p, c'.get? v = some p → c.get? v = some p) : c'.Founded asked h root where
  toTidy := htidy
  founded v p hp := by
    rw [hsettings]
    exact hc.founded v p (hget v p hp)

/-- **An act of planning keeps plans founded**, if its basis is one that was asked for. -/
theorem Founded.planKnowing (hc : c.Founded asked h root) (hu : c.basisOf u ∈ asked)
    (deps : Fingerprint) : (planKnowing h read root c u deps).1.Founded asked h root := by
  obtain ⟨fault, -, heq⟩ | ⟨p, hunit, heq, hp⟩ := hc.planKnowing_cases h read root u deps
  · rw [heq]
    exact hc
  · rw [heq]
    refine ⟨hc.keep p, ?_⟩
    intro v q hq
    rw [get?_keep] at hq
    split at hq
    case isTrue hv =>
      obtain rfl := Option.some.inj hq
      -- brought up to date, a plan has the foundation it had; made anew, it has the basis
      obtain ⟨old, hold, rfl⟩ | ⟨fields, -, rfl⟩ := hp
      · rw [hv, hunit]
        exact hc.founded u.id old hold
      · exact ⟨c.basisOf u, hu, hv.symm, rfl, rfl, rfl⟩
    case isFalse => exact hc.founded v q hq

/-- **The plan of a unit fits it**, be it a new one or one that was at hand. -/
theorem Founded.invocation_eq (hc : c.Founded asked h root) (hu : c.basisOf u ∈ asked)
    (hlegible : ∀ b ∈ asked, b.Legible)
    (hinj : Set.InjOn (Fingerprint.ofFields h) (PlanBasis.fields '' asked)) {deps : Fingerprint}
    (hp : (PlanCache.planKnowing h read root c u deps).2 = .ok p) :
    p.invocation = (c.basisOf u).invocation root := by
  by_cases hfits : c.Fits h u
  · -- the plan at hand has the shape of this basis, and that of the one it was made of
    obtain ⟨old, hold, hshape⟩ := hfits
    obtain ⟨b, hb, hid, hsettings, hinvocation, hmade⟩ := hc.founded u.id old hold
    have hfields : b.fields = (c.basisOf u).fields := by
      apply hinj (Set.mem_image_of_mem _ hb) (Set.mem_image_of_mem _ hu)
      exact hmade.symm.trans hshape
    have hsame : b.invocation root = (c.basisOf u).invocation root :=
      (PlanBasis.agrees_of_fields_eq hid (hlegible b hb) (hlegible _ hu) (Or.inl hsettings)
        hfields).invocation_eq
    obtain ⟨fault, -, heq⟩ | ⟨q, -, heq, hq⟩ := hc.planKnowing_cases h read root u deps
    · rw [heq] at hp
      cases hp
    · rw [heq] at hp
      obtain rfl := Except.ok.inj hp
      obtain ⟨old', hold', rfl⟩ | ⟨fields, -, rfl⟩ := hq
      · obtain rfl := Option.some.inj (hold'.symm.trans hold)
        exact hinvocation.trans hsame
      · rfl
  · rw [planKnowing_of_not_fits hfits, planAfresh] at hp
    cases hfields : contentFields read (c.inputsOf u) with
    | error fault => simp [hfields, Except.map] at hp
    | ok fields =>
      rw [hfields] at hp
      obtain rfl := Except.ok.inj hp
      rfl

theorem SameGround.basisOf (hground : SameGround c c') (u : CompilationUnit) :
    c'.basisOf u = c.basisOf u := by
  rw [PlanCache.basisOf, PlanCache.basisOf, hground.inputsOf, hground.1]

/-- The bases that come up when a unit is planned: its own and those of all units of the graph. -/
def basesFor (g : UnitGraph) (c : PlanCache) (u : CompilationUnit) : Set PlanBasis :=
  c.basisOf '' { v | v = u ∨ ∃ d, g.unit? d = some v }

/-- **Planning a unit keeps plans founded, and what it gives fits the unit.** -/
theorem Founded.planFor {g : UnitGraph} (hc : c.Founded asked h g.root) (read : SourceReader)
    (hu : c.basesFor g u ⊆ asked) :
    (planFor h read g c u).1.Founded asked h g.root ∧
      ((∀ b ∈ asked, b.Legible) →
        Set.InjOn (Fingerprint.ofFields h) (PlanBasis.fields '' asked) →
        ∀ p, (planFor h read g c u).2 = .ok p → p.invocation = (c.basisOf u).invocation g.root) := by
  have hbasis : ∀ (c₁ : PlanCache) v, (v = u ∨ ∃ d, g.unit? d = some v) → SameGround c c₁ →
      c₁.basisOf v ∈ asked := by
    intro c₁ v hv hground
    rw [hground.basisOf]
    exact hu ⟨v, hv, rfl⟩
  -- nothing that plans rest on changes on the way
  have hends := planFor_ends_among (g := g) h read
    (P := fun c₁ => c₁.Founded asked h g.root ∧ SameGround c c₁)
    (Q := fun v => v = u ∨ ∃ d, g.unit? d = some v) (fun d dep hd => Or.inr ⟨d, hd⟩) ?step
    (Or.inl rfl) ⟨hc, rfl, rfl⟩
  case step =>
    intro c₁ v deps hv hc₁
    have hchanged := hc₁.1.changedWithin_planKnowing h read g.root deps (u := v)
      (P := fun _ => True) trivial
    exact ⟨hc₁.1.planKnowing (hbasis c₁ v hv hc₁.2) deps, hc₁.2.trans hchanged.ground⟩
  obtain ⟨c₁, ⟨hc₁, -⟩, heq⟩ | ⟨c₁, deps, ⟨hc₁, hground⟩, heq⟩ := hends
  · rw [heq]
    exact ⟨hc₁, fun _ _ p hp => by cases hp⟩
  · rw [heq]
    have hasked := hbasis c₁ u (Or.inl rfl) hground
    refine ⟨hc₁.planKnowing hasked deps, ?_⟩
    intro hlegible hinj p hp
    rw [← hground.basisOf]
    exact hc₁.invocation_eq hasked hlegible hinj hp

end PlanCache

/-! ## Layer D: sessions -/

namespace PlanSession

variable {h : Hash} {base : FileSource} {g : UnitGraph} {s : PlanSession} {asked : Set PlanBasis}

/-- The bases that come up in a call. -/
def askedBy (g : UnitGraph) (s : PlanSession) : PlanCall → Set PlanBasis
  | .plan u => s.plans.basesFor g u
  | _ => ∅

/-- The bases that come up in a session. -/
def askedByAll (h : Hash) (base : FileSource) (g : UnitGraph) :
    PlanSession → List PlanCall → Set PlanBasis
  | _, [] => ∅
  | s, call :: rest => s.askedBy g call ∪ askedByAll h base g (s.perform h base g call) rest

theorem askedByAll_append (s : PlanSession) (calls rest : List PlanCall) :
    s.askedByAll h base g (calls ++ rest) =
      s.askedByAll h base g calls ∪ (s.performAll h base g calls).askedByAll h base g rest := by
  induction calls generalizing s with
  | nil => simp [askedByAll, performAll]
  | cons call calls ih =>
    rw [List.cons_append, askedByAll, ih, askedByAll, Set.union_assoc]
    rfl

/-- **One call keeps plans founded.** -/
theorem founded_perform (hs : s.plans.Founded asked h g.root) {call : PlanCall}
    (hasked : s.askedBy g call ⊆ asked) :
    (s.perform h base g call).plans.Founded asked h g.root := by
  cases call with
  | plan u => exact (hs.planFor _ hasked).1
  | invalidate r =>
    exact hs.of_fewer (hs.invalidate r) rfl fun v p hp => ((hs.get?_invalidate r).1 hp).1
  | learn v paths =>
    obtain ⟨heq, -⟩ | heq := PlanCache.learnInputs_cases s.plans v paths
    · rw [perform, heq]
      exact hs.of_fewer (hs.addLearned v paths) rfl fun _ _ hp => hp
    · rw [perform, heq]
      have htidy := hs.addLearned v paths
      exact hs.of_fewer (htidy.invalidate (.unit v)) rfl
        fun _ _ hp => ((htidy.get?_invalidate (.unit v)).1 hp).1
  | configure settings =>
    show (s.plans.setSettings settings).1.Founded asked h g.root
    unfold PlanCache.setSettings
    split
    case isTrue => exact hs
    case isFalse =>
      -- other settings leave no plan
      have htidy := hs.toTidy.withSettings settings
      exact (htidy.invalidate .all).founded_of_none htidy.get?_invalidate_all
  | reset => exact hs.toTidy.reset.founded_of_none hs.toTidy.get?_invalidate_all
  | edit call => exact hs

/-- **A session keeps plans founded.** -/
theorem founded_performAll (hs : s.plans.Founded asked h g.root) {calls : List PlanCall}
    (hasked : s.askedByAll h base g calls ⊆ asked) :
    (s.performAll h base g calls).plans.Founded asked h g.root := by
  induction calls generalizing s with
  | nil => exact hs
  | cons call rest ih =>
    obtain ⟨hcall, hrest⟩ := Set.union_subset_iff.1 hasked
    exact ih (founded_perform hs hcall) hrest

/-- **The shape of a plan decides its invocation.** Versions of a unit with one shape agree in all
that an invocation shows, so they have the same one; and whatever was planned, dropped, learned,
configured and edited before, a plan fits the version of the unit that it is asked for: its
invocation is the one that would be made now. All this holds while the shapes can be read back, and
the hash does not confuse those that come up. -/
theorem shape_decides_invocation (h : Hash) (g : UnitGraph) :
    (∀ b b' : PlanBasis, b.unit.id = b'.unit.id → b.Legible → b'.Legible →
      (b.settings = b'.settings ∨ b.Marked ∧ b'.Marked) →
      Set.InjOn (Fingerprint.ofFields h) {b.fields, b'.fields} → b.shape h = b'.shape h →
      b.Agrees b' ∧ b.invocation g.root = b'.invocation g.root) ∧
    ∀ (base : FileSource) (settings : BuildSettings) (o : Overlay) (calls : List PlanCall)
        (u : CompilationUnit),
      let asked := (start settings o).askedByAll h base g (calls ++ [.plan u])
      let s := (start settings o).performAll h base g calls
      (∀ b ∈ asked, b.Legible) →
      Set.InjOn (Fingerprint.ofFields h) (PlanBasis.fields '' asked) →
      ∀ c p, s.plans.planFor h (s.read base) g u = (c, .ok p) →
        p.invocation = .of g.root s.plans.settings u (s.plans.inputsOf u) := by
  refine ⟨?versions, ?session⟩
  case versions =>
    intro b b' hid hb hb' hsettings hinj hshape
    have hfields : b.fields = b'.fields := hinj (by simp) (by simp) hshape
    have hagree := PlanBasis.agrees_of_fields_eq hid hb hb' hsettings hfields
    exact ⟨hagree, hagree.invocation_eq⟩
  case session =>
    intro base settings o calls u asked s hlegible hinj c p hplan
    -- the plan asked for in the end adds its basis to those of the calls before
    have hasked : asked = (start settings o).askedByAll h base g calls ∪ s.plans.basesFor g u := by
      simp only [asked, askedByAll_append, askedByAll, Set.union_empty]
      rfl
    have hstart : (start settings o).plans.Founded asked h g.root :=
      (PlanCache.tidy_new settings).founded_of_none fun v => rfl
    have hfounded : s.plans.Founded asked h g.root :=
      founded_performAll hstart (hasked ▸ Set.subset_union_left)
    have hplanned := (hfounded.planFor (s.read base) (hasked ▸ Set.subset_union_right)).2
      hlegible hinj p
    rw [hplan] at hplanned
    exact hplanned rfl

/-! ## Layer E: a library and its versions -/

open Situation (libraryWith modelOf writtenOut ofBytes_writtenOut_injective)

/-- A project of one library. -/
def libraryGraph : UnitGraph := UnitGraph.assemble (modelOf [libraryWith []])

/-- What the invocation of the library with some features is made of. -/
def libraryBasis (features : List String) : PlanBasis := ⟨libraryWith features, {}, [⟨"/core.rs"⟩]⟩

/-- The library with its sources in another folder, which no invocation shows. -/
def movedBasis : PlanBasis :=
  ⟨{ libraryWith [] with srcRoot := ⟨"/moved"⟩ }, {}, [⟨"/core.rs"⟩]⟩

theorem ofModel_library : UnitGraph.ofModel (modelOf [libraryWith []]) = .ok libraryGraph := by
  decide +kernel

theorem unit_of_libraryGraph {d : UnitId} {v : CompilationUnit}
    (hv : libraryGraph.unit? d = some v) : v = libraryWith [] := by
  have hsound := UnitGraph.sound_ofModel ofModel_library
  have hmem := (hsound.ordered.get?_eq_some_iff d v).1 hv
  have hentries : libraryGraph.units.entries = [(.lib "core", libraryWith [])] := by decide +kernel
  rw [hentries] at hmem
  exact (Prod.mk.inj (List.mem_singleton.1 hmem)).2

/-- The library with a feature, in a session in which it was planned without one. -/
def featureCalls : List PlanCall := [.plan (libraryWith [])]

/-- The session in which the library was planned once. -/
def plannedOnce : PlanSession :=
  (start {} .fresh).performAll writtenOut selfNamed libraryGraph featureCalls

theorem plannedOnce_ground : PlanCache.SameGround (.new {}) plannedOnce.plans :=
  ((PlanCache.tidy_new {}).tidy_planFor ofModel_library writtenOut
    ((start {} .fresh).read selfNamed) (libraryWith [])).2

theorem inputsOf_library (features : List String) :
    (PlanCache.new {}).inputsOf (libraryWith features) = [⟨"/core.rs"⟩] := by
  have hplain : (PlanCache.new {}).inputsOf (libraryWith []) = [⟨"/core.rs"⟩] := by decide +kernel
  exact hplain

/-- Nothing but the two versions of the library comes up. -/
theorem asked_library :
    (start {} .fresh).askedByAll writtenOut selfNamed libraryGraph
        (featureCalls ++ [.plan (libraryWith ["extra"])]) ⊆
      {libraryBasis [], libraryBasis ["extra"]} := by
  have hbases (c : PlanCache) (hground : PlanCache.SameGround (.new {}) c) (features : List String) :
      c.basesFor libraryGraph (libraryWith features) ⊆ {libraryBasis [], libraryBasis features} := by
    intro b hb
    obtain ⟨v, hv, rfl⟩ := hb
    rw [hground.basisOf]
    obtain rfl | ⟨d, hd⟩ := hv
    · exact Or.inr (congrArg (PlanBasis.mk _ _) (inputsOf_library _))
    · rw [unit_of_libraryGraph hd]
      exact Or.inl (congrArg (PlanBasis.mk _ _) (inputsOf_library _))
  rw [askedByAll_append]
  apply Set.union_subset
  · have hfirst := hbases _ ⟨rfl, rfl⟩ []
    simp only [featureCalls, askedByAll, askedBy, Set.union_empty]
    exact hfirst.trans (by simp)
  · simp only [askedByAll, askedBy, Set.union_empty]
    exact hbases _ plannedOnce_ground ["extra"]

theorem legible_library (features : List String) : (libraryBasis features).Legible where
  inputs := by
    intro p hp
    obtain rfl := List.mem_singleton.1 hp
    decide
  target := by simp [libraryBasis, libraryWith, CompilationUnit.new]
  deps := by simp [libraryBasis, libraryWith, CompilationUnit.new]

/-- What planning a version of the library comes to then. -/
def planAgain (u : CompilationUnit) : PlanCache × Except BuildFault Plan :=
  plannedOnce.plans.planFor writtenOut (plannedOnce.read selfNamed) libraryGraph u

/-- What is seen of a plan belongs to one. -/
theorem exists_of_seen {α : Type} {planning : PlanCache × Except BuildFault Plan} {see : Plan → α}
    {x : α} (h : planning.2.toOption.map see = some x) :
    ∃ c p, planning = (c, .ok p) ∧ see p = x := by
  obtain ⟨c, r⟩ := planning
  cases r with
  | error fault => cases h
  | ok p => exact ⟨c, p, rfl, Option.some.inj h⟩

/-- The source root of the library does not matter; and after it was planned without a feature, it
is planned with one by the command that has it. -/
theorem library_plans_fit :
    (libraryBasis []).unit ≠ movedBasis.unit ∧
      (libraryBasis []).invocation libraryGraph.root = movedBasis.invocation libraryGraph.root ∧
      ∃ c p, planAgain (libraryWith ["extra"]) = (c, .ok p) ∧
        p.invocation = .of libraryGraph.root {} (libraryWith ["extra"]) [⟨"/core.rs"⟩] ∧
        "feature=\"extra\"" ∈ p.invocation.command.args := by
  obtain ⟨hversions, hsession⟩ := shape_decides_invocation writtenOut libraryGraph
  have hsmall : ∀ b ∈ ({libraryBasis [], libraryBasis ["extra"], movedBasis} : Set PlanBasis),
      ∀ f ∈ b.fields, f.length < 256 ^ 8 := by
    intro b hb
    obtain rfl | rfl | rfl := hb
    · decide +kernel
    · decide +kernel
    · decide +kernel
  refine ⟨by decide, ?_, ?_⟩
  · -- no cache key is free of slashes, so none is the name of the compiler
    have hmarked : (libraryBasis []).Marked :=
      ⟨by decide, by decide, fun d => (UnitId.cacheKey_ne_of_noSlash (by decide)).symm, by decide⟩
    have hmoved : movedBasis.Marked :=
      ⟨by decide, by decide, fun d => (UnitId.cacheKey_ne_of_noSlash (by decide)).symm, by decide⟩
    have hlegible : movedBasis.Legible :=
      ⟨(legible_library []).inputs, (legible_library []).target, (legible_library []).deps⟩
    refine (hversions (libraryBasis []) movedBasis rfl (legible_library []) hlegible
      (Or.inr ⟨hmarked, hmoved⟩) ?_ rfl).2
    apply Fingerprint.injOn_ofFields ofBytes_writtenOut_injective
    intro fs hfs
    obtain rfl | rfl := hfs
    · exact hsmall _ (by simp)
    · exact hsmall _ (by simp)
  · have hseen : (planAgain (libraryWith ["extra"])).2.toOption.map
        (·.invocation.command.args.contains "feature=\"extra\"") = some true := by decide +kernel
    obtain ⟨c, p, hp, hfeature⟩ := exists_of_seen hseen
    refine ⟨c, p, hp, ?_, List.contains_iff_mem.1 hfeature⟩
    have hlegible : ∀ b ∈ (start {} .fresh).askedByAll writtenOut selfNamed libraryGraph
        (featureCalls ++ [.plan (libraryWith ["extra"])]), b.Legible := by
      intro b hb
      obtain rfl | rfl := asked_library hb
      · exact legible_library _
      · exact legible_library _
    have hinj : Set.InjOn (Fingerprint.ofFields writtenOut) (PlanBasis.fields ''
        (start {} .fresh).askedByAll writtenOut selfNamed libraryGraph
          (featureCalls ++ [.plan (libraryWith ["extra"])])) := by
      apply Fingerprint.injOn_ofFields ofBytes_writtenOut_injective
      intro fs hfs
      obtain ⟨b, hb, rfl⟩ := hfs
      obtain rfl | rfl := asked_library hb
      · exact hsmall _ (by simp)
      · exact hsmall _ (by simp)
    -- the second part of the theorem, for the session in which the library was planned once
    have hinvocation : p.invocation = .of libraryGraph.root plannedOnce.plans.settings
        (libraryWith ["extra"]) (plannedOnce.plans.inputsOf (libraryWith ["extra"])) :=
      hsession selfNamed {} .fresh featureCalls _ hlegible hinj c p hp
    rw [hinvocation, plannedOnce_ground.1, plannedOnce_ground.inputsOf, inputsOf_library]
    rfl

/-- The library for a target. -/
def libraryFor (target : String) : CompilationUnit := { libraryWith [] with target := some target }

/-- **Shapes hide arguments**: an empty target looks like none, and an input called like the word
that ends the inputs looks like a feature. So a plan at hand is used for a version of its unit that
needs another command. The hash confuses nothing. -/
theorem shapes_hide_arguments :
    Function.Injective writtenOut.ofBytes ∧
    (∀ h s, PlanBasis.shape h ⟨libraryFor "", s, [⟨"/core.rs"⟩]⟩ =
      PlanBasis.shape h ⟨libraryWith [], s, [⟨"/core.rs"⟩]⟩) ∧
    (∀ h s, PlanBasis.shape h ⟨libraryWith ["features"], s, [⟨"/core.rs"⟩]⟩ =
      PlanBasis.shape h ⟨libraryWith [], s, [⟨"/core.rs"⟩, ⟨"features"⟩]⟩) ∧
    (libraryFor "").id = (libraryWith []).id ∧
    ∃ c p, planAgain (libraryFor "") = (c, .ok p) ∧ p.invocation ≠
      .of libraryGraph.root plannedOnce.plans.settings (libraryFor "")
        (plannedOnce.plans.inputsOf (libraryFor "")) := by
  refine ⟨ofBytes_writtenOut_injective, fun h s => rfl, fun h s => rfl, rfl, ?_⟩
  have hseen : (planAgain (libraryFor "")).2.toOption.map
      (·.invocation.command.args.contains "--target") = some false := by decide +kernel
  obtain ⟨c, p, hp, hno⟩ := exists_of_seen hseen
  refine ⟨c, p, hp, ?_⟩
  -- a command for the version asked for would have the target among its arguments
  intro hfits
  rw [hfits, plannedOnce_ground.1, plannedOnce_ground.inputsOf] at hno
  exact absurd hno (by decide +kernel)

end PlanSession

end CodeAtlas

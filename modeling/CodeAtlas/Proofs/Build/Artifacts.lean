import CodeAtlas.Build.Invocation
import CodeAtlas.Proofs.Path.Normal
import CodeAtlas.Proofs.Project.Graph

/-!
# Where artifacts lie

The directory of a unit is named after its target, in the form that the compiler knows, and its
kind. Its package does not count, and neither does whether the target is written with `-` or with
`_`. Two units whose targets are plain names share a directory, and the artifact in it, if and only
if they agree in both; and what a dependency is given as is the artifact of the unit it names.

## Architecture

- **Layer A**: a path with one more segment;
- **Layer B**: names of directories and artifacts;
- **Layer C**: the invocations of a project.
-/

namespace CodeAtlas

/-! ## Layer A: paths -/

namespace Path

/-- The text of a path with one more segment, up to the separator that may have been there. -/
private theorem child_toList {p : Path} {s : String} (hp : p.text ≠ "") (hs : '/' ∉ s.toList) :
    ∃ front, (p.child s).text.toList = front ++ '/' :: s.toList ∧
      (p.text.toList = front ∧ front ≠ [] ∨ p.text.toList = front ++ ['/']) := by
  have hrelative : (Path.mk s).isAbsolute = false := by
    unfold isAbsolute
    by_contra hhead
    have hslash : s.toList.head? = some '/' := by simpa using hhead
    exact hs (List.mem_of_head? hslash)
  have hnonempty : p.text.isEmpty = false := by simpa using hp
  unfold child join
  simp only [hrelative, hnonempty, Bool.false_eq_true, if_false]
  split
  -- the parent ends in a separator, which then serves for both
  · rename_i hlast
    have hslash : p.text.toList.getLast? = some '/' := by simpa using hlast
    obtain ⟨front, hfront⟩ := List.getLast?_eq_some_iff.1 hslash
    refine ⟨front, ?_, .inr hfront⟩
    simp [hfront]
  · refine ⟨p.text.toList, ?_, .inl ⟨rfl, ?_⟩⟩
    · simp
    · simpa using hp

/-- **One more segment is one more component.** -/
theorem parts_child (p : Path) {s : String} {q : Part} (hq : q.Plain) (hs : q.text = s) :
    (p.child s).parts = p.parts ++ [q] := by
  have hslash : '/' ∉ s.toList := hs ▸ hq.2
  have hread : Part.ofSegment? s.toList = some q := hs ▸ hq.1
  by_cases hp : p.text = ""
  · -- seen from an empty path, the segment stands for itself
    obtain ⟨text⟩ := p
    obtain rfl : text = "" := hp
    have hrender : render [q] = s := by
      cases q with
      | root => exact absurd hq.1 (by decide)
      | current | parent | name => simp [render, hs]
    have hparts := parts_render (l := [q]) (by simpa using hq)
    rw [hrender] at hparts
    have hchild : child ⟨""⟩ s = ⟨s⟩ := by
      unfold child join
      split <;> rfl
    rw [hchild, hparts]
    rfl
  · obtain ⟨front, hchild, htext⟩ := child_toList hp hslash
    have hone : s.toList.splitOn '/' = [s.toList] := List.splitOn_eq_singleton hslash
    have hsegments : (p.child s).segments = front.splitOn '/' ++ [s.toList] := by
      rw [segments, hchild, List.splitOn_append_cons_self, hone]
    -- a trailing separator adds a segment that is empty and stands for nothing
    have hbefore : p.segments.filterMap Part.ofSegment? =
        (front.splitOn '/').filterMap Part.ofSegment? ∧
        p.segments.head? = (front.splitOn '/').head? ∧
        p.text.toList.head? = (front ++ '/' :: s.toList).head? := by
      rcases htext with ⟨htext, hne⟩ | htext
      · refine ⟨by rw [segments, htext], by rw [segments, htext], ?_⟩
        rw [htext, List.head?_append_of_ne_nil _ hne]
      · have hsplit : p.segments = front.splitOn '/' ++ [[]] := by
          rw [segments, htext, List.splitOn_append_cons_self, List.splitOn_nil]
        refine ⟨?_, ?_, ?_⟩
        · rw [hsplit, List.filterMap_append]
          simp [Part.ofSegment?]
        · rw [hsplit, List.head?_append_of_ne_nil _ (List.splitOn_ne_nil _ _)]
        · rw [htext]
          cases front <;> rfl
    obtain ⟨hbody, hhead, hfirst⟩ := hbefore
    have hsame : (p.child s).segments.head? = p.segments.head? := by
      rw [hsegments, hhead, List.head?_append_of_ne_nil _ (List.splitOn_ne_nil _ _)]
    have habsolute : (p.child s).isAbsolute = p.isAbsolute := by
      unfold isAbsolute
      rw [hchild, hfirst]
    have hnew : (p.child s).segments.filterMap Part.ofSegment? =
        p.segments.filterMap Part.ofSegment? ++ [q] := by
      rw [hsegments, List.filterMap_append, hbody]
      simp [hread]
    unfold parts
    simp only [habsolute, hsame, hnew]
    split
    · rfl
    · split <;> rfl

end Path

/-- A segment without separators that is not made of dots is a name. -/
theorem Part.plain_name {s : String} {c : Char} (hc : c ∈ s.toList) (hdot : c ≠ '.')
    (hs : '/' ∉ s.toList) : (Part.name s).Plain := by
  have hempty : s.toList ≠ [] := List.ne_nil_of_mem hc
  have hone : s.toList ≠ ['.'] := by
    intro heq
    simp [heq, hdot] at hc
  have htwo : s.toList ≠ ['.', '.'] := by
    intro heq
    simp [heq, hdot] at hc
  refine ⟨?_, hs⟩
  show ofSegment? s.toList = some (.name s)
  simp [ofSegment?, hone, htwo, List.isEmpty_iff, hempty]

/-! ## Layer B: names -/

namespace UnitId

/-- **Units that artifacts do not tell apart**: the compiler knows them under one name, and they are
of one kind. -/
def Alike (u v : UnitId) : Prop := u.crateName = v.crateName ∧ u.kind = v.kind

instance (u v : UnitId) : Decidable (u.Alike v) := inferInstanceAs (Decidable (_ ∧ _))

theorem crateName_toList (u : UnitId) :
    u.crateName.toList = u.target.toList.map fun c => if c = '-' then '_' else c :=
  String.toList_ofList

theorem dash_notMem_crateName (u : UnitId) : '-' ∉ u.crateName.toList := by
  rw [crateName_toList]
  intro hmem
  obtain ⟨c, -, hc⟩ := List.mem_map.1 hmem
  split at hc
  · cases hc
  · contradiction

theorem slash_notMem_crateName {u : UnitId} (hu : '/' ∉ u.target.toList) :
    '/' ∉ u.crateName.toList := by
  rw [crateName_toList]
  intro hmem
  obtain ⟨c, hmem, hc⟩ := List.mem_map.1 hmem
  split at hc
  · cases hc
  · exact hu (hc ▸ hmem)

end UnitId

theorem UnitKind.name_injective {k l : UnitKind} (h : k.name = l.name) : k = l := by
  cases k <;> cases l <;> revert h <;> decide

namespace Invocation

variable {root : Path} {s : BuildSettings} {u v : UnitId}

/-- **The name of a directory is read in one way**: up to the first `-` it is the name that the
compiler knows, and behind it the kind. -/
theorem dirName_eq_iff :
    u.crateName ++ "-" ++ u.kind.name = v.crateName ++ "-" ++ v.kind.name ↔ u.Alike v := by
  constructor
  · intro h
    have hlists : u.crateName.toList ++ '-' :: u.kind.name.toList =
        v.crateName.toList ++ '-' :: v.kind.name.toList := by
      simpa using congrArg String.toList h
    -- the name in front has no dash, so the first dash is the one between the two
    have hsplits := congrArg (List.splitOn '-') hlists
    rw [List.splitOn_append_cons_self_of_not_mem u.dash_notMem_crateName,
      List.splitOn_append_cons_self_of_not_mem v.dash_notMem_crateName] at hsplits
    have hcrate := (List.cons.inj hsplits).1
    rw [hcrate, List.append_cancel_left_eq] at hlists
    have hkind := (List.cons.inj hlists).2
    exact ⟨String.toList_inj.1 hcrate, UnitKind.name_injective (String.toList_inj.1 hkind)⟩
  · rintro ⟨hcrate, hkind⟩
    rw [hcrate, hkind]

theorem outDir_parts (hu : '/' ∉ u.target.toList) :
    (outDir root s u).parts =
      (root.join s.outDir).parts ++ [.name (u.crateName ++ "-" ++ u.kind.name)] := by
  refine Path.parts_child _ ?_ rfl
  refine Part.plain_name (c := '-') (by simp) (by decide) ?_
  have hkind : '/' ∉ u.kind.name.toList := by
    cases u.kind <;> decide
  simpa [hkind] using UnitId.slash_notMem_crateName hu

theorem artifact_parts (hu : '/' ∉ u.target.toList) :
    (artifact root s u).parts =
      (outDir root s u).parts ++ [.name ("lib" ++ u.crateName ++ ".rmeta")] := by
  refine Path.parts_child _ ?_ rfl
  refine Part.plain_name (c := 'l') (by simp) (by decide) ?_
  simpa using UnitId.slash_notMem_crateName hu

/-- **Two units share a directory if and only if they are alike.** -/
theorem outDir_same_iff (hu : '/' ∉ u.target.toList) (hv : '/' ∉ v.target.toList) :
    (outDir root s u).same (outDir root s v) = true ↔ u.Alike v := by
  rw [Path.same, beq_iff_eq, outDir_parts hu, outDir_parts hv, List.append_cancel_left_eq]
  simp [dirName_eq_iff]

/-- **Two units share an artifact if and only if they are alike.** -/
theorem artifact_same_iff (hu : '/' ∉ u.target.toList) (hv : '/' ∉ v.target.toList) :
    (artifact root s u).same (artifact root s v) = true ↔ u.Alike v := by
  rw [Path.same, beq_iff_eq, artifact_parts hu, artifact_parts hv]
  constructor
  · intro h
    -- the directories are what stands before the last component
    have hdirs := congrArg List.dropLast h
    rw [List.dropLast_concat, List.dropLast_concat] at hdirs
    have hsame : (outDir root s u).same (outDir root s v) = true := by
      simpa [Path.same] using hdirs
    exact (outDir_same_iff hu hv).1 hsame
  · intro h
    have hsame : (outDir root s u).same (outDir root s v) = true := (outDir_same_iff hu hv).2 h
    rw [Path.same, beq_iff_eq] at hsame
    rw [hsame, h.1]

/-! ## Layer C: the invocations of a project -/

theorem outDir_infix_args (root : Path) (s : BuildSettings) (u : CompilationUnit) :
    ["--out-dir", (outDir root s u.id).text] <:+: args root s u := by
  refine ⟨["--crate-name", u.id.crateName, "--edition", s.edition, u.rootFile.text]
    ++ kindArgs u.id.kind ++ featureArgs u.features ++ targetArgs u s
    ++ dependencyArgs root s u.deps
    ++ ["--emit=metadata", "--error-format=json", "-Zsave-analysis"], s.extraArgs, ?_⟩
  simp [args]

theorem dependencyArgs_infix_args (root : Path) (s : BuildSettings) (u : CompilationUnit) :
    dependencyArgs root s u.deps <:+: args root s u := by
  refine ⟨["--crate-name", u.id.crateName, "--edition", s.edition, u.rootFile.text]
    ++ kindArgs u.id.kind ++ featureArgs u.features ++ targetArgs u s,
    ["--emit=metadata", "--error-format=json", "-Zsave-analysis",
      "--out-dir", (outDir root s u.id).text] ++ s.extraArgs, ?_⟩
  simp [args]

/-- **Artifacts are kept apart as far as names go.** In a project whose targets are plain names, the
directories that two invocations write to are the same if and only if their units are alike, and so
are the files that they put out. And each dependency that is passed on is given by an output of the
unit it names, which is no output of a unit that is not like it. -/
theorem artifacts_are_kept_apart {m : ProjectModel} {g : UnitGraph}
    (hg : UnitGraph.ofModel m = .ok g)
    (hplain : ∀ id c, g.unit? id = some c → '/' ∉ id.target.toList) (s : BuildSettings) :
    (∀ u v, g.unit? u.id = some u → g.unit? v.id = some v → ∀ is js,
      ∃ p q : Path,
        ["--out-dir", p.text] <:+: (Invocation.of g.root s u is).command.args ∧
        ["--out-dir", q.text] <:+: (Invocation.of g.root s v js).command.args ∧
        (p.same q = true ↔ u.id.Alike v.id) ∧
        ∀ a ∈ (Invocation.of g.root s u is).outputs, ∀ b ∈ (Invocation.of g.root s v js).outputs,
          (a.same b = true ↔ u.id.Alike v.id)) ∧
    ∀ u, g.unit? u.id = some u → ∀ is,
      dependencyArgs g.root s u.deps <:+: (Invocation.of g.root s u is).command.args ∧
      ∀ e ∈ dependencyArgs g.root s u.deps, e ≠ "--extern" →
        ∃ d, g.unit? d.id = some d ∧ d.id ∈ u.deps ∧ ∀ js,
          ∃ p ∈ (Invocation.of g.root s d js).outputs, e = d.id.crateName ++ "=" ++ p.text ∧
            ∀ w, g.unit? w.id = some w → ∀ ks, ∀ q ∈ (Invocation.of g.root s w ks).outputs,
              p.same q = true → d.id.Alike w.id := by
  constructor
  · intro u v hu hv is js
    have hup := hplain u.id u hu
    have hvp := hplain v.id v hv
    refine ⟨outDir g.root s u.id, outDir g.root s v.id, outDir_infix_args g.root s u,
      outDir_infix_args g.root s v, outDir_same_iff hup hvp, ?_⟩
    intro a ha b hb
    obtain rfl := List.mem_singleton.1 ha
    obtain rfl := List.mem_singleton.1 hb
    exact artifact_same_iff hup hvp
  · intro u hu is
    refine ⟨dependencyArgs_infix_args g.root s u, ?_⟩
    intro e he hne
    obtain ⟨d, hd, he⟩ := List.mem_flatMap.1 he
    -- the graph knows the unit that the dependency names
    obtain ⟨c, hc⟩ := UnitGraph.unit?_of_mem_deps hg hu hd
    obtain rfl := UnitGraph.id_of_unit? hg hc
    have hentry : e = c.id.crateName ++ "=" ++ (artifact g.root s c.id).text := by
      simpa [hne] using he
    refine ⟨c, hc, hd, ?_⟩
    intro js
    refine ⟨artifact g.root s c.id, List.mem_singleton.2 rfl, hentry, ?_⟩
    intro w hw ks q hq hsame
    obtain rfl := List.mem_singleton.1 hq
    exact (artifact_same_iff (hplain c.id c hc) (hplain w.id w hw)).1 hsame

/-- A library and its variant with tests. -/
def variantModel : ProjectModel :=
  { root := ⟨"/w"⟩
    units :=
      [.new (.lib "app") ⟨"/w/app/src/lib.rs"⟩,
        .new (UnitId.lib "app").testVariant ⟨"/w/app/src/lib.rs"⟩]
    manifests := []
    buildScriptFiles := [] }

/-- The library and its variant put out different files. -/
theorem variants_are_kept_apart :
    ∃ g, UnitGraph.ofModel variantModel = .ok g ∧ ∀ u v, g.unit? u.id = some u →
      g.unit? v.id = some v → u.id = .lib "app" → v.id = (UnitId.lib "app").testVariant →
      ∀ a ∈ (Invocation.of g.root {} u []).outputs, ∀ b ∈ (Invocation.of g.root {} v []).outputs,
        ¬ a.same b = true := by
  have hg : UnitGraph.ofModel variantModel = .ok (UnitGraph.assemble variantModel) := by
    decide +kernel
  -- no name of the model holds a separator
  have hplain : ∀ id c, (UnitGraph.assemble variantModel).unit? id = some c →
      '/' ∉ id.target.toList := by
    intro id c hc
    obtain ⟨d, hd, rfl, -⟩ := (UnitGraph.unit?_ofModel hg).1 hc
    clear hc
    revert d
    decide
  refine ⟨_, hg, ?_⟩
  intro u v hu hv hlib htest a ha b hb hsame
  obtain ⟨p, q, -, -, -, houtputs⟩ := (artifacts_are_kept_apart hg hplain {}).1 u v hu hv [] []
  have halike := (houtputs a ha b hb).1 hsame
  rw [hlib, htest] at halike
  exact absurd halike.2 (by decide)

/-- Two packages, each with a build script, and two libraries whose names differ in how they are
written. -/
def homonymModel : ProjectModel :=
  { root := ⟨"/w"⟩
    units :=
      [.new ⟨"alpha", "build-script-build", .buildScript⟩ ⟨"/w/alpha/build.rs"⟩,
        .new ⟨"beta", "build-script-build", .buildScript⟩ ⟨"/w/beta/build.rs"⟩,
        .new (.lib "my-app") ⟨"/w/my-app/src/lib.rs"⟩,
        .new (.lib "my_app") ⟨"/w/my_app/src/lib.rs"⟩]
    manifests := []
    buildScriptFiles := [] }

/-- **Build scripts of different packages share an artifact**, and so do libraries whose names differ
in `-` and `_` only. -/
theorem homonyms_share_artifacts :
    ∃ g, UnitGraph.ofModel homonymModel = .ok g ∧ ∃ a b c d, g.unit? a.id = some a ∧
      g.unit? b.id = some b ∧ g.unit? c.id = some c ∧ g.unit? d.id = some d ∧
      a.id ≠ b.id ∧ outDir g.root {} a.id = outDir g.root {} b.id ∧
      (Invocation.of g.root {} a []).outputs = (Invocation.of g.root {} b []).outputs ∧
      c.id ≠ d.id ∧ outDir g.root {} c.id = outDir g.root {} d.id ∧
      (Invocation.of g.root {} c []).outputs = (Invocation.of g.root {} d []).outputs := by
  refine ⟨UnitGraph.assemble homonymModel, by decide +kernel,
    .new ⟨"alpha", "build-script-build", .buildScript⟩ ⟨"/w/alpha/build.rs"⟩,
    .new ⟨"beta", "build-script-build", .buildScript⟩ ⟨"/w/beta/build.rs"⟩,
    .new (.lib "my-app") ⟨"/w/my-app/src/lib.rs"⟩,
    .new (.lib "my_app") ⟨"/w/my_app/src/lib.rs"⟩, ?_⟩
  decide +kernel

end Invocation

end CodeAtlas

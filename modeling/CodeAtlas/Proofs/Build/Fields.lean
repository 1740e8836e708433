import CodeAtlas.Build.Plan
import CodeAtlas.Proofs.Digest.Fingerprint
import Mathlib.Data.List.Forall2

/-!
# Theory of hashed fields

A fingerprint stands for a sequence of fields, and the fields tell what they were made from: the
paths and contents of files, the dependencies of a unit, the settings of a build.
-/

namespace CodeAtlas

open Fingerprint (textField pathField)

theorem contentFields_cons (read : SourceReader) (p : Path) (ps : List Path) :
    contentFields read (p :: ps) = match read p with
      | .ok text => (contentFields read ps).map ([pathField p, textField text] ++ ·)
      | .error fault => .error (.ofOverlay fault) := by
  unfold contentFields
  rw [List.mapM_cons]
  cases read p with
  | error fault => rfl
  | ok text =>
    generalize (fun q => _ : Path → Except BuildFault (List Bytes)) = fieldsOf
    cases ps.mapM fieldsOf <;> rfl

/-- A file that can be read has a field for its path and one for its content. -/
theorem contentFields_cons_eq_ok {read : SourceReader} {p : Path} {ps : List Path}
    {fields : List Bytes} : contentFields read (p :: ps) = .ok fields ↔
      ∃ text rest, read p = .ok text ∧ contentFields read ps = .ok rest ∧
        fields = pathField p :: textField text :: rest := by
  rw [contentFields_cons]
  cases read p with
  | error fault => simp
  | ok text =>
    cases contentFields read ps with
    | error fault => simp [Except.map]
    | ok rest => simp [Except.map, eq_comm]

/-- **The fields of files tell their paths and contents.** -/
theorem eq_of_contentFields_eq {read read' : SourceReader} {ps qs : List Path}
    {fields : List Bytes} (hp : contentFields read ps = .ok fields)
    (hq : contentFields read' qs = .ok fields) : ps = qs ∧ ∀ p ∈ ps, read p = read' p := by
  induction ps generalizing qs fields with
  | nil =>
    obtain rfl : [] = fields := Except.ok.inj hp
    cases qs with
    | nil => exact ⟨rfl, by simp⟩
    | cons q qs =>
      obtain ⟨text, rest, -, -, hfields⟩ := contentFields_cons_eq_ok.1 hq
      cases hfields
  | cons p ps ih =>
    obtain ⟨text, rest, hread, hrest, rfl⟩ := contentFields_cons_eq_ok.1 hp
    cases qs with
    | nil => cases Except.ok.inj hq
    | cons q qs =>
      obtain ⟨text', rest', hread', hrest', hfields⟩ := contentFields_cons_eq_ok.1 hq
      -- fields are told apart one by one, so the first file is the same and so are the others
      obtain ⟨hpath, htail⟩ := List.cons.inj hfields
      obtain ⟨htext, rfl⟩ := List.cons.inj htail
      obtain rfl := Fingerprint.pathField_injective hpath
      obtain rfl := Fingerprint.textField_injective htext
      obtain ⟨rfl, hsame⟩ := ih hrest hrest'
      exact ⟨rfl, List.forall_mem_cons.2 ⟨hread.trans hread'.symm, hsame⟩⟩

/-- Blocks of one length are told apart when they are strung together. -/
theorem forall₂_of_flatMap_eq {α β γ : Type} {f : α → List γ} {k : β → List γ} {n : Nat}
    {l : List α} {l' : List β} (hf : ∀ a ∈ l, (f a).length = n + 1)
    (hk : ∀ b ∈ l', (k b).length = n + 1) (h : l.flatMap f = l'.flatMap k) :
    List.Forall₂ (fun a b => f a = k b) l l' := by
  induction l generalizing l' with
  | nil =>
    cases l' with
    | nil => exact .nil
    | cons b rest =>
      have hlen := hk b (List.mem_cons_self ..)
      have hnil : k b = [] := (List.append_eq_nil_iff.1 h.symm).1
      simp [hnil] at hlen
  | cons a rest ih =>
    cases l' with
    | nil =>
      have hlen := hf a (List.mem_cons_self ..)
      have hnil : f a = [] := (List.append_eq_nil_iff.1 h).1
      simp [hnil] at hlen
    | cons b rest' =>
      have hlen : (f a).length = (k b).length := by
        rw [hf a (List.mem_cons_self ..), hk b (List.mem_cons_self ..)]
      -- both first blocks have the same length, so they end at the same place
      obtain ⟨hblock, hrest⟩ := List.append_inj h hlen
      exact .cons hblock (ih (fun a ha => hf a (List.mem_cons_of_mem _ ha))
        (fun b hb => hk b (List.mem_cons_of_mem _ hb)) hrest)

/-- A list that is cut in two ways at one element has the element between the cuts as well. -/
theorem eq_or_mem_of_append_cons_eq {α : Type} {x : α} {as bs cs ds : List α}
    (h : as ++ x :: bs = cs ++ x :: ds) :
    as = cs ∧ bs = ds ∨ x ∈ as ∧ x ∈ ds ∨ x ∈ cs ∧ x ∈ bs := by
  rcases List.append_eq_append_iff.1 h with ⟨between, rfl, htail⟩ | ⟨between, rfl, htail⟩
  · cases between with
    | nil =>
      obtain rfl := (List.cons.inj htail).2
      simp
    | cons y rest =>
      obtain ⟨rfl, rfl⟩ := List.cons.inj htail
      simp
  · cases between with
    | nil =>
      obtain rfl := (List.cons.inj htail).2
      simp
    | cons y rest =>
      obtain ⟨rfl, rfl⟩ := List.cons.inj htail
      simp

/-- The settings as the shape of a plan shows them: no target looks like the empty one. -/
def BuildSettings.shown (s : BuildSettings) : BuildSettings :=
  { s with target := some (s.target.getD "") }

theorem BuildSettings.eq_of_shown_eq {s t : BuildSettings} (h : s.shown = t.shown)
    (hs : s.target ≠ some "") (ht : t.target ≠ some "") : s = t := by
  obtain ⟨compiler, edition, target, extraArgs, outDir⟩ := s
  obtain ⟨compiler', edition', target', extraArgs', outDir'⟩ := t
  simp only [shown, BuildSettings.mk.injEq, Option.some.injEq] at h ⊢
  obtain ⟨rfl, rfl, htarget, rfl, rfl⟩ := h
  refine ⟨rfl, rfl, ?_, rfl, rfl⟩
  cases target <;> cases target' <;> simp_all

/-- A shape shows the settings, if it is known where the features of the unit end. -/
theorem settings_of_shapeFields_eq {u v : CompilationUnit} {s t : BuildSettings}
    {inputs : List Path} (h : shapeFields u s inputs = shapeFields v t inputs)
    (hfeatures : u.features = v.features) (hdeps : u.deps = v.deps) : s.shown = t.shown := by
  unfold shapeFields at h
  rw [hfeatures, hdeps] at h
  -- in front of the settings all is the same, so what follows stands at the same places
  simp only [List.append_assoc, List.cons_append, List.nil_append, List.cons.injEq,
    List.append_cancel_left_eq, true_and] at h
  obtain ⟨-, -, -, hcompiler, hedition, htarget, hout, hextra⟩ := h
  have hargs := (List.map_injective_iff.2 Fingerprint.textField_injective) hextra
  have hcompiler' := Fingerprint.pathField_injective hcompiler
  have hedition' := Fingerprint.textField_injective hedition
  have htarget' := Fingerprint.textField_injective htarget
  have hout' := Fingerprint.pathField_injective hout
  cases s
  cases t
  simp_all [BuildSettings.shown]

end CodeAtlas

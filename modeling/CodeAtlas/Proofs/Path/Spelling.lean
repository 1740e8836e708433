import CodeAtlas.Project.Graph
import CodeAtlas.Proofs.Index.WellFormed
import CodeAtlas.Proofs.Overlay.Basic
import CodeAtlas.Proofs.Path.Normal

/-!
# One spelling for every place

What a path means is where it leads, from any directory that it may be seen from. Normalization
keeps that, and two paths are normalized to the same spelling only if they lead to the same place
from everywhere. That makes it compositional: leading somewhere and going on from there is all that
`join` does. Buffers, the units of a file and the files of an index are looked up by that spelling,
so every path that leads to a file finds them.

## Architecture

- **Layer A**: places, and where a path leads;
- **Layer B**: the shape of a normalized path;
- **Layer C**: normalizing and joining as seen from a place;
- **Layer D**: places tell spellings apart;
- **Layer E**: what is looked up by a path.
-/

namespace CodeAtlas

/-! ## Layer A: places -/

namespace Part

/-- The place that a part leads to. A place is the list of names on the way to it from the root,
the last one first; above the root is the root. -/
def enter : List String → Part → List String
  | _, .root => []
  | here, .current => here
  | here, .parent => here.tail
  | here, .name s => s :: here

/-- Steps up leave the last names of a place. -/
theorem foldl_enter_ups (ups : Nat) (here : List String) :
    (List.replicate ups parent).foldl enter here = here.drop ups := by
  induction ups generalizing here with
  | zero => rfl
  | succ ups ih =>
    rw [List.replicate_succ, List.foldl_cons, ih]
    exact List.drop_tail

/-- Names lead down. -/
theorem foldl_enter_names (names here : List String) :
    (names.map name).foldl enter here = names.reverse ++ here := by
  induction names generalizing here with
  | nil => rfl
  | cons s names ih =>
    rw [List.map_cons, List.foldl_cons, ih, List.reverse_cons, List.append_assoc]
    rfl

/-- A name that is read back as it is written is no other part, nor is it nothing. -/
theorem Plain.real {s : String} (h : (name s).Plain) : s ∉ ["", ".", ".."] := by
  have hread : ofSegment? s.toList = some (.name s) := h.1
  intro hs
  simp only [List.mem_cons, List.not_mem_nil, or_false] at hs
  obtain rfl | rfl | rfl := hs <;> exact absurd hread (by decide)

end Part

namespace Path

variable {p q : Path} {here : List String}

/-- **Where a path leads** from a place. -/
def walk (p : Path) (here : List String) : List String := p.parts.foldl Part.enter here

/-- The parts of a path without its root or leading `.`. -/
def body (p : Path) : List Part := p.segments.filterMap Part.ofSegment?

theorem parts_eq_body (p : Path) :
    p.parts = .root :: p.body ∧ p.isAbsolute = true ∨
      (p.parts = .current :: p.body ∨ p.parts = p.body) ∧ p.isAbsolute = false := by
  unfold parts body
  simp only
  split
  · exact Or.inl ⟨rfl, by assumption⟩
  · rename_i habsolute
    refine Or.inr ⟨?_, by simpa using habsolute⟩
    split
    · exact Or.inl rfl
    · exact Or.inr rfl

theorem root_notMem_body (p : Path) : Part.root ∉ p.body :=
  fun hroot => (p.plain_of_mem_segments .root hroot).ne_root rfl

/-- An absolute path starts at the root, a relative one where one is. -/
theorem walk_eq (p : Path) (here : List String) :
    p.walk here = p.body.foldl Part.enter (if p.isAbsolute then [] else here) := by
  unfold walk
  obtain ⟨hparts, habsolute⟩ | ⟨hparts | hparts, habsolute⟩ := p.parts_eq_body <;>
  · rw [hparts, habsolute]
    rfl

theorem normalParts_eq (p : Path) :
    p.normalParts = (p.body.foldl (reduce p.isAbsolute) []).reverse := by
  unfold normalParts
  obtain ⟨hparts, -⟩ | ⟨hparts | hparts, -⟩ := p.parts_eq_body <;> rw [hparts] <;> rfl

/-! ## Layer B: the shape -/

/-- Names lie on top of the `..` parts. -/
theorem Reduced.eq_names_ups {absolute : Bool} {stack : List Part} (h : Reduced absolute stack) :
    ∃ (names : List String) (ups : Nat), stack = names.map Part.name ++ List.replicate ups .parent ∧
      (absolute = true → ups = 0) := by
  induction h with
  | nil => exact ⟨[], 0, rfl, fun _ => rfl⟩
  | name s h ih =>
    obtain ⟨names, ups, rfl, hups⟩ := ih
    exact ⟨s :: names, ups, rfl, hups⟩
  | parent h hrelative hbelow ih =>
    obtain ⟨names, ups, rfl, -⟩ := ih
    -- a step up is only put on other steps up
    cases names with
    | nil => exact ⟨[], ups + 1, rfl, by simp [hrelative]⟩
    | cons s names => exact absurd rfl (hbelow s _)

/-- **The shape of a normalized path**: the root, or a number of steps up; then names. -/
structure Shape (p : Path) (ups : Nat) (names : List String) : Prop where
  parts : p.parts = (if p.isAbsolute then [.root] else List.replicate ups .parent) ++
    names.map .name
  real : ∀ s ∈ names, s ∉ ["", ".", ".."]

theorem exists_shape (p : Path) : ∃ ups names, p.normalize.Shape ups names := by
  obtain ⟨names, ups, hstack, hups⟩ := (reduced_foldl p.isAbsolute p.body .nil).eq_names_ups
  have hnormal : p.normalParts = List.replicate ups .parent ++ names.reverse.map Part.name := by
    rw [normalParts_eq, hstack, List.reverse_append, List.reverse_replicate, List.map_reverse]
  refine ⟨ups, names.reverse, ⟨?_, fun s hs => ?_⟩⟩
  · rw [parts_normalize, isAbsolute_normalize, hnormal]
    split
    · rw [hups (by assumption)]
      rfl
    · rfl
  · refine (p.plain_normalParts (.name s) ?_).real
    rw [hnormal]
    exact List.mem_append_right _ (List.mem_map_of_mem hs)

/-! ## Layer C: going there -/

/-- One step of normalization moves to where its part leads. -/
theorem Reduced.enter {absolute : Bool} {stack : List Part} (h : Reduced absolute stack)
    (hhere : absolute = true → here = []) {r : Part} (hr : r ≠ .root) :
    (Path.reduce absolute stack r).reverse.foldl Part.enter here =
      Part.enter (stack.reverse.foldl Part.enter here) r := by
  have hpush : ∀ r, (r :: stack).reverse.foldl Part.enter here =
      Part.enter (stack.reverse.foldl Part.enter here) r := by
    intro r
    rw [List.reverse_cons, List.foldl_append]
    rfl
  cases r with
  | root => exact absurd rfl hr
  | current => rfl
  | name s => exact hpush (.name s)
  | parent =>
    cases h with
    | nil =>
      cases absolute with
      | true =>
        -- above the root is the root
        rw [hhere rfl]
        rfl
      | false => rfl
    | @name s stack h =>
      -- the name is entered and left again
      rw [List.reverse_cons, List.foldl_append]
      rfl
    | parent h hrelative hbelow =>
      subst hrelative
      exact hpush .parent

theorem Reduced.foldl_enter {absolute : Bool} {stack l : List Part} (h : Reduced absolute stack)
    (hhere : absolute = true → here = []) (hl : Part.root ∉ l) :
    (l.foldl (Path.reduce absolute) stack).reverse.foldl Part.enter here =
      l.foldl Part.enter (stack.reverse.foldl Part.enter here) := by
  induction l generalizing stack with
  | nil => rfl
  | cons r rest ih =>
    obtain ⟨hr, hrest⟩ : Part.root ≠ r ∧ Part.root ∉ rest := by simpa using hl
    rw [List.foldl_cons, List.foldl_cons, ih (h.reduce r) hrest, h.enter hhere (Ne.symm hr)]

/-- **Normalizing a path does not change where it leads.** -/
@[simp] theorem walk_normalize (p : Path) (here : List String) :
    p.normalize.walk here = p.walk here := by
  -- both walks start at the root or both do not
  have hwalk : p.normalize.walk here =
      p.normalParts.foldl Part.enter (if p.isAbsolute then [] else here) := by
    unfold walk
    rw [parts_normalize]
    split <;> rfl
  rw [hwalk, walk_eq, normalParts_eq]
  exact Reduced.nil.foldl_enter (fun habsolute => if_pos habsolute) p.root_notMem_body

private theorem filterMap_splitOn_append (xs ys : List Char) :
    ((xs ++ '/' :: ys).splitOn '/').filterMap Part.ofSegment? =
      (xs.splitOn '/').filterMap Part.ofSegment? ++
        (ys.splitOn '/').filterMap Part.ofSegment? := by
  rw [List.splitOn_append_cons_self, List.filterMap_append]

/-- A relative path is written behind another one, with one separator between them. -/
theorem join_cases (p : Path) (hq : q.isAbsolute = false) :
    p.text.toList = [] ∧ p.join q = q ∨
      p.text.toList ≠ [] ∧ ∃ front, (p.join q).text.toList = front ++ '/' :: q.text.toList ∧
        (p.text.toList = front ∨ p.text.toList = front ++ ['/']) := by
  unfold join
  rw [if_neg (by simp [hq])]
  split
  · rename_i hempty
    exact Or.inl ⟨by simpa using hempty, rfl⟩
  · rename_i hempty
    refine Or.inr ⟨by simpa using hempty, ?_⟩
    split
    · rename_i hslash
      -- the first path brings the separator along
      obtain ⟨front, hfront⟩ := List.getLast?_eq_some_iff.1 (by simpa using hslash)
      exact ⟨front, by simp [hfront], Or.inr hfront⟩
    · exact ⟨p.text.toList, by simp, Or.inl rfl⟩

theorem body_join (p : Path) (hq : q.isAbsolute = false) : (p.join q).body = p.body ++ q.body := by
  unfold body segments
  obtain ⟨hempty, hjoin⟩ | ⟨-, front, hjoin, hfront | hfront⟩ := join_cases p hq
  · rw [hjoin, hempty]
    rfl
  · rw [hjoin, hfront, filterMap_splitOn_append]
  · rw [hjoin, hfront, filterMap_splitOn_append, filterMap_splitOn_append]
    simp [Part.ofSegment?]

theorem isAbsolute_join (p : Path) (hq : q.isAbsolute = false) :
    (p.join q).isAbsolute = p.isAbsolute := by
  obtain ⟨hempty, hjoin⟩ | ⟨hne, front, hjoin, hfront | hfront⟩ := join_cases p hq
  · rw [hjoin, hq]
    unfold isAbsolute
    rw [hempty]
    rfl
  · unfold isAbsolute
    rw [hjoin, ← hfront, List.head?_append_of_ne_nil _ hne]
  · unfold isAbsolute
    rw [hjoin, hfront, ← List.singleton_append, ← List.append_assoc,
      List.head?_append_of_ne_nil _ (by simp)]

/-- **A joined path leads first one way, then the other.** -/
theorem walk_join (p : Path) (hq : q.isAbsolute = false) (here : List String) :
    (p.join q).walk here = q.walk (p.walk here) := by
  rw [walk_eq, body_join p hq, isAbsolute_join p hq, List.foldl_append, walk_eq q, hq, walk_eq p]
  rfl

/-! ## Layer D: what places tell apart -/

/-- Steps up, then down by names. -/
theorem Shape.walk_eq {ups : Nat} {names : List String} (h : p.Shape ups names)
    (here : List String) :
    p.walk here = names.reverse ++ if p.isAbsolute then [] else here.drop ups := by
  unfold walk
  rw [h.parts, List.foldl_append, Part.foldl_enter_names]
  congr 1
  split
  · rfl
  · exact Part.foldl_enter_ups ups here

/-- No name of a shape is empty. -/
theorem Shape.filter_names {ups : Nat} {names : List String} (h : p.Shape ups names) :
    names.reverse.filter (· ≠ "") = names.reverse := by
  refine List.filter_eq_self.2 fun s hs => ?_
  have hreal := h.real s (List.mem_reverse.1 hs)
  simp only [List.mem_cons, not_or] at hreal
  exact decide_eq_true hreal.1

/-- **Paths of one shape that lead to the same place from everywhere have the same parts.** A place
that is deep enough, under names that no path has, shows how far up they go. -/
theorem Shape.parts_eq {ups ups' : Nat} {names names' : List String} (hp : p.Shape ups names)
    (hq : q.Shape ups' names') (h : ∀ here, p.walk here = q.walk here) : p.parts = q.parts := by
  have hwalk := h (List.replicate (ups + ups' + 1) "")
  rw [hp.walk_eq, hq.walk_eq, List.drop_replicate, List.drop_replicate] at hwalk
  have hdropped : ∀ (absolute : Bool) (n : Nat),
      (if absolute then [] else List.replicate n "").filter (· ≠ "") = [] := by
    intro absolute n
    split <;> simp
  -- without the names that no path has, only the names of the paths are left
  have hnames : names = names' := by
    have := congrArg (List.filter (· ≠ "")) hwalk
    rw [List.filter_append, List.filter_append, hp.filter_names, hq.filter_names,
      hdropped, hdropped, List.append_nil, List.append_nil] at this
    exact List.reverse_injective this
  subst hnames
  -- what is left of the deep place tells how far up, and from an absolute path nothing is left
  have hdepth := congrArg List.length (List.append_cancel_left hwalk)
  rw [hp.parts, hq.parts]
  congr 1
  cases hpa : p.isAbsolute <;> cases hqa : q.isAbsolute <;>
    simp only [hpa, hqa, Bool.false_eq_true, if_false, if_true, List.length_replicate,
      List.length_nil] at hdepth ⊢
  · congr 1
    omega
  · omega
  · omega

/-- **Two paths are normalized to one spelling if and only if they lead to the same place from
everywhere.** -/
theorem normalize_eq_iff : p.normalize = q.normalize ↔ ∀ here, p.walk here = q.walk here := by
  refine ⟨fun h here => ?_, fun h => ?_⟩
  · rw [← walk_normalize p, h, walk_normalize]
  · obtain ⟨ups, names, hp⟩ := p.exists_shape
    obtain ⟨ups', names', hq⟩ := q.exists_shape
    refine eq_of_parts_eq p.normalize_normalize q.normalize_normalize (hp.parts_eq hq ?_)
    intro here
    rw [walk_normalize, walk_normalize, h]

theorem normalize_join (p : Path) (hq : q.isAbsolute = false) :
    (p.join q).normalize = (p.normalize.join q.normalize).normalize := by
  have hrelative : q.normalize.isAbsolute = false := by rw [isAbsolute_normalize, hq]
  refine normalize_eq_iff.2 fun here => ?_
  rw [walk_join p hq, walk_join _ hrelative, walk_normalize, walk_normalize]

end Path

/-! ## Layer E: looking up -/

namespace Overlay

/-- The same call about another path. -/
def Call.about (p : Path) : Call → Call
  | .write _ text => .write p text
  | .openBuffer _ text v => .openBuffer p text v
  | .applyEdits _ v edits => .applyEdits p v edits
  | .clear _ => .clear p
  | .read _ => .read p
  | .has _ => .has p
  | .isOverridden _ => .isOverridden p
  | .version _ => .version p
  | .overridden => .overridden

/-- A call does and answers the same for all spellings of its path. -/
theorem perform_about {p q : Path} (h : p.normalize = q.normalize) (base : FileSource)
    (o : Overlay) (call : Call) :
    o.perform base (call.about p) = o.perform base (call.about q) := by
  have hbuffer : o.buffer? p = o.buffer? q := by
    unfold buffer?
    rw [h]
  have hput : ∀ b, o.put p b = o.put q b := by
    intro b
    unfold put
    rw [h]
  cases call <;>
    simp only [Call.about, perform, write, openBuffer, applyEdits, clear, isOverridden, read, has,
      version?, hbuffer, hput, h]

end Overlay

/-- **Normalization is canonical and compositional.** A normalized path is the root or a number of
steps up and then goes down by names; it is absolute as the path was, and stays what it is. A
relative path may be normalized before it is joined. Two paths have the same spelling exactly if
they lead to the same place from everywhere. So a span that was given relative to a directory has
the file that any way to that place is normalized to, and buffers, units and the files of an index
are found by each of them. -/
theorem Path.normalize_spells_places (p : Path) :
    (∃ (ups : Nat) (names : List String), p.normalize.parts =
        (if p.isAbsolute then [.root] else List.replicate ups .parent) ++ names.map .name ∧
      ∀ s ∈ names, s ∉ ["", ".", ".."]) ∧
    p.normalize.isAbsolute = p.isAbsolute ∧
    p.normalize.normalize = p.normalize ∧
    (∀ q : Path, q.isAbsolute = false →
      (p.join q).normalize = (p.normalize.join q.normalize).normalize) ∧
    (∀ q : Path, p.normalize = q.normalize ↔ ∀ here, p.walk here = q.walk here) ∧
    ∀ (c : LoweringScope) (place : RawSpan) (span : Span), c.span place = .ok span →
      place.fileName.isAbsolute = false →
      (∀ here, p.walk here = place.fileName.walk (c.directory.walk here)) →
      span.file = p.normalize ∧ span.file.isAbsolute = c.directory.isAbsolute ∧
        (∀ base (o : Overlay) (call : Overlay.Call),
          o.perform base (call.about p) = o.perform base (call.about span.file)) ∧
        (∀ g : UnitGraph, g.owners p = g.owners span.file ∧
          g.classify p = g.classify span.file) ∧
        ∀ v : View, v.symbols p = v.symbols span.file ∧
          v.occurrencesAt p = v.occurrencesAt span.file ∧
          v.diagnostics p = v.diagnostics span.file := by
  obtain ⟨ups, names, hshape⟩ := p.exists_shape
  have hparts := hshape.parts
  rw [isAbsolute_normalize] at hparts
  refine ⟨⟨ups, names, hparts, hshape.real⟩, p.isAbsolute_normalize, p.normalize_normalize,
    fun q => normalize_join p, fun q => normalize_eq_iff, ?_⟩
  intro c place span hspan hrelative hwalk
  have hfile := (LoweringScope.span_eq_ok_iff.1 hspan).file
  -- both ways lead to the same place from everywhere, so they have one canonical spelling
  have hspelled : (c.directory.join place.fileName).normalize = p.normalize :=
    normalize_eq_iff.2 fun here => by rw [walk_join _ hrelative, hwalk]
  have hsame : p.normalize = span.file.normalize := by
    rw [hfile, hspelled, normalize_normalize]
  refine ⟨hfile.trans hspelled, ?_, fun base o call => Overlay.perform_about hsame base o call,
    fun g => ⟨?_, ?_⟩, fun v => ⟨?_, ?_, ?_⟩⟩
  · rw [hfile, isAbsolute_normalize, isAbsolute_join _ hrelative]
  · unfold UnitGraph.owners
    rw [hsame]
  · unfold UnitGraph.classify
    rw [hsame]
  · unfold View.symbols
    rw [hsame]
  · funext position
    unfold View.occurrencesAt
    rw [hsame]
  · unfold View.diagnostics
    rw [hsame]

/-- The first five bytes of a file, as seen from its workspace. -/
def relativePlace : RawSpan := ⟨⟨"src/x/../lib.rs"⟩, 0, 5, 1, 1, 1, 6⟩

/-- The file of a relative place is found under a spelling of its absolute path. -/
theorem respelled_file_is_found :
    let c : LoweringScope := ⟨0, [], ⟨"/work/demo"⟩, "demo"⟩
    let span : Span := ⟨⟨"/work/demo/src/lib.rs"⟩, ⟨0, 5⟩, ⟨⟨0, 0⟩, ⟨0, 5⟩⟩⟩
    let p : Path := ⟨"/work//old/../../work/demo/./src/lib.rs/"⟩
    let q : Path := ⟨"../main.rs"⟩
    c.span relativePlace = .ok span ∧ relativePlace.fileName.isAbsolute = false ∧
      q.isAbsolute = false ∧
      (∀ here, p.walk here = relativePlace.fileName.walk (c.directory.walk here)) ∧
      (p.join q).normalize = (p.normalize.join q.normalize).normalize ∧
      span.file = p.normalize ∧ ∀ v : View, v.symbols p = v.symbols span.file := by
  intro c span p q
  have hspan : c.span relativePlace = .ok span := by decide +kernel
  have hplace : relativePlace.fileName.isAbsolute = false := by decide
  have hq : q.isAbsolute = false := by decide
  -- either way the steps are taken from the root, and end at the same names
  have hwalk : ∀ here, p.walk here = relativePlace.fileName.walk (c.directory.walk here) := by
    have hparts : p.parts = [.root, .name "work", .name "old", .parent, .parent,
        .name "work", .name "demo", .name "src", .name "lib.rs"] := by
      decide +kernel
    have hfolder : c.directory.parts = [.root, .name "work", .name "demo"] := by decide +kernel
    have hfile : relativePlace.fileName.parts =
        [.name "src", .name "x", .parent, .name "lib.rs"] := by
      decide +kernel
    intro here
    unfold Path.walk
    rw [hparts, hfolder, hfile]
    rfl
  obtain ⟨-, -, -, hjoin, -, hfound⟩ := p.normalize_spells_places
  obtain ⟨hfile, -, -, -, hview⟩ := hfound c relativePlace span hspan hplace hwalk
  exact ⟨hspan, hplace, hq, hwalk, hjoin q hq, hfile, fun v => (hview v).1⟩

end CodeAtlas

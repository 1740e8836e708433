import CodeAtlas.Proofs.Index.Agreement
import CodeAtlas.Proofs.Index.WellFormed
import CodeAtlas.Proofs.Ordered.Sorting

/-!
# The order of listed definitions

Symbols and searches gather definitions by identifier and sort them by what a reader sees: the
place, or the names and then the place. The sort is stable, so definitions that it leaves tied stay
in the order of their identifiers, and that is the order in which the index first saw them. Two
indexes with the same snapshots therefore list the same definitions, and they list them in the same
order exactly if tied definitions got their identifiers in the same order.

## Architecture

- **Layer A**: listings, their orders, and definitions without identifiers;
- **Layer B**: a listing is strictly in order, by what is sorted and then by identifier;
- **Layer C**: listings of an index under other names;
- **Layer D**: snapshots that arrive in two orders, and the main result;
- **Layer E**: a struct and its constructor, which are listed as they arrive.
-/

namespace CodeAtlas

/-! ## Layer A: listings -/

/-- A question that is answered by a list of definitions (`symbols`, `search`, `search_prefix`). -/
inductive Listing where
  /-- The symbols of a file. -/
  | inFile (file : Path)
  /-- The definitions with a name. -/
  | named (name : String)
  /-- The definitions whose name starts with a text. -/
  | leading (lead : String)

/-- The answer of a view. -/
def View.list (v : View) : Listing → List Definition
  | .inFile file => v.symbols file
  | .named name => v.search name
  | .leading lead => v.searchLead lead

namespace Definition

/-- Definitions ordered by name, then qualified name, then place. -/
def compareNamed : Definition → Definition → Ordering :=
  compareLex (compareOn name) (compareLex (compareOn qualname) (compareOn span))

instance : Std.TransCmp compareNamed :=
  inferInstanceAs (Std.TransCmp (compareLex (compareOn name)
    (compareLex (compareOn qualname) (compareOn span))))

/-- **What there is to see of a definition**: everything but its own identifier and its parent's. -/
def anonymous (d : Definition) : Definition := { d with id := GlobalId.null, parent := none }

@[simp] theorem anonymous_rename (π : Equiv.Perm GlobalId) (d : Definition) :
    (d.rename π).anonymous = d.anonymous := rfl

/-- Definitions that look the same are about the same site. -/
theorem site_eq_of_anonymous {d e : Definition} (h : d.anonymous = e.anonymous) :
    d.site = e.site := by
  show d.anonymous.site = e.anonymous.site
  rw [h]

end Definition

namespace Listing

/-- The order in which a listing is sorted. -/
def order : Listing → Definition → Definition → Ordering
  | .inFile _ => compareOn Definition.span
  | .named _ => Definition.compareNamed
  | .leading _ => Definition.compareNamed

instance (q : Listing) : Std.TransCmp q.order := by
  cases q <;> unfold order <;> infer_instance

/-- The records that a listing gathers. -/
def keeps : Listing → DefRecord → Bool
  | .inFile file => fun d => d.span.file == file.normalize
  | .named name => fun d => d.name == name
  | .leading lead => fun d => View.hasLead lead d.name

/-- The order of a listing, with ties broken by identifier. -/
def finely (q : Listing) : Definition → Definition → Ordering :=
  compareLex q.order (compareOn Definition.id)

instance (q : Listing) : Std.TransCmp q.finely := by
  unfold finely
  infer_instance

/-- The order looks at nothing but what there is to see. -/
theorem order_rename (q : Listing) (π : Equiv.Perm GlobalId) (d e : Definition) :
    q.order (d.rename π) (e.rename π) = q.order d e := by
  cases q <;> rfl

/-- Another name changes the fine order of two definitions only if they are tied. -/
theorem finely_rename_eq_iff (q : Listing) (π : Equiv.Perm GlobalId) (d e : Definition) :
    q.finely (d.rename π) (e.rename π) = q.finely d e ↔
      (q.order d e = .eq → compare (π d.id) (π e.id) = compare d.id e.id) := by
  unfold finely
  simp only [compareLex, order_rename]
  cases q.order d e <;> simp [compareOn, Definition.rename]

end Listing

namespace View

variable {v w : View}

/-- **A listing is gathered by identifier and then sorted.** -/
theorem list_eq (v : View) (q : Listing) :
    v.list q = sortUnder q.order (v.collect q.keeps).values := by
  cases q <;> rfl

/-! ## Layer B: the order of a listing -/

/-- What is in order as it is gathered is listed like that. -/
theorem list_of_pairwise {q : Listing}
    (h : (v.collect q.keeps).values.Pairwise fun d e => (q.order d e).isLE) :
    v.list q = (v.collect q.keeps).values := by
  rw [list_eq, sortUnder_of_pairwise h]

/-- What is collected stands under its own identifier. -/
theorem id_of_mem_collect {keep : DefRecord → Bool} {id : GlobalId} {d : Definition}
    (h : (id, d) ∈ (v.collect keep).entries) : d.id = id := by
  have hget := ((v.ordered_collect keep).get?_eq_some_iff id d).2 h
  rw [get?_collect] at hget
  obtain ⟨r, -, hr⟩ := List.exists_of_findSome?_eq_some hget
  obtain ⟨record, -, rfl⟩ := Option.map_eq_some_iff.1 hr
  rfl

/-- **A listing is strictly in order**: what the sort leaves tied is ordered by identifier. -/
theorem pairwise_list (v : View) (q : Listing) :
    (v.list q).Pairwise fun d e => q.finely d e = .lt := by
  rw [list_eq]
  -- What is gathered comes strictly by identifier, and the sort is stable.
  apply pairwise_lex_sortUnder
  rw [Table.values, List.pairwise_map]
  apply (v.ordered_collect q.keeps).imp_of_mem
  intro a b ha hb hab
  show compare a.2.id b.2.id = .lt
  rw [id_of_mem_collect ha, id_of_mem_collect hb]
  exact hab

/-- A listed definition is what is answered for its identifier. -/
theorem Coherent.definition_of_mem_list (hv : v.Coherent) {q : Listing} {d : Definition}
    (h : d ∈ v.list q) : v.definition d.id = some d := by
  cases q with
  | inFile file => exact (hv.symbols_lists file).agree d h
  | named name => exact (hv.search_lists name).agree d h
  | leading lead => exact (hv.searchLead_lists lead).agree d h

/-! ## Layer C: listings under other names -/

namespace Renamed

variable {ρ : Equiv.Perm Nat} {π : Equiv.Perm GlobalId}

theorem list (h : Renamed ρ π v w) (q : Listing) :
    (w.list q).Perm ((v.list q).map (Definition.rename π)) := by
  cases q with
  | inFile file => exact h.symbols file
  | named name => exact h.search name
  | leading lead => exact h.searchLead lead

/-- **The same definitions are listed**, as far as can be seen. -/
theorem anonymous_list (h : Renamed ρ π v w) (q : Listing) :
    ((w.list q).map Definition.anonymous).Perm ((v.list q).map Definition.anonymous) := by
  simpa [Function.comp_def] using (h.list q).map Definition.anonymous

/-- **They are listed in the same order exactly if** tied definitions keep the order of their
identifiers. -/
theorem list_eq_iff (h : Renamed ρ π v w) (q : Listing) :
    w.list q = (v.list q).map (Definition.rename π) ↔
      ∀ d ∈ v.list q, ∀ e ∈ v.list q, q.order d e = .eq →
        compare (π d.id) (π e.id) = compare d.id e.id := by
  have hw := w.pairwise_list q
  -- Both lists have the same elements, and a list in strict order is determined by them.
  have hsorted : w.list q = (v.list q).map (Definition.rename π) ↔
      ((v.list q).map (Definition.rename π)).Pairwise fun d e => q.finely d e = .lt := by
    constructor
    · intro heq
      rwa [← heq]
    · intro hrenamed
      apply (h.list q).eq_of_pairwise _ hw hrenamed
      intro d e _ _ hde hed
      simp [Std.OrientedCmp.gt_of_lt hde] at hed
  -- The renamed list is in strict order if the new names keep all comparisons, and those of
  -- definitions that are not tied are kept anyway.
  rw [hsorted, pairwise_map_lt_iff (v.pairwise_list q)]
  simp only [Listing.finely_rename_eq_iff]

end Renamed

end View

/-! ## Layer D: arrival in two orders -/

/-- Definitions that a listing leaves tied come in the same order by identifier as those that look
the same in another listing. -/
def Listing.TiesAlike (q : Listing) (ds es : List Definition) : Prop :=
  ∀ d ∈ ds, ∀ d' ∈ ds, ∀ e ∈ es, ∀ e' ∈ es,
    d.anonymous = e.anonymous → d'.anonymous = e'.anonymous → q.order d d' = .eq →
      compare e.id e'.id = compare d.id d'.id

/-- Well-formed snapshots are accepted under some numbering. -/
theorem Snapshot.WellFormed.acceptable {s : Snapshot} (h : s.WellFormed) (u : UnitId) :
    s.Acceptable u :=
  ⟨⟨s.named u⟩, fun _ hv => hv, Snapshot.lowered_isOk_iff.2 h⟩

/-- Lists with the same images are the same, if the function keeps their elements apart. -/
private theorem eq_of_map_eq {α β : Type} {f : α → β} {xs ys : List α}
    (hf : ∀ x ∈ xs, ∀ y ∈ ys, f x = f y → x = y) (h : xs.map f = ys.map f) : xs = ys := by
  apply List.ext_getElem
  · simpa using congrArg List.length h
  · intro i hi hi'
    have hat := List.getElem_of_eq h (i := i) (by simpa using hi)
    exact hf _ (List.getElem_mem hi) _ (List.getElem_mem hi') (by simpa using hat)

namespace Ledger

variable {t w : Ledger}

/-- **Definitions that look the same are the same**: their site has one identifier. -/
theorem Sound.eq_of_anonymous (h : t.Sound) {d e : Definition}
    (hd : t.index.view.definition d.id = some d) (he : t.index.view.definition e.id = some e)
    (hseen : d.anonymous = e.anonymous) : d = e := by
  obtain ⟨-, hid⟩ := (h.denotes_iff _ _).1 (View.denotes_of_definition hd)
  obtain ⟨-, hid'⟩ := (h.denotes_iff _ _).1 (View.denotes_of_definition he)
  have hsame : d.id = e.id := by
    rw [hid, hid', Definition.site_eq_of_anonymous hseen]
  rw [hsame, he] at hd
  exact (Option.some.inj hd).symm

/-- **Two indexes with the same snapshots list definitions in the same order exactly if** those that
are tied got their identifiers in the same order. -/
theorem Sound.map_anonymous_list_eq_iff (h : w.Sound)
    (hunits : w.index.names.units.length < 2 ^ 32) {v : View} {ρ : Equiv.Perm Nat}
    {π : Equiv.Perm GlobalId} (hrenamed : View.Renamed ρ π v w.index.view) (q : Listing) :
    (w.index.view.list q).map Definition.anonymous = (v.list q).map Definition.anonymous ↔
      q.TiesAlike (v.list q) (w.index.view.list q) := by
  -- Nothing is lost by looking at the listed definitions without their identifiers.
  have hinj : ∀ d ∈ w.index.view.list q, ∀ e ∈ w.index.view.list q,
      d.anonymous = e.anonymous → d = e := by
    intro d hd e he
    have hcoherent := h.coherent hunits
    exact h.eq_of_anonymous (hcoherent.definition_of_mem_list hd)
      (hcoherent.definition_of_mem_list he)
  have hmem : ∀ d ∈ v.list q, d.rename π ∈ w.index.view.list q := by
    intro d hd
    exact (hrenamed.list q).mem_iff.2 (List.mem_map_of_mem hd)
  constructor
  · intro hseen d hd d' hd' e he e' he' hde hde' htied
    obtain rfl : e = d.rename π := hinj e he _ (hmem d hd) (by simp [hde])
    obtain rfl : e' = d'.rename π := hinj e' he' _ (hmem d' hd') (by simp [hde'])
    -- Lists that look the same are the same, up to the new names.
    have heq : w.index.view.list q = (v.list q).map (Definition.rename π) := by
      apply eq_of_map_eq (f := Definition.anonymous)
      · intro d hd e he
        exact hinj d hd e ((hrenamed.list q).mem_iff.2 he)
      · simp [hseen, Function.comp_def]
    exact (hrenamed.list_eq_iff q).1 heq d hd d' hd' htied
  · intro hties
    have heq : w.index.view.list q = (v.list q).map (Definition.rename π) := by
      apply (hrenamed.list_eq_iff q).2
      intro d hd e he htied
      exact hties d hd e he _ (hmem d hd) _ (hmem e he) rfl rfl htied
    simp [heq, Function.comp_def]

/-- **Merged in another order, the same definitions are listed**, for each file, name and beginning
of a name. They are listed in the same order exactly if those that the listing leaves tied got their
identifiers in the same order. -/
theorem arrivals_list_alike_iff (es es' : List (UnitId × Snapshot))
    (hdistinct : (es.map (·.1)).Nodup) (haccepted : ∀ e ∈ es, e.2.WellFormed)
    (hperm : es'.Perm es) (hunits : (after (mergeAll es)).index.names.units.length < 2 ^ 32)
    (q : Listing) :
    let ds := (after (mergeAll es)).index.view.list q
    let ds' := (after (mergeAll es')).index.view.list q
    (ds'.map Definition.anonymous).Perm (ds.map Definition.anonymous) ∧
      (ds'.map Definition.anonymous = ds.map Definition.anonymous ↔ q.TiesAlike ds ds') := by
  intro ds ds'
  have hsound := sound_after (mergeAll es)
  have hlast : (after (mergeAll es)).last = Table.ofList es := by
    apply last_mergeAll
    intro e he
    exact (haccepted e he).acceptable e.1
  have hentries : es'.Perm (after (mergeAll es)).last.entries := by
    rw [hlast]
    exact hperm.trans (Table.perm_ofList hdistinct)
  have hunits' : (after (mergeAll es')).index.names.units.length < 2 ^ 32 :=
    Nat.lt_of_le_of_lt (hsound.names_mergeAll hentries) hunits
  -- both orders lead to the same records but for a renaming of spaces and identifiers
  obtain ⟨ρ, π, hrenamed⟩ := hsound.renamed (sound_after (mergeAll es'))
    (hsound.last_mergeAll hentries) hunits hunits'
  exact ⟨hrenamed.anonymous_list q,
    (sound_after (mergeAll es')).map_anonymous_list_eq_iff hunits' hrenamed q⟩

/-! ## Layer E: a struct and its constructor -/

/-- The place of a name that two definitions share. -/
def pointName : RawSpan := ⟨⟨"src/lib.rs"⟩, 11, 16, 1, 1, 12, 17⟩

/-- A tuple struct and the function that constructs it, listed in either order. -/
def tuplePoint (first second : DefKind) : Snapshot :=
  { Snapshot.empty with
    directory := ⟨"/w/app"⟩
    defs := [⟨first, ⟨0, 1⟩, pointName, "Point", "::Point", none, "", none, [], none⟩,
      ⟨second, ⟨0, 2⟩, pointName, "Point", "::Point", none, "", none, [], none⟩] }

theorem tuplePoint_wellFormed (first second : DefKind) : (tuplePoint first second).WellFormed where
  numbers_ne_zero := by simp [tuplePoint, Snapshot.empty]
  numbers_nodup := by simp [tuplePoint, Snapshot.empty]
  defs := by
    intro d hd
    obtain ⟨front, back, hsplit, -, -⟩ := hd
    have hmem : d ∈ (tuplePoint first second).defs := by simp [hsplit]
    -- the two definitions differ in their kind and in nothing that is checked
    have hplace : d.span = pointName ∧ d.declId = none ∧ d.parent = none ∧ d.children = [] := by
      simp only [tuplePoint, List.mem_cons, List.not_mem_nil, or_false] at hmem
      cases hmem with
      | inl h => simp [h]
      | inr h => simp [h]
    obtain ⟨hspan, hdecl, hparent, hchildren⟩ := hplace
    constructor
    · rw [hspan]
      constructor <;> decide
    all_goals simp [hdecl, hparent, hchildren]
  refs := by simp [tuplePoint, Snapshot.empty]
  imports := by simp [tuplePoint, Snapshot.empty]
  relations := by simp [tuplePoint, Snapshot.empty]

/-- The library reports the struct first. Its tests report the same definitions. -/
def pointVariants (first second : DefKind) : List (UnitId × Snapshot) :=
  [(.lib "app", tuplePoint .struct .function),
    ((UnitId.lib "app").testVariant, tuplePoint first second)]

theorem pointVariants_accepted (first second : DefKind) :
    ∀ e ∈ pointVariants first second, e.2.WellFormed := by
  simp [pointVariants, tuplePoint_wellFormed]

/-- **Where tied definitions keep their order, so does the listing.** The struct comes first in both
snapshots. -/
theorem pointVariants_listed_alike :
    let es := pointVariants .struct .function
    (es.map (·.1)).Nodup ∧ (∀ e ∈ es, e.2.WellFormed) ∧
      ((after (mergeAll es.reverse)).index.view.list (.named "Point")).map Definition.anonymous =
        ((after (mergeAll es)).index.view.list (.named "Point")).map Definition.anonymous := by
  intro es
  have hdistinct : (es.map (·.1)).Nodup := by decide
  have haccepted : ∀ e ∈ es, e.2.WellFormed := pointVariants_accepted _ _
  have halike := arrivals_list_alike_iff es es.reverse hdistinct haccepted (List.reverse_perm _)
    (by decide +kernel) (.named "Point")
  refine ⟨hdistinct, haccepted, halike.2.2 ?_⟩
  -- Whether ties are alike does not depend on the order in which definitions are listed.
  simp only [Listing.TiesAlike, View.list_eq, mem_sortUnder]
  decide +kernel

/-- **What is tied is listed in the order of arrival.** The library reports the struct first and the
tests report the constructor first. Whichever unit is merged first decides for both. -/
theorem pointVariants_listed_as_they_arrive :
    ¬ ∀ es es' : List (UnitId × Snapshot), (es.map (·.1)).Nodup → (∀ e ∈ es, e.2.WellFormed) →
      es'.Perm es → ∀ q : Listing,
        ((after (mergeAll es')).index.view.list q).map Definition.anonymous =
          ((after (mergeAll es)).index.view.list q).map Definition.anonymous := by
  intro h
  have hsame := h (pointVariants .function .struct) (pointVariants .function .struct).reverse
    (by decide) (pointVariants_accepted _ _) (List.reverse_perm _) (.named "Point")
  -- All definitions of the name are tied, so the listings are what was gathered.
  rw [View.list_of_pairwise (by decide +kernel), View.list_of_pairwise (by decide +kernel)] at hsame
  exact absurd hsame (by decide +kernel)

end Ledger

end CodeAtlas

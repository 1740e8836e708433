import CodeAtlas.Proofs.Index.Navigation
import CodeAtlas.Proofs.Workspace.Rename

/-!
# The references of a definition and its own place

The references to a definition are said to leave out its own place, and a list that begins with the
declaration is said to have no place twice. Nothing compares the places: the references come from
whatever a snapshot has that points at a definition of the same site, and that may stand at the name
of the definition itself. This module says exactly when it does.

## Architecture

- **Layer A**: the site of a definition in a snapshot;
- **Layer B**: what snapshots mention, and the references of an index;
- **Layer C**: the references of a workspace, and the main result;
- **Layer D**: a method whose implementation stands where it is declared.
-/

namespace CodeAtlas

/-! ## Layer A: sites -/

/-- The site of a definition of a snapshot whose files are seen from a folder. -/
def RawDef.siteIn (folder : Path) (d : RawDef) : Site :=
  ⟨(folder.join d.span.fileName).normalize, d.span.byteStart, d.span.byteEnd, d.kind, d.name⟩

/-- A definition is lowered to a record of its site. -/
theorem LoweringScope.site_of_definition {c : LoweringScope} {d : RawDef}
    {ld : LoweredDef × List LoweredRef} (h : c.definition d = .ok ld) :
    ld.1.record.site = d.siteIn c.directory := by
  unfold definition at h
  obtain ⟨span, hspan, h⟩ := bind_ok h
  obtain ⟨decl, -, h⟩ := bind_ok h
  obtain ⟨parent, -, h⟩ := bind_ok h
  obtain ⟨children, -, h⟩ := bind_ok h
  obtain rfl := Except.ok.inj h
  have himage := LoweringScope.span_eq_ok_iff.1 hspan
  simp [DefRecord.site, RawDef.siteIn, himage.file, himage.bytes]

namespace Snapshot

variable {s : Snapshot} {space : UnitId → Nat} {u : UnitId} {l : LoweredUnit}

/-- A parent that is given to a definition changes neither its number nor its site. -/
private theorem adoptParent_site (own : Nat) (listed : List (ScopedId × ScopedId))
    (ld : LoweredDef) : (adoptParent own listed ld).index = ld.index ∧
      (adoptParent own listed ld).record.site = ld.record.site := by
  unfold adoptParent
  split
  · exact ⟨rfl, rfl⟩
  · exact ⟨rfl, rfl⟩

/-- **The numbers and the sites of the lowered definitions** are those of the kept ones. -/
theorem exists_site_iff (h : s.lowered space u = .ok l) {n : UInt32} {site : Site} :
    (∃ ld ∈ l.defs, ld.index = n ∧ ld.record.site = site) ↔
      ∃ d, s.Keeps d ∧ d.id.index = n ∧ d.siteIn s.directory = site := by
  obtain ⟨-, defs, -, -, -, hdefs, -, -, -, rfl⟩ := lowered_eq_ok_iff.1 h
  -- each lowered definition comes from one kept definition, and the other way round
  obtain ⟨hresults, hall⟩ := mapM_ok hdefs
  simp only [List.map_map, List.mem_map, Function.comp_apply, exists_exists_and_eq_and,
    (adoptParent_site _ _ _).1, (adoptParent_site _ _ _).2, ← mem_keptDefs_iff]
  constructor
  · intro hlowered
    obtain ⟨p, hp, hindex, hsite⟩ := hlowered
    obtain ⟨d, hd, hlowered⟩ := (hresults p).1 hp
    exact ⟨d, hd, (LoweringScope.index_of_definition hlowered).symm.trans hindex,
      (LoweringScope.site_of_definition hlowered).symm.trans hsite⟩
  · intro hkept
    obtain ⟨d, hd, hindex, hsite⟩ := hkept
    obtain ⟨p, hlowered⟩ := hall d hd
    exact ⟨p, (hresults p).2 ⟨d, hd, hlowered⟩,
      (LoweringScope.index_of_definition hlowered).trans hindex,
      (LoweringScope.site_of_definition hlowered).trans hsite⟩

end Snapshot

namespace Ledger

variable {t : Ledger} {id : GlobalId} {span : Span} {site : Site}

/-! ## Layer B: mentions -/

/-- An indexed unit has a definition of a site under a number. -/
def Numbers (t : Ledger) (u : UnitId) (n : UInt32) (site : Site) : Prop :=
  ∃ s d, t.last.get? u = some s ∧ s.Keeps d ∧ d.id.index = n ∧ d.siteIn s.directory = site

/-- **A site is mentioned at a place** if some indexed unit has a reference there, which points at a
number under which the unit that is meant has a definition of the site. -/
def Mentions (t : Ledger) (span : Span) (site : Site) : Prop :=
  ∃ u s place target w, t.last.get? u = some s ∧ s.Refers place target ∧
    place.Image s.directory span ∧ target.isNone = false ∧ s.unit? u target.unit = some w ∧
    t.Numbers w target.index site

/-- What a number of a unit stands for is the identifier of a definition with that number. -/
theorem Sound.exists_lowers (h : t.Sound) {u : UnitId} (hu : u ∈ t.index.names.units) {n : UInt32}
    (hid : t.index.view.resolve ⟨t.index.names.space u, n⟩ = some id) :
    ∃ ld, t.Lowers u ld ∧ ld.index = n ∧ t.index.sites.idOf ld.record.site = id := by
  obtain ⟨r, hr, hspace, hlocal⟩ := h.resolve_iff.1 hid
  obtain ⟨w, s, l, hs, hw, hl, rfl⟩ := h.exists_snapshot hr
  obtain rfl := Namespaces.space_injective hw hu ((Snapshot.lowered_ok hl).2.symm.trans hspace)
  obtain ⟨ld, hld, hindex, hid⟩ := Index.mem_locals_iff.1 hlocal
  exact ⟨ld, ⟨s, l, hs, hl, hld⟩, hindex, hid⟩

/-- **A number resolves to what its site has for an identifier.** -/
theorem Sound.resolve_iff_numbers (h : t.Sound) {u : UnitId} (hu : u ∈ t.index.names.units)
    {n : UInt32} (hsite : t.index.view.Denotes id site) :
    t.index.view.resolve ⟨t.index.names.space u, n⟩ = some id ↔ t.Numbers u n site := by
  obtain ⟨hheld, rfl⟩ := (h.denotes_iff id site).1 hsite
  constructor
  · intro hid
    obtain ⟨ld, hld, hindex, hid⟩ := h.exists_lowers hu hid
    -- Both sites are held, and have the same identifier.
    obtain ⟨hheld', -⟩ := (h.denotes_iff _ _).1 (h.denotes_of_lowers hld)
    have hsame : ld.record.site = site := h.proper.idOf_injective hheld' hheld hid
    obtain ⟨s, l, hs, hl, hmem⟩ := hld
    obtain ⟨d, hd⟩ := (Snapshot.exists_site_iff hl).1 ⟨ld, hmem, hindex, hsame⟩
    exact ⟨s, d, hs, hd⟩
  · intro hnumbers
    obtain ⟨s, d, hs, hd⟩ := hnumbers
    obtain ⟨-, l, hl, -⟩ := h.exists_records hs
    obtain ⟨ld, hmem, rfl, rfl⟩ := (Snapshot.exists_site_iff hl).2 ⟨d, hd⟩
    exact h.resolve_of_lowers ⟨s, l, hs, hl, hmem⟩

/-- **The references to an identifier are the places where its site is mentioned.** -/
theorem Sound.mem_referencesTo_iff_mentions (h : t.Sound) (hsite : t.index.view.Denotes id site) :
    span ∈ t.index.view.referencesTo id ↔ t.Mentions span site := by
  -- The units that a snapshot on record names have namespaces.
  have hknown : ∀ {u s num w}, t.last.get? u = some s → s.unit? u num = some w →
      w ∈ t.index.names.units := by
    intro u s num w hs hw
    obtain ⟨hnamed, -⟩ := h.exists_records hs
    exact hnamed w (Snapshot.unit?_mem hw)
  rw [h.mem_referencesTo_iff]
  constructor
  · intro hreference
    obtain ⟨i, ⟨u, s, hs, place, target, hrefers, htarget, hplace⟩, hid⟩ := hreference
    obtain ⟨hnone, w, hw, rfl⟩ := Snapshot.qualify_eq_some_iff.1 htarget
    exact ⟨u, s, place, target, w, hs, hrefers, LoweringScope.span_eq_ok_iff.1 hplace, hnone, hw,
      (h.resolve_iff_numbers (hknown hs hw) hsite).1 hid⟩
  · intro hmentions
    obtain ⟨u, s, place, target, w, hs, hrefers, hplace, hnone, hw, hnumbers⟩ := hmentions
    refine ⟨⟨t.index.names.space w, target.index⟩, ⟨u, s, hs, place, target, hrefers, ?_, ?_⟩, ?_⟩
    · exact Snapshot.qualify_eq_some_iff.2 ⟨hnone, w, hw, rfl⟩
    · exact LoweringScope.span_eq_ok_iff.2 hplace
    · exact (h.resolve_iff_numbers (hknown hs hw) hsite).2 hnumbers

end Ledger

/-! ## Layer C: the references of a workspace -/

namespace Workspace

variable {τ : Type} {w : Workspace τ} {file : Path} {at_ : Position} {id : GlobalId}
  {d : Definition}

/-- The declaration comes first if it is wanted. -/
theorem referencesAt_eq (hid : w.idAt file at_ = .ok id) (hd : w.view.definition id = some d) :
    w.referencesAt file at_ true = .ok (d.span :: w.view.referencesTo id) := by
  simp [referencesAt, hid, hd, bind, Except.bind, pure, Except.pure]

/-- **The references to a definition have its own place exactly if its site is mentioned there.**
The index is any that merging and removing leads to. A list of references that was asked for with
the declaration begins with it, and has a place twice in this case only. -/
theorem references_repeat_declaration_iff (history : List IndexUpdate) {w : Workspace τ}
    (hindex : w.view = (Ledger.after history).index.view) {id : GlobalId} {d : Definition}
    (hd : w.view.definition id = some d) :
    (d.span ∈ w.view.referencesTo id ↔ (Ledger.after history).Mentions d.span d.site) ∧
    ∀ file at_, w.idAt file at_ = .ok id →
      w.referencesAt file at_ true = .ok (d.span :: w.view.referencesTo id) ∧
      ((d.span :: w.view.referencesTo id).Nodup ↔
        ¬ (Ledger.after history).Mentions d.span d.site) := by
  have hmentions : d.span ∈ w.view.referencesTo id ↔
      (Ledger.after history).Mentions d.span d.site := by
    rw [hindex] at hd ⊢
    exact (Ledger.sound_after history).mem_referencesTo_iff_mentions (View.denotes_of_definition hd)
  refine ⟨hmentions, ?_⟩
  intro file at_ hid
  refine ⟨referencesAt_eq hid hd, ?_⟩
  -- references are listed without repeats, so only the declaration can stand twice
  rw [List.nodup_cons, hmentions]
  exact and_iff_left (KeySet.ordered_ofList _).nodup

/-! ## Layer D: a declaration among its references -/

/-- The function is called elsewhere, and listed once in front of its calls. -/
theorem callsApart_follow_declaration :
    (openHelper callsApart).referencesAt ⟨"/w/lib.rs"⟩ ⟨0, 4⟩ true =
        .ok (helperFound.span :: (openHelper callsApart).view.referencesTo ⟨0, 0⟩) ∧
      (helperFound.span :: (openHelper callsApart).view.referencesTo ⟨0, 0⟩).Nodup := by
  obtain ⟨hmentions, hlist⟩ := references_repeat_declaration_iff (helperWith callsApart) rfl
    (definition_openHelper (Or.inl rfl))
  obtain ⟨hanswer, hnodup⟩ := hlist _ _ (idAt_openHelper (Or.inl rfl))
  refine ⟨hanswer, hnodup.2 ?_⟩
  rw [← hmentions]
  decide +kernel

/-- A method of a trait and its implementation, which a macro puts in one place. The implementation
names the declaration. -/
def declaredInPlace : List IndexUpdate :=
  let area (n : UInt32) (decl : Option LocalId) : RawDef :=
    ⟨.function, ⟨0, n⟩, ⟨⟨"/w/lib.rs"⟩, 40, 44, 3, 3, 8, 12⟩, "area", "::area", none, "", none, [],
      decl⟩
  [.merge (.lib "app") { Snapshot.empty with defs := [area 1 none, area 2 (some ⟨0, 1⟩)] }]

/-- **A definition may be among its own references.** Both definitions have one site, so the place
of the implementation, which refers to the declaration, is that of the declaration as well. -/
theorem declaredInPlace_refers_to_itself :
    ¬ ∀ (history : List IndexUpdate) (id : GlobalId) (d : Definition),
      (Ledger.after history).index.view.definition id = some d →
        d.span ∉ (Ledger.after history).index.view.referencesTo id := by
  intro h
  let area : Definition :=
    ⟨⟨0, 0⟩, .function, "area", "::area", ⟨⟨"/w/lib.rs"⟩, ⟨40, 44⟩, ⟨⟨2, 7⟩, ⟨2, 11⟩⟩⟩, none, "",
      none, .lib "app"⟩
  have hdefinition : (Ledger.after declaredInPlace).index.view.definition ⟨0, 0⟩ = some area := by
    decide +kernel
  have hreference : area.span ∈ (Ledger.after declaredInPlace).index.view.referencesTo ⟨0, 0⟩ := by
    decide +kernel
  exact h declaredInPlace ⟨0, 0⟩ area hdefinition hreference

end Workspace

end CodeAtlas

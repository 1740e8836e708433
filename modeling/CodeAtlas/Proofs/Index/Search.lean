import CodeAtlas.Proofs.Index.Agreement
import CodeAtlas.Proofs.Text.Lowercase

/-!
# Searching by the beginning of a name

A search lowercases what was typed and every name, each as a whole, and lists the definitions whose
lower-case name begins with the lower-case text. So it does find the definitions whose name begins
with the text, and shortening the text keeps what was found, except where the text is cut in the
middle of a word behind a capital sigma: there it is lowercased as if the word ended.

## Architecture

- **Layer A**: what a search lists;
- **Layer B**: names that begin with a text, and shorter texts.
-/

namespace CodeAtlas

namespace View

variable {v : View} {lead rest name : String}

/-! ## Layer A: what a search lists -/

theorem hasLead_iff : hasLead lead name = true ↔
    name ≠ "" ∧ (lowercase lead).toList <+: (lowercase name).toList := by
  unfold hasLead
  rw [Bool.and_eq_true, List.isPrefixOf_iff_prefix, Bool.not_eq_true', Bool.eq_false_iff,
    Ne, String.isEmpty_iff]

/-- A definition is listed by a search if and only if its own name has the lead. -/
theorem OneSite.mem_searchLead_iff (hv : v.OneSite) {id : GlobalId} {d : Definition}
    (hd : v.definition id = some d) (lead : String) :
    d ∈ v.searchLead lead ↔ hasLead lead d.name = true := by
  -- the definition is made of the first record of its identifier, as what is collected is
  have hrecord : (v.record? id).map (fun p => v.toDefinition id p.1 p.2) = some d := by
    unfold definition at hd
    split at hd
    · cases hd
    · exact hd
  have hordered := v.ordered_collect fun d => hasLead lead d.name
  have hget := hv.get?_collect fun n _ => hasLead lead n
  unfold searchLead sortedByName
  rw [List.mem_mergeSort]
  constructor
  · intro hmem
    obtain ⟨⟨j, d⟩, he, rfl⟩ := List.mem_map.1 hmem
    have hkept := (hordered.get?_eq_some_iff j d).2 he
    rw [hget, Option.filter_eq_some_iff] at hkept
    exact hkept.2
  · intro hlead
    have hkept : (v.collect fun d => hasLead lead d.name).get? id = some d := by
      rw [hget, hrecord, Option.filter_eq_some_iff]
      exact ⟨rfl, hlead⟩
    exact List.mem_map.2 ⟨(id, d), (hordered.get?_eq_some_iff id d).1 hkept, rfl⟩

/-! ## Layer B: beginnings -/

/-- Of two texts, the longer of which has been found, the shorter is found if it is not cut in a
word. -/
theorem hasLead_shorten (h : hasLead (lead ++ rest) name = true) :
    hasLead lead name = true ↔ ¬ CutsWord lead rest := by
  obtain ⟨hname, hfound⟩ := hasLead_iff.1 h
  rw [hasLead_iff, ← lowercase_prefix_iff]
  constructor
  · rintro ⟨-, hshort⟩
    -- both begin the lower-case name, and the shorter text is not longer in lower case
    exact List.prefix_of_prefix_length_le hshort hfound (length_lowercase_le lead rest)
  · exact fun hshort => ⟨hname, hshort.trans hfound⟩

theorem hasLead_append (hname : lead ++ rest ≠ "") :
    hasLead lead (lead ++ rest) = true ↔ ¬ CutsWord lead rest := by
  rw [hasLead_iff, lowercase_prefix_iff]
  exact and_iff_right hname

theorem hasLead_congr {lead' : String} (h : lowercase lead' = lowercase lead) :
    hasLead lead' name = hasLead lead name := by
  unfold hasLead
  rw [h]

end View

namespace Ledger

/-- **A search lists every definition whose name begins with the text, whatever its case**, and
goes on listing what it listed when the text is shortened, unless the text is cut in the middle of a
word behind a capital sigma. In that case, and in no other, the definition is missing. -/
theorem searchLead_finds_iff (h : List IndexUpdate) {id : GlobalId} {d : Definition}
    (hd : (after h).index.view.definition id = some d) (hname : d.name ≠ "") :
    (∀ lead rest, d.name = lead ++ rest → ∀ lead', lowercase lead' = lowercase lead →
      (d ∈ (after h).index.view.searchLead lead' ↔ ¬ CutsWord lead rest)) ∧
    ∀ lead rest, d ∈ (after h).index.view.searchLead (lead ++ rest) →
      (d ∈ (after h).index.view.searchLead lead ↔ ¬ CutsWord lead rest) := by
  have hlisted := (sound_after h).oneSite.mem_searchLead_iff hd
  constructor
  · intro lead rest hsplit lead' hlower
    rw [hlisted, View.hasLead_congr hlower, hsplit, View.hasLead_append (hsplit ▸ hname)]
  · intro lead rest hfound
    rw [hlisted]
    exact View.hasLead_shorten ((hlisted _).1 hfound)

/-- Two names with a capital sigma, inside a word and at the end of one. -/
def sigmaNames : List IndexUpdate :=
  let place (n : UInt32) : RawSpan := ⟨⟨"/w/a.rs"⟩, 10 * n, 10 * n + 6, n, n, 1, 4⟩
  let inside : RawDef := ⟨.const, ⟨0, 1⟩, place 1, "ΑΣΑ", "::ΑΣΑ", none, "", none, [], none⟩
  let atEnd : RawDef := ⟨.const, ⟨0, 2⟩, place 2, "ΑΣ_1", "::ΑΣ_1", none, "", none, [], none⟩
  [.merge ⟨"a", "a", .lib⟩ { Snapshot.empty with directory := ⟨"/w"⟩, defs := [inside, atEnd] }]

/-- A sigma at the end of a word is found by its small form. -/
theorem sigma_is_found :
    ∃ d, (after sigmaNames).index.view.definition ⟨0, 1⟩ = some d ∧ d.name ≠ "" ∧
      d.name = "ΑΣ" ++ "_1" ∧ lowercase "ας" = lowercase "ΑΣ" ∧
      d ∈ (after sigmaNames).index.view.searchLead "ας" ∧
      d ∈ (after sigmaNames).index.view.searchLead "α" := by
  -- behind the sigma no letter follows, so the word ends there, also in the whole name
  have hsplit : ¬ CutsWord "ΑΣ" "_1" := not_cutsWord_of_not_meetsCased (by decide)
  have hshort : ¬ CutsWord "α" "ς" := by
    rintro ⟨front, after, h, -⟩
    have hmem : 'Σ' ∈ "α".toList := by
      rw [h]
      simp
    revert hmem
    decide
  have hlower : lowercase "ας" = lowercase "ΑΣ" := by decide +kernel
  obtain ⟨d, hd, hspelled⟩ : ∃ d, (after sigmaNames).index.view.definition ⟨0, 1⟩ = some d ∧
      d.name = "ΑΣ" ++ "_1" := ⟨_, rfl, rfl⟩
  have hname : d.name ≠ "" := by
    rw [hspelled]
    decide
  refine ⟨d, hd, hname, hspelled, hlower, ?_⟩
  obtain ⟨hfound, hkept⟩ := searchLead_finds_iff sigmaNames hd hname
  have hlong := (hfound "ΑΣ" "_1" hspelled "ας" hlower).2 hsplit
  exact ⟨hlong, (hkept "α" "ς" hlong).2 hshort⟩

/-- A sigma inside a word is found by the whole name, and is missing for its beginning. -/
theorem sigma_is_missed :
    ∃ d, (after sigmaNames).index.view.definition ⟨0, 0⟩ = some d ∧ d.name ≠ "" ∧
      d.name = "ΑΣ" ++ "Α" ∧ d ∈ (after sigmaNames).index.view.searchLead ("ΑΣ" ++ "Α") ∧
      d ∉ (after sigmaNames).index.view.searchLead "ΑΣ" := by
  refine ⟨_, rfl, ?_⟩
  decide +kernel

end Ledger

end CodeAtlas

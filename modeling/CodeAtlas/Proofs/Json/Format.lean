import CodeAtlas.Snapshot.Json
import CodeAtlas.Proofs.Json.Reading
import Mathlib.Data.List.Forall2
import Mathlib.Data.List.Nodup

/-!
# JSON formats

A format says how values of a type are written as JSON, how they are read, and in which forms they
may come: each is read as the value it is a form of, and what is written is one of them. The object
of a record may list its members in any order, may leave out those that have their fallbacks, and
may have members besides that no field is named after.

## Architecture

- **Layer A**: formats of scalars, choices, options and lists;
- **Layer B**: members of records, and the objects that give them;
- **Layer C**: reading objects;
- **Layer D**: formats of records.
-/

namespace CodeAtlas

open Json

/-- **A format**: how values are written and read, and the forms in which they may come. -/
structure JsonFormat (α : Type) where
  write : α → Json
  read : Json → Except DecodeFault α
  /-- The JSON values that stand for a value. -/
  Form : α → Json → Prop
  form_write : ∀ a, Form a (write a)
  read_of_form : ∀ {a v}, Form a v → read v = .ok a
  plain_write : ∀ a, (write a).isPlain = true

namespace JsonFormat

variable {α β : Type}

/-! ## Layer A: scalars, choices, options, lists -/

/-- Texts. -/
def text (expected : String) : JsonFormat String where
  write := .text
  read := asText expected
  Form s v := v = .text s
  form_write _ := rfl
  read_of_form h := by
    rw [h]
    rfl
  plain_write _ := rfl

/-- 32-bit numbers. -/
def word : JsonFormat UInt32 where
  write := wordJson
  read := asWord32
  Form n v := v = wordJson n
  form_write _ := rfl
  read_of_form {n v} h := by
    have hn : n.toNat < 0x100000000 := n.toNat_lt
    rw [h]
    simp [wordJson, asWord32, Json.nat, asNat, hn, Except.map]
  plain_write n := by
    have hn : n.toNat < 0x100000000 := n.toNat_lt
    have hfit : n.toNat < wordLimit := Nat.lt_trans hn (by decide)
    simpa [wordJson, Json.nat, isPlain, JsonNumber.isPlain] using hfit

/-- Names that stand for values. -/
def choice (names : List (String × α)) (name : α → String)
    (hnames : ∀ a, names.find? (fun c => c.1 == name a) = some (name a, a)) : JsonFormat α where
  write a := .text (name a)
  read := asChoice names
  Form a v := v = .text (name a)
  form_write _ := rfl
  read_of_form {a v} h := by
    rw [h]
    simp [Json.text, asChoice, asChoice.pick, hnames a]
  plain_write _ := rfl

/-- Values that stand for those of another type. -/
def via (f : JsonFormat α) (forth : β → α) (back : α → β) (hback : ∀ b, back (forth b) = b) :
    JsonFormat β where
  write b := f.write (forth b)
  read v := (f.read v).map back
  Form b v := f.Form (forth b) v
  form_write b := f.form_write (forth b)
  read_of_form {b v} h := by
    rw [f.read_of_form h, Except.map, hback]
  plain_write b := f.plain_write (forth b)

/-- Values that may be missing, where null stands for none that is there. -/
def option (f : JsonFormat α) (hnull : ∀ a, ¬ f.Form a .null) : JsonFormat (Option α) where
  write := .ofOption f.write
  read := asOption f.read
  Form
    | none, v => v = .null
    | some a, v => f.Form a v
  form_write o := by
    cases o with
    | none => rfl
    | some a => exact f.form_write a
  read_of_form {o v} h := by
    cases o with
    | none =>
      obtain rfl : v = .null := h
      rfl
    | some a =>
      have hread := f.read_of_form h
      cases v with
      | null => exact absurd h (hnull a)
      | _ => simp [asOption, hread, Except.map]
  plain_write o := by
    cases o with
    | none => rfl
    | some a => exact f.plain_write a

theorem mapM_read (f : JsonFormat α) {as : List α} {vs : List Json}
    (h : List.Forall₂ f.Form as vs) : vs.mapM f.read = .ok as := by
  induction h with
  | nil => rfl
  | cons hform _ ih =>
    rw [List.mapM_cons, f.read_of_form hform, ih]
    rfl

theorem arePlain_map (f : JsonFormat α) (as : List α) : arePlain (as.map f.write) = true := by
  induction as with
  | nil => rfl
  | cons a as ih => simp [arePlain, f.plain_write a, ih]

/-- Lists. -/
def list (f : JsonFormat α) : JsonFormat (List α) where
  write := .ofList f.write
  read := asList f.read
  Form as v := ∃ vs, v = .arr vs ∧ List.Forall₂ f.Form as vs
  form_write as := ⟨_, rfl, List.forall₂_map_right_iff.2 (List.forall₂_same.2 fun a _ =>
    f.form_write a)⟩
  read_of_form h := by
    obtain ⟨vs, rfl, hvs⟩ := h
    exact f.mapM_read hvs
  plain_write as := f.arePlain_map as

/-! ## Layer B: members of records -/

/-- **A member of a record**: its name, how it is written and checked, the forms in which it may
come, and when it may be left out. -/
structure Member (α : Type) where
  name : String
  write : α → Json
  Form : α → Json → Prop
  MayLack : α → Prop
  check : Json → Except DecodeFault Unit
  form_write : ∀ a, Form a (write a)
  check_of_form : ∀ {a v}, Form a v → check v = .ok ()
  plain_write : ∀ a, (write a).isPlain = true

/-- A member that has to be there. -/
def member (f : JsonFormat β) (name : String) (get : α → β) : Member α where
  name := name
  write a := f.write (get a)
  Form a v := f.Form (get a) v
  MayLack _ := False
  check := fit f.read
  form_write a := f.form_write (get a)
  check_of_form h := by rw [fit, f.read_of_form h, Except.map]
  plain_write a := f.plain_write (get a)

/-- A member that may be left out where it has its fallback. -/
def memberOr (f : JsonFormat β) (name : String) (fallback : β) (get : α → β) : Member α :=
  { f.member name get with MayLack := fun a => get a = fallback }

/-- Members that are given, each in one of its forms and each but those that may be left out. -/
inductive Given (a : α) : List (Member α) → List (String × Json) → Prop
  | nil : Given a [] []
  | give {m : Member α} {ms : List (Member α)} {v : Json} {given : List (String × Json)}
      (hv : m.Form a v) (hgiven : Given a ms given) : Given a (m :: ms) ((m.name, v) :: given)
  | lack {m : Member α} {ms : List (Member α)} {given : List (String × Json)}
      (hlack : m.MayLack a) (hgiven : Given a ms given) : Given a (m :: ms) given

/-- **An object of a record**: in any order, members of the record that are given, and others that
none of its fields is named after. -/
def ObjectForm (ms : List (Member α)) (a : α) (v : Json) : Prop :=
  ∃ given extra members, v = .obj members ∧ Given a ms given ∧
    (∀ e ∈ extra, e.1 ∉ ms.map (·.name)) ∧
    members.Perm ((given ++ extra).map fun e => (some e.1, e.2))

theorem not_objectForm_null {ms : List (Member α)} {a : α} : ¬ ObjectForm ms a .null := by
  rintro ⟨_, _, _, heq, -⟩
  cases heq

/-- What is found of a member among the fields that were given. -/
def Found (given : Fields) (a : α) (m : Member α) : Prop :=
  (∃ v, given.get? m.name = some v ∧ m.Form a v) ∨ (given.get? m.name = none ∧ m.MayLack a)

section Reading

variable {ms : List (Member α)} {a : α} {given : List (String × Json)}

/-! ## Layer C: reading objects -/

theorem Given.names_sublist (h : Given a ms given) :
    (given.map (·.1)).Sublist (ms.map (·.name)) := by
  induction h with
  | nil => exact .slnil
  | give _ _ ih => exact ih.cons_cons _
  | lack _ _ ih => exact ih.cons _

/-- Every member that is given comes in one of its forms. -/
theorem Given.exists_member (h : Given a ms given) {e : String × Json} (he : e ∈ given) :
    ∃ m ∈ ms, m.name = e.1 ∧ m.Form a e.2 := by
  induction h with
  | nil => cases he
  | @give m ms v given hv _ ih =>
    rcases List.mem_cons.1 he with rfl | he
    · exact ⟨m, List.mem_cons_self, rfl, hv⟩
    · obtain ⟨m', hm', hrest⟩ := ih he
      exact ⟨m', List.mem_cons_of_mem _ hm', hrest⟩
  | lack _ _ ih =>
    obtain ⟨m', hm', hrest⟩ := ih he
    exact ⟨m', List.mem_cons_of_mem _ hm', hrest⟩

/-- Every member is given, or may be left out and is. -/
theorem Given.exists_given (h : Given a ms given) (hnodup : (ms.map (·.name)).Nodup)
    {m : Member α} (hm : m ∈ ms) :
    (∃ v, (m.name, v) ∈ given ∧ m.Form a v) ∨ (m.MayLack a ∧ m.name ∉ given.map (·.1)) := by
  induction h with
  | nil => cases hm
  | @give m' ms v given hv hgiven ih =>
    obtain ⟨hnew, hnodup⟩ := List.nodup_cons.1 hnodup
    rcases List.mem_cons.1 hm with rfl | hm
    · exact Or.inl ⟨v, List.mem_cons_self, hv⟩
    · -- no two members share a name, so the one given in front is not this one
      have hne : m.name ≠ m'.name := fun heq => hnew (List.mem_map.2 ⟨m, hm, heq⟩)
      rcases ih hnodup hm with ⟨w, hw, hform⟩ | ⟨hlack, hnone⟩
      · exact Or.inl ⟨w, List.mem_cons_of_mem _ hw, hform⟩
      · exact Or.inr ⟨hlack, by simpa [hne] using hnone⟩
  | @lack m' ms given hlack hgiven ih =>
    obtain ⟨hnew, hnodup⟩ := List.nodup_cons.1 hnodup
    rcases List.mem_cons.1 hm with rfl | hm
    · exact Or.inr ⟨hlack, fun hmem => hnew (hgiven.names_sublist.subset hmem)⟩
    · exact ih hnodup hm

/-- No two members of an object are named after the same field. -/
def Distinct (known : List String) (members : List (Option String × Json)) : Prop :=
  members.Pairwise fun e f => ∀ k ∈ known, e.1 = some k → f.1 ≠ some k

theorem Given.distinct (h : Given a ms given) (hnodup : (ms.map (·.name)).Nodup)
    {extra : List (String × Json)} (hextra : ∀ e ∈ extra, e.1 ∉ ms.map (·.name))
    {members : List (Option String × Json)}
    (hperm : members.Perm ((given ++ extra).map fun e => (some e.1, e.2))) :
    Distinct (ms.map (·.name)) members := by
  -- which of two members comes first makes no difference, so their order may be forgotten
  have hsymm : ∀ e f : Option String × Json,
      (∀ k ∈ ms.map (·.name), e.1 = some k → f.1 ≠ some k) →
        ∀ k ∈ ms.map (·.name), f.1 = some k → e.1 ≠ some k :=
    fun e f hef k hk hf he => hef k hk he hf
  refine (hperm.pairwise_iff fun {e f} => hsymm e f).2 ?_
  rw [List.pairwise_map, List.pairwise_append]
  refine ⟨?given, ?extra, ?between⟩
  case given =>
    have hdistinct : (given.map (·.1)).Nodup := h.names_sublist.nodup hnodup
    refine (List.pairwise_map.1 hdistinct).imp fun {e f} hne k _ he hf => hne ?_
    exact (Option.some.inj he).trans (Option.some.inj hf).symm
  case extra =>
    refine List.pairwise_of_forall_mem_list fun e he f _ k hk heq => ?_
    exact absurd (Option.some.inj heq ▸ hk) (hextra e he)
  case between =>
    intro e _ f hf k hk _ heq
    exact hextra f hf (Option.some.inj heq ▸ hk)

/-- **All members pass their checks** where each that is named after a field is fit for it and none
is repeated. -/
theorem checkMembers_ok {s : RecordShape α} (hopen : s.closed = false)
    {members : List (Option String × Json)} (hdistinct : Distinct (s.fields.map (·.1)) members)
    (hfit : ∀ e ∈ members, ∃ k, e.1 = some k ∧ ∀ f ∈ s.fields, f.1 = k → f.2 e.2 = .ok ())
    {seen : List String} (hseen : ∀ k ∈ seen, ∀ e ∈ members, e.1 ≠ some k) :
    s.checkMembers seen members = .ok () := by
  -- on the members: no name that was seen comes up again
  induction members generalizing seen with
  | nil => rfl
  | cons e rest ih =>
    obtain ⟨hfirst, hdistinct'⟩ := List.pairwise_cons.1 hdistinct
    obtain ⟨k, hk, hchecks⟩ := hfit e List.mem_cons_self
    have hfit' := fun f hf => hfit f (List.mem_cons_of_mem _ hf)
    have hseen' := fun j hj f hf => hseen j hj f (List.mem_cons_of_mem _ hf)
    obtain ⟨name, v⟩ := e
    obtain rfl : name = some k := hk
    rw [RecordShape.checkMembers]
    cases hfind : s.fields.find? fun f => f.1 == k with
    | none =>
      simp only [hopen, Bool.false_eq_true, if_false]
      exact ih hdistinct' hfit' hseen'
    | some f =>
      obtain ⟨hname, hmem⟩ : f.1 = k ∧ f ∈ s.fields :=
        ⟨by simpa using List.find?_some hfind, List.mem_of_find?_eq_some hfind⟩
      have hnew : seen.contains k = false := by
        by_contra hold
        have hmem : k ∈ seen := by simpa using hold
        exact hseen k hmem _ List.mem_cons_self rfl
      have hrest : s.checkMembers (k :: seen) rest = .ok () := by
        refine ih hdistinct' hfit' fun j hj e he => ?_
        rcases List.mem_cons.1 hj with rfl | hj
        · exact hfirst e he j (List.mem_map.2 ⟨f, hmem, hname⟩) rfl
        · exact hseen' j hj e he
      simp only [hnew, Bool.false_eq_true, if_false, hchecks f hmem hname, hrest]
      rfl

/-- The value that a name is given, where no other member has that name. -/
theorem lookup_of_distinct {known : List String} {members : List (Option String × Json)}
    (hdistinct : Distinct known members) {k : String} (hk : k ∈ known) {v : Json}
    (hmem : (some k, v) ∈ members) : members.lookup (some k) = some v := by
  obtain ⟨before, after, rfl⟩ := List.append_of_mem hmem
  refine List.lookup_eq_some_iff.2 ⟨before, after, rfl, fun e he => ?_⟩
  have hne := (List.pairwise_append.1 hdistinct).2.2 e he _ List.mem_cons_self k hk
  simpa using fun heq => hne heq.symm rfl

/-- **An object of a record is read member by member**: every member is found in one of its forms,
or is missing and may be. -/
theorem decode_of_objectForm {s : RecordShape α} (hopen : s.closed = false)
    (hfields : s.fields = ms.map fun m => (m.name, m.check))
    (hnodup : (ms.map (·.name)).Nodup) {v : Json} (hv : ObjectForm ms a v) :
    ∃ given : Fields, s.decode v = s.build given ∧ ∀ m ∈ ms, Found given a m := by
  obtain ⟨given, extra, members, rfl, hgiven, hextra, hperm⟩ := hv
  have hnames : s.fields.map (·.1) = ms.map (·.name) := by simp [hfields]
  have hdistinct := hgiven.distinct hnodup hextra hperm
  -- members that are asked for have a form and pass, and the others are let through
  have hcheck : s.checkMembers [] members = .ok () := by
    refine checkMembers_ok hopen (hnames ▸ hdistinct) (fun e he => ?_) (by simp)
    obtain ⟨e', he', rfl⟩ := List.mem_map.1 (hperm.subset he)
    refine ⟨e'.1, rfl, fun f hf hname => ?_⟩
    rw [hfields] at hf
    obtain ⟨m, hm, rfl⟩ := List.mem_map.1 hf
    rcases List.mem_append.1 he' with he' | he'
    · obtain ⟨m', hm', hname', hform⟩ := hgiven.exists_member he'
      obtain rfl : m = m' :=
        List.inj_on_of_nodup_map hnodup hm hm' (hname.trans hname'.symm)
      exact m.check_of_form hform
    · exact absurd (hname ▸ List.mem_map.2 ⟨m, hm, rfl⟩) (hextra e' he')
  refine ⟨RecordShape.named members, ?_, fun m hm => ?_⟩
  · rw [RecordShape.decode, hcheck]
    rfl
  · -- a member that is given is found, since no other has its name
    have hknown : m.name ∈ ms.map (·.name) := List.mem_map.2 ⟨m, hm, rfl⟩
    rcases hgiven.exists_given hnodup hm with ⟨v, hmem, hform⟩ | ⟨hlack, hnone⟩
    · refine Or.inl ⟨v, lookup_of_distinct hdistinct hknown ?_, hform⟩
      exact hperm.symm.subset (List.mem_map.2 ⟨_, List.mem_append_left _ hmem, rfl⟩)
    · refine Or.inr ⟨List.lookup_eq_none_iff.2 fun e he => ?_, hlack⟩
      obtain ⟨e', he', rfl⟩ := List.mem_map.1 (hperm.subset he)
      have hne : e'.1 ≠ m.name := by
        intro heq
        rcases List.mem_append.1 he' with he' | he'
        · exact hnone (List.mem_map.2 ⟨e', he', heq⟩)
        · exact hextra e' he' (heq ▸ hknown)
      simpa using fun heq => hne heq.symm

end Reading

/-! ## Layer D: records -/

theorem given_all (ms : List (Member α)) (a : α) :
    Given a ms (ms.map fun m => (m.name, m.write a)) := by
  induction ms with
  | nil => exact .nil
  | cons m ms ih => exact .give (m.form_write a) ih

theorem havePlainValues_write (ms : List (Member α)) (a : α) :
    havePlainValues (ms.map fun m => (some m.name, m.write a)) = true := by
  induction ms with
  | nil => rfl
  | cons m ms ih => simp [havePlainValues, m.plain_write a, ih]

/-- Records that are read from objects. -/
def record (s : RecordShape α) (ms : List (Member α)) (hopen : s.closed = false)
    (hfields : s.fields = ms.map fun m => (m.name, m.check)) (hnodup : (ms.map (·.name)).Nodup)
    (hbuild : ∀ a given, (∀ m ∈ ms, Found given a m) → s.build given = .ok a) :
    JsonFormat α where
  write a := .ofFields (ms.map fun m => (m.name, m.write a))
  read := s.decode
  Form := ObjectForm ms
  form_write a := ⟨_, [], _, rfl, given_all ms a, by simp, by simp⟩
  read_of_form {a v} h := by
    obtain ⟨given, hdecode, hfound⟩ := decode_of_objectForm hopen hfields hnodup h
    rw [hdecode, hbuild a given hfound]
  plain_write a := by
    have hplain := havePlainValues_write ms a
    simpa [ofFields, isPlain, List.map_map, Function.comp_def] using hplain

section Building

variable {f : JsonFormat β} {name : String} {get : α → β} {fallback : β} {given : Fields} {a : α}
  {γ : Type}

/-- A member that has to be there is read. -/
theorem required_bind (h : Found given a (f.member name get)) (k : β → Except DecodeFault γ) :
    (given.required name f.read >>= k) = k (get a) := by
  rcases h with ⟨v, hv, hform⟩ | ⟨-, hlack⟩
  · rw [Fields.required, show given.get? name = some v from hv]
    simp only [f.read_of_form hform]
    rfl
  · exact hlack.elim

/-- A member that may be left out is read, or has its fallback. -/
theorem defaulted_bind (h : Found given a (f.memberOr name fallback get))
    (k : β → Except DecodeFault γ) :
    (given.defaulted name fallback f.read >>= k) = k (get a) := by
  rcases h with ⟨v, hv, hform⟩ | ⟨hnone, hlack⟩
  · rw [Fields.defaulted, show given.get? name = some v from hv]
    simp only [f.read_of_form (a := get a) hform]
    rfl
  · rw [Fields.defaulted, show given.get? name = none from hnone,
      show get a = fallback from hlack]
    rfl

end Building

end JsonFormat

end CodeAtlas

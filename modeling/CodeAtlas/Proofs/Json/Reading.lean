import CodeAtlas.Json.Reader
import CodeAtlas.Json.Writer
import Mathlib.Data.List.Basic

/-!
# Written JSON is read back

The compact text of a value is cut into the tokens of the value, and these are put together to the
value again. That holds for plain values: those whose texts denote something and whose numbers are
integers that fit.

## Architecture

- **Layer A**: the characters of strings;
- **Layer B**: the digits of numbers;
- **Layer C**: single tokens;
- **Layer D**: the tokens of a value, and the value of its tokens;
- **Layer E**: whole texts.
-/

namespace CodeAtlas

/-- A number that is an integer and fits. -/
def JsonNumber.isPlain : JsonNumber → Bool
  | .natural n => n < Json.wordLimit
  | .negative n => 0 < n && n ≤ 0x8000000000000000
  | .fraction _ => false
  | .tooLarge => false

namespace Json

/-! ## Layer A: strings -/

/-- The piece that a character is read as: controls without a short escape come as a code unit. -/
def pieceOf (c : Char) : Piece :=
  if c.toNat < 0x20 && !(['\n', '\r', '\t'].contains c) && c.toNat != 8 && c.toNat != 12 then
    .unit c.toNat
  else .char c

/-- The code unit of a control is read back from its two digits. -/
theorem hexUnit?_control :
    ∀ n < 0x20, hexUnit? '0' '0' (hexDigit (n / 16)) (hexDigit n) = some n := by
  decide

theorem scanString_short {c e : Char} (hc : c ≠ 'u') (he : shortEscape? c = some e)
    (cs : List Char) :
    scanString ('\\' :: c :: cs) = (scanString cs).map fun p => (.char e :: p.1, p.2) := by
  -- the cases overlap, and the equation for short escapes asks that no earlier one applies
  rw [scanString.eq_def]
  split
  · rename_i heq
    cases heq
  · rename_i heq
    simp at heq
  · rename_i heq
    simp [hc] at heq
  · rename_i c' rest _ heq
    obtain ⟨rfl, rfl⟩ : c = c' ∧ cs = rest := by simpa using heq
    rw [he]
    cases scanString cs <;> simp
  · rename_i hno heq
    obtain ⟨rfl, rfl⟩ := List.cons.inj heq
    exact absurd rfl (hno c cs rfl)

theorem scanString_escapeChar (c : Char) (cs : List Char) :
    scanString (escapeChar c ++ cs) = (scanString cs).map fun p => (pieceOf c :: p.1, p.2) := by
  unfold escapeChar
  -- seven characters have short escapes, other control characters their number, the rest stands
  -- for itself
  split_ifs with hquote hslash hn hr ht hb hf hcontrol
  · obtain rfl := beq_iff_eq.1 hquote
    exact scanString_short (by decide) rfl cs
  · obtain rfl := beq_iff_eq.1 hslash
    exact scanString_short (by decide) rfl cs
  · obtain rfl := beq_iff_eq.1 hn
    exact scanString_short (by decide) rfl cs
  · obtain rfl := beq_iff_eq.1 hr
    exact scanString_short (by decide) rfl cs
  · obtain rfl := beq_iff_eq.1 ht
    exact scanString_short (by decide) rfl cs
  · have hc : c = Char.ofNat 8 := by rw [← beq_iff_eq.1 hb, Char.ofNat_toNat]
    subst hc
    exact scanString_short (by decide) rfl cs
  · have hc : c = Char.ofNat 12 := by rw [← beq_iff_eq.1 hf, Char.ofNat_toNat]
    subst hc
    exact scanString_short (by decide) rfl cs
  · have hpiece : pieceOf c = .unit c.toNat := by simp_all [pieceOf]
    rw [hpiece]
    simp only [List.cons_append, List.nil_append, scanString, hexUnit?_control c.toNat hcontrol]
    cases scanString cs <;> rfl
  · have hpiece : pieceOf c = .char c := by simp [pieceOf, hcontrol]
    simp only [beq_iff_eq] at hquote hslash
    have hfit : ¬ (c.toNat < 0x20 || c == '\\') = true := by simp [hcontrol, hslash]
    rw [hpiece, List.cons_append, List.nil_append, scanString.eq_def]
    split
    · rename_i heq
      cases heq
    · rename_i heq
      exact absurd (List.cons.inj heq).1 hquote
    · rename_i heq
      exact absurd (List.cons.inj heq).1 hslash
    · rename_i heq
      exact absurd (List.cons.inj heq).1 hslash
    · rename_i heq
      obtain ⟨rfl, rfl⟩ := List.cons.inj heq
      rw [if_neg hfit]
      cases scanString cs <;> simp

theorem joinPieces_pieceOf (c : Char) (ps : List Piece) :
    joinPieces (pieceOf c :: ps) = (joinPieces ps).map (c :: ·) := by
  unfold pieceOf
  split
  · rename_i hcontrol
    simp only [Bool.and_eq_true, decide_eq_true_eq, and_assoc] at hcontrol
    have hlow : c.toNat < 0xD800 := Nat.lt_trans hcontrol.1 (by decide)
    rw [joinPieces.eq_def]
    simp [hlow]
  · rfl

/-- **A string is read back** up to its closing quote. -/
theorem scanString_escaped (cs rest : List Char) :
    ∃ ps, scanString (cs.flatMap escapeChar ++ '"' :: rest) = some (ps, rest) ∧
      joinPieces ps = some cs := by
  induction cs with
  | nil => exact ⟨[], rfl, rfl⟩
  | cons c cs ih =>
    obtain ⟨ps, hscan, hjoin⟩ := ih
    refine ⟨pieceOf c :: ps, ?_, ?_⟩
    · rw [List.flatMap_cons, List.append_assoc, scanString_escapeChar, hscan]
      rfl
    · rw [joinPieces_pieceOf, hjoin]
      rfl

/-! ## Layer B: numbers -/

/-- What may stand behind a number in a written text: the end of what it stands in. -/
def Closes (cs : List Char) : Prop :=
  ∀ c ∈ cs.head?, c.isDigit = false ∧ c ≠ '.' ∧ c ≠ 'e' ∧ c ≠ 'E'

theorem digitsValue_toDigits (n : Nat) : digitsValue (Nat.toDigits 10 n) = n := by
  have hfold : digitsValue (Nat.toDigits 10 n) = Nat.ofDigitChars 10 (Nat.toDigits 10 n) 0 := by
    rw [digitsValue, Nat.ofDigitChars_eq_foldl]
    simp only [Nat.mul_comm]
    rfl
  rw [hfold, Nat.ofDigitChars_ten_toDigits]

/-- Only zero is written with a leading zero. -/
theorem toDigits_head {n : Nat} {ds : List Char} (h : Nat.toDigits 10 n = '0' :: ds) : ds = [] := by
  induction n using Nat.strongRecOn generalizing ds with
  | ind n ih =>
    rw [Nat.toDigits_eq_if (by decide)] at h
    split at h
    · exact (List.cons.inj h).2.symm
    · rename_i hn
      -- the leading digit is that of a tenth, which is not zero
      cases htenth : Nat.toDigits 10 (n / 10) with
      | nil => exact absurd htenth Nat.toDigits_ne_nil
      | cons c cs =>
        rw [htenth, List.cons_append] at h
        obtain ⟨rfl, -⟩ := List.cons.inj h
        obtain rfl := ih (n / 10) (by omega) htenth
        have hzero := digitsValue_toDigits (n / 10)
        rw [htenth] at hzero
        simp only [digitsValue, List.foldl_cons, List.foldl_nil] at hzero
        have : ('0' : Char).toNat = 48 := rfl
        omega

theorem exists_toDigits (n : Nat) :
    ∃ d ds, Nat.toDigits 10 n = d :: ds ∧ d.isDigit = true := by
  cases hds : Nat.toDigits 10 n with
  | nil => exact absurd hds Nat.toDigits_ne_nil
  | cons d ds =>
    have hd : d ∈ Nat.toDigits 10 n := hds ▸ List.mem_cons_self
    exact ⟨d, ds, rfl, Nat.isDigit_of_mem_toDigits (by decide) (by decide) hd⟩

theorem spanDigits_append {ds rest : List Char} (hds : ∀ c ∈ ds, c.isDigit = true)
    (hrest : Closes rest) : spanDigits (ds ++ rest) = (ds, rest) := by
  have hstop : rest.takeWhile Char.isDigit = [] ∧ rest.dropWhile Char.isDigit = rest := by
    cases rest with
    | nil => exact ⟨rfl, rfl⟩
    | cons c cs =>
      have hc := (hrest c rfl).1
      exact ⟨by simp [hc], by simp [hc]⟩
  rw [spanDigits, List.takeWhile_append_of_pos hds, List.dropWhile_append_of_pos hds, hstop.1,
    hstop.2, List.append_nil]

/-- Nothing belongs to a number behind its whole part if an end stands there. -/
theorem scanTail_of_closes (negative : Bool) (whole : List Char) {rest : List Char}
    (hrest : Closes rest) :
    scanTail negative whole rest = some (⟨negative, whole, [], none⟩, rest) := by
  have hhead : ∀ c cs, rest = c :: cs → c ≠ '.' ∧ c ≠ 'e' ∧ c ≠ 'E' := by
    rintro c cs rfl
    exact (hrest c rfl).2
  unfold scanTail
  split
  · exact absurd rfl (hhead _ _ rfl).1
  · simp only [Option.bind_eq_bind, Option.bind_some]
    split
    · exact absurd rfl (hhead _ _ rfl).2.1
    · exact absurd rfl (hhead _ _ rfl).2.2
    · rfl

/-- **A natural number is read back**, with or without a sign. -/
theorem scanNumber_toDigits (n : Nat) {rest : List Char} (hrest : Closes rest) :
    scanNumber (Nat.toDigits 10 n ++ rest) =
        some (⟨false, Nat.toDigits 10 n, [], none⟩, rest) ∧
      scanNumber ('-' :: (Nat.toDigits 10 n ++ rest)) =
        some (⟨true, Nat.toDigits 10 n, [], none⟩, rest) := by
  have hdigits : ∀ c ∈ Nat.toDigits 10 n, c.isDigit = true := fun c hc =>
    Nat.isDigit_of_mem_toDigits (by decide) (by decide) hc
  have hspan := spanDigits_append hdigits hrest
  have hzero : ∀ ds, Nat.toDigits 10 n = '0' :: ds → ds = [] := fun _ => toDigits_head
  have hne : Nat.toDigits 10 n ≠ [] := Nat.toDigits_ne_nil
  have htail := fun negative => scanTail_of_closes negative (Nat.toDigits 10 n) hrest
  generalize Nat.toDigits 10 n = ds at hdigits hspan hzero hne htail
  cases ds with
  | nil => exact absurd rfl hne
  | cons d ds =>
    have hminus : d ≠ '-' := by
      rintro rfl
      cases hdigits _ List.mem_cons_self
    rw [List.cons_append] at hspan ⊢
    simp only [scanNumber, List.cons.injEq, hminus, false_and, imp_self, implies_true, hspan, htail]
    -- what is left is the check for a leading zero, the same with a sign and without
    constructor
    all_goals
      split
      · rename_i heq
        cases heq
      · rename_i heq
        obtain ⟨rfl, rfl⟩ := List.cons.inj heq
        cases hzero _ rfl
      · rfl

/-- The value of a number that is written without a sign. -/
theorem value_natural {n : Nat} (hn : n < wordLimit) :
    (⟨false, Nat.toDigits 10 n, [], none⟩ : NumberText).value = .natural n := by
  simp [NumberText.value, digitsValue_toDigits, hn]

/-- The value of a number that is written with a sign. -/
theorem value_negative {n : Nat} (hpos : 0 < n) (hn : n ≤ 0x8000000000000000) :
    (⟨true, Nat.toDigits 10 n, [], none⟩ : NumberText).value = .negative n := by
  simp [NumberText.value, digitsValue_toDigits, hpos, hn]

/-! ## Layer C: tokens -/

/-- A token that denotes something, and no number but a plain one. -/
def Token.isPlain : Token → Bool
  | .num n => n.isPlain
  | .str s => s.isSome
  | _ => true

/-- A token as it is written. -/
def Token.chars : Token → List Char
  | .null => ['n', 'u', 'l', 'l']
  | .bool true => ['t', 'r', 'u', 'e']
  | .bool false => ['f', 'a', 'l', 's', 'e']
  | .num n => (writeNumber n).toList
  | .str s => stringChars (s.getD "")
  | .openArr => ['[']
  | .closeArr => [']']
  | .openObj => ['\x7b']
  | .closeObj => ['\x7d']
  | .comma => [',']
  | .colon => [':']

theorem Token.chars_natural (n : Nat) : chars (.num (.natural n)) = Nat.toDigits 10 n := by
  simp [chars, writeNumber, Nat.toString_eq_repr, Nat.toList_repr]

theorem Token.chars_negative (n : Nat) :
    chars (.num (.negative n)) = '-' :: Nat.toDigits 10 n := by
  simp [chars, writeNumber, Nat.toString_eq_repr, Nat.toList_repr]

/-- Whether an end has to stand behind a token. -/
def Token.needsEnd : Token → Bool
  | .num _ => true
  | _ => false

theorem scanToken_number {c : Char} (hc : c.isDigit = true ∨ c = '-') (cs : List Char) :
    scanToken (c :: cs) = (scanNumber (c :: cs)).map fun p => (.num p.1.value, p.2) := by
  have hne : ∀ x : Char, x.isDigit = false → x ≠ '-' → c ≠ x := by
    rintro x hdigit hminus rfl
    rcases hc with hc | hc
    · rw [hdigit] at hc
      cases hc
    · exact hminus hc
  have hbrace : ∀ n, (Char.ofNat n).isDigit = false → Char.ofNat n ≠ '-' →
      ¬ (c.toNat == n) = true := by
    intro n hdigit hminus heq
    refine hne _ hdigit hminus ?_
    rw [← beq_iff_eq.1 heq, Char.ofNat_toNat]
  -- every other token begins with a character that no number begins with
  unfold scanToken
  split
  all_goals rename_i heq
  case h_9 =>
    obtain ⟨rfl, rfl⟩ := List.cons.inj heq
    rw [if_neg (hbrace _ (by decide) (by decide)), if_neg (hbrace _ (by decide) (by decide))]
  case h_10 => cases heq
  all_goals exact absurd (List.cons.inj heq).1 (hne _ (by decide) (by decide))

/-- **A plain token is read back.** -/
theorem scanToken_chars {t : Token} (ht : t.isPlain = true) {rest : List Char}
    (hrest : t.needsEnd = true → Closes rest) : scanToken (t.chars ++ rest) = some (t, rest) := by
  cases t with
  | num n =>
    -- digits have no end of their own, so what follows has to close them
    have hend : Closes rest := hrest rfl
    cases n with
    | natural n =>
      have hn : n < wordLimit := by simpa [Token.isPlain, JsonNumber.isPlain] using ht
      have hscan := (scanNumber_toDigits n hend).1
      obtain ⟨d, ds, hds, hd⟩ := exists_toDigits n
      rw [Token.chars_natural]
      rw [hds, List.cons_append] at hscan ⊢
      rw [scanToken_number (Or.inl hd), hscan, Option.map_some, ← hds, value_natural hn]
    | negative n =>
      obtain ⟨hpos, hn⟩ : 0 < n ∧ n ≤ 0x8000000000000000 := by
        simpa [Token.isPlain, JsonNumber.isPlain] using ht
      rw [Token.chars_negative, List.cons_append, scanToken_number (Or.inr rfl),
        (scanNumber_toDigits n hend).2, Option.map_some, value_negative hpos hn]
    | fraction | tooLarge => cases ht
  | str s =>
    obtain ⟨s, rfl⟩ := Option.isSome_iff_exists.1 ht
    obtain ⟨ps, hscan, hjoin⟩ := scanString_escaped s.toList rest
    have hchars : Token.chars (.str (some s)) ++ rest =
        '"' :: (s.toList.flatMap escapeChar ++ '"' :: rest) := by
      simp [Token.chars, stringChars]
    rw [hchars]
    simp [scanToken, hscan, hjoin]
  | bool b => cases b <;> rfl
  | null | openArr | closeArr | openObj | closeObj | comma | colon => rfl

/-- No token is written as nothing, or begins with a blank. -/
theorem Token.exists_chars {t : Token} (ht : t.isPlain = true) :
    ∃ c cs, t.chars = c :: cs ∧ isGap c = false := by
  cases t with
  | num n =>
    cases n with
    | natural n =>
      obtain ⟨d, ds, hds, hd⟩ := exists_toDigits n
      refine ⟨d, ds, (chars_natural n).trans hds, ?_⟩
      -- no digit is a blank
      by_contra hgap
      simp only [isGap, Bool.not_eq_false, Bool.or_eq_true, beq_iff_eq] at hgap
      rcases hgap with ((rfl | rfl) | rfl) | rfl <;> cases hd
    | negative n => exact ⟨'-', _, chars_negative n, rfl⟩
    | fraction | tooLarge => cases ht
  | str s => exact ⟨'"', _, rfl, rfl⟩
  | bool b => cases b <;> exact ⟨_, _, rfl, rfl⟩
  | null | openArr | closeArr | openObj | closeObj | comma | colon => exact ⟨_, _, rfl, rfl⟩

theorem tokens_chars {t : Token} (ht : t.isPlain = true) {rest : List Char}
    (hrest : t.needsEnd = true → Closes rest) (k : Nat) :
    tokens (k + 1) (t.chars ++ rest) = (tokens k rest).map (t :: ·) := by
  obtain ⟨c, cs, hchars, hgap⟩ := Token.exists_chars ht
  have hscan := scanToken_chars ht hrest
  rw [hchars, List.cons_append] at hscan ⊢
  rw [tokens, List.dropWhile_cons_of_neg (by simp [hgap])]
  simp only [hscan, Option.bind_eq_bind, Option.bind_some]
  cases tokens k rest <;> rfl

/-! ## Layer D: values -/

mutual

/-- A value all of whose texts denote something and all of whose numbers are plain. -/
def isPlain : Json → Bool
  | .null => true
  | .bool _ => true
  | .num n => n.isPlain
  | .str s => s.isSome
  | .arr items => arePlain items
  | .obj members => havePlainValues members

/-- `isPlain` for the items of an array. -/
def arePlain : List Json → Bool
  | [] => true
  | v :: rest => isPlain v && arePlain rest

/-- `isPlain` for the members of an object. -/
def havePlainValues : List (Option String × Json) → Bool
  | [] => true
  | (k, v) :: rest => k.isSome && isPlain v && havePlainValues rest

end

mutual

/-- The tokens of a value. -/
def tokensOf : Json → List Token
  | .null => [.null]
  | .bool b => [.bool b]
  | .num n => [.num n]
  | .str s => [.str s]
  | .arr items => .openArr :: (tokensOfItems items ++ [.closeArr])
  | .obj members => .openObj :: (tokensOfMembers members ++ [.closeObj])

/-- The tokens of the items of an array. -/
def tokensOfItems : List Json → List Token
  | [] => []
  | [v] => tokensOf v
  | v :: rest => tokensOf v ++ .comma :: tokensOfItems rest

/-- The tokens of the members of an object. -/
def tokensOfMembers : List (Option String × Json) → List Token
  | [] => []
  | [(k, v)] => .str k :: .colon :: tokensOf v
  | (k, v) :: rest => .str k :: .colon :: (tokensOf v ++ .comma :: tokensOfMembers rest)

end

/-- **A text is cut into tokens** where something follows it: they are no more than its characters,
and what follows is cut as it is on its own. -/
structure CutBefore (rest cs : List Char) (ts : List Token) : Prop where
  length_le : ts.length ≤ cs.length
  tokens : ∀ k, Json.tokens (ts.length + k) (cs ++ rest) = (Json.tokens k rest).map (ts ++ ·)

theorem cutBefore_nil (rest : List Char) : CutBefore rest [] [] where
  length_le := Nat.le_refl 0
  tokens k := by cases h : Json.tokens k rest <;> simp [h]

theorem CutBefore.append {rest cs cs' : List Char} {ts ts' : List Token}
    (h : CutBefore (cs' ++ rest) cs ts) (h' : CutBefore rest cs' ts') :
    CutBefore rest (cs ++ cs') (ts ++ ts') where
  length_le := by
    have hlength := h.length_le
    have hlength' := h'.length_le
    simp only [List.length_append]
    omega
  tokens k := by
    rw [List.append_assoc, List.length_append, Nat.add_assoc, h.tokens, h'.tokens, Option.map_map]
    congr 1
    funext ts''
    exact (List.append_assoc ..).symm

theorem cutBefore_token {t : Token} (ht : t.isPlain = true) {rest : List Char}
    (hrest : t.needsEnd = true → Closes rest) : CutBefore rest t.chars [t] where
  length_le := by
    obtain ⟨c, cs, hchars, -⟩ := Token.exists_chars ht
    simp [hchars]
  tokens k := by
    rw [List.length_singleton, Nat.add_comm, tokens_chars ht hrest]
    rfl

/-- A token behind which anything may stand. -/
theorem cutBefore_mark (t : Token) (ht : t.isPlain = true) (hend : t.needsEnd = false)
    (rest : List Char) : CutBefore rest t.chars [t] :=
  cutBefore_token ht fun h => by rw [hend] at h; cases h

/-- The characters that items are written as, with commas between them. -/
theorem toList_intercalate_cons (t : String) (ts : List String) :
    (",".intercalate (t :: ts)).toList =
      t.toList ++ if ts = [] then [] else ',' :: (",".intercalate ts).toList := by
  cases ts with
  | nil => simp
  | cons t' ts => simp [String.intercalate_cons_cons]

theorem closes_cons {c : Char} (hc : c.isDigit = false ∧ c ≠ '.' ∧ c ≠ 'e' ∧ c ≠ 'E')
    (cs : List Char) : Closes (c :: cs) := by
  rintro x hx
  obtain rfl := Option.mem_some_iff.1 hx
  exact hc

mutual

/-- **A written value is cut into its tokens**, where an end follows. -/
theorem cutBefore_write (v : Json) (hv : v.isPlain = true) {rest : List Char}
    (hrest : Closes rest) : CutBefore rest v.write.toList (tokensOf v) := by
  cases v with
  | null => exact cutBefore_mark .null rfl rfl rest
  | bool b =>
    have htoken := cutBefore_mark (.bool b) rfl rfl rest
    cases b <;> exact htoken
  | num n => exact cutBefore_token (t := .num n) hv fun _ => hrest
  | str s =>
    have htoken := cutBefore_mark (.str s) hv rfl rest
    simpa [write, writeString, tokensOf, Token.chars] using htoken
  | arr items =>
    have hopen := cutBefore_mark .openArr rfl rfl
    -- the bracket closes a last item that is a number
    have hitems := cutBefore_writeItems items hv (closes_cons (c := ']') (by decide) rest)
    have hclose := cutBefore_mark .closeArr rfl rfl
    simpa [write, tokensOf, Token.chars] using (hopen _).append (hitems.append (hclose _))
  | obj members =>
    have hopen := cutBefore_mark .openObj rfl rfl
    have hmembers := cutBefore_writeMembers members hv (closes_cons (c := '\x7d') (by decide) rest)
    have hclose := cutBefore_mark .closeObj rfl rfl
    simpa [write, tokensOf, Token.chars] using (hopen _).append (hmembers.append (hclose _))

theorem cutBefore_writeItems (vs : List Json) (hvs : arePlain vs = true) {rest : List Char}
    (hrest : Closes rest) :
    CutBefore rest (",".intercalate (writeItems vs)).toList (tokensOfItems vs) := by
  match vs with
  | [] => exact cutBefore_nil rest
  | [v] =>
    have hv : v.isPlain = true := by simpa [arePlain] using hvs
    simpa [writeItems, tokensOfItems] using cutBefore_write v hv hrest
  | v :: w :: vs =>
    obtain ⟨hv, hvs⟩ := Bool.and_eq_true_iff.1 hvs
    have hfirst := fun after => cutBefore_write v hv (closes_cons (c := ',') (by decide) after)
    have hcomma := cutBefore_mark .comma rfl rfl
    have hothers := cutBefore_writeItems (w :: vs) hvs hrest
    simpa [writeItems, tokensOfItems, toList_intercalate_cons, Token.chars] using
      (hfirst _).append ((hcomma _).append hothers)

theorem cutBefore_writeMembers (ms : List (Option String × Json)) (hms : havePlainValues ms = true)
    {rest : List Char} (hrest : Closes rest) :
    CutBefore rest (",".intercalate (writeMembers ms)).toList (tokensOfMembers ms) := by
  match ms with
  | [] => exact cutBefore_nil rest
  | [(k, v)] =>
    obtain ⟨hk, hv⟩ : k.isSome = true ∧ v.isPlain = true := by simpa [havePlainValues] using hms
    have hname := cutBefore_mark (.str k) hk rfl
    have hcolon := cutBefore_mark .colon rfl rfl
    have hvalue := cutBefore_write v hv hrest
    simpa [writeMembers, writeString, tokensOfMembers, Token.chars] using
      (hname _).append ((hcolon _).append hvalue)
  | (k, v) :: m :: ms =>
    obtain ⟨⟨hk, hv⟩, hms⟩ : (k.isSome = true ∧ v.isPlain = true) ∧
        havePlainValues (m :: ms) = true := by
      simpa only [havePlainValues, Bool.and_eq_true] using hms
    have hname := cutBefore_mark (.str k) hk rfl
    have hcolon := cutBefore_mark .colon rfl rfl
    -- the comma behind a value closes it
    have hvalue := fun after => cutBefore_write v hv (closes_cons (c := ',') (by decide) after)
    have hcomma := cutBefore_mark .comma rfl rfl
    have hothers := cutBefore_writeMembers (m :: ms) hms hrest
    simpa [writeMembers, writeString, tokensOfMembers, toList_intercalate_cons, Token.chars] using
      (hname _).append ((hcolon _).append ((hvalue _).append ((hcomma _).append hothers)))

end

/-- The first token of a value closes nothing. -/
theorem exists_tokensOf (v : Json) :
    ∃ t ts, tokensOf v = t :: ts ∧ t ≠ .closeArr ∧ t ≠ .closeObj := by
  cases v <;> exact ⟨_, _, rfl, by rintro ⟨⟩, by rintro ⟨⟩⟩

theorem value_openArr {ts : List Token} (hts : ts.head? ≠ some .closeArr) (fuel : Nat) :
    value (fuel + 1) (.openArr :: ts) = (items fuel ts).map fun p => (.arr p.1, p.2) := by
  cases ts with
  | nil => rw [value]; rintro _ ⟨⟩
  | cons t ts =>
    rw [value]
    rintro rest heq
    obtain ⟨rfl, -⟩ := List.cons.inj heq
    exact hts rfl

theorem value_openObj {ts : List Token} (hts : ts.head? ≠ some .closeObj) (fuel : Nat) :
    value (fuel + 1) (.openObj :: ts) = (members fuel ts).map fun p => (.obj p.1, p.2) := by
  cases ts with
  | nil => rw [value]; rintro _ ⟨⟩
  | cons t ts =>
    rw [value]
    rintro rest heq
    obtain ⟨rfl, -⟩ := List.cons.inj heq
    exact hts rfl

mutual

/-- **The tokens of a value are put together to it**, with no more steps than there are tokens. -/
theorem value_tokensOf (v : Json) (rest : List Token) {fuel : Nat}
    (hfuel : (tokensOf v).length ≤ fuel) : value fuel (tokensOf v ++ rest) = some (v, rest) := by
  -- a value has a first token, and what is inside it gets by with the steps for the others
  obtain ⟨fuel, rfl⟩ : ∃ n, fuel = n + 1 := by
    obtain ⟨t, ts, hts, -⟩ := exists_tokensOf v
    rw [hts, List.length_cons] at hfuel
    exact ⟨fuel - 1, by omega⟩
  cases v with
  | null | bool | num | str => rfl
  | arr vs =>
    cases vs with
    | nil => rfl
    | cons v vs =>
      have hlength : (tokensOfItems (v :: vs)).length < fuel := by
        simp only [tokensOf, List.length_cons, List.length_append, List.length_nil] at hfuel
        omega
      have hitems := items_tokensOfItems (v :: vs) (by simp) rest hlength
      have hhead : (tokensOfItems (v :: vs) ++ .closeArr :: rest).head? ≠ some .closeArr := by
        obtain ⟨t, ts, hts, hne, -⟩ := exists_tokensOf v
        cases vs <;> simp [tokensOfItems, hts, hne]
      rw [tokensOf, List.cons_append, List.append_assoc, List.singleton_append,
        value_openArr hhead, hitems]
      rfl
  | obj ms =>
    cases ms with
    | nil => rfl
    | cons m ms =>
      have hlength : (tokensOfMembers (m :: ms)).length < fuel := by
        simp only [tokensOf, List.length_cons, List.length_append, List.length_nil] at hfuel
        omega
      have hmembers := members_tokensOfMembers (m :: ms) (by simp) rest hlength
      have hhead : (tokensOfMembers (m :: ms) ++ .closeObj :: rest).head? ≠ some .closeObj := by
        cases ms <;> simp [tokensOfMembers]
      rw [tokensOf, List.cons_append, List.append_assoc, List.singleton_append,
        value_openObj hhead, hmembers]
      rfl

theorem items_tokensOfItems (vs : List Json) (hvs : vs ≠ []) (rest : List Token) {fuel : Nat}
    (hfuel : (tokensOfItems vs).length < fuel) :
    items fuel (tokensOfItems vs ++ .closeArr :: rest) = some (vs, rest) := by
  obtain ⟨fuel, rfl⟩ : ∃ n, fuel = n + 1 := ⟨fuel - 1, by omega⟩
  match vs with
  | [] => exact absurd rfl hvs
  | [v] =>
    have hv : value fuel (tokensOf v ++ .closeArr :: rest) = some (v, .closeArr :: rest) :=
      value_tokensOf v _ (by simp only [tokensOfItems] at hfuel; omega)
    rw [items, tokensOfItems, hv]
    rfl
  | v :: w :: vs =>
    simp only [tokensOfItems, List.length_append, List.length_cons] at hfuel
    -- the first item takes as many steps as it has tokens, and the comma pays for going on
    have hlength : (tokensOf v).length ≤ fuel := by omega
    have hv := value_tokensOf v (.comma :: (tokensOfItems (w :: vs) ++ .closeArr :: rest)) hlength
    have hlengths : (tokensOfItems (w :: vs)).length < fuel := by omega
    have hothers := items_tokensOfItems (w :: vs) (by simp) rest hlengths
    simp only [tokensOfItems, List.append_assoc, List.cons_append]
    rw [items, hv]
    simp [hothers]

theorem members_tokensOfMembers (ms : List (Option String × Json)) (hms : ms ≠ [])
    (rest : List Token) {fuel : Nat} (hfuel : (tokensOfMembers ms).length < fuel) :
    members fuel (tokensOfMembers ms ++ .closeObj :: rest) = some (ms, rest) := by
  obtain ⟨fuel, rfl⟩ : ∃ n, fuel = n + 1 := ⟨fuel - 1, by omega⟩
  match ms with
  | [] => exact absurd rfl hms
  | [(k, v)] =>
    have hv : value fuel (tokensOf v ++ .closeObj :: rest) = some (v, .closeObj :: rest) :=
      value_tokensOf v _ (by simp only [tokensOfMembers, List.length_cons] at hfuel; omega)
    rw [tokensOfMembers, List.cons_append, List.cons_append, members, hv]
    rfl
  | (k, v) :: m :: ms =>
    simp only [tokensOfMembers, List.length_append, List.length_cons] at hfuel
    have hlength : (tokensOf v).length ≤ fuel := by omega
    have hv := value_tokensOf v (.comma :: (tokensOfMembers (m :: ms) ++ .closeObj :: rest)) hlength
    have hlengths : (tokensOfMembers (m :: ms)).length < fuel := by omega
    have hothers := members_tokensOfMembers (m :: ms) (by simp) rest hlengths
    simp only [tokensOfMembers, List.append_assoc, List.cons_append]
    rw [members, hv]
    simp [hothers]

end

/-! ## Layer E: whole texts -/

/-- **A written value is read back.** -/
theorem read?_write {v : Json} (hv : v.isPlain = true) : read? v.write = some v := by
  have hcut : CutBefore [] v.write.toList (tokensOf v) := cutBefore_write v hv (by rintro c ⟨⟩)
  have hlength := hcut.length_le
  have htokens := hcut.tokens (v.write.toList.length + 1 - (tokensOf v).length)
  have hfuel : (tokensOf v).length ≤ 2 * (tokensOf v).length + 1 := by omega
  have hvalue := value_tokensOf v [] hfuel
  obtain ⟨k, hk⟩ : ∃ k, v.write.toList.length + 1 - (tokensOf v).length = k + 1 :=
    ⟨v.write.toList.length - (tokensOf v).length, by omega⟩
  rw [Nat.add_sub_of_le (by omega), hk, List.append_nil] at htokens
  rw [List.append_nil] at hvalue
  have hend : tokens (k + 1) [] = some [] := rfl
  rw [hend, Option.map_some, List.append_nil] at htokens
  rw [read?]
  simp [htokens, hvalue]

end Json

end CodeAtlas

import CodeAtlas.Config.Basic

/-!
# Theory of redacted messages

A message is made of pieces: text without a quote, and quoted texts in which every quote stands
behind a backslash. Behind the last piece a quote may be left open. Every message can be taken apart
in this way, and redaction keeps the text and masks what is quoted, piece by piece. A text that is
quoted before it goes into a message is one piece, whatever it contains, so no message shows it.

## Architecture

- **Layer A**: what stands between quotes;
- **Layer B**: pieces, and messages made of them;
- **Layer C**: what the scan makes of a message;
- **Layer D**: quoted texts;
- **Layer E**: the main result.
-/

namespace CodeAtlas

namespace Redaction

/-! ## Layer A: between quotes -/

/-- **What may stand between two quotes that belong together**: a quote only behind a backslash, and
no backslash at the end that would take the closing quote with it. -/
inductive Body : List Char → Prop
  | nil : Body []
  | plain {c : Char} {rest : List Char} (hquote : c ≠ '"') (hslash : c ≠ '\\') (h : Body rest) :
      Body (c :: rest)
  | escaped (c : Char) {rest : List Char} (h : Body rest) : Body ('\\' :: c :: rest)

theorem Body.append {l r : List Char} (hl : Body l) (hr : Body r) : Body (l ++ r) := by
  induction hl with
  | nil => exact hr
  | plain hquote hslash _ ih => exact .plain hquote hslash ih
  | escaped c _ ih => exact .escaped c ih

theorem Body.flatMap {f : Char → List Char} (hf : ∀ c, Body (f c)) (cs : List Char) :
    Body (cs.flatMap f) := by
  induction cs with
  | nil => exact .nil
  | cons c rest ih => exact (hf c).append ih

theorem body_of_plain {cs : List Char} (h : ∀ c ∈ cs, c ≠ '"' ∧ c ≠ '\\') : Body cs := by
  induction cs with
  | nil => exact .nil
  | cons c rest ih =>
    obtain ⟨hquote, hslash⟩ := h c (List.mem_cons_self ..)
    exact .plain hquote hslash (ih fun d hd => h d (List.mem_cons_of_mem _ hd))

theorem body_mask : Body mask := by
  have hplain : ∀ c ∈ "<redacted>".toList, c ≠ '"' ∧ c ≠ '\\' := by simp
  exact body_of_plain hplain

/-- What may stand behind a quote that is never closed: the last backslash may have nothing to take
with it. -/
def Dangling (cs : List Char) : Prop := Body cs ∨ ∃ body, Body body ∧ cs = body ++ ['\\']

/-- Behind a quote there is one that closes it, or the quote is never closed. -/
theorem dangling_or_closed :
    (cs : List Char) → Dangling cs ∨ ∃ body rest, Body body ∧ cs = body ++ '"' :: rest
  | [] => .inl (.inl .nil)
  | ['\\'] => .inl (.inr ⟨[], .nil, rfl⟩)
  | c :: d :: rest => by
    by_cases hquote : c = '"'
    · exact .inr ⟨[], d :: rest, .nil, by rw [hquote]; rfl⟩
    -- a backslash takes the next character with it, so two are read at once
    by_cases hslash : c = '\\'
    · subst hslash
      rcases dangling_or_closed rest with (h | ⟨body, hbody, rfl⟩) | ⟨body, rest', hbody, rfl⟩
      · exact .inl (.inl (.escaped d h))
      · exact .inl (.inr ⟨'\\' :: d :: body, .escaped d hbody, rfl⟩)
      · exact .inr ⟨'\\' :: d :: body, rest', .escaped d hbody, rfl⟩
    · rcases dangling_or_closed (d :: rest) with (h | ⟨body, hbody, hd⟩) | ⟨body, rest', hbody, hd⟩
      · exact .inl (.inl (.plain hquote hslash h))
      · exact .inl (.inr ⟨c :: body, .plain hquote hslash hbody, by rw [hd]; rfl⟩)
      · exact .inr ⟨c :: body, rest', .plain hquote hslash hbody, by rw [hd]; rfl⟩
  | [c] => by
    by_cases hquote : c = '"'
    · exact .inr ⟨[], [], .nil, by rw [hquote]; rfl⟩
    by_cases hslash : c = '\\'
    · exact .inl (.inr ⟨[], .nil, by rw [hslash]; rfl⟩)
    · exact .inl (.inl (.plain hquote hslash .nil))

/-! ## Layer B: messages -/

/-- **A piece of a message.** -/
inductive Piece where
  | text (cs : List Char) (h : '"' ∉ cs)
  | quote (body : List Char) (h : Body body)

namespace Piece

/-- A piece as it is written. -/
def written : Piece → List Char
  | .text cs _ => cs
  | .quote body _ => '"' :: body ++ ['"']

/-- A piece without what it quotes. -/
def hidden : Piece → Piece
  | .text cs h => .text cs h
  | .quote _ _ => .quote mask body_mask

/-- The text that a piece holds outside of quotes. -/
def outside : Piece → List Char
  | .text cs _ => cs
  | .quote _ _ => []

end Piece

/-- **A message**: pieces, and what stands behind a quote that is never closed. -/
structure Message where
  pieces : List Piece
  dangling : Option (Subtype Dangling)

namespace Message

/-- A message as it is written. -/
def written (m : Message) : List Char :=
  m.pieces.flatMap Piece.written ++ (m.dangling.map fun cs => '"' :: cs.val).getD []

/-- A message without what it quotes. -/
def hidden (m : Message) : Message where
  pieces := m.pieces.map Piece.hidden
  dangling := m.dangling.map fun _ => ⟨mask, .inl body_mask⟩

/-- The text that a message holds outside of quotes. -/
def outside (m : Message) : List Char := m.pieces.flatMap Piece.outside

/-- A message with one more piece in front. -/
def cons (p : Piece) (m : Message) : Message := ⟨p :: m.pieces, m.dangling⟩

theorem written_cons (p : Piece) (m : Message) : (m.cons p).written = p.written ++ m.written :=
  List.append_assoc ..

@[simp] theorem hidden_hidden (m : Message) : m.hidden.hidden = m.hidden := by
  have hpiece : ∀ p : Piece, p.hidden.hidden = p.hidden := by
    intro p
    cases p <;> rfl
  simp only [hidden, List.map_map, Option.map_map]
  congr 1
  exact List.map_congr_left fun p _ => hpiece p

theorem outside_hidden (m : Message) : m.hidden.outside = m.outside := by
  have hpiece : ∀ p : Piece, p.hidden.outside = p.outside := by
    intro p
    cases p <;> rfl
  simp only [outside, hidden, List.flatMap_map, hpiece]

/-- What is quoted in a redacted message is the mask. -/
theorem eq_mask_of_mem (m : Message) (body : List Char) (h : Body body)
    (hmem : Piece.quote body h ∈ m.hidden.pieces) : body = mask := by
  obtain ⟨p, -, hp⟩ := List.mem_map.1 hmem
  cases p with
  | text cs hcs => cases hp
  | quote body hbody =>
    cases hp
    rfl

theorem eq_mask_of_dangling (m : Message) : ∀ cs ∈ m.hidden.dangling, cs.val = mask := by
  intro cs hcs
  obtain ⟨_, -, rfl⟩ := Option.map_eq_some_iff.1 hcs
  rfl

/-- **Every text is a message.** -/
theorem exists_written : (cs : List Char) → ∃ m : Message, m.written = cs
  | [] => ⟨⟨[], none⟩, rfl⟩
  | c :: rest => by
    by_cases hquote : c = '"'
    · rcases dangling_or_closed rest with hdangling | ⟨body, rest', hbody, hrest⟩
      · exact ⟨⟨[], some ⟨rest, hdangling⟩⟩, by rw [hquote]; rfl⟩
      · obtain ⟨m, hm⟩ := exists_written rest'
        refine ⟨m.cons (.quote body hbody), ?_⟩
        rw [written_cons, hm, hquote, hrest]
        simp [Piece.written]
    · obtain ⟨m, hm⟩ := exists_written rest
      refine ⟨m.cons (.text [c] (by simpa using Ne.symm hquote)), ?_⟩
      rw [written_cons, hm]
      rfl
termination_by cs => cs.length
decreasing_by
  · simp [hrest]
    omega
  · simp

end Message

/-! ## Layer C: the scan -/

theorem scan_text {cs : List Char} (h : '"' ∉ cs) (rest : List Char) :
    scan .outside (cs ++ rest) = cs ++ scan .outside rest := by
  induction cs with
  | nil => rfl
  | cons c cs ih =>
    have hc : (c == '"') = false := by
      rw [beq_eq_false_iff_ne]
      rintro rfl
      exact h (List.mem_cons_self ..)
    simp only [List.cons_append, scan, hc]
    rw [if_neg Bool.false_ne_true, ih fun hmem => h (List.mem_cons_of_mem _ hmem)]

/-- The scan passes over what stands between quotes. -/
theorem scan_body {body : List Char} (h : Body body) (rest : List Char) :
    scan (.inside false) (body ++ rest) = scan (.inside false) rest := by
  induction h with
  | nil => rfl
  | escaped c _ ih => exact ih
  | plain hquote hslash _ ih => simp [scan, hquote, hslash, ih]

theorem scan_written (p : Piece) (rest : List Char) :
    scan .outside (p.written ++ rest) = p.hidden.written ++ scan .outside rest := by
  cases p with
  | text cs h => exact scan_text h rest
  | quote body h =>
    have hclosed : scan (.inside false) ('"' :: rest) = mask ++ '"' :: scan .outside rest := rfl
    simp only [Piece.written, Piece.hidden, List.cons_append, List.append_assoc, List.nil_append]
    exact congrArg _ ((scan_body h _).trans hclosed)

theorem scan_dangling {cs : List Char} (h : Dangling cs) :
    scan .outside ('"' :: cs) = '"' :: mask := by
  rcases h with h | ⟨body, h, rfl⟩
  · have hbody := scan_body h []
    rw [List.append_nil] at hbody
    exact congrArg _ hbody
  · exact congrArg _ (scan_body h ['\\'])

/-- **The scan keeps what stands outside of quotes and masks what they hold.** -/
theorem scan_message (m : Message) : scan .outside m.written = m.hidden.written := by
  obtain ⟨ps, dangling⟩ := m
  induction ps with
  | nil =>
    cases dangling with
    | none => rfl
    | some cs => exact scan_dangling cs.2
  | cons p ps ih =>
    show scan .outside (Message.cons p ⟨ps, dangling⟩).written =
      (Message.cons p.hidden (Message.hidden ⟨ps, dangling⟩)).written
    rw [Message.written_cons, Message.written_cons, scan_written, ih]

/-- Where the scan stands behind a character. -/
def Zone.next : Zone → Char → Zone
  | .outside, c => if c == '"' then .inside false else .outside
  | .inside true, _ => .inside false
  | .inside false, c =>
    if c == '\\' then .inside true else if c == '"' then .outside else .inside false

/-- What the scan writes for a character. -/
def Zone.writes : Zone → Char → List Char
  | .outside, c => [c]
  | .inside true, _ => []
  | .inside false, c => if c == '"' then mask ++ ['"'] else []

/-- **Where the scan stands behind a text.** -/
def Zone.behind : Zone → List Char → Zone
  | z, [] => z
  | z, c :: rest => (z.next c).behind rest

/-- What the scan has written when it has read a text. -/
def shown : Zone → List Char → List Char
  | _, [] => []
  | z, c :: rest => z.writes c ++ shown (z.next c) rest

theorem scan_cons (z : Zone) (c : Char) (rest : List Char) :
    scan z (c :: rest) = z.writes c ++ scan (z.next c) rest := by
  cases z with
  | outside => rfl
  | inside escaped =>
    cases escaped with
    | true => rfl
    | false =>
      by_cases hslash : c = '\\'
      · subst hslash
        rfl
      by_cases hquote : c = '"'
      · subst hquote
        rfl
      · simp [scan, Zone.writes, Zone.next, hslash, hquote]

/-- The scan of a text goes on where the scan of its beginning ended. -/
theorem scan_append (z : Zone) (l r : List Char) :
    scan z (l ++ r) = shown z l ++ scan (z.behind l) r := by
  induction l generalizing z with
  | nil => rfl
  | cons c l ih => rw [List.cons_append, scan_cons, ih, shown, Zone.behind, List.append_assoc]

/-! ## Layer D: quoted texts -/

theorem hex_plain (n : Nat) : ∀ c ∈ Quoted.hex n, c ≠ '"' ∧ c ≠ '\\' := by
  have hdigit : ∀ d < 16, Nat.digitChar d ≠ '"' ∧ Nat.digitChar d ≠ '\\' := by decide
  unfold Quoted.hex
  induction n using Nat.strongRecOn with
  | ind n ih =>
    rw [Nat.toDigits_eq_if (by decide)]
    -- the last digit, and those before it by induction on the number
    split
    · rename_i hlt
      intro c hc
      obtain rfl := List.mem_singleton.1 hc
      exact hdigit n hlt
    · rename_i hge
      intro c hc
      rcases List.mem_append.1 hc with hc | hc
      · exact ih (n / 16) (Nat.div_lt_self (by omega) (by decide)) c hc
      · obtain rfl := List.mem_singleton.1 hc
        exact hdigit _ (Nat.mod_lt _ (by decide))

theorem body_codeEscape (c : Char) : Body (Quoted.codeEscape c) := by
  refine .escaped 'u' (.plain (by decide) (by decide) ((body_of_plain (hex_plain _)).append ?_))
  exact body_of_plain (by simp)

/-- **An escaped character neither closes the quote nor takes the next one with it.** -/
theorem body_escape (c : Char) : Body (Quoted.escape c) := by
  unfold Quoted.escape
  -- controls, the backslash and the quote stand behind a backslash
  split
  · exact .escaped _ .nil
  split
  · exact .escaped _ .nil
  split
  · exact .escaped _ .nil
  split
  · exact .escaped _ .nil
  split
  · exact .escaped _ .nil
  split
  · exact .escaped _ .nil
  rename_i hslash hquote
  split
  · exact .plain (by simpa using hquote) (by simpa using hslash) .nil
  · exact body_codeEscape c

/-- A text between quotes, as a piece of a message. -/
def Piece.ofQuoted (s : String) : Piece :=
  .quote (s.toList.flatMap Quoted.escape) (.flatMap body_escape s.toList)

theorem written_ofQuoted (s : String) : (Piece.ofQuoted s).written = (quoted s).toList :=
  String.toList_ofList.symm

end Redaction

/-- A message as a text. -/
def Redaction.Message.text (m : Redaction.Message) : String := String.ofList m.written

theorem redactQuoted_text (m : Redaction.Message) : redactQuoted m.text = m.hidden.text := by
  rw [redactQuoted, Redaction.Message.text, String.toList_ofList, Redaction.scan_message]
  rfl

open Redaction

/-- **A quoted text is masked**, and the rest of the message is redacted on its own. -/
theorem redactQuoted_quoted {p : String} (hp : Zone.outside.behind p.toList = .outside)
    (a q : String) :
    redactQuoted (p ++ quoted a ++ q) =
      String.ofList (shown .outside p.toList) ++ ("\"<redacted>\"" ++ redactQuoted q) := by
  have hscan := scan_written (Piece.ofQuoted a) q.toList
  rw [written_ofQuoted] at hscan
  simp only [redactQuoted, String.toList_append, List.append_assoc, scan_append .outside p.toList,
    hp, hscan, String.ofList_append]
  rfl

/-- A fault never shows the text that was found in place of something else. -/
theorem message?_refuse (α : Type) (expected a b : String) :
    ((Json.str (some a)).refuse expected : Except DecodeFault α).mapError
        (fun fault => (ConfigFault.misshapen fault).message?) =
      ((Json.str (some b)).refuse expected : Except DecodeFault α).mapError
        fun fault => (ConfigFault.misshapen fault).message? := by
  have houtside : Zone.outside.behind ("invalid type: " ++ "string ").toList = .outside := by
    decide
  have hwords : ∀ s : String, (DecodeFault.wrongType ("string " ++ quoted s) expected).message =
      "invalid type: " ++ "string " ++ quoted s ++ (", expected " ++ expected) := by
    intro s
    have hmessage : (DecodeFault.wrongType ("string " ++ quoted s) expected).message =
        "invalid type: " ++ ("string " ++ quoted s) ++ ", expected " ++ expected := rfl
    rw [hmessage, String.append_assoc]
    exact congrArg (· ++ _) String.append_assoc.symm
  -- the scan is outside of quotes when the found text begins, so it is masked
  have hsame : redactQuoted (DecodeFault.wrongType ("string " ++ quoted a) expected).message =
      redactQuoted (DecodeFault.wrongType ("string " ++ quoted b) expected).message := by
    rw [hwords, hwords, redactQuoted_quoted houtside, redactQuoted_quoted houtside]
  exact congrArg (fun text => Except.error (some ("failed to parse toml config: " ++ text))) hsame

/-! ## Layer E: redacted messages -/

/-- **What is quoted leaves no trace.** Behind a text that leaves the scan outside of quotes,
messages that differ in a quoted text only are redacted to the same. Every message is made of
pieces; redaction keeps what stands outside of their quotes, masks what is quoted, up to the end
where a quote is never closed, and changes nothing when it is done again. So no fault of a
configuration shows the text that was found in place of something else. -/
theorem redaction_forgets_quoted :
    (∀ p q a b : String, Zone.outside.behind p.toList = .outside →
      redactQuoted (p ++ quoted a ++ q) = redactQuoted (p ++ quoted b ++ q)) ∧
      (∀ s : String, ∃ m : Message, m.text = s) ∧
      (∀ m : Message, redactQuoted m.text = m.hidden.text ∧
        m.hidden.outside = m.outside ∧
        (∀ body h, Piece.quote body h ∈ m.hidden.pieces → body = mask) ∧
        ∀ cs ∈ m.hidden.dangling, cs.val = mask) ∧
      (∀ s : String, redactQuoted (redactQuoted s) = redactQuoted s) ∧
      ∀ (α : Type) (expected a b : String),
        ((Json.str (some a)).refuse expected : Except DecodeFault α).mapError
            (fun fault => (ConfigFault.misshapen fault).message?) =
          ((Json.str (some b)).refuse expected : Except DecodeFault α).mapError
            fun fault => (ConfigFault.misshapen fault).message? := by
  have hmessage : ∀ s : String, ∃ m : Message, m.text = s := by
    intro s
    obtain ⟨m, hm⟩ := Message.exists_written s.toList
    exact ⟨m, by rw [Message.text, hm, String.ofList_toList]⟩
  refine ⟨?_, hmessage, ?_, ?_, message?_refuse⟩
  · intro p q a b hp
    rw [redactQuoted_quoted hp, redactQuoted_quoted hp]
  · exact fun m => ⟨redactQuoted_text m, m.outside_hidden, m.eq_mask_of_mem, m.eq_mask_of_dangling⟩
  · intro s
    obtain ⟨m, rfl⟩ := hmessage s
    rw [redactQuoted_text, redactQuoted_text, Message.hidden_hidden]

/-- A value full of quotes and backslashes looks like any other. -/
theorem backslashes_look_like_secret :
    Zone.outside.behind "value ".toList = .outside ∧
      redactQuoted ("value " ++ quoted "\\\"\\" ++ ", expected \"") =
        redactQuoted ("value " ++ quoted "secret" ++ ", expected \"") := by
  have houtside : Zone.outside.behind "value ".toList = .outside := by decide
  exact ⟨houtside, redaction_forgets_quoted.1 "value " ", expected \"" _ _ houtside⟩

end CodeAtlas

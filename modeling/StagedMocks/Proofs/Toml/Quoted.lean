import StagedMocks.Proofs.Text
import StagedMocks.Toml.Writer

/-!
Strings of TOML are read back as they were written, whichever of the four forms the writer chooses.
A content is written unit by unit, and read unit by unit. In the long forms a run of quotes can be
the beginning of the end, so a unit is read together with the run of quotes before it.
-/
namespace StagedMocks.Toml

section Units

variable {stop? : Text → Option (Text × Text)} {unit? : Text → Option (Text × Nat)}

theorem content?_skip (unit s : Text) :
    content? stop? unit? unit.length (unit ++ s) = content? stop? unit? 0 s := by
  induction unit with
  | nil => rfl
  | cons c unit ih => exact ih

/-- Reading goes on behind a unit that does not begin the end. -/
theorem content?_unit {c : Char} {unit s chars : Text} (hstop : stop? (c :: (unit ++ s)) = none)
    (hunit : unit? (c :: (unit ++ s)) = some (chars, unit.length + 1)) {found : Text × Text}
    (hrest : content? stop? unit? 0 s = some found) :
    content? stop? unit? 0 (c :: (unit ++ s)) = some (chars ++ found.1, found.2) := by
  simp [content?, hstop, hunit, content?_skip, hrest]

theorem content?_char {c : Char} {s chars : Text} (hstop : stop? (c :: s) = none)
    (hunit : unit? (c :: s) = some (chars, 1)) {found : Text × Text}
    (hrest : content? stop? unit? 0 s = some found) :
    content? stop? unit? 0 (c :: s) = some (chars ++ found.1, found.2) := by
  simp [content?, hstop, hunit, hrest]

theorem content?_end {c : Char} {s : Text} {found : Text × Text}
    (hstop : stop? (c :: s) = some found) : content? stop? unit? 0 (c :: s) = some found := by
  simp [content?, hstop]

end Units

section Escapes

theorem hexValue?_hexDigit : ∀ n < 16, hexValue? (hexDigit n) = some n := by
  decide

theorem codedChar?_hexDigits {c : Char} (h : isControl c = true) (s : Text) :
    codedChar? 4 ('0' :: '0' :: hexDigit (c.toNat / 16) :: hexDigit (c.toNat % 16) :: s) =
      some c := by
  have hcode : c.toNat < 128 := by
    simp only [isControl, Bool.or_eq_true, Bool.and_eq_true, decide_eq_true_eq, beq_iff_eq] at h
    omega
  have hzero : hexValue? '0' = some 0 := by decide
  have hhigh := hexValue?_hexDigit (c.toNat / 16) (by omega)
  have hlow := hexValue?_hexDigit (c.toNat % 16) (by omega)
  have hsum : 16 * (c.toNat / 16) + c.toNat % 16 = c.toNat := Nat.div_add_mod _ _
  have hvalid : c.toNat.isValidChar := .inl (by omega)
  simp [codedChar?, hzero, hhigh, hlow, hsum, hvalid]

theorem hiddenLineFeed?_escape {d : Char} (hspace : isSpace d = false) {s : Text}
    (hfeed : lineFeedLength (d :: s) = 0) : hiddenLineFeed? ('\\' :: d :: s) = none := by
  simp [hiddenLineFeed?, hspace, hfeed]

/-- An escape is read as the character that it stands for. -/
theorem exists_escape {isLong : Bool} {c : Char} {escape : Text}
    (h : escapeOf? isLong c = some escape) :
    ∃ unit, escape = '\\' :: unit ∧ ∀ s,
      escape? ('\\' :: (unit ++ s)) = some ([c], unit.length + 1) ∧
        hiddenLineFeed? ('\\' :: (unit ++ s)) = none := by
  rw [escapeOf?] at h
  split at h
  · rename_i hc
    cases h
    exact ⟨['b'], rfl, fun s => ⟨by rw [hc]; rfl, hiddenLineFeed?_escape rfl rfl⟩⟩
  split at h
  · rename_i hc
    cases h
    exact ⟨['t'], rfl, fun s => ⟨by rw [hc]; rfl, hiddenLineFeed?_escape rfl rfl⟩⟩
  split at h
  · rename_i hc
    cases h
    exact ⟨['f'], rfl, fun s => ⟨by rw [hc]; rfl, hiddenLineFeed?_escape rfl rfl⟩⟩
  split at h
  · rename_i hc
    cases h
    exact ⟨['r'], rfl, fun s => ⟨by rw [hc]; rfl, hiddenLineFeed?_escape rfl rfl⟩⟩
  split at h
  · rename_i hc
    cases h
    exact ⟨['\\'], rfl, fun s => ⟨by rw [hc]; rfl, hiddenLineFeed?_escape rfl rfl⟩⟩
  split at h
  · rename_i hc
    cases isLong with
    | true => cases h
    | false =>
        cases h
        exact ⟨['n'], rfl, fun s => ⟨by rw [hc]; rfl, hiddenLineFeed?_escape rfl rfl⟩⟩
  split at h
  · rename_i hc
    cases h
    refine ⟨_, rfl, fun s => ⟨?_, hiddenLineFeed?_escape rfl rfl⟩⟩
    simp [escape?, codedChar?_hexDigits hc]
  · cases h

theorem of_escapeOf?_eq_none {isLong : Bool} {c : Char} (h : escapeOf? isLong c = none) :
    c ≠ '\\' ∧ (isControl c = false ∨ (isLong = true ∧ c = '\n')) := by
  rw [escapeOf?] at h
  split at h
  · cases h
  split at h
  · cases h
  split at h
  · cases h
  split at h
  · cases h
  split at h
  · cases h
  rename_i hbackslash
  refine ⟨hbackslash, ?_⟩
  split at h
  · cases isLong with
    | true => exact .inr ⟨rfl, ‹_›⟩
    | false => cases h
  split at h
  · cases h
  · exact .inl (by simpa using ‹¬ isControl c = true›)

theorem escape?_eq_none {c : Char} (h : c ≠ '\\') (s : Text) : escape? (c :: s) = none := by
  unfold escape?
  split <;> simp_all

theorem hiddenLineFeed?_eq_none {c : Char} (h : c ≠ '\\') (s : Text) :
    hiddenLineFeed? (c :: s) = none := by
  unfold hiddenLineFeed?
  split <;> simp_all

theorem lineFeedLength_eq_zero {c : Char} (h : isControl c = false) (s : Text) :
    lineFeedLength (c :: s) = 0 := by
  unfold lineFeedLength
  split
  · rename_i hfeed
    rw [(List.cons.inj hfeed).1] at h
    cases h
  · rename_i hreturn
    rw [(List.cons.inj hreturn).1] at h
    cases h
  · rfl

end Escapes

section Basic

/-- The forms in double quotes. -/
def basicForm (isLong : Bool) : Form :=
  if isLong then .longBasic else .basic

theorem unit?_plain (isLong : Bool) {c : Char} (hbackslash : c ≠ '\\') (hc : isControl c = false)
    (s : Text) : (basicForm isLong).unit? (c :: s) = some ([c], 1) := by
  have hplain : plain? (fun c => !isControl c && c != '\\') (c :: s) = some ([c], 1) := by
    simp [plain?, hc, hbackslash]
  cases isLong with
  | false => simp [basicForm, Form.unit?, escape?_eq_none hbackslash, hplain]
  | true =>
      have hfeed := lineFeedLength_eq_zero hc s
      simp [basicForm, Form.unit?, hiddenLineFeed?_eq_none hbackslash, escape?_eq_none hbackslash,
        lineFeed?, hfeed, hplain]

theorem unit?_escape (isLong : Bool) {unit s chars : Text} {length : Nat}
    (hescape : escape? ('\\' :: (unit ++ s)) = some (chars, length))
    (hhidden : hiddenLineFeed? ('\\' :: (unit ++ s)) = none) :
    (basicForm isLong).unit? ('\\' :: (unit ++ s)) = some (chars, length) := by
  cases isLong with
  | false => simp [basicForm, Form.unit?, hescape]
  | true => simp [basicForm, Form.unit?, hhidden, hescape]

/-- A character other than a quote is written as one unit, which begins neither with a quote nor, if
the character is no line feed, with a control character. -/
theorem exists_unit (isLong : Bool) {c : Char} (hc : c ≠ '"') :
    ∃ d unit, (escapeOf? isLong c).getD [c] = d :: unit ∧ d ≠ '"' ∧
      (isControl d = true → c = '\n') ∧ ∀ s,
        (basicForm isLong).unit? (d :: (unit ++ s)) = some ([c], unit.length + 1) := by
  cases hescape : escapeOf? isLong c with
  | some escape =>
      obtain ⟨unit, rfl, hread⟩ := exists_escape hescape
      exact ⟨'\\', unit, rfl, by decide, nofun,
        fun s => unit?_escape isLong (hread s).1 (hread s).2⟩
  | none =>
      obtain ⟨hbackslash, hplain | ⟨rfl, rfl⟩⟩ := of_escapeOf?_eq_none hescape
      · refine ⟨c, [], rfl, hc, ?_, unit?_plain isLong hbackslash hplain⟩
        rw [hplain]
        nofun
      · exact ⟨'\n', [], rfl, hc, fun _ => rfl, fun s => rfl⟩

/-- An escaped quote is one unit, too. -/
theorem unit?_quote (isLong : Bool) (s : Text) :
    (basicForm isLong).unit? ('\\' :: (['"'] ++ s)) = some (['"'], ['"'].length + 1) :=
  unit?_escape isLong rfl (hiddenLineFeed?_escape rfl rfl)

/-- The content of a string on one line is read to its quote. -/
theorem content?_basic (s rest : Text) :
    content? Form.basic.stop? Form.basic.unit? 0 (escaped false 0 s ++ '"' :: rest) =
      some (s, rest) := by
  induction s with
  | nil => exact content?_end rfl
  | cons c s ih =>
      rw [escaped]
      split
      · rename_i hc
        subst hc
        exact content?_unit rfl (unit?_quote false _) ih
      · rename_i hc
        obtain ⟨d, unit, hwritten, hd, _, hread⟩ := exists_unit false hc
        rw [hwritten, List.append_assoc, List.cons_append]
        exact content?_unit (if_neg hd) (hread _) ih

end Basic

section Long

variable {quote : Char} {unit? : Text → Option (Text × Nat)}

theorem longEnd_run {run : Nat} {rest : Text} (hrest : ∀ c ∈ rest.head?, c ≠ quote) :
    longEnd quote (List.replicate run quote ++ rest) =
      if run < 3 then none
      else some (List.replicate (min 2 (run - 3)) quote,
        (List.replicate run quote ++ rest).drop (min 2 (run - 3) + 3)) := by
  have hquotes : ∀ c ∈ List.replicate run quote, (c == quote) = true := by
    intro c hc
    rw [List.eq_of_mem_replicate hc]
    exact beq_self_eq_true quote
  have hhead : ∀ c ∈ rest.head?, (c == quote) = false :=
    fun c hc => beq_eq_false_iff_ne.mpr (hrest c hc)
  rw [longEnd, Text.takeWhile_run hquotes hhead, List.length_replicate]

/-- A long string ends in three quotes, and before them may come two more. -/
theorem longEnd_delimiter {run : Nat} (hrun : run ≤ 2) {rest : Text}
    (hrest : ∀ c ∈ rest.head?, c ≠ quote) :
    longEnd quote (List.replicate run quote ++ (List.replicate 3 quote ++ rest)) =
      some (List.replicate run quote, rest) := by
  have hmin : min 2 (run + 3 - 3) = run := by omega
  rw [← List.append_assoc, List.replicate_append_replicate, longEnd_run hrest,
    if_neg (by omega), hmin, List.drop_left' (List.length_replicate)]

/-- Quotes that stand at most two in a row are read as they are. -/
theorem content?_quotes (hquote : ∀ s, unit? (quote :: s) = some ([quote], 1)) {run : Nat}
    (hrun : run ≤ 2) {d : Char} (hd : d ≠ quote) {s : Text} {found : Text × Text}
    (hrest : content? (longEnd quote) unit? 0 (d :: s) = some found) :
    content? (longEnd quote) unit? 0 (List.replicate run quote ++ d :: s) =
      some (List.replicate run quote ++ found.1, found.2) := by
  induction run with
  | zero => exact hrest
  | succ run ih =>
      have hstop : longEnd quote (List.replicate (run + 1) quote ++ d :: s) = none := by
        rw [longEnd_run, if_pos (by omega)]
        rintro c hc
        obtain rfl := Option.some.inj hc
        exact hd
      exact content?_char hstop (hquote _) (ih (by omega))

/-- A unit is read together with the quotes before it. -/
theorem content?_behind_quotes (hquote : ∀ s, unit? (quote :: s) = some ([quote], 1)) {run : Nat}
    (hrun : run ≤ 2) {d : Char} (hd : d ≠ quote) {unit chars s : Text}
    (hunit : unit? (d :: (unit ++ s)) = some (chars, unit.length + 1)) {found : Text × Text}
    (hrest : content? (longEnd quote) unit? 0 s = some found) :
    content? (longEnd quote) unit? 0 (List.replicate run quote ++ d :: (unit ++ s)) =
      some (List.replicate run quote ++ (chars ++ found.1), found.2) := by
  have hstop : longEnd quote (d :: (unit ++ s)) = none := by
    have hhead : ∀ c ∈ (d :: (unit ++ s)).head?, c ≠ quote := by
      rintro c hc
      obtain rfl := Option.some.inj hc
      exact hd
    have hzero : List.replicate 0 quote ++ d :: (unit ++ s) = d :: (unit ++ s) := rfl
    rw [← hzero, longEnd_run hhead, if_pos (by decide)]
  exact content?_quotes hquote hrun hd (content?_unit hstop hunit hrest)

theorem content?_longEnd {run : Nat} (hrun : run ≤ 2) {rest : Text}
    (hrest : ∀ c ∈ rest.head?, c ≠ quote) :
    content? (longEnd quote) unit? 0
        (List.replicate run quote ++ (List.replicate 3 quote ++ rest)) =
      some (List.replicate run quote, rest) := by
  have hend := longEnd_delimiter hrun hrest
  obtain ⟨c, s, hs⟩ : ∃ c s, List.replicate run quote ++ (List.replicate 3 quote ++ rest) =
      c :: s := List.exists_cons_of_ne_nil (by simp)
  rw [hs] at hend ⊢
  exact content?_end hend

/-- The content of a long string in double quotes is read to its end. The `run` quotes before it
have been written, but are not yet known not to be the end. -/
theorem content?_longBasic {run : Nat} (hrun : run ≤ 2) (s : Text) {rest : Text}
    (hrest : ∀ c ∈ rest.head?, c ≠ '"') :
    content? Form.longBasic.stop? Form.longBasic.unit? 0
        (List.replicate run '"' ++ (escaped true run s ++ (Form.longBasic.delimiter ++ rest))) =
      some (List.replicate run '"' ++ s, rest) := by
  have hquote : ∀ s, Form.longBasic.unit? ('"' :: s) = some (['"'], 1) :=
    unit?_plain true (by decide) rfl
  induction s generalizing run with
  | nil =>
      rw [List.append_nil]
      exact content?_longEnd hrun hrest
  | cons c s ih =>
      rw [escaped]
      split
      · rename_i hc
        subst hc
        split
        · rename_i hfew
          have hless : run < 2 := by simpa using hfew
          have hnext := ih (Nat.succ_le_of_lt hless)
          rw [List.replicate_succ', List.append_assoc, List.append_assoc] at hnext
          exact hnext
        · exact content?_behind_quotes hquote hrun (by decide) (unit?_quote true _)
            (ih (Nat.zero_le 2))
      · rename_i hc
        obtain ⟨d, unit, hwritten, hd, _, hread⟩ := exists_unit true hc
        rw [hwritten, List.append_assoc, List.cons_append]
        exact content?_behind_quotes hquote hrun hd (hread _) (ih (Nat.zero_le 2))

end Long

section Literal

theorem plain?_literal {c : Char} (h : isControl c = false) (s : Text) :
    plain? (!isControl ·) (c :: s) = some ([c], 1) := by
  simp [plain?, h]

/-- The content of a string in single quotes on one line is read to its quote. -/
theorem content?_literal {s : Text} (hplain : ∀ c ∈ s, isControl c = false ∧ c ≠ '\'')
    (rest : Text) :
    content? Form.literal.stop? Form.literal.unit? 0 (s ++ '\'' :: rest) = some (s, rest) := by
  induction s with
  | nil => exact content?_end rfl
  | cons c s ih =>
      obtain ⟨hc, hs⟩ := List.forall_mem_cons.mp hplain
      exact content?_char (if_neg hc.2) (plain?_literal hc.1 _) (ih hs)

/-- The content of a long string in single quotes is read to its end if no more than two of these
stand in a row. -/
theorem content?_longLiteral {run : Nat} {s : Text} (hplain : ∀ c ∈ s, needsEscape c = false)
    (hruns : longestRun '\'' run s ≤ 2) {rest : Text} (hrest : ∀ c ∈ rest.head?, c ≠ '\'') :
    content? Form.longLiteral.stop? Form.longLiteral.unit? 0
        (List.replicate run '\'' ++ (s ++ (Form.longLiteral.delimiter ++ rest))) =
      some (List.replicate run '\'' ++ s, rest) := by
  have hunit : ∀ c s, needsEscape c = false →
      Form.longLiteral.unit? (c :: s) = some ([c], 1) := by
    intro c s hc
    by_cases hfeed : c = '\n'
    · rw [hfeed]
      rfl
    · have hcontrol : isControl c = false := by
        simpa [needsEscape, hfeed] using hc
      have hlength := lineFeedLength_eq_zero hcontrol s
      simp [Form.unit?, lineFeed?, hlength, plain?_literal hcontrol]
  have hquote : ∀ s, Form.longLiteral.unit? ('\'' :: s) = some (['\''], 1) :=
    fun s => hunit _ s rfl
  induction s generalizing run with
  | nil =>
      rw [List.append_nil]
      exact content?_longEnd hruns hrest
  | cons c s ih =>
      obtain ⟨hc, hs⟩ := List.forall_mem_cons.mp hplain
      rw [longestRun] at hruns
      split at hruns
      · rename_i hsame
        subst hsame
        have hnext := ih hs hruns
        rw [List.replicate_succ', List.append_assoc, List.append_assoc] at hnext
        exact hnext
      · rename_i hne
        obtain ⟨hrun, hrest'⟩ := Nat.max_le.mp hruns
        exact content?_behind_quotes hquote hrun hne (hunit c ([] ++ _) hc) (ih hs hrest')

end Literal

section Written

theorem dropLineFeed_eq {s : Text} (h : ∀ c ∈ s.head?, isControl c = false) :
    dropLineFeed s = s := by
  cases s with
  | nil => rfl
  | cons c s => rw [dropLineFeed, lineFeedLength_eq_zero (h c rfl), List.drop_zero]

theorem of_forText_literal {s : Text} (h : Form.forText s = .literal) :
    ∀ c ∈ s, isControl c = false ∧ c ≠ '\'' := by
  simp only [Form.forText] at h
  split at h
  · cases h
  split at h
  · rename_i hplain
    simp only [Bool.and_eq_true, Bool.not_eq_true', List.any_eq_false, List.contains_eq_mem,
      decide_eq_false_iff_not, needsEscape] at hplain
    obtain ⟨⟨hescapes, hfeed⟩, hquote⟩ := hplain
    intro c hc
    refine ⟨?_, fun hsame => hquote (hsame ▸ hc)⟩
    have hnever := hescapes c hc
    have hne : c ≠ '\n' := fun hsame => hfeed (hsame ▸ hc)
    simpa [hne] using hnever
  split at h
  · cases h
  split at h
  · cases h
  split at h <;> cases h

theorem of_forText_longLiteral {s : Text} (h : Form.forText s = .longLiteral) :
    (∀ c ∈ s, needsEscape c = false) ∧ longestRun '\'' 0 s ≤ 2 := by
  simp only [Form.forText] at h
  split at h
  · cases h
  split at h
  · cases h
  split at h
  · cases h
  split at h
  · rename_i hplain
    simp only [Bool.and_eq_true, Bool.not_eq_true', List.any_eq_false, decide_eq_true_eq,
      Bool.not_eq_true] at hplain
    exact hplain
  · split at h <;> cases h

/-- What follows the quotes of a long opening is the content. -/
theorem read?_long {form : Form} (hlong : form.isLong = true) {s content rest : Text}
    {found : Text × Text} (hhead : '\n' ∉ s → ∀ c ∈ (content ++ rest).head?, isControl c = false)
    (hread : content? form.stop? form.unit? 0 (content ++ rest) = some found) :
    form.read? (form.delimiter ++ ((if s.contains '\n' then ['\n'] else []) ++
      (content ++ rest))) = some found := by
  rw [Form.read?, Text.after?_append]
  simp only [Option.bind_eq_bind, Option.bind_some, hlong, if_true, List.contains_eq_mem]
  by_cases hfeed : '\n' ∈ s
  · simp only [hfeed, decide_true, if_true]
    exact hread
  · simp only [hfeed, decide_false, Bool.false_eq_true, if_false, List.nil_append]
    rw [dropLineFeed_eq (hhead hfeed), hread]

theorem of?_basic {s : Text} (h : Text.after? ['"', '"'] s = none) :
    Form.of? ('"' :: s) = some .basic := by
  simp [Form.of?, Form.delimiter, Text.after?, h]

theorem of?_literal {s : Text} (h : Text.after? ['\'', '\''] s = none) :
    Form.of? ('\'' :: s) = some .literal := by
  simp [Form.of?, Form.delimiter, Text.after?, h]

theorem string?_basic (s rest : Text) :
    string? ('"' :: (escaped false 0 s ++ '"' :: '\n' :: rest)) = some (s, '\n' :: rest) := by
  have hform : Form.of? ('"' :: (escaped false 0 s ++ '"' :: '\n' :: rest)) = some .basic := by
    apply of?_basic
    cases s with
    | nil => rfl
    | cons c s =>
        rw [escaped]
        split
        · rfl
        · rename_i hc
          obtain ⟨d, unit, hwritten, hd, _⟩ := exists_unit false hc
          rw [hwritten, List.append_assoc, List.cons_append]
          exact if_neg (Ne.symm hd)
  rw [string?, hform]
  exact content?_basic s _

theorem string?_literal {s : Text} (hplain : ∀ c ∈ s, isControl c = false ∧ c ≠ '\'')
    (rest : Text) :
    string? ('\'' :: (s ++ '\'' :: '\n' :: rest)) = some (s, '\n' :: rest) := by
  have hform : Form.of? ('\'' :: (s ++ '\'' :: '\n' :: rest)) = some .literal := by
    apply of?_literal
    cases s with
    | nil => rfl
    | cons c s => exact if_neg (Ne.symm (hplain c List.mem_cons_self).2)
  rw [string?, hform]
  exact content?_literal hplain _

theorem head_ne {quote : Char} (hquote : quote ≠ '\n') (rest : Text) :
    ∀ c ∈ ('\n' :: rest).head?, c ≠ quote := by
  intro c hc
  obtain rfl := Option.some.inj hc
  exact hquote.symm

theorem read?_longBasic (s rest : Text) :
    Form.longBasic.read? (Form.longBasic.delimiter ++
      ((if s.contains '\n' then ['\n'] else []) ++
        (escaped true 0 s ++ (Form.longBasic.delimiter ++ '\n' :: rest)))) =
      some (s, '\n' :: rest) := by
  have hread := content?_longBasic (Nat.zero_le 2) s (head_ne (by decide) rest)
  refine read?_long rfl (fun hfeed => ?_) hread
  cases s with
  | nil =>
      intro c hc
      obtain rfl := Option.some.inj hc
      rfl
  | cons first s =>
      rw [escaped]
      split
      · intro c hc
        obtain rfl := Option.some.inj hc
        rfl
      · rename_i hfirst
        obtain ⟨d, unit, hwritten, _, hcontrol, _⟩ := exists_unit true hfirst
        rw [hwritten, List.append_assoc, List.cons_append]
        intro c hc
        obtain rfl := Option.some.inj hc
        rw [← Bool.not_eq_true]
        exact fun h => hfeed (List.mem_cons.mpr (.inl (hcontrol h).symm))

theorem read?_longLiteral {s : Text} (hplain : ∀ c ∈ s, needsEscape c = false)
    (hruns : longestRun '\'' 0 s ≤ 2) (rest : Text) :
    Form.longLiteral.read? (Form.longLiteral.delimiter ++
      ((if s.contains '\n' then ['\n'] else []) ++
        (s ++ (Form.longLiteral.delimiter ++ '\n' :: rest)))) =
      some (s, '\n' :: rest) := by
  have hread := content?_longLiteral hplain hruns (head_ne (by decide) rest)
  refine read?_long rfl (fun hfeed => ?_) hread
  cases s with
  | nil =>
      intro c hc
      obtain rfl := Option.some.inj hc
      rfl
  | cons first s =>
      intro c hc
      obtain rfl := Option.some.inj hc
      have hne : first ≠ '\n' := fun hsame => hfeed (hsame ▸ List.mem_cons_self)
      simpa [needsEscape, hne] using hplain first List.mem_cons_self

/-- A string is read back as it was written, at the end of a line. -/
theorem string?_written (s rest : Text) :
    string? (written s ++ '\n' :: rest) = some (s, '\n' :: rest) := by
  rw [written]
  cases hform : Form.forText s with
  | basic =>
      simp only [Form.isLong, Bool.false_and, Bool.false_eq_true, if_false, List.append_assoc]
      exact string?_basic s rest
  | literal =>
      simp only [Form.isLong, Bool.false_and, Bool.false_eq_true, if_false, List.append_assoc]
      exact string?_literal (of_forText_literal hform) rest
  | longBasic =>
      simp only [Form.isLong, Bool.true_and, List.append_assoc]
      exact read?_longBasic s rest
  | longLiteral =>
      obtain ⟨hplain, hruns⟩ := of_forText_longLiteral hform
      simp only [Form.isLong, Bool.true_and, List.append_assoc]
      exact read?_longLiteral hplain hruns rest

end Written

end StagedMocks.Toml

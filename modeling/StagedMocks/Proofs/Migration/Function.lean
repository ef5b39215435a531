import StagedMocks.Proofs.Migration.Body
import StagedMocks.Proofs.TestFunction.Border

/-!
The migration of one test function. Its text is again a header with the same declaration,
now throwing, a body and a closing line. A function is settled if its migration leaves it
as it is, and no other text makes up for a difference: what is read behind a function that
is not settled cannot give back the text it had.
-/
namespace StagedMocks.TestFunction

theorem migrate_of_use {settings : Settings} {function : TestFunction} {payload url : Text}
    (hmarker : Text.occursIn settings.marker function.body = false)
    (huse : LegacyUse.ofBody function.body = ⟨some payload, some url⟩) :
    (function.migrate settings).outcome = .migrated ∧
      (function.migrate settings).text = function.throwingHeader ++
        migrateBody settings payload url function.body ++ plainClosing := by
  simp [migrate, hmarker, huse]

theorem migrate_cases (settings : Settings) (function : TestFunction) :
    (Text.occursIn settings.marker function.body = true ∧
      (function.migrate settings).outcome = .alreadyMigrated ∧
      (function.migrate settings).text = function.text) ∨
    (Text.occursIn settings.marker function.body = false ∧
      ((LegacyUse.ofBody function.body).payload = none ∨
        (LegacyUse.ofBody function.body).url = none) ∧
      (function.migrate settings).outcome = .signatureOnly ∧
      (function.migrate settings).text =
        function.throwingHeader ++ function.body ++ plainClosing) ∨
    (Text.occursIn settings.marker function.body = false ∧
      ∃ payload url, LegacyUse.ofBody function.body = ⟨some payload, some url⟩ ∧
        (function.migrate settings).outcome = .migrated ∧
        (function.migrate settings).text = function.throwingHeader ++
          migrateBody settings payload url function.body ++ plainClosing) := by
  cases hmarker : Text.occursIn settings.marker function.body with
  | true =>
      left
      simp only [migrate, hmarker, if_true, and_self]
  | false =>
      right
      cases huse : LegacyUse.ofBody function.body with
      | mk payload url =>
          cases payload with
          | none => simp [migrate, hmarker, huse]
          | some payload =>
              cases url with
              | none => simp [migrate, hmarker, huse]
              | some url =>
                  exact .inr ⟨rfl, payload, url, rfl, migrate_of_use hmarker huse⟩

theorem IsEffects.append {keywords keywords' : List Text} {effects effects' : Text}
    (h : IsEffects keywords effects) (h' : IsEffects keywords' effects') :
    IsEffects (keywords ++ keywords') (effects ++ effects') := by
  induction h with
  | nil => exact h'
  | cons hne hb hk _ ih =>
      simp only [List.append_assoc, List.cons_append]
      exact ih.cons hne hb hk

theorem throws_isEffects : IsEffects ["throws".toList] (' ' :: "throws".toList) :=
  @IsEffects.cons [' '] _ _ _ (by decide) (Text.forall_mem_of_all (by decide)) (.inr rfl) .nil

def throwingEffects (function : TestFunction) : Text :=
  if function.isThrowing then function.effects else function.effects ++ ' ' :: "throws".toList

theorem isThrowing_iff {function : TestFunction} :
    function.isThrowing = true ↔ "throws".toList ∈ function.keywords :=
  decide_eq_true_iff

theorem throws_mem_throwingEffects (function : TestFunction) :
    "throws".toList ∈ Text.words function.throwingEffects := by
  rw [throwingEffects]
  split
  · rename_i h
    exact isThrowing_iff.mp h
  · rw [Text.words_append_blank (by decide)]
    exact List.mem_append_right _ (by decide)

/-- The parentheses go from the end of the declaration, and are written again. -/
theorem bare_of_declaration {letters : Text} (hne : letters ≠ [])
    (hl : ∀ c ∈ letters, NameChar c) :
    ((testOpening ++ letters ++ emptyParameters).reverse.dropWhile fun c =>
      c == '(' || c == ')').reverse = testOpening ++ letters := by
  have hstop : ∀ c ∈ (testOpening ++ letters).reverse.head?,
      (c == '(' || c == ')') = false := by
    intro c hc
    rw [List.head?_reverse, List.getLast?_append, List.getLast?_eq_some_getLast hne] at hc
    cases hc
    have hname := hl _ (List.getLast_mem hne)
    cases hparen : (letters.getLast hne == '(' || letters.getLast hne == ')') with
    | false => rfl
    | true =>
        simp only [Bool.or_eq_true, beq_iff_eq] at hparen
        obtain hparen | hparen := hparen
        · exact absurd (hparen ▸ hname) (by decide)
        · exact absurd (hparen ▸ hname) (by decide)
  rw [List.reverse_append, Text.dropWhile_run (Text.forall_mem_of_all (by decide)) hstop,
    List.reverse_reverse]

theorem throwingHeader_of_isThrowing {function : TestFunction} (h : function.isThrowing = true) :
    function.throwingHeader = function.header := by
  rw [throwingHeader, if_pos h]

theorem throwingHeader_of_not {function : TestFunction}
    (h : IsHeader function.declaration function.effects function.header)
    (hthrows : ¬ function.isThrowing = true) :
    function.throwingHeader = function.declaration ++ (function.effects ++
      (' ' :: "throws".toList ++ ([' '] ++ ['{']))) := by
  obtain ⟨⟨letters, hne, hl, hd⟩, _⟩ := h
  have hword : " throws \x7b".toList = ' ' :: "throws".toList ++ ([' '] ++ ['{']) := by decide
  rw [throwingHeader, if_neg hthrows, hd, bare_of_declaration hne hl, hword]
  simp only [List.append_assoc]

theorem throwingHeader_isHeader {function : TestFunction}
    (h : IsHeader function.declaration function.effects function.header) :
    IsHeader function.declaration function.throwingEffects function.throwingHeader := by
  by_cases hthrows : function.isThrowing = true
  · rw [throwingEffects, if_pos hthrows, throwingHeader_of_isThrowing hthrows]
    exact h
  · rw [throwingEffects, if_neg hthrows, throwingHeader_of_not h hthrows]
    obtain ⟨hd, ⟨keywords, heffects⟩, _⟩ := h
    refine ⟨hd, ⟨_, heffects.append throws_isEffects⟩, [' '], Text.forall_mem_of_all (by decide),
      ?_⟩
    simp only [List.append_assoc]

theorem plainClosing_isClosing : IsClosing plainClosing :=
  ⟨[' ', ' ', ' ', ' '], rfl, Text.forall_mem_of_all (by decide), by decide⟩

theorem migrate_text_ends {function : TestFunction} (h : function.Grammatical)
    (settings : Settings) :
    (∃ rest, (function.migrate settings).text = testOpening ++ rest) ∧
      ∃ x closing, IsClosing closing ∧ (function.migrate settings).text = x ++ closing := by
  obtain ⟨hheader, closing, hc, _, htext⟩ := h
  obtain ⟨old, hold⟩ := hheader.head
  obtain ⟨new, hnew⟩ := (throwingHeader_isHeader hheader).head
  obtain ⟨_, _, hsame⟩ | ⟨_, _, _, hsame⟩ | ⟨_, payload, url, _, _, hsame⟩ :=
    migrate_cases settings function
  · rw [hsame, htext]
    refine ⟨⟨old ++ (function.body ++ closing), ?_⟩, _, closing, hc, rfl⟩
    rw [hold]
    simp only [List.append_assoc]
  · rw [hsame]
    refine ⟨⟨new ++ (function.body ++ plainClosing), ?_⟩, _, _, plainClosing_isClosing, rfl⟩
    rw [hnew]
    simp only [List.append_assoc]
  · rw [hsame]
    refine ⟨⟨new ++ (migrateBody settings payload url function.body ++ plainClosing), ?_⟩, _, _,
      plainClosing_isClosing, rfl⟩
    rw [hnew]
    simp only [List.append_assoc]

/-- The function declared as throwing, with its body and a plain closing line. -/
def rethrown (function : TestFunction) : TestFunction where
  header := function.throwingHeader
  declaration := function.declaration
  effects := function.throwingEffects
  body := function.body
  text := function.throwingHeader ++ function.body ++ plainClosing

theorem rethrown_grammatical {function : TestFunction} (h : function.Grammatical) :
    function.rethrown.Grammatical := by
  obtain ⟨hheader, closing, _, hunclosed, _⟩ := h
  exact ⟨throwingHeader_isHeader hheader, plainClosing, plainClosing_isClosing,
    hunclosed.exchange plainClosing_isClosing, rfl⟩

/-- A function that a migration leaves as it is: its body calls the helper, or it throws, has a
plain closing line, and names no payload or no URL. -/
def Settled (function : TestFunction) : Prop :=
  Text.occursIn (Settings.marker {}) function.body = true ∨
    (function.isThrowing = true ∧
      function.text = function.header ++ function.body ++ plainClosing ∧
      ((LegacyUse.ofBody function.body).payload = none ∨
        (LegacyUse.ofBody function.body).url = none))

instance (function : TestFunction) : Decidable function.Settled :=
  inferInstanceAs (Decidable (_ ∨ (_ ∧ _ ∧ (_ ∨ _))))

theorem Settled.migrate_text {function : TestFunction} (h : function.Settled) :
    (function.migrate {}).text = function.text := by
  obtain ⟨_, _, hsame⟩ | ⟨hmarker, _, _, hsame⟩ | ⟨hmarker, payload, url, huse, _⟩ :=
    migrate_cases {} function
  · exact hsame
  · obtain hmarked | ⟨hthrows, htext, _⟩ := h
    · rw [hmarker] at hmarked
      cases hmarked
    · rw [hsame, throwingHeader_of_isThrowing hthrows, htext]
  · obtain hmarked | ⟨_, _, hnone⟩ := h
    · rw [hmarker] at hmarked
      cases hmarked
    · rw [huse] at hnone
      obtain hnone | hnone := hnone
      · cases hnone
      · cases hnone

theorem rethrown_settled {function : TestFunction}
    (h : (LegacyUse.ofBody function.body).payload = none ∨
      (LegacyUse.ofBody function.body).url = none) : function.rethrown.Settled :=
  .inr ⟨decide_eq_true function.throws_mem_throwingEffects, rfl, h⟩

theorem exists_sites {body payload url : Text}
    (h : LegacyUse.ofBody body = ⟨some payload, some url⟩) :
    ∃ sites : Sites body, sites.payload = payload ∧ sites.url = url := by
  obtain ⟨hpayload, hurl⟩ := LegacyUse.mk.inj h
  obtain ⟨front, staging, back, hstaging, rfl, _⟩ :=
    Statement.firstArgument?_eq_some_iff.mp hpayload
  obtain ⟨before, assertion, behind, hassertion, rfl, _⟩ :=
    Statement.firstArgument?_eq_some_iff.mp hurl
  rw [staging_of_first? hstaging] at hstaging
  exact ⟨⟨front, _, back, before, assertion, behind, hstaging, hassertion⟩, rfl, rfl⟩

/-- A function that does not throw gets a keyword where it had its brace. -/
theorem isThrowing_of_append {function : TestFunction} (hg : function.Grammatical)
    {rest rest' : Text} (h : function.throwingHeader ++ rest = function.header ++ rest') :
    function.isThrowing = true := by
  refine Decidable.byContradiction fun hthrows => ?_
  obtain ⟨hheader, _⟩ := hg
  rw [throwingHeader_of_not hheader hthrows] at h
  obtain ⟨_, _, blanks, hb, hbrace⟩ := hheader
  rw [hbrace] at h
  simp only [List.append_assoc] at h
  have hrest := congrArg (List.dropWhile Text.isBlank)
    (List.append_cancel_left (List.append_cancel_left h))
  have hstop : ∀ c ∈ (['{'] ++ rest').head?, Text.isBlank c = false := by
    intro c hc
    cases hc
    decide
  rw [Text.dropWhile_run hb hstop] at hrest
  exact absurd (List.cons.inj hrest).1 (by decide)

/-- A function whose statements stay is only left as it is if it throws and has a plain closing
line: what stands behind it makes up for no other header and no other line. -/
theorem plain_of_append {function : TestFunction} (hg : function.Grammatical) {rest rest' : Text}
    (h : function.throwingHeader ++ function.body ++ plainClosing ++ rest' =
      function.text ++ rest) :
    function.isThrowing = true ∧
      function.text = function.header ++ function.body ++ plainClosing := by
  obtain ⟨_, closing, hc, _, htext⟩ := id hg
  rw [htext] at h
  simp only [List.append_assoc] at h
  have hthrows := isThrowing_of_append hg h
  rw [throwingHeader_of_isThrowing hthrows] at h
  have hline := List.append_cancel_left (List.append_cancel_left h)
  have hclosing : plainClosing = closing :=
    (List.append_inj hline (by rw [plainClosing_isClosing.length_eq, hc.length_eq])).1
  exact ⟨hthrows, hclosing ▸ htext⟩

/-- What stands behind a function that is not settled cannot give its text back. -/
theorem settled_of_append {function : TestFunction} (hg : function.Grammatical)
    {rest rest' : Text} (h : (function.migrate {}).text ++ rest' = function.text ++ rest) :
    function.Settled := by
  obtain ⟨hmarker, _⟩ | ⟨_, hnone, _, hsame⟩ | ⟨_, payload, url, huse, _, hsame⟩ :=
    migrate_cases {} function
  · exact .inl hmarker
  · rw [hsame] at h
    obtain ⟨hthrows, hplain⟩ := plain_of_append hg h
    exact .inr ⟨hthrows, hplain, hnone⟩
  · obtain ⟨_, closing, hc, hunclosed, htext⟩ := id hg
    rw [hsame, htext] at h
    simp only [List.append_assoc] at h
    have hthrows := isThrowing_of_append hg h
    rw [throwingHeader_of_isThrowing hthrows] at h
    obtain ⟨sites, rfl, rfl⟩ := exists_sites huse
    obtain ⟨t, ht, hline⟩ | ⟨t, _, ht, _⟩ :=
      Text.append_eq_append_cases (List.append_cancel_left h)
    · by_cases hne : t = []
      · rw [hne, List.append_nil] at ht
        exact absurd ⟨[], by rw [List.append_nil]; exact ht⟩ sites.not_prefix_migrateBody
      · -- The new closing line would stand inside the body.
        rw [← @unclosed_append_iff _ _ rest hc.length_eq] at hunclosed
        exact absurd ⟨rest', hline⟩
          (hunclosed t hne ⟨_, ht.symm⟩ plainClosing plainClosing_isClosing)
    · exact absurd ⟨t, ht.symm⟩ sites.not_prefix_migrateBody

end StagedMocks.TestFunction

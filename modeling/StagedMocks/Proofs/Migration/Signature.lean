import StagedMocks.Proofs.Migration.Function

/-!
The signature that a migration writes. The keywords of a function are told by splitting its effects
at blanks, and these are the keywords of the grammar. So the new header is read back with the
keywords it had, and with `throws` behind them if that was not among them. The name has no part in
this, and a header that throws is written as it stands.
-/
namespace StagedMocks.TestFunction

theorem IsEffects.head_blank {keywords : List Text} {effects : Text}
    (h : IsEffects keywords effects) : ∀ c ∈ effects.head?, Text.isBlank c = true := by
  cases h with
  | nil => exact fun _ hc => nomatch hc
  | @cons blanks _ _ _ hne hb _ _ =>
      intro c hc
      obtain ⟨d, more, rfl⟩ := List.exists_cons_of_ne_nil hne
      cases hc
      exact hb c List.mem_cons_self

/-- Splitting effects at blanks gives their keywords. -/
theorem IsEffects.words_eq {keywords : List Text} {effects : Text}
    (h : IsEffects keywords effects) : Text.words effects = keywords := by
  induction h with
  | nil => rfl
  | @cons blanks keyword rest keywords _ hb hk hrest ih =>
      have hword : Text.words keyword = [keyword] := by
        obtain rfl | rfl := hk
        · decide
        · decide
      rw [Text.words_blanks hb, Text.words_append_of_head hrest.head_blank, hword, ih,
        List.singleton_append]

theorem Grammatical.isEffects {function : TestFunction} (hg : function.Grammatical) :
    IsEffects function.keywords function.effects := by
  obtain ⟨row, hrow⟩ := hg.isHeader.effects_row
  rw [keywords, hrow.words_eq]
  exact hrow

/-- Keywords with `throws` behind them, unless it is one of them. -/
def withThrows (keywords : List Text) : List Text :=
  if keywords.contains "throws".toList then keywords else keywords ++ ["throws".toList]

theorem withThrows_of_mem {keywords : List Text} (h : "throws".toList ∈ keywords) :
    withThrows keywords = keywords :=
  if_pos (List.contains_iff_mem.mpr h)

theorem withThrows_of_not_mem {keywords : List Text} (h : "throws".toList ∉ keywords) :
    withThrows keywords = keywords ++ ["throws".toList] :=
  if_neg fun hcontains => h (List.contains_iff_mem.mp hcontains)

theorem throwingEffects_isEffects {function : TestFunction} (hg : function.Grammatical) :
    IsEffects (withThrows function.keywords) function.throwingEffects := by
  have hrow := hg.isEffects
  by_cases hthrows : "throws".toList ∈ function.keywords
  · rw [withThrows_of_mem hthrows, throwingEffects, if_pos (isThrowing_iff.mpr hthrows)]
    exact hrow
  · rw [withThrows_of_not_mem hthrows, throwingEffects,
      if_neg fun h => hthrows (isThrowing_iff.mp h)]
    exact hrow.append throws_isEffects

theorem count_withThrows (keywords : List Text) :
    (withThrows keywords).count "throws".toList = max 1 (keywords.count "throws".toList) := by
  by_cases hthrows : "throws".toList ∈ keywords
  · rw [withThrows_of_mem hthrows]
    have hpos := List.count_pos_iff.mpr hthrows
    omega
  · rw [withThrows_of_not_mem hthrows, List.count_append, List.count_eq_zero.mpr hthrows]
    decide

theorem filter_withThrows (keywords : List Text) :
    (withThrows keywords).filter (· ≠ "throws".toList) =
      keywords.filter (· ≠ "throws".toList) := by
  by_cases hthrows : "throws".toList ∈ keywords
  · rw [withThrows_of_mem hthrows]
  · rw [withThrows_of_not_mem hthrows, List.filter_append]
    simp

theorem throwingHeader_eq_iff {function : TestFunction} (hg : function.Grammatical) :
    function.throwingHeader = function.header ↔ "throws".toList ∈ function.keywords := by
  constructor
  · intro h
    exact isThrowing_iff.mp (isThrowing_of_append hg (congrArg (· ++ []) h))
  · intro h
    exact throwingHeader_of_isThrowing (isThrowing_iff.mpr h)

/-- A body is found behind every header if a closing line stands somewhere behind it. -/
theorem exists_read?_of_header {declaration effects header : Text}
    (h : IsHeader declaration effects header) {closing : Text} (hc : IsClosing closing)
    (body : Text) :
    ∃ function, read? (header ++ body ++ closing) = some function ∧ function.header = header ∧
      function.declaration = declaration ∧ function.effects = effects := by
  rw [List.append_assoc, read?_header h]
  cases hbody : bodyAndClosing? (body ++ closing) with
  | none =>
      have hnone := bodyAndClosing?_eq_none_iff.mp hbody closing closing
      exact absurd (List.prefix_refl closing) (hnone (List.suffix_append _ _) hc)
  | some found => exact ⟨_, rfl, rfl, rfl, rfl⟩

/-- A function that was not left alone is found again at the beginning of its new text, under the
header that is declared as throwing. -/
theorem exists_read?_throwing {function : TestFunction} (hg : function.Grammatical)
    {settings : Settings} (h : (function.migrate settings).outcome ≠ .alreadyMigrated) :
    ∃ again, read? (function.migrate settings).text = some again ∧
      again.header = function.throwingHeader ∧ again.declaration = function.declaration ∧
      again.effects = function.throwingEffects := by
  have hheader := throwingHeader_isHeader hg.isHeader
  obtain ⟨_, houtcome, _⟩ | ⟨_, _, _, htext⟩ | ⟨_, _, _, _, _, htext⟩ :=
    migrate_cases settings function
  · exact absurd houtcome h
  · rw [htext]
    exact exists_read?_of_header hheader plainClosing_isClosing _
  · rw [htext]
    exact exists_read?_of_header hheader plainClosing_isClosing _

theorem findAll_of_read? {s : Text} {function : TestFunction} (h : read? s = some function) :
    ∃ others, findAll s = ⟨0, function⟩ :: others := by
  obtain ⟨rest, rfl⟩ := read?_lawful.text_prefix h
  obtain ⟨finds, tail, cover⟩ := Scan.exists_cover read?_lawful rest
  exact ⟨_, findAll_eq (.next (Scan.silent_nil _) h cover)⟩

/-- `after` is `before` declared as throwing. -/
structure Redeclared (before after : TestFunction) : Prop where
  declaration_eq : after.declaration = before.declaration
  before_row : IsEffects before.keywords before.effects
  after_row : IsEffects after.keywords after.effects
  keywords_eq : after.keywords = withThrows before.keywords
  throws_once : after.keywords.count "throws".toList =
    max 1 (before.keywords.count "throws".toList)
  others_kept : after.keywords.filter (· ≠ "throws".toList) =
    before.keywords.filter (· ≠ "throws".toList)
  header_kept_iff : before.throwingHeader = before.header ↔ "throws".toList ∈ before.keywords
  /-- Another function of these effects, whatever its name, keeps its header or not as well. -/
  name_apart : ∀ other : TestFunction, other.Grammatical → other.effects = before.effects →
    (other.throwingHeader = other.header ↔ before.throwingHeader = before.header)
  settled : after.throwingHeader = after.header

theorem redeclared_of_header {before after : TestFunction} (hbefore : before.Grammatical)
    (hafter : after.Grammatical) (hdeclaration : after.declaration = before.declaration)
    (heffects : after.effects = before.throwingEffects) : Redeclared before after := by
  have hkeywords : after.keywords = withThrows before.keywords := by
    rw [keywords, heffects, (throwingEffects_isEffects hbefore).words_eq]
  refine ⟨hdeclaration, hbefore.isEffects, hafter.isEffects, hkeywords, ?_, ?_,
    throwingHeader_eq_iff hbefore, ?_, ?_⟩
  · rw [hkeywords, count_withThrows]
  · rw [hkeywords, filter_withThrows]
  · intro other hother hsame
    rw [throwingHeader_eq_iff hother, throwingHeader_eq_iff hbefore, keywords, keywords, hsame]
  · rw [throwingHeader_eq_iff hafter, keywords, heffects]
    exact before.throws_mem_throwingEffects

/-- A function that is not left alone begins its new text, with the declaration and the keywords
it had and with `throws` behind them unless it was there. A second migration keeps this header. -/
theorem migrate_redeclares (settings : Settings) {source : Text} {found : Scan.Located TestFunction}
    (hfound : found ∈ findAll source)
    (h : (found.value.migrate settings).outcome ≠ .alreadyMigrated) :
    ∃ again others, findAll (found.value.migrate settings).text = ⟨0, again⟩ :: others ∧
      Redeclared found.value again := by
  have hg := grammatical_of_mem_findAll hfound
  obtain ⟨again, hread, _, hdeclaration, heffects⟩ := exists_read?_throwing hg h
  obtain ⟨others, hothers⟩ := findAll_of_read? hread
  exact ⟨again, others, hothers,
    redeclared_of_header hg (read?_sound hread).1 hdeclaration heffects⟩

/-- A test named after both keywords that is declared with one of them. -/
def asyncSource : Text :=
  "func test_throws_async()\u2003async\n\x7b\n    \x7d".toList

theorem migrate_redeclares_asyncSource :
    ∃ found ∈ findAll asyncSource,
      (found.value.migrate {}).outcome ≠ .alreadyMigrated ∧
      found.value.keywords = ["async".toList] ∧
      ∃ again others, findAll (found.value.migrate {}).text = ⟨0, again⟩ :: others ∧
        Redeclared found.value again := by
  have hfound : ∃ found ∈ findAll asyncSource,
      (found.value.migrate {}).outcome ≠ .alreadyMigrated ∧
      found.value.keywords = ["async".toList] := by decide +kernel
  obtain ⟨found, hin, houtcome, hkeywords⟩ := hfound
  exact ⟨found, hin, houtcome, hkeywords, migrate_redeclares {} hin houtcome⟩

end StagedMocks.TestFunction

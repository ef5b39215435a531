import StagedMocks.Proofs.Migration.Splice
import StagedMocks.Proofs.TestFunction.Border

/-!
Functions as units of their own. The closing line of a function seals everything up to it, so
a source can be cut behind any of its functions, and the two parts are migrated as they are
migrated together.
-/
namespace StagedMocks.Source

open StagedMocks.Scan StagedMocks.TestFunction

theorem respell_sealed {gap : Text} {function : TestFunction} (hg : function.Grammatical)
    (earlier : List (Text × TestFunction)) (rest : Text) :
    Sealed read? (respell TestFunction.text (earlier ++ [(gap, function)]) []) rest := by
  obtain ⟨_, closing, hc, _, htext⟩ := hg
  rw [respell_append, respell_cons, htext]
  have hend : respell TestFunction.text earlier [] ++ (gap ++
      ((function.header ++ function.body ++ closing) ++ respell TestFunction.text [] [])) =
        (respell TestFunction.text earlier [] ++ (gap ++ (function.header ++ function.body))) ++
          closing := by
    simp [respell]
  rw [hend]
  exact sealed_closing hc _ rest

/-- Functions are independent units. A source that is cut where one of its functions ends has
the text, the reports and the events of both parts, one behind the other. -/
theorem migrate_divides (settings : Settings) {source : Text} {found : Located TestFunction}
    (hfound : found ∈ findAll source) :
    ∃ front behind whole first second,
      Text.cutAt? (found.start + found.value.text.byteLength) source = some (front, behind) ∧
      migrate settings source = .ok whole ∧ migrate settings front = .ok first ∧
      migrate settings behind = .ok second ∧
      whole.text = first.text ++ second.text ∧
      whole.functions = first.functions ++ second.functions ∧
      whole.events = first.events ++ second.events := by
  have hg := grammatical_of_mem_findAll hfound
  obtain ⟨finds, tail, cover⟩ := exists_cover read?_lawful source
  rw [findAll_eq cover] at hfound
  obtain ⟨earlier, gap, later, rfl, hend⟩ := exists_split_of_mem_located hfound
  obtain ⟨hfirst, hsecond⟩ := cover.divide read?_lawful (respell_sealed hg earlier _)
  refine ⟨_, _, _, _, _, ?_, migrate_eq settings cover, migrate_eq settings hfirst,
    migrate_eq settings hsecond, ?_, ?_, ?_⟩
  · rw [hend, Nat.zero_add, ← cover.respell_eq,
      respell_append _ (earlier ++ [(gap, found.value)]) later]
    exact Text.cutAt?_append _ _
  · exact respell_append _ _ _ _
  · simp only [List.map_append]
  · simp only [List.map_append, List.flatMap_append]

/-- Two functions on one line, the first of which has letters of several bytes in its body. -/
def adjoiningSource : Text :=
  "// é\nfunc test_a() \x7b\n        let é = 1\n    \x7d".toList ++
  "func test_b() \x7b\n    \x7d".toList

theorem migrate_divides_adjoiningSource :
    ∃ found ∈ findAll adjoiningSource,
      found.start + found.value.text.byteLength = 46 ∧
      ∃ front behind whole first second,
        Text.cutAt? 46 adjoiningSource = some (front, behind) ∧
        migrate {} adjoiningSource = .ok whole ∧ migrate {} front = .ok first ∧
        migrate {} behind = .ok second ∧ whole.text = first.text ++ second.text ∧
        whole.functions = first.functions ++ second.functions ∧
        whole.events = first.events ++ second.events := by
  have hends : ∃ found ∈ findAll adjoiningSource,
      found.start + found.value.text.byteLength = 46 := by decide +kernel
  obtain ⟨found, hfound, hend⟩ := hends
  have h := migrate_divides {} hfound
  rw [hend] at h
  exact ⟨found, hfound, hend, h⟩

end StagedMocks.Source

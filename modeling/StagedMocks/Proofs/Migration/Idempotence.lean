import StagedMocks.Proofs.Migration.Splice
import StagedMocks.Proofs.Migration.Function

/-!
A second migration. A source keeps its text exactly if all its functions are settled, and
the functions of a migrated source are those that are found in the migrated texts of its
functions, one after the other. A function that was left alone or only declared as throwing
is settled afterwards, so a second migration changes the text exactly if it finds work in
the text of a function whose statements were exchanged.
-/
namespace StagedMocks.Source

open StagedMocks.Scan StagedMocks.TestFunction

/-- A migration keeps a source exactly if all its functions are settled. -/
theorem respell_eq_iff {source tail : Text} {finds : List (Text × TestFunction)}
    (cover : Cover read? TestFunction.text source finds tail) :
    respell (migratedText {}) finds tail = source ↔ ∀ find ∈ finds, find.2.Settled := by
  have hsettled : ∀ find ∈ finds, ∀ rest rest',
      migratedText {} find.2 ++ rest' = find.2.text ++ rest → find.2.Settled :=
    fun find hfind _ _ => settled_of_append (grammatical_of_mem_finds cover find hfind)
  rw [cover.respell_eq_iff fun find hfind rest rest' h =>
    (hsettled find hfind rest rest' h).migrate_text]
  constructor
  · exact fun h find hfind => hsettled find hfind [] [] (congrArg (· ++ []) (h find hfind))
  · exact fun h find hfind => (h find hfind).migrate_text

/-- The functions of a migrated source are found in its migrated functions, one by one. -/
theorem cover_respell (settings : Settings) {source tail : Text}
    {finds : List (Text × TestFunction)}
    (cover : Cover read? TestFunction.text source finds tail) :
    ∃ finds' tail', Cover read? TestFunction.text
        (respell (migratedText settings) finds tail) finds' tail' ∧
      finds'.map Prod.snd = (finds.map Prod.snd).flatMap fun function =>
        (findAll (migratedText settings function)).map Located.value := by
  induction cover with
  | @done tail hsilent => exact ⟨[], tail, .done hsilent, rfl⟩
  | @next gap rest tail a finds hsilent hread _ ih =>
      obtain ⟨finds', tail', hrest, hvalues⟩ := ih
      have hg := (read?_sound hread).1
      obtain ⟨⟨behind, hbegins⟩, x, closing, hc, hends⟩ := migrate_text_ends hg settings
      obtain ⟨inner, innerTail, hinner⟩ := exists_cover read?_lawful (migratedText settings a)
      have border : Sealed read? (migratedText settings a)
          (respell (migratedText settings) finds tail) := by
        rw [migratedText, hends]
        exact sealed_closing hc x _
      obtain ⟨all, last, hall, hjoined⟩ := hinner.append read?_lawful hrest border
      have hgap : Silent read? gap
          (migratedText settings a ++ respell (migratedText settings) finds tail) := by
        rw [migratedText, hbegins, List.append_assoc]
        exact silent_of_declaration hsilent hg
      obtain ⟨found, end', hfound, hsame⟩ := hall.prepend hgap
      refine ⟨found, end', ?_, ?_⟩
      · rw [respell_cons]
        exact hfound
      · rw [hsame, hjoined, hvalues, List.map_cons, List.flatMap_cons, findAll,
          hinner.all_values read?_lawful]

/-- A function whose statements were not exchanged is settled after its migration. -/
theorem settled_of_outcome {function : TestFunction} (hg : function.Grammatical)
    (h : (function.migrate {}).outcome ≠ .migrated) :
    ∀ inner ∈ (findAll (function.migrate {}).text).map Located.value, inner.Settled := by
  obtain ⟨hmarker, _, hsame⟩ | ⟨_, hnone, _, hsame⟩ | ⟨_, _, _, _, houtcome, _⟩ :=
    migrate_cases {} function
  · rw [hsame, findAll_text hg]
    intro inner hinner
    rw [List.mem_singleton.mp hinner]
    exact .inl hmarker
  · have htext := findAll_text (rethrown_grammatical hg)
    rw [hsame]
    intro inner hinner
    rw [show function.throwingHeader ++ function.body ++ plainClosing = function.rethrown.text
      from rfl, htext] at hinner
    rw [List.mem_singleton.mp hinner]
    exact rethrown_settled hnone
  · exact absurd houtcome h

/-- A second migration keeps the text of the first exactly if, in the new text of every function
whose statements were exchanged, it finds only functions that are settled. -/
theorem migrate_again_iff (source : Text) :
    ∃ first second, migrate {} source = .ok first ∧ migrate {} first.text = .ok second ∧
      (second.text = first.text ↔ ∀ found ∈ findAll source,
        (found.value.migrate {}).outcome = .migrated →
          ∀ inner ∈ findAll (found.value.migrate {}).text, inner.value.Settled) := by
  obtain ⟨finds, tail, cover⟩ := exists_cover read?_lawful source
  obtain ⟨finds', tail', cover', hvalues⟩ := cover_respell {} cover
  refine ⟨_, _, migrate_eq {} cover, migrate_eq {} cover', ?_⟩
  have hsource : (findAll source).map Located.value = finds.map Prod.snd :=
    cover.all_values read?_lawful
  rw [respell_eq_iff cover', ← List.forall_mem_map (f := Prod.snd) (P := Settled), hvalues,
    ← hsource]
  constructor
  · intro h found hfound _ inner hinner
    exact h inner.value (List.mem_flatMap.mpr ⟨found.value, List.mem_map_of_mem hfound,
      List.mem_map_of_mem hinner⟩)
  · intro h inner hinner
    obtain ⟨function, hfunction, hinner⟩ := List.mem_flatMap.mp hinner
    obtain ⟨found, hfound, rfl⟩ := List.mem_map.mp hfunction
    by_cases houtcome : (found.value.migrate {}).outcome = .migrated
    · obtain ⟨place, hplace, rfl⟩ := List.mem_map.mp hinner
      exact h found hfound houtcome place hplace
    · rw [findAll_eq cover] at hfound
      obtain ⟨_, _, _, _, hread⟩ := cover.of_mem_located hfound
      exact settled_of_outcome (read?_sound hread).1 houtcome inner hinner

/-- A source in which the assertion's indent and that of the brace behind it add up to those
of a closing line, with tabs for blanks. -/
def tabbedSource : Text :=
  "func test_a() throws \x7b\n\t\tXCTAssertEqual(session.lastURL?., \"u\")\n\t\t\x7d\n".toList ++
    "session.nextData = jsonData(named: \"f\")\n    \x7d".toList

theorem migrate_again_tabbedSource :
    ((migrate {} tabbedSource >>= fun first => migrate {} first.text).toOption.map
      MigratedSource.text) ≠ (migrate {} tabbedSource).toOption.map MigratedSource.text := by
  decide +kernel

end StagedMocks.Source

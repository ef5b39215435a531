import StagedMocks.Migration.Source
import StagedMocks.Proofs.Edit.Selection
import StagedMocks.Proofs.TestFunction.Segmentation

/-!
The result of a migration as a splice. Exchanging the text of every find for its new
spelling gives the source with all gaps in their place, and an edit that changes nothing
may be left out. So a migration never fails, and its text is the gaps of the source with
the migrated functions between them.
-/
namespace StagedMocks

namespace Edit

open Scan

variable {α : Type} {text spell : α → Text}

/-- What a source holds between ranges given in order, with their new texts between it. -/
def splice? (source : Text) : Nat → List Edit → Option Text
  | position, [] => Text.slice? position source.byteLength source
  | position, edit :: edits => do
      let gap ← Text.slice? position edit.start source
      let behind ← splice? source edit.finish edits
      return gap ++ edit.text ++ behind

def ofFind (text spell : α → Text) (found : Located α) : Edit :=
  ⟨found.start, found.start + (text found.value).byteLength, spell found.value⟩

/-- Exchanging some finds spells these anew, and the others keep their spelling. The text of the
finds that were passed over since the last exchange is still in `lead`. -/
theorem spliced_located (taken : α → Bool) (hkept : ∀ a, taken a = false → spell a = text a)
    (finds : List (Text × α)) (position offset : Nat) (lead tail : Text)
    (hoffset : position + lead.byteLength = offset) :
    Spliced position (lead ++ respell text finds tail)
        (((located text offset finds).filter fun found => taken found.value).map
          (ofFind text spell))
        (lead ++ respell spell finds tail) := by
  induction finds generalizing position offset lead with
  | nil => exact .done
  | cons find finds ih =>
      obtain ⟨gap, a⟩ := find
      rw [respell_cons, respell_cons, located]
      cases ha : taken a with
      | false =>
          rw [List.filter_cons_of_neg (by simp [ha]), hkept a ha]
          have hlead : position + (lead ++ (gap ++ text a)).byteLength =
              offset + gap.byteLength + (text a).byteLength := by
            simp only [Text.byteLength_append]
            omega
          simpa only [List.append_assoc] using ih position _ (lead ++ (gap ++ text a)) hlead
      | true =>
          rw [List.filter_cons_of_pos (by simp [ha]), List.map_cons, ← List.append_assoc lead,
            ← List.append_assoc lead]
          have hgap : position + (lead ++ gap).byteLength = offset + gap.byteLength := by
            rw [Text.byteLength_append]
            omega
          exact .next hgap rfl (ih _ _ [] rfl)

theorem splice?_located (front : Text) (finds : List (Text × α)) (tail : Text) :
    splice? (front ++ respell text finds tail) front.byteLength
        ((located text front.byteLength finds).map (ofFind text spell)) =
      some (respell spell finds tail) := by
  induction finds generalizing front with
  | nil =>
      have hslice := Text.slice?_append front tail []
      rw [List.append_nil, ← Text.byteLength_append] at hslice
      exact hslice
  | cons find finds ih =>
      obtain ⟨gap, a⟩ := find
      rw [respell_cons, respell_cons, located, List.map_cons, splice?]
      have hgap := Text.slice?_append front gap (text a ++ respell text finds tail)
      have hbehind := ih (front ++ (gap ++ text a))
      simp only [Text.byteLength_append, List.append_assoc, ← Nat.add_assoc] at hbehind
      simp only [ofFind] at hbehind ⊢
      rw [hgap, hbehind]
      simp only [Option.bind_eq_bind, Option.bind_some, Option.pure_def, List.append_assoc]

/-- Whether or not the unchanged finds are exchanged, the edits spell the finds anew. -/
theorem applyAll_located (taken : α → Bool) (hkept : ∀ a, taken a = false → spell a = text a)
    (finds : List (Text × α)) (tail : Text) :
    applyAll (respell text finds tail)
        (((located text 0 finds).filter fun found => taken found.value).map
          (ofFind text spell)) =
      .ok (respell spell finds tail) :=
  (spliced_located taken hkept finds 0 0 [] tail rfl).applyAll_eq

end Edit

namespace Source

open Scan

/-- The exchange of a found function's text for its migrated one, also if they are equal. -/
def exchange (settings : Settings) (found : Located TestFunction) : Edit :=
  ⟨found.start, found.start + found.value.text.byteLength, (found.value.migrate settings).text⟩

def IsChanged (settings : Settings) (found : Located TestFunction) : Prop :=
  (found.value.migrate settings).text ≠ found.value.text

instance (settings : Settings) (found : Located TestFunction) :
    Decidable (IsChanged settings found) :=
  inferInstanceAs (Decidable (_ ≠ _))

def migratedText (settings : Settings) (function : TestFunction) : Text :=
  (function.migrate settings).text

theorem mapM_ok {β : Type} {l : List β} {f : β → Except Edit.Fault (Option Edit)}
    {g : β → Option Edit} (h : ∀ x ∈ l, f x = .ok (g x)) : l.mapM f = .ok (l.map g) := by
  induction l with
  | nil => rfl
  | cons x l ih =>
      have htail := ih fun y hy => h y (List.mem_cons_of_mem x hy)
      simp only [List.mapM_cons, h x List.mem_cons_self, htail]
      rfl

section Cover

variable (settings : Settings) {source tail : Text} {finds : List (Text × TestFunction)}

theorem steps_eq (cover : Cover TestFunction.read? TestFunction.text source finds tail) :
    steps settings source = (located TestFunction.text 0 finds).map fun found =>
      ⟨found.start, found.value, found.value.migrate settings⟩ := by
  rw [steps, TestFunction.findAll_eq cover]

/-- The ranges of all finds are slices of the source, so every edit can be formed. -/
theorem edits_eq (cover : Cover TestFunction.read? TestFunction.text source finds tail) :
    ∃ edits, (steps settings source).mapM (Step.edit? source) = .ok edits ∧
      edits.filterMap id = ((located TestFunction.text 0 finds).filter fun found =>
        decide (IsChanged settings found)).map (exchange settings) := by
  refine ⟨_, mapM_ok (g := fun step => if step.function.text = step.migrated.text then none
    else some ⟨step.start, step.start + step.function.text.byteLength, step.migrated.text⟩) ?_, ?_⟩
  · intro step hstep
    rw [steps_eq settings cover, List.mem_map] at hstep
    obtain ⟨found, hfound, rfl⟩ := hstep
    obtain ⟨x, y, rfl, hstart, -⟩ := cover.of_mem_located hfound
    have hslice := Text.slice?_append x found.value.text y
    rw [Nat.zero_add] at hstart
    rw [← hstart] at hslice
    simp only [Step.edit?, Edit.ofChange?, hslice]
  · rw [steps_eq settings cover, List.map_map, List.filterMap_map, ← List.filterMap_eq_map,
      List.filterMap_filter]
    congr 1
    funext found
    by_cases h : (found.value.migrate settings).text = found.value.text
    · simp [h, IsChanged]
    · have h' : ¬ found.value.text = (found.value.migrate settings).text := fun he => h he.symm
      simp [h, h', IsChanged, exchange]

theorem splice?_exchanges (cover : Cover TestFunction.read? TestFunction.text source finds tail) :
    Edit.splice? source 0 ((located TestFunction.text 0 finds).map (exchange settings)) =
      some (respell (migratedText settings) finds tail) := by
  obtain rfl := cover.respell_eq
  exact @Edit.splice?_located _ TestFunction.text (migratedText settings) [] finds tail

/-- Leaving out functions that do not change leaves out nothing of the migrated source. -/
theorem applyAll_exchanges (taken : TestFunction → Bool)
    (hkept : ∀ function, taken function = false → migratedText settings function = function.text)
    (cover : Cover TestFunction.read? TestFunction.text source finds tail) :
    Edit.applyAll source (((located TestFunction.text 0 finds).filter fun found =>
        taken found.value).map (exchange settings)) =
      .ok (respell (migratedText settings) finds tail) := by
  obtain rfl := cover.respell_eq
  exact Edit.applyAll_located taken hkept finds tail

theorem applyAll_changed (cover : Cover TestFunction.read? TestFunction.text source finds tail) :
    Edit.applyAll source (((located TestFunction.text 0 finds).filter fun found =>
        decide (IsChanged settings found)).map (exchange settings)) =
      .ok (respell (migratedText settings) finds tail) := by
  apply applyAll_exchanges settings (fun function => decide (migratedText settings function ≠
    function.text)) ?_ cover
  intro function hsame
  simpa using hsame

/-- A migration spells every function anew and reports on each in turn. -/
theorem migrate_eq (cover : Cover TestFunction.read? TestFunction.text source finds tail) :
    migrate settings source = .ok
      { text := respell (migratedText settings) finds tail
        functions := (finds.map Prod.snd).map fun function =>
          ⟨function.name, (function.migrate settings).outcome⟩
        events := (finds.map Prod.snd).flatMap fun function =>
          (function.migrate settings).events } := by
  obtain ⟨edits, hedits, hfilter⟩ := edits_eq settings cover
  have happly : Edit.applyAll source (edits.filterMap id) =
      .ok (respell (migratedText settings) finds tail) := by
    rw [hfilter]
    exact applyAll_changed settings cover
  simp only [migrate, hedits, happly, bind, Except.bind, pure, Except.pure]
  rw [steps_eq settings cover, ← located_values 0 finds]
  simp only [List.map_map, List.flatMap_map]
  rfl

end Cover

/-- A migration never fails. Its text is the source between the ranges of the functions found in
it, with the migrated texts of these in order between it. Exchanging all functions gives the same
text as exchanging only those that change. -/
theorem migrate_splices (settings : Settings) (source : Text) :
    ∃ result, migrate settings source = .ok result ∧
      Edit.splice? source 0 ((TestFunction.findAll source).map (exchange settings)) =
        some result.text ∧
      Edit.applyAll source ((TestFunction.findAll source).map (exchange settings)) =
        .ok result.text ∧
      Edit.applyAll source (((TestFunction.findAll source).filter fun found =>
        decide (IsChanged settings found)).map (exchange settings)) = .ok result.text := by
  obtain ⟨finds, tail, cover⟩ := exists_cover TestFunction.read?_lawful source
  refine ⟨_, migrate_eq settings cover, ?_⟩
  rw [TestFunction.findAll_eq cover]
  refine ⟨splice?_exchanges settings cover, ?_, applyAll_changed settings cover⟩
  have hall := applyAll_exchanges settings (fun _ => true) (fun _ h => nomatch h) cover
  rwa [List.filter_eq_self.mpr fun _ _ => rfl] at hall

end Source

end StagedMocks

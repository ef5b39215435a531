import Mathlib.Data.List.Forall2
import Mathlib.Data.List.NodupEquivFin
import StagedMocks.Proofs.Migration.Idempotence
import StagedMocks.Proofs.Migration.Passthrough
import StagedMocks.Proofs.Migration.Signature

/-!
No test function gets lost. The new text of a function begins with its declaration and ends in
a closing line, so a search finds the function again at its beginning, however its body was cut
up. What else is found in that text comes behind it and ends before the next function begins.
-/
namespace StagedMocks.TestFunction

/-- A function is found again at the beginning of its new text, throwing unless it was left
alone. -/
theorem exists_read?_migrate {function : TestFunction} (hg : function.Grammatical)
    (settings : Settings) :
    ∃ again, read? (function.migrate settings).text = some again ∧
      again.declaration = function.declaration ∧
      ((function.migrate settings).outcome ≠ .alreadyMigrated → again.isThrowing = true) := by
  by_cases houtcome : (function.migrate settings).outcome = .alreadyMigrated
  · have hdecided := migrate_decided settings function
    refine ⟨function, ?_, rfl, fun hne => absurd houtcome hne⟩
    rw [hdecided.verbatim (hdecided.alreadyMigrated_iff.mp houtcome)]
    exact read?_eq_some_iff.mpr ⟨hg, List.prefix_refl _⟩
  · obtain ⟨again, hread, _, hdeclaration, heffects⟩ := exists_read?_throwing hg houtcome
    refine ⟨again, hread, hdeclaration, fun _ => ?_⟩
    rw [isThrowing, keywords, heffects]
    exact decide_eq_true function.throws_mem_throwingEffects

end StagedMocks.TestFunction

namespace StagedMocks.Source

open StagedMocks.Scan StagedMocks.TestFunction

/-- `after` is what a search finds again of a function `before`. -/
structure Retained (settings : Settings) (before after : TestFunction) : Prop where
  declaration_eq : after.declaration = before.declaration
  throwing : (before.migrate settings).outcome = .signatureOnly ∨
    (before.migrate settings).outcome = .migrated → after.isThrowing = true

theorem Retained.name_eq {settings : Settings} {before after : TestFunction}
    (h : Retained settings before after) : after.name = before.name := by
  rw [name, name, h.declaration_eq]

/-- The first of every group stands for the element that the group comes from. -/
theorem sublistForall₂_flatMap {α β : Type} {R : α → β → Prop} {f : α → List β} {l : List α}
    (h : ∀ a ∈ l, ∃ b others, f a = b :: others ∧ R a b) :
    List.SublistForall₂ R l (l.flatMap f) := by
  induction l with
  | nil => exact .nil
  | cons a l ih =>
      obtain ⟨b, others, hf, hab⟩ := h a List.mem_cons_self
      have hlater := ih fun x hx => h x (List.mem_cons_of_mem a hx)
      rw [List.flatMap_cons, hf, List.cons_append]
      refine .cons hab ?_
      -- The rest of the group is passed over.
      clear hf
      induction others with
      | nil => exact hlater
      | cons _ others ih => exact .cons_right ih

theorem retained_migrate (settings : Settings) {source tail : Text}
    {finds : List (Text × TestFunction)}
    (cover : Cover read? TestFunction.text source finds tail) :
    List.SublistForall₂ (fun before after => Retained settings before.value after.value)
      (findAll source) (findAll (respell (migratedText settings) finds tail)) := by
  obtain ⟨finds', tail', cover', hvalues⟩ := cover_respell settings cover
  apply List.sublistForall₂_map_right_iff.mp
  apply List.sublistForall₂_map_left_iff.mp
  rw [findAll, findAll, cover.all_values read?_lawful, cover'.all_values read?_lawful, hvalues]
  apply sublistForall₂_flatMap
  intro function hfunction
  rw [← cover.all_values read?_lawful, List.mem_map] at hfunction
  obtain ⟨found, hfound, rfl⟩ := hfunction
  obtain ⟨again, hagain, hdeclaration, hthrows⟩ :=
    exists_read?_migrate (grammatical_of_mem_findAll hfound) settings
  obtain ⟨others, hothers⟩ := findAll_of_read? hagain
  refine ⟨again, others.map Located.value, ?_, hdeclaration, fun houtcome => hthrows ?_⟩
  · rw [migratedText, hothers, List.map_cons]
  obtain houtcome | houtcome := houtcome
  · rw [houtcome]
    decide
  · rw [houtcome]
    decide

/-- A relation along a sublist as a map of places. -/
theorem exists_places {α β : Type} {R : α → β → Prop} {l : List α} {l' : List β}
    (h : List.SublistForall₂ R l l') :
    ∃ place : Fin l.length → Fin l'.length, StrictMono place ∧
      ∀ i, R (l.get i) (l'.get (place i)) := by
  obtain ⟨images, hrelated, hsublist⟩ := List.sublistForall₂_iff.mp h
  obtain ⟨hlength, hget⟩ := List.forall₂_iff_get.mp hrelated
  obtain ⟨place, hplace⟩ := List.sublist_iff_exists_fin_orderEmbedding_get_eq.mp hsublist
  refine ⟨fun i => place (i.cast hlength), ?_, ?_⟩
  · intro i j hij
    exact place.strictMono hij
  · intro i
    rw [← hplace]
    exact hget i.1 i.2 (i.cast hlength).2

/-- A migration loses no test function: each has a place among the functions of the new text, in
the same order and with the same declaration, and it throws there unless it was left alone. -/
theorem migrate_retains (settings : Settings) (source : Text) :
    ∃ result, migrate settings source = .ok result ∧
      (∃ place : Fin (findAll source).length → Fin (findAll result.text).length,
        StrictMono place ∧
        ∀ i, Retained settings ((findAll source).get i).value
          ((findAll result.text).get (place i)).value) ∧
      ((findAll source).map fun found => found.value.name).Sublist
        ((findAll result.text).map fun found => found.value.name) := by
  obtain ⟨finds, tail, cover⟩ := exists_cover read?_lawful source
  have hretained := retained_migrate settings cover
  refine ⟨_, migrate_eq settings cover, exists_places hretained, ?_⟩
  obtain ⟨images, hrelated, hsublist⟩ := List.sublistForall₂_iff.mp hretained
  have hnames : (findAll source).map (fun found => found.value.name) =
      images.map fun found => found.value.name := by
    rw [← List.forall₂_eq_eq_eq, List.forall₂_map_left_iff, List.forall₂_map_right_iff]
    exact hrelated.imp fun _ _ h => h.name_eq.symm
  rw [hnames]
  exact hsublist.map _

end StagedMocks.Source

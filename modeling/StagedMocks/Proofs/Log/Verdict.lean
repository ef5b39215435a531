import Mathlib.Data.List.Nodup
import StagedMocks.Log.Filter

/-!
Which directive of a filter decides about a record, and what changes when the command line gives a
verbosity. The verbosity takes the place of the directive without a target. Directives with a
target stay, and decide as before.
-/
namespace StagedMocks.Log

/-- The directive with the longest target among those that govern a target; of equally long ones,
the last. -/
def strongest? (target : Text) : List Directive → Option Directive
  | [] => none
  | first :: rest =>
      match strongest? target rest with
      | none => if first.governs target then some first else none
      | some later =>
          if later.targetLength < first.targetLength ∧ first.governs target = true then some first
          else some later

section Strongest

variable {target : Text} {directives : List Directive} {directive : Directive}

theorem strongest?_mem (h : strongest? target directives = some directive) :
    directive ∈ directives := by
  induction directives with
  | nil => cases h
  | cons first rest ih =>
      rw [strongest?] at h
      split at h
      · split at h
        · cases h
          exact List.mem_cons_self
        · cases h
      · split at h
        · cases h
          exact List.mem_cons_self
        · cases h
          exact List.mem_cons_of_mem _ (ih ‹_›)

theorem strongest?_isSome (hmem : directive ∈ directives)
    (hgoverns : directive.governs target = true) : (strongest? target directives).isSome = true := by
  induction directives with
  | nil => cases hmem
  | cons first rest ih =>
      rw [strongest?]
      obtain rfl | hmem := List.mem_cons.mp hmem
      · split
        · simp [hgoverns]
        · split <;> rfl
      · obtain ⟨later, hlater⟩ := Option.isSome_iff_exists.mp (ih hmem)
        rw [hlater]
        dsimp only
        split <;> rfl

/-- A change that keeps the targets does not change which directive decides. -/
theorem strongest?_map {change : Directive → Directive}
    (hkeeps : ∀ directive, (change directive).target = directive.target) :
    strongest? target (directives.map change) = (strongest? target directives).map change := by
  have hgoverns : ∀ directive, (change directive).governs target = directive.governs target := by
    intro directive
    rw [Directive.governs, hkeeps, ← Directive.governs]
  have hlength : ∀ directive, (change directive).targetLength = directive.targetLength := by
    intro directive
    rw [Directive.targetLength, hkeeps, ← Directive.targetLength]
  induction directives with
  | nil => rfl
  | cons first rest ih =>
      rw [List.map_cons, strongest?, strongest?, ih, hgoverns]
      cases strongest? target rest with
      | none => cases first.governs target <;> rfl
      | some later =>
          simp only [Option.map_some, hlength]
          split <;> rfl

theorem filter_getD (directive last : Directive) :
    ((some directive).filter (0 < ·.targetLength)).getD last =
      if 0 < directive.targetLength then directive else last := by
  rw [Option.filter_some]
  cases Nat.decLt 0 directive.targetLength <;> simp [*]

/-- A directive without a target at the end decides unless one with some length does. -/
theorem strongest?_append {last : Directive} (hlast : last.target = none) :
    strongest? target (directives ++ [last]) =
      some (((strongest? target directives).filter (0 < ·.targetLength)).getD last) := by
  have hgoverns : last.governs target = true := by rw [Directive.governs, hlast]
  have hlength : last.targetLength = 0 := by rw [Directive.targetLength, hlast]; rfl
  induction directives with
  | nil => simp [strongest?, hgoverns]
  | cons first rest ih =>
      rw [List.cons_append, strongest?, strongest?, ih]
      cases strongest? target rest with
      | none =>
          cases hgoverned : first.governs target with
          | false => simp
          | true =>
              simp only [if_true, filter_getD, and_true, Option.filter_none, Option.getD_none,
                hlength]
              split <;> rfl
      | some later =>
          rw [filter_getD]
          by_cases hlater : 0 < later.targetLength
          · rw [if_pos hlater]
            dsimp only
            split
            · rename_i hfirst
              rw [filter_getD, if_pos (Nat.zero_lt_of_lt hfirst.1)]
            · rw [filter_getD, if_pos hlater]
          · have hzero : later.targetLength = 0 := Nat.eq_zero_of_not_pos hlater
            rw [if_neg hlater]
            simp only [hlength, hzero]
            split
            · rename_i hfirst
              rw [filter_getD, if_pos hfirst.1]
            · rw [filter_getD, if_neg hlater]

end Strongest

/-- Looking through sorted directives from the last on finds the strongest. -/
theorem find?_reverse_mergeSort (target : Text) (directives : List Directive) :
    (directives.mergeSort fun a b => a.targetLength ≤ b.targetLength).reverse.find?
      (·.governs target) = strongest? target directives := by
  have htrans : ∀ a b c : Directive, decide (a.targetLength ≤ b.targetLength) = true →
      decide (b.targetLength ≤ c.targetLength) = true →
      decide (a.targetLength ≤ c.targetLength) = true := by
    intro a b c hab hbc
    exact decide_eq_true (Nat.le_trans (of_decide_eq_true hab) (of_decide_eq_true hbc))
  have htotal : ∀ a b : Directive, (decide (a.targetLength ≤ b.targetLength) ||
      decide (b.targetLength ≤ a.targetLength)) = true := by
    intro a b
    simpa using Nat.le_total _ _
  induction directives with
  | nil => simp [strongest?]
  | cons first rest ih =>
      -- The first directive is put in front of those that are as long, and behind the shorter ones.
      obtain ⟨shorter, longer, hfirst, hrest, hshorter⟩ :=
        List.mergeSort_cons htrans htotal first rest
      have hsorted := List.pairwise_mergeSort htrans htotal (first :: rest)
      rw [hfirst, List.pairwise_append] at hsorted
      have hlonger := (List.pairwise_cons.mp hsorted.2.1).1
      rw [hrest, List.reverse_append, List.find?_append] at ih
      rw [hfirst, List.reverse_append, List.reverse_cons, List.append_assoc, List.find?_append,
        strongest?, ← ih]
      cases hfound : longer.reverse.find? (·.governs target) with
      | some later =>
          have hmem := List.mem_reverse.mp (List.mem_of_find?_eq_some hfound)
          have hle := of_decide_eq_true (hlonger later hmem)
          simp [Nat.not_lt.mpr hle]
      | none =>
          simp only [Option.none_or, List.singleton_append, List.find?_cons]
          cases hgoverned : first.governs target with
          | false => cases shorter.reverse.find? (·.governs target) <;> simp
          | true =>
              cases hbefore : shorter.reverse.find? (·.governs target) with
              | none => simp
              | some before =>
                  have hmem := List.mem_reverse.mp (List.mem_of_find?_eq_some hbefore)
                  have hlt : before.targetLength < first.targetLength := by
                    simpa using hshorter before hmem
                  simp [hlt]

namespace Filter

/-- No two directives have the same target. -/
def IsKeyed (directives : List Directive) : Prop :=
  (directives.map Directive.target).Nodup

theorem target_mem_putDirective {new : Directive} {directives : List Directive}
    {target : Option Text} :
    target ∈ (putDirective new directives).map Directive.target ↔
      target = new.target ∨ target ∈ directives.map Directive.target := by
  induction directives with
  | nil => simp [putDirective]
  | cons first rest ih =>
      rw [putDirective]
      split
      · rename_i hsame
        simp only [List.map_cons, List.mem_cons, hsame, ← or_assoc, or_self]
      · simp only [List.map_cons, List.mem_cons, ih]
        exact or_left_comm

theorem IsKeyed.put {directives : List Directive} (h : IsKeyed directives) (new : Directive) :
    IsKeyed (putDirective new directives) := by
  induction directives with
  | nil => exact List.nodup_singleton _
  | cons first rest ih =>
      obtain ⟨hfirst, hrest⟩ := List.nodup_cons.mp h
      rw [putDirective]
      split
      · rename_i hsame
        rw [hsame] at hfirst
        exact List.nodup_cons.mpr ⟨hfirst, hrest⟩
      · rename_i hother
        refine List.nodup_cons.mpr ⟨?_, ih hrest⟩
        rw [target_mem_putDirective, not_or]
        exact ⟨hother, hfirst⟩

theorem IsKeyed.addDirectives {filter : Filter} (h : IsKeyed filter.directives)
    (parts : List Text) : IsKeyed (filter.addDirectives parts).1.directives := by
  induction parts generalizing filter with
  | nil => exact h
  | cons part rest ih =>
      rw [Filter.addDirectives]
      dsimp only
      split
      · exact ih h
      split
      · exact ih (h.put _)
      · exact ih h

theorem IsKeyed.add {filter : Filter} (h : IsKeyed filter.directives) (specification : Text) :
    IsKeyed (filter.add specification).1.directives := by
  rw [Filter.add]
  dsimp only
  have hbare : ∀ parts, IsKeyed
      (({ filter with mention := none } : Filter).addDirectives parts).1.directives :=
    IsKeyed.addDirectives h
  split
  · exact hbare _
  · split
    · exact hbare _
    · exact hbare _
  · exact h

/-- The directives that the environment gives. -/
def given (environment : Option Text) : List Directive :=
  (empty.add (environment.getD standard)).1.directives

theorem isKeyed_given (environment : Option Text) : IsKeyed (given environment) :=
  IsKeyed.add (show IsKeyed [] from List.nodup_nil) _

/-- A verbosity's name sets the directive without a target, and takes the demand off that messages
match an expression. -/
theorem add_name (filter : Filter) (verbosity : Verbosity) :
    filter.add verbosity.name.toList =
      (⟨putDirective ⟨none, verbosity⟩ filter.directives, none⟩, []) := by
  have hslash : Text.splitAt '/' verbosity.name.toList = [verbosity.name.toList] := by
    cases verbosity <;> decide
  have hcomma : Text.splitAt ',' verbosity.name.toList = [verbosity.name.toList] := by
    cases verbosity <;> decide
  have htrim : Text.trim verbosity.name.toList = verbosity.name.toList := by
    cases verbosity <;> decide
  have hempty : verbosity.name.toList.isEmpty = false := by
    cases verbosity <;> decide
  have hread : directive verbosity.name.toList = .ok ⟨none, verbosity⟩ := by
    cases verbosity <;> rfl
  simp [add, hslash, hcomma, addDirectives, htrim, hempty, hread]

theorem ofRun_some (environment : Option Text) (verbosity : Verbosity) :
    ofRun environment (some verbosity) =
      (⟨putDirective ⟨none, verbosity⟩ (given environment), none⟩,
        (empty.add (environment.getD standard)).2) := by
  simp only [ofRun, add_name, List.append_nil]
  rfl

/-- The directive without a target is put in its place, or else behind all others. -/
theorem putDirective_cases {directives : List Directive} (hkeyed : IsKeyed directives)
    (verbosity : Verbosity) :
    ((∀ directive ∈ directives, directive.target ≠ none) ∧
        putDirective ⟨none, verbosity⟩ directives = directives ++ [⟨none, verbosity⟩]) ∨
      ((∃ directive ∈ directives, directive.target = none) ∧
        putDirective ⟨none, verbosity⟩ directives = directives.map fun directive =>
          if directive.target = none then ⟨none, verbosity⟩ else directive) := by
  induction directives with
  | nil => exact .inl ⟨by simp, rfl⟩
  | cons first rest ih =>
      obtain ⟨hfirst, hrest⟩ := List.nodup_cons.mp hkeyed
      rw [putDirective]
      split
      · rename_i hnone
        have hothers : ∀ directive ∈ rest, directive.target ≠ none := by
          intro directive hmem hsame
          rw [hnone] at hfirst
          exact hfirst (List.mem_map.mpr ⟨directive, hmem, hsame⟩)
        refine .inr ⟨⟨first, List.mem_cons_self, hnone⟩, ?_⟩
        rw [List.map_cons, if_pos hnone]
        congr 1
        exact (List.map_congr_left fun directive hmem => if_neg (hothers directive hmem)).trans
          (List.map_id rest) |>.symm
      · rename_i hsome
        obtain ⟨hothers, hput⟩ | ⟨⟨directive, hmem, hnone⟩, hput⟩ := ih hrest
        · exact .inl ⟨List.forall_mem_cons.mpr ⟨hsome, hothers⟩, by rw [hput, List.cons_append]⟩
        · refine .inr ⟨⟨directive, List.mem_cons_of_mem _ hmem, hnone⟩, ?_⟩
          rw [hput, List.map_cons, if_neg hsome]

/-- How much is shown of a target if the command line gives a verbosity: what the strongest of the
environment's directives says if it has a target, and else what is given. A directive for the
empty target is overruled, too, unless the environment has a directive without a target. -/
def verbosityFor (environment : Option Text) (verbosity : Verbosity) (target : Text) : Verbosity :=
  match strongest? target (given environment) with
  | some ⟨some start, decided⟩ =>
      if start = [] ∧ ∀ directive ∈ given environment, directive.target ≠ none then verbosity
      else decided
  | _ => verbosity

theorem strongest?_putDirective (environment : Option Text) (verbosity : Verbosity)
    (target : Text) :
    (strongest? target (putDirective ⟨none, verbosity⟩ (given environment))).map (·.verbosity) =
      some (verbosityFor environment verbosity target) := by
  rw [verbosityFor]
  obtain ⟨hothers, hput⟩ | ⟨⟨directive, hmem, hnone⟩, hput⟩ :=
    putDirective_cases (isKeyed_given environment) verbosity
  · rw [hput, strongest?_append rfl]
    cases hstrongest : strongest? target (given environment) with
    | none => rfl
    | some decided =>
        obtain ⟨start, hstart⟩ :=
          Option.ne_none_iff_exists'.mp (hothers decided (strongest?_mem hstrongest))
        obtain ⟨_, shown⟩ := decided
        obtain rfl := hstart
        cases start with
        | nil =>
            have hlength : (Directive.mk (some []) shown).targetLength = 0 := rfl
            rw [filter_getD, hlength, if_neg (Nat.lt_irrefl 0)]
            simp only [Option.map_some, true_and, if_pos hothers]
        | cons c start =>
            have hlength : 0 < (Directive.mk (some (c :: start)) shown).targetLength :=
              Nat.add_pos_left (Char.utf8Size_pos c) _
            rw [filter_getD, if_pos hlength]
            simp
  · have hgoverns : directive.governs target = true := by rw [Directive.governs, hnone]
    have hsome := strongest?_isSome hmem hgoverns
    obtain ⟨decided, hdecided⟩ := Option.isSome_iff_exists.mp hsome
    have hnot : ¬ ∀ directive ∈ given environment, directive.target ≠ none :=
      fun hall => hall directive hmem hnone
    rw [hput, strongest?_map, hdecided]
    · obtain ⟨_ | start, shown⟩ := decided
      · rfl
      · simp [hnot]
    · intro directive
      split
      · exact (Eq.symm ‹_›)
      · rfl

/-- If the command line gives a verbosity, a record is shown or not by its target and level alone. -/
theorem shows_ofRun (environment : Option Text) (verbosity : Verbosity) (record : Record) :
    (ofRun environment (some verbosity)).1.shows record =
      (verbosityFor environment verbosity record.target).shows record.level := by
  have hne : (putDirective ⟨none, verbosity⟩ (given environment)).isEmpty = false := by
    cases given environment with
    | nil => rfl
    | cons first rest =>
        rw [putDirective]
        split <;> rfl
  have hdecides := strongest?_putDirective environment verbosity record.target
  obtain ⟨decided, hdecided, hverbosity⟩ := Option.map_eq_some_iff.mp hdecides
  rw [ofRun_some, shows, inOrder, hne, if_neg Bool.false_ne_true, find?_reverse_mergeSort, hdecided]
  simp [hverbosity]

end Filter

end StagedMocks.Log

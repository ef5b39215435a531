import StagedMocks.Migration.Function
import StagedMocks.Proofs.Statement

/-!
What is taken from a body. The statements that a scan finds are exactly those of a grammar on
single lines: an opening, an argument up to the first end of one, and that end. An opening is passed
over only inside a statement or if its line has no argument's end behind it. The payload and the
URL of a body are the arguments of its first statements, so an empty one hides all later ones.
-/
namespace StagedMocks

namespace Statement

/-- An argument's end stands in a text before its line does. -/
def EndsOnLine (rest : Text) : Prop :=
  ∃ argument behind : Text, '\n' ∉ argument ∧ rest = argument ++ (argumentEnd ++ behind)

/-- The statements of a text on its lines, in order. Behind the end of an argument each takes what
`lineEnd` says of the rest. -/
structure Exact (openings : List Text) (lineEnd : Text → Text) (s : Text)
    (finds : List (Scan.Located Statement)) : Prop where
  apart : finds.Pairwise fun a b =>
    a.start < b.start ∧ a.start + a.value.text.byteLength ≤ b.start
  shape : ∀ found ∈ finds, found.value.opening ∈ openings ∧ '\n' ∉ found.value.argument ∧
    ¬ argumentEnd <:+: found.value.argument ∧
    ∃ before behind, found.start = before.byteLength ∧
      found.value.closing = argumentEnd ++ lineEnd behind ∧
      s = before ++ (found.value.opening ++ (found.value.argument ++ (argumentEnd ++ behind)))
  ended : ∀ before opening rest, s = before ++ (opening ++ rest) → opening ∈ openings →
    EndsOnLine rest → ∃ found ∈ finds, found.start = before.byteLength ∨
      found.start < before.byteLength ∧
        before.byteLength < found.start + found.value.text.byteLength
  unended : ∀ before opening rest, s = before ++ (opening ++ rest) → opening ∈ openings →
    ¬ EndsOnLine rest → ∀ found ∈ finds, found.start ≠ before.byteLength

/-- The first statement that a scan finds in a body has this argument, which is not empty. -/
def IsFirst (read? : Text → Option Statement) (body argument : Text) : Prop :=
  argument ≠ [] ∧ ∃ first later, Scan.all read? text body = first :: later ∧
    first.value.argument = argument

section Reads

variable {read? : Text → Option Statement} {openings : List Text} {lineEnd : Text → Text}

/-- Behind an opening a statement can be read exactly if an argument's end stands on the line, as
no opening is the beginning of another. -/
theorem Reads.ne_none_iff (reads : Reads read? openings lineEnd)
    (hfree : ∀ opening ∈ openings, ∀ other ∈ openings, opening <+: other → opening = other)
    {opening : Text} (hopening : opening ∈ openings) (rest : Text) :
    read? (opening ++ rest) ≠ none ↔ EndsOnLine rest := by
  rw [ne_eq, reads.eq_none_iff]
  constructor
  · intro h
    obtain ⟨_, ⟨other, hother, argument, hline, rfl⟩, behind, hs⟩ := by simpa using h
    have hsame : other = opening := by
      simp only [List.append_assoc] at hs
      obtain h | h := List.prefix_or_prefix_of_prefix (List.prefix_append other _)
        (hs ▸ List.prefix_append opening rest)
      · exact hfree other hother opening hopening h
      · exact (hfree opening hopening other hother h).symm
    subst hsame
    simp only [List.append_assoc] at hs
    exact ⟨argument, behind, hline, (List.append_cancel_left hs).symm⟩
  · rintro ⟨argument, behind, hline, rfl⟩ h
    refine h _ ⟨opening, hopening, argument, hline, rfl⟩ ⟨behind, ?_⟩
    simp only [List.append_assoc]

/-- A scan with a reader of statements finds exactly those of the grammar. -/
theorem Reads.exact (reads : Reads read? openings lineEnd)
    (hfree : ∀ opening ∈ openings, ∀ other ∈ openings, opening <+: other → opening = other)
    (s : Text) : Exact openings lineEnd s (Scan.all read? text s) := by
  obtain ⟨finds, tail, cover⟩ := Scan.exists_cover reads.lawful s
  rw [cover.all_eq reads.lawful]
  have hread : ∀ found ∈ Scan.located text 0 finds, ∃ x y, s = x ++ (found.value.text ++ y) ∧
      found.start = x.byteLength ∧ read? (found.value.text ++ y) = some found.value := by
    intro found hfound
    obtain ⟨x, y, hs, hstart, hread⟩ := cover.of_mem_located hfound
    exact ⟨x, y, hs, by rw [hstart, Nat.zero_add], hread⟩
  refine ⟨?_, ?_, ?_, ?_⟩
  · refine (Scan.located_pairwise 0 finds).imp_of_mem ?_
    intro a b ha _ hab
    obtain ⟨_, _, _, _, hread⟩ := hread a ha
    have hpos := Text.byteLength_pos (reads.lawful.text_ne_nil hread)
    exact ⟨by omega, hab⟩
  · intro found hfound
    obtain ⟨x, y, hs, hstart, hread⟩ := hread found hfound
    obtain ⟨hopening, hline, hno, behind, hclosing, hspelled⟩ := reads.eq_some_iff.mp hread
    exact ⟨hopening, hline, hno, x, behind, hstart, hclosing, hs.trans (congrArg (x ++ ·) hspelled)⟩
  · intro before opening rest hs hopening hended
    have hsome := (reads.ne_none_iff hfree hopening rest).mpr hended
    obtain ⟨found, hfound, hle, hlt⟩ := cover.exists_found reads.lawful 0 hs hsome
    rw [Nat.zero_add] at hle hlt
    obtain hsame | hinside := Nat.eq_or_lt_of_le hle
    · exact ⟨found, hfound, .inl hsame⟩
    · exact ⟨found, hfound, .inr ⟨hinside, hlt⟩⟩
  · intro before opening rest hs hopening hended found hfound hsame
    obtain ⟨x, y, hx, hstart, hread⟩ := hread found hfound
    have hplace : opening ++ rest = found.value.text ++ y := by
      have hcut := Text.cutAt?_append x (found.value.text ++ y)
      rw [← hx, hs, ← hstart, hsame, Text.cutAt?_append] at hcut
      exact (Prod.mk.inj (Option.some.inj hcut)).2
    rw [← hplace] at hread
    refine hended ((reads.ne_none_iff hfree hopening rest).mp ?_)
    rw [hread]
    exact Option.some_ne_none _

theorem Reads.firstArgument?_iff (reads : Reads read? openings lineEnd) {body argument : Text} :
    firstArgument? read? body = some argument ↔ IsFirst read? body argument := by
  have hhead := Scan.first?_eq_head? reads.lawful body
  rw [firstArgument?_eq_some_iff, IsFirst]
  constructor
  · rintro ⟨before, a, behind, hfirst, rfl, hne⟩
    rw [hfirst] at hhead
    cases hall : Scan.all read? text body with
    | nil => simp [hall] at hhead
    | cons first later =>
        rw [hall] at hhead
        obtain rfl : a = first.value := by simpa using hhead
        exact ⟨hne, first, later, rfl, rfl⟩
  · rintro ⟨hne, first, later, hall, rfl⟩
    rw [hall] at hhead
    obtain ⟨⟨before, a, behind⟩, hfirst, ha⟩ := Option.map_eq_some_iff.mp hhead
    exact ⟨before, a, behind, hfirst, congrArg argument ha, hne⟩

end Reads

end Statement

namespace LegacyUse

open Statement

/-- What the first statements of a body name. -/
structure Taken (body : Text) (use : LegacyUse) : Prop where
  payload_iff : ∀ payload, use.payload = some payload ↔ IsFirst staging? body payload
  url_iff : ∀ url, use.url = some url ↔ IsFirst assertion? body url

theorem ofBody_taken (body : Text) : Taken body (ofBody body) where
  payload_iff _ := staging?_reads.firstArgument?_iff
  url_iff _ := assertion?_reads.firstArgument?_iff

/-- The scans for stagings and for assertions find exactly the statements of their grammars, of
which an assertion takes the line feed behind it. The payload and the URL of a body are the
arguments of the first of these, and there is none if the first one is empty. -/
theorem ofBody_exact (body : Text) :
    Exact [stagingOpening] (fun _ => []) body (Scan.all staging? text body) ∧
      Exact assertionOpenings (fun rest => if rest.head? = some '\n' then ['\n'] else []) body
        (Scan.all assertion? text body) ∧
      Taken body (ofBody body) :=
  ⟨staging?_reads.exact (by decide) body, assertion?_reads.exact (by decide) body,
    ofBody_taken body⟩

/-- An empty argument hides a later one. -/
example : ofBody
    "session.nextData = jsonData(named: \"\") session.nextData = jsonData(named: \"f\")".toList =
      ⟨none, none⟩ := by
  decide +kernel

end LegacyUse

end StagedMocks

import Mathlib.Data.List.Infix
import StagedMocks.Proofs.Disk.Writing
import StagedMocks.Proofs.Text

/-!
Ways along paths. A path is a start and the segments behind it, and the paths above it have the
same start and fewer segments. Following a path passes directories, and the paths above it lead to
just these.
-/
namespace StagedMocks

namespace Path

theorem ofSegments_segments (path : Text) : ofSegments (segments path) = path :=
  List.intercalate_splitOn '/'

theorem segments_ofSegments {front : List Text} (hne : front ≠ [])
    (hplain : ∀ segment ∈ front, '/' ∉ segment) : segments (ofSegments front) = front :=
  List.splitOn_intercalate '/' hplain hne

theorem ofSegments_injective {names others : List Text} (hne : names ≠ []) (hothers : others ≠ [])
    (hplain : ∀ name ∈ names, '/' ∉ name) (hclean : ∀ name ∈ others, '/' ∉ name)
    (h : ofSegments names = ofSegments others) : names = others := by
  rw [← segments_ofSegments hne hplain, h, segments_ofSegments hothers hclean]

theorem ofSegments_cons_cons (first second : Text) (rest : List Text) :
    ofSegments (first :: second :: rest) = first ++ '/' :: ofSegments (second :: rest) := by
  rw [ofSegments, List.intercalate_cons_cons, List.append_assoc]
  rfl

theorem isAbsolute_of_plain {path : Text} (h : '/' ∉ path) : isAbsolute path = false := by
  cases path with
  | nil => rfl
  | cons c path =>
      rw [isAbsolute, List.head?_cons, beq_eq_false_iff_ne]
      intro hc
      rw [Option.some.inj hc] at h
      exact h List.mem_cons_self

theorem ofSegments_prefix {front longer : List Text} (h : front <+: longer) :
    ofSegments front <+: ofSegments longer := by
  obtain ⟨back, rfl⟩ := h
  induction front with
  | nil => exact List.nil_prefix
  | cons first front ih =>
      match front, back with
      | [], [] => exact List.prefix_rfl
      | [], next :: back =>
          rw [List.singleton_append, ofSegments_cons_cons, ofSegments, List.intercalate_singleton]
          exact List.prefix_append _ _
      | second :: front, back =>
          rw [List.cons_append, List.cons_append, ofSegments_cons_cons, ofSegments_cons_cons]
          exact (List.prefix_append_right_inj _).mpr (List.cons_prefix_cons.mpr ⟨rfl, ih⟩)

theorem mem_ofSegments {c : Char} {front : List Text} (h : c ∈ ofSegments front) :
    c = '/' ∨ ∃ segment ∈ front, c ∈ segment := by
  induction front with
  | nil => cases h
  | cons first front ih =>
      cases front with
      | nil =>
          rw [ofSegments, List.intercalate_singleton] at h
          exact .inr ⟨first, List.mem_cons_self, h⟩
      | cons second front =>
          rw [ofSegments_cons_cons] at h
          obtain h | h := List.mem_append.mp h
          · exact .inr ⟨first, List.mem_cons_self, h⟩
          obtain h | h := List.mem_cons.mp h
          · exact .inl h
          obtain h | ⟨segment, hsegment, h⟩ := ih h
          · exact .inl h
          · exact .inr ⟨segment, List.mem_cons_of_mem _ hsegment, h⟩

theorem join_cases (path name : Text) :
    join path name = path ++ name ∨ join path name = path ++ '/' :: name := by
  rw [join]
  split
  · rename_i hempty
    rw [List.isEmpty_iff.mp hempty]
    exact .inl rfl
  split
  · exact .inl rfl
  · exact .inr rfl

theorem join_injective (path : Text) {name other : Text} (h : join path name = join path other) :
    name = other := by
  simp only [join] at h
  split at h
  · exact h
  split at h
  · exact List.append_cancel_left h
  · exact (List.cons.inj (List.append_cancel_left h)).2

theorem le_byteLength_join (path name : Text) :
    path.byteLength + name.byteLength ≤ (join path name).byteLength := by
  obtain hjoin | hjoin := join_cases path name
  · rw [hjoin, Text.byteLength_append]
  · rw [hjoin, Text.byteLength_append, Text.byteLength]
    omega

theorem segments_slash (path rest : Text) :
    segments (path ++ '/' :: rest) = segments path ++ segments rest :=
  List.splitOn_append_cons_self path rest

theorem segments_of_plain {name : Text} (h : '/' ∉ name) : segments name = [name] :=
  List.splitOn_eq_singleton h

theorem slash_not_mem_segments (path : Text) : ∀ segment ∈ segments path, '/' ∉ segment := by
  induction path with
  | nil => simp [segments, Text.splitAt]
  | cons c path ih =>
      by_cases hc : c = '/'
      · subst hc
        have hsplit := segments_slash [] path
        rw [List.nil_append] at hsplit
        rw [hsplit]
        intro segment hsegment
        obtain hsegment | hsegment := List.mem_append.mp hsegment
        · simp [segments, Text.splitAt] at hsegment
          simp [hsegment]
        · exact ih segment hsegment
      · obtain ⟨first, rest, hrest⟩ := List.exists_cons_of_ne_nil
          (List.splitOnP_ne_nil (· == '/') path)
        have hsplit : segments (c :: path) = (c :: first) :: rest := by
          rw [segments, Text.splitAt, List.splitOnP_cons_eq_if_modifyHead, hrest]
          simp [hc]
        have hpath : segments path = first :: rest := hrest
        rw [hpath] at ih
        rw [hsplit]
        intro segment hsegment
        obtain rfl | hsegment := List.mem_cons.mp hsegment
        · have hfirst := ih first List.mem_cons_self
          simp only [List.mem_cons, not_or]
          exact ⟨fun h => hc h.symm, hfirst⟩
        · exact ih segment (List.mem_cons_of_mem _ hsegment)

/-- The segments that count. -/
def counting (segments : List Text) : List Text :=
  segments.filter (!isIdle ·)

theorem counting_of_idle {segment : Text} (h : isIdle segment = true) (rest : List Text) :
    counting (segment :: rest) = counting rest := by
  simp [counting, h]

theorem counting_of_not_idle {segment : Text} (h : isIdle segment = false) (rest : List Text) :
    counting (segment :: rest) = segment :: counting rest := by
  simp [counting, h]

theorem counting_append (front back : List Text) :
    counting (front ++ back) = counting front ++ counting back :=
  List.filter_append _ _

theorem segments_slashes (count : Nat) (path : Text) :
    segments (List.replicate count '/' ++ path) = List.replicate count [] ++ segments path := by
  induction count with
  | zero => rfl
  | succ count ih =>
      rw [List.replicate_succ, List.replicate_succ, List.cons_append, List.cons_append, ← ih]
      exact segments_slash [] _

theorem counting_slashes (count : Nat) (path : Text) :
    counting (segments (List.replicate count '/' ++ path)) = counting (segments path) := by
  rw [segments_slashes, counting_append, counting, List.filter_replicate]
  rfl

/-- Only segments that count can hold a NUL. -/
theorem nul_not_mem {path : Text} (h : ∀ segment ∈ counting (segments path), '\x00' ∉ segment) :
    '\x00' ∉ path := by
  intro hmem
  rw [← ofSegments_segments path] at hmem
  obtain hslash | ⟨segment, hsegment, hmem⟩ := mem_ofSegments hmem
  · cases hslash
  · cases hidle : isIdle segment with
    | true =>
        simp only [isIdle, Bool.or_eq_true, decide_eq_true_eq] at hidle
        obtain rfl | rfl := hidle
        · cases hmem
        · simp at hmem
    | false => exact h segment (List.mem_filter.mpr ⟨hsegment, by simp [hidle]⟩) hmem

/-- The names on the way to the last segment of a path. -/
def way (path : Text) : List Text :=
  counting (segments path).dropLast

/-- Segments behind a start: together they spell a path that has this start. -/
structure Rooted (start : Text) (front : List Text) : Prop where
  plain : ∀ segment ∈ front, '/' ∉ segment
  start_cases : start = ['/'] ∨ (start = ['.'] ∧ ∀ first ∈ front.head?, first = []) ∨
    (start = [] ∧ ∀ first ∈ front.head?, isIdle first = false)

theorem rooted_nil : Rooted [] [] where
  plain := by simp
  start_cases := by simp

/-- What comes before segments with a start is a path with that start, too. -/
theorem Rooted.of_prefix {start : Text} {front longer : List Text} (h : Rooted start longer)
    (hfront : front <+: longer) : Rooted start front := by
  have hhead : ∀ first ∈ front.head?, first ∈ longer.head? := by
    obtain ⟨rest, rfl⟩ := hfront
    cases front with
    | nil => simp
    | cons first front => simp
  refine ⟨fun segment hsegment => h.plain segment (hfront.subset hsegment), ?_⟩
  obtain hstart | ⟨hstart, hfirst⟩ | ⟨hstart, hfirst⟩ := h.start_cases
  · exact .inl hstart
  · exact .inr (.inl ⟨hstart, fun first hmem => hfirst first (hhead first hmem)⟩)
  · exact .inr (.inr ⟨hstart, fun first hmem => hfirst first (hhead first hmem)⟩)

theorem start_prefix (path : Text) : start path ++ path.drop (start path).length = path := by
  unfold start
  split <;> rfl

theorem eq_start_append (path : Text) :
    path = start path ++ ofSegments (backwards path).reverse := by
  rw [backwards, List.reverse_reverse, ofSegments_segments, start_prefix]

theorem start_rooted {path : Text} (hpath : path ≠ []) :
    Rooted (start path) (backwards path).reverse := by
  rw [backwards, List.reverse_reverse]
  refine ⟨slash_not_mem_segments _, ?_⟩
  unfold start
  split
  · exact .inl rfl
  · rename_i rest
    refine .inr (.inl ⟨rfl, ?_⟩)
    have hsplit : segments ('/' :: rest) = [] :: segments rest := segments_slash [] rest
    simp [hsplit]
  · exact .inr (.inl ⟨rfl, by simp [segments, Text.splitAt]⟩)
  · rename_i hslash hdot hhere
    refine .inr (.inr ⟨rfl, fun first hfirst => ?_⟩)
    obtain ⟨rest, hsegments⟩ : ∃ rest, segments path = first :: rest :=
      ⟨_, (List.cons_head?_tail hfirst).symm⟩
    have hspelled : path = ofSegments (first :: rest) := by
      rw [← hsegments, ofSegments_segments]
    -- An idle first segment would have been a start.
    rw [← Bool.not_eq_true]
    intro hidle
    simp only [isIdle, Bool.or_eq_true, decide_eq_true_eq] at hidle
    cases rest with
    | nil =>
        obtain rfl | rfl := hidle
        · exact hpath hspelled
        · exact hhere hspelled
    | cons second rest =>
        have hspelled : path = first ++ '/' :: ofSegments (second :: rest) := by
          rw [hspelled, ofSegments_cons_cons]
        obtain rfl | rfl := hidle
        · exact hslash _ hspelled
        · exact hdot _ hspelled

section Above

variable {start : Text} {front backs : List Text}

theorem above_idle {segment : Text} (h : isIdle segment = true) :
    above start (segment :: backs) = above start backs := by
  rw [above, if_pos h]

theorem above_of_not_idle {segment : Text} (h : isIdle segment = false) (start : Text)
    (backs : List Text) : above start (segment :: backs) =
      (start ++ ofSegments (backs.dropWhile isIdle).reverse) :: above start backs := by
  rw [above, if_neg (by simp [h])]

theorem above_dropWhile (start : Text) (backs : List Text) :
    above start (backs.dropWhile isIdle) = above start backs := by
  induction backs with
  | nil => rfl
  | cons segment rest ih =>
      cases h : isIdle segment with
      | true => rw [List.dropWhile_cons_of_pos h, ih, above_idle h]
      | false => rw [List.dropWhile_cons_of_neg (by simp [h])]

theorem ofSegments_ne_nil {first : Text} (h : isIdle first = false) (rest : List Text) :
    ofSegments (first :: rest) ≠ [] := by
  cases first with
  | nil => cases h
  | cons c first =>
      cases rest with
      | nil => simp [ofSegments, List.intercalate_singleton]
      | cons second rest => simp [ofSegments_cons_cons]

/-- A path does not start at the root or in a leading dot if its first segment counts. -/
theorem start_of_not_idle {first : Text} (hidle : isIdle first = false) (hplain : '/' ∉ first)
    (rest : List Text) : Path.start (ofSegments (first :: rest)) = [] := by
  obtain ⟨tail, htail, hslash⟩ : ∃ tail, ofSegments (first :: rest) = first ++ tail ∧
      (tail = [] ∨ ∃ more, tail = '/' :: more) := by
    cases rest with
    | nil => exact ⟨[], by simp [ofSegments], .inl rfl⟩
    | cons second rest => exact ⟨_, ofSegments_cons_cons _ _ _, .inr ⟨_, rfl⟩⟩
  rw [htail]
  match first with
  | [] => cases hidle
  | [c] =>
      have hc : c ≠ '.' := by
        rintro rfl
        cases hidle
      have hroot : c ≠ '/' := by
        rintro rfl
        exact hplain List.mem_cons_self
      unfold Path.start
      split <;> simp_all
  | c :: d :: more =>
      have hroot : c ≠ '/' := by
        rintro rfl
        exact hplain List.mem_cons_self
      have hd : d ≠ '/' := by
        rintro rfl
        exact hplain (List.mem_cons_of_mem _ List.mem_cons_self)
      unfold Path.start
      split <;> simp_all

theorem Rooted.start_eq (h : Rooted start front) (hne : start ++ ofSegments front ≠ []) :
    Path.start (start ++ ofSegments front) = start := by
  obtain rfl | ⟨rfl, hfirst⟩ | ⟨rfl, hfirst⟩ := h.start_cases
  · rfl
  · match front with
    | [] => rfl
    | [first] =>
        obtain rfl := hfirst first rfl
        rfl
    | first :: second :: rest =>
        obtain rfl := hfirst first rfl
        rfl
  · match front with
    | [] => exact absurd rfl hne
    | first :: rest => exact start_of_not_idle (hfirst first rfl) (h.plain _ List.mem_cons_self) rest

/-- Segments behind a start are the segments of their path, up to those that do not count. -/
theorem Rooted.way_eq {name : Text} (hidle : isIdle name = false)
    (h : Rooted start (front ++ [name])) :
    way (start ++ ofSegments (front ++ [name])) = counting front := by
  have hplain := segments_ofSegments (by simp) h.plain
  obtain rfl | ⟨rfl, hfirst⟩ | ⟨rfl, hfirst⟩ := h.start_cases
  · have hsegments : segments (['/'] ++ ofSegments (front ++ [name])) =
        [] :: segments (ofSegments (front ++ [name])) := segments_slash [] _
    rw [way, hsegments, hplain, ← List.cons_append, List.dropLast_concat]
    rfl
  · cases front with
    | nil =>
        obtain rfl := hfirst name rfl
        cases hidle
    | cons first front =>
        obtain rfl := hfirst first rfl
        obtain ⟨second, rest, hsecond⟩ : ∃ second rest, front ++ [name] = second :: rest :=
          List.exists_cons_of_ne_nil (by simp)
        have hsegments : segments (['.'] ++ ofSegments ([] :: second :: rest)) =
            ['.'] :: segments (ofSegments (second :: rest)) := by
          rw [ofSegments_cons_cons]
          exact segments_slash ['.'] _
        have hrest : segments (ofSegments (second :: rest)) = front ++ [name] := by
          rw [← hsecond]
          exact segments_ofSegments (by simp) fun segment hsegment =>
            h.plain segment (List.mem_cons_of_mem _ hsegment)
        have hspelled : [] :: front ++ [name] = [] :: second :: rest := by
          rw [List.cons_append, hsecond]
        rw [way, hspelled, hsegments, hrest, ← List.cons_append, List.dropLast_concat]
        rfl
  · rw [way, List.nil_append, hplain, List.dropLast_concat]

/-- Going up from a path goes on as its segments say, as far as they count. -/
theorem Rooted.above_eq (h : Rooted start front) (hne : start ++ ofSegments front ≠ []) :
    above (Path.start (start ++ ofSegments front)) (backwards (start ++ ofSegments front)) =
      above start front.reverse := by
  rw [backwards, h.start_eq hne, List.drop_left]
  cases front with
  | nil => exact above_idle rfl
  | cons first rest => rw [segments_ofSegments (List.cons_ne_nil _ _) h.plain]

/-- A path with nothing above it is a bare name, and a bare name has no start. -/
theorem Rooted.bare_cases {name : Text} (hidle : isIdle name = false)
    (h : Rooted start (backs.reverse ++ [name])) :
    (start = [] ∧ backs = [] ∧ '/' ∉ start ++ ofSegments (backs.reverse ++ [name])) ∨
      (start ++ ofSegments (backs.dropWhile isIdle).reverse ≠ [] ∧
        '/' ∈ start ++ ofSegments (backs.reverse ++ [name])) := by
  have hslash : backs ≠ [] → '/' ∈ ofSegments (backs.reverse ++ [name]) := by
    intro hne
    obtain ⟨first, rest, hfirst⟩ := List.exists_cons_of_ne_nil (List.reverse_ne_nil_iff.mpr hne)
    obtain ⟨second, more, hsecond⟩ : ∃ second more, rest ++ [name] = second :: more :=
      List.exists_cons_of_ne_nil (by simp)
    rw [hfirst, List.cons_append, hsecond, ofSegments_cons_cons]
    simp
  obtain rfl | ⟨rfl, hfirst⟩ | ⟨rfl, hfirst⟩ := h.start_cases
  · exact .inr ⟨List.cons_ne_nil _ _, List.mem_cons_self⟩
  · refine .inr ⟨List.cons_ne_nil _ _, List.mem_cons_of_mem _ (hslash ?_)⟩
    rintro rfl
    obtain rfl := hfirst name rfl
    cases hidle
  · by_cases hne : backs = []
    · subst hne
      refine .inl ⟨rfl, rfl, ?_⟩
      have hplain := h.plain name (by simp)
      simpa [ofSegments, List.intercalate_singleton] using hplain
    · refine .inr ⟨?_, hslash hne⟩
      obtain ⟨front, first, rfl⟩ : ∃ front first, backs = front ++ [first] :=
        ⟨_, _, (List.dropLast_concat_getLast hne).symm⟩
      have hcounts := hfirst first (by simp)
      obtain ⟨front', hfront⟩ : ∃ front', ((front ++ [first]).dropWhile isIdle).reverse =
          first :: front' := by
        rw [List.dropWhile_append]
        split
        · exact ⟨[], by simp [hcounts]⟩
        · exact ⟨_, by rw [List.reverse_append]; rfl⟩
      rw [hfront]
      exact ofSegments_ne_nil hcounts front'

end Above

end Path

namespace Standpoint

/-- Where a step leads that counts. -/
def stepped (location : Location) (segment : Text) : Location :=
  if segment = ['.', '.'] then location.dropLast else location ++ [segment]

/-- The directories through which names lead from a location, from the last on. -/
def passedFrom (location : Location) : List Text → List Location
  | [] => [location]
  | name :: rest => passedFrom (stepped location name) rest ++ [location]

/-- The directories through which a path leads to its last segment, from the last on. -/
def passed (point : Standpoint) (path : Text) : List Location :=
  passedFrom (point.origin path) (Path.way path)

theorem checkPath_eq_ok_iff {path : Text} :
    checkPath path = .ok () ↔ '\x00' ∉ path ∧ path ≠ [] ∧ path.byteLength < pathLimit := by
  rw [checkPath]
  split
  · rename_i hnul
    simp_all
  split
  · rename_i hempty
    simp_all
  split
  · rename_i hlimit
    simp [Nat.not_lt.mpr hlimit]
  · rename_i hnul hempty hlimit
    simp_all

section Passing

variable {disk : Disk} {location reached : Location} {segment : Text}

theorem isDirectoryAt_of_follow {segments : List Text} (hne : segments ≠ [])
    (h : follow disk location segments = .ok reached) : disk.isDirectoryAt location = true := by
  cases segments with
  | nil => exact absurd rfl hne
  | cons segment rest =>
      rw [follow] at h
      split at h
      · cases h
      · rename_i hdirectory
        simpa using hdirectory

theorem follow_idle (hidle : Path.isIdle segment = true) (rest : List Text) :
    follow disk location (segment :: rest) =
      if disk.isDirectoryAt location then follow disk location rest
      else .error (.system .notADirectory) := by
  rw [follow, if_pos hidle]
  cases disk.isDirectoryAt location <;> rfl

theorem follow_counting (hidle : Path.isIdle segment = false)
    (h : follow disk location [segment] = .ok reached) : reached = stepped location segment := by
  obtain ⟨_, ⟨hidle', _⟩ | ⟨hup, hreached⟩ | ⟨_, hup, _, hreached⟩⟩ := follow_singleton_cases h
  · rw [hidle] at hidle'
    cases hidle'
  · rw [hreached, stepped, if_pos hup]
  · rw [hreached, stepped, if_neg hup]

theorem passedFrom_append (hidle : Path.isIdle segment = false) {front : List Text}
    (h : follow disk location front = .ok reached) :
    passedFrom location (Path.counting (front ++ [segment])) =
      stepped reached segment :: passedFrom location (Path.counting front) := by
  induction front generalizing location with
  | nil =>
      cases h
      rw [List.nil_append, Path.counting_of_not_idle hidle]
      rfl
  | cons first front ih =>
      rw [← List.singleton_append, follow_append] at h
      obtain ⟨next, hnext, hrest⟩ := bind_eq_ok h
      have hback := ih hrest
      cases hfirst : Path.isIdle first with
      | true =>
          rw [follow_idle hfirst, follow] at hnext
          split at hnext
          · cases hnext
            rw [List.cons_append, Path.counting_of_idle hfirst, Path.counting_of_idle hfirst, hback]
          · cases hnext
      | false =>
          obtain rfl := follow_counting hfirst hnext
          rw [List.cons_append, Path.counting_of_not_idle hfirst,
            Path.counting_of_not_idle hfirst, passedFrom, passedFrom, hback, List.cons_append]

theorem exists_follow_append {front back : List Text}
    (h : follow disk location (front ++ back) = .ok reached) :
    ∃ between, follow disk location front = .ok between ∧ follow disk between back = .ok reached := by
  rw [follow_append] at h
  exact bind_eq_ok h

/-- Segments that do not count are passed over, wherever they stand. -/
theorem follow_idle_between (hidle : Path.isIdle segment = true) (front : List Text)
    (next : Text) (back : List Text) :
    follow disk location (front ++ segment :: next :: back) =
      follow disk location (front ++ next :: back) := by
  rw [follow_append, follow_append]
  congr 1
  funext between
  rw [follow_idle hidle]
  cases hdirectory : disk.isDirectoryAt between with
  | true => rfl
  | false => simp [follow, hdirectory]

theorem follow_counted (disk : Disk) (location : Location) (front : List Text) (name : Text) :
    follow disk location (front ++ [name]) =
      follow disk location (Path.counting front ++ [name]) := by
  induction front generalizing location with
  | nil => rfl
  | cons segment front ih =>
      cases hidle : Path.isIdle segment with
      | true =>
          obtain ⟨next, back, hback⟩ : ∃ next back, front ++ [name] = next :: back :=
            List.exists_cons_of_ne_nil (by simp)
          rw [Path.counting_of_idle hidle, ← ih, List.cons_append, hback]
          exact follow_idle_between hidle [] next back
      | false =>
          rw [Path.counting_of_not_idle hidle, List.cons_append, List.cons_append,
            ← List.singleton_append, follow_append, ← List.singleton_append (l := _ ++ _),
            follow_append]
          congr 1
          funext between
          exact ih between

/-- Segments that do not count lead nowhere else. -/
theorem follow_idles {segments : List Text} (hdirectory : disk.isDirectoryAt location = true)
    (h : Path.counting segments = []) :
    follow disk location segments = .ok location := by
  induction segments with
  | nil => rfl
  | cons segment rest ih =>
      cases hidle : Path.isIdle segment with
      | true =>
          rw [Path.counting_of_idle hidle] at h
          rw [follow_idle hidle, if_pos hdirectory, ih h]
      | false =>
          rw [Path.counting_of_not_idle hidle] at h
          cases h

end Passing

section Arriving

/-- A directory and those above it, from the nearest on. -/
def upward (directory : Location) : List Location :=
  directory.inits.reverse

/-- Where names lead from a location. -/
def arrived (location : Location) (names : List Text) : Location :=
  names.foldl stepped location

theorem arrived_append (location : Location) (front back : List Text) :
    arrived location (front ++ back) = arrived (arrived location front) back :=
  List.foldl_append

theorem arrived_names {names : List Text} (h : ['.', '.'] ∉ names) (base : Location) :
    arrived base names = base ++ names := by
  induction names generalizing base with
  | nil => rw [List.append_nil]; rfl
  | cons name names ih =>
      obtain ⟨hname, hnames⟩ := not_or.mp (mt List.mem_cons.mpr h)
      rw [arrived, List.foldl_cons, stepped, if_neg (Ne.symm hname), ← arrived, ih hnames,
        List.append_assoc]
      rfl

theorem arrived_upward (ups : Nat) (location : Location) :
    arrived location (List.replicate ups ['.', '.']) = location.take (location.length - ups) := by
  induction ups generalizing location with
  | zero => simp [arrived]
  | succ ups ih =>
      rw [List.replicate_succ, arrived, List.foldl_cons, stepped, if_pos rfl, ← arrived, ih,
        List.dropLast_eq_take, List.take_take, List.length_take]
      congr 1
      omega

theorem arrived_of_follow {disk : Disk} {location reached : Location} {front : List Text}
    (h : follow disk location front = .ok reached) :
    reached = arrived location (Path.counting front) := by
  induction front generalizing location with
  | nil =>
      cases h
      rfl
  | cons first front ih =>
      rw [← List.singleton_append, follow_append] at h
      obtain ⟨next, hnext, hrest⟩ := bind_eq_ok h
      cases hfirst : Path.isIdle first with
      | true =>
          rw [follow_idle hfirst, follow] at hnext
          split at hnext
          · cases hnext
            rw [Path.counting_of_idle hfirst, ih hrest]
          · cases hnext
      | false =>
          obtain rfl := follow_counting hfirst hnext
          rw [Path.counting_of_not_idle hfirst, ih hrest]
          rfl

theorem passedFrom_names {names : List Text} (h : ['.', '.'] ∉ names) (base : Location) :
    passedFrom base names = (names.inits.map (base ++ ·)).reverse := by
  induction names generalizing base with
  | nil => simp [passedFrom]
  | cons name names ih =>
      obtain ⟨hname, hnames⟩ := not_or.mp (mt List.mem_cons.mpr h)
      simp [passedFrom, stepped, Ne.symm hname, ih hnames, Function.comp_def]

theorem passedFrom_root {names : List Text} (h : ['.', '.'] ∉ names) :
    passedFrom [] names = upward names := by
  simp [passedFrom_names h, upward]

/-- Names that lead downwards are passed in front of those that come before. -/
theorem passedFrom_append_names {downs : List Text} (h : ['.', '.'] ∉ downs)
    (location : Location) (front : List Text) :
    passedFrom location (front ++ downs) =
      (downs.inits.map (arrived location front ++ ·)).reverse ++
        (passedFrom location front).tail := by
  induction front generalizing location with
  | nil => simp [passedFrom_names h, passedFrom, arrived]
  | cons first front ih =>
      have hne : passedFrom (stepped location first) front ≠ [] := by
        cases front <;> simp [passedFrom]
      rw [List.cons_append, passedFrom, passedFrom, ih, List.tail_append_of_ne_nil hne,
        List.append_assoc]
      rfl

theorem passedFrom_upward (ups : Nat) (location : Location) :
    passedFrom location (List.replicate ups ['.', '.']) =
      ((List.range (ups + 1)).map fun level =>
        location.take (location.length - level)).reverse := by
  induction ups generalizing location with
  | zero => simp [passedFrom]
  | succ ups ih =>
      have hrange : List.range (ups + 1 + 1) = 0 :: (List.range (ups + 1)).map Nat.succ :=
        List.range_succ_eq_map
      rw [List.replicate_succ, passedFrom, stepped, if_pos rfl, ih, hrange, List.map_cons,
        List.reverse_cons, Nat.sub_zero, List.take_length, List.map_map]
      congr 2
      apply List.map_congr_left
      intro level _
      rw [Function.comp_apply, List.dropLast_eq_take, List.take_take, List.length_take]
      congr 1
      omega

theorem mem_climbed {ups : Nat} {location directory : Location} :
    directory ∈ (passedFrom location (List.replicate ups ['.', '.'])).tail ↔
      ∃ level < ups, directory = location.take (location.length - level) := by
  rw [passedFrom_upward, List.tail_reverse, List.mem_reverse, ← List.map_dropLast,
    List.range_succ, List.dropLast_concat]
  simp [eq_comm]

theorem mem_tail_upward {directory above : Location} :
    above ∈ (upward directory).tail ↔ above <+: directory ∧ above ≠ directory := by
  rw [upward, List.tail_reverse, List.mem_reverse]
  induction directory using List.reverseRecOn with
  | nil => simp
  | append_singleton front last _ =>
      have hinits : (front ++ [last]).inits = front.inits ++ [front ++ [last]] := by
        simp [List.inits_append]
      rw [hinits, List.dropLast_concat, List.mem_inits, List.prefix_concat_iff]
      constructor
      · intro h
        refine ⟨.inr h, fun hsame => ?_⟩
        have hlength := h.length_le
        rw [hsame, List.length_append, List.length_singleton] at hlength
        omega
      · rintro ⟨hsame | h, hne⟩
        · exact absurd hsame hne
        · exact h

end Arriving

section Names

variable {point : Standpoint} {start : Text} {front : List Text} {name : Text}

theorem isAbsolute_rooted (h : Path.Rooted start front) :
    Path.isAbsolute (start ++ Path.ofSegments front) = Path.isAbsolute start := by
  obtain rfl | ⟨rfl, _⟩ | ⟨rfl, hfirst⟩ := h.start_cases
  · rfl
  · rfl
  · match front with
    | [] => rfl
    | first :: rest =>
        have hidle := hfirst first rfl
        have hplain := Path.isAbsolute_of_plain (h.plain first List.mem_cons_self)
        match first with
        | [] => cases hidle
        | c :: more =>
            cases rest with
            | nil =>
                rw [List.nil_append, Path.ofSegments, List.intercalate_singleton]
                exact hplain
            | cons second rest => exact hplain

/-- A path leads where its segments lead from its start. -/
theorem follow_rooted (h : Path.Rooted start front)
    (hdirectory : point.disk.isDirectoryAt (point.origin start) = true) :
    follow point.disk (point.origin (start ++ Path.ofSegments front))
        (Path.segments (start ++ Path.ofSegments front)) =
      follow point.disk (point.origin start) front := by
  rw [origin, isAbsolute_rooted h, ← origin]
  have hskip : ∀ segment rest, Path.isIdle segment = true →
      follow point.disk (point.origin start) (segment :: rest) =
        follow point.disk (point.origin start) rest := by
    intro segment rest hidle
    rw [follow_idle hidle, if_pos hdirectory]
  obtain rfl | ⟨rfl, hfirst⟩ | ⟨rfl, hfirst⟩ := h.start_cases
  · have hsegments : Path.segments (['/'] ++ Path.ofSegments front) =
        [] :: Path.segments (Path.ofSegments front) := Path.segments_slash [] _
    rw [hsegments, hskip _ _ rfl]
    cases front with
    | nil => exact hskip [] [] rfl
    | cons first rest => rw [Path.segments_ofSegments (List.cons_ne_nil _ _) h.plain]
  · cases front with
    | nil => exact hskip ['.'] [] rfl
    | cons first rest =>
        obtain rfl := hfirst first rfl
        rw [hskip [] rest rfl]
        cases rest with
        | nil => exact hskip ['.'] [] rfl
        | cons second rest =>
            have hsegments : Path.segments (['.'] ++ Path.ofSegments ([] :: second :: rest)) =
                ['.'] :: Path.segments (Path.ofSegments (second :: rest)) := by
              rw [Path.ofSegments_cons_cons]
              exact Path.segments_slash ['.'] _
            rw [hsegments, hskip _ _ rfl, Path.segments_ofSegments (List.cons_ne_nil _ _)
              fun segment hsegment => h.plain segment (List.mem_cons_of_mem _ hsegment)]
  · cases front with
    | nil => exact hskip [] [] rfl
    | cons first rest =>
        rw [List.nil_append, Path.segments_ofSegments (List.cons_ne_nil _ _) h.plain]

theorem origin_start (path : Text) : point.origin (Path.start path) = point.origin path := by
  have habsolute : Path.isAbsolute (Path.start path) = Path.isAbsolute path := by
    unfold Path.start
    split
    · rfl
    · rfl
    · rfl
    · rename_i hslash _ _
      have hrelative : Path.isAbsolute path = false := by
        rw [← Bool.not_eq_true, Path.isAbsolute, beq_iff_eq, List.head?_eq_some_iff]
        rintro ⟨rest, hrest⟩
        exact hslash rest hrest
      rw [hrelative]
      rfl
  rw [origin, habsolute, ← origin]

theorem origin_join (path : Text) (hname : '/' ∉ name) :
    point.origin (Path.join path name) = point.origin path := by
  have habsolute : Path.isAbsolute (Path.join path name) = Path.isAbsolute path := by
    cases path with
    | nil => exact Path.isAbsolute_of_plain hname
    | cons c path =>
        rw [Path.join, if_neg (by simp)]
        split <;> rfl
  rw [origin, habsolute, origin]

/-- The path of a name below a path leads where the path leads, and then to the name. -/
theorem follow_join (location : Location) (path : Text) (hname : '/' ∉ name) :
    follow point.disk location (Path.segments (Path.join path name)) =
      follow point.disk location (Path.segments path ++ [name]) := by
  have hsingle := Path.segments_of_plain hname
  rw [Path.join]
  split
  · rename_i hempty
    rw [List.isEmpty_iff.mp hempty, hsingle]
    exact (follow_idle_between rfl [] name []).symm
  split
  · rename_i hends
    obtain ⟨front, rfl⟩ : ∃ front, path = front ++ ['/'] := by
      rw [Text.endsWith, beq_iff_eq] at hends
      exact List.getLast?_eq_some_iff.mp hends
    have hpath : Path.segments (front ++ ['/']) = Path.segments front ++ [[]] :=
      Path.segments_slash front []
    rw [hpath, List.append_assoc, List.append_assoc, List.singleton_append, List.singleton_append,
      follow_idle_between rfl, Path.segments_slash, hsingle]
  · rw [Path.segments_slash, hsingle]

end Names

end Standpoint

end StagedMocks

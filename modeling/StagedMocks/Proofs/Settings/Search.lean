import StagedMocks.Proofs.Disk.Route

/-!
The search for the settings of a source file, and how it depends on the way in which the file's
place is spelled. It looks into the directories through which the path leads, so it finds the
nearest settings above the file if the path starts at the root or is a bare name. A path from the
current directory misses what stands above that directory, and one that leads upwards first also
finds what does not stand above the file at all.
-/
namespace StagedMocks

namespace Disk

/-- Names that a path can spell and that a system allows. -/
structure IsName (name : Text) : Prop where
  counts : Path.isIdle name = false
  notUpward : name ≠ ['.', '.']
  plain : '/' ∉ name
  noNul : '\x00' ∉ name
  short : name.byteLength ≤ Standpoint.nameLimit

/-- Whatever stands on the disk has a name. -/
def IsNamed (disk : Disk) : Prop :=
  ∀ location, (disk.find? location).isSome = true → ∀ name ∈ location, IsName name

instance (name : Text) : Decidable (IsName name) :=
  decidable_of_iff
    (Path.isIdle name = false ∧ name ≠ ['.', '.'] ∧ '/' ∉ name ∧ '\x00' ∉ name ∧
      name.byteLength ≤ Standpoint.nameLimit)
    ⟨fun ⟨hcounts, hup, hplain, hnul, hshort⟩ => ⟨hcounts, hup, hplain, hnul, hshort⟩,
      fun h => ⟨h.counts, h.notUpward, h.plain, h.noNul, h.short⟩⟩

theorem isNamed_of_entries {disk : Disk}
    (h : ∀ entry ∈ disk.entries, ∀ name ∈ entry.1, IsName name) : disk.IsNamed := by
  intro location hsome
  cases location with
  | nil => simp
  | cons name names =>
      obtain ⟨entry, hentry⟩ := exists_mem_entries (List.cons_ne_nil _ _) hsome
      exact h _ hentry

theorem IsNamed.rooted {disk : Disk} (hnamed : disk.IsNamed) {location : Location}
    (h : (disk.find? location).isSome = true) : Path.Rooted ['/'] location where
  plain name hname := (hnamed _ h name hname).plain
  start_cases := .inl rfl

theorem IsNamed.counting {disk : Disk} (hnamed : disk.IsNamed) {location : Location}
    (h : (disk.find? location).isSome = true) : Path.counting location = location := by
  rw [Path.counting, List.filter_eq_self]
  intro name hname
  rw [(hnamed _ h name hname).counts]
  rfl

theorem IsNamed.noNul {disk : Disk} (hnamed : disk.IsNamed) {location : Location}
    (h : (disk.find? location).isSome = true) : '\x00' ∉ Standpoint.pathOf location := by
  rw [Standpoint.pathOf, List.mem_cons, not_or]
  refine ⟨by decide, fun hmem => ?_⟩
  obtain hmem | ⟨name, hname, hmem⟩ := Path.mem_ofSegments hmem
  · cases hmem
  · exact (hnamed _ h name hname).noNul hmem

theorem follow_location {disk : Disk} (htree : disk.IsTree) (hnamed : disk.IsNamed)
    {location : Location} (h : (disk.find? location).isSome = true) :
    Standpoint.follow disk [] location = .ok location := by
  induction location using List.reverseRecOn with
  | nil => rfl
  | append_singleton front name ih =>
      have hdirectory : disk.isDirectoryAt front = true := by
        simpa using htree _ h
      have hname := hnamed _ h name (by simp)
      rw [Standpoint.follow_append, ih (isSome_of_isDirectoryAt hdirectory)]
      have hsome : (disk.find? (front ++ [name])).isNone = false := by
        rw [← Option.not_isSome, h]
        rfl
      simp [Except.bind, Standpoint.follow, hdirectory, hname.counts, hname.notUpward,
        Nat.not_lt.mpr hname.short, hsome]

end Disk

namespace Settings

/-- Whether a directory has a settings file. -/
def holds (disk : Disk) (directory : Location) : Bool :=
  match disk.find? (directory ++ [fileName]) with
  | some (.file _) => true
  | _ => false

/-- The settings file in the first of some directories that has one. -/
def nearest? (disk : Disk) (directories : List Location) : Option Location :=
  (directories.find? (holds disk)).map (· ++ [fileName])

theorem nearest?_cons (disk : Disk) (directory : Location) (rest : List Location) :
    nearest? disk (directory :: rest) =
      if holds disk directory then some (directory ++ [fileName]) else nearest? disk rest := by
  rw [nearest?, List.find?_cons]
  cases holds disk directory <;> rfl

theorem nearest?_eq_some_iff {disk : Disk} {directories : List Location} {found : Location} :
    nearest? disk directories = some found ↔
      ∃ directory, directories.find? (holds disk) = some directory ∧
        directory ++ [fileName] = found :=
  Option.map_eq_some_iff

theorem nearest?_eq_none_iff {disk : Disk} {directories : List Location} :
    nearest? disk directories = none ↔ ∀ directory ∈ directories, holds disk directory = false := by
  simp [nearest?]

/-- Two searches that start alike end alike if they find something on the way that they share, or
else find the same behind it. -/
theorem nearest?_append_eq_iff {disk : Disk} {shared others more : List Location} :
    nearest? disk (shared ++ others) = nearest? disk (shared ++ more) ↔
      (∃ directory ∈ shared, holds disk directory = true) ∨
        nearest? disk others = nearest? disk more := by
  simp only [nearest?, List.find?_append]
  cases hshared : shared.find? (holds disk) with
  | none =>
      have hnone : ¬ ∃ directory ∈ shared, holds disk directory = true := by
        simpa using hshared
      simp [hnone]
  | some directory =>
      have hholds : ∃ directory ∈ shared, holds disk directory = true :=
        ⟨directory, List.mem_of_find?_eq_some hshared, List.find?_some hshared⟩
      simp [hholds]

/-- Searches in directories that have no settings in common end alike only if both find none. -/
theorem nearest?_eq_iff_of_apart {disk : Disk} {others more : List Location}
    (hapart : ∀ directory ∈ others, directory ∈ more → holds disk directory = false) :
    nearest? disk others = nearest? disk more ↔
      ∀ directory ∈ others ++ more, holds disk directory = false := by
  rw [List.forall_mem_append, ← nearest?_eq_none_iff, ← nearest?_eq_none_iff]
  constructor
  · intro hsame
    cases hothers : nearest? disk others with
    | none => exact ⟨rfl, hothers ▸ hsame.symm⟩
    | some found =>
        obtain ⟨directory, hdirectory, rfl⟩ := nearest?_eq_some_iff.mp hothers
        obtain ⟨directory', hdirectory', hfound⟩ :=
          nearest?_eq_some_iff.mp (hsame.symm.trans hothers)
        obtain rfl := List.append_cancel_right hfound
        have hholds := List.find?_some hdirectory
        rw [hapart _ (List.mem_of_find?_eq_some hdirectory)
          (List.mem_of_find?_eq_some hdirectory')] at hholds
        cases hholds
  · rintro ⟨hothers, hmore⟩
    rw [hothers, hmore]

/-- A way that leads `ups` directories up from a location and then down looks into the directories
on its way down, and then into those through which it went up. -/
theorem nearest?_turning_iff {disk : Disk} {here : Location} {ups : Nat} {downs : List Text}
    (hhere : ['.', '.'] ∉ here) (hdowns : ['.', '.'] ∉ downs) :
    let base := here.take (here.length - ups)
    nearest? disk (Standpoint.passedFrom here (List.replicate ups ['.', '.'] ++ downs)) =
        nearest? disk (Standpoint.upward (base ++ downs)) ↔
      (∃ directory, base <+: directory ∧ directory <+: base ++ downs ∧
        holds disk directory = true) ∨
      ∀ directory, directory <+: here → holds disk directory = false := by
  intro base
  have hbase : ['.', '.'] ∉ base := fun hmem => hhere (List.mem_of_mem_take hmem)
  have hroot : Standpoint.arrived [] base = base := by
    rw [Standpoint.arrived_names hbase, List.nil_append]
  have hboth : ['.', '.'] ∉ base ++ downs := by
    simp [hbase, hdowns]
  have hshared : (∃ directory ∈ (downs.inits.map (base ++ ·)).reverse,
      holds disk directory = true) ↔ ∃ directory, base <+: directory ∧
        directory <+: base ++ downs ∧ holds disk directory = true := by
    simp only [List.mem_reverse, List.mem_map, List.mem_inits]
    constructor
    · rintro ⟨_, ⟨front, hfront, rfl⟩, hholds⟩
      exact ⟨_, List.prefix_append _ _, (List.prefix_append_right_inj _).mpr hfront, hholds⟩
    · rintro ⟨_, ⟨front, rfl⟩, hfront, hholds⟩
      exact ⟨_, ⟨front, (List.prefix_append_right_inj _).mp hfront, rfl⟩, hholds⟩
  rw [← Standpoint.passedFrom_root hboth, Standpoint.passedFrom_append_names hdowns,
    Standpoint.passedFrom_append_names hdowns, Standpoint.arrived_upward, hroot,
    nearest?_append_eq_iff, hshared]
  apply or_congr_right'
  intro hnone
  have hself : holds disk base = false := by
    rw [← Bool.not_eq_true]
    exact fun hholds => hnone ⟨base, List.prefix_rfl, List.prefix_append _ _, hholds⟩
  have hbelow : base <+: here := List.take_prefix _ _
  rw [Standpoint.passedFrom_root hbase, nearest?_eq_iff_of_apart]
  · constructor
    · intro hfree directory hdirectory
      by_cases hlevel : directory.length ≤ base.length
      · by_cases hsame : directory = base
        · rw [hsame, hself]
        · exact hfree _ (List.mem_append_right _ (Standpoint.mem_tail_upward.mpr
            ⟨List.prefix_of_prefix_length_le hdirectory hbelow hlevel, hsame⟩))
      · refine hfree _ (List.mem_append_left _ (Standpoint.mem_climbed.mpr
          ⟨here.length - directory.length, ?_, ?_⟩))
        · have hlength := hdirectory.length_le
          rw [List.length_take] at hlevel
          omega
        · rw [Nat.sub_sub_self hdirectory.length_le]
          exact List.prefix_iff_eq_take.mp hdirectory
    · intro hfree directory hdirectory
      obtain hclimbed | habove := List.mem_append.mp hdirectory
      · obtain ⟨level, _, rfl⟩ := Standpoint.mem_climbed.mp hclimbed
        exact hfree _ (List.take_prefix _ _)
      · exact hfree _ ((Standpoint.mem_tail_upward.mp habove).1.trans hbelow)
  · intro directory hclimbed habove
    obtain ⟨level, hlevel, rfl⟩ := Standpoint.mem_climbed.mp hclimbed
    obtain ⟨hshorter, hne⟩ := Standpoint.mem_tail_upward.mp habove
    -- What was climbed does not lie above the directory at which the climb ends.
    refine absurd (hshorter.eq_of_length_le ?_) hne
    rw [List.length_take, List.length_take]
    omega

/-- The location of the first settings file below paths. -/
def foundAmong (point : Standpoint) (paths : List Text) : Option Location :=
  ((paths.map (Path.join · fileName)).find? point.isFile).bind fun path =>
    (point.resolve path).toOption

/-- The location of the settings file that the search finds for a source file. -/
def found? (point : Standpoint) (filename : Text) : Option Location :=
  (search? point filename).bind fun path => (point.resolve path).toOption

theorem found?_eq (point : Standpoint) (filename : Text) :
    found? point filename = foundAmong point (Path.ancestors (searchStart point filename)) :=
  rfl

theorem slash_not_mem_fileName : '/' ∉ fileName := by
  decide

theorem searchStart_eq {point : Standpoint} {path above : Text}
    (hdirectory : point.isDirectory path = false) (hparent : Path.parent? path = some above) :
    searchStart point path = if above = [] then Standpoint.pathOf point.here else above := by
  rw [searchStart, hdirectory, hparent]
  cases above <;> rfl

section Looking

variable {point : Standpoint} {path : Text} {directory : Location}

theorem foundAmong_cons (htree : point.disk.IsTree)
    (hreach : Standpoint.follow point.disk (point.origin path) (Path.segments path) =
      .ok directory)
    (hcheck : Standpoint.checkPath (Path.join path fileName) = .ok ()) (rest : List Text) :
    foundAmong point (path :: rest) =
      if holds point.disk directory then some (directory ++ [fileName])
      else foundAmong point rest := by
  have hresolve : point.resolve (Path.join path fileName) =
      Standpoint.follow point.disk directory [fileName] := by
    rw [Standpoint.resolve, hcheck, Standpoint.origin_join path slash_not_mem_fileName,
      Standpoint.follow_join _ path slash_not_mem_fileName, Standpoint.follow_append, hreach]
    rfl
  have hidle : Path.isIdle fileName = false := by decide
  have hup : fileName ≠ ['.', '.'] := by decide
  have hlimit : ¬ Standpoint.nameLimit < fileName.byteLength := by decide
  cases hholds : holds point.disk directory with
  | true =>
      obtain ⟨bytes, hfile⟩ : ∃ bytes,
          point.disk.find? (directory ++ [fileName]) = some (.file bytes) := by
        rw [holds] at hholds
        split at hholds
        · exact ⟨_, ‹_›⟩
        · cases hholds
      have hdirectory : point.disk.isDirectoryAt directory = true := by
        simpa using htree (directory ++ [fileName]) (by rw [hfile]; rfl)
      have hlocation : point.resolve (Path.join path fileName) = .ok (directory ++ [fileName]) := by
        rw [hresolve]
        simp [Standpoint.follow, hdirectory, hidle, hup, hlimit, hfile]
      have hisFile : point.isFile (Path.join path fileName) = true :=
        Standpoint.isFile_iff.mpr ⟨_, hlocation, bytes, hfile⟩
      simp [foundAmong, hisFile, hlocation, Except.toOption]
  | false =>
      have hisFile : point.isFile (Path.join path fileName) = false := by
        rw [← Bool.not_eq_true]
        intro hisFile
        obtain ⟨location, hlocation, bytes, hfile⟩ := Standpoint.isFile_iff.mp hisFile
        rw [hresolve] at hlocation
        obtain rfl : location = directory ++ [fileName] := by
          rw [Standpoint.follow_counting hidle hlocation, Standpoint.stepped, if_neg hup]
        simp [holds, hfile] at hholds
      simp [foundAmong, hisFile]

/-- Looking up from a path, the search finds the first settings file in the directories through
which the path leads. -/
theorem foundAmong_above (htree : point.disk.IsTree) {start : Text}
    (hdirectory : point.disk.isDirectoryAt (point.origin start) = true) {backs : List Text}
    (hrooted : Path.Rooted start backs.reverse)
    (hfollow : Standpoint.follow point.disk (point.origin start) backs.reverse = .ok directory)
    (hcheck : ∀ front, front <+: backs.reverse →
      Standpoint.checkPath (Path.join (start ++ Path.ofSegments front) fileName) = .ok ()) :
    foundAmong point ((start ++ Path.ofSegments (backs.dropWhile Path.isIdle).reverse) ::
        Path.above start backs) =
      nearest? point.disk
        (Standpoint.passedFrom (point.origin start) (Path.counting backs.reverse)) := by
  induction backs generalizing directory with
  | nil =>
      rw [List.reverse_nil] at hrooted
      have hstart := Standpoint.follow_rooted hrooted hdirectory
      rw [List.dropWhile_nil, List.reverse_nil, Path.counting, List.filter_nil,
        Standpoint.passedFrom, nearest?_cons,
        foundAmong_cons htree hstart (hcheck [] List.prefix_rfl), Path.above]
      -- Behind a leading dot the empty path follows, which leads to the same directory.
      split
      · rfl
      split
      · rename_i hholds hdot
        subst hdot
        have hempty : Standpoint.follow point.disk (point.origin []) (Path.segments []) =
            .ok (point.origin []) := Standpoint.follow_rooted Path.rooted_nil hdirectory
        rw [foundAmong_cons htree hempty rfl]
        exact if_neg hholds
      · rfl
  | cons segment backs ih =>
      rw [List.reverse_cons] at hrooted hfollow hcheck ⊢
      obtain ⟨between, hbetween, hlast⟩ := Standpoint.exists_follow_append hfollow
      have hrest := ih (hrooted.of_prefix (List.prefix_append _ _)) hbetween
        fun front hfront => hcheck front (hfront.trans (List.prefix_append _ _))
      cases hidle : Path.isIdle segment with
      | true =>
          rw [List.dropWhile_cons_of_pos hidle, Path.above_idle hidle, hrest]
          simp [Path.counting, hidle]
      | false =>
          obtain rfl := Standpoint.follow_counting hidle hlast
          have hreach := Standpoint.follow_rooted hrooted hdirectory
          rw [List.dropWhile_cons_of_neg (by simp [hidle]), List.reverse_cons, Path.above,
            if_neg (by simp [hidle]), Standpoint.passedFrom_append hidle hbetween, nearest?_cons,
            foundAmong_cons htree (hreach.trans hfollow) (hcheck _ List.prefix_rfl), hrest]

end Looking

/-- A path that spells the place of a source file in a tree. -/
structure Spells (point : Standpoint) (path : Text) (directory : Location) (name : Text) :
    Prop where
  isTree : point.disk.IsTree
  isNamed : point.disk.IsNamed
  leads : point.resolve path = .ok (directory ++ [name])
  isFile : ∃ bytes, point.disk.find? (directory ++ [name]) = some (.file bytes)
  /-- The paths of settings files are not too long for the system. -/
  fits : Text.byteLength (path ++ '/' :: fileName) < Standpoint.pathLimit
  fits_absolute :
    Text.byteLength (Standpoint.pathOf (directory ++ [name]) ++ '/' :: fileName) <
      Standpoint.pathLimit

namespace Spells

variable {point : Standpoint} {path : Text} {directory : Location} {name : Text}

theorem checkPath_eq (h : Spells point path directory name) :
    Standpoint.checkPath path = .ok () := by
  obtain ⟨_, hcheck, _⟩ := bind_eq_ok h.leads
  exact hcheck

theorem checkPath_join (h : Spells point path directory name) {shorter : Text}
    (hpart : shorter <+: path) :
    Standpoint.checkPath (Path.join shorter fileName) = .ok () := by
  have hnul : '\x00' ∉ path := by
    intro hmem
    have hcheck := h.checkPath_eq
    simp [Standpoint.checkPath, hmem] at hcheck
  have hshorter : '\x00' ∉ shorter := fun hmem => hnul (hpart.subset hmem)
  have hname : '\x00' ∉ fileName := by decide
  obtain ⟨rest, hrest⟩ := hpart
  have hlength : shorter.byteLength ≤ path.byteLength := by
    rw [← hrest, Text.byteLength_append]
    exact Nat.le_add_right _ _
  have hfits := h.fits
  rw [Text.byteLength_append] at hfits
  have hslash : Text.byteLength ('/' :: fileName) = 1 + fileName.byteLength := rfl
  have hne : fileName ≠ [] := by decide
  obtain hjoin | hjoin := Path.join_cases shorter fileName
  · have hlimit : ¬ Standpoint.pathLimit ≤ Text.byteLength (shorter ++ fileName) := by
      rw [Text.byteLength_append]
      omega
    simp [Standpoint.checkPath, hjoin, hshorter, hname, hne, hlimit]
  · have hlimit : ¬ Standpoint.pathLimit ≤ Text.byteLength (shorter ++ '/' :: fileName) := by
      rw [Text.byteLength_append]
      omega
    simp [Standpoint.checkPath, hjoin, hshorter, hname, hlimit]

theorem isDirectory_eq (h : Spells point path directory name) :
    point.isDirectory path = false := by
  obtain ⟨bytes, hbytes⟩ := h.isFile
  simp only [Standpoint.isDirectory, Standpoint.entry?, h.leads, hbytes]

theorem not_isDirectoryAt (h : Spells point path directory name) :
    point.disk.isDirectoryAt (directory ++ [name]) = false := by
  obtain ⟨bytes, hbytes⟩ := h.isFile
  simp only [Disk.isDirectoryAt, hbytes]

/-- The last segment of a path to a file is the file's name, and those before it lead to the
file's directory. -/
theorem exists_backs (h : Spells point path directory name) :
    ∃ backs, Path.backwards path = name :: backs ∧
      path = Path.start path ++ Path.ofSegments (backs.reverse ++ [name]) ∧
      Path.isIdle name = false ∧ Path.Rooted (Path.start path) (backs.reverse ++ [name]) ∧
      point.disk.isDirectoryAt (point.origin path) = true ∧
      Standpoint.follow point.disk (point.origin path) backs.reverse = .ok directory := by
  have hne : path ≠ [] := by
    rintro rfl
    cases h.checkPath_eq
  have hrooted := Path.start_rooted hne
  obtain ⟨_, _, hfollow⟩ := bind_eq_ok h.leads
  obtain ⟨segment, backs, hbacks⟩ : ∃ segment backs, Path.backwards path = segment :: backs := by
    apply List.exists_cons_of_ne_nil
    simp [Path.backwards, Path.segments, Text.splitAt]
  have hspelled := Path.eq_start_append path
  rw [hbacks, List.reverse_cons] at hrooted hspelled
  have hdirectory : point.disk.isDirectoryAt (point.origin path) = true :=
    Standpoint.isDirectoryAt_of_follow (List.splitOnP_ne_nil _ _) hfollow
  have hstart : point.disk.isDirectoryAt (point.origin (Path.start path)) = true := by
    rw [Standpoint.origin_start, hdirectory]
  rw [hspelled, Standpoint.follow_rooted hrooted hstart, Standpoint.origin_start] at hfollow
  obtain ⟨between, hbetween, hlast⟩ := Standpoint.exists_follow_append hfollow
  have hfile := h.not_isDirectoryAt
  obtain ⟨hreached, ⟨_, hstay⟩ | ⟨_, hup⟩ | ⟨hidle, _, _, hdown⟩⟩ :=
    Standpoint.follow_singleton_cases hlast
  · rw [hstay, hreached] at hfile
    cases hfile
  · have habove := h.isTree between (Disk.isSome_of_isDirectoryAt hreached)
    rw [hup, habove] at hfile
    cases hfile
  · obtain ⟨rfl, hname⟩ := List.append_inj' hdown rfl
    obtain rfl : name = segment := by simpa using hname
    exact ⟨backs, hbacks, hspelled, hidle, hrooted, hdirectory, hbetween⟩

/-- The search looks into the directories through which a path leads. -/
theorem found?_passed (h : Spells point path directory name) (hslash : '/' ∈ path) :
    found? point path = nearest? point.disk (point.passed path) := by
  obtain ⟨backs, hbacks, hspelled, hidle, hrooted, hdirectory, hfollow⟩ := h.exists_backs
  rw [← Standpoint.origin_start] at hdirectory hfollow
  have hshort := hrooted.of_prefix (List.prefix_append _ [name])
  have hlooked := foundAmong_above h.isTree hdirectory hshort hfollow fun front hfront =>
    h.checkPath_join (by
      conv_rhs => rw [hspelled]
      exact (List.prefix_append_right_inj _).mpr
        (Path.ofSegments_prefix (hfront.trans (List.prefix_append _ _))))
  obtain ⟨_, _, hbare⟩ | ⟨hne, _⟩ := hrooted.bare_cases hidle
  · rw [← hspelled] at hbare
    exact absurd hslash hbare
  · have hparent : Path.parent? path =
        some (Path.start path ++ Path.ofSegments (backs.dropWhile Path.isIdle).reverse) := by
      rw [Path.parent?, hbacks, Path.above, if_neg (by simp [hidle])]
      rfl
    have habove := (hshort.of_prefix (List.reverse_prefix.mpr
      (List.dropWhile_suffix _))).above_eq hne
    rw [List.reverse_reverse, Path.above_dropWhile] at habove
    have hstart : searchStart point path =
        Path.start path ++ Path.ofSegments (backs.dropWhile Path.isIdle).reverse := by
      rw [searchStart_eq h.isDirectory_eq hparent, if_neg hne]
    have hway := hrooted.way_eq hidle
    rw [← hspelled] at hway
    rw [found?_eq, hstart, Path.ancestors, habove, hlooked, Standpoint.passed, hway,
      Standpoint.origin_start]

theorem isSome (h : Spells point path directory name) :
    (point.disk.find? (directory ++ [name])).isSome = true := by
  obtain ⟨bytes, hbytes⟩ := h.isFile
  rw [hbytes]
  rfl

theorem isDirectoryAt (h : Spells point path directory name) :
    point.disk.isDirectoryAt directory = true := by
  simpa using h.isTree _ h.isSome

/-- The absolute path of a file spells its place, too. -/
theorem absolute (h : Spells point path directory name) :
    Spells point (Standpoint.pathOf (directory ++ [name])) directory name where
  isTree := h.isTree
  isNamed := h.isNamed
  leads := by
    have hnul := h.isNamed.noNul h.isSome
    have hlimit : ¬ Standpoint.pathLimit ≤
        (Standpoint.pathOf (directory ++ [name])).byteLength := by
      have hfits := h.fits_absolute
      rw [Text.byteLength_append] at hfits
      omega
    have hcheck : Standpoint.checkPath (Standpoint.pathOf (directory ++ [name])) = .ok () := by
      have hne : Standpoint.pathOf (directory ++ [name]) ≠ [] := List.cons_ne_nil _ _
      simp [Standpoint.checkPath, hnul, hlimit, hne]
    have hfollow : Standpoint.follow point.disk
        (point.origin (Standpoint.pathOf (directory ++ [name])))
        (Path.segments (Standpoint.pathOf (directory ++ [name]))) = .ok (directory ++ [name]) :=
      (Standpoint.follow_rooted (h.isNamed.rooted h.isSome) rfl).trans
        (Disk.follow_location h.isTree h.isNamed h.isSome)
    rw [Standpoint.resolve, hcheck, hfollow]
    rfl
  isFile := h.isFile
  fits := h.fits_absolute
  fits_absolute := h.fits_absolute

theorem passed_absolute (h : Spells point path directory name) :
    point.passed (Standpoint.pathOf (directory ++ [name])) = Standpoint.upward directory := by
  have hsome := Disk.isSome_of_isDirectoryAt h.isDirectoryAt
  have hidle := (h.isNamed _ h.isSome name (by simp)).counts
  have hway : Path.way (Standpoint.pathOf (directory ++ [name])) = directory :=
    ((h.isNamed.rooted h.isSome).way_eq hidle).trans (h.isNamed.counting hsome)
  rw [Standpoint.passed, hway]
  exact Standpoint.passedFrom_root fun hmem => (h.isNamed _ hsome _ hmem).notUpward rfl

theorem found?_absolute (h : Spells point path directory name) :
    found? point (Standpoint.pathOf (directory ++ [name])) =
      nearest? point.disk (Standpoint.upward directory) := by
  rw [h.absolute.found?_passed List.mem_cons_self, h.passed_absolute]

theorem searchStart_absolute (h : Spells point path directory name) :
    searchStart point (Standpoint.pathOf (directory ++ [name])) =
      Standpoint.pathOf directory := by
  have hnames := h.isNamed _ h.isSome
  have hidle := (hnames name (by simp)).counts
  have hbacks : Path.backwards (Standpoint.pathOf (directory ++ [name])) =
      name :: directory.reverse := by
    have hplain := Path.segments_ofSegments (by simp) (h.isNamed.rooted h.isSome).plain
    have hsplit : Path.backwards (Standpoint.pathOf (directory ++ [name])) =
        (Path.segments (Path.ofSegments (directory ++ [name]))).reverse := rfl
    rw [hsplit, hplain, List.reverse_append]
    rfl
  have hcounting : directory.reverse.dropWhile Path.isIdle = directory.reverse := by
    cases hlast : directory.reverse with
    | nil => rfl
    | cons last front =>
        have hmem : last ∈ directory := by
          rw [← List.mem_reverse, hlast]
          exact List.mem_cons_self
        rw [List.dropWhile_cons_of_neg]
        simp [(hnames last (List.mem_append_left _ hmem)).counts]
  have hparent : Path.parent? (Standpoint.pathOf (directory ++ [name])) =
      some (Standpoint.pathOf directory) := by
    rw [Path.parent?, hbacks, Path.above, if_neg (by simp [hidle]), hcounting,
      List.reverse_reverse]
    rfl
  have hne : Standpoint.pathOf directory ≠ [] := List.cons_ne_nil _ _
  rw [searchStart_eq h.absolute.isDirectory_eq hparent, if_neg hne]

/-- A bare name is that of a file in the current directory, from which the search goes up to the
root. -/
theorem found?_bare (h : Spells point path directory name) (hslash : '/' ∉ path) :
    found? point path = nearest? point.disk (Standpoint.upward directory) := by
  obtain ⟨backs, hbacks, hspelled, hidle, hrooted, _, hfollow⟩ := h.exists_backs
  obtain ⟨hstart, rfl, _⟩ | ⟨_, hmem⟩ := hrooted.bare_cases hidle
  · have hparent : Path.parent? path = some [] := by
      rw [Path.parent?, hbacks, Path.above, if_neg (by simp [hidle]), hstart]
      rfl
    have hhere : point.here = directory := by
      rw [← Standpoint.origin_start, hstart] at hfollow
      cases hfollow
      rfl
    rw [found?_eq, searchStart_eq h.isDirectory_eq hparent, if_pos rfl, hhere,
      ← h.searchStart_absolute]
    exact h.found?_absolute
  · rw [← hspelled] at hmem
    exact absurd hmem hslash

/-- A path goes from its origin to the directory of the file that it leads to. -/
theorem arrived_way (h : Spells point path directory name) :
    point.disk.isDirectoryAt (point.origin path) = true ∧
      Standpoint.arrived (point.origin path) (Path.way path) = directory := by
  obtain ⟨backs, _, hspelled, hidle, hrooted, hdirectory, hfollow⟩ := h.exists_backs
  have hway := hrooted.way_eq hidle
  rw [← hspelled] at hway
  rw [hway]
  exact ⟨hdirectory, (Standpoint.arrived_of_follow hfollow).symm⟩

end Spells

variable {point : Standpoint} {path : Text} {directory : Location} {name : Text}

/-- From the absolute path of a file and from a bare name, the search finds the nearest settings
above the file. From any other path it finds the nearest among those directories that the path
leads through: if the path goes some directories up and then down, these are the right settings
exactly if there are some on its way down, or none on the whole way from the root to its origin. -/
theorem found?_spelling (h : Spells point path directory name) :
    found? point (Standpoint.pathOf (directory ++ [name])) =
        nearest? point.disk (Standpoint.upward directory) ∧
      ('/' ∉ path → found? point path = nearest? point.disk (Standpoint.upward directory)) ∧
      ('/' ∈ path → found? point path = nearest? point.disk (point.passed path) ∧
        ∀ ups downs, Path.way path = List.replicate ups ['.', '.'] ++ downs →
          ['.', '.'] ∉ downs →
          (found? point path = found? point (Standpoint.pathOf (directory ++ [name])) ↔
            (∃ above,
              (point.origin path).take ((point.origin path).length - ups) <+: above ∧
                above <+: directory ∧ holds point.disk above = true) ∨
            ∀ above, above <+: point.origin path → holds point.disk above = false)) := by
  refine ⟨h.found?_absolute, h.found?_bare, fun hslash => ⟨h.found?_passed hslash, ?_⟩⟩
  intro ups downs hway hdowns
  obtain ⟨horigin, harrived⟩ := h.arrived_way
  have hnames : ['.', '.'] ∉ point.origin path := fun hmem =>
    (h.isNamed _ (Disk.isSome_of_isDirectoryAt horigin) _ hmem).notUpward rfl
  rw [hway, Standpoint.arrived_append, Standpoint.arrived_names hdowns,
    Standpoint.arrived_upward] at harrived
  rw [h.found?_passed hslash, h.found?_absolute, Standpoint.passed, hway, ← harrived]
  exact nearest?_turning_iff hnames hdowns

/-- A source file below the current directory, whose settings stand above that directory. -/
def nestedSource : Standpoint :=
  ⟨⟨[(["t".toList], .directory), (["t".toList, fileName], .file "".toUTF8),
    (["t".toList, "sub".toList], .directory),
    (["t".toList, "sub".toList, "Tests".toList], .directory),
    (["t".toList, "sub".toList, "Tests".toList, "a.swift".toList], .file "".toUTF8)]⟩,
    ["t".toList, "sub".toList]⟩

theorem found?_spelling_nestedSource :
    Spells nestedSource "Tests/a.swift".toList ["t".toList, "sub".toList, "Tests".toList]
        "a.swift".toList ∧
      found? nestedSource "/t/sub/Tests/a.swift".toList = some ["t".toList, fileName] ∧
      found? nestedSource "Tests/a.swift".toList = none := by
  have h : Spells nestedSource "Tests/a.swift".toList
      ["t".toList, "sub".toList, "Tests".toList] "a.swift".toList :=
    ⟨Disk.isTree_of_entries (by decide), Disk.isNamed_of_entries (by decide +kernel), rfl,
      ⟨_, rfl⟩, by decide +kernel, by decide +kernel⟩
  obtain ⟨habsolute, -, hslash⟩ := found?_spelling h
  obtain ⟨hpassed, -⟩ := hslash (by decide)
  refine ⟨h, habsolute.trans ?_, hpassed.trans ?_⟩
  · decide +kernel
  · decide +kernel

/-- A source file beside the current directory, which has settings of its own. -/
def siblingSource : Standpoint :=
  ⟨⟨[(["t".toList], .directory), (["t".toList, "a".toList], .directory),
    (["t".toList, "a".toList, fileName], .file "".toUTF8),
    (["t".toList, "b".toList], .directory),
    (["t".toList, "b".toList, "x.swift".toList], .file "".toUTF8)]⟩,
    ["t".toList, "a".toList]⟩

theorem found?_differs_siblingSource :
    siblingSource.disk.IsTree ∧
      siblingSource.resolve "../b/x.swift".toList =
        .ok ["t".toList, "b".toList, "x.swift".toList] ∧
      siblingSource.resolve "/t/b/x.swift".toList =
        .ok ["t".toList, "b".toList, "x.swift".toList] ∧
      siblingSource.isFile "../b/x.swift".toList = true ∧
      found? siblingSource "../b/x.swift".toList = some ["t".toList, "a".toList, fileName] ∧
      found? siblingSource "/t/b/x.swift".toList = none :=
  ⟨Disk.isTree_of_entries (by decide), rfl, rfl, by decide +kernel, by decide +kernel,
    by decide +kernel⟩

end Settings

end StagedMocks

import StagedMocks.Proofs.ByteOrder
import StagedMocks.Proofs.Disk.Ancestry
import StagedMocks.Proofs.Settings.Search

/-!
The sources for which a directory stands. They are listed in byte order, each once, and are just the
files at any depth that have the extension of sources. What a directory is called does not matter,
but one whose path is too long for the system is passed over with all that is in it.
-/
namespace StagedMocks

namespace Disk

variable {disk : Disk} {location : Location}

/-- Each entry is listed once. -/
def IsUnique (disk : Disk) : Prop :=
  (disk.entries.map Prod.fst).Nodup

instance (disk : Disk) : Decidable disk.IsUnique :=
  inferInstanceAs (Decidable (List.Nodup _))

theorem IsUnique.mem_entries_iff (hunique : disk.IsUnique) (hne : location ≠ []) {entry : Entry} :
    (location, entry) ∈ disk.entries ↔ disk.find? location = some entry := by
  rw [find?, if_neg (by simpa using hne), List.lookup_eq_some_iff]
  constructor
  · intro hmem
    obtain ⟨before, behind, hsplit⟩ := List.append_of_mem hmem
    refine ⟨before, behind, hsplit, fun other hother => ?_⟩
    rw [IsUnique, hsplit, List.map_append, List.nodup_append] at hunique
    have hapart := hunique.2.2 _ (List.mem_map_of_mem (f := Prod.fst) hother) location
      (List.mem_map_of_mem (f := Prod.fst) List.mem_cons_self)
    simpa using hapart.symm
  · rintro ⟨before, behind, hsplit, _⟩
    simp [hsplit]

theorem below_eq (disk : Disk) (location : Location) :
    disk.below location = disk.entries.filterMap fun entry =>
      (location.isPrefixOf? entry.1).bind fun names =>
        if names = [] then none else some (names, entry.2) := by
  rw [below]
  congr 1
  funext ⟨other, entry⟩
  cases hsplit : location.isPrefixOf? other with
  | none =>
      simp only [hsplit]
      rfl
  | some names =>
      simp only [hsplit]
      cases names <;> rfl

theorem below_step_iff {entry found : Location × Entry} :
    ((location.isPrefixOf? entry.1).bind fun names =>
      if names = [] then none else some (names, entry.2)) = some found ↔
        found.1 ≠ [] ∧ entry = (location ++ found.1, found.2) := by
  obtain ⟨other, entry⟩ := entry
  obtain ⟨names, found⟩ := found
  simp only [Option.bind_eq_some_iff, List.isPrefixOf?_eq_some_iff_append_eq]
  constructor
  · rintro ⟨rest, rfl, hrest⟩
    split at hrest
    · cases hrest
    · rename_i hne
      cases hrest
      exact ⟨hne, rfl⟩
  · rintro ⟨hne, hsame⟩
    cases hsame
    exact ⟨names, rfl, if_neg hne⟩

/-- What is listed below a location is what is found there. -/
theorem IsUnique.mem_below_iff (hunique : disk.IsUnique) {names : List Text} {entry : Entry} :
    (names, entry) ∈ disk.below location ↔
      names ≠ [] ∧ disk.find? (location ++ names) = some entry := by
  simp only [below_eq, List.mem_filterMap, below_step_iff]
  constructor
  · rintro ⟨_, hmem, hne, rfl⟩
    exact ⟨hne, (hunique.mem_entries_iff (List.append_ne_nil_of_right_ne_nil _ hne)).mp hmem⟩
  · rintro ⟨hne, hfind⟩
    exact ⟨_, (hunique.mem_entries_iff (List.append_ne_nil_of_right_ne_nil _ hne)).mpr hfind,
      hne, rfl⟩

theorem IsUnique.pairwise_below (hunique : disk.IsUnique) (location : Location) :
    (disk.below location).Pairwise fun a b => a.1 ≠ b.1 := by
  have hentries : disk.entries.Pairwise fun a b => a.1 ≠ b.1 := List.pairwise_map.mp hunique
  rw [below_eq]
  refine hentries.filterMap _ ?_
  intro first second hapart found hfound other hother hsame
  obtain ⟨-, rfl⟩ := below_step_iff.mp hfound
  obtain ⟨-, rfl⟩ := below_step_iff.mp hother
  exact hapart (congrArg (location ++ ·) hsame)

end Disk

namespace Path

/-- The part of a name behind its last dot, in front of which something stands. -/
def HasExtension (name extension : Text) : Prop :=
  '.' ∉ extension ∧ ∃ stem : Text, stem ≠ [] ∧ name = stem ++ '.' :: extension

end Path

namespace Expansion

theorem isSourceName_iff {name : Text} :
    isSourceName name = true ↔ Path.HasExtension name "swift".toList := by
  rw [isSourceName, Bool.and_eq_true, List.isSuffixOf_iff_suffix, decide_eq_true_iff]
  constructor
  · rintro ⟨⟨stem, rfl⟩, hlength⟩
    refine ⟨by decide, stem, ?_, rfl⟩
    rintro rfl
    exact absurd hlength (Nat.lt_irrefl _)
  · rintro ⟨-, stem, hne, rfl⟩
    refine ⟨⟨stem, rfl⟩, ?_⟩
    have hpos := List.length_pos_iff.mpr hne
    have hending : sourceEnding.length = ('.' :: "swift".toList).length := rfl
    rw [List.length_append, hending]
    omega

variable {point : Standpoint} {argument : Text} {directory : Location}

/-- A file in a directory that the system lists is a source if it has the extension. -/
structure IsSource (argument : Text) (front : List Text) (name : Text) (entry : Entry) : Prop where
  isFile : ∃ bytes, entry = .file bytes
  hasExtension : Path.HasExtension name "swift".toList
  isListed : (front.foldl Path.join argument).byteLength < Standpoint.pathLimit

theorem source?_concat_iff {front : List Text} {name path : Text} {entry : Entry} :
    source? argument (front ++ [name]) entry = some path ↔
      IsSource argument front name entry ∧
        Path.join argument (Path.ofSegments (front ++ [name])) = path := by
  cases entry with
  | directory =>
      constructor
      · intro h
        cases h
      · rintro ⟨⟨⟨bytes, hbytes⟩, -, -⟩, -⟩
        cases hbytes
  | file bytes =>
      have hsource : (((front ++ [name]).getLast?.any isSourceName &&
          isListable argument (front ++ [name]).dropLast) = true ↔
            IsSource argument front name (.file bytes)) := by
        rw [Bool.and_eq_true, List.getLast?_concat, Option.any_some, isSourceName_iff,
          List.dropLast_concat, isListable, decide_eq_true_iff]
        exact ⟨fun ⟨hname, hfits⟩ => ⟨⟨bytes, rfl⟩, hname, hfits⟩,
          fun h => ⟨h.hasExtension, h.isListed⟩⟩
      rw [source?]
      split
      · rename_i hcondition
        simp [hsource.mp hcondition]
      · rename_i hcondition
        simp [mt hsource.mpr hcondition]

theorem below_of_resolve (hresolve : point.resolve argument = .ok directory)
    (hdirectory : point.disk.isDirectoryAt directory = true) :
    point.below argument = point.disk.below directory := by
  simp only [Standpoint.below, hresolve, if_pos hdirectory]

theorem join_source_injective (hnamed : point.disk.IsNamed)
    {front front' : List Text} {name name' : Text} {entry entry' : Entry}
    (hfind : point.disk.find? (directory ++ (front ++ [name])) = some entry)
    (hother : point.disk.find? (directory ++ (front' ++ [name'])) = some entry')
    (h : Path.join argument (Path.ofSegments (front ++ [name])) =
      Path.join argument (Path.ofSegments (front' ++ [name']))) :
    front ++ [name] = front' ++ [name'] := by
  have hplain : ∀ {names : List Text} {entry : Entry},
      point.disk.find? (directory ++ names) = some entry → ∀ name ∈ names, '/' ∉ name := by
    intro names entry hfind name hname
    refine (hnamed (directory ++ names) ?_ name (List.mem_append_right _ hname)).plain
    rw [hfind]
    rfl
  exact Path.ofSegments_injective (by simp) (by simp) (hplain hfind) (hplain hother)
    (Path.join_injective argument h)

section Unique

variable (hunique : point.disk.IsUnique)
  (hbelow : point.below argument = point.disk.below directory)

include hunique hbelow

theorem mem_sourcesBelow {path : Text} :
    path ∈ sourcesBelow point argument ↔ ∃ front name entry,
      point.disk.find? (directory ++ (front ++ [name])) = some entry ∧
        IsSource argument front name entry ∧
        Path.join argument (Path.ofSegments (front ++ [name])) = path := by
  rw [sourcesBelow, mem_sorted, hbelow, List.mem_filterMap]
  constructor
  · rintro ⟨⟨names, entry⟩, hmem, hsource⟩
    obtain ⟨hne, hfind⟩ := hunique.mem_below_iff.mp hmem
    obtain ⟨front, name, rfl⟩ : ∃ front name, names = front ++ [name] :=
      ⟨_, _, (List.dropLast_concat_getLast hne).symm⟩
    exact ⟨front, name, entry, hfind, source?_concat_iff.mp hsource⟩
  · rintro ⟨front, name, entry, hfind, hsource⟩
    exact ⟨⟨_, entry⟩, hunique.mem_below_iff.mpr ⟨by simp, hfind⟩, source?_concat_iff.mpr hsource⟩

/-- Different entries are listed at different paths. -/
theorem nodup_sources (hnamed : point.disk.IsNamed) :
    ((point.below argument).filterMap fun (names, entry) =>
      source? argument names entry).Nodup := by
  rw [hbelow, List.Nodup, List.pairwise_filterMap]
  refine (hunique.pairwise_below directory).imp_of_mem ?_
  rintro ⟨names, entry⟩ ⟨others, other⟩ hmem hother hapart path hpath path' hpath' rfl
  obtain ⟨hne, hfind⟩ := hunique.mem_below_iff.mp hmem
  obtain ⟨hothers, hfound⟩ := hunique.mem_below_iff.mp hother
  obtain ⟨front, name, rfl⟩ : ∃ front name, names = front ++ [name] :=
    ⟨_, _, (List.dropLast_concat_getLast hne).symm⟩
  obtain ⟨front', name', rfl⟩ : ∃ front name, others = front ++ [name] :=
    ⟨_, _, (List.dropLast_concat_getLast hothers).symm⟩
  have hjoin := (source?_concat_iff.mp hpath).2.trans (source?_concat_iff.mp hpath').2.symm
  exact hapart (join_source_injective hnamed hfind hfound hjoin)

/-- An entry is listed exactly if it is a source. -/
theorem join_mem_sourcesBelow_iff (hnamed : point.disk.IsNamed) {front : List Text} {name : Text}
    {entry : Entry} (hfind : point.disk.find? (directory ++ (front ++ [name])) = some entry) :
    Path.join argument (Path.ofSegments (front ++ [name])) ∈ sourcesBelow point argument ↔
      IsSource argument front name entry := by
  rw [mem_sourcesBelow hunique hbelow]
  constructor
  · rintro ⟨front', name', entry', hfind', hsource, hjoin⟩
    obtain ⟨rfl, hlast⟩ := List.append_inj' (join_source_injective hnamed hfind' hfind hjoin) rfl
    cases hlast
    rw [hfind', Option.some.injEq] at hfind
    exact hfind ▸ hsource
  · exact fun hsource => ⟨front, name, entry, hfind, hsource, rfl⟩

end Unique

/-- A directory with a file that has no stem, and a directory with a file below it that both have
the extension of sources. -/
def lookalikes : Standpoint :=
  ⟨⟨[(["d".toList], .directory), (["d".toList, ".swift".toList], .file "".toUTF8),
    (["d".toList, "x.swift".toList], .directory),
    (["d".toList, "x.swift".toList, "y.z.swift".toList], .file "".toUTF8),
    (["d".toList, "x-y.swift".toList], .file "".toUTF8)]⟩, []⟩

/-- A source two directories deep. -/
def deepSource : Standpoint :=
  ⟨⟨[(["d".toList], .directory), (["d".toList, "Fixtures".toList], .directory),
    (["d".toList, "Fixtures".toList, "x.swift".toList], .file "".toUTF8)]⟩, []⟩

/-- The path of a directory with so many slashes that the system just takes it. -/
def stretchedPath : Text :=
  '.' :: '/' :: (List.replicate 4088 '/' ++ "d".toList)

theorem byteLength_stretchedPath : stretchedPath.byteLength = 4091 := by
  rw [stretchedPath, Text.byteLength, Text.byteLength, Text.byteLength_append,
    Text.byteLength_replicate]
  decide

theorem resolve_stretchedPath : deepSource.resolve stretchedPath = .ok ["d".toList] := by
  have hsegments : Path.segments stretchedPath =
      (['.'] :: List.replicate 4088 []) ++ ["d".toList] := by
    have hsplit : Path.segments stretchedPath =
        ['.'] :: Path.segments (List.replicate 4088 '/' ++ "d".toList) :=
      Path.segments_slash ['.'] _
    rw [hsplit, Path.segments_slashes]
    rfl
  have hcounting : Path.counting (['.'] :: List.replicate 4088 []) = [] := by
    rw [Path.counting_of_idle rfl, Path.counting, List.filter_replicate]
    rfl
  have hnul : '\x00' ∉ stretchedPath := Path.nul_not_mem fun segment hsegment => by
    rw [hsegments, Path.counting_append, hcounting, List.nil_append] at hsegment
    obtain rfl := List.mem_singleton.mp (List.mem_of_mem_filter hsegment)
    decide
  have hcheck : Standpoint.checkPath stretchedPath = .ok () := by
    refine Standpoint.checkPath_eq_ok_iff.mpr ⟨hnul, List.cons_ne_nil _ _, ?_⟩
    rw [byteLength_stretchedPath]
    decide
  rw [Standpoint.resolve, hcheck, hsegments, Standpoint.follow_counted, hcounting]
  rfl

end Expansion

end StagedMocks

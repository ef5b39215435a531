import StagedMocks.Proofs.Disk.Ancestry
import StagedMocks.Proofs.Settings.Search

/-!
The way up on which settings are searched for. The search finds the first path on the way that has a
settings file. For an absolute path this is the one in the deepest directory above its end, but the
system refuses settings paths that are too long.
-/
namespace StagedMocks

namespace Settings

open StagedMocks.Path (isAbsolute counting segments climb? ancestors join)

theorem holds_iff {disk : Disk} {directory : Location} :
    holds disk directory = true ↔
      ∃ bytes, disk.find? (directory ++ [fileName]) = some (.file bytes) := by
  rw [holds]
  split
  · rename_i bytes hfile
    simp [hfile]
  · rename_i hother
    refine iff_of_false Bool.false_ne_true ?_
    rintro ⟨bytes, hfile⟩
    exact hother bytes hfile

section Above

variable {point : Standpoint} {path : Text}

theorem exists_join (path : Text) :
    ∃ rest, join path fileName = path ++ rest ∧ rest ≠ [] ∧ '\x00' ∉ rest := by
  obtain hjoin | hjoin := Path.join_cases path fileName
  · exact ⟨_, hjoin, by decide, by decide⟩
  · exact ⟨_, hjoin, by decide, by decide⟩

theorem join_fits (h : Standpoint.checkPath (join path fileName) = .ok ()) (hne : path ≠ []) :
    Standpoint.checkPath path = .ok () := by
  rw [Standpoint.checkPath_eq_ok_iff] at h ⊢
  obtain ⟨hnul, -, hfits⟩ := h
  obtain ⟨rest, hrest, -⟩ := exists_join path
  rw [hrest] at hnul hfits
  rw [Text.byteLength_append] at hfits
  exact ⟨fun hmem => hnul (List.mem_append_left rest hmem), hne, by omega⟩

/-- Settings are found below directories only. -/
theorem isDirectory_of_isFile_join (hne : path ≠ [])
    (h : point.isFile (join path fileName) = true) : point.isDirectory path = true := by
  obtain ⟨location, hresolve, -⟩ := Standpoint.isFile_iff.mp h
  obtain ⟨_, hcheck, hfollow⟩ := bind_eq_ok hresolve
  rw [Standpoint.origin_join path slash_not_mem_fileName,
    Standpoint.follow_join _ path slash_not_mem_fileName] at hfollow
  obtain ⟨directory, hdirectory, hlast⟩ := Standpoint.exists_follow_append hfollow
  obtain ⟨hreached, -⟩ := Standpoint.follow_singleton_cases hlast
  have hresolve : point.resolve path = .ok directory := by
    rw [Standpoint.resolve, join_fits hcheck hne]
    exact hdirectory
  exact Standpoint.isDirectory_iff.mpr ⟨directory, hresolve, hreached⟩

/-- An absolute path that does not go back leads to settings exactly if the directory at its end
has some and the system takes their path. -/
theorem isFile_join_iff (htree : point.disk.IsTree) (hnamed : point.disk.IsNamed)
    (habsolute : isAbsolute path = true) (hups : ['.', '.'] ∉ segments path) :
    point.isFile (join path fileName) = true ↔
      holds point.disk (counting (segments path)) = true ∧
        (join path fileName).byteLength < Standpoint.pathLimit := by
  have hdowns : ['.', '.'] ∉ counting (segments path) ++ [fileName] := by
    simp only [List.mem_append, List.mem_singleton, not_or]
    exact ⟨fun hmem => hups (List.mem_of_mem_filter hmem), by decide⟩
  have hfollow : Standpoint.follow point.disk (point.origin (join path fileName))
      (segments (join path fileName)) =
        Standpoint.follow point.disk [] (segments path ++ [fileName]) := by
    rw [Standpoint.origin_join path slash_not_mem_fileName, Standpoint.origin, if_pos habsolute,
      Standpoint.follow_join _ path slash_not_mem_fileName]
  rw [Standpoint.isFile_iff, holds_iff]
  constructor
  · rintro ⟨location, hresolve, bytes, hfile⟩
    obtain ⟨_, hcheck, hreach⟩ := bind_eq_ok hresolve
    have harrived := Standpoint.arrived_of_follow (hfollow ▸ hreach)
    have hlast : counting [fileName] = [fileName] := by decide
    rw [Path.counting_append, hlast, Standpoint.arrived_names hdowns, List.nil_append] at harrived
    exact ⟨⟨bytes, harrived ▸ hfile⟩, (Standpoint.checkPath_eq_ok_iff.mp hcheck).2.2⟩
  · rintro ⟨⟨bytes, hfile⟩, hfits⟩
    have hsome : (point.disk.find? (counting (segments path) ++ [fileName])).isSome = true := by
      rw [hfile]
      rfl
    have hnul := Path.nul_not_mem fun segment hsegment =>
      (hnamed _ hsome segment (List.mem_append_left _ hsegment)).noNul
    have hcheck : Standpoint.checkPath (join path fileName) = .ok () := by
      obtain ⟨rest, hrest, hne, hplain⟩ := exists_join path
      rw [hrest] at hfits ⊢
      exact Standpoint.checkPath_eq_ok_iff.mpr
        ⟨by simp [hnul, hplain], List.append_ne_nil_of_right_ne_nil _ hne, hfits⟩
    refine ⟨_, ?_, bytes, hfile⟩
    rw [Standpoint.resolve, hcheck, hfollow, Standpoint.follow_counted]
    exact Disk.follow_location htree hnamed hsome

end Above

theorem search?_eq (point : Standpoint) (filename : Text) :
    search? point filename =
      ((ancestors (searchStart point filename)).find? fun above =>
        point.isFile (join above fileName)).map (join · fileName) := by
  rw [search?, List.find?_map]
  rfl

/-- The path at which the search for a file's settings begins. -/
inductive Begins (point : Standpoint) (filename : Text) : Text → Prop where
  | itself : point.isDirectory filename = true → Begins point filename filename
  | parent {above : Text} : point.isDirectory filename = false →
      Path.parent? filename = some above → above ≠ [] → Begins point filename above
  | here : point.isDirectory filename = false →
      (∀ above, Path.parent? filename = some above → above = []) →
      Begins point filename (Standpoint.pathOf point.here)

theorem begins_searchStart (point : Standpoint) (filename : Text) :
    Begins point filename (searchStart point filename) := by
  rw [searchStart]
  split
  · rename_i hdirectory
    exact .itself hdirectory
  · rename_i hdirectory
    rw [Bool.not_eq_true] at hdirectory
    split
    · rename_i hparent
      exact .here hdirectory (by simp [hparent])
    · rename_i hparent
      exact .here hdirectory (by simp [hparent])
    · rename_i above hnonempty hparent
      exact .parent hdirectory hparent hnonempty

section Absolute

variable {point : Standpoint} {filename : Text}

theorem isDirectory_root (habsolute : isAbsolute filename = true)
    (hnames : counting (segments filename) = [])
    (hfits : filename.byteLength < Standpoint.pathLimit) :
    point.isDirectory filename = true := by
  have hne : filename ≠ [] := by
    rintro rfl
    cases habsolute
  have hnul := @Path.nul_not_mem filename fun segment hsegment => by
    rw [hnames] at hsegment
    cases hsegment
  have hresolve : point.resolve filename = .ok [] := by
    rw [Standpoint.resolve, Standpoint.checkPath_eq_ok_iff.mpr ⟨hnul, hne, hfits⟩,
      Standpoint.origin, if_pos habsolute]
    exact Standpoint.follow_idles rfl hnames
  exact Standpoint.isDirectory_iff.mpr ⟨[], hresolve, rfl⟩

/-- The search from an absolute path goes through that path and all those above it. Only a path of
nothing but too many slashes is searched from elsewhere. -/
theorem search?_absolute (habsolute : isAbsolute filename = true)
    (hnames : counting (segments filename) ≠ [] ∨ filename.byteLength < Standpoint.pathLimit) :
    search? point filename =
      ((ancestors filename).find? fun above =>
        point.isFile (join above fileName)).map (join · fileName) := by
  have hne : filename ≠ [] := by
    rintro rfl
    cases habsolute
  rw [search?_eq]
  congr 1
  cases hdirectory : point.isDirectory filename with
  | true => rw [searchStart, if_pos hdirectory]
  | false =>
      have hmissed : point.isFile (join filename fileName) = false := by
        rw [← Bool.not_eq_true]
        intro hfile
        rw [isDirectory_of_isFile_join hne hfile] at hdirectory
        cases hdirectory
      obtain ⟨hups, habove⟩ := Path.ancestors_absolute habsolute
      cases hparent : Path.parent? filename with
      | some above =>
          rw [Path.ancestors_of_some hparent] at habove ⊢
          have hnonempty : above ≠ [] := by
            rintro rfl
            cases habove [] (List.mem_cons_of_mem _ List.mem_cons_self)
          rw [searchStart_eq hdirectory hparent, if_neg hnonempty, List.find?_cons, hmissed]
      | none =>
          -- The root is a directory, if its path is not too long.
          rw [Path.ancestors_of_none hparent] at hups
          have hroot : [] ∈ Standpoint.upward (counting (segments filename)) :=
            Standpoint.mem_upward.mpr List.nil_prefix
          rw [← hups, List.map_singleton, List.mem_singleton] at hroot
          obtain hnames | hfits := hnames
          · exact absurd hroot.symm hnames
          · rw [isDirectory_root habsolute hroot.symm hfits] at hdirectory
            cases hdirectory

/-- A path on the way up leads to a directory that has a settings file, and the system takes the
path of that file. -/
structure Governs (point : Standpoint) (filename : Text) (directory : Location) (above : Text) :
    Prop where
  isAbove : ∃ level, climb? level filename = some above
  leads : counting (segments above) = directory
  holds : holds point.disk directory = true
  fits : (join above fileName).byteLength < Standpoint.pathLimit

theorem climb?_leads (habsolute : isAbsolute filename = true) (directory : Location) :
    directory <+: counting (segments filename) ↔
      ∃ level above, climb? level filename = some above ∧
        counting (segments above) = directory := by
  rw [← Standpoint.mem_upward, ← (Path.ancestors_absolute habsolute).1, List.mem_map]
  simp only [Path.mem_ancestors_iff]
  constructor
  · rintro ⟨above, ⟨level, hlevel⟩, hleads⟩
    exact ⟨level, above, hlevel, hleads⟩
  · rintro ⟨level, above, hlevel, hleads⟩
    exact ⟨above, ⟨level, hlevel⟩, hleads⟩

theorem governs_iff (htree : point.disk.IsTree) (hnamed : point.disk.IsNamed)
    (habsolute : isAbsolute filename = true) (hups : ['.', '.'] ∉ segments filename)
    {above : Text} :
    Governs point filename (counting (segments above)) above ↔
      (∃ level, climb? level filename = some above) ∧
        point.isFile (join above fileName) = true := by
  have hfile : (∃ level, climb? level filename = some above) →
      (point.isFile (join above fileName) = true ↔
        holds point.disk (counting (segments above)) = true ∧
          (join above fileName).byteLength < Standpoint.pathLimit) := by
    rintro ⟨level, hlevel⟩
    have hbegins := (climb?_leads habsolute _).mpr ⟨level, above, hlevel, rfl⟩
    refine isFile_join_iff htree hnamed
      ((Path.ancestors_absolute habsolute).2 above (Path.mem_ancestors_iff.mpr ⟨level, hlevel⟩))
      fun hmem => hups ?_
    have hcounts : ['.', '.'] ∈ counting (segments above) :=
      List.mem_filter.mpr ⟨hmem, by decide⟩
    exact List.mem_of_mem_filter (hbegins.subset hcounts)
  constructor
  · rintro ⟨hlevel, -, hholds, hfits⟩
    exact ⟨hlevel, (hfile hlevel).mpr ⟨hholds, hfits⟩⟩
  · rintro ⟨hlevel, hisFile⟩
    obtain ⟨hholds, hfits⟩ := (hfile hlevel).mp hisFile
    exact ⟨hlevel, rfl, hholds, hfits⟩

/-- Further up on the way is further up in the tree. -/
theorem climb?_shorter (habsolute : isAbsolute filename = true) {lower upper : Nat}
    (hlt : lower < upper) {passed above : Text} (hpassed : climb? lower filename = some passed)
    (habove : climb? upper filename = some above) :
    counting (segments above) <+: counting (segments passed) ∧
      counting (segments above) ≠ counting (segments passed) := by
  have hpairwise := Standpoint.pairwise_upward (counting (segments filename))
  rw [← (Path.ancestors_absolute habsolute).1, List.pairwise_map] at hpairwise
  rw [← Path.getElem?_ancestors] at hpassed habove
  obtain ⟨hlower, rfl⟩ := List.getElem?_eq_some_iff.mp hpassed
  obtain ⟨hupper, rfl⟩ := List.getElem?_eq_some_iff.mp habove
  exact List.pairwise_iff_getElem.mp hpairwise lower upper hlower hupper hlt

/-- The nearest settings on the way up are the deepest. -/
theorem isNearest_iff (htree : point.disk.IsTree) (hnamed : point.disk.IsNamed)
    (habsolute : isAbsolute filename = true) (hups : ['.', '.'] ∉ segments filename)
    {above : Text} :
    Path.IsNearest filename (fun above => point.isFile (join above fileName) = true) above ↔
      ∃ directory, Governs point filename directory above ∧
        ∀ directory' above', Governs point filename directory' above' →
          directory' <+: directory := by
  constructor
  · rintro ⟨hfile, level, hlevel, hlower⟩
    refine ⟨_, (governs_iff htree hnamed habsolute hups).mpr ⟨⟨level, hlevel⟩, hfile⟩, ?_⟩
    rintro directory' above' hgoverns
    obtain ⟨⟨level', hlevel'⟩, rfl, -, -⟩ := id hgoverns
    obtain ⟨-, hfile'⟩ := (governs_iff htree hnamed habsolute hups).mp hgoverns
    obtain hlt | rfl | hgt := Nat.lt_trichotomy level level'
    · exact (climb?_shorter habsolute hlt hlevel hlevel').1
    · rw [Option.some.inj (hlevel'.symm.trans hlevel)]
    · exact absurd hfile' (hlower level' hgt above' hlevel')
  · rintro ⟨directory, hgoverns, hdeepest⟩
    obtain rfl := hgoverns.leads
    obtain ⟨⟨level, hlevel⟩, hfile⟩ := (governs_iff htree hnamed habsolute hups).mp hgoverns
    refine ⟨hfile, level, hlevel, fun lower hlt passed hpassed hpassedFile => ?_⟩
    obtain ⟨hbegins, hne⟩ := climb?_shorter habsolute hlt hpassed hlevel
    have hdeeper := hdeepest _ _ ((governs_iff htree hnamed habsolute hups).mpr
      ⟨⟨lower, hpassed⟩, hpassedFile⟩)
    exact hne (hbegins.eq_of_length_le hdeeper.length_le)

end Absolute

/-- A source file in a directory below one with settings, in which a directory has the name of a
settings file. -/
def shadowedSource : Standpoint :=
  ⟨⟨[(["t".toList], .directory), (["t".toList, fileName], .file "".toUTF8),
    (["t".toList, "sub".toList], .directory), (["t".toList, "sub".toList, fileName], .directory),
    (["t".toList, "sub".toList, "a.swift".toList], .file "".toUTF8)]⟩, []⟩

/-- A source file beside settings. -/
def plainSource : Standpoint :=
  ⟨⟨[(["t".toList], .directory), (["t".toList, fileName], .file "".toUTF8),
    (["t".toList, "x.swift".toList], .file "".toUTF8)]⟩, []⟩

/-- The path of a directory behind so many slashes that the system does not take it. -/
def spacedPath : Text :=
  List.replicate 4096 '/' ++ '/' :: "t".toList

end Settings

end StagedMocks

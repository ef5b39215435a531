import StagedMocks.Settings.File

/-!
Disks of one shape: what is a directory on one is a directory on the other, and likewise for
files. Where a path leads, and where settings are searched for, depends on the shape alone, so
it stays the same while files are only given new texts.
-/
namespace StagedMocks

namespace Disk

theorem lookup_entry (location other : Location) (entry : Entry)
    (entries : List (Location × Entry)) :
    ((location, entry) :: entries).lookup other =
      if other = location then some entry else entries.lookup other := by
  by_cases h : other = location
  · simp [h]
  · rw [List.lookup_cons, beq_false_of_ne h, if_neg h]

theorem lookup_putEntry (location other : Location) (entry : Entry)
    (entries : List (Location × Entry)) :
    (putEntry location entry entries).lookup other =
      if other = location then some entry else entries.lookup other := by
  induction entries with
  | nil => rw [putEntry, lookup_entry]
  | cons first rest ih =>
      obtain ⟨l, e⟩ := first
      rw [putEntry]
      split
      · rename_i hl
        subst hl
        by_cases h : other = l <;> simp only [lookup_entry, h, if_true, if_false]
      · rename_i hl
        rw [lookup_entry, lookup_entry, ih]
        by_cases h : other = l
        · subst h
          simp only [hl, if_true, if_false]
        · simp only [h, if_false]

/-- Putting an entry changes what is found at its location and nowhere else. -/
theorem find?_put {location : Location} (h : location ≠ []) (disk : Disk) (entry : Entry)
    (other : Location) :
    (disk.put location entry).find? other =
      if other = location then some entry else disk.find? other := by
  cases other with
  | nil => simp [find?, h.symm]
  | cons name names => simp [find?, put, lookup_putEntry]

/-- Two disks with directories at the same locations and files at the same locations. -/
structure SameShape (disk other : Disk) : Prop where
  isDirectoryAt_eq : ∀ location, other.isDirectoryAt location = disk.isDirectoryAt location
  isNone_eq : ∀ location, (other.find? location).isNone = (disk.find? location).isNone

theorem SameShape.refl (disk : Disk) : SameShape disk disk :=
  ⟨fun _ => rfl, fun _ => rfl⟩

theorem SameShape.trans {first second third : Disk} (h : SameShape first second)
    (h' : SameShape second third) : SameShape first third where
  isDirectoryAt_eq location := by rw [h'.isDirectoryAt_eq, h.isDirectoryAt_eq]
  isNone_eq location := by rw [h'.isNone_eq, h.isNone_eq]

/-- A file in the place of another keeps the shape. -/
theorem sameShape_of_find? {disk next : Disk} {location : Location} {old new : ByteArray}
    (h : disk.find? location = some (.file old))
    (hnext : ∀ other, next.find? other =
      if other = location then some (.file new) else disk.find? other) :
    SameShape disk next := by
  refine ⟨fun other => ?_, fun other => ?_⟩
  · by_cases hother : other = location
    · simp [isDirectoryAt, hnext, hother, h]
    · simp [isDirectoryAt, hnext, hother]
  · by_cases hother : other = location
    · simp [hnext, hother, h]
    · simp [hnext, hother]

theorem SameShape.exists_file_iff {disk other : Disk} (h : SameShape disk other)
    (location : Location) :
    (∃ bytes, other.find? location = some (.file bytes)) ↔
      ∃ bytes, disk.find? location = some (.file bytes) := by
  have hdirectory := h.isDirectoryAt_eq location
  have hnone := h.isNone_eq location
  simp only [isDirectoryAt] at hdirectory
  cases hother : other.find? location with
  | none =>
      cases hdisk : disk.find? location with
      | none => simp
      | some entry => simp [hother, hdisk] at hnone
  | some entry =>
      cases hdisk : disk.find? location with
      | none => simp [hother, hdisk] at hnone
      | some entry' => cases entry <;> cases entry' <;> simp_all

end Disk

namespace Standpoint

variable {disk other : Disk}

theorem follow_shape (h : Disk.SameShape disk other) (location : Location) (segments : List Text) :
    follow other location segments = follow disk location segments := by
  induction segments generalizing location with
  | nil => rfl
  | cons segment rest ih => simp only [follow, h.isDirectoryAt_eq, h.isNone_eq, ih]

theorem resolve_shape (h : Disk.SameShape disk other) (here : Location) (path : Text) :
    (Standpoint.mk other here).resolve path = (Standpoint.mk disk here).resolve path := by
  simp only [resolve, origin, follow_shape h]

theorem target_shape (h : Disk.SameShape disk other) (here : Location) (path : Text) :
    (Standpoint.mk other here).target path = (Standpoint.mk disk here).target path := by
  simp only [target, origin, follow_shape h, h.isDirectoryAt_eq]

theorem isFile_iff {point : Standpoint} {path : Text} :
    point.isFile path = true ↔ ∃ location, point.resolve path = .ok location ∧
      ∃ bytes, point.disk.find? location = some (.file bytes) := by
  simp only [isFile, entry?]
  cases point.resolve path with
  | error cause => simp
  | ok location =>
      cases hfind : point.disk.find? location with
      | none => simp [hfind]
      | some entry => cases entry <;> simp [hfind]

theorem isDirectory_iff {point : Standpoint} {path : Text} :
    point.isDirectory path = true ↔ ∃ location, point.resolve path = .ok location ∧
      point.disk.isDirectoryAt location = true := by
  simp only [isDirectory, entry?]
  cases point.resolve path with
  | error cause => simp
  | ok location =>
      simp only [Except.ok.injEq, exists_eq_left']
      rfl

theorem isFile_shape (h : Disk.SameShape disk other) (here : Location) (path : Text) :
    (Standpoint.mk other here).isFile path = (Standpoint.mk disk here).isFile path := by
  rw [Bool.eq_iff_iff, isFile_iff, isFile_iff]
  simp only [resolve_shape h, h.exists_file_iff]

theorem isDirectory_shape (h : Disk.SameShape disk other) (here : Location) (path : Text) :
    (Standpoint.mk other here).isDirectory path = (Standpoint.mk disk here).isDirectory path := by
  have hplace := resolve_shape h here path
  cases hresolved : (Standpoint.mk disk here).resolve path with
  | error fault => simp only [isDirectory, entry?, hplace, hresolved]
  | ok location =>
      simp only [isDirectory, entry?, hplace, hresolved]
      exact h.isDirectoryAt_eq location

end Standpoint

/-- Settings are searched for by shape: new texts of files do not change which one is found. -/
theorem Settings.search?_shape {disk other : Disk} (h : Disk.SameShape disk other)
    (here : Location) (filename : Text) :
    search? ⟨other, here⟩ filename = search? ⟨disk, here⟩ filename := by
  have hstart : searchStart ⟨other, here⟩ filename = searchStart ⟨disk, here⟩ filename := by
    rw [searchStart, searchStart, Standpoint.isDirectory_shape h]
  have hfile : (Standpoint.mk other here).isFile = (Standpoint.mk disk here).isFile :=
    funext (Standpoint.isFile_shape h here)
  rw [search?, search?, hstart, hfile]

end StagedMocks

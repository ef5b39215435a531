import StagedMocks.Proofs.Disk.Shape
import StagedMocks.Proofs.Fault

/-!
Reading and writing files by path. A file that can be read and written is written where it is
read, so a write exchanges the text of one file and leaves the rest of the disk, and paths that
do not lead to that file do not notice it. On a disk on which every entry stands in a directory,
whatever can be read can be written.
-/
namespace StagedMocks

theorem fromUTF8?_eq_some_iff {bytes : ByteArray} {s : String} :
    String.fromUTF8? bytes = some s ↔ bytes = s.toUTF8 := by
  constructor
  · intro h
    rw [String.fromUTF8?] at h
    split at h
    · cases h
      rfl
    · cases h
  · rintro rfl
    rw [String.fromUTF8?, String.toUTF8_eq_toByteArray, dif_pos s.isValidUTF8]
    rfl

namespace Disk

/-- `next` is the disk with a new text in the place of that of the file at a location. -/
structure Exchanged (disk : Disk) (location : Location) (text : Text) (next : Disk) :
    Prop where
  wasText : ∃ old : Text, disk.find? location = some (.file (String.ofList old).toUTF8)
  find?_eq : ∀ other, next.find? other =
    if other = location then some (.file (String.ofList text).toUTF8) else disk.find? other

theorem Exchanged.sameShape {disk next : Disk} {location : Location} {text : Text}
    (h : disk.Exchanged location text next) : SameShape disk next := by
  obtain ⟨⟨old, hold⟩, hfind⟩ := h
  exact sameShape_of_find? hold hfind

theorem exchanged_put {disk : Disk} {location : Location} {old : Text}
    (h : disk.find? location = some (.file (String.ofList old).toUTF8)) (text : Text) :
    disk.Exchanged location text (disk.put location (.file (String.ofList text).toUTF8)) := by
  refine ⟨⟨old, h⟩, fun other => find?_put ?_ disk _ other⟩
  rintro rfl
  cases h

/-- Every entry stands in a directory. -/
def IsTree (disk : Disk) : Prop :=
  ∀ location, (disk.find? location).isSome = true → disk.isDirectoryAt location.dropLast = true

theorem isSome_of_isDirectoryAt {disk : Disk} {location : Location}
    (h : disk.isDirectoryAt location = true) : (disk.find? location).isSome = true := by
  rw [isDirectoryAt] at h
  cases hfind : disk.find? location with
  | none => simp [hfind] at h
  | some entry => rfl

theorem exists_mem_entries {disk : Disk} {location : Location} (hne : location ≠ [])
    (h : (disk.find? location).isSome = true) : ∃ entry, (location, entry) ∈ disk.entries := by
  obtain ⟨entry, hentry⟩ := Option.isSome_iff_exists.mp h
  rw [find?, if_neg (by simpa using hne)] at hentry
  obtain ⟨before, behind, hsplit, _⟩ := List.lookup_eq_some_iff.mp hentry
  exact ⟨entry, by simp [hsplit]⟩

theorem isTree_of_entries {disk : Disk}
    (h : ∀ entry ∈ disk.entries, disk.isDirectoryAt entry.1.dropLast = true) : disk.IsTree := by
  intro location hsome
  cases location with
  | nil => rfl
  | cons name names =>
      obtain ⟨entry, hentry⟩ := exists_mem_entries (List.cons_ne_nil _ _) hsome
      exact h _ hentry

end Disk

namespace Standpoint

variable {point : Standpoint} {path : Text}

theorem readText_eq_ok_iff {source : Text} :
    point.readText path = .ok source ↔ ∃ location, point.resolve path = .ok location ∧
      point.disk.find? location = some (.file (String.ofList source).toUTF8) := by
  constructor
  · intro h
    rw [readText] at h
    cases hresolve : point.resolve path with
    | error cause =>
        rw [hresolve] at h
        cases h
    | ok location =>
        refine ⟨location, rfl, ?_⟩
        simp only [hresolve, bind, Except.bind] at h
        split at h
        · cases h
        · cases h
        · rename_i bytes hfind
          split at h
          · rename_i text htext
            cases h
            rw [hfind, String.ofList_toList, fromUTF8?_eq_some_iff.mp htext]
          · cases h
  · rintro ⟨location, hresolve, hfind⟩
    have htext := fromUTF8?_eq_some_iff.mpr (Eq.refl (String.ofList source).toUTF8)
    simp only [readText, hresolve, bind, Except.bind, hfind, htext, String.toList_ofList]

theorem follow_append (disk : Disk) (location : Location) (front back : List Text) :
    follow disk location (front ++ back) =
      (follow disk location front).bind fun reached => follow disk reached back := by
  induction front generalizing location with
  | nil => rfl
  | cons segment front ih =>
      simp only [List.cons_append, follow]
      split
      · rfl
      split
      · exact ih location
      split
      · exact ih location.dropLast
      split
      · rfl
      split
      · rfl
      · exact ih (location ++ [segment])

theorem exists_segments (path : Text) : ∃ front name, Path.segments path = front ++ [name] := by
  have hne : Path.segments path ≠ [] := List.splitOnP_ne_nil _ _
  exact ⟨_, _, (List.dropLast_concat_getLast hne).symm⟩

/-- The last step of a path stays, goes up, or goes down to a name. -/
theorem follow_singleton_cases {disk : Disk} {parent location : Location} {name : Text}
    (h : follow disk parent [name] = .ok location) :
    disk.isDirectoryAt parent = true ∧
      ((Path.isIdle name = true ∧ location = parent) ∨
        (name = ['.', '.'] ∧ location = parent.dropLast) ∨
        (Path.isIdle name = false ∧ name ≠ ['.', '.'] ∧ name.byteLength ≤ nameLimit ∧
          location = parent ++ [name])) := by
  simp only [follow] at h
  split at h
  · cases h
  · rename_i hdirectory
    refine ⟨by simpa using hdirectory, ?_⟩
    split at h
    · rename_i hidle
      cases h
      exact .inl ⟨hidle, rfl⟩
    · rename_i hidle
      split at h
      · rename_i hup
        cases h
        exact .inr (.inl ⟨hup, rfl⟩)
      · rename_i hup
        split at h
        · cases h
        · rename_i hlimit
          split at h
          · cases h
          · cases h
            exact .inr (.inr ⟨by simpa using hidle, hup, Nat.le_of_not_lt hlimit, rfl⟩)

/-- A path is written at the place of its last segment, which is a name, in the directory to which
the segments before it lead. -/
theorem target_eq_ok_iff {location : Location} :
    point.target path = .ok location ↔
      checkPath path = .ok () ∧ ∃ front name parent, Path.segments path = front ++ [name] ∧
        follow point.disk (point.origin path) front = .ok parent ∧
        point.disk.isDirectoryAt parent = true ∧ Path.isIdle name = false ∧
        name ≠ ['.', '.'] ∧ name.byteLength ≤ nameLimit ∧
        point.disk.isDirectoryAt (parent ++ [name]) = false ∧ parent ++ [name] = location := by
  constructor
  · intro h
    rw [target] at h
    obtain ⟨_, hcheck, h⟩ := bind_eq_ok h
    obtain ⟨parent, hparent, h⟩ := bind_eq_ok h
    split at h
    · cases h
    · rename_i name others htrimmed
      simp only [Bool.or_eq_true, decide_eq_true_eq] at h
      split at h
      · cases h
      · rename_i hdirectory
        split at h
        · cases h
        · rename_i hname
          obtain ⟨hrest, hup⟩ := not_or.mp hname
          obtain ⟨hlength, hidle⟩ := not_or.mp hrest
          split at h
          · cases h
          · rename_i hlimit
            split at h
            · cases h
            · rename_i hfree
              cases h
              -- No empty segment was left out at the end, so the name is the last segment.
              have hends := (List.dropWhile_suffix _).eq_of_length
                (Decidable.of_not_not hlength).symm
              have hsegments : Path.segments path = others.reverse ++ [name] := by
                rw [← List.reverse_reverse (Path.segments path), ← hends, htrimmed,
                  List.reverse_cons]
              rw [htrimmed, List.tail_cons] at hparent
              exact ⟨hcheck, _, _, _, hsegments, hparent, by simpa using hdirectory,
                by simpa using hidle, hup, Nat.le_of_not_lt hlimit, by simpa using hfree, rfl⟩
  · rintro ⟨hcheck, front, name, parent, hsegments, hparent, hdirectory, hidle, hup, hlimit, hfree,
      rfl⟩
    have hname : name.isEmpty = false := by
      cases name with
      | nil => cases hidle
      | cons c name => rfl
    simp [target, hcheck, hsegments, hname, hparent, hdirectory, hidle, hup, hfree,
      Nat.not_lt.mpr hlimit, bind, Except.bind]

/-- A path that is written and leads somewhere leads to where it is written. -/
theorem target_eq_resolve {location reached : Location} (h : point.target path = .ok location)
    (hresolve : point.resolve path = .ok reached) : location = reached := by
  obtain ⟨_, front, name, parent, hsegments, hparent, _, hidle, hup, _, _, rfl⟩ :=
    target_eq_ok_iff.mp h
  obtain ⟨_, _, hresolve⟩ := bind_eq_ok hresolve
  rw [hsegments, follow_append, hparent] at hresolve
  obtain ⟨_, ⟨hidle', _⟩ | ⟨hup', _⟩ | ⟨_, _, _, hreached⟩⟩ := follow_singleton_cases hresolve
  · rw [hidle] at hidle'
    cases hidle'
  · exact absurd hup' hup
  · exact hreached.symm

/-- On a tree a path that leads to a file can be written. -/
theorem target_of_isTree (htree : point.disk.IsTree) {location : Location} {bytes : ByteArray}
    (hresolve : point.resolve path = .ok location)
    (hfind : point.disk.find? location = some (.file bytes)) :
    point.target path = .ok location := by
  have hfile : point.disk.isDirectoryAt location = false := by simp [Disk.isDirectoryAt, hfind]
  obtain ⟨_, hcheck, hfollow⟩ := bind_eq_ok hresolve
  obtain ⟨front, name, hsegments⟩ := exists_segments path
  rw [hsegments, follow_append] at hfollow
  obtain ⟨parent, hparent, hlast⟩ := bind_eq_ok hfollow
  obtain ⟨hdirectory, ⟨_, hstay⟩ | ⟨_, hup⟩ | ⟨hidle, hup, hlimit, hdown⟩⟩ :=
    follow_singleton_cases hlast
  · rw [hstay, hdirectory] at hfile
    cases hfile
  · have habove := htree parent (Disk.isSome_of_isDirectoryAt hdirectory)
    rw [hup, habove] at hfile
    cases hfile
  · rw [hdown] at hfile
    exact target_eq_ok_iff.mpr ⟨hcheck, front, name, parent, hsegments, hparent, hdirectory, hidle,
      hup, hlimit, hfile, hdown.symm⟩

section Placing

variable {next : Disk}

/-- What can be followed can still be followed when entries have been added. -/
theorem follow_extended
    (hdirectory : ∀ location, point.disk.isDirectoryAt location = true →
      next.isDirectoryAt location = true)
    (hsome : ∀ location, (point.disk.find? location).isNone = false →
      (next.find? location).isNone = false)
    {location reached : Location} {segments : List Text}
    (h : follow point.disk location segments = .ok reached) :
    follow next location segments = .ok reached := by
  induction segments generalizing location with
  | nil => exact h
  | cons segment rest ih =>
      rw [follow] at h ⊢
      split at h
      · cases h
      · rename_i hreached
        rw [hdirectory location (by simpa using hreached)]
        rw [if_neg (by simp)]
        split at h
        · rename_i hidle
          rw [if_pos hidle]
          exact ih h
        rename_i hcounts
        rw [if_neg hcounts]
        split at h
        · rename_i hup
          rw [if_pos hup]
          exact ih h
        rename_i hdown
        rw [if_neg hdown]
        split at h
        · cases h
        rename_i hlimit
        rw [if_neg hlimit]
        split at h
        · cases h
        rename_i hfind
        rw [hsome _ (Bool.eq_false_iff.mpr hfind)]
        exact ih h

/-- When a file has been put at the place of a path, the path leads to it, and it is still the
place of the path. -/
theorem resolve_put {location : Location} (h : point.target path = .ok location)
    (bytes : ByteArray) :
    (Standpoint.mk (point.disk.put location (.file bytes)) point.here).resolve path =
        .ok location ∧
      (Standpoint.mk (point.disk.put location (.file bytes)) point.here).target path =
        .ok location := by
  obtain ⟨hcheck, front, name, parent, hsegments, hparent, hdirectory, hidle, hup, hlimit, hfree,
    rfl⟩ := target_eq_ok_iff.mp h
  have hfind := Disk.find?_put (List.append_ne_nil_of_right_ne_nil parent (List.cons_ne_nil name []))
    point.disk (.file bytes)
  have hkeeps : ∀ location, point.disk.isDirectoryAt location = true →
      (point.disk.put (parent ++ [name]) (.file bytes)).isDirectoryAt location = true := by
    intro location hlocation
    have hne : location ≠ parent ++ [name] := by
      rintro rfl
      rw [hfree] at hlocation
      cases hlocation
    rw [Disk.isDirectoryAt, hfind, if_neg hne]
    exact hlocation
  have hsome : ∀ location, (point.disk.find? location).isNone = false →
      ((point.disk.put (parent ++ [name]) (.file bytes)).find? location).isNone = false := by
    intro location hlocation
    rw [hfind]
    split
    · rfl
    · exact hlocation
  have hfront := follow_extended hkeeps hsome hparent
  have hplaced : (point.disk.put (parent ++ [name]) (.file bytes)).find? (parent ++ [name]) =
      some (.file bytes) := by
    rw [hfind, if_pos rfl]
  constructor
  · have hlast : follow (point.disk.put (parent ++ [name]) (.file bytes)) parent [name] =
        .ok (parent ++ [name]) := by
      simp [follow, hkeeps _ hdirectory, hidle, hup, Nat.not_lt.mpr hlimit, hplaced]
    have hfollow : follow (point.disk.put (parent ++ [name]) (.file bytes)) (point.origin path)
        (front ++ [name]) = .ok (parent ++ [name]) := by
      rw [follow_append, hfront]
      exact hlast
    rw [resolve, hcheck, hsegments]
    exact hfollow
  · refine target_eq_ok_iff.mpr ⟨hcheck, front, name, parent, hsegments, hfront,
      hkeeps _ hdirectory, hidle, hup, hlimit, ?_, rfl⟩
    rw [Disk.isDirectoryAt, hplaced]

end Placing

/-- Every file whose text can be read can be written. -/
def Writable (point : Standpoint) : Prop :=
  ∀ path source text, point.readText path = .ok source →
    ∃ next, point.writeText path text = .ok next

theorem writable_of_isTree (htree : point.disk.IsTree) : point.Writable := by
  intro path source text hread
  obtain ⟨location, hresolve, hfind⟩ := readText_eq_ok_iff.mp hread
  rw [writeText, target_of_isTree htree hresolve hfind]
  exact ⟨_, rfl⟩

/-- A file that can be read is written where it was read. -/
theorem exchanged_of_writeText {source text : Text} {next : Disk}
    (hread : point.readText path = .ok source) (hwrite : point.writeText path text = .ok next) :
    ∃ location, point.resolve path = .ok location ∧ point.disk.Exchanged location text next := by
  obtain ⟨location, hresolve, hfind⟩ := readText_eq_ok_iff.mp hread
  obtain ⟨written, htarget, hnext⟩ := bind_eq_ok hwrite
  obtain rfl := target_eq_resolve htarget hresolve
  cases hnext
  exact ⟨written, hresolve, Disk.exchanged_put hfind text⟩

/-- What can be read after the exchange of a text could be read before. -/
theorem exists_readText_of_exchanged {disk next : Disk} {here location : Location}
    {text source : Text} (h : disk.Exchanged location text next)
    (hread : (Standpoint.mk next here).readText path = .ok source) :
    ∃ old, (Standpoint.mk disk here).readText path = .ok old := by
  obtain ⟨reached, hreached, hfind⟩ := readText_eq_ok_iff.mp hread
  rw [resolve_shape h.sameShape] at hreached
  by_cases hsame : reached = location
  · obtain ⟨old, hold⟩ := h.wasText
    exact ⟨old, readText_eq_ok_iff.mpr ⟨reached, hreached, hsame ▸ hold⟩⟩
  · rw [h.find?_eq, if_neg hsame] at hfind
    exact ⟨source, readText_eq_ok_iff.mpr ⟨reached, hreached, hfind⟩⟩

theorem Writable.exchanged {disk next : Disk} {here location : Location} {text : Text}
    (hwritable : (Standpoint.mk disk here).Writable) (h : disk.Exchanged location text next) :
    (Standpoint.mk next here).Writable := by
  intro path source new hread
  obtain ⟨old, hold⟩ := exists_readText_of_exchanged h hread
  obtain ⟨_, hwrite⟩ := hwritable path old new hold
  obtain ⟨target, htarget, _⟩ := bind_eq_ok hwrite
  rw [writeText, target_shape h.sameShape, htarget]
  exact ⟨_, rfl⟩

section Agreement

variable {disk : Disk} {paths : List Text}

/-- A disk on which paths lead where they lead from `point`, and to what they lead there. -/
structure Agrees (point : Standpoint) (paths : List Text) (disk : Disk) : Prop where
  sameShape : Disk.SameShape point.disk disk
  find?_eq : ∀ path ∈ paths, ∀ location, point.resolve path = .ok location →
    disk.find? location = point.disk.find? location

theorem Agrees.refl (point : Standpoint) (paths : List Text) : point.Agrees paths point.disk :=
  ⟨.refl _, fun _ _ _ _ => rfl⟩

theorem Agrees.readText_eq (h : point.Agrees paths disk) (hpath : path ∈ paths) :
    (Standpoint.mk disk point.here).readText path = point.readText path := by
  simp only [readText, resolve_shape h.sameShape]
  cases hresolve : point.resolve path with
  | error cause => rfl
  | ok location => simp only [bind, Except.bind, h.find?_eq path hpath location hresolve]

/-- The exchange of one file's text is not noticed by paths that do not lead to it. -/
theorem Agrees.exchanged {location : Location} {text : Text} {next : Disk}
    (h : point.Agrees paths disk) (hexchanged : disk.Exchanged location text next)
    {others : List Text} (hsubset : others ⊆ paths)
    (hother : ∀ path ∈ others, point.resolve path ≠ .ok location) : point.Agrees others next where
  sameShape := h.sameShape.trans hexchanged.sameShape
  find?_eq path hpath reached hreached := by
    have hne : reached ≠ location := by
      rintro rfl
      exact hother path hpath hreached
    rw [hexchanged.find?_eq, if_neg hne, h.find?_eq path (hsubset hpath) reached hreached]

theorem entry?_of_readText {source : Text} (h : point.readText path = .ok source) :
    point.entry? path = some (.file (String.ofList source).toUTF8) := by
  obtain ⟨location, hresolve, hfind⟩ := readText_eq_ok_iff.mp h
  simp only [hresolve, entry?, hfind]

/-- Texts are equal exactly if the bytes are. -/
theorem entry?_eq_iff {other : Standpoint} {source text : Text}
    (h : point.readText path = .ok source) (hother : other.readText path = .ok text) :
    other.entry? path = point.entry? path ↔ source = text := by
  rw [entry?_of_readText h, entry?_of_readText hother]
  simp only [Option.some.injEq, Entry.file.injEq, String.toUTF8_eq_toByteArray,
    String.toByteArray_inj, String.ofList_inj, eq_comm]

end Agreement

end Standpoint

end StagedMocks

import StagedMocks.Proofs.Toml.Quoted
import StagedMocks.Toml.Document

/-!
Documents of keys with strings, one to a line, are read back as they were written.
-/
namespace StagedMocks.Toml

theorem exists_written (s : Text) :
    ∃ c rest, written s = c :: rest ∧ (c = '"' ∨ c = '\'') := by
  rw [written]
  cases Form.forText s with
  | basic => exact ⟨_, _, rfl, .inl rfl⟩
  | literal => exact ⟨_, _, rfl, .inr rfl⟩
  | longBasic => exact ⟨_, _, rfl, .inl rfl⟩
  | longLiteral => exact ⟨_, _, rfl, .inr rfl⟩

theorem value?_scalar {c : Char} (hbracket : c ≠ '[') (hbrace : c ≠ '{') (depth : Nat)
    (s : Text) : value? depth (c :: s) =
      (scalar? (c :: s)).map fun (scalar, rest) => (.scalar scalar, rest) := by
  unfold value?
  split <;> simp_all

theorem value?_written (depth : Nat) (s rest : Text) :
    value? depth (written s ++ '\n' :: rest) = some (.scalar (.string s), '\n' :: rest) := by
  have hscalar : scalar? (written s ++ '\n' :: rest) = some (.string s, '\n' :: rest) := by
    simp [scalar?, string?_written]
  obtain ⟨c, behind, hwritten, hc⟩ := exists_written s
  rw [hwritten, List.cons_append] at hscalar ⊢
  rw [value?_scalar _ _ _ _, hscalar]
  · rfl
  · obtain rfl | rfl := hc <;> decide
  · obtain rfl | rfl := hc <;> decide

/-- Keys that can be written without quotes. -/
structure IsBareKey (key : Text) : Prop where
  nonempty : key ≠ []
  bare : ∀ c ∈ key, isBareKeyChar c = true

section Keys

variable {key : Text} {c : Char}

theorem ne_of_bare (hc : isBareKeyChar c = true) {d : Char} (hd : isBareKeyChar d = false) :
    c ≠ d := by
  rintro rfl
  rw [hc] at hd
  cases hd

theorem skipSpaces_cons (h : isSpace c = false) (s : Text) : skipSpaces (c :: s) = c :: s := by
  rw [skipSpaces, List.dropWhile_cons_of_neg (by simp [h])]

theorem isSpace_of_bare (h : isBareKeyChar c = true) : isSpace c = false := by
  simp [isSpace, ne_of_bare h (show isBareKeyChar ' ' = false from rfl),
    ne_of_bare h (show isBareKeyChar '\t' = false from rfl)]

theorem lineFeedLength_of_bare (h : isBareKeyChar c = true) (s : Text) :
    lineFeedLength (c :: s) = 0 := by
  unfold lineFeedLength
  split
  · rename_i hfeed
    exact absurd (List.cons.inj hfeed).1 (ne_of_bare h rfl)
  · rename_i hreturn
    exact absurd (List.cons.inj hreturn).1 (ne_of_bare h rfl)
  · rfl

/-- A line that begins with a key is not over yet. -/
theorem lineEnd?_of_bare (h : isBareKeyChar c = true) (s : Text) : lineEnd? (c :: s) = none := by
  have hcomment : skipComment (c :: s) = c :: s := by
    unfold skipComment
    split
    · rename_i hhash
      exact absurd (List.cons.inj hhash).1 (ne_of_bare h rfl)
    · rfl
  rw [lineEnd?, skipSpaces_cons (isSpace_of_bare h), hcomment]
  exact if_pos (lineFeedLength_of_bare h s)

theorem keyPart?_bare (hkey : IsBareKey key) {s : Text}
    (hs : ∀ c ∈ s.head?, isBareKeyChar c = false) : keyPart? (key ++ s) = some (key, s) := by
  obtain ⟨c, rest, hkeyed⟩ := List.exists_cons_of_ne_nil hkey.nonempty
  have hc : isBareKeyChar c = true := hkey.bare c (hkeyed ▸ List.mem_cons_self)
  have htake := Text.takeWhile_run hkey.bare hs
  have hdrop := Text.dropWhile_run hkey.bare hs
  have hhead : (key ++ s).head? = some c := by rw [hkeyed]; rfl
  unfold keyPart?
  rw [hhead, htake, hdrop]
  split
  · rename_i hquote
    exact absurd (Option.some.inj hquote) (ne_of_bare hc rfl)
  · rename_i hquote
    exact absurd (Option.some.inj hquote) (ne_of_bare hc rfl)
  · simp [hkey.nonempty]

theorem skipSpaces_key (hkey : IsBareKey key) (s : Text) : skipSpaces (key ++ s) = key ++ s := by
  obtain ⟨c, rest, hkeyed⟩ := List.exists_cons_of_ne_nil hkey.nonempty
  have hc : isBareKeyChar c = true := hkey.bare c (hkeyed ▸ List.mem_cons_self)
  rw [hkeyed, List.cons_append, skipSpaces_cons (isSpace_of_bare hc)]

theorem key?_bare (hkey : IsBareKey key) (limit : Nat) (s : Text) :
    key? (limit + 1) (key ++ ' ' :: '=' :: s) = some (([], key), '=' :: s) := by
  have hpart : keyPart? (key ++ ' ' :: '=' :: s) = some (key, ' ' :: '=' :: s) := by
    apply keyPart?_bare hkey
    intro c hc
    obtain rfl := Option.some.inj hc
    rfl
  rw [key?, skipSpaces_key hkey, hpart]
  rfl

/-- A pair is read up to the end of its line. -/
theorem pair?_written (hkey : IsBareKey key) (depth : Nat) (s rest : Text) :
    pair? (value? depth) (key ++ ' ' :: '=' :: ' ' :: (written s ++ '\n' :: rest)) =
      some (([], key, .scalar (.string s)), '\n' :: rest) := by
  have hread := key?_bare hkey (depthLimit - 1) (' ' :: (written s ++ '\n' :: rest))
  have hvalue := value?_written depth s rest
  have hspaces : skipSpaces (' ' :: (written s ++ '\n' :: rest)) = written s ++ '\n' :: rest := by
    obtain ⟨c, behind, hwritten, hc⟩ := exists_written s
    rw [hwritten, List.cons_append]
    obtain rfl | rfl := hc <;> rfl
  have hlimit : depthLimit - 1 + 1 = depthLimit := rfl
  rw [hlimit] at hread
  simp [pair?, hread, Text.after?, hspaces, hvalue]

theorem line?_written (hkey : IsBareKey key) (draft : Draft) (s rest : Text) :
    draft.line? (key ++ ' ' :: '=' :: ' ' :: (written s ++ '\n' :: rest)) =
      (draft.addPair [] key (.scalar (.string s))).map fun next => (next, '\n' :: rest) := by
  have hpair := pair?_written hkey depthLimit s rest
  obtain ⟨c, behind, hkeyed⟩ := List.exists_cons_of_ne_nil hkey.nonempty
  have hc : c ≠ '[' := ne_of_bare (hkey.bare c (hkeyed ▸ List.mem_cons_self)) rfl
  unfold Draft.line?
  split
  · rename_i hbracket
    rw [hkeyed] at hbracket
    exact absurd (List.cons.inj hbracket).1 hc
  · rename_i hbracket
    rw [hkeyed] at hbracket
    exact absurd (List.cons.inj hbracket).1 hc
  · rw [hpair]
    simp only [Option.bind_eq_bind, Option.bind_some]
    cases draft.addPair [] key (.scalar (.string s)) <;> rfl

/-- Reading goes on behind a line that gives a key a string. -/
theorem lines?_written (hkey : IsBareKey key) (draft : Draft) (limit : Nat) (s rest : Text) :
    draft.lines? (limit + 1) (writtenPair key s ++ rest) =
      (draft.addPair [] key (.scalar (.string s))).bind fun next => next.lines? limit rest := by
  have htext : writtenPair key s ++ rest =
      key ++ ' ' :: '=' :: ' ' :: (written s ++ '\n' :: rest) := by
    simp [writtenPair]
  obtain ⟨c, behind, hkeyed⟩ := List.exists_cons_of_ne_nil hkey.nonempty
  have hc : isBareKeyChar c = true := hkey.bare c (hkeyed ▸ List.mem_cons_self)
  have hline := line?_written hkey draft s rest
  rw [htext, Draft.lines?, skipSpaces_key hkey]
  rw [hkeyed, List.cons_append] at hline ⊢
  simp only [lineEnd?_of_bare hc, hline]
  cases draft.addPair [] (c :: behind) (.scalar (.string s)) with
  | none => rfl
  | some next => rfl

end Keys

section Documents

theorem put_fresh {key : Text} {entries : Value.Entries} (h : ∀ entry ∈ entries, entry.1 ≠ key)
    (value : Value) : Value.put key value entries = entries ++ [(key, value)] := by
  induction entries with
  | nil => rfl
  | cons entry entries ih =>
      obtain ⟨hentry, hentries⟩ := List.forall_mem_cons.mp h
      rw [Value.put, if_neg hentry, ih hentries, List.cons_append]

theorem addPair_fresh {key : Text} {entries : Value.Entries} (h : ∀ entry ∈ entries, entry.1 ≠ key)
    (value : Value) :
    (⟨.table .header entries, []⟩ : Draft).addPair [] key value =
      some ⟨.table .header (entries ++ [(key, value)]), []⟩ := by
  have hfind : Value.find? key entries = none := by
    rw [Value.find?, List.lookup_eq_none_iff]
    intro entry hentry
    simpa using (h entry hentry).symm
  simp [Draft.addPair, Value.changeAt, Value.insert, Value.addEntry, hfind, put_fresh h]

/-- The entries that keys with strings make. -/
def entriesOf (pairs : List (Text × Text)) : Value.Entries :=
  pairs.map fun pair => (pair.1, .scalar (.string pair.2))

theorem lines?_pairs {pairs earlier : List (Text × Text)}
    (hkeys : ∀ pair ∈ pairs, IsBareKey pair.1)
    (hnodup : ((earlier ++ pairs).map Prod.fst).Nodup) {limit : Nat}
    (hlimit : pairs.length < limit) :
    (⟨.table .header (entriesOf earlier), []⟩ : Draft).lines? limit
        (pairs.flatMap fun pair => writtenPair pair.1 pair.2) =
      some ⟨.table .header (entriesOf (earlier ++ pairs)), []⟩ := by
  obtain ⟨limit, rfl⟩ := Nat.exists_eq_succ_of_ne_zero (Nat.ne_zero_of_lt hlimit)
  induction pairs generalizing earlier limit with
  | nil =>
      rw [List.append_nil]
      rfl
  | cons pair pairs ih =>
      obtain ⟨key, s⟩ := pair
      obtain ⟨hkey, hkeys⟩ := List.forall_mem_cons.mp hkeys
      have hfresh : ∀ entry ∈ entriesOf earlier, entry.1 ≠ key := by
        intro entry hentry
        obtain ⟨before, hbefore, rfl⟩ := List.mem_map.mp hentry
        rintro rfl
        rw [List.map_append, List.nodup_append] at hnodup
        exact hnodup.2.2 _ (List.mem_map_of_mem hbefore) _ List.mem_cons_self rfl
      have hentries : entriesOf earlier ++ [(key, .scalar (.string s))] =
          entriesOf (earlier ++ [(key, s)]) := by
        simp [entriesOf]
      have hlast : earlier ++ (key, s) :: pairs = (earlier ++ [(key, s)]) ++ pairs := by simp
      rw [hlast] at hnodup ⊢
      obtain ⟨less, rfl⟩ := Nat.exists_eq_succ_of_ne_zero
        (Nat.ne_zero_of_lt (Nat.lt_of_succ_lt_succ hlimit))
      rw [List.flatMap_cons, lines?_written hkey, addPair_fresh hfresh, hentries]
      exact ih hkeys hnodup less (Nat.lt_of_succ_lt_succ hlimit)

/-- A document of keys with strings is read back as it was written. -/
theorem document?_written {pairs : List (Text × Text)} (hkeys : ∀ pair ∈ pairs, IsBareKey pair.1)
    (hnodup : (pairs.map Prod.fst).Nodup) :
    document? (pairs.flatMap fun pair => writtenPair pair.1 pair.2) = some (entriesOf pairs) := by
  have hlength : pairs.length ≤ (pairs.flatMap fun pair => writtenPair pair.1 pair.2).length := by
    clear hkeys hnodup
    induction pairs with
    | nil => exact Nat.zero_le _
    | cons pair pairs ih =>
        have hpair : 1 ≤ (writtenPair pair.1 pair.2).length := by
          rw [writtenPair, List.length_append]
          exact Nat.le_add_left _ _
        rw [List.flatMap_cons, List.length_append, List.length_cons]
        omega
  have hmark : (pairs.flatMap fun pair => writtenPair pair.1 pair.2).head? ≠ some '\uFEFF' := by
    cases pairs with
    | nil => nofun
    | cons pair pairs =>
        obtain ⟨key, s⟩ := pair
        have hkey : IsBareKey key := (List.forall_mem_cons.mp hkeys).1
        obtain ⟨c, rest, rfl⟩ := List.exists_cons_of_ne_nil hkey.nonempty
        intro hmark
        exact ne_of_bare (hkey.bare c List.mem_cons_self) rfl (Option.some.inj hmark)
  have hlines := lines?_pairs hkeys (show (([] ++ pairs).map Prod.fst).Nodup from hnodup)
    (Nat.lt_succ_of_le hlength)
  have hempty : Draft.empty = ⟨.table .header (entriesOf []), []⟩ := rfl
  rw [document?]
  simp only [if_neg hmark, hempty, hlines, List.nil_append]

end Documents

end StagedMocks.Toml

import StagedMocks.Proofs.Migration.Sites

/-!
The call among the other texts of a body. The marker stands in it at one place, so a call
that is put into a body without the marker is the only one there. An assertion that begins
in the call ends in it as well, or its opening takes the quote behind the payload and then
began in the staging, too; so a call that holds no assertion leaves the search for the first
one where it was.
-/
namespace StagedMocks.Sites

open Statement

variable {body : Text} (sites : Sites body)

/-- Behind the call's first word the marker stands at one place only. -/
theorem marker_position {front x rest : Text} (hx : ¬ Settings.marker {} <:+: x)
    (hrest : ¬ Settings.marker {} <:+: rest)
    (h : front ++ Settings.marker {} <+: x ++ ("try mock(".toList ++ rest)) :
    front = x ++ "try ".toList := by
  obtain hin | ⟨f, rfl, hin⟩ | ⟨v, w, _, hw, hmarker, _, hwp⟩ := Text.occurrence_append_cases h
  · exact absurd ((List.suffix_append front _).isInfix.trans hin.isInfix) hx
  · obtain hin | ⟨f', _, hin⟩ | ⟨v, w, hv, hw, hmarker, hsplit, _⟩ :=
      Text.occurrence_append_cases hin
    · have hplaces : ∀ n < 5, "try mock(".toList.take n ++ Settings.marker {} <+:
          "try mock(".toList → "try mock(".toList.take n = "try ".toList := by decide
      have hf := List.prefix_iff_eq_take.mp ((List.prefix_append f _).trans hin)
      have hshort : f.length < 5 := by
        have hlen := hin.length_le
        have hmarker : (Settings.marker {}).length = 5 := rfl
        have hword : "try mock(".toList.length = 9 := rfl
        rw [List.length_append, hmarker, hword] at hlen
        omega
      rw [hf] at hin ⊢
      rw [hplaces _ hshort hin]
    · exact absurd ((List.suffix_append f' _).isInfix.trans hin.isInfix) hrest
    · -- The parenthesis ends the marker, so the marker cannot go on behind it.
      have hparen : '(' ∈ v := by
        have hword : "try mock".toList ++ ['('] = "try mock(".toList := by decide
        exact Text.last_mem_of_append_eq (hword.trans hsplit.symm) hv
      have hfront : v <+: "mock".toList := by
        have hword : Settings.marker {} = "mock".toList ++ ['('] := by decide
        rw [hword] at hmarker
        refine List.prefix_of_prefix_length_le ⟨w, hmarker.symm⟩ (List.prefix_append _ _) ?_
        have hlen := congrArg List.length hmarker
        have hpos := List.length_pos_iff.mpr hw
        simp only [List.length_append, List.length_singleton] at hlen
        omega
      exact absurd (hfront.subset hparen) (by decide)
  · have hmem : 't' ∈ Settings.marker {} :=
      hmarker ▸ List.mem_append_right v (Text.head_mem_of_begins hw hwp)
    exact absurd hmem (by decide)

/-- The marker's characters differ, so the one behind a cut through the marker tells the cut. -/
theorem marker_cut_unique {v w v' w' s : Text} (hw : w ≠ []) (hw' : w' ≠ [])
    (h : Settings.marker {} = v ++ w) (h' : Settings.marker {} = v' ++ w') (hs : w <+: s)
    (hs' : w' <+: s) : v = v' := by
  have hends : ∀ e ∈ Text.ends (Settings.marker {}), ∀ e' ∈ Text.ends (Settings.marker {}),
      e ≠ [] → e' ≠ [] → e.head? = e'.head? → e = e' := by decide
  have hsame : w = w' := by
    refine hends w (Text.mem_ends.mpr ⟨v, h.symm⟩) w' (Text.mem_ends.mpr ⟨v', h'.symm⟩) hw hw' ?_
    rw [← Text.head?_of_begins hw hs, Text.head?_of_begins hw' hs']
  rw [h, hsame] at h'
  exact List.append_cancel_right h'

theorem head?_ne_of_marker {v w s : Text} (hw : w ≠ []) (h : Settings.marker {} = v ++ w)
    (hs : w <+: s) : s.head? ≠ some 'X' := by
  intro hX
  rw [Text.head?_of_begins hw hs] at hX
  have hmem : 'X' ∈ Settings.marker {} := h ▸ List.mem_append_right v (List.mem_of_head? hX)
  exact absurd hmem (by decide)

/-- The call up to its payload from behind the marker on, and `x` where the payload stands. -/
def callTail (x : Text) : Text :=
  ".GET, ".toList ++ '"' :: (sites.url ++ '"' ::
    (", result: .success(jsonData(named: ".toList ++ '"' :: x))

theorem callUpTo_eq (x : Text) : sites.callUpTo x = "try mock(".toList ++ sites.callTail x := by
  have hopening : callOpening = "try mock(".toList ++ (".GET, ".toList ++ ['"']) := by decide
  have hmiddle : callMiddle =
      ['"'] ++ (", result: .success(jsonData(named: ".toList ++ ['"']) := by decide
  have hparts : ∀ a b c q : Text,
      (a ++ (b ++ q)) ++ (sites.url ++ ((q ++ (c ++ q)) ++ x)) =
        a ++ (b ++ (q ++ (sites.url ++ (q ++ (c ++ (q ++ x)))))) := by
    intro a b c q
    simp only [List.append_assoc]
  rw [callUpTo, hopening, hmiddle, hparts]
  rfl

theorem front_infix : sites.front <:+: body :=
  ⟨[], _, sites.staging_spec.1.symm⟩

theorem back_infix : sites.back <:+: body := by
  refine ⟨sites.front ++ sites.staging, [], Eq.symm ?_⟩
  refine sites.staging_spec.1.trans ?_
  simp only [List.append_assoc, List.append_nil]

theorem payload_infix : sites.payload <:+: body := by
  refine ⟨sites.front ++ stagingOpening, argumentEnd ++ sites.back, Eq.symm ?_⟩
  refine sites.staging_spec.1.trans ?_
  simp only [staging_append, List.append_assoc]

theorem behind_infix : sites.behind <:+: body := by
  refine ⟨sites.before ++ sites.assertion.text, [], Eq.symm ?_⟩
  refine sites.assertion_spec.1.trans ?_
  simp only [List.append_assoc, List.append_nil]

theorem url_infix : sites.url <:+: body := by
  refine ⟨sites.before ++ sites.assertion.opening, sites.assertion.closing ++ sites.behind,
    Eq.symm ?_⟩
  refine sites.assertion_spec.1.trans ?_
  simp only [assertion_text, List.append_assoc]

theorem marker_not_infix_callTail (h : ¬ Settings.marker {} <:+: body) {x : Text}
    (hx : ¬ Settings.marker {} <:+: x) : ¬ Settings.marker {} <:+: sites.callTail x := by
  have hquote : '"' ∉ Settings.marker {} := by decide
  have hfixed : ∀ part ∈ [".GET, ".toList, ", result: .success(jsonData(named: ".toList],
      ¬ Settings.marker {} <:+: part := by
    simp only [← Text.occursIn_iff]
    decide
  intro hin
  obtain hin | hin := (Text.infix_append_cons_iff hquote).mp hin
  · exact hfixed _ (by simp) hin
  obtain hin | hin := (Text.infix_append_cons_iff hquote).mp hin
  · exact h (hin.trans sites.url_infix)
  obtain hin | hin := (Text.infix_append_cons_iff hquote).mp hin
  · exact hfixed _ (by simp) hin
  · exact hx hin

theorem marker_not_infix_payload (h : ¬ Settings.marker {} <:+: body) {rest : Text}
    (hrest : ¬ Settings.marker {} <:+: rest) :
    ¬ Settings.marker {} <:+: sites.payload ++ (callClosing ++ rest) := by
  have hquote : '"' ∉ Settings.marker {} := by decide
  have hparen : ')' ∉ Settings.marker {} := by decide
  intro hin
  obtain hin | hin := (Text.infix_append_cons_iff hquote).mp hin
  · exact h (hin.trans sites.payload_infix)
  obtain hin | hin := (@Text.infix_append_cons_iff _ _ [')', ')'] _ hparen).mp hin
  · exact absurd (Text.occursIn_iff.mpr hin) (by decide)
  · exact hrest hin

theorem marker_prefix_callUpTo (x : Text) :
    "try ".toList ++ Settings.marker {} <+: sites.callUpTo x := by
  have hword : "try ".toList ++ Settings.marker {} = "try mock(".toList := by decide
  rw [callUpTo_eq, hword]
  exact List.prefix_append _ _

/-- The call's marker stands in `x ++ sites.callUpTo y` where it is put, so the call can stand
nowhere else. -/
theorem callUpTo_position (h : ¬ Settings.marker {} <:+: body) {x y z other : Text}
    (hx : ¬ Settings.marker {} <:+: x) (hy : ¬ Settings.marker {} <:+: y)
    (hother : other ++ sites.callUpTo z <+: x ++ sites.callUpTo y) : other = x := by
  have hplace : (other ++ "try ".toList) ++ Settings.marker {} <+:
      x ++ ("try mock(".toList ++ sites.callTail y) := by
    rw [← callUpTo_eq, List.append_assoc]
    refine List.IsPrefix.trans ?_ hother
    rw [List.prefix_append_right_inj]
    exact sites.marker_prefix_callUpTo z
  exact List.append_cancel_right
    (marker_position hx (sites.marker_not_infix_callTail h hy) hplace)

theorem call_not_infix (h : ¬ Settings.marker {} <:+: body) {x : Text} (hx : x <:+: body) :
    ¬ sites.call <:+: x := by
  intro hin
  have hmarker : Settings.marker {} <:+: sites.call := by
    rw [call_eq_upTo]
    exact (List.suffix_append _ _).isInfix.trans (sites.marker_prefix_callUpTo _).isInfix
  exact h (hmarker.trans (hin.trans hx))

theorem once_call (h : ¬ Settings.marker {} <:+: body) {x y : Text} (hx : x <:+: body)
    (hy : y <:+: body) : Text.Once sites.call (x ++ (sites.call ++ y)) := by
  refine ⟨x, ⟨y, List.append_assoc _ _ _⟩, ?_⟩
  intro other hother
  rw [call_eq_upTo, callUpTo_append, List.append_assoc] at hother
  exact sites.callUpTo_position h (fun hin => h (hin.trans hx))
    (sites.marker_not_infix_payload h fun hin => h (hin.trans hy)) hother

/-- The call holds no assertion of its own. -/
def CallClean : Prop :=
  ∀ part, Spells assertionOpenings part → ¬ part <:+: sites.call

theorem call_eq_closing :
    sites.call = sites.callUpTo sites.payload ++ '"' :: [')', ')', ')'] := by
  have hcall := sites.call_append []
  rw [List.append_nil] at hcall
  exact hcall

/-- The call's last character is in no opening, so an opening that begins in the call ends in
it. -/
theorem opening_prefix_of_call {opening e rest : Text} (hopening : opening ∈ assertionOpenings)
    (he : e ≠ []) (hs : e <:+ sites.call) (hp : opening <+: e ++ rest) : opening <+: e := by
  obtain ⟨z, hz⟩ := hs
  obtain hin | ⟨w, _, _, hw⟩ := Text.prefix_append_iff.mp hp
  · exact hin
  · have hlast : ')' ∈ e := by
      have hsplit : (sites.callUpTo sites.payload ++ '"' :: [')', ')']) ++ [')'] = z ++ e := by
        rw [hz, call_eq_closing, List.append_assoc]
        rfl
      exact Text.last_mem_of_append_eq hsplit he
    have hplain : ∀ o ∈ assertionOpenings, ')' ∉ o := by decide
    exact absurd (hw ▸ List.mem_append_left w hlast) (hplain _ hopening)

/-- Where an opening stands in a call that holds no assertion, it takes the quote behind the
payload. -/
theorem opening_in_call (hclean : sites.CallClean) {opening e rest : Text}
    (hopening : opening ∈ assertionOpenings) (he : e ≠ []) (hs : e <:+ sites.call)
    (hp : opening <+: e ++ rest) :
    e = opening ++ [')', ')', ')'] := by
  obtain ⟨e, rfl⟩ := sites.opening_prefix_of_call hopening he hs hp
  obtain ⟨z, hz⟩ := hs
  rw [call_eq_closing, ← List.append_assoc] at hz
  obtain ⟨t, ht, he⟩ | ⟨t, htne, ht, he⟩ := Text.append_eq_append_cases hz
  · -- The argument would end inside the call.
    have hline : '\n' ∉ t := by
      intro hmem
      exact sites.call_line (ht ▸ List.mem_append_right _ hmem)
    refine absurd ⟨z, [')', ')'], ?_⟩ (hclean _ ⟨opening, hopening, t, hline, rfl⟩)
    rw [call_eq_closing, ht, argumentEnd_eq]
    simp only [List.append_assoc, List.cons_append, List.nil_append]
  · cases t with
    | nil => exact absurd rfl htne
    | cons c t =>
        rw [List.cons_append, List.cons.injEq] at he
        obtain ⟨rfl, he⟩ := he
        obtain ⟨hquoted, _⟩ := assertionOpenings_quoted _ hopening
        have hnil : t = [] := by
          refine Decidable.byContradiction fun hne => ?_
          rw [hquoted, ← List.append_assoc, List.append_cons _ '"' t] at ht
          have hmem := he ▸ List.mem_append_left e (Text.last_mem_of_append_eq ht hne)
          exact absurd hmem (by decide)
        rw [hnil] at ht he
        rw [he, List.nil_append]

theorem argument_parens {argument rest s : Text}
    (h : argument ++ (argumentEnd ++ rest) = ')' :: ')' :: s) :
    ∃ inner, argument = ')' :: ')' :: inner ∧ inner ++ (argumentEnd ++ rest) = s := by
  rw [argumentEnd_eq] at h ⊢
  cases argument with
  | nil => cases (List.cons.inj h).1
  | cons c argument =>
      rw [List.cons_append, List.cons.injEq] at h
      cases argument with
      | nil => cases (List.cons.inj h.2).1
      | cons d argument =>
          rw [List.cons_append, List.cons.injEq] at h
          exact ⟨argument, by rw [h.1, h.2.1], h.2.2⟩

/-- With the call's end behind it, no assertion begins in the payload that did not begin there
with the staging's end. -/
theorem silent_payload (h : Scan.Silent assertion? sites.payload (argumentEnd ++ sites.back)) :
    Scan.Silent assertion? sites.payload (callClosing ++ sites.back) := by
  rw [assertion?_reads.silent_iff] at h ⊢
  intro part ⟨opening, hopening, argument, hline, hpart⟩ e he hs hp
  rw [hpart] at hp
  obtain ⟨hquoted, hplain⟩ := assertionOpenings_quoted _ hopening
  have hbegins : opening.dropLast ++ ['"'] <+: e ++ '"' :: (')' :: ')' :: ')' :: sites.back) := by
    rw [← hquoted]
    exact (List.prefix_append _ _).trans hp
  obtain hinside | hend := Text.prefix_append_cons hplain hbegins
  · rw [← hquoted] at hinside
    obtain ⟨y, rfl⟩ := hinside
    have hy : '\n' ∉ y := by
      intro hmem
      exact sites.staging_spec.2.2.1 (hs.subset (List.mem_append_right opening hmem))
    refine h _ ⟨opening, hopening, y, hy, rfl⟩ _ he hs ⟨sites.back, ?_⟩
    simp only [List.append_assoc]
  · -- The opening takes the quote behind the payload, and its argument the parentheses.
    obtain ⟨rest, hp⟩ := hp
    have hclosing : callClosing = ['"'] ++ [')', ')', ')'] := rfl
    have hstaging : argumentEnd = ['"'] ++ [')'] := rfl
    rw [← hend, hclosing, List.append_assoc ['"'], ← List.append_assoc opening.dropLast,
      ← hquoted] at hp
    simp only [List.append_assoc] at hp
    obtain ⟨inner, rfl, hinner⟩ := argument_parens (List.append_cancel_left hp)
    have hinline : '\n' ∉ inner := fun hmem =>
      hline (List.mem_cons_of_mem _ (List.mem_cons_of_mem _ hmem))
    refine h _ ⟨opening, hopening, inner, hinline, rfl⟩ e he hs ⟨rest, ?_⟩
    rw [← hend, hstaging, List.append_assoc ['"'], ← List.append_assoc opening.dropLast,
      ← hquoted, ← hstaging]
    simp only [List.append_assoc, hinner]
    rfl

/-- If an assertion's opening stands nowhere in the call up to the payload, no assertion begins
in the call that did not begin in the staging. -/
theorem silent_call_of_lead {lead : Text}
    (hlead : ∀ opening ∈ assertionOpenings, ¬ opening <:+: lead ++ ['"'])
    (h : Scan.Silent assertion? sites.staging sites.back) :
    Scan.Silent assertion? ((lead ++ ['"']) ++ (sites.payload ++ callClosing)) sites.back := by
  rw [staging, Scan.silent_append_iff, Scan.silent_append_iff] at h
  have hclosing : Scan.Silent assertion? callClosing sites.back := by
    have hword : callClosing = ['"', ')', ')', ')'] := rfl
    simp only [hword, Scan.silent_cons_iff]
    exact ⟨rfl, rfl, rfl, rfl, Scan.silent_nil _⟩
  exact Scan.silent_append_iff.mpr ⟨silent_of_no_opening hlead _,
    Scan.silent_append_iff.mpr ⟨sites.silent_payload h.2.1, hclosing⟩⟩

/-- If the call holds no assertion, none begins in it that did not begin in the staging. -/
theorem silent_call (hclean : sites.CallClean)
    (h : Scan.Silent assertion? sites.staging sites.back) :
    Scan.Silent assertion? sites.call sites.back := by
  have hmiddle : callMiddle = callMiddle.dropLast ++ ['"'] := by decide
  have hsplit : ∀ x, sites.callUpTo x =
      ((callOpening ++ (sites.url ++ callMiddle.dropLast)) ++ ['"']) ++ x := by
    intro x
    rw [callUpTo, hmiddle]
    simp only [List.append_assoc, List.dropLast_concat]
  rw [call_eq_upTo, hsplit]
  refine sites.silent_call_of_lead ?_ h
  rintro opening hopening ⟨x, y, hin⟩
  have hpayload : sites.callUpTo sites.payload = x ++ (opening ++ (y ++ sites.payload)) := by
    rw [hsplit, ← hin]
    simp only [List.append_assoc]
  have hline : '\n' ∉ y ++ sites.payload := by
    intro hmem
    refine sites.call_line ?_
    rw [hpayload]
    exact List.mem_append_right _ (List.mem_append_right _ hmem)
  refine hclean _ ⟨opening, hopening, _, hline, rfl⟩ ⟨x, [')', ')'], ?_⟩
  rw [call_eq_closing, hpayload, argumentEnd_eq]
  simp only [List.append_assoc, List.cons_append, List.nil_append]

/-- An assertion behind the staging is the first one behind any call in which none begins. -/
theorem first?_exchanged_stagingFirst {mid call rest : Text} (hcall : call = callWord ++ rest)
    (hclean : Scan.Silent assertion? sites.staging sites.back →
      Scan.Silent assertion? call sites.back)
    (hbefore : sites.before = sites.front ++ (sites.staging ++ mid))
    (hback : sites.back = mid ++ (sites.assertion.text ++ sites.behind)) :
    Scan.first? assertion? text (sites.front ++ (call ++ sites.back)) =
      some (sites.front ++ (call ++ mid), sites.assertion, sites.behind) := by
  obtain ⟨_, hsilent, hread⟩ := sites.assertion_spec
  rw [hbefore, Scan.silent_append_iff, Scan.silent_append_iff] at hsilent
  obtain ⟨_, hstaging, hmid⟩ := hsilent
  rw [Scan.first?_eq_some_iff assertion?_reads.lawful]
  refine ⟨?_, ?_, hread⟩
  · rw [hback]
    simp only [List.append_assoc]
  · rw [Scan.silent_append_iff, Scan.silent_append_iff]
    refine ⟨?_, ?_, hmid⟩
    · have hfront := sites.silent_front hbefore
      rw [hcall, List.append_assoc, List.append_assoc]
      exact @silent_exchange_word _ sites _ _ _ assertion?_reads assertion_apart_call _ [] hfront _
    · rw [← hback] at hstaging ⊢
      exact hclean hstaging

theorem first?_called_stagingFirst (hclean : sites.CallClean) {mid : Text}
    (hbefore : sites.before = sites.front ++ (sites.staging ++ mid))
    (hback : sites.back = mid ++ (sites.assertion.text ++ sites.behind)) :
    Scan.first? assertion? text sites.called =
      some (sites.front ++ (sites.call ++ mid), sites.assertion, sites.behind) :=
  sites.first?_exchanged_stagingFirst (sites.call_eq_upTo.trans (sites.callUpTo_word _))
    (sites.silent_call hclean) hbefore hback

section EndOfPayload

variable {x u : Text}

theorem call_endOfPayload (hx : sites.payload ++ ['"'] = x ++ sites.assertion.opening) :
    sites.call = sites.callUpTo x ++ (sites.assertion.opening ++ [')', ')', ')']) := by
  rw [call_eq_closing, List.append_cons, callUpTo_append, hx, ← callUpTo_append,
    List.append_assoc]

theorem infix_endOfPayload (hx : sites.payload ++ ['"'] = x ++ sites.assertion.opening) :
    x <:+: body := by
  obtain ⟨hquoted, _⟩ := assertionOpenings_quoted _ sites.assertion_parts.1
  rw [hquoted, ← List.append_assoc] at hx
  have hpayload := List.append_cancel_right hx
  exact List.IsInfix.trans ⟨[], _, hpayload.symm⟩ sites.payload_infix

theorem call_not_infix_endOfPayload (h : ¬ Settings.marker {} <:+: body)
    (hx : sites.payload ++ ['"'] = x ++ sites.assertion.opening) :
    ¬ sites.call <:+: sites.front ++ sites.callUpTo x := by
  intro ⟨other, rest, hin⟩
  have hother : other ++ sites.call <+: sites.front ++ sites.callUpTo x := ⟨rest, hin⟩
  have hsame : other = sites.front := by
    rw [call_eq_upTo] at hother
    exact sites.callUpTo_position h (fun hin => h (hin.trans sites.front_infix))
      (fun hin => h (hin.trans (sites.infix_endOfPayload hx))) hother
  rw [hsame, List.prefix_append_right_inj, sites.call_endOfPayload hx] at hother
  have hlen := hother.length_le
  simp only [List.length_append, List.length_cons] at hlen
  omega

/-- The call stands where it was put, if an opening follows the cut once more, or the cut goes
through its marker. -/
theorem call_position_endOfPayload (h : ¬ Settings.marker {} <:+: body)
    (hx : sites.payload ++ ['"'] = x ++ sites.assertion.opening) {other : Text}
    (hother : other ++ sites.call <+: (sites.front ++ sites.callUpTo x) ++ sites.behind) :
    (other = sites.front ∧ sites.behind.head? = some 'X') ∨
      ∃ v w, w ≠ [] ∧ Settings.marker {} = v ++ w ∧
        (other ++ "try ".toList) ++ v = sites.front ++ sites.callUpTo x ∧
        w <+: sites.behind := by
  have hplace : (other ++ "try ".toList) ++ Settings.marker {} <+:
      (sites.front ++ sites.callUpTo x) ++ sites.behind := by
    refine List.IsPrefix.trans ?_ hother
    rw [List.append_assoc, List.prefix_append_right_inj, call_eq_upTo]
    exact sites.marker_prefix_callUpTo _
  obtain hin | ⟨f, _, hin⟩ | ⟨v, w, _, hw, hmarker, hv, hwp⟩ :=
    Text.occurrence_append_cases hplace
  · refine .inl ?_
    rw [callUpTo_eq] at hin
    have hsame := List.append_cancel_right (marker_position
      (fun hin => h (hin.trans sites.front_infix))
      (sites.marker_not_infix_callTail h fun hin => h (hin.trans (sites.infix_endOfPayload hx)))
      hin)
    refine ⟨hsame, ?_⟩
    rw [hsame, sites.call_endOfPayload hx, List.append_assoc, List.prefix_append_right_inj,
      List.prefix_append_right_inj] at hother
    obtain ⟨rest, hrest⟩ := hother
    have hhead : ∀ opening ∈ assertionOpenings, opening.head? = some 'X' := by decide
    rw [← hrest, List.append_assoc, List.head?_append, hhead _ sites.assertion_parts.1]
    rfl
  · have hmarker := (List.suffix_append f _).isInfix.trans hin.isInfix
    exact absurd (hmarker.trans sites.behind_infix) h
  · exact .inr ⟨v, w, hw, hmarker, hv, hwp⟩

/-- The first character behind the cut tells where the call stands, so it stands once if it lies
across the cut at all. -/
theorem once_endOfPayload_iff (h : ¬ Settings.marker {} <:+: body)
    (hx : sites.payload ++ ['"'] = x ++ sites.assertion.opening) :
    Text.Once sites.call ((sites.front ++ sites.callUpTo x) ++ sites.behind) ↔
      Text.Across sites.call (sites.front ++ sites.callUpTo x) sites.behind := by
  constructor
  · intro honce
    obtain hin | hin | hacross := Text.infix_append_iff.mp honce.occurs
    · exact absurd hin (sites.call_not_infix_endOfPayload h hx)
    · exact absurd hin (sites.call_not_infix h sites.behind_infix)
    · exact hacross
  · intro ⟨v, w, _, _, hcall, ⟨front, hfront⟩, ⟨rest, hrest⟩⟩
    have hplace : front ++ sites.call <+:
        (sites.front ++ sites.callUpTo x) ++ sites.behind := by
      refine ⟨rest, ?_⟩
      rw [hcall, ← hfront, ← hrest]
      simp only [List.append_assoc]
    refine ⟨front, hplace, ?_⟩
    intro other hother
    obtain ⟨rfl, hX⟩ | ⟨v, w, hw, hmarker, hv, hwp⟩ :=
      sites.call_position_endOfPayload h hx hplace
    · obtain ⟨hsame, _⟩ | ⟨v, w, hw, hmarker, _, hwp⟩ :=
        sites.call_position_endOfPayload h hx hother
      · exact hsame
      · exact absurd hX (head?_ne_of_marker hw hmarker hwp)
    · obtain ⟨_, hX⟩ | ⟨v', w', hw', hmarker', hv', hwp'⟩ :=
        sites.call_position_endOfPayload h hx hother
      · exact absurd hX (head?_ne_of_marker hw hmarker hwp)
      · have hcut := marker_cut_unique hw hw' hmarker hmarker' hwp hwp'
        rw [← hcut, ← hv] at hv'
        exact List.append_cancel_right (List.append_cancel_right hv')

theorem silent_endOfPayload (hclean : sites.CallClean)
    (hx : sites.payload ++ ['"'] = x ++ sites.assertion.opening) :
    Scan.Silent assertion? (sites.callUpTo x)
      (sites.assertion.opening ++ ([')', ')', ')'] ++ sites.back)) := by
  rw [assertion?_reads.silent_iff]
  intro part ⟨opening, hopening, argument, _, hpart⟩ e he ⟨z, hz⟩ hp
  have hs : e ++ (sites.assertion.opening ++ [')', ')', ')']) <:+ sites.call :=
    ⟨z, by rw [sites.call_endOfPayload hx, ← hz, List.append_assoc]⟩
  rw [hpart, ← List.append_assoc sites.assertion.opening, ← List.append_assoc e] at hp
  have heq := sites.opening_in_call hclean hopening
    (List.append_ne_nil_of_left_ne_nil he _) hs ((List.prefix_append _ _).trans hp)
  rw [← List.append_assoc] at heq
  have heq := List.append_cancel_right heq
  -- The letter an opening starts with stands nowhere else in one.
  have hhead : ∀ o ∈ assertionOpenings, 'X' ∈ o ∧ 'X' ∉ o.tail := by decide
  cases e with
  | nil => exact absurd rfl he
  | cons c e =>
      have hmem := (hhead _ sites.assertion_parts.1).1
      refine absurd ?_ (hhead _ hopening).2
      rw [← heq, List.cons_append, List.tail_cons]
      exact List.mem_append_right e hmem

/-- If the payload ends in an assertion's opening, the call's parentheses come to the front of
its argument, and the call loses its end. -/
theorem first?_called_endOfPayload (hclean : sites.CallClean)
    (hbefore : sites.before = sites.front ++ (stagingOpening ++ x))
    (hx : sites.payload ++ ['"'] = x ++ sites.assertion.opening) (hurl : sites.url = ')' :: u)
    (hback : sites.back = u ++ (sites.assertion.closing ++ sites.behind)) :
    ∃ a, Scan.first? assertion? text sites.called =
      some (sites.front ++ sites.callUpTo x, a, sites.behind) := by
  obtain ⟨_, _, hread⟩ := sites.assertion_spec
  obtain ⟨hopening, _, _, rest, hclosing, hs⟩ := assertion?_reads.eq_some_iff.mp hread
  have hrest : sites.assertion.closing ++ sites.behind = argumentEnd ++ rest := by
    rw [text] at hs
    simp only [List.append_assoc] at hs
    exact List.append_cancel_left (List.append_cancel_left hs)
  refine ⟨⟨sites.assertion.opening, ')' :: ')' :: sites.url, sites.assertion.closing⟩, ?_⟩
  have htext : text ⟨sites.assertion.opening, ')' :: ')' :: sites.url,
      sites.assertion.closing⟩ ++ sites.behind =
        sites.assertion.opening ++ ([')', ')', ')'] ++ sites.back) := by
    rw [hback, text, hurl]
    simp only [List.append_assoc, List.cons_append, List.nil_append]
  rw [Scan.first?_eq_some_iff assertion?_reads.lawful, htext]
  refine ⟨?_, ?_, ?_⟩
  · rw [called, sites.call_endOfPayload hx]
    simp only [List.append_assoc]
  · rw [Scan.silent_append_iff]
    refine ⟨?_, sites.silent_endOfPayload hclean hx⟩
    have hexchange := @silent_exchange _ sites _ _ _ assertion?_reads assertion_apart_call _ []
      (sites.silent_front hbefore) sites.back
    rw [List.nil_append, sites.call_endOfPayload hx] at hexchange
    simpa only [List.append_assoc] using hexchange
  · refine assertion?_reads.eq_some_iff.mpr ⟨hopening, ?_, ?_, rest, hclosing, ?_⟩
    · simpa using sites.assertion_parts.2.1
    · intro hin
      refine sites.assertion_parts.2.2.1 ?_
      exact argumentEnd_infix_cons (by decide) (argumentEnd_infix_cons (by decide) hin)
    · rw [← htext, text, List.append_assoc, List.append_assoc, hrest]

end EndOfPayload

end StagedMocks.Sites

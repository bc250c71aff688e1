import Conformance.Text.Lines
import Mathlib.Data.List.Basic

/-!
# Trimmed texts and lines

Trimming takes the characters of a class off the ends of a text and nothing else: a text whose ends lie outside the
class is left alone, and a part with such ends is found in a text exactly if it is found in the trimmed text.

Where a line ends stands a blank.  So the last line of a text without blanks at its ends is not empty.  A line feed
between two texts ends a line of the first, or is the second half of the break that ends it, or ends an empty line
behind it: the lines of both are the lines of each.

Main results:

- `trimEnd_append`: trimming an end stops at a character outside the class.
- `dropWhile_trimEnd`: it does not matter which end is trimmed first.
- `exists_trim`: what is taken off.
- `infix_trim_iff`: parts that are not lost by trimming.
- `isBlank_of_isLineBreak`: line breaks are blanks.
- `getLast?_breakLines_trimBlanks`: the last line of a trimmed text is not empty.
- `breakLines_eq_of_unbroken`: a text without line breaks is one line.
- `exists_breakLines_lineFeed`: the lines of two texts with a line feed between them.
-/

namespace Conformance.Text

/-! ## Trimming -/

section Trimming

variable {α : Type} {p : α → Bool} {c first last : α} {front tail part rest text : List α}

/-! ### Ends that stay -/

theorem dropWhile_eq_self (h : ∀ c ∈ text.head?, p c = false) : text.dropWhile p = text := by
  cases text with
  | nil => rfl
  | cons c text => exact List.dropWhile_cons_of_neg (by simp [h c rfl])

/-- Trimming the end of a text stops at a character outside the class. -/
theorem trimEnd_append (h : ∀ c ∈ front.getLast?, p c = false) :
    trimEnd p (front ++ tail) = front ++ trimEnd p tail := by
  have hfront : front.reverse.dropWhile p = front.reverse :=
    dropWhile_eq_self (by rwa [List.head?_reverse])
  rw [trimEnd, List.reverse_append, List.dropWhile_append, hfront]
  split
  · next hempty => simp [trimEnd, List.isEmpty_iff.mp hempty]
  · simp [trimEnd]

theorem trimEnd_eq_self (h : ∀ c ∈ text.getLast?, p c = false) : trimEnd p text = text := by
  have happend : trimEnd p (text ++ []) = text ++ trimEnd p [] := trimEnd_append h
  simpa using happend

theorem trimEnd_prefix (p : α → Bool) (text : List α) : trimEnd p text <+: text := by
  rw [trimEnd, ← List.reverse_suffix, List.reverse_reverse]
  exact List.dropWhile_suffix _

/-- A text with both ends outside a class is left alone. -/
theorem trim_eq_self (hfirst : ∀ c ∈ text.head?, p c = false) (hlast : ∀ c ∈ text.getLast?, p c = false) :
    trim p text = text := by
  rw [trim, dropWhile_eq_self hfirst, trimEnd_eq_self hlast]

/-- A trimmed text does not end in a character of the class. -/
theorem getLast?_trim (h : (trim p text).getLast? = some c) : p c = false := by
  have hnot := List.head?_dropWhile_not p (text.dropWhile p).reverse
  rw [← List.getLast?_reverse, ← trimEnd, ← trim, h] at hnot
  exact hnot

/-- It does not matter which end of a text is trimmed first. -/
theorem dropWhile_trimEnd (p : α → Bool) (text : List α) : (trimEnd p text).dropWhile p = trim p text := by
  have hsplit : text.takeWhile p ++ text.dropWhile p = text := List.takeWhile_append_dropWhile
  have hall : ∀ c ∈ text.takeWhile p, p c = true := List.all_eq_true.mp List.all_takeWhile
  cases hrest : text.dropWhile p with
  | nil =>
      rw [hrest, List.append_nil] at hsplit
      have hend : trimEnd p ([] ++ text) = trimEnd p [] := trimEnd_append_all [] text (hsplit ▸ hall)
      rw [trim, hrest, ← List.nil_append text, hend]
      rfl
  | cons c rest =>
      have hc : p c = false := by
        have hhead := List.head?_dropWhile_not p text
        rwa [hrest] at hhead
      have hfront : trimEnd p ([c] ++ rest) = [c] ++ trimEnd p rest := trimEnd_append (by simpa using hc)
      have hwhole : trimEnd p (text.takeWhile p ++ [c] ++ rest) = text.takeWhile p ++ [c] ++ trimEnd p rest :=
        trimEnd_append (by simpa using hc)
      rw [List.append_assoc, List.singleton_append, ← hrest, hsplit] at hwhole
      rw [trim, hrest, ← List.singleton_append, hfront, hwhole, List.append_assoc,
        List.dropWhile_append_of_pos hall, List.singleton_append, List.dropWhile_cons_of_neg (by simp [hc])]

/-- Characters of the class at either end do not matter. -/
theorem trim_append_all (text : List α) (hfront : ∀ c ∈ front, p c = true) (htail : ∀ c ∈ tail, p c = true) :
    trim p (front ++ text ++ tail) = trim p text := by
  rw [← dropWhile_trimEnd, trimEnd_append_all _ _ htail, dropWhile_trimEnd, trim, List.dropWhile_append_of_pos hfront,
    ← trim]

/-- What trimming takes off either end stands in the class. -/
theorem exists_trim (p : α → Bool) (text : List α) :
    ∃ front tail, text = front ++ trim p text ++ tail ∧ (∀ c ∈ front, p c = true) ∧ ∀ c ∈ tail, p c = true := by
  have hall : ∀ l : List α, ∀ c ∈ l.takeWhile p, p c = true := fun l => List.all_eq_true.mp List.all_takeWhile
  have hend : trimEnd p (text.dropWhile p) ++ ((text.dropWhile p).reverse.takeWhile p).reverse = text.dropWhile p := by
    rw [trimEnd, ← List.reverse_append, List.takeWhile_append_dropWhile, List.reverse_reverse]
  refine ⟨text.takeWhile p, ((text.dropWhile p).reverse.takeWhile p).reverse, ?_, hall text, fun c hc => ?_⟩
  · rw [trim, List.append_assoc, hend, List.takeWhile_append_dropWhile]
  · exact hall _ c (List.mem_reverse.mp hc)

/-- Nothing is left of a text exactly if all of it stands in the class. -/
theorem trim_eq_nil_iff : trim p text = [] ↔ ∀ c ∈ text, p c = true := by
  constructor
  · intro h
    obtain ⟨front, tail, htext, hfront, htail⟩ := exists_trim p text
    rw [h, List.append_nil] at htext
    intro c hc
    rw [htext, List.mem_append] at hc
    exact hc.elim (hfront c) (htail c)
  · intro h
    have htrim := trim_append_all [] h (List.forall_mem_nil (p · = true))
    rwa [List.append_nil, List.append_nil, trim_nil] at htrim

/-! ### Parts that stay -/

/-- A part that begins outside a class is not lost with the characters of the class in front of a text. -/
theorem infix_dropWhile_iff (hfirst : p first = false) :
    first :: rest <:+: text.dropWhile p ↔ first :: rest <:+: text := by
  induction text with
  | nil => rfl
  | cons c text ih =>
      by_cases hc : p c = true
      · rw [List.dropWhile_cons_of_pos hc, ih, List.infix_cons_iff]
        refine (or_iff_right ?_).symm
        intro hprefix
        obtain ⟨rfl, -⟩ := List.cons_prefix_cons.mp hprefix
        rw [hc] at hfirst
        exact Bool.noConfusion hfirst
      · rw [List.dropWhile_cons_of_neg hc]

/-- A part that ends outside a class is not lost with the characters of the class at the end of a text. -/
theorem infix_trimEnd_iff (hlast : p last = false) :
    rest ++ [last] <:+: trimEnd p text ↔ rest ++ [last] <:+: text := by
  rw [trimEnd, ← List.reverse_infix, List.reverse_reverse, List.reverse_concat,
    infix_dropWhile_iff hlast, ← List.reverse_concat, List.reverse_infix]

/-- A part that begins and ends outside a class is not lost by trimming. -/
theorem infix_trim_iff (hfirst : p first = false) (hlast : p last = false) :
    [first, last] <:+: trim p text ↔ [first, last] <:+: text := by
  have hpair : [first, last] = [first] ++ [last] := rfl
  rw [trim, hpair, infix_trimEnd_iff hlast, ← hpair, infix_dropWhile_iff hfirst]

end Trimming

/-! ## Lines -/

variable {text : List CodePoint} {c : CodePoint}

/-! ### The last line -/

theorem isBlank_of_isLineBreak (h : isLineBreak c = true) : isBlank c = true := by
  simp only [isLineBreak, Bool.or_eq_true, Bool.and_eq_true, decide_eq_true_eq, beq_iff_eq] at h
  unfold isBlank
  split
  · simp only [Bool.or_eq_true, Bool.and_eq_true, decide_eq_true_eq]
    omega
  · rw [Ranges.holds_iff]
    have hwide : c.toNat = 0x85 ∨ c.toNat = 0x2028 ∨ c.toNat = 0x2029 := by omega
    rcases hwide with hc | hc | hc
    · exact ⟨(0x85, 0x85), Array.mem_toList_iff.mp (by decide), by omega, by omega⟩
    · exact ⟨(0x2028, 0x2029), Array.mem_toList_iff.mp (by decide), by omega, by omega⟩
    · exact ⟨(0x2028, 0x2029), Array.mem_toList_iff.mp (by decide), by omega, by omega⟩

theorem isLineBreak_eq_false (h : isBlank c = false) : isLineBreak c = false :=
  Bool.eq_false_iff.mpr fun hbreak => Bool.false_ne_true (h.symm.trans (isBlank_of_isLineBreak hbreak))

theorem getLast?_cons_of_getLast? {d : CodePoint} (h : text.getLast? = some d) :
    (c :: text).getLast? = some d := by
  rw [List.getLast?_cons, h]
  rfl

/-- The last line is not empty if a line has begun at the end of the text and no line break stands there. -/
theorem exists_last_breakLinesFrom (done : List (List CodePoint)) (begun : List CodePoint)
    (hbegun : text = [] → begun ≠ []) (hlast : ∀ c, text.getLast? = some c → isLineBreak c = false) :
    ∃ lines line, breakLinesFrom done begun text = lines ++ [line] ∧ line ≠ [] := by
  fun_induction breakLinesFrom done begun text with
  | case1 done => exact absurd rfl (hbegun rfl)
  | case2 done begun => exact ⟨done.reverse, begun.reverse, List.reverse_cons, by simpa using hbegun rfl⟩
  | case3 done begun rest ih =>
      refine ih (fun hrest => ?_) fun d hd => hlast d (getLast?_cons_of_getLast? (getLast?_cons_of_getLast? hd))
      subst hrest
      exact absurd (hlast _ rfl) (by decide)
  | case4 done begun c rest _ hbreak ih =>
      refine ih (fun hrest => ?_) fun d hd => hlast d (getLast?_cons_of_getLast? hd)
      subst hrest
      exact absurd (hlast _ rfl) (by simp [hbreak])
  | case5 done begun c rest _ _ ih =>
      exact ih (fun _ => List.cons_ne_nil c begun) fun d hd => hlast d (getLast?_cons_of_getLast? hd)

/-- A text without blanks at its ends has no line, or its last line is not empty. -/
theorem getLast?_breakLines_trimBlanks {line : List CodePoint}
    (h : (breakLines (trimBlanks text)).getLast? = some line) : line ≠ [] := by
  unfold breakLines at h
  by_cases hempty : trimBlanks text = []
  · rw [hempty] at h
    cases h
  · have hlast : ∀ c, (trimBlanks text).getLast? = some c → isLineBreak c = false := fun c hc =>
      isLineBreak_eq_false (getLast?_trim hc)
    obtain ⟨lines, last, hlines, hne⟩ :=
      exists_last_breakLinesFrom [] [] (fun h => absurd h hempty) hlast
    rw [hlines, List.getLast?_concat] at h
    cases h
    exact hne

/-! ### One line -/

theorem breakLinesFrom_eq_of_unbroken (done : List (List CodePoint)) {begun : List CodePoint}
    (hbegun : begun ≠ []) (h : ∀ c ∈ text, isLineBreak c = false) :
    breakLinesFrom done begun text = done.reverse ++ [begun.reverse ++ text] := by
  induction text generalizing begun with
  | nil => simp [breakLinesFrom]
  | cons c text ih =>
      obtain ⟨hc, htext⟩ := List.forall_mem_cons.mp h
      rw [breakLinesFrom, if_neg (by simp [hc]), ih (List.cons_ne_nil c begun) htext]
      · simp
      · rintro rest rfl
        exact absurd hc (by decide)

/-- A text without line breaks is one line, unless it is empty. -/
theorem breakLines_eq_of_unbroken (hne : text ≠ []) (h : ∀ c ∈ text, isLineBreak c = false) :
    breakLines text = [text] := by
  obtain ⟨c, rest, rfl⟩ := List.exists_cons_of_ne_nil hne
  obtain ⟨hc, hrest⟩ := List.forall_mem_cons.mp h
  rw [breakLines, breakLinesFrom, if_neg (by simp [hc]),
    breakLinesFrom_eq_of_unbroken [] (List.cons_ne_nil c []) hrest]
  · simp
  · rintro tail rfl
    exact absurd hc (by decide)

/-! ### Lines behind one another -/

/-- Lines cut off before stand in front of all others. -/
theorem breakLinesFrom_append (front done : List (List CodePoint)) (begun text : List CodePoint) :
    breakLinesFrom (done ++ front) begun text = front.reverse ++ breakLinesFrom done begun text := by
  fun_induction breakLinesFrom done begun text with
  | case1 done => simp [breakLinesFrom]
  | case2 done begun hbegun => simp [breakLinesFrom]
  | case3 done begun rest ih => rw [breakLinesFrom, ← List.cons_append, ih]
  | case4 done begun c rest hpair hbreak ih =>
      rw [breakLinesFrom, if_pos hbreak, ← List.cons_append, ih]
      exact hpair
  | case5 done begun c rest hpair hbreak ih =>
      rw [breakLinesFrom, if_neg hbreak, ih]
      exact hpair

theorem breakLinesFrom_nil (done : List (List CodePoint)) (text : List CodePoint) :
    breakLinesFrom done [] text = done.reverse ++ breakLines text := by
  rw [← List.nil_append done, breakLinesFrom_append, List.nil_append, breakLines]

/-- A line feed ends the line that has begun. -/
theorem breakLinesFrom_lineFeed (done : List (List CodePoint)) (begun text : List CodePoint) :
    breakLinesFrom done begun (.char '\n' :: text) = (begun.reverse :: done).reverse ++ breakLines text := by
  rw [breakLinesFrom, if_pos (by decide), breakLinesFrom_nil]
  exact fun _ h => absurd h (by decide)

/-- Two texts with a line feed between them have the lines of the first, then perhaps an empty one, which the line
feed ends, then those of the second. -/
theorem exists_breakLinesFrom_lineFeed (done : List (List CodePoint)) (begun text more : List CodePoint) :
    ∃ between, (∀ line ∈ between, line = []) ∧
      breakLinesFrom done begun (text ++ .char '\n' :: more) =
        breakLinesFrom done begun text ++ between ++ breakLines more := by
  fun_induction breakLinesFrom done begun text with
  | case1 done => exact ⟨[[]], by simp, by simp [breakLinesFrom_lineFeed]⟩
  | case2 done begun hbegun => exact ⟨[], by simp, by simp [breakLinesFrom_lineFeed]⟩
  | case3 done begun rest ih =>
      obtain ⟨between, hempty, heq⟩ := ih
      refine ⟨between, hempty, ?_⟩
      rw [List.cons_append, List.cons_append, breakLinesFrom, heq]
  | case4 done begun c rest hpair hbreak ih =>
      by_cases hreturn : c = .char '\r' ∧ rest = []
      · -- the line feed is the second half of a break that begins at the end of the first text
        obtain ⟨rfl, rfl⟩ := hreturn
        refine ⟨[], by simp, ?_⟩
        rw [List.cons_append, List.nil_append, breakLinesFrom.eq_3, breakLinesFrom_nil, List.append_nil]
        rfl
      · obtain ⟨between, hempty, heq⟩ := ih
        refine ⟨between, hempty, ?_⟩
        rw [List.cons_append, breakLinesFrom, if_pos hbreak, heq]
        rintro tail rfl htail
        cases rest with
        | nil => exact hreturn ⟨rfl, rfl⟩
        | cons d rest => exact hpair rest rfl (by rw [(List.cons.inj htail).1])
  | case5 done begun c rest hpair hbreak ih =>
      obtain ⟨between, hempty, heq⟩ := ih
      refine ⟨between, hempty, ?_⟩
      rw [List.cons_append, breakLinesFrom, if_neg hbreak, heq]
      rintro tail rfl
      exact absurd hbreak (by decide)

theorem exists_breakLines_lineFeed (text more : List CodePoint) :
    ∃ between, (∀ line ∈ between, line = []) ∧
      breakLines (text ++ .char '\n' :: more) = breakLines text ++ between ++ breakLines more :=
  exists_breakLinesFrom_lineFeed [] [] text more

end Conformance.Text

import CellMachine.Text.Blank

/-!
# White space round a text

What is left of a text without the white space round it is told without saying how it is found:
nothing but white space is gone from both ends, and no more is left there. There is exactly one such
text, and white space that is put round the whole makes no difference.

## Main statements

* `trim_eq_iff` — the text without the white space round it
* `trim_append_append` — more white space round a text
-/

namespace CellMachine.Text

theorem Ranges.not_holds_of_disjoint {ranges others : Ranges}
    (h : ∀ r ∈ ranges, ∀ s ∈ others, r.2 < s.1 ∨ s.2 < r.1) {c : Char} (hc : ranges.holds c) :
    ¬others.holds c := by
  rw [holds_iff] at hc ⊢
  obtain ⟨r, hr, hfirst, hlast⟩ := hc
  rintro ⟨s, hs, hfirst', hlast'⟩
  have hdisjoint := h r hr s hs
  omega

/-- What ASCII has signs for is no white space. -/
theorem not_isBlank_of_graphic {c : Char} (h : 0x21 ≤ c.toNat ∧ c.toNat ≤ 0x7E) : ¬isBlank c := by
  have hholds : Ranges.holds [(0x21, 0x7E)] c := by simpa [Ranges.holds] using h
  exact Ranges.not_holds_of_disjoint (by decide) hholds

/-- A text that begins and ends with something else than white space, and is all that is left of
another one if white space is taken off its ends. -/
structure IsTrimmed (cs t : List Char) : Prop where
  exists_blanks : ∃ before after, (∀ c ∈ before, isBlank c) ∧ (∀ c ∈ after, isBlank c) ∧
    cs = before ++ t ++ after
  head : ∀ c ∈ t.head?, ¬isBlank c
  last : ∀ c ∈ t.getLast?, ¬isBlank c

variable {before after cs t : List Char}

theorem dropWhile_isBlank_append (hbefore : ∀ c ∈ before, isBlank c)
    (h : ∀ c ∈ cs.head?, ¬isBlank c) : (before ++ cs).dropWhile isBlank = cs := by
  rw [List.dropWhile_append_of_pos hbefore]
  cases cs with
  | nil => rfl
  | cons c cs => exact List.dropWhile_cons_of_neg (h c rfl)

theorem IsTrimmed.trim_eq (h : IsTrimmed cs t) : trim cs = t := by
  obtain ⟨⟨before, after, hbefore, hafter, rfl⟩, hhead, hlast⟩ := h
  have hafter' : ∀ c ∈ after.reverse, isBlank c := by simpa using hafter
  rw [← List.head?_reverse] at hlast
  rw [trim, List.append_assoc]
  cases t with
  | nil =>
    -- there is nothing but white space
    have hnone : ∀ c ∈ ([] : List Char).head?, ¬isBlank c := nofun
    have hnil := dropWhile_isBlank_append hafter hnone
    rw [List.append_nil] at hnil
    rw [List.dropWhile_append_of_pos hbefore, List.nil_append, hnil]
    rfl
  | cons c t =>
    have hhead' : ∀ d ∈ (c :: t ++ after).head?, ¬isBlank d := hhead
    rw [dropWhile_isBlank_append hbefore hhead', List.reverse_append,
      dropWhile_isBlank_append hafter' hlast, List.reverse_reverse]

theorem not_isBlank_of_mem_head?_dropWhile {c : Char} (h : c ∈ (cs.dropWhile isBlank).head?) :
    ¬isBlank c := by
  have hnot := List.head?_dropWhile_not isBlank cs
  rw [h] at hnot
  exact Bool.not_eq_true _ ▸ hnot

theorem isBlank_of_mem_takeWhile {c : Char} (h : c ∈ cs.takeWhile isBlank) : isBlank c :=
  List.all_eq_true.mp List.all_takeWhile c h

theorem isTrimmed_trim (cs : List Char) : IsTrimmed cs (trim cs) := by
  let rest := cs.dropWhile isBlank
  have hrest : rest = trim cs ++ (rest.reverse.takeWhile isBlank).reverse := by
    rw [trim, ← List.reverse_append, List.takeWhile_append_dropWhile, List.reverse_reverse]
  refine ⟨⟨cs.takeWhile isBlank, (rest.reverse.takeWhile isBlank).reverse, ?_, ?_, ?_⟩, ?_, ?_⟩
  · intro c hc
    exact isBlank_of_mem_takeWhile hc
  · intro c hc
    exact isBlank_of_mem_takeWhile (List.mem_reverse.mp hc)
  · rw [List.append_assoc, ← hrest, List.takeWhile_append_dropWhile]
  · intro c hc
    -- the trimmed text begins as the rest does
    have hhead : c ∈ rest.head? := by
      rw [hrest, List.head?_append, Option.mem_def.mp hc]
      rfl
    exact not_isBlank_of_mem_head?_dropWhile hhead
  · intro c hc
    rw [trim, List.getLast?_reverse] at hc
    exact not_isBlank_of_mem_head?_dropWhile hc

/-- **What is left of a text without the white space round it.** -/
theorem trim_eq_iff : trim cs = t ↔ IsTrimmed cs t := by
  constructor
  · rintro rfl
    exact isTrimmed_trim cs
  · exact IsTrimmed.trim_eq

/-- White space round a text makes no difference to what is left of it. -/
theorem trim_append_append (hbefore : ∀ c ∈ before, isBlank c) (hafter : ∀ c ∈ after, isBlank c)
    (cs : List Char) : trim (before ++ cs ++ after) = trim cs := by
  obtain ⟨⟨before', after', hbefore', hafter', hcs⟩, hhead, hlast⟩ := isTrimmed_trim cs
  refine IsTrimmed.trim_eq ⟨⟨before ++ before', after' ++ after, ?_, ?_, ?_⟩, hhead, hlast⟩
  · exact List.forall_mem_append.mpr ⟨hbefore, hbefore'⟩
  · exact List.forall_mem_append.mpr ⟨hafter', hafter⟩
  · calc before ++ cs ++ after
        = before ++ (before' ++ trim cs ++ after') ++ after := by rw [← hcs]
      _ = before ++ before' ++ trim cs ++ (after' ++ after) := by simp only [List.append_assoc]

/-- A text is as it is without the white space round it if it begins and ends otherwise. -/
theorem trim_of_not_isBlank (hhead : ∀ c ∈ cs.head?, ¬isBlank c)
    (hlast : ∀ c ∈ cs.getLast?, ¬isBlank c) : trim cs = cs :=
  IsTrimmed.trim_eq ⟨⟨[], [], nofun, nofun, by simp⟩, hhead, hlast⟩

theorem trim_of_graphic (h : ∀ c ∈ cs, 0x21 ≤ c.toNat ∧ c.toNat ≤ 0x7E) : trim cs = cs := by
  refine trim_of_not_isBlank ?_ ?_
  · intro c hc
    exact not_isBlank_of_graphic (h c (List.mem_of_head? hc))
  · intro c hc
    exact not_isBlank_of_graphic (h c (List.mem_of_getLast? hc))

end CellMachine.Text

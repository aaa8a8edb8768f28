/-
**Texts trimmed and split.**

Trimming removes the blanks at both ends and nothing else, and splitting is undone by writing the mark
between the parts.

* `exists_trimmed`: a text is what trimming leaves of it, between blanks;
* `trimChars_append`: **blanks around a text make no difference**;
* `trimChars_eq_self`: a text without blanks is left as it is;
* `trimChars_append_right`: what is written behind a text is kept with it;
* `splitAt_eq_splitOn`: splitting a text is splitting the row of its characters.
-/

import Mathlib.Data.List.TakeWhile
import ShellSession.Text.Blank
import ShellSession.Text.Split

namespace ShellSession.Text

variable {cs before after more : List Char}

/-! ### Blanks at the ends -/

/-- Characters begin with the blanks in front of what is left without them. -/
theorem exists_blanks (cs : List Char) :
    ∃ before, (∀ c ∈ before, isBlank c) ∧ cs = before ++ cs.dropWhile isBlank :=
  ⟨cs.takeWhile isBlank, fun _ => List.mem_takeWhile_imp, List.takeWhile_append_dropWhile.symm⟩

/-- A text is what trimming leaves of it, between blanks. -/
theorem exists_trimmed (cs : List Char) : ∃ before after, cs = before ++ (trimChars cs ++ after) ∧
    (∀ c ∈ before, isBlank c) ∧ ∀ c ∈ after, isBlank c := by
  obtain ⟨before, blank, front⟩ := exists_blanks cs
  obtain ⟨after, blank', back⟩ := exists_blanks (cs.dropWhile isBlank).reverse
  refine ⟨before, after.reverse, ?_, blank, fun c found => blank' c (List.mem_reverse.mp found)⟩
  rw [trimChars, ← List.reverse_append, ← back, List.reverse_reverse, ← front]

/-- **Blanks around a text make no difference.** -/
theorem trimChars_append (blank : ∀ c ∈ before, isBlank c) (blank' : ∀ c ∈ after, isBlank c) :
    trimChars (before ++ (cs ++ after)) = trimChars cs := by
  unfold trimChars
  rw [List.dropWhile_append_of_pos blank, List.dropWhile_append]
  by_cases none : (cs.dropWhile isBlank).isEmpty
  · rw [if_pos none, List.dropWhile_eq_nil_iff.mpr blank', List.isEmpty_iff.mp none]
  · rw [if_neg none, List.reverse_append,
      List.dropWhile_append_of_pos fun c found => blank' c (List.mem_reverse.mp found)]

/-- A row that does not begin with a blank keeps all its characters. -/
theorem dropWhile_isBlank_eq_self (first : ∀ c ∈ cs.head?, isBlank c = false) :
    cs.dropWhile isBlank = cs := by
  cases cs with
  | nil => rfl
  | cons c rest => exact List.dropWhile_cons_of_neg (by simp [first c rfl])

/-- Where a text does not end with a blank, trimming removes those in front only. -/
theorem trimChars_eq_dropWhile (last : ∀ c ∈ cs.getLast?, isBlank c = false) :
    trimChars cs = cs.dropWhile isBlank := by
  have kept : (cs.dropWhile isBlank).reverse.dropWhile isBlank = (cs.dropWhile isBlank).reverse := by
    refine dropWhile_isBlank_eq_self fun c found => last c ?_
    obtain ⟨before, _, front⟩ := exists_blanks cs
    rw [front, List.getLast?_append, ← List.head?_reverse, found]
    rfl
  rw [trimChars, kept, List.reverse_reverse]

/-- A text without blanks is left as it is. -/
theorem trimChars_eq_self (solid : ∀ c ∈ cs, isBlank c = false) : trimChars cs = cs := by
  rw [trimChars_eq_dropWhile fun c found => solid c (List.mem_of_mem_getLast? found)]
  exact dropWhile_isBlank_eq_self fun c found => solid c (List.mem_of_mem_head? found)

/-- What is written behind a text is kept with it, when neither ends with a blank. -/
theorem trimChars_append_right {c : Char} (found : c ∈ cs) (solid : isBlank c = false)
    (last : ∀ c ∈ cs.getLast?, isBlank c = false)
    (last' : ∀ c ∈ (cs ++ more).getLast?, isBlank c = false) :
    trimChars (cs ++ more) = trimChars cs ++ more := by
  have some : ¬ (cs.dropWhile isBlank).isEmpty := by
    rw [List.isEmpty_iff, List.dropWhile_eq_nil_iff]
    exact fun blank => Bool.false_ne_true (solid.symm.trans (blank c found))
  rw [trimChars_eq_dropWhile last', trimChars_eq_dropWhile last, List.dropWhile_append, if_neg some]

/-! ### Parts -/

/-- Splitting a text is splitting the row of its characters. -/
theorem splitAt_eq_splitOn (mark : Char) (cs : List Char) : splitAt mark cs = cs.splitOn mark := by
  induction cs with
  | nil => rfl
  | cons c rest ih =>
    rw [splitAt, ih, List.splitOn_cons_eq_if_modifyHead]
    by_cases here : c = mark
    · simp [here]
    · rw [if_neg here, if_neg (by simpa using here)]
      obtain ⟨part, parts, same⟩ := List.exists_cons_of_ne_nil (List.splitOn_ne_nil mark rest)
      rw [same]
      rfl

end ShellSession.Text

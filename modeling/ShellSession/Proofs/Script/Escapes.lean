/-
**Escaped paths.**

To escape a path is to quote its brackets in one pass each, and its blanks in another when asked for. A
pass puts a back quote before every character it is for, unless one stands there already, so that passes
can be taken together and a second one finds nothing to do. To remove the escapes gives the path back
exactly when it had none of its own.

* `quoteFrom`, `quote`: one pass, for the characters that are chosen;
* `quoteFrom_quoteFrom`: **two passes are one**;
* `markFrom`: an escaped path with the back quotes marked that have been put in;
* `unescapeChars_escapeFrom_iff`: **which paths are given back**;
* `escape_exact`: **all that escaping does, and when it can be undone**.
-/

import ShellSession.Script.Path

namespace ShellSession.Script.Path

variable {chosen others : Char → Bool} {blanks again : Bool} {before c : Char} {path : List Char}

/-! ### Passes -/

/-- The characters behind `before`, with a back quote put directly before each that is chosen and has
none there. -/
def quoteFrom (chosen : Char → Bool) (before : Char) : List Char → List Char
  | [] => []
  | c :: rest =>
    if chosen c ∧ before ≠ '\x60' then '\x60' :: c :: quoteFrom chosen c rest
    else c :: quoteFrom chosen c rest

/-- A text in which all characters that are chosen, and have no back quote directly before them, are
replaced by a back quote and themselves. -/
def quote (chosen : Char → Bool) (text : String) : String :=
  String.ofList (quoteFrom chosen '\n' text.toList)

theorem quoteFrom_chosen (picked : chosen c = true) (bare : before ≠ '\x60') (rest : List Char) :
    quoteFrom chosen before (c :: rest) = '\x60' :: c :: quoteFrom chosen c rest :=
  if_pos ⟨picked, bare⟩

theorem quoteFrom_other (left : ¬(chosen c = true ∧ before ≠ '\x60')) (rest : List Char) :
    quoteFrom chosen before (c :: rest) = c :: quoteFrom chosen c rest :=
  if_neg left

/-- **Two passes are one**, for what is chosen in either of them. -/
theorem quoteFrom_quoteFrom (plain : chosen '\x60' = false) (path : List Char) (before : Char) :
    quoteFrom chosen before (quoteFrom others before path) =
      quoteFrom (fun c => chosen c || others c) before path := by
  induction path generalizing before with
  | nil => rfl
  | cons c rest ih =>
    by_cases quoted : others c = true ∧ before ≠ '\x60'
    · -- The second pass finds the character behind the back quote of the first.
      obtain ⟨picked, bare⟩ := quoted
      rw [quoteFrom_chosen picked bare, quoteFrom_other (by simp [plain]),
        quoteFrom_other (by simp), ih, quoteFrom_chosen (by simp [picked]) bare]
    · rw [quoteFrom_other quoted]
      by_cases more : chosen c = true ∧ before ≠ '\x60'
      · obtain ⟨picked, bare⟩ := more
        rw [quoteFrom_chosen picked bare, ih, quoteFrom_chosen (by simp [picked]) bare]
      · rw [quoteFrom_other more, ih, quoteFrom_other (by grind)]

theorem quote_quote (plain : chosen '\x60' = false) (text : String) :
    quote chosen (quote others text) = quote (fun c => chosen c || others c) text := by
  simp [quote, quoteFrom_quoteFrom plain]

/-- To escape is to quote what is escapable. -/
theorem escapeFrom_eq (path : List Char) (before : Char) :
    escapeFrom blanks before path = quoteFrom (isEscapable blanks) before path := by
  induction path generalizing before with
  | nil => rfl
  | cons c rest ih => simp [escapeFrom, quoteFrom, ih]

theorem escape_eq_quote (path : String) (blanks : Bool) :
    escape path blanks = quote (isEscapable blanks) path := by
  simp [escape, quote, escapeFrom_eq]

theorem isEscapable_quote (blanks : Bool) : isEscapable blanks '\x60' = false := by
  cases blanks <;> decide

/-- **To escape is to quote brackets that open, then those that close, then blanks when asked for.** -/
theorem escape_eq_passes (path : String) (blanks : Bool) :
    escape path blanks =
      quote (fun c => blanks && c = ' ') (quote (· = ']') (quote (· = '[') path)) := by
  rw [escape_eq_quote, quote_quote (by simp), quote_quote (by simp)]
  congr 1
  funext c
  cases blanks <;> grind [isEscapable, isBracket]

/-- **A path that is escaped again** is escaped for what either time was for. -/
theorem escape_escape (path : String) (blanks again : Bool) :
    escape (escape path blanks) again = escape path (again || blanks) := by
  simp only [escape_eq_quote, quote_quote (isEscapable_quote again)]
  congr 1
  funext c
  cases again <;> cases blanks <;> grind [isEscapable]

theorem isEscapable_iff : isEscapable blanks c = true ↔
    c = '[' ∨ c = ']' ∨ (blanks = true ∧ c = ' ') := by
  simp [isEscapable, isBracket, or_assoc]

/-! ### Back quotes that are put in -/

/-- An escaped path, each character marked with whether it has been put in. -/
def markFrom (blanks : Bool) (before : Char) : List Char → List (Char × Bool)
  | [] => []
  | c :: rest =>
    if isEscapable blanks c ∧ before ≠ '\x60' then
      ('\x60', true) :: (c, false) :: markFrom blanks c rest
    else (c, false) :: markFrom blanks c rest

/-- The marks are on the characters of the escaped path. -/
theorem map_markFrom (blanks : Bool) (path : List Char) (before : Char) :
    (markFrom blanks before path).map Prod.fst = escapeFrom blanks before path := by
  induction path generalizing before with
  | nil => rfl
  | cons c rest ih =>
    unfold markFrom escapeFrom
    split <;> simp [ih]

/-- **Without what has been put in, the path is left.** -/
theorem filter_markFrom (blanks : Bool) (path : List Char) (before : Char) :
    ((markFrom blanks before path).filter fun mark => !mark.2).map Prod.fst = path := by
  induction path generalizing before with
  | nil => rfl
  | cons c rest ih =>
    unfold markFrom
    split <;> simp [ih]

/-- **Nothing but back quotes is put in**, each directly before a character that is escapable and not
directly behind another. -/
theorem inserted_of_markFrom {front rest : List (Char × Bool)}
    (split : markFrom blanks before path = front ++ (c, true) :: rest) :
    c = '\x60' ∧ (front.map Prod.fst).getLastD before ≠ '\x60' ∧
      ∃ next more, rest = (next, false) :: more ∧ isEscapable blanks next = true := by
  induction path generalizing before front with
  | nil => simp [markFrom] at split
  | cons d path ih =>
    unfold markFrom at split
    split at split
    · rename_i quoted
      match front with
      | [] =>
        obtain ⟨⟨rfl, -⟩, rfl⟩ : (('\x60' = c ∧ true = true) ∧ _ = rest) := by simpa using split
        exact ⟨rfl, quoted.2, d, _, rfl, quoted.1⟩
      | [_] => simp at split
      | _ :: _ :: front =>
        obtain ⟨-, rfl, later⟩ : _ ∧ (d, false) = _ ∧ _ := by simpa using split
        simpa only [List.map_cons, List.getLastD_cons] using ih later
    · match front with
      | [] => simp at split
      | _ :: front =>
        obtain ⟨rfl, later⟩ : (d, false) = _ ∧ _ := by simpa using split
        simpa only [List.map_cons, List.getLastD_cons] using ih later

/-- **Behind an escape there is a back quote.** -/
theorem quoted_of_escapeFrom {front rest : List Char}
    (split : escapeFrom blanks before path = front ++ c :: rest)
    (special : isEscapable blanks c = true) : front.getLastD before = '\x60' := by
  induction path generalizing before front with
  | nil => simp [escapeFrom] at split
  | cons d path ih =>
    unfold escapeFrom at split
    split at split
    · rename_i quoted
      match front with
      | [] =>
        obtain ⟨rfl, -⟩ : '\x60' = c ∧ _ := by simpa using split
        simp [isEscapable_quote] at special
      | [_] =>
        obtain ⟨rfl, -⟩ : '\x60' = _ ∧ _ := by simpa using split
        rfl
      | _ :: _ :: front =>
        obtain ⟨-, rfl, later⟩ : _ ∧ d = _ ∧ _ := by simpa using split
        simpa only [List.getLastD_cons] using ih later
    · rename_i left
      match front with
      | [] =>
        obtain ⟨rfl, -⟩ : d = c ∧ _ := by simpa using split
        simpa [special] using left
      | _ :: front =>
        obtain ⟨rfl, later⟩ : d = _ ∧ _ := by simpa using split
        simpa only [List.getLastD_cons] using ih later

/-! ### Escapes removed -/

/-- Whether a back quote stands directly before an escapable character. -/
def HasEscape (path : List Char) : Prop :=
  ∃ next, isEscapable true next = true ∧ ['\x60', next] <:+: path

theorem hasEscape_cons : HasEscape (c :: path) ↔
    (c = '\x60' ∧ ∃ next ∈ path.head?, isEscapable true next = true) ∨ HasEscape path := by
  unfold HasEscape
  constructor
  · rintro ⟨next, special, inside⟩
    rcases List.infix_cons_iff.mp inside with first | further
    · obtain ⟨rfl, rest, same⟩ := List.cons_prefix_cons.mp first
      exact .inl ⟨rfl, next, by simp [← same], special⟩
    · exact .inr ⟨next, special, further⟩
  · rintro (⟨rfl, next, first, special⟩ | ⟨next, special, further⟩)
    · obtain ⟨rest, rfl⟩ := List.head?_eq_some_iff.mp first
      exact ⟨next, special, [], rest, rfl⟩
    · exact ⟨next, special, List.infix_cons further⟩

/-- A character that is no back quote stays. -/
theorem unescapeChars_cons (bare : c ≠ '\x60') :
    unescapeChars (c :: path) = c :: unescapeChars path := by
  simp [unescapeChars, bare]

/-- A back quote before an escapable character goes. -/
theorem unescapeChars_quote (special : isEscapable true c = true) :
    unescapeChars ('\x60' :: c :: path) = unescapeChars (c :: path) := by
  conv => lhs; unfold unescapeChars
  simp [special]

theorem ne_quote_of_isEscapable (special : isEscapable blanks c = true) : c ≠ '\x60' := by
  rintro rfl
  simp [isEscapable_quote] at special

theorem isEscapable_true (special : isEscapable blanks c = true) : isEscapable true c = true := by
  grind [isEscapable]

/-- **A path is given back exactly when it has no escapes of its own.** -/
theorem unescapeChars_escapeFrom_iff (blanks : Bool) (path : List Char) (before : Char) :
    unescapeChars (escapeFrom blanks before path) = path ↔ ¬HasEscape path := by
  induction path generalizing before with
  | nil => simp [escapeFrom, unescapeChars, HasEscape]
  | cons c rest ih =>
    rw [hasEscape_cons]
    by_cases quote : c = '\x60'
    · subst quote
      have kept : escapeFrom blanks before ('\x60' :: rest) = '\x60' :: escapeFrom blanks '\x60' rest := by
        simp [escapeFrom, isEscapable_quote]
      rw [kept]
      cases rest with
      | nil => simp [escapeFrom, unescapeChars, HasEscape]
      | cons next rest =>
        have bare : escapeFrom blanks '\x60' (next :: rest) = next :: escapeFrom blanks next rest := by
          simp [escapeFrom]
        by_cases special : isEscapable true next = true
        · -- The back quote goes, though it is the path's own.
          have goes := ne_quote_of_isEscapable special
          rw [bare, unescapeChars_quote special, unescapeChars_cons goes]
          simp [special, goes]
        · have ih := ih '\x60'
          rw [bare] at ih ⊢
          conv => lhs; lhs; unfold unescapeChars
          simp [special, ih]
    · have further := ih c
      by_cases special : isEscapable blanks c = true ∧ before ≠ '\x60'
      · have put : escapeFrom blanks before (c :: rest) = '\x60' :: c :: escapeFrom blanks c rest :=
          if_pos special
        rw [put, unescapeChars_quote (isEscapable_true special.1), unescapeChars_cons quote]
        simp [quote, further]
      · have left : escapeFrom blanks before (c :: rest) = c :: escapeFrom blanks c rest :=
          if_neg special
        rw [left, unescapeChars_cons quote]
        simp [quote, further]

/-! ### All that escaping does -/

theorem getLast?_eq_of_getLastD {front : List Char} {last other : Char} (different : other ≠ last)
    (same : front.getLastD other = last) : front.getLast? = some last := by
  rw [List.getLastD_eq_getLast?] at same
  cases found : front.getLast? <;> simp_all

/-- **Escaping is exact.** For every path, with or without blanks:

* brackets that open, brackets that close, and blanks when asked for are quoted, in one pass each;
* a path that is escaped already stays as it is;
* in the escaped path each of these characters stands directly behind a back quote;
* nothing is put in but back quotes, each directly before one of these characters that had none, and
  without them the path is left;
* the path is given back by removing the escapes exactly when no back quote stands directly before a
  bracket or a blank in it. -/
theorem escape_exact (path : String) (blanks : Bool) :
    escape path blanks =
      quote (fun c => blanks && c = ' ') (quote (· = ']') (quote (· = '[') path)) ∧
    escape (escape path blanks) blanks = escape path blanks ∧
    (∀ c, c = '[' ∨ c = ']' ∨ (blanks = true ∧ c = ' ') → ∀ front rest,
      (escape path blanks).toList = front ++ c :: rest → front.getLast? = some '\x60') ∧
    (∃ marked : List (Char × Bool), marked.map Prod.fst = (escape path blanks).toList ∧
      (marked.filter fun mark => !mark.2).map Prod.fst = path.toList ∧
      ∀ front c rest, marked = front ++ (c, true) :: rest →
        c = '\x60' ∧ (front.map Prod.fst).getLast? ≠ some '\x60' ∧
          ∃ next more, rest = (next, false) :: more ∧
            (next = '[' ∨ next = ']' ∨ (blanks = true ∧ next = ' '))) ∧
    (unescape (escape path blanks) = path ↔
      ∀ next ∈ ['[', ']', ' '], ¬['\x60', next] <:+: path.toList) := by
  have written : (escape path blanks).toList = escapeFrom blanks '\n' path.toList := by
    simp [escape]
  refine ⟨escape_eq_passes path blanks, ?_, fun c special front rest split => ?_,
    ⟨markFrom blanks '\n' path.toList, ?_, filter_markFrom blanks _ _, ?_⟩, ?_⟩
  · rw [escape_escape, Bool.or_self]
  · rw [written] at split
    exact getLast?_eq_of_getLastD (by decide)
      (quoted_of_escapeFrom split (isEscapable_iff.mpr special))
  · rw [written, map_markFrom]
  · intro front c rest split
    obtain ⟨quote, bare, next, more, rfl, special⟩ := inserted_of_markFrom split
    refine ⟨quote, fun behind => bare ?_, next, more, rfl, isEscapable_iff.mp special⟩
    rw [List.getLastD_eq_getLast?, behind]
    rfl
  · rw [unescape, written, ← String.toList_inj, String.toList_ofList, unescapeChars_escapeFrom_iff]
    unfold HasEscape
    simp [isEscapable_iff]

/-- A path with a bracket that is escaped already, one that is not, and back quotes in a row. -/
example : escape "a\x60\x60[b] c" true = "a\x60\x60[b\x60]\x60 c" := by decide +kernel

end ShellSession.Script.Path

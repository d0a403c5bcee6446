import Mathlib.Algebra.Group.Nat.Defs
/-!
# Windows command lines

A process is started with one line of text and splits it into its arguments itself. `commandLineToArgv`
splits as the C run-time library does (backslashes count only before a quote; inside quotes a doubled
quote stands for one and ends the quotes), `escapeArg` writes an argument so that it comes out of that
unharmed, whatever it is: `argv_makeCmdLine`.
-/
namespace CommandLine

def isBlank (c : Char) : Bool := c == ' ' || c == '\t'

def backslashes (n : Nat) : List Char := List.replicate n '\\'

/-- The next argument and the rest of the line, from inside an argument: `b` is what it has so far, `nslash`
the backslashes just read. -/
def readNextArg : List Char → List Char → Bool → Nat → List Char × List Char
  | [], b, _, nslash => (b ++ backslashes nslash, [])
  | c :: cmd, b, inquote, nslash =>
    if isBlank c && !inquote then (b ++ backslashes nslash, cmd)
    else if c = '"' then
      if nslash % 2 = 0 then
        match inquote, cmd with
        | true, '"' :: cmd => readNextArg cmd (b ++ backslashes (nslash / 2) ++ ['"']) false 0
        | inquote, cmd => readNextArg cmd (b ++ backslashes (nslash / 2)) (!inquote) 0
      else readNextArg cmd (b ++ backslashes (nslash / 2) ++ ['"']) inquote 0
    else if c = '\\' then readNextArg cmd b inquote (nslash + 1)
    else readNextArg cmd (b ++ backslashes nslash ++ [c]) inquote 0

theorem length_readNextArg (cmd b : List Char) (inquote : Bool) (nslash : Nat) :
    (readNextArg cmd b inquote nslash).2.length ≤ cmd.length := by
  fun_induction readNextArg cmd b inquote nslash <;> simp_all <;> omega

/-- The character an argument starts with is read. -/
theorem length_readNextArg_cons (c : Char) (cmd b : List Char) (inquote : Bool) (nslash : Nat) :
    (readNextArg (c :: cmd) b inquote nslash).2.length ≤ cmd.length := by
  rw [readNextArg.eq_def]
  simp only
  split
  · exact Nat.le_refl _
  split
  · split
    · split
      · exact Nat.le_trans (length_readNextArg _ _ _ _) (Nat.le_succ _)
      · exact length_readNextArg _ _ _ _
    · exact length_readNextArg _ _ _ _
  split <;> exact length_readNextArg _ _ _ _

def commandLineToArgv : List Char → List (List Char)
  | [] => []
  | c :: cmd =>
    if isBlank c then commandLineToArgv cmd
    else (readNextArg (c :: cmd) [] false 0).1 :: commandLineToArgv (readNextArg (c :: cmd) [] false 0).2
termination_by cmd => cmd.length
decreasing_by
  · exact Nat.lt_succ_self _
  · exact Nat.lt_succ_of_le (length_readNextArg_cons _ _ _ _ _)

@[simp] theorem argv_nil : commandLineToArgv [] = [] := by rw [commandLineToArgv]

theorem argv_arg {c : Char} (h : isBlank c = false) (cmd : List Char) : commandLineToArgv (c :: cmd) =
    (readNextArg (c :: cmd) [] false 0).1 :: commandLineToArgv (readNextArg (c :: cmd) [] false 0).2 := by
  rw [commandLineToArgv, if_neg (Bool.eq_false_iff.1 h)]

/-! ## Escaping -/

/-- The argument with every quote escaped, and the backslashes it ends with. -/
def escapeChars : Nat → List Char → List Char × Nat
  | slashes, [] => ([], slashes)
  | slashes, c :: s =>
    if c = '\\' then ('\\' :: (escapeChars (slashes + 1) s).1, (escapeChars (slashes + 1) s).2)
    else if c = '"' then (backslashes slashes ++ '\\' :: '"' :: (escapeChars 0 s).1, (escapeChars 0 s).2)
    else (c :: (escapeChars 0 s).1, (escapeChars 0 s).2)

/-- An argument that is empty, or has blanks in it, is put in quotes. -/
def escapeArg (s : List Char) : List Char :=
  if s = [] ∨ s.any isBlank = true then
    '"' :: ((escapeChars 0 s).1 ++ backslashes (escapeChars 0 s).2 ++ ['"'])
  else (escapeChars 0 s).1

def makeCmdLine : List (List Char) → List Char
  | [] => []
  | [s] => escapeArg s
  | s :: rest => escapeArg s ++ ' ' :: makeCmdLine rest

/-! ## Reading what was escaped -/

section
variable {cmd b : List Char} {inquote : Bool} {nslash : Nat}

theorem backslashes_succ (n : Nat) : backslashes (n + 1) = backslashes n ++ ['\\'] := List.replicate_succ'

theorem readNextArg_backslash : readNextArg ('\\' :: cmd) b inquote nslash = readNextArg cmd b inquote (nslash + 1) := by
  rw [readNextArg.eq_def]
  simp [isBlank]

theorem readNextArg_backslashes (n : Nat) :
    readNextArg (backslashes n ++ cmd) b inquote nslash = readNextArg cmd b inquote (nslash + n) := by
  induction n generalizing nslash with
  | zero => rfl
  | succ n ih =>
    rw [backslashes, List.replicate_succ, List.cons_append, readNextArg_backslash]
    rw [show List.replicate n '\\' = backslashes n from rfl, ih, Nat.add_assoc, Nat.add_comm 1 n]

/-- A quote after an odd number of backslashes is one of the argument. -/
theorem readNextArg_escaped (n : Nat) :
    readNextArg ('\\' :: '"' :: cmd) b inquote (2 * n) = readNextArg cmd (b ++ backslashes n ++ ['"']) inquote 0 := by
  have hhalf : (2 * n + 1) / 2 = n := by omega
  rw [readNextArg_backslash, readNextArg.eq_def]
  simp [isBlank, hhalf]

/-- A quote after an even number of backslashes opens or closes, when no quote follows. -/
theorem readNextArg_quote (n : Nat) (h : cmd.head? ≠ some '"') :
    readNextArg ('"' :: cmd) b inquote (2 * n) = readNextArg cmd (b ++ backslashes n) (!inquote) 0 := by
  have heven : 2 * n % 2 = 0 := by omega
  have hhalf : 2 * n / 2 = n := by omega
  rw [readNextArg.eq_def]
  simp only [isBlank, Char.reduceBEq, Bool.or_self, Bool.false_and, Bool.false_eq_true, if_false, if_true, heven, hhalf]
  split
  · exact absurd rfl h
  · rfl

/-- One that opens does whatever follows. -/
theorem readNextArg_open : readNextArg ('"' :: cmd) b false 0 = readNextArg cmd b true 0 := by
  rw [readNextArg.eq_def]
  simp [isBlank, backslashes]

/-- A character that is neither a quote nor a backslash, nor a blank that ends the argument. -/
theorem readNextArg_plain {c : Char} (hblank : isBlank c = true → inquote = true) (hquote : c ≠ '"') (hslash : c ≠ '\\') :
    readNextArg (c :: cmd) b inquote nslash = readNextArg cmd (b ++ backslashes nslash ++ [c]) inquote 0 := by
  have hstays : ¬ (isBlank c && !inquote) = true := by
    rw [Bool.and_eq_true, Bool.not_eq_true']
    rintro ⟨hc, hq⟩
    rw [hblank hc] at hq
    cases hq
  rw [readNextArg.eq_def]
  simp only [if_neg hstays, if_neg hquote, if_neg hslash]

/-- **What is escaped is read back**: the argument stands in what has been read and the backslashes pending. -/
theorem readNextArg_escapeChars (s cmd b : List Char) (inquote : Bool) (nslash : Nat)
    (hblank : s.any isBlank = true → inquote = true) : ∃ b',
    readNextArg ((escapeChars nslash s).1 ++ cmd) b inquote nslash =
      readNextArg cmd b' inquote (escapeChars nslash s).2 ∧
    b' ++ backslashes (escapeChars nslash s).2 = b ++ backslashes nslash ++ s := by
  induction s generalizing b nslash with
  | nil => exact ⟨b, rfl, (List.append_nil _).symm⟩
  | cons c s ih =>
    have hrest : s.any isBlank = true → inquote = true := fun h => hblank (by rw [List.any_cons, h, Bool.or_true])
    by_cases hslash : c = '\\'
    · subst hslash
      obtain ⟨b', hread, hb⟩ := ih b (nslash + 1) hrest
      refine ⟨b', ?_, ?_⟩
      · simp only [escapeChars, if_true, List.cons_append]
        rw [readNextArg_backslash, hread]
      · simp only [escapeChars, if_true]
        rw [hb, backslashes_succ]
        simp
    · by_cases hquote : c = '"'
      · subst hquote
        obtain ⟨b', hread, hb⟩ := ih (b ++ backslashes nslash ++ ['"']) 0 hrest
        refine ⟨b', ?_, ?_⟩
        · simp only [escapeChars, Char.reduceEq, if_false, if_true]
          rw [List.append_assoc, readNextArg_backslashes, List.cons_append, List.cons_append, ← Nat.two_mul,
            readNextArg_escaped, hread]
        · simp only [escapeChars, Char.reduceEq, if_false, if_true]
          rw [hb]
          simp [backslashes]
      · obtain ⟨b', hread, hb⟩ := ih (b ++ backslashes nslash ++ [c]) 0 hrest
        refine ⟨b', ?_, ?_⟩
        · simp only [escapeChars, if_neg hslash, if_neg hquote, List.cons_append]
          rw [readNextArg_plain (fun hc => hblank (by rw [List.any_cons, hc, Bool.true_or])) hquote hslash, hread]
        · simp only [escapeChars, if_neg hslash, if_neg hquote]
          rw [hb]
          simp [backslashes]

/-- What comes after an argument: nothing, or a blank and the rest of the line. -/
def Ends (cmd rest : List Char) : Prop := cmd = [] ∧ rest = [] ∨ cmd = ' ' :: rest

theorem readNextArg_ends {rest : List Char} (h : Ends cmd rest) :
    readNextArg cmd b false nslash = (b ++ backslashes nslash, rest) := by
  obtain ⟨rfl, rfl⟩ | rfl := h
  · rfl
  · simp [readNextArg, isBlank]

theorem Ends.head_ne {rest : List Char} (h : Ends cmd rest) : cmd.head? ≠ some '"' := by
  obtain ⟨rfl, -⟩ | rfl := h <;> simp

/-- An argument in quotes. -/
theorem readNextArg_inQuotes (s : List Char) {rest : List Char} (h : Ends cmd rest) :
    readNextArg ('"' :: ((escapeChars 0 s).1 ++ backslashes (escapeChars 0 s).2 ++ '"' :: cmd)) [] false 0 = (s, rest) := by
  obtain ⟨b', hread, hb⟩ :=
    readNextArg_escapeChars s (backslashes (escapeChars 0 s).2 ++ '"' :: cmd) [] true 0 fun _ => rfl
  rw [List.append_assoc, readNextArg_open, hread, readNextArg_backslashes, ← Nat.two_mul, readNextArg_quote _ h.head_ne, hb,
    Bool.not_true, readNextArg_ends h]
  simp [backslashes]

/-- **One argument** is read back and the rest of the line left. -/
theorem readNextArg_escapeArg (s : List Char) {rest : List Char} (h : Ends cmd rest) :
    readNextArg (escapeArg s ++ cmd) [] false 0 = (s, rest) := by
  unfold escapeArg
  split
  · have hread := readNextArg_inQuotes s h
    simpa using hread
  · rename_i hplain
    obtain ⟨b', hread, hb⟩ := readNextArg_escapeChars s cmd [] false 0 fun hany => absurd (Or.inr hany) hplain
    rw [hread, readNextArg_ends h, hb]
    simp [backslashes]

end

/-! ## Whole lines -/

theorem escapeArg_head (s : List Char) : ∃ c tail, escapeArg s = c :: tail ∧ isBlank c = false := by
  unfold escapeArg
  split
  · exact ⟨_, _, rfl, rfl⟩
  · rename_i hplain
    rw [not_or] at hplain
    cases s with
    | nil => exact absurd rfl hplain.1
    | cons c s =>
      by_cases hslash : c = '\\'
      · exact ⟨'\\', (escapeChars 1 s).1, by simp [escapeChars, hslash], rfl⟩
      by_cases hquote : c = '"'
      · exact ⟨'\\', '"' :: (escapeChars 0 s).1, by simp [escapeChars, hquote, backslashes], rfl⟩
      · refine ⟨c, (escapeChars 0 s).1, by simp [escapeChars, hslash, hquote], ?_⟩
        cases hblank : isBlank c with
        | false => rfl
        | true => exact absurd (by rw [List.any_cons, hblank, Bool.true_or]) hplain.2

theorem argv_escapeArg (s : List Char) {cmd rest : List Char} (h : Ends cmd rest) :
    commandLineToArgv (escapeArg s ++ cmd) = s :: commandLineToArgv rest := by
  have hread := readNextArg_escapeArg s h
  obtain ⟨c, tail, hhead, hblank⟩ := escapeArg_head s
  rw [hhead, List.cons_append] at hread ⊢
  rw [argv_arg hblank, hread]

/-- **The round trip**: what is started with the line gets the arguments it was written for. -/
theorem argv_makeCmdLine (args : List (List Char)) : commandLineToArgv (makeCmdLine args) = args := by
  induction args with
  | nil => exact argv_nil
  | cons s rest ih =>
    cases rest with
    | nil =>
      have hlast := argv_escapeArg s (Or.inl ⟨(rfl : [] = []), rfl⟩)
      rwa [List.append_nil, argv_nil] at hlast
    | cons r rest => rw [makeCmdLine.eq_def, argv_escapeArg s (Or.inr rfl), ih]

/-- A text that can stand between quotes as it is, such as the path of a program. -/
structure Quotable (s : List Char) : Prop where
  quotes : '"' ∉ s
  last : s.getLast? ≠ some '\\'

theorem escapeChars_quotable {s : List Char} (h : '"' ∉ s) (n : Nat) : (escapeChars n s).1 = s := by
  induction s generalizing n with
  | nil => rfl
  | cons c s ih =>
    rw [List.mem_cons, not_or] at h
    by_cases hslash : c = '\\'
    · simp [escapeChars, hslash, ih h.2]
    · simp [escapeChars, hslash, Ne.symm h.1, ih h.2]

theorem escapeChars_last {s : List Char} (h : s.getLast? ≠ some '\\') (n : Nat) :
    (escapeChars n s).2 = if s = [] then n else 0 := by
  induction s generalizing n with
  | nil => rfl
  | cons c s ih =>
    have hrest : s.getLast? ≠ some '\\' := by
      cases s with
      | nil => simp
      | cons d s => rwa [List.getLast?_cons_cons] at h
    rw [if_neg (List.cons_ne_nil _ _)]
    by_cases hslash : c = '\\'
    · have hne : s ≠ [] := by
        rintro rfl
        exact h (by rw [hslash]; rfl)
      simp [escapeChars, hslash, ih hrest, hne]
    by_cases hquote : c = '"'
    · simp [escapeChars, hquote, ih hrest]
    · simp [escapeChars, hslash, hquote, ih hrest]

/-- A line that starts with a text in quotes. -/
theorem argv_quoted {s : List Char} (h : Quotable s) {cmd rest : List Char} (hends : Ends cmd rest) :
    commandLineToArgv ('"' :: (s ++ '"' :: cmd)) = s :: commandLineToArgv rest := by
  have hread := readNextArg_inQuotes s hends
  rw [escapeChars_quotable h.quotes, escapeChars_last h.last, ite_self, backslashes, List.replicate_zero, List.append_nil]
    at hread
  rw [argv_arg (by rfl), hread]

end CommandLine

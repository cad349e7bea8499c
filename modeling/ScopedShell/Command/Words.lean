import ScopedShell.Fault

/-!
# Command lines

A command line is a text that spells a list of words. Words are separated by blanks: space, tab,
line feed and carriage return. Single quotes keep everything up to the next one, double quotes keep
everything but the backslash in front of a double quote or a backslash, and outside quotes a
backslash keeps the character after it. `joinWords` writes a list of words, and `splitWords` reads
it back (`splitWords_joinWords`).
-/

namespace ScopedShell

namespace Command

def isWordBlank (c : Char) : Bool :=
  c == ' ' || c == '\t' || c == '\n' || c == '\r'

/-- Where a reader stands: between words, in a word, behind a backslash, or inside quotes. -/
inductive Mode
  | between
  | inWord
  | escaped
  | inSingle
  | inDouble
  | escapedInDouble
deriving DecidableEq, Repr

/-- Reads the words of the rest of a line; `word` is what has been read of the current one. -/
def splitFrom : Mode → Text → Text → Except SplitFault (List Text)
  | .between, _, [] => .ok []
  | .inWord, word, [] => .ok [word]
  | .escaped, _, [] | .escapedInDouble, _, [] => .error .noEscapedCharacter
  | .inSingle, _, [] | .inDouble, _, [] => .error .noClosingQuotation
  | .between, word, c :: rest =>
    if isWordBlank c then splitFrom .between word rest
    else if c = '\\' then splitFrom .escaped word rest
    else if c = '\'' then splitFrom .inSingle word rest
    else if c = '"' then splitFrom .inDouble word rest
    else splitFrom .inWord (word ++ [c]) rest
  | .inWord, word, c :: rest =>
    if isWordBlank c then (splitFrom .between [] rest).map (word :: ·)
    else if c = '\\' then splitFrom .escaped word rest
    else if c = '\'' then splitFrom .inSingle word rest
    else if c = '"' then splitFrom .inDouble word rest
    else splitFrom .inWord (word ++ [c]) rest
  | .escaped, word, c :: rest => splitFrom .inWord (word ++ [c]) rest
  | .inSingle, word, c :: rest =>
    if c = '\'' then splitFrom .inWord word rest else splitFrom .inSingle (word ++ [c]) rest
  | .inDouble, word, c :: rest =>
    if c = '"' then splitFrom .inWord word rest
    else if c = '\\' then splitFrom .escapedInDouble word rest
    else splitFrom .inDouble (word ++ [c]) rest
  | .escapedInDouble, word, c :: rest =>
    if c = '"' ∨ c = '\\' then splitFrom .inDouble (word ++ [c]) rest
    else splitFrom .inDouble (word ++ ['\\', c]) rest

def splitWords (line : Text) : Except SplitFault (List Text) :=
  splitFrom .between [] line

def isPlain (c : Char) : Bool :=
  c.isAlphanum || c ∈ ("_@%+=:,./-" : Text)

/-- A character inside single quotes; a single quote steps out of them and back. -/
def quotedWordChar (c : Char) : Text :=
  if c = '\'' then "'\"'\"'" else [c]

def quoteWord (word : Text) : Text :=
  if word ≠ [] ∧ word.all isPlain then word
  else '\'' :: word.flatMap quotedWordChar ++ ['\'']

def joinWords : List Text → Text
  | [] => []
  | [word] => quoteWord word
  | word :: words => quoteWord word ++ ' ' :: joinWords words

/-! ## Written words are read back -/

theorem not_special_of_isPlain {c : Char} (h : isPlain c = true) :
    isWordBlank c = false ∧ c ≠ '\\' ∧ c ≠ '\'' ∧ c ≠ '"' := by
  refine ⟨?_, ?_, ?_, ?_⟩
  · cases hb : isWordBlank c with
    | false => rfl
    | true =>
      simp only [isWordBlank, Bool.or_eq_true, beq_iff_eq] at hb
      rcases hb with ((rfl | rfl) | rfl) | rfl <;> exact absurd h (by decide)
  all_goals
    rintro rfl
    exact absurd h (by decide)

theorem splitFrom_plain {word part : Text} (h : part.all isPlain = true) (rest : Text) :
    splitFrom .inWord word (part ++ rest) = splitFrom .inWord (word ++ part) rest := by
  induction part generalizing word with
  | nil => simp
  | cons c part ih =>
    simp only [List.all_cons, Bool.and_eq_true] at h
    obtain ⟨hblank, hbackslash, hsingle, hdouble⟩ := not_special_of_isPlain h.1
    rw [List.cons_append, splitFrom]
    simp only [hblank, hbackslash, hsingle, hdouble, if_false, Bool.false_eq_true]
    rw [ih h.2]
    simp

theorem splitFrom_quotedWord (word part rest : Text) :
    splitFrom .inSingle word (part.flatMap quotedWordChar ++ '\'' :: rest) =
      splitFrom .inWord (word ++ part) rest := by
  induction part generalizing word with
  | nil => simp [splitFrom]
  | cons c part ih =>
    by_cases hc : c = '\''
    · subst hc
      have hquote : quotedWordChar '\'' = ['\'', '"', '\'', '"', '\''] := rfl
      simp only [List.flatMap_cons, hquote, List.cons_append, List.nil_append]
      simp only [splitFrom]
      simpa [isWordBlank] using ih (word ++ ['\''])
    · simp only [List.flatMap_cons, quotedWordChar, if_neg hc, List.cons_append, List.nil_append]
      rw [splitFrom, if_neg hc, ih]
      simp

/-- A written word is read as that word, wherever the line goes on. -/
theorem splitFrom_quoteWord (word rest : Text) :
    splitFrom .between [] (quoteWord word ++ rest) = splitFrom .inWord word rest := by
  rw [quoteWord]
  split
  · next h =>
    obtain ⟨c, part, rfl⟩ := List.exists_cons_of_ne_nil h.1
    simp only [List.all_cons, Bool.and_eq_true] at h
    obtain ⟨hblank, hbackslash, hsingle, hdouble⟩ := not_special_of_isPlain h.2.1
    rw [List.cons_append, splitFrom]
    simp only [hblank, hbackslash, hsingle, hdouble, if_false, Bool.false_eq_true]
    rw [splitFrom_plain h.2.2]
    simp
  · have hquote : isWordBlank '\'' = false := rfl
    simp only [List.cons_append, List.append_assoc, List.nil_append]
    rw [splitFrom]
    simpa [hquote] using splitFrom_quotedWord [] word rest

theorem splitWords_joinWords (words : List Text) : splitWords (joinWords words) = .ok words := by
  rw [splitWords]
  induction words with
  | nil => rfl
  | cons word words ih =>
    cases words with
    | nil =>
      have h := splitFrom_quoteWord word []
      rw [List.append_nil] at h
      rw [joinWords, h, splitFrom]
    | cons next others =>
      rw [joinWords, splitFrom_quoteWord, splitFrom]
      · simp only [isWordBlank, beq_self_eq_true, Bool.true_or, if_true]
        rw [ih]
        rfl
      · simp

end Command

end ScopedShell

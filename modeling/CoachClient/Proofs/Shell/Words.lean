/-
CoachClient.Proofs.Shell.Words — a line that is written is split into its words again.

* `wordsFrom_quoteChar` — a character between quotes adds itself to the word that is read.
* `wordsFrom_quoteWord` — a word between quotes adds itself.
* `splitWords_writeWords` — a line with given words has these words.
* `typed_command_is_read_back` — so every command can be typed.

A word is begun by its first quote and goes on until a blank outside quotes, and since
every character of it stands between quotes of its own, there is no such blank in it. An
empty word has a pair of quotes with nothing between them, so that it is begun as well.
-/
import CoachClient.Proofs.Command.Spelling
import CoachClient.Shell.Loop

namespace CoachClient

open CoachClient.Command CoachClient.Shell CoachClient.Text

namespace Shell

/-! ## 1. One word -/

/-- A quoted character is the next one of the word. -/
theorem wordsFrom_quoteChar (sofar : List Char) (c : Char) (rest : List Char) :
    wordsFrom (.word sofar) (quoteChar c ++ rest) = wordsFrom (.word (c :: sofar)) rest := by
  by_cases hdouble : c = doubleQuote
  · subst hdouble
    rfl
  · have hquote : isQuote doubleQuote = true := rfl
    simp [quoteChar, hdouble, wordsFrom, hquote]

/-- Its first one, if the word has not begun. -/
theorem wordsFrom_between_quoteChar (c : Char) (rest : List Char) :
    wordsFrom .between (quoteChar c ++ rest) = wordsFrom (.word [c]) rest := by
  by_cases hdouble : c = doubleQuote
  · subst hdouble
    rfl
  · have hquote : isQuote doubleQuote = true := rfl
    simp [quoteChar, hdouble, wordsFrom, hquote]

/-- Quoted characters are the next ones of the word. -/
theorem wordsFrom_flatMap_quoteChar (sofar cs rest : List Char) :
    wordsFrom (.word sofar) (cs.flatMap quoteChar ++ rest)
      = wordsFrom (.word (cs.reverse ++ sofar)) rest := by
  induction cs generalizing sofar with
  | nil => rfl
  | cons c cs ih =>
    rw [List.flatMap_cons, List.append_assoc, wordsFrom_quoteChar, ih]
    simp

/-- A quoted word is read as a word, whatever follows it. -/
theorem wordsFrom_quoteWord (word : String) (rest : List Char) :
    wordsFrom .between (quoteWord word ++ rest)
      = wordsFrom (.word word.toList.reverse) rest := by
  cases hchars : word.toList with
  | nil =>
    have hempty : word.isEmpty = true := by simpa using hchars
    rw [quoteWord, if_pos hempty]
    rfl
  | cons c cs =>
    have hbegun : ¬ word.isEmpty = true := by
      simp [String.isEmpty_iff, ← String.toList_eq_nil_iff, hchars]
    rw [quoteWord, if_neg hbegun, hchars, List.flatMap_cons, List.append_assoc,
      wordsFrom_between_quoteChar, wordsFrom_flatMap_quoteChar]
    simp

/-! ## 2. All words -/

/-- No quote is blank. -/
theorem isQuote_of_isBlank {c : Char} (h : isBlank c = true) : isQuote c = false := by
  cases hquote : isQuote c with
  | false => rfl
  | true =>
    have hmark : c = doubleQuote ∨ c = singleQuote := by simpa [isQuote] using hquote
    rcases hmark with rfl | rfl
    · exact absurd h (by decide)
    · exact absurd h (by decide)

/-- A blank ends a word. -/
theorem wordsFrom_word_blank {c : Char} (h : isBlank c = true) (sofar rest : List Char) :
    wordsFrom (.word sofar) (c :: rest)
      = (wordsFrom .between rest).map (sofar.reverse :: ·) := by
  cases hrest : wordsFrom .between rest <;>
    simp [wordsFrom, isQuote_of_isBlank h, h, hrest, bind, Except.bind, Except.map]

/-- The words of a line are those it was written with. -/
theorem wordsFrom_writeWords (words : List String) :
    wordsFrom .between (List.intercalate [' '] (words.map quoteWord))
      = .ok (words.map String.toList) := by
  induction words with
  | nil => rfl
  | cons word words ih =>
    cases words with
    | nil =>
      have hread := wordsFrom_quoteWord word []
      rw [List.append_nil] at hread
      simp [List.intercalate, hread, wordsFrom]
    | cons next words =>
      have hline : List.intercalate [' '] ((word :: next :: words).map quoteWord)
          = quoteWord word ++ ' ' :: List.intercalate [' '] ((next :: words).map quoteWord) := by
        simp [List.intercalate]
      rw [hline, wordsFrom_quoteWord, wordsFrom_word_blank (by decide), ih]
      simp [Except.map]

/-- A line is split into the words it was written with. -/
theorem splitWords_writeWords (words : List String) :
    splitWords (writeWords words) = .ok words := by
  simp [splitWords, writeWords, wordsFrom_writeWords, Except.map, Function.comp_def]

/-! ## 3. Typed commands -/

/-- No command has no words. -/
theorem words_ne_nil (c : Command) : c.words ≠ [] := by
  have hpath : c.parts.path ≠ [] := by
    cases c with
    | guarded g => cases g <;> simp [Command.parts]
    | _ => simp [Command.parts]
  simp [Command.words, Matched.words, hpath]

/-- Every command can be typed: a line with its words is split into them, they are read as
the command, and so the line is one that says this command. -/
theorem typed_command_is_read_back (c : Command) :
    splitWords (writeWords c.words) = .ok c.words ∧ readCommand c.words = .ok c ∧
      readLine (writeWords c.words) = .command c := by
  have hsplit : splitWords (writeWords c.words) = .ok c.words := splitWords_writeWords c.words
  have hread : readCommand c.words = .ok c := readCommand_words c
  refine ⟨hsplit, hread, ?_⟩
  cases hwords : c.words with
  | nil => exact absurd hwords (words_ne_nil c)
  | cons word words =>
    rw [hwords] at hsplit hread
    simp [readLine, hsplit, hread]

end Shell

end CoachClient

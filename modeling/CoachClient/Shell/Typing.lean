/-
CoachClient.Shell.Typing — lines of typed input.

* `takeLine` — the next line of the input, without the mark at its end, and what
  follows it.
* `ReadFault` — why there is no line.
* `LineReader` — where lines come from; `LineReader.stream` takes them from a stream
  of bytes, as `takeLine` does.
* `eraseBack` — what is left of a line when every backspace takes back what a
  reader takes for the character before it.
-/
import CoachClient.Settings.File
import CoachClient.Text.Cluster
import CoachClient.Text.Parts

namespace CoachClient.Shell

open CoachClient.Settings CoachClient.Text

/-- Why a line cannot be read. -/
inductive ReadFault where
  | endOfInput
  | notText
  /-- The user has interrupted the typing. -/
  | interrupted
  /-- The input has failed, for these causes. -/
  | broken (causes : Causes)
  deriving DecidableEq, Repr

/-- The wording of a fault. -/
def ReadFault.causes : ReadFault → Causes
  | .endOfInput => ["EOF"]
  | .notText => [notUtf8, notUtf8]
  | .interrupted => ["Interrupted"]
  | .broken causes => causes

/-- What is left of a line, in the pieces that a backspace takes back as a whole. -/
def eraseBack (line : List Char) : List Char :=
  let left := (clusters line).foldl
    (fun done piece => if piece = ['\x08'] then done.drop 1 else piece :: done) []
  left.reverse.flatten

/-- The next line, and what follows it. -/
def takeLine (input : List UInt8) : Except ReadFault String × List UInt8 :=
  if input.isEmpty then (.error .endOfInput, [])
  else
    let (line, rest) := splitAfter (· == 0x0A) input
    match Utf8.decode line with
    | some text => (.ok (String.ofList (eraseBack (withoutLineEnd text.toList))), rest)
    | none => (.error .notText, rest)

/-- Where lines come from: the next one, and what is left to be typed. A line is not
read without anything typed, and reading never adds to what is left. -/
structure LineReader where
  next : List UInt8 → Except ReadFault String × List UInt8
  length_le (input : List UInt8) : (next input).2.length ≤ input.length
  length_lt {input rest : List UInt8} {line : String} (h : next input = (.ok line, rest)) :
    rest.length < input.length

theorem takeLine_length_lt {b : UInt8} {input : List UInt8} :
    (takeLine (b :: input)).2.length < (b :: input).length := by
  have hparts := length_splitAfter (· == (0x0A : UInt8)) (b :: input)
  have hfirst := List.length_pos_iff.mpr (splitAfter_cons_ne_nil (· == (0x0A : UInt8)) b input)
  have hrest : (takeLine (b :: input)).2 = (splitAfter (· == (0x0A : UInt8)) (b :: input)).2 := by
    simp only [takeLine, List.isEmpty_cons, Bool.false_eq_true, if_false]
    split <;> rfl
  rw [hrest]
  omega

/-- Lines from a stream of bytes. -/
def LineReader.stream : LineReader where
  next := takeLine
  length_le input := by
    cases input with
    | nil => exact Nat.le_refl _
    | cons b input => exact Nat.le_of_lt takeLine_length_lt
  length_lt {input rest line} h := by
    cases input with
    | nil => cases h
    | cons b input =>
      have hrest : (takeLine (b :: input)).2 = rest := congrArg Prod.snd h
      rw [← hrest]
      exact takeLine_length_lt

end CoachClient.Shell

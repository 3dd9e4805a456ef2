/-
CoachClient.Proofs.Json.Grammar — the texts that are JSON, apart from any reader.

* `IsBlanks`, `IsTextBody`, `IsNumber` — blanks, what stands between the quotes of a text,
  and numbers.
* `Listed` — entries with commas between them and blanks anywhere, up to a closing bracket,
  as they are left to be read.
* `IsValue`, `IsMember` — a value, and a member of an object. Nothing is asked of the code
  points of a text or of the size of a number; a reader may refuse them, but a value that is
  passed over may have them.
* `Spells` — what the bytes between two quotes stand for.
* `IsList`, `IsObject` — a list with its items, and an object with the names and the values
  of its members.

The grammar knows neither levels nor types, so what a reader makes of a value is left to
be said elsewhere.
-/
import CoachClient.Proofs.Json.Tokens
import Mathlib.Data.List.Forall2

namespace CoachClient.Json

open CoachClient.Text

/-! ## 1. Tokens -/

/-- Blanks between tokens. -/
def IsBlanks (bs : List UInt8) : Prop := ∀ b ∈ bs, isBlankByte b = true

/-- Four hexadecimal digits and their value. -/
def IsQuad (digits : List UInt8) (n : Nat) : Prop :=
  ∃ a b d e h₁ h₂ h₃ h₄, digits = [a, b, d, e] ∧ hexValue a = some h₁ ∧ hexValue b = some h₂ ∧
    hexValue d = some h₃ ∧ hexValue e = some h₄ ∧ n = ((h₁ * 16 + h₂) * 16 + h₃) * 16 + h₄

/-- What stands between the quotes of a text: bytes that need no escape, escapes of one
letter, and code points in four hexadecimal digits. -/
inductive IsTextBody : List UInt8 → Prop
  | nil : IsTextBody []
  | plain {b : UInt8} {body : List UInt8} (hb : 0x20 ≤ b ∧ b ≠ 0x22 ∧ b ≠ 0x5C)
      (h : IsTextBody body) : IsTextBody (b :: body)
  | short {b x : UInt8} {body : List UInt8} (hb : shortEscape b = some x) (h : IsTextBody body) :
      IsTextBody (0x5C :: b :: body)
  | codePoint {digits body : List UInt8} {n : Nat} (hdigits : IsQuad digits n)
      (h : IsTextBody body) : IsTextBody (0x5C :: 0x75 :: (digits ++ body))

/-- Decimal digits. -/
def AllDigits (ds : List UInt8) : Prop := ∀ d ∈ ds, isDigitByte d = true

/-- The whole part of a number: no zero stands before other digits. -/
def IsWhole (ds : List UInt8) : Prop :=
  ds = [0x30] ∨ ∃ d ds', ds = d :: ds' ∧ d ≠ 0x30 ∧ isDigitByte d = true ∧ AllDigits ds'

/-- A point with digits, or nothing. -/
def IsFraction (bs : List UInt8) : Prop :=
  bs = [] ∨ ∃ d ds, bs = 0x2E :: d :: ds ∧ isDigitByte d = true ∧ AllDigits ds

/-- What stands after the `e` of an exponent. -/
def IsPower (bs : List UInt8) : Prop :=
  ∃ sign d ds, bs = sign ++ d :: ds ∧ (sign = [] ∨ sign = [0x2B] ∨ sign = [0x2D]) ∧
    isDigitByte d = true ∧ AllDigits ds

/-- An exponent, or nothing. -/
def IsExponent (bs : List UInt8) : Prop :=
  bs = [] ∨ ∃ e power, bs = e :: power ∧ (e = 0x65 ∨ e = 0x45) ∧ IsPower power

/-- What follows the whole part of a number. -/
def IsNumberTail (bs : List UInt8) : Prop :=
  ∃ fraction exponent, bs = fraction ++ exponent ∧ IsFraction fraction ∧ IsExponent exponent

/-- A number after its sign. -/
def IsMagnitude (bs : List UInt8) : Prop :=
  ∃ whole tail, bs = whole ++ tail ∧ IsWhole whole ∧ IsNumberTail tail

/-! ## 2. Values -/

/-- What stands before an entry: blanks, and a comma between them unless it is the first. -/
inductive Lead : (first : Bool) → List UInt8 → Prop
  | first {gap : List UInt8} (hgap : IsBlanks gap) : Lead true gap
  | next {gap gap' : List UInt8} (hgap : IsBlanks gap) (hgap' : IsBlanks gap') :
      Lead false (gap ++ 0x2C :: gap')

/-- Entries up to a closing bracket, as they are left to be read. -/
inductive Listed (closing : UInt8) : (first : Bool) → List (List UInt8) → List UInt8 → Prop
  | closed {first : Bool} {gap : List UInt8} (hgap : IsBlanks gap) :
      Listed closing first [] (gap ++ [closing])
  | entry {first : Bool} {lead entry left : List UInt8} {entries : List (List UInt8)}
      (hlead : Lead first lead) (h : Listed closing false entries left) :
      Listed closing first (entry :: entries) (lead ++ (entry ++ left))

/-- A member with its key, as it is written between the quotes, and its value. -/
def IsEntry (key value entry : List UInt8) : Prop :=
  ∃ gap gap', IsBlanks gap ∧ IsBlanks gap' ∧
    entry = 0x22 :: (key ++ 0x22 :: (gap ++ 0x3A :: (gap' ++ value)))

mutual

/-- A value of any kind. -/
inductive IsValue : List UInt8 → Prop
  | null : IsValue [0x6E, 0x75, 0x6C, 0x6C]
  | yes : IsValue [0x74, 0x72, 0x75, 0x65]
  | no : IsValue [0x66, 0x61, 0x6C, 0x73, 0x65]
  | number {bs : List UInt8} (h : IsMagnitude bs) : IsValue bs
  | negative {bs : List UInt8} (h : IsMagnitude bs) : IsValue (0x2D :: bs)
  | text {body : List UInt8} (h : IsTextBody body) : IsValue (0x22 :: (body ++ [0x22]))
  | list {items : List (List UInt8)} {inside : List UInt8} (hitems : ∀ v ∈ items, IsValue v)
      (h : Listed 0x5D true items inside) : IsValue (0x5B :: inside)
  | object {entries : List (List UInt8)} {inside : List UInt8}
      (hentries : ∀ e ∈ entries, IsMember e) (h : Listed 0x7D true entries inside) :
      IsValue (0x7B :: inside)

/-- A member of an object. -/
inductive IsMember : List UInt8 → Prop
  | of {key value entry : List UInt8} (hkey : IsTextBody key) (hvalue : IsValue value)
      (h : IsEntry key value entry) : IsMember entry

end

/-! ## 3. Names -/

/-- What the bytes between two quotes stand for: bytes that need no escape stand for
themselves, an escape for a character. A character above U+FFFF is escaped as a pair of
surrogates, and no surrogate stands alone. -/
inductive Spells : (bytes body : List UInt8) → Prop
  | nil : Spells [] []
  | plain {b : UInt8} {bytes body : List UInt8} (hb : 0x20 ≤ b ∧ b ≠ 0x22 ∧ b ≠ 0x5C)
      (h : Spells bytes body) : Spells (b :: bytes) (b :: body)
  | short {b x : UInt8} {bytes body : List UInt8} (hb : shortEscape b = some x)
      (h : Spells bytes body) : Spells (x :: bytes) (0x5C :: b :: body)
  | codePoint {c : Char} {digits bytes body : List UInt8} (hc : IsQuad digits c.toNat)
      (h : Spells bytes body) :
      Spells (Utf8.encodeChar c ++ bytes) (0x5C :: 0x75 :: (digits ++ body))
  | pair {c : Char} {high low bytes body : List UInt8} {m n : Nat} (hhigh : IsQuad high m)
      (hlow : IsQuad low n) (hm : 0xD800 ≤ m ∧ m ≤ 0xDBFF) (hn : 0xDC00 ≤ n ∧ n ≤ 0xDFFF)
      (hc : c.toNat = (m - 0xD800) * 0x400 + (n - 0xDC00) + 0x10000) (h : Spells bytes body) :
      Spells (Utf8.encodeChar c ++ bytes)
        (0x5C :: 0x75 :: (high ++ 0x5C :: 0x75 :: (low ++ body)))

/-- A member with its name and its value. -/
def IsNamed (member : String × List UInt8) (entry : List UInt8) : Prop :=
  ∃ key, Spells (Utf8.encode member.1) key ∧ IsValue member.2 ∧ IsEntry key member.2 entry

/-- An object with the names and the values of its members. -/
def IsObject (members : List (String × List UInt8)) (text : List UInt8) : Prop :=
  ∃ entries inside, text = 0x7B :: inside ∧ List.Forall₂ IsNamed members entries ∧
    Listed 0x7D true entries inside

/-- A list with its items. -/
def IsList (items : List (List UInt8)) (text : List UInt8) : Prop :=
  ∃ inside, text = 0x5B :: inside ∧ (∀ v ∈ items, IsValue v) ∧ Listed 0x5D true items inside

theorem Spells.isTextBody {bytes body : List UInt8} (h : Spells bytes body) : IsTextBody body := by
  induction h with
  | nil => exact .nil
  | plain hb _ ih => exact .plain hb ih
  | short hb _ ih => exact .short hb ih
  | codePoint hc _ ih => exact .codePoint hc ih
  | pair hhigh hlow _ _ _ _ ih => exact .codePoint hhigh (.codePoint hlow ih)

theorem IsNamed.isMember {member : String × List UInt8} {entry : List UInt8}
    (h : IsNamed member entry) : IsMember entry := by
  obtain ⟨key, hkey, hvalue, hentry⟩ := h
  exact .of hkey.isTextBody hvalue hentry

theorem IsList.isValue {items : List (List UInt8)} {text : List UInt8} (h : IsList items text) :
    IsValue text := by
  obtain ⟨inside, rfl, hitems, hinside⟩ := h
  exact .list hitems hinside

theorem IsObject.isValue {members : List (String × List UInt8)} {text : List UInt8}
    (h : IsObject members text) : IsValue text := by
  obtain ⟨entries, inside, rfl, hnamed, hinside⟩ := h
  have hflip : List.Forall₂ (fun e m => IsMember e ∧ IsNamed m e) entries members :=
    List.Forall₂.flip (hnamed.imp fun m e h => ⟨h.isMember, h⟩)
  exact .object ((List.forall₂_and_left entries members).mp hflip).1 hinside

/-! ## 4. How entries begin and end -/

/-- A byte that begins an entry and nothing else. -/
def BeginsEntry (b : UInt8) : Prop :=
  isBlankByte b = false ∧ b ≠ 0x2C ∧ b ≠ 0x5D ∧ b ≠ 0x7D

theorem beginsEntry_digit {d : UInt8} (h : isDigitByte d = true) : BeginsEntry d := by
  obtain ⟨hblank, -, -, -, -, hbracket⟩ := not_digitByte h
  refine ⟨hblank, ?_, hbracket, ?_⟩
  · rintro rfl
    exact absurd h (by decide)
  · rintro rfl
    exact absurd h (by decide)

theorem IsMagnitude.starts {bs : List UInt8} (h : IsMagnitude bs) :
    ∃ d r, bs = d :: r ∧ isDigitByte d = true := by
  obtain ⟨whole, tail, rfl, rfl | ⟨d, ds, rfl, -, hd, -⟩, -⟩ := h
  · exact ⟨0x30, tail, rfl, by decide⟩
  · exact ⟨d, ds ++ tail, rfl, hd⟩

theorem IsValue.starts {v : List UInt8} (h : IsValue v) : ∃ b r, v = b :: r ∧ BeginsEntry b := by
  cases h with
  | null => exact ⟨_, _, rfl, by decide, by decide, by decide, by decide⟩
  | yes => exact ⟨_, _, rfl, by decide, by decide, by decide, by decide⟩
  | no => exact ⟨_, _, rfl, by decide, by decide, by decide, by decide⟩
  | number hnumber =>
    obtain ⟨d, r, hstart, hd⟩ := hnumber.starts
    exact ⟨d, r, hstart, beginsEntry_digit hd⟩
  | negative => exact ⟨_, _, rfl, by decide, by decide, by decide, by decide⟩
  | text => exact ⟨_, _, rfl, by decide, by decide, by decide, by decide⟩
  | list => exact ⟨_, _, rfl, by decide, by decide, by decide, by decide⟩
  | object => exact ⟨_, _, rfl, by decide, by decide, by decide, by decide⟩

theorem endsNumber_nil : EndsNumber [] := fun _ hb => nomatch hb

theorem endsNumber_blanks {gap rest : List UInt8} (h : IsBlanks gap) (hrest : EndsNumber rest) :
    EndsNumber (gap ++ rest) := by
  cases gap with
  | nil => exact hrest
  | cons b gap =>
    refine endsNumber_cons ?_ _
    have hb := h b List.mem_cons_self
    simp only [isBlankByte, Bool.or_eq_true, beq_iff_eq] at hb
    rcases hb with ((rfl | rfl) | rfl) | rfl <;> decide

section
variable {closing : UInt8} {entries : List (List UInt8)} {left : List UInt8}

/-- After an entry no number goes on. -/
theorem Listed.endsNumber (h : Listed closing false entries left)
    (hclosing : closing = 0x5D ∨ closing = 0x7D) (rest : List UInt8) :
    EndsNumber (left ++ rest) := by
  cases h with
  | @closed _ gap hgap =>
    rw [List.append_assoc]
    refine endsNumber_blanks hgap (endsNumber_cons ?_ rest)
    rcases hclosing with rfl | rfl <;> decide
  | entry hlead _ =>
    cases hlead with
    | next hgap _ =>
      rw [List.append_assoc, List.append_assoc]
      exact endsNumber_blanks hgap (endsNumber_cons (by decide) _)

/-- There are no more entries than bytes: each but the first has a comma. -/
theorem Listed.length_le {first : Bool} (h : Listed closing first entries left) :
    entries.length + (if first then 0 else 1) ≤ left.length := by
  induction h with
  | @closed first =>
    cases first <;> simp
  | entry hlead _ ih =>
    simp only [Bool.false_eq_true, if_false] at ih
    simp only [List.length_append, List.length_cons]
    cases hlead with
    | first => simp; omega
    | next =>
      simp only [List.length_append, List.length_cons, Bool.false_eq_true, if_false]
      omega

end

end CoachClient.Json

/-
CoachClient.Proofs.Json.Members — a record that is written as an object reads back.

* `Reads` — a reader takes a text for a value, behind any blanks and before
  anything that does not go on with a number; `Reads.text`, `Reads.integer`,
  `Reads.content`, `Reads.optional_some` for the readers of the wire types.
* `Layout` — where blanks stand in an object; `membersText` — the members of an
  object, as they are left to be read.
* `Fits` — a member that a record has declared, with the text of its value.
* `readMembers_text` — from there the members are read, by induction on them;
  what has been seen before has to be something else.
* `Record.reads_object` — so the record is what its members put together are.
* `Decoder.decode_of_reads`, `Record.decode_pretty`, `Record.decode_compact` — the
  same for whole texts.
-/
import CoachClient.Json.Record
import CoachClient.Proofs.Json.Tokens
import Mathlib.Data.List.Forall2

namespace CoachClient.Json

open CoachClient.Text CoachClient.Text.Utf8

/-! ## 1. Values -/

/-- The reader takes the text as `a` if it may open so many levels. -/
def Reads {α : Type} (depth : Nat) (read : Reader α) (text : List Char) (a : α) : Prop :=
  ∀ levels rest n, depth ≤ levels → EndsNumber rest → ∀ c : Cursor,
    c.skipBlanks = (⟨encodeAll text ++ rest, n⟩ : Cursor).skipBlanks →
    ∃ n', read levels c = .ok (a, ⟨rest, n'⟩)

/-- The text begins with a value that is not `null`. -/
def StartsValue (text : List Char) : Prop :=
  ∀ rest, ∃ b r, encodeAll text ++ rest = b :: r ∧ isBlankByte b = false ∧ b ≠ 0x6E

theorem startsValue_quote (s : String) : StartsValue (quote s) := fun rest =>
  ⟨_, _, encodeAll_quote s rest, by decide, by decide⟩

theorem startsValue_signed {i : Int} (hi : InWords i) : StartsValue (signed i) := by
  intro rest
  obtain ⟨b, r, hfirst, hb⟩ := signed_start hi rest
  refine ⟨b, r, hfirst, ?_⟩
  rcases hb with rfl | hdigit
  · decide
  · obtain ⟨hblank, -, hletter, -⟩ := not_digitByte hdigit
    exact ⟨hblank, hletter⟩

theorem word32_le (k : UInt32) : k.toNat ≤ maxWord32 := by
  have hlt := k.toNat_lt
  simp only [maxWord32]
  omega

theorem word64_le (k : UInt64) : k.toNat ≤ maxWord64 := by
  have hlt := k.toNat_lt
  simp only [maxWord64]
  omega

theorem inWords_word64 (k : UInt64) : InWords k.toNat := by
  have hk := word64_le k
  constructor
  · omega
  · omega

theorem inWords_word32 (k : UInt32) : InWords k.toNat := by
  have hk := word32_le k
  have hwords : maxWord32 ≤ maxWord64 := by decide
  constructor
  · omega
  · omega

theorem inWords_int64 (k : Int64) : InWords k.toInt := by
  have hlow : -2 ^ 63 ≤ k.toInt := Int64.le_toInt k
  have hhigh : k.toInt < 2 ^ 63 := Int64.toInt_lt k
  have hmin : minInt64Magnitude = 2 ^ 63 := rfl
  have hmax : maxWord64 = 2 ^ 64 - 1 := rfl
  constructor
  · omega
  · omega

namespace Reads

variable {α : Type} {depth : Nat}

theorem text (s : String) : Reads depth Reader.text (quote s) s := by
  intro levels rest n _ _ c hc
  rw [encodeAll_quote, Cursor.skipBlanks_of_not (by decide)] at hc
  obtain ⟨n', h⟩ := readTextBody_quote s rest (n + 1)
  exact ⟨n', by simp only [Reader.text, hc, if_true, h]⟩

/-- A text whose content is what it should be. -/
theorem content {expected : String} {parse : String → Except String α} {s : String} {a : α}
    (h : parse s = .ok a) : Reads depth (Reader.content expected parse) (quote s) a := by
  intro levels rest n _ _ c hc
  rw [encodeAll_quote, Cursor.skipBlanks_of_not (by decide)] at hc
  obtain ⟨n', hread⟩ := readTextBody_quote s rest (n + 1)
  exact ⟨n', by simp only [Reader.content, hc, if_true, hread, bind, Except.bind, h]⟩

/-- An integer that is accepted. -/
theorem integer {expected : String} {fits : Int → Option α} {i : Int} {a : α} (hi : InWords i)
    (h : fits i = some a) : Reads depth (readInteger expected fits) (signed i) a := by
  intro levels rest n _ hrest c hc
  obtain ⟨b, r, hfirst, hread⟩ := signed_reads hi hrest
  rw [hfirst] at hc
  rcases hread n with ⟨rfl, n', hnumber⟩ | ⟨hdigit, n', hnumber⟩
  · rw [Cursor.skipBlanks_of_not (by decide)] at hc
    refine ⟨n', ?_⟩
    simp only [readInteger, readNumeral, hc, if_true, hnumber, bind, Except.bind, h]
  · obtain ⟨hblank, hminus, -⟩ := not_digitByte hdigit
    rw [Cursor.skipBlanks_of_not hblank] at hc
    refine ⟨n', ?_⟩
    simp only [readInteger, readNumeral, hc, if_neg hminus, hdigit, if_true, hnumber, bind,
      Except.bind, h]

theorem word32 (k : UInt32) : Reads depth Reader.word32 (signed k.toNat) k := by
  have hk := word32_le k
  refine integer (inWords_word32 k) ?_
  have hfits : (0 ≤ (k.toNat : Int) && (k.toNat : Int) ≤ (maxWord32 : Int)) = true := by
    simp
    omega
  simp only [hfits, if_true, Int.toNat_natCast, UInt32.ofNat_toNat]

theorem word64 (k : UInt64) : Reads depth Reader.word64 (signed k.toNat) k := by
  have hk := word64_le k
  refine integer (inWords_word64 k) ?_
  have hfits : (0 ≤ (k.toNat : Int) && (k.toNat : Int) ≤ (maxWord64 : Int)) = true := by
    simp
    omega
  simp only [hfits, if_true, Int.toNat_natCast, UInt64.ofNat_toNat]

theorem signed64 (k : Int64) : Reads depth Reader.signed64 (signed k.toInt) k := by
  refine integer (inWords_int64 k) ?_
  have hhigh : k.toInt < 2 ^ 63 := Int64.toInt_lt k
  have hmax : maxInt64 = 2 ^ 63 - 1 := rfl
  have hfits : k.toInt ≤ (maxInt64 : Int) := by omega
  simp only [if_pos hfits, Int64.ofInt_toInt]

theorem optional_none (read : Reader α) :
    Reads depth (Reader.optional read) (Value.null.compactChars) none := by
  intro levels rest n _ _ c hc
  have hnull : encodeAll Value.null.compactChars ++ rest =
      0x6E :: 0x75 :: 0x6C :: 0x6C :: rest := rfl
  rw [hnull, Cursor.skipBlanks_of_not (by decide)] at hc
  refine ⟨n + 1 + 1 + 1 + 1, ?_⟩
  simp only [Reader.optional, hc, if_true]
  rfl

/-- A value where there may be none. -/
theorem optional_some {read : Reader α} {text : List Char} {a : α} (h : Reads depth read text a)
    (hstart : StartsValue text) : Reads depth (Reader.optional read) text (some a) := by
  intro levels rest n hlevels hrest c hc
  obtain ⟨b, r, hfirst, hblank, hletter⟩ := hstart rest
  obtain ⟨n', hread⟩ := h levels rest n hlevels hrest ⟨b :: r, n⟩ (by rw [hfirst])
  rw [hfirst, Cursor.skipBlanks_of_not hblank] at hc
  refine ⟨n', ?_⟩
  simp only [Reader.optional, hc, if_neg hletter, hread]
  rfl

theorem field {μ β : Type} {read : Reader β} {text : List Char} {b : β}
    (h : Reads depth read text b) (name : String) (tag : β → μ) (mayEnd : Bool) :
    Reads depth (Field.of name read tag mayEnd).read text (tag b) := by
  intro levels rest n hlevels hrest c hc
  obtain ⟨n', hread⟩ := h levels rest n hlevels hrest c hc
  exact ⟨n', by simp [Field.of, hread, Except.map]⟩

end Reads

/-! ## 2. Members -/

/-- Where blanks stand in an object: before a key, behind a colon, and before the
closing brace. -/
structure Layout where
  before : List Char
  behind : List Char
  last : List Char
  isGap_before : IsGap before
  isGap_behind : IsGap behind
  isGap_last : IsGap last

/-- No blanks. -/
def Layout.compact : Layout where
  before := []
  behind := []
  last := []
  isGap_before := fun _ hc => nomatch hc
  isGap_behind := fun _ hc => nomatch hc
  isGap_last := fun _ hc => nomatch hc

/-- One member a line. -/
def Layout.pretty (level : Nat) : Layout where
  before := newline (level + 1)
  behind := [' ']
  last := newline level
  isGap_before := isGap_newline (level + 1)
  isGap_behind := fun _ hc => Or.inl (List.mem_singleton.mp hc)
  isGap_last := isGap_newline level

/-- The start of the next member. -/
def separator (first : Bool) : List Char := if first then [] else [',']

/-- The members of an object that are left to be read, each with the text of its
value. -/
def membersText (l : Layout) : (first : Bool) → List (String × List Char) → List Char
  | _, [] => l.last ++ ['}']
  | first, (k, text) :: rest =>
    separator first ++ l.before ++ quote k ++ ':' :: l.behind ++ text ++ membersText l false rest

section
variable {l : Layout}

theorem cons_membersText {members : List (String × List Char)} (h : members ≠ []) :
    ',' :: membersText l true members = membersText l false members := by
  cases members with
  | nil => exact absurd rfl h
  | cons m members => rfl

theorem prettyMembers_eq (level : Nat) (members : List (String × Value)) :
    prettyMembers level members =
      membersText (.pretty level) true (members.map fun m => (m.1, m.2.prettyChars (level + 1))) := by
  induction members with
  | nil => rfl
  | cons m members ih =>
    obtain ⟨k, v⟩ := m
    cases members with
    | nil => simp [prettyMembers, membersText, separator, Layout.pretty]
    | cons m' members =>
      rw [prettyMembers, ih, cons_membersText (by simp)]
      · simp [membersText, separator, Layout.pretty]
      · exact fun h => nomatch h

theorem compactMembers_eq (members : List (String × Value)) :
    compactMembers members =
      membersText .compact true (members.map fun m => (m.1, m.2.compactChars)) := by
  induction members with
  | nil => rfl
  | cons m members ih =>
    obtain ⟨k, v⟩ := m
    cases members with
    | nil => simp [compactMembers, membersText, separator, Layout.compact]
    | cons m' members =>
      rw [compactMembers, ih, cons_membersText (by simp)]
      · simp [membersText, separator, Layout.compact]
      · exact fun h => nomatch h

theorem endsNumber_gap {gap : List Char} (h : IsGap gap) {rest : List UInt8}
    (hrest : EndsNumber rest) : EndsNumber (encodeAll gap ++ rest) := by
  cases gap with
  | nil => exact hrest
  | cons c gap =>
    intro b hb
    rcases h c List.mem_cons_self with rfl | rfl
    · obtain rfl : 0x20 = b := Option.some.inj hb
      decide
    · obtain rfl : 0x0A = b := Option.some.inj hb
      decide

/-- The closing brace with the blanks before it. -/
theorem encodeAll_membersText_nil (first : Bool) (rest : List UInt8) :
    encodeAll (membersText l first []) ++ rest = encodeAll l.last ++ 0x7D :: rest := by
  simp [membersText, show encodeChar '}' = [0x7D] from rfl]

theorem endsNumber_membersText (members : List (String × List Char)) (rest : List UInt8) :
    EndsNumber (encodeAll (membersText l false members) ++ rest) := by
  cases members with
  | nil =>
    rw [encodeAll_membersText_nil]
    exact endsNumber_gap l.isGap_last (endsNumber_cons (by decide) rest)
  | cons m members =>
    intro b hb
    obtain rfl : 0x2C = b := Option.some.inj hb
    decide

theorem nextKey_end (l : Layout) (first : Bool) (rest : List UInt8) (n : Nat) :
    ∃ n', nextKey first ⟨encodeAll (membersText l first []) ++ rest, n⟩ =
      .ok (false, ⟨0x7D :: rest, n'⟩) := by
  obtain ⟨n', h⟩ := Cursor.skipBlanks_gap l.isGap_last (0x7D :: rest) n
  rw [Cursor.skipBlanks_of_not (by decide)] at h
  exact ⟨n', by simp only [nextKey, encodeAll_membersText_nil, h, if_true]⟩

theorem nextKey_member (l : Layout) (first : Bool) (r : List UInt8) (n : Nat) :
    ∃ n', nextKey first ⟨encodeAll (separator first ++ l.before) ++ 0x22 :: r, n⟩ =
      .ok (true, ⟨0x22 :: r, n'⟩) := by
  have hgap : ∀ n, ∃ n', (⟨encodeAll l.before ++ 0x22 :: r, n⟩ : Cursor).skipBlanks =
      ⟨0x22 :: r, n'⟩ := by
    intro n
    obtain ⟨n', h⟩ := Cursor.skipBlanks_gap l.isGap_before (0x22 :: r) n
    exact ⟨n', h.trans (Cursor.skipBlanks_of_not (by decide) r n')⟩
  cases first with
  | true =>
    obtain ⟨n', h⟩ := hgap n
    refine ⟨n', ?_⟩
    simp [nextKey, separator, h]
  | false =>
    obtain ⟨n', h⟩ := hgap (n + 1)
    refine ⟨n', ?_⟩
    have hcomma : encodeAll (separator false ++ l.before) ++ 0x22 :: r =
        0x2C :: (encodeAll l.before ++ 0x22 :: r) := by
      simp [separator, show encodeChar ',' = [0x2C] from rfl]
    rw [hcomma]
    have hbrace : (0x2C : UInt8) ≠ 0x7D := by decide
    simp only [nextKey, Cursor.skipBlanks_of_not (show isBlankByte 0x2C = false by decide),
      if_neg hbrace, h]
    rfl

/-- A member up to its value. -/
theorem member_start (l : Layout) (first : Bool) (k : String) (r : List UInt8) (n : Nat) :
    ∃ c₁ c₂ n',
      nextKey first ⟨encodeAll (separator first ++ l.before) ++
        (encodeAll (quote k) ++ 0x3A :: r), n⟩ = .ok (true, c₁) ∧
      readKey c₁ = .ok (k, c₂) ∧ readColon c₂ = .ok ⟨r, n'⟩ := by
  rw [encodeAll_quote]
  obtain ⟨n₁, hnext⟩ := nextKey_member l first
    (encodeAll (k.toList.flatMap escapeChar) ++ 0x22 :: 0x3A :: r) n
  obtain ⟨n₂, hkey⟩ := readTextBody_quote k (0x3A :: r) (n₁ + 1)
  refine ⟨_, ⟨0x3A :: r, n₂⟩, n₂ + 1, hnext, hkey, ?_⟩
  simp only [readColon, Cursor.skipBlanks_of_not (show isBlankByte 0x3A = false by decide), if_true]

/-- The first member, in the order in which the reader comes upon its parts. -/
theorem encodeAll_membersText_cons (l : Layout) (first : Bool) (k : String) (text : List Char)
    (members : List (String × List Char)) (rest : List UInt8) :
    encodeAll (membersText l first ((k, text) :: members)) ++ rest =
      encodeAll (separator first ++ l.before) ++ (encodeAll (quote k) ++
        0x3A :: (encodeAll l.behind ++ (encodeAll text ++
          (encodeAll (membersText l false members) ++ rest)))) := by
  simp [membersText, show encodeChar ':' = [0x3A] from rfl]

/-- A member: its key, and a reader that takes its value, behind the colon. -/
theorem member_value {α : Type} {depth levels : Nat} {read : Reader α} {text : List Char} {a : α}
    (h : Reads depth read text a) (hlevels : depth ≤ levels) (l : Layout) (first : Bool)
    (k : String) (members : List (String × List Char)) (rest : List UInt8) (n : Nat) :
    ∃ c₁ c₂ c₃ n',
      nextKey first ⟨encodeAll (membersText l first ((k, text) :: members)) ++ rest, n⟩ =
        .ok (true, c₁) ∧
      readKey c₁ = .ok (k, c₂) ∧ readColon c₂ = .ok c₃ ∧
      read levels c₃ = .ok (a, ⟨encodeAll (membersText l false members) ++ rest, n'⟩) := by
  rw [encodeAll_membersText_cons]
  obtain ⟨c₁, c₂, n₁, hnext, hkey, hcolon⟩ := member_start l first k
    (encodeAll l.behind ++ (encodeAll text ++
      (encodeAll (membersText l false members) ++ rest))) n
  obtain ⟨n₂, hgap⟩ := Cursor.skipBlanks_gap l.isGap_behind
    (encodeAll text ++ (encodeAll (membersText l false members) ++ rest)) n₁
  obtain ⟨n', hvalue⟩ := h levels (encodeAll (membersText l false members) ++ rest) n₂ hlevels
    (endsNumber_membersText members rest) _ hgap
  exact ⟨c₁, c₂, _, n', hnext, hkey, hcolon, hvalue⟩

theorem length_le_membersText (first : Bool) (members : List (String × List Char)) :
    members.length ≤ (encodeAll (membersText l first members)).length := by
  induction members generalizing first with
  | nil => simp
  | cons m members ih =>
    have hrest := ih false
    have hkey : 0 < (encodeAll (quote m.1)).length := by
      have hquote := encodeAll_quote m.1 []
      rw [List.append_nil] at hquote
      rw [hquote]
      exact Nat.succ_pos _
    simp only [membersText, encodeAll_append, List.length_append, List.length_cons]
    omega

/-! ## 3. Records -/

/-- A member that the record has declared, with the text of its value. -/
def Fits {μ : Type} (depth : Nat) (fields : List (Field μ)) (member : String × List Char)
    (m : μ) : Prop :=
  ∃ f, findField member.1 fields = some f ∧ Reads depth f.read member.2 m

/-- From the members that are left to be read, they are read. -/
theorem readMembers_text {μ : Type} {depth : Nat} {fields : List (Field μ)}
    {members : List (String × List Char)} {ms : List μ}
    (h : List.Forall₂ (Fits depth fields) members ms) (l : Layout) {levels : Nat}
    (hlevels : depth ≤ levels) (fuel : Nat) (first : Bool) (seen : List String)
    (rest : List UInt8) (n : Nat) (hfuel : members.length < fuel)
    (hdistinct : (members.map Prod.fst ++ seen).Nodup) :
    ∃ n', readMembers fields levels fuel first seen
        ⟨encodeAll (membersText l first members) ++ rest, n⟩ =
      .ok (ms, ⟨0x7D :: rest, n'⟩) := by
  induction h generalizing fuel first seen n with
  | nil =>
    obtain ⟨fuel, rfl⟩ : ∃ k, fuel = k + 1 := ⟨fuel - 1, by simp at hfuel; omega⟩
    obtain ⟨n', hend⟩ := nextKey_end l first rest n
    refine ⟨n', ?_⟩
    simp only [readMembers, hend, located, bind, Except.bind, Bool.false_eq_true, if_false]
  | @cons member m members ms hfits hms ih =>
    obtain ⟨k, text⟩ := member
    obtain ⟨f, hfield, hreads⟩ := hfits
    simp only [List.length_cons] at hfuel
    obtain ⟨fuel, rfl⟩ : ∃ k, fuel = k + 1 := ⟨fuel - 1, by omega⟩
    simp only [List.map_cons, List.cons_append, List.nodup_cons, List.mem_append,
      not_or] at hdistinct
    obtain ⟨⟨hlater, hseen⟩, hdistinct⟩ := hdistinct
    obtain ⟨c₁, c₂, c₃, n₁, hnext, hkey, hcolon, hvalue⟩ :=
      member_value hreads hlevels l first k members rest n
    obtain ⟨n', hrest⟩ := ih fuel false (k :: seen) n₁ (by omega)
      (List.perm_middle.nodup_iff.mpr
        (List.nodup_cons.mpr ⟨by simp [hlater, hseen], hdistinct⟩))
    refine ⟨n', ?_⟩
    -- the name is new, so the value is read and not refused as a repetition
    have hnew : seen.contains k = false := by simpa using hseen
    simp only [readMembers, hnext, located, bind, Except.bind, if_true, hkey, hfield, hnew,
      Bool.false_eq_true, if_false, hcolon, hvalue, hrest]

/-- A record reads back from an object of its members. -/
theorem Record.reads_object {μ α : Type} {depth : Nat} (r : Record μ α) (l : Layout)
    {members : List (String × List Char)} {ms : List μ} {a : α} (hdepth : 0 < depth)
    (hfits : List.Forall₂ (Fits depth r.fields) members ms)
    (hdistinct : (members.map Prod.fst).Nodup) (hassemble : r.assemble ms = .ok a) :
    Reads (depth + 1) r.reader ('{' :: membersText l true members) a := by
  intro levels rest n hlevels _ c hc
  have hopen : encodeAll ('{' :: membersText l true members) ++ rest =
      0x7B :: (encodeAll (membersText l true members) ++ rest) := rfl
  rw [hopen, Cursor.skipBlanks_of_not (by decide)] at hc
  have hfuel : members.length <
      (encodeAll (membersText l true members) ++ rest).length + 1 := by
    have := length_le_membersText (l := l) true members
    rw [List.length_append]
    omega
  have hdeep : ¬ levels ≤ 1 := by omega
  have hlevels' : depth ≤ levels - 1 := by omega
  obtain ⟨n', hmembers⟩ := readMembers_text hfits l hlevels' _ true [] rest (n + 1) hfuel
    (by simpa using hdistinct)
  refine ⟨n' + 1, ?_⟩
  simp only [Record.reader, hc, if_true, if_neg hdeep, hmembers, bind, Except.bind, Record.build,
    hassemble, settle, closeObject,
    Cursor.skipBlanks_of_not (show isBlankByte 0x7D = false by decide)]

end

/-! ## 4. Whole texts -/

/-- What is read from a text is what is decoded from it. -/
theorem Decoder.decode_of_reads {α : Type} {d : Decoder α} {depth : Nat} {text : List Char} {a : α}
    (h : Reads depth d.read text a) (hdepth : depth ≤ maxLevels) :
    d.decode (encode (String.ofList text)) = .ok a := by
  obtain ⟨n', hread⟩ := h maxLevels [] 0 hdepth (fun b hb => nomatch hb) _ rfl
  rw [List.append_nil] at hread
  have hwhole : d.readWhole (encode (String.ofList text)) = .ok a := by
    rw [encode_ofList]
    simp only [Decoder.readWhole, Cursor.start, hread, bind, Except.bind, Cursor.skipBlanks,
      passWhile, List.isEmpty_nil, if_true]
  rw [Decoder.decode, hwhole]
  rfl

/-- A member that the record has declared, with its value as it is written. -/
def FitsAs {μ : Type} (write : Value → List Char) (fields : List (Field μ))
    (member : String × Value) (m : μ) : Prop :=
  Fits 1 fields (member.1, write member.2) m

section
variable {μ α : Type} (r : Record μ α) {ms : List μ} {a : α}

/-- A record that is written as an object, one member a line, reads back. -/
theorem Record.decode_pretty {member : String × Value} {members : List (String × Value)}
    (hfits : List.Forall₂ (FitsAs (Value.prettyChars 1) r.fields) (member :: members) ms)
    (hdistinct : ((member :: members).map Prod.fst).Nodup) (hassemble : r.assemble ms = .ok a) :
    r.decoder.decode (encode (Value.object (member :: members)).pretty) = .ok a := by
  have hreads := r.reads_object (.pretty 0) (by decide) (List.forall₂_map_left_iff.mpr hfits)
    (by rw [List.map_map]; exact hdistinct) hassemble
  rw [← prettyMembers_eq] at hreads
  exact Decoder.decode_of_reads hreads (by decide)

/-- A record that is written as an object without blanks reads back. -/
theorem Record.decode_compact {members : List (String × Value)}
    (hfits : List.Forall₂ (FitsAs Value.compactChars r.fields) members ms)
    (hdistinct : (members.map Prod.fst).Nodup) (hassemble : r.assemble ms = .ok a) :
    r.decoder.decode (encode (Value.object members).compact) = .ok a := by
  have hreads := r.reads_object .compact (by decide) (List.forall₂_map_left_iff.mpr hfits)
    (by rw [List.map_map]; exact hdistinct) hassemble
  rw [← compactMembers_eq] at hreads
  exact Decoder.decode_of_reads hreads (by decide)

end

end CoachClient.Json

/-
CoachClient.Text.Cluster — what a reader takes for one character.

An accent belongs to its letter, the letters of a Hangul syllable belong
together, and so do the parts of a composed picture or a flag. The rules are
those of Unicode 17 for extended grapheme clusters.

* `Role` — what a character does to its neighbours.
* `Preceding` — what has to be known of the characters before a place.
* `Preceding.goesOn` — the character at a place belongs to the one before it.
* `clusters` — a text cut where a character does not belong to the one before.
-/
import CoachClient.Text.Mark

namespace CoachClient.Text

/-! ## 1. Characters -/

/-- What a character does to its neighbours. -/
inductive Role where
  /-- Stands alone. -/
  | control
  /-- Belongs to the one before it. -/
  | extend
  /-- Belongs to the one before it and joins two pictures. -/
  | joiner
  /-- Belongs to the one before it and has a room of its own. -/
  | spacing
  /-- The one after it belongs to it. -/
  | prepended
  /-- Half of a flag. -/
  | regional
  /-- A leading consonant of Hangul. -/
  | leading
  /-- A vowel of Hangul. -/
  | vowel
  /-- A trailing consonant of Hangul. -/
  | trailing
  /-- A syllable of Hangul without a trailing consonant. -/
  | openSyllable
  /-- A syllable of Hangul with a trailing consonant. -/
  | closedSyllable
  /-- Nothing of all this. -/
  | other
  deriving DecidableEq, Repr

/-- Controls and format characters outside ASCII. -/
def controlRanges : List (Nat × Nat) := [
  (0x80, 0x9F), (0xAD, 0xAD), (0x61C, 0x61C), (0x180E, 0x180E), (0x200B, 0x200B),
  (0x200E, 0x200F), (0x2028, 0x202E), (0x2060, 0x206F), (0xFEFF, 0xFEFF), (0xFFF0, 0xFFFB),
  (0x13430, 0x1343F), (0x1BCA0, 0x1BCA3), (0x1D173, 0x1D17A), (0xE0000, 0xE001F),
  (0xE0080, 0xE00FF), (0xE01F0, 0xE0FFF)]

/-- Signs that the next character belongs to. -/
def prependedRanges : List (Nat × Nat) := [
  (0x600, 0x605), (0x6DD, 0x6DD), (0x70F, 0x70F), (0x890, 0x891), (0x8E2, 0x8E2),
  (0xD4E, 0xD4E), (0x110BD, 0x110BD), (0x110CD, 0x110CD), (0x111C2, 0x111C3),
  (0x113D1, 0x113D1), (0x1193F, 0x1193F), (0x11941, 0x11941), (0x11A84, 0x11A89),
  (0x11D46, 0x11D46), (0x11F02, 0x11F02)]

/-- Characters that belong to the one before them, beside the marks without room. -/
def extendingRanges : List (Nat × Nat) := [
  (0x9BE, 0x9BE), (0x9D7, 0x9D7), (0xB3E, 0xB3E), (0xB57, 0xB57), (0xBBE, 0xBBE),
  (0xBD7, 0xBD7), (0xCC0, 0xCC0), (0xCC2, 0xCC2), (0xCC7, 0xCC8), (0xCCA, 0xCCB),
  (0xCD5, 0xCD6), (0xD3E, 0xD3E), (0xD57, 0xD57), (0xDCF, 0xDCF), (0xDDF, 0xDDF),
  (0x1715, 0x1715), (0x1734, 0x1734), (0x1B35, 0x1B35), (0x1B3B, 0x1B3B), (0x1B3D, 0x1B3D),
  (0x1B43, 0x1B44), (0x1BAA, 0x1BAA), (0x1BF2, 0x1BF3), (0x200C, 0x200C), (0x302E, 0x302F),
  (0xA953, 0xA953), (0xA9C0, 0xA9C0), (0xFF9E, 0xFF9F), (0x111C0, 0x111C0), (0x11235, 0x11235),
  (0x1133E, 0x1133E), (0x1134D, 0x1134D), (0x11357, 0x11357), (0x113B8, 0x113B8),
  (0x113C2, 0x113C2), (0x113C5, 0x113C5), (0x113C7, 0x113C9), (0x113CF, 0x113CF),
  (0x114B0, 0x114B0), (0x114BD, 0x114BD), (0x115AF, 0x115AF), (0x116B6, 0x116B6),
  (0x11930, 0x11930), (0x1193D, 0x1193D), (0x11F41, 0x11F41), (0x16FF0, 0x16FF1),
  (0x1D165, 0x1D166), (0x1D16D, 0x1D172), (0x1F3FB, 0x1F3FF), (0xE0020, 0xE007F)]

/-- Marks with room that do not belong to the character before them. -/
def looseRanges : List (Nat × Nat) := [
  (0x102B, 0x102C), (0x1038, 0x1038), (0x1062, 0x1064), (0x1067, 0x106D), (0x1083, 0x1083),
  (0x1087, 0x108C), (0x108F, 0x108F), (0x109A, 0x109C), (0x1A61, 0x1A61), (0x1A63, 0x1A64),
  (0xAA7B, 0xAA7B), (0xAA7D, 0xAA7D), (0x11720, 0x11721)]

/-- Pictures. -/
def pictureRanges : List (Nat × Nat) := [
  (0xA9, 0xA9), (0xAE, 0xAE), (0x203C, 0x203C), (0x2049, 0x2049), (0x2122, 0x2122),
  (0x2139, 0x2139), (0x2194, 0x2199), (0x21A9, 0x21AA), (0x231A, 0x231B), (0x2328, 0x2328),
  (0x23CF, 0x23CF), (0x23E9, 0x23F3), (0x23F8, 0x23FA), (0x24C2, 0x24C2), (0x25AA, 0x25AB),
  (0x25B6, 0x25B6), (0x25C0, 0x25C0), (0x25FB, 0x25FE), (0x2600, 0x2604), (0x260E, 0x260E),
  (0x2611, 0x2611), (0x2614, 0x2615), (0x2618, 0x2618), (0x261D, 0x261D), (0x2620, 0x2620),
  (0x2622, 0x2623), (0x2626, 0x2626), (0x262A, 0x262A), (0x262E, 0x262F), (0x2638, 0x263A),
  (0x2640, 0x2640), (0x2642, 0x2642), (0x2648, 0x2653), (0x265F, 0x2660), (0x2663, 0x2663),
  (0x2665, 0x2666), (0x2668, 0x2668), (0x267B, 0x267B), (0x267E, 0x267F), (0x2692, 0x2697),
  (0x2699, 0x2699), (0x269B, 0x269C), (0x26A0, 0x26A1), (0x26A7, 0x26A7), (0x26AA, 0x26AB),
  (0x26B0, 0x26B1), (0x26BD, 0x26BE), (0x26C4, 0x26C5), (0x26C8, 0x26C8), (0x26CE, 0x26CF),
  (0x26D1, 0x26D1), (0x26D3, 0x26D4), (0x26E9, 0x26EA), (0x26F0, 0x26F5), (0x26F7, 0x26FA),
  (0x26FD, 0x26FD), (0x2702, 0x2702), (0x2705, 0x2705), (0x2708, 0x270D), (0x270F, 0x270F),
  (0x2712, 0x2712), (0x2714, 0x2714), (0x2716, 0x2716), (0x271D, 0x271D), (0x2721, 0x2721),
  (0x2728, 0x2728), (0x2733, 0x2734), (0x2744, 0x2744), (0x2747, 0x2747), (0x274C, 0x274C),
  (0x274E, 0x274E), (0x2753, 0x2755), (0x2757, 0x2757), (0x2763, 0x2764), (0x2795, 0x2797),
  (0x27A1, 0x27A1), (0x27B0, 0x27B0), (0x27BF, 0x27BF), (0x2934, 0x2935), (0x2B05, 0x2B07),
  (0x2B1B, 0x2B1C), (0x2B50, 0x2B50), (0x2B55, 0x2B55), (0x3030, 0x3030), (0x303D, 0x303D),
  (0x3297, 0x3297), (0x3299, 0x3299), (0x1F004, 0x1F004), (0x1F02C, 0x1F02F),
  (0x1F094, 0x1F09F), (0x1F0AF, 0x1F0B0), (0x1F0C0, 0x1F0C0), (0x1F0CF, 0x1F0D0),
  (0x1F0F6, 0x1F0FF), (0x1F170, 0x1F171), (0x1F17E, 0x1F17F), (0x1F18E, 0x1F18E),
  (0x1F191, 0x1F19A), (0x1F1AE, 0x1F1E5), (0x1F201, 0x1F20F), (0x1F21A, 0x1F21A),
  (0x1F22F, 0x1F22F), (0x1F232, 0x1F23A), (0x1F23C, 0x1F23F), (0x1F249, 0x1F25F),
  (0x1F266, 0x1F321), (0x1F324, 0x1F393), (0x1F396, 0x1F397), (0x1F399, 0x1F39B),
  (0x1F39E, 0x1F3F0), (0x1F3F3, 0x1F3F5), (0x1F3F7, 0x1F3FA), (0x1F400, 0x1F4FD),
  (0x1F4FF, 0x1F53D), (0x1F549, 0x1F54E), (0x1F550, 0x1F567), (0x1F56F, 0x1F570),
  (0x1F573, 0x1F57A), (0x1F587, 0x1F587), (0x1F58A, 0x1F58D), (0x1F590, 0x1F590),
  (0x1F595, 0x1F596), (0x1F5A4, 0x1F5A5), (0x1F5A8, 0x1F5A8), (0x1F5B1, 0x1F5B2),
  (0x1F5BC, 0x1F5BC), (0x1F5C2, 0x1F5C4), (0x1F5D1, 0x1F5D3), (0x1F5DC, 0x1F5DE),
  (0x1F5E1, 0x1F5E1), (0x1F5E3, 0x1F5E3), (0x1F5E8, 0x1F5E8), (0x1F5EF, 0x1F5EF),
  (0x1F5F3, 0x1F5F3), (0x1F5FA, 0x1F64F), (0x1F680, 0x1F6C5), (0x1F6CB, 0x1F6D2),
  (0x1F6D5, 0x1F6E5), (0x1F6E9, 0x1F6E9), (0x1F6EB, 0x1F6F0), (0x1F6F3, 0x1F6FF),
  (0x1F7DA, 0x1F7FF), (0x1F80C, 0x1F80F), (0x1F848, 0x1F84F), (0x1F85A, 0x1F85F),
  (0x1F888, 0x1F88F), (0x1F8AE, 0x1F8AF), (0x1F8BC, 0x1F8BF), (0x1F8C2, 0x1F8CF),
  (0x1F8D9, 0x1F8FF), (0x1F90C, 0x1F93A), (0x1F93C, 0x1F945), (0x1F947, 0x1F9FF),
  (0x1FA58, 0x1FA5F), (0x1FA6E, 0x1FAFF), (0x1FC00, 0x1FFFD)]

/-- Consonants of scripts that write some of them in one shape. -/
def conjunctRanges : List (Nat × Nat) := [
  (0x915, 0x939), (0x958, 0x95F), (0x978, 0x97F), (0x995, 0x9A8), (0x9AA, 0x9B0),
  (0x9B2, 0x9B2), (0x9B6, 0x9B9), (0x9DC, 0x9DD), (0x9DF, 0x9DF), (0x9F0, 0x9F1),
  (0xA95, 0xAA8), (0xAAA, 0xAB0), (0xAB2, 0xAB3), (0xAB5, 0xAB9), (0xAF9, 0xAF9),
  (0xB15, 0xB28), (0xB2A, 0xB30), (0xB32, 0xB33), (0xB35, 0xB39), (0xB5C, 0xB5D),
  (0xB5F, 0xB5F), (0xB71, 0xB71), (0xC15, 0xC28), (0xC2A, 0xC39), (0xC58, 0xC5A),
  (0xD15, 0xD3A), (0x1000, 0x102A), (0x103F, 0x103F), (0x1050, 0x1055), (0x105A, 0x105D),
  (0x1061, 0x1061), (0x1065, 0x1066), (0x106E, 0x1070), (0x1075, 0x1081), (0x108E, 0x108E),
  (0x1780, 0x17B3), (0x1A20, 0x1A54), (0x1B0B, 0x1B0C), (0x1B13, 0x1B33), (0x1B45, 0x1B4C),
  (0x1B83, 0x1BA0), (0x1BAE, 0x1BAF), (0x1BBB, 0x1BBD), (0xA989, 0xA98B), (0xA98F, 0xA9B2),
  (0xA9E0, 0xA9E4), (0xA9E7, 0xA9EF), (0xA9FA, 0xA9FE), (0xAA60, 0xAA6F), (0xAA71, 0xAA73),
  (0xAA7A, 0xAA7A), (0xAA7E, 0xAA7F), (0xAAE0, 0xAAEA), (0xABC0, 0xABDA), (0x10A00, 0x10A00),
  (0x10A10, 0x10A13), (0x10A15, 0x10A17), (0x10A19, 0x10A35), (0x11103, 0x11126),
  (0x11144, 0x11144), (0x11147, 0x11147), (0x11380, 0x11389), (0x1138B, 0x1138B),
  (0x1138E, 0x1138E), (0x11390, 0x113B5), (0x11900, 0x11906), (0x11909, 0x11909),
  (0x1190C, 0x11913), (0x11915, 0x11916), (0x11918, 0x1192F), (0x11A00, 0x11A00),
  (0x11A0B, 0x11A32), (0x11A50, 0x11A50), (0x11A5C, 0x11A83), (0x11F04, 0x11F10),
  (0x11F12, 0x11F33)]

/-- Signs that put two consonants into one shape. -/
def linkers : List Nat := [
  0x94D, 0x9CD, 0xACD, 0xB4D, 0xC4D, 0xD4D, 0x1039, 0x17D2, 0x1A60, 0x1B44, 0x1BAB, 0xA9C0,
  0xAAF6, 0x10A3F, 0x11133, 0x113D0, 0x1193E, 0x11A47, 0x11A99, 0x11F42]

/-- The vowel signs of Thai and Lao that count as marks with room. -/
def vowelSigns : List Nat := [0xE33, 0xEB3]

/-- The character that joins two pictures. -/
def pictureJoiner : Char := '\u200D'

/-- The role of a character of Hangul. -/
def hangulRole? (n : Nat) : Option Role :=
  if (0x1100 ≤ n && n ≤ 0x115F) || (0xA960 ≤ n && n ≤ 0xA97C) then some .leading
  else if (0x1160 ≤ n && n ≤ 0x11A7) || (0xD7B0 ≤ n && n ≤ 0xD7C6) || n == 0x16D63
      || (0x16D67 ≤ n && n ≤ 0x16D6A) then some .vowel
  else if (0x11A8 ≤ n && n ≤ 0x11FF) || (0xD7CB ≤ n && n ≤ 0xD7FB) then some .trailing
  else if 0xAC00 ≤ n && n ≤ 0xD7A3 then
    some (if (n - 0xAC00) % 28 = 0 then .openSyllable else .closedSyllable)
  else none

/-- The role of a character. -/
def role (c : Char) : Role :=
  let n := c.toNat
  if n < 0x80 then if n < 0x20 || n = 0x7F then .control else .other
  else if c = pictureJoiner then .joiner
  else if inRanges n controlRanges then .control
  else if inRanges n extendingRanges || isNonspacing c then .extend
  else if vowelSigns.contains n || (isSpacing c && !inRanges n looseRanges) then .spacing
  else if inRanges n prependedRanges then .prepended
  else if 0x1F1E6 ≤ n && n ≤ 0x1F1FF then .regional
  else (hangulRole? n).getD .other

/-- The character is a picture. -/
def isPicture (c : Char) : Bool := 0x80 ≤ c.toNat && inRanges c.toNat pictureRanges

/-- The character is a consonant that can be part of a shape. -/
def isConjunct (c : Char) : Bool := 0x80 ≤ c.toNat && inRanges c.toNat conjunctRanges

/-! ## 2. Places -/

/-- What has come of a picture. -/
inductive Picture where
  | none
  /-- A picture, and nothing after it but what belongs to it. -/
  | shown
  /-- The same with a joiner at the end. -/
  | joined
  deriving DecidableEq, Repr

/-- What has come of a shape of consonants. -/
inductive Conjunct where
  | none
  /-- A consonant, and nothing after it but what belongs to it. -/
  | begun
  /-- The same with a linker among it. -/
  | linked
  deriving DecidableEq, Repr

/-- What has to be known of the characters before a place. -/
structure Preceding where
  /-- The role of the last one. -/
  last : Role
  picture : Picture
  conjunct : Conjunct
  /-- The last character is the first half of a flag. -/
  isHalfFlag : Bool
  deriving DecidableEq, Repr

/-- Before the first character. -/
def Preceding.start : Preceding := ⟨.control, .none, .none, false⟩

/-- What has to be known one character further. -/
def Preceding.next (x : Preceding) (c : Char) : Preceding where
  last := role c
  picture :=
    if isPicture c then .shown
    else if x.picture != .shown then .none
    else match role c with
      | .extend => .shown
      | .joiner => .joined
      | _ => .none
  conjunct :=
    if isConjunct c then .begun
    else if x.conjunct = .none then .none
    else if linkers.contains c.toNat then .linked
    else match role c with
      | .extend => if c = '\u200C' then .none else x.conjunct
      | .joiner => x.conjunct
      | _ => .none
  isHalfFlag := role c == .regional && !x.isHalfFlag

/-- The character belongs to the one before it. -/
def Preceding.goesOn (x : Preceding) (c : Char) : Bool :=
  match x.last, role c with
  | .control, _ | _, .control => false
  | _, .extend | _, .joiner | _, .spacing | .prepended, _ => true
  | .leading, .leading | .leading, .vowel => true
  | .leading, .openSyllable | .leading, .closedSyllable => true
  | .openSyllable, .vowel | .openSyllable, .trailing | .vowel, .vowel | .vowel, .trailing => true
  | .closedSyllable, .trailing | .trailing, .trailing => true
  | _, .regional => x.isHalfFlag
  | _, _ => (x.picture == .joined && isPicture c) || (x.conjunct == .linked && isConjunct c)

/-! ## 3. Clusters -/

/-- A text cut behind other characters. The first piece holds what belongs to the
character before it, which may be nothing. -/
def cutFrom (x : Preceding) : List Char → List Char × List (List Char)
  | [] => ([], [])
  | c :: cs =>
    let (own, others) := cutFrom (x.next c) cs
    if x.goesOn c then (c :: own, others) else ([], (c :: own) :: others)

/-- A text cut where a character does not belong to the one before it. -/
def clusters (cs : List Char) : List (List Char) := (cutFrom .start cs).2

end CoachClient.Text

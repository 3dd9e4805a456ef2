/-
CoachClient.Proofs.Shell.Sentence — the grammar of a typed line.

* `Piece`, `Word`, `Sentence` — how a line is made up: words of at least one piece each,
  and blanks between them. A piece is an ordinary character, or what stands between two
  quotes of one kind.
* `LeavesOpen` — a line with a quote that is never closed, behind a part in which every
  quote is.
* `wordsFrom_sentence`, `wordsFrom_open` — what is read off a sentence, and off one with an
  open quote behind it.
* `exists_sentence` — every line is of one of the two kinds.
* `Sentence.text_injective` — and a sentence can be told from its text.
* `splitWords_obeys_grammar` — so a line is split exactly if it is a sentence.

What a character does depends on whether a word has begun and which quote is open. A
piece is read whole, so between pieces no quote is ever open, and whether a word has
begun is said by what stands there: a piece or a blank. The two kinds of things that a
line consists of are told apart by their first characters, and a piece ends where its
quote comes again, so there is one way only to take a line apart.
-/
import CoachClient.Proofs.Shell.Words

namespace CoachClient.Shell

open CoachClient.Text

/-! ## 1. How a line is made up -/

/-- A blank character. -/
abbrev Blank := { c : Char // isBlank c = true }

/-- Blanks as they are typed. -/
def blanksText (gap : List Blank) : List Char := gap.map Subtype.val

/-- A piece of a word: a character that is neither a quote nor blank, or what stands
between two quotes of one kind. -/
inductive Piece where
  | plain (c : Char) (ordinary : isQuote c = false ∧ isBlank c = false)
  | quoted (mark : Char) (inside : List Char) (isMark : isQuote mark = true)
      (closed : mark ∉ inside)

namespace Piece

/-- A piece as it is typed. -/
def text : Piece → List Char
  | .plain c _ => [c]
  | .quoted mark inside _ _ => mark :: (inside ++ [mark])

/-- What a piece adds to its word. -/
def value : Piece → List Char
  | .plain c _ => [c]
  | .quoted _ inside _ _ => inside

end Piece

/-- A word: at least one piece. -/
structure Word where
  first : Piece
  more : List Piece

namespace Word

/-- The pieces of a word. -/
def pieces (w : Word) : List Piece := w.first :: w.more

/-- A word as it is typed. -/
def text (w : Word) : List Char := w.pieces.flatMap Piece.text

/-- What a word is read as. -/
def value (w : Word) : List Char := w.pieces.flatMap Piece.value

end Word

/-- Words with the blanks behind each of them, as they are typed. -/
def wordsText : List (Word × List Blank) → List Char
  | [] => []
  | (w, gap) :: rest => w.text ++ (blanksText gap ++ wordsText rest)

/-- A line: blanks, and words with blanks behind them. Only behind the last word there may
be none. -/
structure Sentence where
  lead : List Blank
  words : List (Word × List Blank)
  parted : words.Pairwise fun entry _ => entry.2 ≠ []

namespace Sentence

/-- A line as it is typed. -/
def text (s : Sentence) : List Char := blanksText s.lead ++ wordsText s.words

/-- The words of a line. -/
def values (s : Sentence) : List (List Char) := s.words.map fun entry => entry.1.value

end Sentence

/-- A quote opens here and is never closed. -/
def IsOpen (tail : List Char) : Prop :=
  ∃ mark rest, tail = mark :: rest ∧ isQuote mark = true ∧ mark ∉ rest

/-- Behind a part in which every quote is closed, the line leaves one open. -/
def LeavesOpen (line : List Char) : Prop :=
  ∃ (s : Sentence) (tail : List Char), IsOpen tail ∧ line = s.text ++ tail

theorem not_isBlank_of_isQuote {c : Char} (h : isQuote c = true) : isBlank c = false := by
  cases hblank : isBlank c with
  | false => rfl
  | true =>
    rw [isQuote_of_isBlank hblank] at h
    cases h

/-! ## 2. What is read -/

/-- Blanks before a word are passed over. -/
theorem wordsFrom_blanks (gap : List Blank) (rest : List Char) :
    wordsFrom .between (blanksText gap ++ rest) = wordsFrom .between rest := by
  induction gap with
  | nil => rfl
  | cons b gap ih =>
    rw [← ih]
    simp [blanksText, wordsFrom, isQuote_of_isBlank b.property, b.property]

/-- What stands between quotes is added as it is. -/
theorem wordsFrom_quoted {mark : Char} {inside : List Char} (h : mark ∉ inside)
    (sofar rest : List Char) :
    wordsFrom (.quoted mark sofar) (inside ++ mark :: rest) =
      wordsFrom (.word (inside.reverse ++ sofar)) rest := by
  induction inside generalizing sofar with
  | nil => simp [wordsFrom]
  | cons c inside ih =>
    obtain ⟨hc, hinside⟩ : ¬ mark = c ∧ mark ∉ inside := by simpa using h
    rw [List.cons_append, wordsFrom, if_neg fun heq => hc heq.symm, ih hinside]
    simp

/-- A piece is added to the word. -/
theorem wordsFrom_piece (p : Piece) (sofar rest : List Char) :
    wordsFrom (.word sofar) (p.text ++ rest) =
      wordsFrom (.word (p.value.reverse ++ sofar)) rest := by
  cases p with
  | plain c h => simp [Piece.text, Piece.value, wordsFrom, h.1, h.2]
  | quoted mark inside hmark hinside =>
    rw [Piece.value, ← wordsFrom_quoted hinside]
    simp [Piece.text, wordsFrom, hmark]

/-- A word begins with a piece. -/
theorem wordsFrom_between_piece (p : Piece) (rest : List Char) :
    wordsFrom .between (p.text ++ rest) = wordsFrom (.word p.value.reverse) rest := by
  cases p with
  | plain c h => simp [Piece.text, Piece.value, wordsFrom, h.1, h.2]
  | quoted mark inside hmark hinside =>
    rw [Piece.value, ← List.append_nil inside.reverse, ← wordsFrom_quoted hinside]
    simp [Piece.text, wordsFrom, hmark]

theorem wordsFrom_pieces (ps : List Piece) (sofar rest : List Char) :
    wordsFrom (.word sofar) (ps.flatMap Piece.text ++ rest) =
      wordsFrom (.word ((ps.flatMap Piece.value).reverse ++ sofar)) rest := by
  induction ps generalizing sofar with
  | nil => rfl
  | cons p ps ih =>
    rw [List.flatMap_cons, List.append_assoc, wordsFrom_piece, ih]
    simp

theorem wordsFrom_word (w : Word) (rest : List Char) :
    wordsFrom .between (w.text ++ rest) = wordsFrom (.word w.value.reverse) rest := by
  rw [Word.text, Word.pieces, List.flatMap_cons, List.append_assoc, wordsFrom_between_piece,
    wordsFrom_pieces]
  simp [Word.value, Word.pieces]

/-- No word goes on here. -/
def EndsWord (rest : List Char) : Prop := ∀ c ∈ rest.head?, isBlank c = true

theorem endsWord_nil : EndsWord [] := fun _ hc => nomatch hc

theorem endsWord_cons {c : Char} (h : isBlank c = true) (rest : List Char) :
    EndsWord (c :: rest) := by
  intro d hd
  rwa [← Option.some.inj hd]

/-- Behind a word that has blanks behind it, or is the last one, no word goes on. -/
theorem endsWord_gap {gap : List Blank} {rest : List Char} (h : gap = [] → EndsWord rest) :
    EndsWord (blanksText gap ++ rest) := by
  cases gap with
  | nil => exact h rfl
  | cons b gap => exact endsWord_cons b.property _

/-- A word that does not go on is complete. -/
theorem wordsFrom_of_endsWord {rest : List Char} (h : EndsWord rest) (sofar : List Char) :
    wordsFrom (.word sofar) rest = (wordsFrom .between rest).map (sofar.reverse :: ·) := by
  cases rest with
  | nil => rfl
  | cons c rest =>
    have hblank : isBlank c = true := h c rfl
    rw [wordsFrom_word_blank hblank]
    simp [wordsFrom, isQuote_of_isBlank hblank, hblank]

section
variable {words : List (Word × List Blank)} {rest : List Char}

theorem wordsFrom_wordsText (hparted : words.Pairwise fun entry _ => entry.2 ≠ [])
    (hrest : EndsWord rest) :
    wordsFrom .between (wordsText words ++ rest) =
      (wordsFrom .between rest).map (words.map (fun entry => entry.1.value) ++ ·) := by
  induction words with
  | nil => cases h : wordsFrom .between rest <;> simp [wordsText, h, Except.map]
  | cons entry words ih =>
    obtain ⟨w, gap⟩ := entry
    obtain ⟨hgap, hparted⟩ := List.pairwise_cons.mp hparted
    have hends : EndsWord (blanksText gap ++ (wordsText words ++ rest)) := by
      refine endsWord_gap fun hnone => ?_
      cases words with
      | nil => exact hrest
      | cons entry words => exact absurd hnone (hgap entry List.mem_cons_self)
    rw [wordsText, List.append_assoc, List.append_assoc, wordsFrom_word,
      wordsFrom_of_endsWord hends, wordsFrom_blanks, ih hparted]
    cases wordsFrom .between rest <;> simp [Except.map]

/-- A sentence adds its words. -/
theorem wordsFrom_sentence (s : Sentence) (hrest : EndsWord rest) :
    wordsFrom .between (s.text ++ rest) = (wordsFrom .between rest).map (s.values ++ ·) := by
  rw [Sentence.text, List.append_assoc, wordsFrom_blanks, wordsFrom_wordsText s.parted hrest]
  rfl

/-- Where a quote opens and is never closed, reading fails. -/
theorem wordsFrom_quoted_open {mark : Char} (h : mark ∉ rest) (sofar : List Char) :
    wordsFrom (.quoted mark sofar) rest = .error .openQuote := by
  induction rest generalizing sofar with
  | nil => rfl
  | cons c rest ih =>
    obtain ⟨hc, hrest⟩ : ¬ mark = c ∧ mark ∉ rest := by simpa using h
    rw [wordsFrom, if_neg fun heq => hc heq.symm, ih hrest]

theorem IsOpen.wordsFrom_between {tail : List Char} (h : IsOpen tail) :
    wordsFrom .between tail = .error .openQuote := by
  obtain ⟨mark, rest, rfl, hmark, hrest⟩ := h
  rw [wordsFrom, if_pos hmark, wordsFrom_quoted_open hrest]

theorem IsOpen.wordsFrom_word {tail : List Char} (h : IsOpen tail) (sofar : List Char) :
    wordsFrom (.word sofar) tail = .error .openQuote := by
  obtain ⟨mark, rest, rfl, hmark, hrest⟩ := h
  rw [wordsFrom, if_pos hmark, wordsFrom_quoted_open hrest]

theorem wordsFrom_wordsText_open (hparted : words.Pairwise fun entry _ => entry.2 ≠ [])
    {tail : List Char} (htail : IsOpen tail) :
    wordsFrom .between (wordsText words ++ tail) = .error .openQuote := by
  induction words with
  | nil => exact htail.wordsFrom_between
  | cons entry words ih =>
    obtain ⟨w, gap⟩ := entry
    obtain ⟨hgap, hlater⟩ := List.pairwise_cons.mp hparted
    rw [wordsText, List.append_assoc, List.append_assoc, wordsFrom_word]
    cases gap with
    | cons b gap =>
      rw [wordsFrom_of_endsWord (endsWord_gap fun hnone => absurd hnone (List.cons_ne_nil b gap)),
        wordsFrom_blanks, ih hlater]
      rfl
    | nil =>
      -- the open quote stands right behind the last word
      cases words with
      | nil => exact htail.wordsFrom_word _
      | cons entry words => exact absurd rfl (hgap entry List.mem_cons_self)

/-- A quote that is left open is found. -/
theorem wordsFrom_open {line : List Char} (h : LeavesOpen line) :
    wordsFrom .between line = .error .openQuote := by
  obtain ⟨s, tail, htail, rfl⟩ := h
  rw [Sentence.text, List.append_assoc, wordsFrom_blanks,
    wordsFrom_wordsText_open s.parted htail]

end

/-! ## 3. Every line -/

namespace Sentence

/-- A line without words. -/
def empty : Sentence := ⟨[], [], .nil⟩

/-- A line with one more blank before it. -/
def afterBlank (b : Blank) (s : Sentence) : Sentence := { s with lead := b :: s.lead }

theorem text_afterBlank (b : Blank) (s : Sentence) :
    (s.afterBlank b).text = b.val :: s.text := rfl

/-- With a piece before it, a line begins with that piece, be it a word of its own or the
first piece of the first word. -/
theorem exists_afterPiece (p : Piece) (s : Sentence) :
    ∃ s' : Sentence, s'.text = p.text ++ s.text := by
  obtain ⟨lead, words, hparted⟩ := s
  cases lead with
  | cons b lead =>
    refine ⟨⟨[], (⟨p, []⟩, b :: lead) :: words, ?_⟩, ?_⟩
    · exact List.pairwise_cons.mpr ⟨fun _ _ => List.cons_ne_nil b lead, hparted⟩
    · simp [text, wordsText, Word.text, Word.pieces, blanksText]
  | nil =>
    cases words with
    | nil =>
      refine ⟨⟨[], [(⟨p, []⟩, [])], List.pairwise_singleton _ _⟩, ?_⟩
      simp [text, wordsText, Word.text, Word.pieces, blanksText]
    | cons entry words =>
      obtain ⟨⟨first, more⟩, gap⟩ := entry
      refine ⟨⟨[], (⟨p, first :: more⟩, gap) :: words, ?_⟩, ?_⟩
      · exact List.pairwise_cons.mpr (List.pairwise_cons.mp hparted)
      · simp [text, wordsText, Word.text, Word.pieces, blanksText]

end Sentence

/-- Every line is a sentence, or one with an open quote behind it. -/
theorem exists_sentence (line : List Char) :
    ∃ (s : Sentence) (tail : List Char), (tail = [] ∨ IsOpen tail) ∧ line = s.text ++ tail := by
  match line with
  | [] => exact ⟨.empty, [], .inl rfl, rfl⟩
  | c :: cs =>
    by_cases hquote : isQuote c = true
    · by_cases hclosed : c ∈ cs
      · obtain ⟨inside, rest, hcs, hinside⟩ := List.eq_append_cons_of_mem hclosed
        have hshorter : rest.length < (c :: cs).length := by simp [hcs]; omega
        obtain ⟨s, tail, htail, hrest⟩ := exists_sentence rest
        obtain ⟨s', hs'⟩ := s.exists_afterPiece (.quoted c inside hquote hinside)
        refine ⟨s', tail, htail, ?_⟩
        simp [hs', hcs, hrest, Piece.text]
      · exact ⟨.empty, c :: cs, .inr ⟨c, cs, rfl, hquote, hclosed⟩, rfl⟩
    · obtain ⟨s, tail, htail, hcs⟩ := exists_sentence cs
      by_cases hblank : isBlank c = true
      · refine ⟨s.afterBlank ⟨c, hblank⟩, tail, htail, ?_⟩
        rw [Sentence.text_afterBlank, hcs]
        rfl
      · have hplain : isQuote c = false ∧ isBlank c = false := by simp [hquote, hblank]
        obtain ⟨s', hs'⟩ := s.exists_afterPiece (.plain c hplain)
        refine ⟨s', tail, htail, ?_⟩
        rw [hs', hcs, List.append_assoc]
        rfl
termination_by line.length

/-! ## 4. One way to take a line apart -/

/-- A list is cut in one way only where its elements stop being of a kind. -/
theorem append_inj_of_kind {α : Type} {p : α → Bool} {as as' bs bs' : List α}
    (has : ∀ a ∈ as, p a = true) (has' : ∀ a ∈ as', p a = true)
    (hbs : ∀ b ∈ bs.head?, p b = false) (hbs' : ∀ b ∈ bs'.head?, p b = false)
    (h : as ++ bs = as' ++ bs') : as = as' ∧ bs = bs' := by
  induction as generalizing as' with
  | nil =>
    cases as' with
    | nil => exact ⟨rfl, h⟩
    | cons a' as' =>
      have hkind := hbs a' (by rw [← List.nil_append bs, h]; rfl)
      rw [has' a' List.mem_cons_self] at hkind
      cases hkind
  | cons a as ih =>
    cases as' with
    | nil =>
      have hkind := hbs' a (by rw [← List.nil_append bs', ← h]; rfl)
      rw [has a List.mem_cons_self] at hkind
      cases hkind
    | cons a' as' =>
      obtain ⟨rfl, htail⟩ := List.cons.inj h
      obtain ⟨rfl, rfl⟩ := ih (fun b hb => has b (List.mem_cons_of_mem _ hb))
        (fun b hb => has' b (List.mem_cons_of_mem _ hb)) htail
      exact ⟨rfl, rfl⟩

/-- What a line consists of. -/
inductive Token where
  | blank (b : Blank)
  | piece (p : Piece)

namespace Token

/-- A blank or a piece as it is typed. -/
def text : Token → List Char
  | .blank b => [b.val]
  | .piece p => p.text

/-- The token is part of a word. -/
def isPiece : Token → Bool
  | .blank _ => false
  | .piece _ => true

theorem piece_text (p : Piece) : ∃ c cs, p.text = c :: cs ∧ isBlank c = false := by
  cases p with
  | plain c h => exact ⟨c, [], rfl, h.2⟩
  | quoted mark inside hmark _ => exact ⟨mark, _, rfl, not_isBlank_of_isQuote hmark⟩

theorem text_ne_nil (t : Token) : t.text ≠ [] := by
  cases t with
  | blank b => exact List.cons_ne_nil _ _
  | piece p =>
    obtain ⟨c, cs, htext, -⟩ := piece_text p
    rw [text, htext]
    exact List.cons_ne_nil c cs

/-- A piece ends where its own text says. -/
theorem piece_inj {p p' : Piece} {rest rest' : List Char} (h : p.text ++ rest = p'.text ++ rest') :
    p = p' ∧ rest = rest' := by
  cases p with
  | plain c hc =>
    cases p' with
    | plain c' hc' =>
      obtain ⟨rfl, rfl⟩ := List.cons.inj h
      exact ⟨rfl, rfl⟩
    | quoted mark' inside' hmark' _ =>
      obtain ⟨rfl, -⟩ := List.cons.inj h
      rw [hc.1] at hmark'
      cases hmark'
  | quoted mark inside hmark hinside =>
    cases p' with
    | plain c' hc' =>
      obtain ⟨rfl, -⟩ := List.cons.inj h
      rw [hc'.1] at hmark
      cases hmark
    | quoted mark' inside' hmark' hinside' =>
      obtain ⟨rfl, htail⟩ : mark = mark' ∧ inside ++ mark :: rest = inside' ++ mark' :: rest' := by
        simpa [Piece.text] using h
      have hother : ∀ {cs : List Char}, mark ∉ cs → ∀ c ∈ cs, (c != mark) = true :=
        fun hcs c hc => bne_iff_ne.mpr fun heq => hcs (heq ▸ hc)
      have hself : ∀ cs : List Char, ∀ c ∈ (mark :: cs).head?, (c != mark) = false := by
        intro cs c hc
        simp [← Option.some.inj hc]
      obtain ⟨rfl, hrest⟩ := append_inj_of_kind (hother hinside) (hother hinside') (hself rest)
        (hself rest') htail
      exact ⟨rfl, (List.cons.inj hrest).2⟩

theorem text_inj {t t' : Token} {rest rest' : List Char} (h : t.text ++ rest = t'.text ++ rest') :
    t = t' ∧ rest = rest' := by
  cases t with
  | blank b =>
    cases t' with
    | blank b' =>
      obtain ⟨hb, rfl⟩ := List.cons.inj h
      exact ⟨congrArg blank (Subtype.ext hb), rfl⟩
    | piece p' =>
      obtain ⟨c, cs, htext, hc⟩ := piece_text p'
      rw [text, text, htext] at h
      obtain ⟨rfl, -⟩ := List.cons.inj h
      rw [b.property] at hc
      cases hc
  | piece p =>
    cases t' with
    | blank b' =>
      obtain ⟨c, cs, htext, hc⟩ := piece_text p
      rw [text, text, htext] at h
      obtain ⟨rfl, -⟩ := List.cons.inj h
      rw [b'.property] at hc
      cases hc
    | piece p' =>
      obtain ⟨rfl, hrest⟩ := piece_inj h
      exact ⟨rfl, hrest⟩

/-- Blanks and pieces can be told from what is typed. -/
theorem flatMap_text_inj {ts ts' : List Token} (h : ts.flatMap text = ts'.flatMap text) :
    ts = ts' := by
  induction ts generalizing ts' with
  | nil =>
    cases ts' with
    | nil => rfl
    | cons t' ts' => exact absurd (List.append_eq_nil_iff.mp h.symm).1 t'.text_ne_nil
  | cons t ts ih =>
    cases ts' with
    | nil => exact absurd (List.append_eq_nil_iff.mp h).1 t.text_ne_nil
    | cons t' ts' =>
      obtain ⟨rfl, hrest⟩ := text_inj h
      rw [ih hrest]

/-- The blanks and pieces of words with blanks behind them. -/
def ofWords : List (Word × List Blank) → List Token
  | [] => []
  | (w, gap) :: rest => w.pieces.map piece ++ (gap.map blank ++ ofWords rest)

theorem flatMap_text_ofWords (words : List (Word × List Blank)) :
    (ofWords words).flatMap text = wordsText words := by
  induction words with
  | nil => rfl
  | cons entry words ih =>
    obtain ⟨w, gap⟩ := entry
    rw [ofWords, List.flatMap_append, List.flatMap_append, ih, List.flatMap_map, List.flatMap_map,
      wordsText, blanksText, List.map_eq_flatMap]
    rfl

theorem isPiece_head_ofWords (words : List (Word × List Blank)) :
    ∀ t ∈ (ofWords words).head?, (!t.isPiece) = false := by
  cases words with
  | nil => exact fun _ ht => nomatch ht
  | cons entry words =>
    intro t ht
    rw [← Option.some.inj ht]
    rfl

/-- Words go on as long as there are pieces, and are parted by blanks. -/
theorem ofWords_inj {words words' : List (Word × List Blank)}
    (hparted : words.Pairwise fun entry _ => entry.2 ≠ [])
    (hparted' : words'.Pairwise fun entry _ => entry.2 ≠ [])
    (h : ofWords words = ofWords words') : words = words' := by
  have hpieces : ∀ ps : List Piece, ∀ t ∈ ps.map piece, t.isPiece = true := by
    intro ps t ht
    obtain ⟨p, -, rfl⟩ := List.mem_map.mp ht
    rfl
  have hblanks : ∀ gap : List Blank, ∀ t ∈ gap.map blank, (!t.isPiece) = true := by
    intro gap t ht
    obtain ⟨b, -, rfl⟩ := List.mem_map.mp ht
    rfl
  have hend : ∀ {gap : List Blank} {words : List (Word × List Blank)},
      (∀ entry ∈ words, gap ≠ []) →
        ∀ t ∈ (gap.map blank ++ ofWords words).head?, t.isPiece = false := by
    intro gap words hgap t ht
    cases gap with
    | cons b gap =>
      rw [← Option.some.inj ht]
      rfl
    | nil =>
      cases words with
      | nil => cases ht
      | cons entry words => exact absurd rfl (hgap entry List.mem_cons_self)
  induction words generalizing words' with
  | nil =>
    cases words' with
    | nil => rfl
    | cons entry words' => cases h
  | cons entry words ih =>
    cases words' with
    | nil => cases h
    | cons entry' words' =>
      obtain ⟨⟨first, more⟩, gap⟩ := entry
      obtain ⟨⟨first', more'⟩, gap'⟩ := entry'
      obtain ⟨hgap, hparted⟩ := List.pairwise_cons.mp hparted
      obtain ⟨hgap', hparted'⟩ := List.pairwise_cons.mp hparted'
      obtain ⟨hword, hbehind⟩ :=
        append_inj_of_kind (hpieces _) (hpieces _) (hend hgap) (hend hgap') h
      obtain ⟨hgaps, hrest⟩ := append_inj_of_kind (hblanks _) (hblanks _)
        (isPiece_head_ofWords words) (isPiece_head_ofWords words') hbehind
      obtain rfl : words = words' := ih hparted hparted' hrest
      obtain ⟨rfl, rfl⟩ : first = first' ∧ more = more' :=
        List.cons.inj ((List.map_inj_right fun p p' hp => piece.inj hp).mp hword)
      obtain rfl : gap = gap' := (List.map_inj_right fun b b' hb => blank.inj hb).mp hgaps
      rfl

end Token

/-- A sentence can be told from its text. -/
theorem Sentence.text_injective {s s' : Sentence} (h : s.text = s'.text) : s = s' := by
  have htokens : ∀ s : Sentence,
      (s.lead.map Token.blank ++ Token.ofWords s.words).flatMap Token.text = s.text := by
    intro s
    rw [List.flatMap_append, Token.flatMap_text_ofWords, List.flatMap_map, Sentence.text,
      blanksText, List.map_eq_flatMap]
    rfl
  have hlead : ∀ gap : List Blank, ∀ t ∈ gap.map Token.blank, (!t.isPiece) = true := by
    intro gap t ht
    obtain ⟨b, -, rfl⟩ := List.mem_map.mp ht
    rfl
  rw [← htokens s, ← htokens s'] at h
  obtain ⟨hleads, hwords⟩ := append_inj_of_kind (hlead _) (hlead _)
    (Token.isPiece_head_ofWords s.words) (Token.isPiece_head_ofWords s'.words)
    (Token.flatMap_text_inj h)
  obtain ⟨lead, words, hparted⟩ := s
  obtain ⟨lead', words', hparted'⟩ := s'
  obtain rfl : lead = lead' :=
    (List.map_inj_right fun b b' hb => Token.blank.inj hb).mp hleads
  obtain rfl : words = words' := Token.ofWords_inj hparted hparted' hwords
  rfl

/-! ## 5. Lines -/

theorem splitWords_of_sentence {line : String} {s : Sentence} (h : s.text = line.toList) :
    splitWords line = .ok (s.values.map String.ofList) := by
  have hread := wordsFrom_sentence s endsWord_nil
  rw [List.append_nil, h] at hread
  simp [splitWords, hread, wordsFrom, Except.map]

theorem splitWords_of_open {line : String} (h : LeavesOpen line.toList) :
    splitWords line = .error .openQuote := by
  simp [splitWords, wordsFrom_open h, Except.map]

/-- Every line is a sentence or leaves a quote open. -/
theorem sentence_or_open (line : String) :
    (∃ s : Sentence, s.text = line.toList) ∨ LeavesOpen line.toList := by
  obtain ⟨s, tail, rfl | htail, hline⟩ := exists_sentence line.toList
  · exact .inl ⟨s, by rw [hline, List.append_nil]⟩
  · exact .inr ⟨s, tail, htail, hline⟩

theorem splitWords_eq_ok_iff {line : String} {words : List String} :
    splitWords line = .ok words ↔
      ∃ s : Sentence, s.text = line.toList ∧ s.values.map String.ofList = words := by
  constructor
  · intro hwords
    rcases sentence_or_open line with ⟨s, hs⟩ | hopen
    · rw [splitWords_of_sentence hs] at hwords
      exact ⟨s, hs, Except.ok.inj hwords⟩
    · rw [splitWords_of_open hopen] at hwords
      cases hwords
  · rintro ⟨s, hs, rfl⟩
    exact splitWords_of_sentence hs

/-- A line that is continued behind a blank has the words of both parts. -/
theorem splitWords_append {line more : String} {words : List String} {c : Char}
    (h : splitWords line = .ok words) (hc : isBlank c = true) :
    splitWords (line ++ String.singleton c ++ more) = (splitWords more).map (words ++ ·) := by
  obtain ⟨s, hs, rfl⟩ := splitWords_eq_ok_iff.mp h
  have hread := wordsFrom_sentence s (endsWord_cons hc more.toList)
  have hblank : wordsFrom .between (c :: more.toList) = wordsFrom .between more.toList :=
    wordsFrom_blanks [⟨c, hc⟩] more.toList
  rw [hs, hblank] at hread
  have htext : (line ++ String.singleton c ++ more).toList = line.toList ++ c :: more.toList := by
    simp
  rw [splitWords, htext, hread, splitWords]
  cases wordsFrom .between more.toList <;> simp [Except.map]

/-- **A line is split exactly according to its grammar.** It has words if and only if it is
a sentence: words that are parted by blanks, each made up of ordinary characters and of
what stands between quotes of one kind. There is one such reading only, and the words are
those of the reading. Every other line fails, and these are the lines that leave a quote
open. So a line that is continued behind a blank has the words of both parts. -/
theorem splitWords_obeys_grammar (line : String) :
    (∀ words, splitWords line = .ok words ↔
      ∃ s : Sentence, s.text = line.toList ∧ s.values.map String.ofList = words) ∧
    (∀ s s' : Sentence, s.text = line.toList → s'.text = line.toList → s = s') ∧
    (splitWords line = .error .openQuote ↔ ¬ ∃ s : Sentence, s.text = line.toList) ∧
    (splitWords line = .error .openQuote ↔ LeavesOpen line.toList) ∧
    WordFault.openQuote.message = "unterminated quote" ∧
    ∀ words c more, splitWords line = .ok words → isBlank c = true →
      splitWords (line ++ String.singleton c ++ more) = (splitWords more).map (words ++ ·) := by
  have hsentence : ∀ s : Sentence, s.text = line.toList → splitWords line ≠ .error .openQuote := by
    intro s hs hfault
    rw [splitWords_of_sentence hs] at hfault
    cases hfault
  refine ⟨fun words => splitWords_eq_ok_iff, fun s s' hs hs' =>
    Sentence.text_injective (hs.trans hs'.symm), ⟨?_, ?_⟩, ⟨?_, splitWords_of_open⟩, rfl,
    fun words c more => splitWords_append⟩
  · rintro hfault ⟨s, hs⟩
    exact hsentence s hs hfault
  · intro hnone
    exact splitWords_of_open ((sentence_or_open line).resolve_left hnone)
  · intro hfault
    exact (sentence_or_open line).resolve_left fun ⟨s, hs⟩ => hsentence s hs hfault

/-- Quotes of the other kind and blanks are kept inside a quoted piece, pieces are joined,
and a pair of quotes is a word. -/
example : splitWords " a'b \"c'\"\"d  \"\"" = .ok ["ab \"cd", ""] := by cbv

end CoachClient.Shell

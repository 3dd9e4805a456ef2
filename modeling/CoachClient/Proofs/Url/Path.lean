/-
CoachClient.Proofs.Url.Path — the path of a URL whose text goes on.

* `splitSlashes_append` — a slash between two texts parts their pieces.
* `follow`, `resolveDots_append` — dots are resolved from left to right, so what
  follows goes on from the segments that are there.
* `directory` — the segments that a text leaves for what follows it.
* `IsPlainPath`, `readSegments_plain` — a path that stands for itself, character
  by character, is put behind them.
* `exists_readSegments_slashes` — with slashes behind it, or on its own, a text
  has these segments and empty ones after them.
* `stem` — both for what stands behind an authority.
* `length_lt_directory` — blanks behind it, which are encoded, make its last
  segment longer and keep it from being dots.
-/
import CoachClient.Proofs.Url.Front

namespace CoachClient.Url

open CoachClient.Text

/-! ## 1. Pieces -/

section
variable {k : Kind}

theorem splitSlashes_ne_nil (k : Kind) (cs : List Char) : splitSlashes k cs ≠ [] := by
  cases cs with
  | nil => exact List.cons_ne_nil _ _
  | cons c cs =>
    unfold splitSlashes
    split
    · exact List.cons_ne_nil _ _
    · split <;> exact List.cons_ne_nil _ _

/-- The first character of a piece. -/
theorem splitSlashes_cons {c : Char} (hc : isSlash k c = false) {cs piece : List Char}
    {pieces : List (List Char)} (h : splitSlashes k cs = piece :: pieces) :
    splitSlashes k (c :: cs) = (c :: piece) :: pieces := by
  simp [splitSlashes, hc, h]

theorem splitSlashes_append (k : Kind) (xs ys : List Char) :
    splitSlashes k (xs ++ '/' :: ys) = splitSlashes k xs ++ splitSlashes k ys := by
  induction xs with
  | nil => simp [splitSlashes, isSlash]
  | cons c xs ih =>
    cases hc : isSlash k c with
    | true => simp [splitSlashes, hc, ih]
    | false =>
      obtain ⟨piece, pieces, hpieces⟩ := List.exists_cons_of_ne_nil (splitSlashes_ne_nil k xs)
      have hwhole : splitSlashes k (xs ++ '/' :: ys) = piece :: (pieces ++ splitSlashes k ys) := by
        rw [ih, hpieces]
        rfl
      rw [List.cons_append, splitSlashes_cons hc hwhole, splitSlashes_cons hc hpieces]
      rfl

theorem splitSlashes_slashes (k : Kind) (xs : List Char) (n : Nat) :
    splitSlashes k (xs ++ List.replicate n '/') =
      splitSlashes k xs ++ List.replicate n [] := by
  induction n generalizing xs with
  | zero => simp
  | succ n ih =>
    have hnext : splitSlashes k (xs ++ ['/']) = splitSlashes k xs ++ [[]] :=
      splitSlashes_append k xs []
    rw [List.replicate_succ, ← List.singleton_append, ← List.append_assoc, ih, hnext,
      List.append_assoc]
    rfl

/-- What has no slash in it goes on with the last piece. -/
theorem exists_splitSlashes_append (k : Kind) (xs : List Char) :
    ∃ pieces last, splitSlashes k xs = pieces ++ [last] ∧
      ∀ ys, (∀ c ∈ ys, isSlash k c = false) →
        splitSlashes k (xs ++ ys) = pieces ++ [last ++ ys] := by
  induction xs with
  | nil =>
    refine ⟨[], [], rfl, fun ys hys => ?_⟩
    induction ys with
    | nil => rfl
    | cons c ys ih =>
      exact splitSlashes_cons (hys c List.mem_cons_self)
        (ih fun d hd => hys d (List.mem_cons_of_mem c hd))
  | cons c xs ih =>
    obtain ⟨pieces, last, hxs, happend⟩ := ih
    cases hc : isSlash k c with
    | true =>
      refine ⟨[] :: pieces, last, by simp [splitSlashes, hc, hxs], fun ys hys => ?_⟩
      simp [splitSlashes, hc, happend ys hys]
    | false =>
      cases pieces with
      | nil =>
        exact ⟨[], c :: last, splitSlashes_cons hc hxs, fun ys hys =>
          splitSlashes_cons hc (happend ys hys)⟩
      | cons piece pieces =>
        exact ⟨(c :: piece) :: pieces, last, splitSlashes_cons hc hxs, fun ys hys =>
          splitSlashes_cons hc (happend ys hys)⟩

theorem splitSlashes_of_not {cs : List Char} (h : ∀ c ∈ cs, isSlash k c = false) :
    splitSlashes k cs = [cs] := by
  obtain ⟨pieces, last, hnil, happend⟩ := exists_splitSlashes_append k []
  obtain ⟨rfl, rfl⟩ : pieces = [] ∧ last = [] := by
    cases pieces with
    | nil => exact ⟨rfl, (List.cons.inj hnil).1.symm⟩
    | cons piece pieces => simp [splitSlashes] at hnil
  exact happend cs h

/-- The pieces of a text, with a slash before each, are the text behind one. -/
theorem flatMap_splitSlashes {cs : List Char} (h : ∀ c ∈ cs, isSlash k c = true → c = '/') :
    ((splitSlashes k cs).flatMap fun piece => '/' :: piece) = '/' :: cs := by
  induction cs with
  | nil => rfl
  | cons c cs ih =>
    have hrest := ih fun d hd => h d (List.mem_cons_of_mem c hd)
    cases hc : isSlash k c with
    | true =>
      obtain rfl := h c List.mem_cons_self hc
      simp [splitSlashes, hc, hrest]
    | false =>
      obtain ⟨piece, pieces, hpieces⟩ := List.exists_cons_of_ne_nil (splitSlashes_ne_nil k cs)
      rw [hpieces, List.flatMap_cons] at hrest
      rw [splitSlashes_cons hc hpieces, List.flatMap_cons, List.cons_append, List.cons_append]
      rw [List.cons_append] at hrest
      rw [(List.cons.inj hrest).2]

end

/-! ## 2. Dots -/

/-- The segments, kept in reverse, from which a path goes on behind a piece. -/
def follow (done : List (List Char)) (piece : List Char) : List (List Char) :=
  match Dots.of piece with
  | .above => goUp done
  | .here => done
  | .none => piece :: done

theorem resolveDots_cons (done : List (List Char)) (piece : List Char) {rest : List (List Char)}
    (hrest : rest ≠ []) : resolveDots done (piece :: rest) = resolveDots (follow done piece) rest := by
  rw [resolveDots, follow]
  · cases Dots.of piece <;> rfl
  · exact hrest

/-- Dots are resolved from left to right. -/
theorem resolveDots_append (done xs : List (List Char)) {ys : List (List Char)} (hys : ys ≠ []) :
    resolveDots done (xs ++ ys) = resolveDots (xs.foldl follow done) ys := by
  induction xs generalizing done with
  | nil => rfl
  | cons x xs ih =>
    rw [List.cons_append, resolveDots_cons done x (List.append_ne_nil_of_right_ne_nil xs hys), ih]
    rfl

/-- The last piece leaves an empty segment if it is dots. -/
theorem exists_resolveDots_last (done : List (List Char)) (last : List Char) :
    ∃ n, resolveDots done [last] = (follow done last).reverse ++ List.replicate n [] := by
  cases h : Dots.of last with
  | above => exact ⟨1, by simp [resolveDots, follow, h]⟩
  | here => exact ⟨1, by simp [resolveDots, follow, h]⟩
  | none => exact ⟨0, by simp [resolveDots, follow, h]⟩

/-- The spellings of dots, in small letters. -/
def dotSpellings : List (List Char) :=
  ["..".toList, "%2e%2e".toList, "%2e.".toList, ".%2e".toList, ".".toList, "%2e".toList]

theorem dots_of_eq_none {segment : List Char}
    (h : ∀ dots ∈ dotSpellings, segment.map Char.toLower ≠ dots) : Dots.of segment = .none := by
  unfold dotSpellings at h
  unfold Dots.of
  simp_all

/-- Segments without dots are added as they are. -/
theorem resolveDots_of_none {pieces : List (List Char)}
    (h : ∀ piece ∈ pieces, Dots.of piece = .none) (done : List (List Char)) :
    resolveDots done pieces = done.reverse ++ pieces := by
  induction pieces generalizing done with
  | nil => simp [resolveDots]
  | cons piece pieces ih =>
    have hpiece := h piece List.mem_cons_self
    cases pieces with
    | nil => simp [resolveDots, hpiece]
    | cons next pieces =>
      rw [resolveDots_cons done piece (List.cons_ne_nil _ _),
        ih fun p hp => h p (List.mem_cons_of_mem piece hp)]
      simp [follow, hpiece]

/-! ## 3. Segments -/

/-- The segments that a text leaves for what follows it behind a slash. -/
def directory (cs : List Char) : List (List Char) :=
  (((splitSlashes .special cs).map (percentEncode pathSet)).foldl follow []).reverse

/-- A path, without the slash in front of it, that stands for itself. -/
structure IsPlainPath (cs : List Char) : Prop where
  chars : ∀ c ∈ cs, mustEncode pathSet c = false ∧ c ≠ '\\'
  pieces : ∀ piece ∈ splitSlashes .special cs, Dots.of piece = .none

instance (cs : List Char) : Decidable (IsPlainPath cs) :=
  decidable_of_iff
    ((cs.all fun c => decide (mustEncode pathSet c = false ∧ c ≠ '\\')) = true ∧
      ((splitSlashes .special cs).all fun piece => Dots.of piece == .none) = true)
    ⟨fun h => ⟨by simpa using h.1, by simpa using h.2⟩,
      fun h => ⟨by simpa using h.chars, by simpa using h.pieces⟩⟩

theorem percentEncode_of_not {set : EncodeSet} {cs : List Char}
    (h : ∀ c ∈ cs, mustEncode set c = false) : percentEncode set cs = cs := by
  induction cs with
  | nil => rfl
  | cons c cs ih =>
    have hrest := ih fun d hd => h d (List.mem_cons_of_mem c hd)
    rw [percentEncode] at hrest
    simp [percentEncode, percentEncodeChar, h c List.mem_cons_self, hrest]

/-- The characters of the pieces are those of the text. -/
theorem mem_of_mem_splitSlashes {k : Kind} {cs piece : List Char} {c : Char}
    (hpiece : piece ∈ splitSlashes k cs) (hc : c ∈ piece) : c ∈ cs := by
  induction cs generalizing piece with
  | nil => simp_all [splitSlashes]
  | cons d cs ih =>
    cases hd : isSlash k d with
    | true =>
      simp only [splitSlashes, hd, if_true, List.mem_cons] at hpiece
      rcases hpiece with rfl | hpiece
      · cases hc
      · exact List.mem_cons_of_mem d (ih hpiece hc)
    | false =>
      obtain ⟨first, pieces, hpieces⟩ := List.exists_cons_of_ne_nil (splitSlashes_ne_nil k cs)
      rw [splitSlashes_cons hd hpieces, List.mem_cons] at hpiece
      rcases hpiece with rfl | hpiece
      · rcases List.mem_cons.mp hc with rfl | hc
        · exact List.mem_cons_self
        · exact List.mem_cons_of_mem d (ih (hpieces ▸ List.mem_cons_self) hc)
      · exact List.mem_cons_of_mem d (ih (hpieces ▸ List.mem_cons_of_mem first hpiece) hc)

section
variable {path : List Char}

theorem IsPlainPath.map_encode (h : IsPlainPath path) :
    (splitSlashes .special path).map (percentEncode pathSet) = splitSlashes .special path := by
  refine (List.map_congr_left fun piece hpiece => ?_).trans (List.map_id _)
  exact percentEncode_of_not fun c hc => (h.chars c (mem_of_mem_splitSlashes hpiece hc)).1

/-- A plain path goes on from what is there. -/
theorem readSegments_plain (h : IsPlainPath path) (cs : List Char) :
    readSegments .special [] (cs ++ '/' :: path) = directory cs ++ splitSlashes .special path := by
  rw [readSegments, splitSlashes_append, List.map_append, h.map_encode, List.reverse_nil,
    resolveDots_append [] _ (splitSlashes_ne_nil _ _), resolveDots_of_none h.pieces]
  rfl

theorem IsPlainPath.text (h : IsPlainPath path) :
    Path.text (.segments (splitSlashes .special path)) = '/' :: path := by
  refine flatMap_splitSlashes fun c hc hslash => ?_
  simpa [isSlash, Kind.foldsBackslash, (h.chars c hc).2] using hslash

end

/-- The text of a path with slashes at its end. -/
theorem text_segments_append (xs ys : List (List Char)) :
    Path.text (.segments (xs ++ ys)) = Path.text (.segments xs) ++ Path.text (.segments ys) :=
  List.flatMap_append

theorem text_segments_replicate (n : Nat) :
    Path.text (.segments (List.replicate n [])) = List.replicate n '/' := by
  induction n with
  | zero => rfl
  | succ n ih => rw [List.replicate_succ, List.replicate_succ, ← ih]; rfl

/-- On its own, or with slashes behind it, a text has the same segments and then
empty ones. -/
theorem exists_readSegments_slashes (cs : List Char) (n : Nat) :
    ∃ j, readSegments .special [] (cs ++ List.replicate n '/') =
      directory cs ++ List.replicate j [] := by
  rw [readSegments, splitSlashes_slashes, List.map_append, List.reverse_nil]
  cases n with
  | zero =>
    obtain ⟨pieces, last, hpieces, -⟩ := exists_splitSlashes_append .special cs
    obtain ⟨j, hj⟩ := exists_resolveDots_last
      ((pieces.map (percentEncode pathSet)).foldl follow []) (percentEncode pathSet last)
    refine ⟨j, ?_⟩
    rw [directory, hpieces, List.map_append, List.replicate_zero, List.map_nil, List.append_nil,
      List.map_singleton, resolveDots_append [] _ (List.cons_ne_nil _ _), hj, List.foldl_append]
    rfl
  | succ n =>
    refine ⟨n + 1, ?_⟩
    have hempty : (List.replicate (n + 1) ([] : List Char)).map (percentEncode pathSet) =
        List.replicate (n + 1) [] := by rw [List.map_replicate]; rfl
    rw [hempty, resolveDots_append [] _ (by simp), resolveDots_of_none]
    · rfl
    · intro piece hpiece
      rw [List.eq_of_mem_replicate hpiece]
      decide

/-- What stays of the text behind an authority in front of a path. -/
def stem : List Char → List Char
  | [] => []
  | _ :: cs => Path.text (.segments (directory cs))

section
variable {cs : List Char}

theorem text_readPathStart_plain {path : List Char} (hpath : IsPlainPath path)
    (hcs : ∀ c ∈ cs.head?, isSlash .special c = true) :
    (readPathStart .special (cs ++ '/' :: path)).text = stem cs ++ '/' :: path := by
  cases cs with
  | nil =>
    have hslash : isSlash .special '/' = true := by decide
    have hplain : readSegments .special [] path = splitSlashes .special path := by
      rw [readSegments, hpath.map_encode, List.reverse_nil, resolveDots_of_none hpath.pieces]
      rfl
    simp only [List.nil_append, readPathStart, hslash, if_true, hplain, stem]
    exact hpath.text
  | cons c cs =>
    simp only [List.cons_append, readPathStart, hcs c rfl, if_true, stem]
    rw [readSegments_plain hpath, text_segments_append, hpath.text]

theorem exists_text_readPathStart (hcs : ∀ c ∈ cs.head?, isSlash .special c = true) (n : Nat) :
    ∃ j, (readPathStart .special (cs ++ List.replicate n '/')).text =
      stem cs ++ List.replicate j '/' := by
  cases cs with
  | nil =>
    cases n with
    | zero => exact ⟨1, rfl⟩
    | succ n =>
      obtain ⟨j, hj⟩ := exists_readSegments_slashes [] n
      have hslash : isSlash .special '/' = true := by decide
      refine ⟨j + 1, ?_⟩
      rw [List.nil_append] at hj ⊢
      simp only [List.replicate_succ, readPathStart, hslash, if_true, hj, stem]
      rw [text_segments_append, text_segments_replicate]
      rfl
  | cons c cs =>
    obtain ⟨j, hj⟩ := exists_readSegments_slashes cs n
    refine ⟨j, ?_⟩
    simp only [List.cons_append, readPathStart, hcs c rfl, if_true, hj, stem]
    rw [text_segments_append, text_segments_replicate]

end

/-! ## 4. Blanks at the end -/

/-- Three characters for a byte that are no encoded point keep a segment from
being dots. -/
theorem dots_of_append {h l : Char} (hpoint : ¬ (h.toLower = '2' ∧ l.toLower = 'e'))
    (hl : l.toLower ≠ '.') (xs : List Char) : Dots.of (xs ++ ['%', h, l]) = .none := by
  refine dots_of_eq_none fun dots hdots => ?_
  have hends : dots.length < 3 ∨ dots.reverse.head? = some '.' ∨ ['e', '2'] <+: dots.reverse := by
    revert dots
    decide
  rintro rfl
  have hreverse : ((xs ++ ['%', h, l]).map Char.toLower).reverse =
      l.toLower :: h.toLower :: '%'.toLower :: (xs.map Char.toLower).reverse := by simp
  rw [hreverse] at hends
  rcases hends with hshort | hlast | hencoded
  · simp only [List.length_map, List.length_append, List.length_cons, List.length_nil] at hshort
    omega
  · exact hl (by simpa using hlast)
  · simp only [List.cons_prefix_cons] at hencoded
    exact hpoint ⟨hencoded.2.1.symm, hencoded.1.symm⟩

/-- A blank is encoded. -/
theorem percentEncodeChar_edge {c : Char} (hc : IsEdge c) :
    percentEncodeChar pathSet c =
      ['%', upperHexDigit (c.toNat / 16), upperHexDigit (c.toNat % 16)] := by
  have hall : ∀ n < 0x21, percentEncodeChar pathSet (Char.ofNat n) =
      ['%', upperHexDigit (n / 16), upperHexDigit (n % 16)] := by decide
  have hlt : c.toNat < 0x21 := Nat.lt_succ_of_le hc
  have := hall c.toNat hlt
  rwa [Char.ofNat_toNat] at this

theorem dots_of_append_blanks {blanks : List Char} (hblanks : ∀ c ∈ blanks, IsEdge c)
    (hne : blanks ≠ []) (xs : List Char) : Dots.of (xs ++ percentEncode pathSet blanks) = .none := by
  obtain ⟨before, c, rfl⟩ : ∃ before c, blanks = before ++ [c] :=
    ⟨_, _, (List.dropLast_concat_getLast hne).symm⟩
  have hc : IsEdge c := hblanks c (by simp)
  have hdigits : ∀ n < 0x21, ¬ ((upperHexDigit (n / 16)).toLower = '2' ∧
      (upperHexDigit (n % 16)).toLower = 'e') ∧ (upperHexDigit (n % 16)).toLower ≠ '.' := by decide
  obtain ⟨hpoint, hl⟩ := hdigits c.toNat (Nat.lt_succ_of_le hc)
  have hend : percentEncode pathSet (before ++ [c]) = percentEncode pathSet before ++
      ['%', upperHexDigit (c.toNat / 16), upperHexDigit (c.toNat % 16)] := by
    simp [percentEncode, percentEncodeChar_edge hc]
  rw [hend, ← List.append_assoc]
  exact dots_of_append hpoint hl _

theorem length_text_goUp_le (done : List (List Char)) :
    (Path.text (.segments (goUp done).reverse)).length ≤
      (Path.text (.segments done.reverse)).length := by
  cases done with
  | nil => exact Nat.le_refl _
  | cons last before =>
    cases hdrive : isDrive last with
    | true => simp [goUp, hdrive]
    | false =>
      rw [goUp, hdrive, if_neg Bool.false_ne_true, List.reverse_cons, text_segments_append,
        List.length_append]
      exact Nat.le_add_right _ _

/-- A path that is read on its own is shorter than what it leaves for others with
blanks behind it. -/
theorem length_lt_directory (cs : List Char) {blanks : List Char}
    (hblanks : ∀ c ∈ blanks, IsEdge c) (hne : blanks ≠ []) :
    (Path.text (.segments (readSegments .special [] cs))).length <
      (Path.text (.segments (directory (cs ++ blanks)))).length := by
  obtain ⟨pieces, last, hpieces, happend⟩ := exists_splitSlashes_append .special cs
  have hslash : ∀ c ∈ blanks, isSlash .special c = false := fun c hc => by
    simp [isSlash, (hblanks c hc).ne (show 0x20 < '/'.toNat by decide),
      (hblanks c hc).ne (show 0x20 < '\\'.toNat by decide)]
  have hlonger : 0 < (percentEncode pathSet blanks).length := by
    obtain ⟨c, rest, rfl⟩ := List.exists_cons_of_ne_nil hne
    simp [percentEncode, percentEncodeChar_edge (hblanks c List.mem_cons_self)]
  rw [readSegments, directory, hpieces, happend blanks hslash, List.map_append, List.map_append,
    List.map_singleton, List.map_singleton, List.reverse_nil,
    resolveDots_append [] _ (List.cons_ne_nil _ _), List.foldl_append]
  generalize (pieces.map (percentEncode pathSet)).foldl follow [] = done
  have hencode : percentEncode pathSet (last ++ blanks) =
      percentEncode pathSet last ++ percentEncode pathSet blanks := List.flatMap_append
  have hfollow : (follow done (percentEncode pathSet (last ++ blanks))).reverse =
      done.reverse ++ [percentEncode pathSet last ++ percentEncode pathSet blanks] := by
    rw [follow, hencode, dots_of_append_blanks hblanks hne, List.reverse_cons]
  rw [List.foldl_cons, List.foldl_nil, hfollow, text_segments_append, List.length_append]
  have hup := length_text_goUp_le done
  unfold resolveDots
  split <;>
    simp only [List.reverse_cons, Path.text, List.flatMap_append, List.length_append,
      List.flatMap_cons, List.flatMap_nil, List.length_cons, List.length_nil] at hup ⊢ <;> omega

end CoachClient.Url

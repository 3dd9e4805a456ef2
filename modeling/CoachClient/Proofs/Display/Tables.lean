/-
CoachClient.Proofs.Display.Tables — tables show every row.

* `IsShortened`, `IsColumn`, `IsRow` — a text cut to a width, a column of that width, and the
  places that the first two columns of a row have.
* `isRow_front` — whatever stands behind them, the columns are in their places.
* `splitOn_written` — lines that lose the blanks at their end are lines again, and only the last
  one has changed.
* `PointsOn`, `hints_pointsOn` — what leads on behind a page.
* `IsTable`, `table_isTable` — one line for each item and what leads on, if no row has a line feed
  or is blank.
* `SessionFits`, `AccountFits` — what a row shows has no line feed, and then the row has none.
* `tables_show_every_row` — the tables of sessions and of accounts.

Blanks at the end of the whole text are dropped, so the last row may lose some if nothing leads
on. It keeps its columns, because a date or a standing follows them.
-/
import CoachClient.Proofs.Coaching.Following
import CoachClient.Proofs.Display.Amounts
import CoachClient.Proofs.Time.Wire
import CoachClient.Proofs.Url.Front
import Mathlib.Data.List.Forall2

namespace CoachClient.Display

open CoachClient.Coaching CoachClient.Text CoachClient.Time

/-! ## 1. Columns -/

/-- A text cut to a width: as a whole if it fits, or else its beginning and three dots. -/
structure IsShortened (width : Nat) (whole shown : List Char) : Prop where
  fits : shown.length ≤ width
  short : whole.length ≤ width → shown = whole
  long : width < whole.length →
    ∃ kept, kept <+: whole ∧ kept.length + 3 = width ∧ shown = kept ++ ['.', '.', '.']

theorem shorten_isShortened {width : Nat} (hwidth : 3 < width) (s : String) :
    IsShortened width s.toList (shorten width s).toList := by
  unfold shorten
  dsimp only
  by_cases hfits : s.toList.length ≤ width
  · rw [if_pos hfits]
    exact ⟨hfits, fun _ => rfl, fun hlong => absurd hfits (Nat.not_le.mpr hlong)⟩
  · have hkept : (s.toList.take (width - 3)).length + 3 = width := by
      rw [List.length_take]
      omega
    rw [if_neg hfits, if_neg (Nat.not_le.mpr hwidth), String.toList_ofList]
    refine ⟨?_, fun hshort => absurd hshort hfits, fun _ =>
      ⟨_, List.take_prefix _ _, hkept, rfl⟩⟩
    rw [List.length_append]
    exact Nat.le_of_eq hkept

/-- A column: a text cut to its width, and blanks behind it. -/
structure IsColumn (width : Nat) (text : String) (column : List Char) : Prop where
  length : column.length = width
  content : ∃ shown, IsShortened width text.toList shown ∧
    column = shown ++ List.replicate (width - shown.length) ' '

theorem leftColumn_isColumn {width : Nat} (hwidth : 3 < width) (s : String) :
    IsColumn width s (leftColumn width (shorten width s)) := by
  have hshown := shorten_isShortened hwidth s
  have hfits := hshown.fits
  refine ⟨?_, _, hshown, rfl⟩
  rw [leftColumn, List.length_append, List.length_replicate]
  omega

/-- A row: the id in twelve characters, a name in its own column, each with a blank behind it,
and more. -/
structure IsRow (width : Nat) (id name : String) (row : List Char) : Prop where
  id : IsColumn 12 id (row.take 12)
  gap : row[12]? = some ' '
  name : IsColumn width name ((row.drop 13).take width)
  behind : row[13 + width]? = some ' '

/-- The beginning of a row. -/
def front (width : Nat) (id name : String) : List Char :=
  leftColumn 12 (shorten 12 id) ++ ' ' :: leftColumn width (shorten width name) ++ [' ']

theorem isRow_front {width : Nat} (hwidth : 3 < width) (id name : String) (rest : List Char) :
    IsRow width id name (front width id name ++ rest) := by
  have hid := leftColumn_isColumn (show 3 < 12 by decide) id
  have hname := leftColumn_isColumn hwidth name
  unfold front
  generalize leftColumn 12 (shorten 12 id) = first at hid
  generalize leftColumn width (shorten width name) = second at hname
  have hfirst := hid.length
  have hsecond := hname.length
  simp only [List.append_assoc, List.cons_append, List.nil_append]
  refine ⟨?_, ?_, ?_, ?_⟩
  · rw [List.take_left' hfirst]
    exact hid
  · rw [List.getElem?_append_right (Nat.le_of_eq hfirst), hfirst, Nat.sub_self]
    rfl
  · have hdrop : (first ++ ' ' :: (second ++ ' ' :: rest)).drop 13 = second ++ ' ' :: rest := by
      rw [List.drop_append, hfirst]
      simp [List.drop_of_length_le (show first.length ≤ 13 by omega)]
    rw [hdrop, List.take_left' hsecond]
    exact hname
  · have hfront : (first ++ ' ' :: second).length = 13 + width := by
      rw [List.length_append, List.length_cons, hfirst, hsecond]
      omega
    rw [← List.cons_append, ← List.append_assoc, List.getElem?_append_right (Nat.le_of_eq hfront),
      hfront, Nat.sub_self]
    rfl

/-! ## 2. Lines -/

/-- What stands behind the last character that is not blank is all that is dropped. -/
theorem dropEndWhile_append_of_exists {ys : List Char} (h : ∃ c ∈ ys, isBlank c = false)
    (xs : List Char) : dropEndWhile isBlank (xs ++ ys) = xs ++ dropEndWhile isBlank ys := by
  obtain ⟨c, hmem, hc⟩ := h
  obtain ⟨before, behind, rfl⟩ := List.append_of_mem hmem
  rw [← List.append_assoc, Url.dropEndWhile_append_cons hc, Url.dropEndWhile_append_cons hc,
    List.append_assoc]

/-- Lines, each with its end. -/
def written (lines : List (List Char)) : List Char := lines.flatMap (· ++ ['\n'])

theorem splitOn_written_append {lines : List (List Char)} (h : ∀ l ∈ lines, '\n' ∉ l)
    (rest : List Char) :
    (written lines ++ rest).splitOn '\n' = lines ++ rest.splitOn '\n' := by
  induction lines with
  | nil => rfl
  | cons l lines ih =>
    have hsplit : written (l :: lines) ++ rest = l ++ '\n' :: (written lines ++ rest) := by
      simp [written]
    rw [hsplit, List.splitOn_append_cons_self, List.splitOn_eq_singleton (h l List.mem_cons_self),
      ih fun l hl => h l (List.mem_cons_of_mem _ hl)]
    rfl

/-- Lines without the blanks at their end are lines again: only the last one is shorter. -/
theorem splitOn_written {lines : List (List Char)} {last : List Char}
    (hlines : ∀ l ∈ lines, '\n' ∉ l) (hlast : '\n' ∉ last)
    (hblank : ∃ c ∈ last, isBlank c = false) :
    (dropEndWhile isBlank (written (lines ++ [last]))).splitOn '\n' =
      lines ++ [dropEndWhile isBlank last] := by
  have hend : dropEndWhile isBlank (last ++ ['\n']) = dropEndWhile isBlank last := by
    rw [dropEndWhile, List.reverse_append, List.reverse_singleton, List.singleton_append,
      List.dropWhile_cons_of_pos (by decide)]
    rfl
  have hwritten : written (lines ++ [last]) = written lines ++ (last ++ ['\n']) := by
    simp [written]
  have hnonblank : ∃ c ∈ last ++ ['\n'], isBlank c = false :=
    hblank.imp fun c hc => ⟨List.mem_append_left _ hc.1, hc.2⟩
  have hmem : '\n' ∉ dropEndWhile isBlank last := by
    obtain ⟨dropped, heq, -⟩ := Url.exists_dropEndWhile isBlank last
    rw [heq] at hlast
    exact fun hmem => hlast (List.mem_append_left _ hmem)
  rw [hwritten, dropEndWhile_append_of_exists hnonblank, hend, splitOn_written_append hlines,
    List.splitOn_eq_singleton hmem]

/-- The line that leads on, if there is one. -/
def hints {α : Type} (p : Page α) : List (List Char) :=
  p.nextOffset?.toList.map fun n => "More results from offset ".toList ++ digits n.toNat

theorem hint_eq_written {α : Type} (p : Page α) : hint p = written (hints p) := by
  unfold hint hints
  cases p.nextOffset? with
  | none => rfl
  | some n => simp [written]

/-- What leads on behind a page: one line if there are more items and their offset fits into 32
bits, and none otherwise. -/
structure PointsOn {α : Type} (p : Page α) (hints : List (List Char)) : Prop where
  onward : p.hasMore = true → p.offset.toNat + p.items.length < 2 ^ 32 → ∃ n : UInt32,
    n.toNat = p.offset.toNat + p.items.length ∧ p.offset < n ∧
      hints = ["More results from offset ".toList ++ digits n.toNat]
  ending : p.hasMore = false ∨ 2 ^ 32 ≤ p.offset.toNat + p.items.length → hints = []

theorem hints_pointsOn {α : Type} {p : Page α} (hitems : p.items ≠ []) : PointsOn p (hints p) where
  onward hmore hfits := by
    cases hnext : p.nextOffset? with
    | none =>
      rcases nextOffset?_eq_none_iff.mp hnext with hover | hlarge
      · rw [hmore] at hover
        cases hover
      · omega
    | some n =>
      have hsum := (nextOffset?_eq_some_iff.mp hnext).2
      exact ⟨n, hsum, (lt_iff_of_toNat hsum).mpr hitems, by rw [hints, hnext]; rfl⟩
  ending h := by
    rw [hints, nextOffset?_eq_none_iff.mpr h]
    rfl

/-- A page as a table: a line for each item, in the order of the page, and what leads on. -/
structure IsTable {α : Type} (shows : α → List Char → Prop) (p : Page α) (text : String) :
    Prop where
  lines : ∃ rows hints, text.toList.splitOn '\n' = rows ++ hints ∧
    List.Forall₂ shows p.items rows ∧ PointsOn p hints

theorem toList_table {α : Type} (row : α → List Char) (p : Page α) :
    (table row p).toList = dropEndWhile isBlank (written (p.items.map row ++ hints p)) := by
  rw [table, String.toList_ofList, hint_eq_written]
  simp only [written, List.flatMap_append, List.flatMap_map]

/-- The line that leads on ends in a digit. -/
theorem dropEndWhile_append_digits (xs : List Char) (n : Nat) :
    dropEndWhile isBlank (xs ++ digits n) = xs ++ digits n := by
  obtain ⟨front, d, hd⟩ := (List.eq_nil_or_concat' (digits n)).resolve_left (digits_ne_nil n)
  have hdigit : isDigit d = true := isDigit_of_mem_digits (n := n) (by rw [hd]; simp)
  rw [hd, ← List.append_assoc, Url.dropEndWhile_append_cons (not_blank_of_isDigit hdigit)]
  rfl

/-- A table shows its items if each row does, with the blanks at its end or without them. -/
theorem table_isTable {α : Type} {shows : α → List Char → Prop} {row : α → List Char}
    {p : Page α} (hitems : p.items ≠ [])
    (hline : ∀ a ∈ p.items, '\n' ∉ row a)
    (hblank : ∀ a ∈ p.items, ∃ c ∈ row a, isBlank c = false)
    (hwhole : ∀ a ∈ p.items, shows a (row a))
    (htrimmed : ∀ a ∈ p.items, shows a (dropEndWhile isBlank (row a))) :
    IsTable shows p (table row p) := by
  have hlines : ∀ l ∈ p.items.map row, '\n' ∉ l := by
    intro l hl
    obtain ⟨a, ha, rfl⟩ := List.mem_map.mp hl
    exact hline a ha
  have hpoints := hints_pointsOn hitems
  cases hnext : p.nextOffset? with
  | some n =>
    -- the last line leads on, and the rows stand before it as they are
    have hhints : hints p = ["More results from offset ".toList ++ digits n.toNat] := by
      rw [hints, hnext]
      rfl
    have hmem : '\n' ∉ "More results from offset ".toList ++ digits n.toNat := by
      rw [List.mem_append, not_or]
      exact ⟨by decide, not_mem_digits (by decide) _⟩
    refine ⟨p.items.map row, hints p, ?_, ?_, hpoints⟩
    · rw [toList_table, hhints, splitOn_written hlines hmem ⟨'M', by simp, by decide⟩,
        dropEndWhile_append_digits]
    · exact List.forall₂_map_right_iff.mpr (List.forall₂_same.mpr hwhole)
  | none =>
    -- the last row is the last line
    have hhints : hints p = [] := by
      rw [hints, hnext]
      rfl
    obtain ⟨init, last, hsplit⟩ := (List.eq_nil_or_concat' p.items).resolve_left hitems
    have hlast : last ∈ p.items := by simp [hsplit]
    have hinit : ∀ a ∈ init, a ∈ p.items := fun a ha => by simp [hsplit, ha]
    refine ⟨init.map row ++ [dropEndWhile isBlank (row last)], [], ?_, ?_, hhints ▸ hpoints⟩
    · rw [toList_table, hhints, hsplit, List.append_nil, List.append_nil, List.map_append]
      exact splitOn_written (fun l hl => hlines l (by simp [hsplit, hl])) (hline last hlast)
        (hblank last hlast)
    · rw [hsplit]
      exact List.rel_append
        (List.forall₂_map_right_iff.mpr (List.forall₂_same.mpr fun a ha => hwhole a (hinit a ha)))
        (.cons (htrimmed last hlast) .nil)

/-! ## 3. Texts without line feeds -/

theorem not_mem_leftColumn {c : Char} {s : String} (hc : c ≠ ' ') (hs : c ∉ s.toList)
    (width : Nat) : c ∉ leftColumn width s := by
  rw [leftColumn, List.mem_append, not_or]
  exact ⟨hs, fun hmem => hc (List.eq_of_mem_replicate hmem)⟩

theorem not_mem_rightColumn {c : Char} {s : String} (hc : c ≠ ' ') (hs : c ∉ s.toList)
    (width : Nat) : c ∉ rightColumn width s := by
  rw [rightColumn, List.mem_append, not_or]
  exact ⟨fun hmem => hc (List.eq_of_mem_replicate hmem), hs⟩

theorem newline_not_mem_shown (t : Instant) : '\n' ∉ t.shown.toList := by
  have hdigit : isDigit '\n' = false := by decide
  have hmonth : '\n' ∉ monthName t.date.month := by
    unfold monthName
    split <;> decide
  have hyear : '\n' ∉ yearText t.date.year := by
    unfold yearText
    split
    · exact not_mem_padded hdigit _ _
    · refine List.not_mem_cons_of_ne_of_not_mem ?_ (not_mem_padded hdigit _ _)
      split <;> decide
  simp [Instant.shown, hmonth, hyear, not_mem_padded hdigit]

theorem newline_not_mem_duration (minutes : Int) : '\n' ∉ (duration minutes).toList := by
  have hdigit : isDigit '\n' = false := by decide
  rw [duration_eq]
  split
  · simp [not_mem_signed hdigit]
  · split <;> simp [not_mem_digits hdigit]

theorem newline_not_mem_price {cents : Int} {currency : String}
    (h : cents ≠ 0 → '\n' ∉ currency.toList) : '\n' ∉ (price cents currency).toList := by
  have hdigit : isDigit '\n' = false := by decide
  have hamount : '\n' ∉ amount cents := by
    unfold amount
    split <;> simp [not_mem_digits hdigit, not_mem_padded hdigit]
  unfold price
  split
  · decide
  · rename_i hcents
    split <;> simp [hamount, h hcents]

theorem mem_intercalate {α : Type} {a : α} {sep : List α} {ls : List (List α)}
    (h : a ∈ sep.intercalate ls) : a ∈ sep ∨ ∃ l ∈ ls, a ∈ l := by
  induction ls with
  | nil => exact absurd h (by simp)
  | cons l ls ih =>
    cases ls with
    | nil => exact .inr ⟨l, by simpa using h⟩
    | cons l' ls =>
      simp only [List.intercalate_cons_cons, List.mem_append] at h
      rcases h with (hfirst | hsep) | hrest
      · exact .inr ⟨l, List.mem_cons_self, hfirst⟩
      · exact .inl hsep
      · exact (ih hrest).imp_right fun ⟨m, hm, ha⟩ => ⟨m, List.mem_cons_of_mem _ hm, ha⟩

theorem newline_not_mem_rolesShown {a : Account} (h : ∀ r ∈ a.roles, '\n' ∉ r.toList) :
    '\n' ∉ a.rolesShown.toList := by
  unfold Account.rolesShown
  split
  · decide
  · rw [String.toList_intercalate]
    intro hmem
    rcases mem_intercalate hmem with hsep | ⟨l, hl, hmem⟩
    · exact absurd hsep (by decide)
    · obtain ⟨r, hr, rfl⟩ := List.mem_map.mp hl
      exact h r hr hmem

theorem newline_not_mem_standing {a : Account}
    (h : a.isDisabled = true → ∀ r, a.disabledReason = some r → '\n' ∉ r.toList) :
    '\n' ∉ (standing a).toList := by
  unfold standing
  split
  · rename_i hdisabled
    cases hreason : a.disabledReason with
    | none => decide
    | some r => simp [h hdisabled r hreason]
  · decide

/-! ## 4. Tables -/

/-- A line shows a row: with its columns in their places, and all of it but blanks at the end. -/
structure Shows (width : Nat) (id name : String) (row line : List Char) : Prop where
  columns : IsRow width id name line
  whole : ∃ blanks, (∀ c ∈ blanks, isBlank c = true) ∧ line ++ blanks = row

/-- What a row shows of a session has no line feed. -/
structure SessionFits (s : Session) : Prop where
  id : '\n' ∉ (shorten idWidth s.id).toList
  title : '\n' ∉ (shorten titleWidth s.title).toList
  currency : s.priceCents.toInt ≠ 0 → '\n' ∉ s.currency.toList

/-- What a row shows of an account has no line feed. -/
structure AccountFits (a : Account) : Prop where
  id : '\n' ∉ (shorten idWidth a.id).toList
  email : '\n' ∉ (shorten emailWidth a.email).toList
  roles : ∀ r ∈ a.roles, '\n' ∉ r.toList
  reason : a.isDisabled = true → ∀ r, a.disabledReason = some r → '\n' ∉ r.toList

/-- Rows that begin with an id and a name make a table. -/
theorem table_shows {α : Type} {width : Nat} (hwidth : 3 < width) {p : Page α}
    (hitems : p.items ≠ []) (id name : α → String) (row rest : α → List Char)
    (hrow : ∀ a, row a = front width (id a) (name a) ++ rest a)
    (hline : ∀ a ∈ p.items, '\n' ∉ row a)
    (hblank : ∀ a, ∃ c ∈ rest a, isBlank c = false) :
    IsTable (fun a => Shows width (id a) (name a) (row a)) p (table row p) := by
  refine table_isTable hitems hline (fun a _ => ?_) (fun a _ => ?_) (fun a _ => ?_)
  · obtain ⟨c, hmem, hc⟩ := hblank a
    exact ⟨c, by rw [hrow]; exact List.mem_append_right _ hmem, hc⟩
  · exact ⟨hrow a ▸ isRow_front hwidth _ _ _, [], by simp, List.append_nil _⟩
  · obtain ⟨dropped, heq, hdropped⟩ := Url.exists_dropEndWhile isBlank (row a)
    refine ⟨?_, dropped, hdropped, heq.symm⟩
    rw [hrow, dropEndWhile_append_of_exists (hblank a)]
    exact isRow_front hwidth _ _ _

/-- What stands behind the title of a session. -/
def sessionRest (s : Session) : List Char :=
  s.startsAt.shown.toList ++ ' ' :: ' ' :: rightColumn durationWidth (duration s.durationMinutes)
    ++ ' ' :: ' ' :: (price s.priceCents.toInt s.currency).toList
    ++ (if s.isCancelled then "  [cancelled]".toList else [])

theorem sessionRow_eq (s : Session) : sessionRow s = front 28 s.id s.title ++ sessionRest s := by
  simp only [sessionRow, front, sessionRest, List.append_assoc, List.cons_append, List.nil_append]
  rfl

/-- What stands behind the email of an account. -/
def accountRest (a : Account) : List Char :=
  leftColumn rolesWidth a.rolesShown ++ ' ' :: (standing a).toList

theorem accountRow_eq (a : Account) : accountRow a = front 32 a.id a.email ++ accountRest a := by
  simp only [accountRow, front, accountRest, List.append_assoc, List.cons_append, List.nil_append]
  rfl

theorem SessionFits.newline_not_mem {s : Session} (h : SessionFits s) : '\n' ∉ sessionRow s := by
  have hblank : '\n' ≠ ' ' := by decide
  have hend : '\n' ∉ (if s.isCancelled then "  [cancelled]".toList else []) := by
    split <;> decide
  simp only [sessionRow, List.mem_append, List.mem_cons, not_or]
  exact ⟨⟨⟨⟨⟨not_mem_leftColumn hblank h.id _, hblank, not_mem_leftColumn hblank h.title _⟩, hblank,
    newline_not_mem_shown _⟩, hblank, hblank,
    not_mem_rightColumn hblank (newline_not_mem_duration _) _⟩, hblank, hblank,
    newline_not_mem_price h.currency⟩, hend⟩

theorem AccountFits.newline_not_mem {a : Account} (h : AccountFits a) : '\n' ∉ accountRow a := by
  have hblank : '\n' ≠ ' ' := by decide
  simp only [accountRow, List.mem_append, List.mem_cons, not_or]
  exact ⟨⟨⟨not_mem_leftColumn hblank h.id _, hblank, not_mem_leftColumn hblank h.email _⟩, hblank,
    not_mem_leftColumn hblank (newline_not_mem_rolesShown h.roles) _⟩, hblank,
    newline_not_mem_standing h.reason⟩

theorem sessions_isTable {p : Page Session} (hitems : p.items ≠ [])
    (hfits : ∀ s ∈ p.items, SessionFits s) :
    IsTable (fun s => Shows 28 s.id s.title (sessionRow s)) p (sessions p) := by
  rw [sessions, if_neg (by simpa using hitems)]
  refine table_shows (by decide) hitems _ _ _ sessionRest sessionRow_eq
    (fun s hs => (hfits s hs).newline_not_mem) (fun s => ⟨',', ?_, by decide⟩)
  have hcomma : ',' ∈ s.startsAt.shown.toList := by
    simp [Instant.shown]
  simp only [sessionRest, List.mem_append]
  exact .inl (.inl (.inl hcomma))

theorem accounts_isTable {p : Page Account} (hitems : p.items ≠ [])
    (hfits : ∀ a ∈ p.items, AccountFits a) :
    IsTable (fun a => Shows 32 a.id a.email (accountRow a)) p (accounts p) := by
  rw [accounts, if_neg (by simpa using hitems)]
  refine table_shows (by decide) hitems _ _ _ accountRest accountRow_eq
    (fun a ha => (hfits a ha).newline_not_mem) (fun a => ⟨'i', ?_, by decide⟩)
  have hstanding : 'i' ∈ (standing a).toList := by
    unfold standing
    split <;> simp
  exact List.mem_append_right _ (List.mem_cons_of_mem _ hstanding)

/-- **Tables show every row.** A page with items is shown as one line for each of them, in their
order, and one more that says where the next page begins, just if there are more items and their
offset fits into 32 bits. Each row has the id in the first twelve characters and, behind a blank,
the title or the email in a column of its own width. -/
theorem tables_show_every_row :
    (∀ p : Page Session, p.items ≠ [] → (∀ s ∈ p.items, SessionFits s) →
      IsTable (fun s => Shows 28 s.id s.title (sessionRow s)) p (sessions p)) ∧
    ∀ p : Page Account, p.items ≠ [] → (∀ a ∈ p.items, AccountFits a) →
      IsTable (fun a => Shows 32 a.id a.email (accountRow a)) p (accounts p) :=
  ⟨fun _ => sessions_isTable, fun _ => accounts_isTable⟩

/-- A last page with a title that is cut, and with a currency that ends in a blank. -/
def lastPage : Page Session where
  items := [{
    id := "sess-0123456789"
    coachId := "c1"
    coachName := none
    title := "Épée drills for everyone who is new here"
    startsAt := ⟨⟨2026, 5, 7, by decide⟩, 61200, 0, by decide⟩
    endsAt := ⟨⟨2026, 5, 7, by decide⟩, 66600, 0, by decide⟩
    maxParticipants := none
    priceCents := -5
    currency := "EUR "
    status := "scheduled" }]
  limit := 20
  offset := 40
  hasMore := false

/-- A page behind which there are more accounts. -/
def firstPage : Page Account where
  items := [
    { id := "u1", email := "ann@x", roles := ["coach", "admin"], disabledAt := none,
      disabledReason := none, createdAt := ⟨⟨2026, 1, 9, by decide⟩, 30600, 0, by decide⟩ },
    { id := "u2", email := "bob@x", roles := [],
      disabledAt := some ⟨⟨2026, 2, 3, by decide⟩, 30600, 0, by decide⟩,
      disabledReason := some "spam",
      createdAt := ⟨⟨2026, 1, 9, by decide⟩, 30600, 0, by decide⟩ }]
  limit := 2
  offset := 0
  hasMore := true

/-- The title ends in dots, the blank behind the currency is gone, and the accounts go on behind
the second one. -/
theorem pages_are_shown :
    (lastPage.items ≠ [] ∧ (∀ s ∈ lastPage.items, SessionFits s) ∧
      IsTable (fun s => Shows 28 s.id s.title (sessionRow s)) lastPage (sessions lastPage)) ∧
    (firstPage.items ≠ [] ∧ (∀ a ∈ firstPage.items, AccountFits a) ∧
      IsTable (fun a => Shows 32 a.id a.email (accountRow a)) firstPage (accounts firstPage)) ∧
    sessions lastPage =
      "sess-0123... Épée drills for everyone ... May 07, 2026 17:00   1h 30m  -0.05 EUR" ∧
    accounts firstPage =
      "u1           ann@x                            coach, admin         active\n" ++
      "u2           bob@x                            -                    disabled (spam)\n" ++
      "More results from offset 2" := by
  have hsessions : lastPage.items ≠ [] := by decide
  have haccounts : firstPage.items ≠ [] := by decide
  have hfits : ∀ s ∈ lastPage.items, SessionFits s := by
    intro s hs
    obtain rfl := List.mem_singleton.mp hs
    exact ⟨by decide, by decide, fun _ => by decide⟩
  have hfits' : ∀ a ∈ firstPage.items, AccountFits a := by
    intro a ha
    rcases List.mem_cons.mp ha with rfl | hrest
    · refine ⟨by decide, by decide, by decide, fun _ r hr => ?_⟩
      cases hr
    · obtain rfl := List.mem_singleton.mp hrest
      refine ⟨by decide, by decide, by decide, fun _ r hr => ?_⟩
      obtain rfl := Option.some.inj hr
      decide
  exact ⟨⟨hsessions, hfits, tables_show_every_row.1 _ hsessions hfits⟩,
    ⟨haccounts, hfits', tables_show_every_row.2 _ haccounts hfits'⟩,
    by decide +kernel, by decide +kernel⟩

end CoachClient.Display

/-
CoachClient.Proofs.Coaching.Following — page after page.

* `nextOffset?_eq_some_iff`, `nextOffset?_eq_none_iff` — where a page leads, and when it leads
  nowhere.
* `Pager`, `Pager.request?` — a service that hands out pages, and what a caller asks it who
  goes on wherever a page leads.
* `Pager.Echoes` — each page begins where it was asked for.
* `request?_succ_offset`, `offset_mono`, `le_offset_of_items` — one page adds the number of its
  items to the offset, so over many pages the offsets never fall.
* `exists_empty_pages` — an endless walk comes to a place that it does not leave any more.
* `pages_lead_on` — each page with items leads behind itself, and a walk ends unless from some
  page on all of them are empty and claim that there are more.
* `empty_page_leads_to_itself` — such a page.
-/
import CoachClient.Coaching.Page
import Mathlib.Order.OrderIsoNat
import Mathlib.Data.Fintype.Order

namespace CoachClient.Coaching

open CoachClient.Text

/-! ## 1. One page -/

section
variable {α : Type} {p : Page α} {n : UInt32}

/-- A page leads behind its items, if it says that more follow and the number fits. -/
theorem nextOffset?_eq_some_iff :
    p.nextOffset? = some n ↔
      p.hasMore = true ∧ n.toNat = p.offset.toNat + p.items.length := by
  have hmax : maxWord32 = 2 ^ 32 - 1 := rfl
  unfold Page.nextOffset?
  dsimp only
  cases p.hasMore with
  | false => simp
  | true =>
    by_cases hfits : p.offset.toNat + p.items.length ≤ maxWord32
    · have hword : (UInt32.ofNat (p.offset.toNat + p.items.length)).toNat =
          p.offset.toNat + p.items.length := UInt32.toNat_ofNat_of_lt' (by rw [show UInt32.size = 2 ^ 32 from rfl]; omega)
      simp only [Bool.true_and, hfits, decide_true, if_true, Option.some.injEq, true_and,
        ← UInt32.toNat_inj, hword]
      exact eq_comm
    · have hsmall := n.toNat_lt
      simp only [Bool.true_and, hfits, decide_false, Bool.false_eq_true, if_false, reduceCtorEq,
        true_and, false_iff]
      omega

/-- Otherwise it leads nowhere. -/
theorem nextOffset?_eq_none_iff :
    p.nextOffset? = none ↔ p.hasMore = false ∨ 2 ^ 32 ≤ p.offset.toNat + p.items.length := by
  have hmax : maxWord32 = 2 ^ 32 - 1 := rfl
  unfold Page.nextOffset?
  dsimp only
  cases p.hasMore with
  | false => simp
  | true =>
    simp only [Bool.true_and, decide_eq_true_eq, ite_eq_right_iff, reduceCtorEq, imp_false,
      Bool.true_eq_false, false_or]
    omega

end

/-- Where a page leads. -/
structure Leads {α : Type} (p : Page α) : Prop where
  /-- Behind its items, without wrapping around. -/
  behind : ∀ n, p.nextOffset? = some n → n.toNat = p.offset.toNat + p.items.length
  /-- Nowhere if nothing follows, or if the number is too large. -/
  nowhere : p.nextOffset? = none ↔
    p.hasMore = false ∨ 2 ^ 32 ≤ p.offset.toNat + p.items.length
  /-- So it leads on exactly if it has items. -/
  onward : ∀ n, p.nextOffset? = some n → (p.offset < n ↔ p.items ≠ [])

theorem lt_iff_of_toNat {m n : UInt32} {α : Type} {as : List α}
    (h : n.toNat = m.toNat + as.length) : m < n ↔ as ≠ [] := by
  rw [UInt32.lt_iff_toNat_lt, h, ← List.length_pos_iff]
  omega

theorem page_leads {α : Type} (p : Page α) : Leads p where
  behind _ h := (nextOffset?_eq_some_iff.mp h).2
  nowhere := nextOffset?_eq_none_iff
  onward _ h := lt_iff_of_toNat (nextOffset?_eq_some_iff.mp h).2

/-! ## 2. Page after page -/

/-- A service that hands out a list in pages: its answer to the request with a number, which
may depend on all that has been asked before. -/
abbrev Pager (α : Type) := Nat → PageRequest → Page α

namespace Pager

variable {α : Type}

/-- Each page begins where it was asked for. -/
def Echoes (s : Pager α) : Prop := ∀ k r, (s k r).offset = r.offset

/-- The request with a number of a caller who asks for page after page, if it comes to
that. -/
def request? (s : Pager α) (first : PageRequest) : Nat → Option PageRequest
  | 0 => some first
  | k + 1 => (s.request? first k).bind fun r =>
    (s k r).nextOffset?.map fun n => { r with offset := n }

variable {s : Pager α} {first r r' : PageRequest} {k : Nat}

theorem request?_succ (h : s.request? first (k + 1) = some r') :
    ∃ r, s.request? first k = some r ∧ (s k r).nextOffset? = some r'.offset := by
  obtain ⟨r, hr, hnext⟩ := Option.bind_eq_some_iff.mp h
  obtain ⟨n, hn, rfl⟩ := Option.map_eq_some_iff.mp hnext
  exact ⟨r, hr, hn⟩

/-- Who has stopped does not go on again. -/
theorem request?_eq_none_of_le {j : Nat} (hle : k ≤ j) (h : s.request? first k = none) :
    s.request? first j = none := by
  induction j, hle using Nat.le_induction with
  | base => exact h
  | succ j _ ih =>
    rw [request?, ih]
    rfl

/-- One page adds the number of its items. -/
theorem request?_succ_offset (hechoes : s.Echoes) (hr : s.request? first k = some r)
    (hr' : s.request? first (k + 1) = some r') :
    r'.offset.toNat = r.offset.toNat + (s k r).items.length := by
  obtain ⟨r₁, hr₁, hnext⟩ := request?_succ hr'
  obtain rfl := Option.some.inj (hr.symm.trans hr₁)
  rw [(nextOffset?_eq_some_iff.mp hnext).2, hechoes]

/-- If all pages have items, the offset is at least the number of pages behind the first. -/
theorem le_offset_of_items (hechoes : s.Echoes)
    (hitems : ∀ k r, s.request? first k = some r → (s k r).hasMore = true → (s k r).items ≠ [])
    (hr : s.request? first k = some r) : first.offset.toNat + k ≤ r.offset.toNat := by
  induction k generalizing r with
  | zero =>
    obtain rfl := Option.some.inj hr
    exact Nat.le_refl _
  | succ k ih =>
    obtain ⟨before, hbefore, hnext⟩ := request?_succ hr
    have hstep := request?_succ_offset hechoes hbefore hr
    have hsome := List.length_pos_iff.mpr
      (hitems k before hbefore (nextOffset?_eq_some_iff.mp hnext).1)
    have hle := ih hbefore
    omega

/-! ## 3. Walks without an end -/

/-- The offsets of an endless walk. -/
def offsets (s : Pager α) (first : PageRequest) (k : Nat) : UInt32 :=
  ((s.request? first k).getD first).offset

theorem offsets_eq (hr : s.request? first k = some r) : s.offsets first k = r.offset := by
  rw [offsets, hr, Option.getD_some]

/-- They never fall. -/
theorem offsets_mono (hechoes : s.Echoes) (hendless : ∀ k, s.request? first k ≠ none) :
    Monotone fun k => (s.offsets first k).toFin := by
  refine monotone_nat_of_le_succ fun k => ?_
  obtain ⟨r, hr⟩ := Option.ne_none_iff_exists'.mp (hendless k)
  obtain ⟨r', hr'⟩ := Option.ne_none_iff_exists'.mp (hendless (k + 1))
  have hstep := request?_succ_offset hechoes hr hr'
  rw [offsets_eq hr, offsets_eq hr', Fin.le_def]
  show r.offset.toNat ≤ r'.offset.toNat
  omega

/-- There are only so many offsets, so from some page on they stay the same, and the pages
have no items. -/
theorem exists_empty_pages (hechoes : s.Echoes) (hendless : ∀ k, s.request? first k ≠ none) :
    ∃ k, ∀ j ≥ k, ∃ r, s.request? first j = some r ∧ (s j r).items = [] := by
  obtain ⟨k, hk⟩ := WellFoundedGT.monotone_chain_condition
    (⟨_, offsets_mono hechoes hendless⟩ : ℕ →o Fin UInt32.size)
  refine ⟨k, fun j hj => ?_⟩
  obtain ⟨r, hr⟩ := Option.ne_none_iff_exists'.mp (hendless j)
  obtain ⟨r', hr'⟩ := Option.ne_none_iff_exists'.mp (hendless (j + 1))
  have hsame : s.offsets first j = s.offsets first (j + 1) :=
    UInt32.toFin_inj.mp ((hk j hj).symm.trans (hk (j + 1) (Nat.le_succ_of_le hj)))
  rw [offsets_eq hr, offsets_eq hr'] at hsame
  have hstep := request?_succ_offset hechoes hr hr'
  rw [hsame] at hstep
  exact ⟨r, hr, List.length_eq_zero_iff.mp (by omega)⟩

end Pager

/-- The way of a caller who asks for page after page. -/
structure Walks {α : Type} (s : Pager α) (first : PageRequest) : Prop where
  /-- No page leads back, and just those with items lead on. -/
  onward : ∀ k r r', s.request? first k = some r → s.request? first (k + 1) = some r' →
    r.offset ≤ r'.offset ∧ (r.offset < r'.offset ↔ (s k r).items ≠ [])
  /-- The walk ends, unless from some page on all of them are empty. -/
  ends : (∃ k, s.request? first k = none) ↔
    ¬ ∃ k, ∀ j ≥ k, ∃ r, s.request? first j = some r ∧ (s j r).items = []
  /-- If no empty page claims that there are more, it ends within the offsets there are. -/
  soon : (∀ k r, s.request? first k = some r → (s k r).hasMore = true → (s k r).items ≠ []) →
    ∃ k ≤ 2 ^ 32 - first.offset.toNat, s.request? first k = none

theorem walks_of_echoes {α : Type} {s : Pager α} (hechoes : s.Echoes) (first : PageRequest) :
    Walks s first where
  onward k r r' hr hr' := by
    have hstep := Pager.request?_succ_offset hechoes hr hr'
    refine ⟨?_, lt_iff_of_toNat hstep⟩
    rw [UInt32.le_iff_toNat_le]
    omega
  ends := by
    constructor
    · rintro ⟨k, hnone⟩ ⟨k', hempty⟩
      obtain ⟨r, hr, -⟩ := hempty (max k k') (Nat.le_max_right k k')
      rw [Pager.request?_eq_none_of_le (Nat.le_max_left k k') hnone] at hr
      cases hr
    · intro hempty
      by_contra hendless
      exact hempty (Pager.exists_empty_pages hechoes (not_exists.mp hendless))
  soon hitems := by
    refine ⟨2 ^ 32 - first.offset.toNat, Nat.le_refl _, ?_⟩
    by_contra hsome
    obtain ⟨r, hr⟩ := Option.ne_none_iff_exists'.mp hsome
    have hle := Pager.le_offset_of_items hechoes hitems hr
    have hlt := r.offset.toNat_lt
    have hfirst := first.offset.toNat_lt
    omega

/-- **Pages lead on, unless they are empty.** Every page leads behind its items or nowhere;
and whoever goes on from page to page, with a service that begins each page where it was asked
for, comes to an end, unless from some page on all pages are empty and claim that there are
more. -/
theorem pages_lead_on {α : Type} :
    (∀ p : Page α, Leads p) ∧
      ∀ (s : Pager α) (first : PageRequest), s.Echoes → Walks s first :=
  ⟨page_leads, fun _ first hechoes => walks_of_echoes hechoes first⟩

/-- Five numbers, two on a page. -/
def fivePages : Pager Nat := fun _ r =>
  { items := ([1, 2, 3, 4, 5].drop r.offset.toNat).take 2, limit := r.limit, offset := r.offset
    hasMore := r.offset < 4 }

/-- They are walked through in three steps. -/
theorem five_numbers_are_walked :
    fivePages.Echoes ∧ Walks fivePages ⟨2, 0⟩ ∧
      (List.range 5).map (fivePages.request? ⟨2, 0⟩) =
        [some ⟨2, 0⟩, some ⟨2, 2⟩, some ⟨2, 4⟩, none, none] := by
  have hechoes : fivePages.Echoes := fun _ _ => rfl
  exact ⟨hechoes, pages_lead_on.2 fivePages ⟨2, 0⟩ hechoes, by decide⟩

/-- Pages without items that claim that there are more. -/
def emptyPages : Pager Nat := fun _ r =>
  { items := [], limit := r.limit, offset := r.offset, hasMore := true }

/-- Such a page leads to itself, and whoever goes on from it does not get any further. -/
theorem empty_page_leads_to_itself :
    (emptyPages 0 ⟨20, 5⟩).nextOffset? = some 5 ∧ (emptyPages 0 ⟨20, 5⟩).offset = 5 ∧
      emptyPages.Echoes ∧ ∀ k, emptyPages.request? ⟨20, 5⟩ k = some ⟨20, 5⟩ := by
  refine ⟨rfl, rfl, fun _ _ => rfl, fun k => ?_⟩
  induction k with
  | zero => rfl
  | succ k ih =>
    rw [Pager.request?, ih]
    rfl

end CoachClient.Coaching

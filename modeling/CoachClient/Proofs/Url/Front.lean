/-
CoachClient.Proofs.Url.Front — what is read of a text that is put in front of
another one.

* `front` — a text as it is read when a slash and more follow it: blanks at its
  end stay.
* `significant_append` — what follows does not change it.
* `exists_trunk` — read on its own, it loses the blanks at its end. If it had
  slashes at its end that were taken away, there are no such blanks.
-/
import CoachClient.Proofs.Url.Domain
import CoachClient.Url.Parse

namespace CoachClient.Url

open CoachClient.Text

/-! ## 1. Ends of lists -/

section
variable {α : Type} {p : α → Bool}

theorem dropWhile_append_of_head {xs ys : List α} (h : ∀ y ∈ ys.head?, p y = false) :
    (xs ++ ys).dropWhile p = xs.dropWhile p ++ ys := by
  rw [List.dropWhile_append]
  split
  · rename_i hempty
    rw [List.isEmpty_iff.mp hempty, List.nil_append]
    cases ys with
    | nil => rfl
    | cons y ys => rw [List.dropWhile_cons, if_neg (by simp [h y rfl])]
  · rfl

theorem dropEndWhile_append_cons {a : α} (h : p a = false) (xs ys : List α) :
    dropEndWhile p (xs ++ a :: ys) = xs ++ a :: dropEndWhile p ys := by
  have hreverse : (xs ++ a :: ys).reverse = ys.reverse ++ a :: xs.reverse := by simp
  rw [dropEndWhile, hreverse, dropWhile_append_of_head (by simpa using h)]
  simp [dropEndWhile]

/-- What is dropped from the end. -/
theorem exists_dropEndWhile (p : α → Bool) (xs : List α) :
    ∃ dropped, xs = dropEndWhile p xs ++ dropped ∧ ∀ a ∈ dropped, p a = true := by
  refine ⟨(xs.reverse.takeWhile p).reverse, ?_, fun a ha => ?_⟩
  · rw [dropEndWhile, ← List.reverse_append, List.takeWhile_append_dropWhile, List.reverse_reverse]
  · exact List.all_eq_true.mp List.all_takeWhile a (List.mem_reverse.mp ha)

/-- Two lists that are parted at the first `a` are parted at the same place. -/
theorem append_cons_inj {a : α} {xs ys us vs : List α} (hxs : a ∉ xs) (hus : a ∉ us)
    (h : xs ++ a :: ys = us ++ a :: vs) : xs = us ∧ ys = vs := by
  induction xs generalizing us with
  | nil =>
    cases us with
    | nil => exact ⟨rfl, (List.cons.inj h).2⟩
    | cons u us =>
      have hhead : a = u := (List.cons.inj h).1
      exact absurd (hhead ▸ List.mem_cons_self) hus
  | cons x xs ih =>
    cases us with
    | nil =>
      have hhead : x = a := (List.cons.inj h).1
      exact absurd (hhead ▸ List.mem_cons_self) hxs
    | cons u us =>
      obtain ⟨hhead, htail⟩ := List.cons.inj h
      obtain ⟨hrest, hys⟩ := ih (fun hmem => hxs (List.mem_cons_of_mem x hmem))
        (fun hmem => hus (List.mem_cons_of_mem u hmem)) htail
      exact ⟨by rw [hhead, hrest], hys⟩

end

/-! ## 2. What is read -/

/-- The ends of a URL lose this character. -/
def isEdge (c : Char) : Bool := c.toNat ≤ 0x20

theorem isEdge_iff {c : Char} : isEdge c = true ↔ IsEdge c := by simp [isEdge, IsEdge]

/-- The character counts wherever it stands. -/
def isKept (c : Char) : Bool := c != '\t' && c != '\n' && c != '\r'

theorem isKept_of_not_edge {c : Char} (h : ¬ IsEdge c) : isKept c = true := by
  have hne : ∀ d : Char, IsEdge d → c ≠ d := by
    rintro d hd rfl
    exact h hd
  simp [isKept, hne '\t' (by decide), hne '\n' (by decide),
    hne '\r' (by decide)]

theorem significant_ofList (cs : List Char) :
    significant (String.ofList cs) = (dropEndWhile isEdge (cs.dropWhile isEdge)).filter isKept := by
  rw [significant, String.toList_ofList]
  rfl

/-- A text as it is read in front of a slash and more. -/
def front (cs : List Char) : List Char := (cs.dropWhile isEdge).filter isKept

/-- What is read of the text that follows. -/
def behind (cs : List Char) : List Char := (dropEndWhile isEdge cs).filter isKept

theorem significant_append (cs rest : List Char) :
    significant (String.ofList (cs ++ '/' :: rest)) = front cs ++ '/' :: behind rest := by
  rw [significant_ofList, dropWhile_append_of_head (by simp [isEdge]),
    dropEndWhile_append_cons (by decide), List.filter_append, List.filter_cons]
  rfl

/-- A text without blanks follows as it is. -/
theorem behind_of_not {cs : List Char} (h : ∀ c ∈ cs, ¬ IsEdge c) : behind cs = cs := by
  have hnone : dropEndWhile isEdge cs = cs := by
    obtain ⟨dropped, hcs, hdropped⟩ := exists_dropEndWhile isEdge cs
    cases dropped with
    | nil => rw [List.append_nil] at hcs; exact hcs.symm
    | cons c dropped =>
      refine absurd (isEdge_iff.mp (hdropped c List.mem_cons_self)) (h c ?_)
      rw [hcs]
      exact List.mem_append_right _ List.mem_cons_self
  rw [behind, hnone, List.filter_eq_self]
  exact fun c hc => isKept_of_not_edge (h c hc)

theorem significant_slashes (cs : List Char) (k : Nat) :
    significant (String.ofList (cs ++ List.replicate (k + 1) '/')) =
      front cs ++ List.replicate (k + 1) '/' := by
  have hend : dropEndWhile isEdge (cs.dropWhile isEdge ++ List.replicate (k + 1) '/') =
      cs.dropWhile isEdge ++ List.replicate (k + 1) '/' := by
    rw [List.replicate_succ', ← List.append_assoc]
    exact dropEndWhile_append_cons (by decide) _ []
  have hkept : (List.replicate (k + 1) '/').filter isKept = List.replicate (k + 1) '/' :=
    List.filter_eq_self.mpr fun c hc => by rw [List.eq_of_mem_replicate hc]; rfl
  rw [significant_ofList,
    dropWhile_append_of_head (by simp [List.replicate_succ, isEdge]), hend, List.filter_append,
    hkept]
  rfl

/-- Tabs and line breaks apart, the text ends in a blank or a control. -/
def EndsInEdge (s : String) : Prop := ∃ c ∈ (s.toList.filter isKept).getLast?, IsEdge c

/-- What stays when the end is dropped ends in something else. -/
theorem getLast?_dropEndWhile {α : Type} {p : α → Bool} {xs : List α} {a : α}
    (h : (dropEndWhile p xs).getLast? = some a) : p a = false := by
  rw [dropEndWhile, List.getLast?_reverse] at h
  have hhead := List.head?_dropWhile_not p xs.reverse
  rw [h] at hhead
  exact hhead

theorem getLast?_significant {s : String} {c : Char} (h : (significant s).getLast? = some c) :
    ¬ IsEdge c := by
  rw [← String.ofList_toList (s := s), significant_ofList] at h
  generalize hcs : dropEndWhile isEdge (s.toList.dropWhile isEdge) = cs at h
  rcases List.eq_nil_or_concat cs with rfl | ⟨before, d, rfl⟩
  · cases h
  · rw [List.concat_eq_append] at hcs h
    have hd : ¬ IsEdge d := by
      intro hedge
      have hlast := getLast?_dropEndWhile (p := isEdge) (a := d)
        (by rw [hcs, List.getLast?_concat])
      rw [isEdge_iff.mpr hedge] at hlast
      cases hlast
    rw [List.filter_append, List.filter_cons, if_pos (isKept_of_not_edge hd), List.filter_nil,
      List.getLast?_concat] at h
    rwa [← Option.some.inj h]

/-- A text, read in front of a slash and read on its own: on its own it loses the
blanks at its end, and it has slashes there or blanks, but not both. -/
theorem exists_trunk (s : String) :
    ∃ trunk blanks k, front (dropEndWhile (· == '/') s.toList) = trunk ++ blanks ∧
      significant s = trunk ++ List.replicate k '/' ∧ (∀ c ∈ blanks, IsEdge c) ∧
      (blanks = [] ∨ k = 0) ∧ (significant s ≠ [] → (blanks ≠ [] ↔ EndsInEdge s)) := by
  obtain ⟨slashes, hs, hslashes⟩ := exists_dropEndWhile (· == '/') s.toList
  have hreplicate : slashes = List.replicate slashes.length '/' :=
    List.eq_replicate_of_mem fun c hc => by simpa using hslashes c hc
  have hwhole : s = String.ofList (dropEndWhile (· == '/') s.toList ++ slashes) := by
    rw [← hs, String.ofList_toList]
  generalize dropEndWhile (· == '/') s.toList = b at hs hwhole
  cases hk : slashes.length with
  | succ k =>
    refine ⟨front b, [], k + 1, (List.append_nil _).symm, ?_, by simp, Or.inl rfl, fun _ => ?_⟩
    · rw [hwhole, hreplicate, hk, significant_slashes]
    · have hlast : (s.toList.filter isKept).getLast? = some '/' := by
        rw [hs, hreplicate, hk, List.replicate_succ', ← List.append_assoc, List.filter_append]
        exact List.getLast?_concat
      simp [EndsInEdge, hlast, IsEdge]
  | zero =>
    obtain ⟨dropped, hdrop, hdropped⟩ := exists_dropEndWhile isEdge (b.dropWhile isEdge)
    have hnone : slashes = [] := List.length_eq_zero_iff.mp hk
    have hsignificant : significant s = (dropEndWhile isEdge (b.dropWhile isEdge)).filter isKept := by
      rw [hwhole, hnone, List.append_nil, significant_ofList]
    have hfront : front b =
        (dropEndWhile isEdge (b.dropWhile isEdge)).filter isKept ++ dropped.filter isKept := by
      rw [← List.filter_append, ← hdrop]
      rfl
    have hblanks : ∀ c ∈ dropped.filter isKept, IsEdge c := fun c hc =>
      isEdge_iff.mp (hdropped c (List.mem_filter.mp hc).1)
    refine ⟨_, dropped.filter isKept, 0, hfront, ?_, hblanks, Or.inr rfl, fun hne => ?_⟩
    · rw [hsignificant, List.replicate_zero, List.append_nil]
    · -- the kept characters are those at the front, what is significant, and the blanks
      have hkept : s.toList.filter isKept =
          (b.takeWhile isEdge).filter isKept ++ (significant s ++ dropped.filter isKept) := by
        rw [hsignificant, ← hfront, hs, hnone, List.append_nil, front, ← List.filter_append,
          List.takeWhile_append_dropWhile]
      unfold EndsInEdge
      rcases List.eq_nil_or_concat (dropped.filter isKept) with hnil | ⟨before, c, hcs⟩
      · rw [hkept, hnil, List.append_nil, List.getLast?_append,
          List.getLast?_eq_some_getLast hne, Option.some_or]
        simp only [ne_eq, not_true_eq_false, false_iff]
        rintro ⟨c, hc, hedge⟩
        exact getLast?_significant ((List.getLast?_eq_some_getLast hne).trans hc) hedge
      · rw [List.concat_eq_append] at hcs
        have hc : IsEdge c := hblanks c (by simp [hcs])
        rw [hkept, hcs, ← List.append_assoc, ← List.append_assoc, List.getLast?_concat]
        simp [hc]

end CoachClient.Url

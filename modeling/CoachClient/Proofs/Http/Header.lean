/-
CoachClient.Proofs.Http.Header — which values a list of headers has for a name.

* `Headers.all` — every value that stands beside a name, in order. "The header
  is there exactly once" is `all name hs = [value]`, which `get?` cannot say.
* `all_set_self`, `all_set_of_ne`, `all_setAll`, `all_setDefault_of_ne` — what
  each operation does to this view.
* `Headers.Unique` — no name stands twice. Setting a header keeps it so, and then
  what is in the list is what `get?` finds: `mem_iff_get?`.

Names are compared as they stand: a list of headers holds them in small
letters, and whoever adds one sees to that.
-/
import CoachClient.Http.Exchange

namespace CoachClient.Http

/-! ## 1. The values of a name -/

/-- Every value that a name has, in order. -/
def Headers.all (name : String) (hs : Headers) : List String :=
  (hs.filter fun h => h.1 == name).map Prod.snd

namespace Headers

@[simp] theorem all_nil (name : String) : all name [] = [] := rfl

theorem all_cons_self (name value : String) (hs : Headers) :
    all name ((name, value) :: hs) = value :: all name hs := by
  simp [all]

theorem all_cons_of_ne {name other : String} (h : other ≠ name) (value : String) (hs : Headers) :
    all name ((other, value) :: hs) = all name hs := by
  simp [all, h]

/-- Setting a header replaces the first of its values and leaves the others. -/
theorem all_set_self (name value : String) (hs : Headers) :
    all name (set name value hs) = value :: (all name hs).tail := by
  induction hs with
  | nil => simp [set, all]
  | cons h hs ih =>
    obtain ⟨n, v⟩ := h
    by_cases hn : n = name
    · subst hn
      simp [set, all_cons_self]
    · simp [set, hn, all_cons_of_ne hn, ih]

theorem all_set_of_ne {name other : String} (h : other ≠ name) (value : String) (hs : Headers) :
    all name (set other value hs) = all name hs := by
  induction hs with
  | nil => simp [set, all_cons_of_ne h]
  | cons p hs ih =>
    obtain ⟨n, v⟩ := p
    by_cases hn : n = other
    · subst hn
      simp [set, all_cons_of_ne h]
    · by_cases hm : n = name
      · subst hm
        simp [set, hn, all_cons_self, ih]
      · simp [set, hn, all_cons_of_ne hm, ih]

/-- Setting many headers puts the values they give in front, one after the
other, each in the place of the one before. -/
theorem all_setAll (name : String) (new hs : Headers) :
    all name (setAll new hs) = (all name new).foldl (fun vs v => v :: vs.tail) (all name hs) := by
  induction new generalizing hs with
  | nil => rfl
  | cons p new ih =>
    obtain ⟨n, v⟩ := p
    have step : setAll ((n, v) :: new) hs = setAll new (set n v hs) := rfl
    rw [step, ih]
    by_cases hn : n = name
    · subst hn
      rw [all_set_self, all_cons_self, List.foldl_cons]
    · rw [all_set_of_ne hn, all_cons_of_ne hn]

theorem all_setDefault_of_ne {name other : String} (h : other ≠ name) (value : String)
    (hs : Headers) : all name (setDefault other value hs) = all name hs := by
  unfold setDefault
  split
  · rfl
  · exact all_set_of_ne h value hs

end Headers

/-! ## 2. Each name once -/

/-- No name stands twice. -/
def Headers.Unique (hs : Headers) : Prop := (hs.map Prod.fst).Nodup

namespace Headers

@[simp] theorem get?_nil (name : String) : get? name [] = none := rfl

theorem get?_set_self (name value : String) (hs : Headers) :
    get? name (set name value hs) = some value := by
  induction hs with
  | nil => simp [set, get?]
  | cons h hs ih =>
    obtain ⟨n, v⟩ := h
    by_cases hn : n = name
    · simp [set, get?, hn]
    · simp [set, get?, hn, ih]

theorem get?_set_of_ne {name other : String} (h : other ≠ name) (value : String) (hs : Headers) :
    get? name (set other value hs) = get? name hs := by
  induction hs with
  | nil => simp [set, get?, h]
  | cons p hs ih =>
    obtain ⟨n, v⟩ := p
    by_cases hn : n = other
    · subst hn
      simp [set, get?, h]
    · simp [set, get?, hn, ih]

theorem mem_names_set {name other value : String} {hs : Headers} :
    other ∈ (set name value hs).map Prod.fst ↔ other = name ∨ other ∈ hs.map Prod.fst := by
  induction hs with
  | nil => simp [set]
  | cons p hs ih =>
    obtain ⟨n, v⟩ := p
    by_cases hn : n = name
    · simp [set, hn]
    · simp only [set, hn, if_false, List.map_cons, List.mem_cons, ih]
      exact or_left_comm

theorem unique_nil : Unique [] := List.nodup_nil

theorem Unique.set {hs : Headers} (h : hs.Unique) (name value : String) :
    (Headers.set name value hs).Unique := by
  induction hs with
  | nil => simp [Headers.set, Unique]
  | cons p hs ih =>
    obtain ⟨n, v⟩ := p
    obtain ⟨hfresh, hrest⟩ := List.nodup_cons.mp h
    by_cases hn : n = name
    · subst hn
      simpa [Headers.set, Unique] using h
    · simp only [Headers.set, hn, if_false]
      refine List.nodup_cons.mpr ⟨fun hmem => ?_, ih hrest⟩
      rcases mem_names_set.mp hmem with hsame | hthere
      · exact hn hsame
      · exact hfresh hthere

/-- With each name once, the list holds just what is found in it. -/
theorem Unique.mem_iff_get? {hs : Headers} (h : hs.Unique) {name value : String} :
    (name, value) ∈ hs ↔ get? name hs = some value := by
  induction hs with
  | nil => simp
  | cons p hs ih =>
    obtain ⟨n, v⟩ := p
    obtain ⟨hfresh, hrest⟩ := List.nodup_cons.mp h
    by_cases hn : n = name
    · subst hn
      have habsent : (n, value) ∉ hs := fun hmem =>
        hfresh (List.mem_map.mpr ⟨(n, value), hmem, rfl⟩)
      simp [get?, habsent, eq_comm]
    · simp [get?, hn, Ne.symm hn, ih hrest]

end Headers

end CoachClient.Http

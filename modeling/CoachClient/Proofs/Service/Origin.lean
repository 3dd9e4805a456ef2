/-
CoachClient.Proofs.Service.Origin — a service that is named by its origin alone.

* `IsOrigin` — a scheme, an authority and any number of slashes.
* `IsOrigin.exists_trunk` — read on its own and in front of an endpoint, it loses
  only these slashes.
* `IsOrigin.exists_url`, `IsOrigin.parse_address` — so a plain endpoint goes on from it,
  and is, character by character, what a request names.
-/
import CoachClient.Proofs.Service.Reach

namespace CoachClient.Service

open CoachClient.Text CoachClient.Url

/-! ## 1. Origins -/

/-- A character of an authority that is no blank and no control. -/
def IsAuthorityChar (c : Char) : Prop := inAuthority c = true ∧ ¬ IsEdge c

instance : DecidablePred IsAuthorityChar := fun c =>
  inferInstanceAs (Decidable (inAuthority c = true ∧ ¬ IsEdge c))

/-- The text is a scheme and an authority with any number of slashes behind it, and
names a URL of the web. -/
structure IsOrigin (text : String) (base : Url) : Prop where
  parse : Url.parse text = .ok base
  isWeb : base.isWeb = true
  chars : ∃ scheme authority k,
    text.toList = scheme ++ "://".toList ++ authority ++ List.replicate k '/' ∧
      (∀ c ∈ scheme, isSchemeChar c = true) ∧ authority ≠ [] ∧
      ∀ c ∈ authority, IsAuthorityChar c

/-- It is enough to know that there is such a URL. -/
theorem exists_isOrigin {text : String} (scheme authority : List Char) (k : Nat)
    (hweb : (Url.parse text).toOption.map Url.isWeb = some true)
    (htext : text.toList = scheme ++ "://".toList ++ authority ++ List.replicate k '/')
    (hscheme : ∀ c ∈ scheme, isSchemeChar c = true) (hne : authority ≠ [])
    (hauthority : ∀ c ∈ authority, IsAuthorityChar c) : ∃ base, IsOrigin text base := by
  cases hparse : Url.parse text with
  | error fault =>
    rw [hparse] at hweb
    cases hweb
  | ok base =>
    rw [hparse] at hweb
    exact ⟨base, hparse, Option.some.inj hweb, scheme, authority, k, htext, hscheme, hne,
      hauthority⟩

theorem not_edge_of_isSchemeChar {c : Char} (h : isSchemeChar c = true) : ¬ IsEdge c := by
  have hall : ∀ n < 0x21, isSchemeChar (Char.ofNat n) = false := by decide
  intro hedge
  have hc := hall c.toNat (by unfold IsEdge at hedge; omega)
  rw [Char.ofNat_toNat, h] at hc
  cases hc

/-- A text without blanks is read as it is, in front of others too. -/
theorem dropWhile_isEdge {cs : List Char} (h : ∀ c ∈ cs, ¬ IsEdge c) :
    cs.dropWhile isEdge = cs := by
  cases cs with
  | nil => rfl
  | cons c cs =>
    have hc : ¬ isEdge c = true := by
      rw [isEdge_iff]
      exact h c List.mem_cons_self
    exact List.dropWhile_cons_of_neg hc

theorem front_of_not {cs : List Char} (h : ∀ c ∈ cs, ¬ IsEdge c) : front cs = cs := by
  rw [front, dropWhile_isEdge h, List.filter_eq_self]
  exact fun c hc => isKept_of_not_edge (h c hc)

theorem significant_of_not {s : String} (h : ∀ c ∈ s.toList, ¬ IsEdge c) :
    significant s = s.toList := by
  rw [← String.ofList_toList (s := s), significant_ofList, String.toList_ofList,
    dropWhile_isEdge h]
  exact behind_of_not h

theorem dropEndWhile_slashes {cs : List Char} {c : Char} (hc : c ≠ '/') (k : Nat) :
    dropEndWhile (· == '/') (cs ++ [c] ++ List.replicate k '/') = cs ++ [c] := by
  have hnone : dropEndWhile (· == '/') (List.replicate k '/') = [] := by
    simp [dropEndWhile]
  have hkeep : dropEndWhile (· == '/') (cs ++ c :: List.replicate k '/') =
      cs ++ c :: dropEndWhile (· == '/') (List.replicate k '/') :=
    dropEndWhile_append_cons (by simpa using hc) _ _
  rw [List.append_assoc, List.singleton_append, hkeep, hnone]

/-- What stands before the first colon of a URL is its scheme. -/
theorem splitScheme_of_read {scheme rest more : List Char} {u : Url}
    (hscheme : ∀ c ∈ scheme, isSchemeChar c = true)
    (h : Url.read (scheme ++ ':' :: rest ++ more) = .ok u) :
    splitScheme (scheme ++ ':' :: rest) = some (scheme.map Char.toLower, rest) := by
  have hcolon : ∀ cs : List Char, (∀ c ∈ cs, isSchemeChar c = true) → ':' ∉ cs := by
    intro cs hcs hmem
    exact absurd (hcs ':' hmem) (by decide)
  unfold Url.read at h
  split at h
  · rename_i name rest' hsplit
    obtain ⟨c, name, heq, hletter, hname, -⟩ := splitScheme_iff.mp hsplit
    rw [List.append_assoc, List.cons_append] at heq
    obtain ⟨rfl, -⟩ := append_cons_inj (hcolon _ hscheme) (hcolon _ hname) heq
    exact splitScheme_iff.mpr ⟨c, name, rfl, hletter, hname, rfl⟩
  · cases h

/-! ## 2. What is read of them -/

/-- Read on its own and in front of an endpoint, an origin loses only its slashes, and
nothing of it is behind the authority. -/
theorem IsOrigin.exists_trunk {c : Client} {base : Url} (h : IsOrigin c.baseUrl base) :
    ∃ trunk k, c.Trunk trunk [] k ∧ pathPart trunk = [] := by
  obtain ⟨hparse, -, scheme, authority, k, htext, hscheme, hne, hauthority⟩ := h
  have hnoSlash : ∀ ch ∈ authority, ch ≠ '/' := by
    rintro ch hch rfl
    exact absurd (hauthority '/' hch).1 (by decide)
  have hmarks : ∀ ch ∈ "://".toList, ¬ IsEdge ch := List.all_iff_forall_prop.mp (by decide)
  have htrunkEdges : ∀ ch ∈ scheme ++ "://".toList ++ authority, ¬ IsEdge ch := by
    intro ch hch
    rcases List.mem_append.mp hch with hch | hch
    · rcases List.mem_append.mp hch with hch | hch
      · exact not_edge_of_isSchemeChar (hscheme ch hch)
      · exact hmarks ch hch
    · exact (hauthority ch hch).2
  have hwholeEdges : ∀ ch ∈ c.baseUrl.toList, ¬ IsEdge ch := by
    intro ch hch
    rw [htext] at hch
    rcases List.mem_append.mp hch with hch | hch
    · exact htrunkEdges ch hch
    · rw [List.eq_of_mem_replicate hch]
      decide
  have hdrop : dropEndWhile (· == '/') c.baseUrl.toList = scheme ++ "://".toList ++ authority := by
    rcases List.eq_nil_or_concat authority with hnil | ⟨before, ch, hlast⟩
    · exact absurd hnil hne
    · rw [List.concat_eq_append] at hlast
      have hch : ch ≠ '/' := hnoSlash ch (by simp [hlast])
      rw [htext, hlast, ← List.append_assoc, dropEndWhile_slashes hch]
  have hbase : significant c.baseUrl =
      scheme ++ "://".toList ++ authority ++ List.replicate k '/' := by
    rw [significant_of_not hwholeEdges, htext]
  have hnoEdge : ¬ EndsInEdge c.baseUrl := by
    rintro ⟨ch, hch, hedge⟩
    have hmem := List.mem_of_mem_getLast? hch
    exact hwholeEdges ch (List.mem_of_mem_filter hmem) hedge
  refine ⟨scheme ++ "://".toList ++ authority, k, ⟨hbase, fun endpoint => ?_, ?_, Or.inl rfl, ?_⟩, ?_⟩
  · rw [address_toList, significant_append, hdrop, front_of_not htrunkEdges, List.append_nil]
  · exact List.forall_mem_nil _
  · exact fun _ => ⟨fun hfalse => absurd rfl hfalse, fun hedge => absurd hedge hnoEdge⟩
  · rw [parse_eq_read, hbase] at hparse
    have hlist : scheme ++ "://".toList ++ authority = scheme ++ ':' :: ('/' :: '/' :: authority) := by
      simp
    rw [hlist] at hparse ⊢
    have hsplit := splitScheme_of_read hscheme hparse
    obtain ⟨d, rest, hcons⟩ := List.exists_cons_of_ne_nil hne
    have hinside : ∀ ch ∈ authority, inAuthority ch = true := fun ch hch => (hauthority ch hch).1
    have hd : ¬ isSlash .special d = true := by
      have hchar := hinside d (by rw [hcons]; exact List.mem_cons_self)
      simp only [inAuthority, endsAuthority, Bool.not_eq_true', Bool.or_eq_false_iff] at hchar
      simp [hchar.1.1]
    have hslashes : withoutSlashes ('/' :: '/' :: authority) = authority := by
      have hslash : isSlash .special '/' = true := by decide
      rw [withoutSlashes, List.dropWhile_cons_of_pos hslash, List.dropWhile_cons_of_pos hslash,
        hcons, List.dropWhile_cons_of_neg hd]
    rw [pathPart, hsplit]
    simp only [hslashes, List.dropWhile_eq_nil_iff.mpr hinside]

/-! ## 3. Endpoints -/

/-- A plain endpoint goes on from the origin, is what a request names, character by
character, and leaves no fragment. -/
theorem IsOrigin.exists_url {c : Client} {base : Url} (h : IsOrigin c.baseUrl base)
    {endpoint : String} {path : List Char} {query : Option (List Char)}
    (hplain : IsPlainEndpoint endpoint path query) :
    ∃ rest, Url.parse (c.address endpoint) = .ok (base.goesOn rest) ∧
      (base.goesOn rest).target = endpoint ∧ (base.goesOn rest).fragment = none := by
  obtain ⟨trunk, k, htrunk, hpart⟩ := h.exists_trunk
  have hmark : ∀ ch ∈ ([] : List Char), endsPath ch = false := List.forall_mem_nil _
  have hslash : ∀ ch ∈ ([] : List Char).head?, isSlash .special ch = true := by simp
  rcases htrunk.parse_address h.parse h.isWeb with ⟨-, hok⟩ | ⟨hne, -⟩
  · have hurl := hok endpoint
    rw [hpart, List.nil_append, hplain.behind] at hurl
    have htext := text_readPathStart_plain hplain.path hslash
    refine ⟨_, hurl, ?_, ?_⟩
    · rw [hplain.goesOn hmark, ← String.toList_inj, Url.target, String.toList_ofList, hplain.text,
        htext]
      rfl
    · rw [hplain.goesOn hmark]
  · exact absurd rfl hne

/-- A plain endpoint is, character by character, what a request to it names. -/
theorem IsOrigin.parse_address {c : Client} {base : Url} (h : IsOrigin c.baseUrl base)
    {endpoint : String} {path : List Char} {query : Option (List Char)}
    (hplain : IsPlainEndpoint endpoint path query) :
    ∃ url, Url.parse (c.address endpoint) = .ok url ∧ url.isWeb = true ∧ url.target = endpoint := by
  obtain ⟨rest, hurl, htarget, -⟩ := h.exists_url hplain
  exact ⟨_, hurl, h.isWeb, htarget⟩

end CoachClient.Service

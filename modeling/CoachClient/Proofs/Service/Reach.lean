/-
CoachClient.Proofs.Service.Reach — when the endpoints of a service are reached.

* `Client.Reaches` — the address of an endpoint leads to the service, to its path
  behind that of the service, and to its query.
* `Client.TakesPaths` — the address of the service is such that paths can be put
  behind it: no query and no fragment, no blank at its end, and no empty segment
  before the slashes there.
* `reaches_of_takesPaths`, `takesPaths_of_reaches` — then every plain endpoint is
  reached, and if one that is not just slashes is reached, it is so.

A mark in the address swallows whatever follows it, blanks at its end are encoded
and make the last segment longer, and slashes are taken away only as far as they
stand at the very end of the text.
-/
import CoachClient.Proofs.Service.Endpoint
import Mathlib.Data.List.DropRight

namespace CoachClient.Service

open CoachClient.Text CoachClient.Url

/-! ## 1. Slashes at the end -/

theorem dropEndWhile_eq_rdropWhile {α : Type} (p : α → Bool) (xs : List α) :
    dropEndWhile p xs = xs.rdropWhile p := rfl

/-- Slashes at the end are all that is dropped, unless there are more of them. -/
theorem dropEndWhile_slashes_iff (cs : List Char) (j : Nat) :
    dropEndWhile (· == '/') (cs ++ List.replicate j '/') = cs ↔ ¬ ['/', '/'] <:+ cs ++ ['/'] := by
  have hdrop : dropEndWhile (· == '/') (cs ++ List.replicate j '/') =
      dropEndWhile (· == '/') cs := by
    induction j with
    | zero => rw [List.replicate_zero, List.append_nil]
    | succ j ih =>
      rw [List.replicate_succ', ← List.append_assoc, dropEndWhile_eq_rdropWhile,
        List.rdropWhile_concat_pos _ _ _ rfl]
      exact ih
  rw [hdrop, dropEndWhile_eq_rdropWhile]
  rcases List.eq_nil_or_concat cs with rfl | ⟨before, c, rfl⟩
  · simp [List.suffix_iff_eq_append]
  · rw [List.concat_eq_append]
    have hsuffix : ['/', '/'] <:+ before ++ [c] ++ ['/'] ↔ c = '/' := by
      have htwo : (['/', '/'] : List Char) = ['/'] ++ ['/'] := rfl
      rw [htwo, List.suffix_append_self_iff]
      constructor
      · rintro ⟨xs, hxs⟩
        have hlast : ['/'] = [c] := (List.append_inj' hxs rfl).2
        exact (List.cons.inj hlast).1.symm
      · rintro rfl
        exact List.suffix_append before ['/']
    rw [hsuffix, List.rdropWhile_eq_self_iff]
    simp

/-! ## 2. Endpoints that are reached -/

/-- The address of an endpoint leads to the service: to its path, behind that of
the service without the slashes at its end, and to its query. -/
def Client.Reaches (c : Client) (base : Url) (endpoint : String) : Prop :=
  ∃ url, Url.parse (c.address endpoint) = .ok url ∧ LeadsTo base url ∧
    url.path.text = dropEndWhile (· == '/') base.path.text ++ (cutAt '?' endpoint.toList).1 ∧
    url.query = (cutAt '?' endpoint.toList).2

/-- Paths can be put behind the address of the service. -/
structure Client.TakesPaths (c : Client) (base : Url) : Prop where
  noQuery : base.query = none
  noFragment : base.fragment = none
  noBlank : ¬ EndsInEdge c.baseUrl
  /-- The slashes at the end of the path are those at the end of the text. -/
  noEmptySegment : ∀ root, Url.parse (c.address "/") = .ok root →
    ¬ ['/', '/'] <:+ root.path.text

section
variable {endpoint : String} {path : List Char} {query : Option (List Char)}

/-- The path and the query of a plain endpoint. -/
theorem IsPlainEndpoint.cutAt (h : IsPlainEndpoint endpoint path query) :
    Text.cutAt '?' endpoint.toList = ('/' :: path, query) := by
  have hmark : ∀ c ∈ '/' :: path, (c != '?') = true := by
    intro c hc
    rw [bne_iff_ne]
    rintro rfl
    rcases List.mem_cons.mp hc with hslash | hpath
    · exact absurd hslash (by decide)
    · exact absurd (h.not_endsPath '?' hpath) (by decide)
  have hends : ('/' :: path).dropWhile (· != '?') ≠ [] ∨
      ∀ c ∈ (marked '?' query).head?, (c != '?') = false := by
    refine Or.inr fun c hc => ?_
    cases query with
    | none => cases hc
    | some q =>
      obtain rfl := Option.some.inj hc
      rfl
  obtain ⟨htake, hdrop⟩ := takeWhile_dropWhile_append hends
  rw [List.takeWhile_eq_self_iff.mpr hmark] at htake
  rw [List.dropWhile_eq_nil_iff.mpr hmark, List.nil_append] at hdrop
  rw [h.text, Text.cutAt, htake, hdrop]
  cases query with
  | none => simp [marked]
  | some q => rfl

/-- A plain endpoint behind a text without marks is reached if the text has lost
its slashes as the path of the service has. -/
theorem reaches_iff {c : Client} {base : Url} {cs : List Char}
    (h : IsPlainEndpoint endpoint path query) (hmark : ∀ ch ∈ cs, endsPath ch = false)
    (hslash : ∀ ch ∈ cs.head?, isSlash .special ch = true)
    (hparse : Url.parse (c.address endpoint) =
      .ok (base.goesOn (cs ++ '/' :: behind (belowRoot endpoint)))) :
    c.Reaches base endpoint ↔ dropEndWhile (· == '/') base.path.text = stem cs := by
  rw [h.behind, h.goesOn hmark] at hparse
  have htext := text_readPathStart_plain h.path hslash
  unfold Client.Reaches
  rw [h.cutAt]
  constructor
  · rintro ⟨url, hurl, -, hpath, -⟩
    rw [← Except.ok.inj (hparse.symm.trans hurl), htext] at hpath
    exact (List.append_cancel_right hpath).symm
  · intro hstem
    refine ⟨_, hparse, ⟨rfl, rfl, rfl⟩, ?_, rfl⟩
    rw [htext, hstem]

end

/-- The root is a plain endpoint. -/
theorem isPlainEndpoint_root : IsPlainEndpoint "/" [] none :=
  isPlainEndpoint_of_path rfl (by decide)

/-! ## 3. The text behind the authority -/

theorem endsAuthority_head {cs : List Char} {c : Char} (h : c ∈ (pathPart cs).head?) :
    endsAuthority .special c = true := by
  unfold pathPart at h
  split at h
  · rename_i scheme rest _
    have hhead := List.head?_dropWhile_not inAuthority (withoutSlashes rest)
    rw [Option.mem_def.mp h] at hhead
    simpa [inAuthority] using hhead
  · cases h

/-- Without a mark the text begins with a slash. -/
theorem isSlash_head {cs : List Char} (hmark : ∀ c ∈ pathPart cs, endsPath c = false) :
    ∀ c ∈ (pathPart cs).head?, isSlash .special c = true := by
  intro c hc
  have hend := endsAuthority_head hc
  have hno := hmark c (List.mem_of_mem_head? hc)
  unfold endsPath at hno
  unfold endsAuthority at hend
  rw [Bool.or_assoc, hno, Bool.or_false] at hend
  exact hend

/-- What follows a mark does not get into the path, and the mark leaves a query or
a fragment. -/
theorem goesOn_of_mark (base : Url) {cs : List Char} (hmark : ¬ ∀ c ∈ cs, endsPath c = false)
    (more : List Char) :
    (base.goesOn (cs ++ more)).path = readPathStart .special (cs.takeWhile fun c => !endsPath c) ∧
      ((base.goesOn (cs ++ more)).query ≠ none ∨ (base.goesOn (cs ++ more)).fragment ≠ none) := by
  have hdrop : cs.dropWhile (fun c => !endsPath c) ≠ [] := by
    intro hnil
    refine hmark fun c hc => ?_
    simpa using List.dropWhile_eq_nil_iff.mp hnil c hc
  have hends : cs.dropWhile (fun c => !endsPath c) ≠ [] ∨
      ∀ c ∈ more.head?, (!endsPath c) = false := Or.inl hdrop
  obtain ⟨htake, happend⟩ := takeWhile_dropWhile_append hends
  obtain ⟨c, rest, hrest⟩ := List.exists_cons_of_ne_nil hdrop
  have hc : endsPath c = true := by
    have hhead := List.head?_dropWhile_not (fun c => !endsPath c) cs
    rw [hrest] at hhead
    simpa using hhead
  rw [hrest] at happend
  unfold Url.goesOn
  rw [htake, happend]
  refine ⟨rfl, ?_⟩
  simp only [endsPath, Bool.or_eq_true, beq_iff_eq] at hc
  rcases hc with rfl | rfl
  · exact Or.inl (by simp [readTail])
  · exact Or.inr (by simp [readTail])

theorem goesOn_of_not_mark {base : Url} {cs : List Char} (hmark : ∀ c ∈ cs, endsPath c = false) :
    base.goesOn cs = { base with
      path := readPathStart .special cs, query := none, fragment := none } := by
  have hinside : ∀ c ∈ cs, (!endsPath c) = true := fun c hc => by rw [hmark c hc]; rfl
  unfold Url.goesOn
  rw [List.takeWhile_eq_self_iff.mpr hinside, List.dropWhile_eq_nil_iff.mpr hinside]
  rfl

/-! ## 4. Addresses that take paths -/

section
variable {c : Client} {base : Url} {trunk blanks : List Char} {k : Nat}

/-- The URL of the service goes on with its own path. -/
theorem Client.Trunk.base_eq (htrunk : c.Trunk trunk blanks k)
    (hbase : Url.parse c.baseUrl = .ok base) (hweb : base.isWeb = true) :
    base = base.goesOn (pathPart trunk ++ List.replicate k '/') := by
  rw [parse_eq_read, htrunk.base] at hbase
  have hslash : pathPart trunk ≠ [] ∨ ∀ ch ∈ (List.replicate k '/').head?, ch = '/' :=
    Or.inr fun ch hch => List.eq_of_mem_replicate (List.mem_of_mem_head? hch)
  exact Except.ok.inj (hbase.symm.trans (read_append hbase hweb hslash))

theorem Client.Trunk.endsInEdge_iff (htrunk : c.Trunk trunk blanks k)
    (hbase : Url.parse c.baseUrl = .ok base) : blanks ≠ [] ↔ EndsInEdge c.baseUrl := by
  refine htrunk.blanks_iff fun hnil => ?_
  rw [parse_eq_read, hnil] at hbase
  cases hbase

/-- The path of the service is its stem and slashes. -/
theorem Client.Trunk.exists_path (htrunk : c.Trunk trunk blanks k)
    (hbase : Url.parse c.baseUrl = .ok base) (hweb : base.isWeb = true)
    (hmark : ∀ ch ∈ pathPart trunk, endsPath ch = false) :
    base.query = none ∧ base.fragment = none ∧
      ∃ j, base.path.text = stem (pathPart trunk) ++ List.replicate j '/' := by
  have hwhole : ∀ ch ∈ pathPart trunk ++ List.replicate k '/', endsPath ch = false := by
    intro ch hch
    rcases List.mem_append.mp hch with hch | hch
    · exact hmark ch hch
    · rw [List.eq_of_mem_replicate hch]
      decide
  have heq := htrunk.base_eq hbase hweb
  rw [goesOn_of_not_mark hwhole] at heq
  rw [heq]
  exact ⟨rfl, rfl, exists_text_readPathStart (isSlash_head hmark) k⟩

/-- Without blanks, the service has no empty segment before its slashes exactly
when its path without slashes is its stem. -/
theorem Client.Trunk.noEmptySegment_iff (htrunk : c.Trunk trunk [] k)
    (hbase : Url.parse c.baseUrl = .ok base) (hweb : base.isWeb = true)
    (hmark : ∀ ch ∈ pathPart trunk, endsPath ch = false) :
    (∀ root, Url.parse (c.address "/") = .ok root → ¬ ['/', '/'] <:+ root.path.text) ↔
      dropEndWhile (· == '/') base.path.text = stem (pathPart trunk) := by
  obtain ⟨-, -, j, hpath⟩ := htrunk.exists_path hbase hweb hmark
  rcases htrunk.parse_address hbase hweb with ⟨-, hok⟩ | ⟨hne, -⟩
  · have hroot := hok "/"
    rw [List.nil_append, isPlainEndpoint_root.behind, isPlainEndpoint_root.goesOn hmark] at hroot
    have htext := text_readPathStart_plain isPlainEndpoint_root.path (isSlash_head hmark)
    rw [hpath, dropEndWhile_slashes_iff]
    constructor
    · intro h
      have hends := h _ hroot
      rwa [htext] at hends
    · intro h root hparse
      rw [← Except.ok.inj (hroot.symm.trans hparse), htext]
      exact h
  · exact absurd rfl hne

theorem reaches_of_takesPaths {endpoint : String} {path : List Char}
    {query : Option (List Char)} (hbase : Url.parse c.baseUrl = .ok base)
    (hweb : base.isWeb = true) (htakes : c.TakesPaths base)
    (h : IsPlainEndpoint endpoint path query) : c.Reaches base endpoint := by
  obtain ⟨trunk, blanks, k, htrunk⟩ := c.exists_trunk
  obtain rfl : blanks = [] := by
    by_contra hne
    exact htakes.noBlank ((htrunk.endsInEdge_iff hbase).mp hne)
  have hmark : ∀ ch ∈ pathPart trunk, endsPath ch = false := by
    by_contra hno
    have hleft := (goesOn_of_mark base hno (List.replicate k '/')).2
    rw [← htrunk.base_eq hbase hweb] at hleft
    rcases hleft with hquery | hfragment
    · exact hquery htakes.noQuery
    · exact hfragment htakes.noFragment
  rcases htrunk.parse_address hbase hweb with ⟨-, hok⟩ | ⟨hne, -⟩
  · exact (reaches_iff h hmark (isSlash_head hmark) (hok endpoint)).mpr
      ((htrunk.noEmptySegment_iff hbase hweb hmark).mp htakes.noEmptySegment)
  · exact absurd rfl hne

/-- A path behind a mark is lost: the path stays as it is. -/
theorem not_reaches_of_mark {endpoint : String} {path : List Char} {query : Option (List Char)}
    (htrunk : c.Trunk trunk blanks k) (hbase : Url.parse c.baseUrl = .ok base)
    (hweb : base.isWeb = true) (h : IsPlainEndpoint endpoint path query)
    (hpath : ∃ ch ∈ path, ch ≠ '/') (hmark : ¬ ∀ ch ∈ pathPart trunk, endsPath ch = false) :
    ¬ c.Reaches base endpoint := by
  rintro ⟨url, hurl, -, htext, -⟩
  rcases htrunk.parse_address hbase hweb with ⟨hended, hok⟩ | ⟨-, hnone⟩
  · have hsame : url.path = base.path := by
      rw [← Except.ok.inj ((hok endpoint).symm.trans hurl), (goesOn_of_mark base hmark _).1]
      conv_rhs => rw [htrunk.base_eq hbase hweb, (goesOn_of_mark base hmark _).1]
    obtain ⟨slashes, hslashes, hall⟩ := exists_dropEndWhile (· == '/') base.path.text
    rw [hsame, h.cutAt] at htext
    rw [hslashes] at htext
    conv_rhs at htext => rw [← hslashes]
    have hpathEq : slashes = '/' :: path := List.append_cancel_left htext
    obtain ⟨ch, hch, hne⟩ := hpath
    have hslash := hall ch (by rw [hpathEq]; exact List.mem_cons_of_mem _ hch)
    exact hne (by simpa using hslash)
  · exact hnone endpoint url hurl

/-- Blanks at the end make the path longer than that of the service. -/
theorem not_reaches_of_blanks {endpoint : String} {path : List Char} {query : Option (List Char)}
    (htrunk : c.Trunk trunk blanks k) (hbase : Url.parse c.baseUrl = .ok base)
    (hweb : base.isWeb = true) (h : IsPlainEndpoint endpoint path query)
    (hmark : ∀ ch ∈ pathPart trunk, endsPath ch = false) (hblanks : blanks ≠ []) :
    ¬ c.Reaches base endpoint := by
  rcases htrunk.parse_address hbase hweb with ⟨hended, hok⟩ | ⟨-, hnone⟩
  · intro hreaches
    obtain rfl : k = 0 := htrunk.apart.resolve_left hblanks
    have hnoMark : ∀ ch ∈ pathPart trunk ++ blanks, endsPath ch = false := by
      intro ch hch
      rcases List.mem_append.mp hch with hch | hch
      · exact hmark ch hch
      · have hedge := htrunk.edges ch hch
        simp [endsPath, hedge.ne (show 0x20 < '?'.toNat by decide),
          hedge.ne (show 0x20 < '#'.toNat by decide)]
    obtain ⟨d, tail, hpart⟩ := List.exists_cons_of_ne_nil (hended.resolve_right hblanks)
    have hslash : ∀ ch ∈ (pathPart trunk ++ blanks).head?, isSlash .special ch = true := by
      have hhead := isSlash_head hmark
      rw [hpart] at hhead ⊢
      exact hhead
    have hstem := (reaches_iff h hnoMark hslash
      (by rw [hok endpoint, List.append_assoc])).mp hreaches
    -- on its own the path has its own last segment, in front of others a longer one
    have hpath : base.path.text = Path.text (.segments (readSegments .special [] tail)) := by
      have hown : base = base.goesOn (pathPart trunk) := by
        have heq := htrunk.base_eq hbase hweb
        rwa [List.replicate_zero, List.append_nil] at heq
      rw [hown, goesOn_of_not_mark hmark, hpart]
      simp only [readPathStart]
      rw [if_pos (isSlash_head hmark d (by rw [hpart]; rfl))]
    have hshorter := length_lt_directory tail htrunk.edges hblanks
    obtain ⟨dropped, hdropped, -⟩ := exists_dropEndWhile (· == '/') base.path.text
    have hlength := congrArg List.length hdropped
    rw [List.length_append, hstem, hpart, hpath] at hlength
    simp only [List.cons_append, stem] at hlength
    omega
  · rintro ⟨url, hurl, -⟩
    exact hnone endpoint url hurl

/-- If an endpoint is reached that is more than slashes, paths can be put behind
the address of the service. -/
theorem takesPaths_of_reaches {endpoint : String} {path : List Char}
    {query : Option (List Char)} (hbase : Url.parse c.baseUrl = .ok base)
    (hweb : base.isWeb = true) (h : IsPlainEndpoint endpoint path query)
    (hpath : ∃ ch ∈ path, ch ≠ '/') (hreaches : c.Reaches base endpoint) : c.TakesPaths base := by
  obtain ⟨trunk, blanks, k, htrunk⟩ := c.exists_trunk
  have hmark : ∀ ch ∈ pathPart trunk, endsPath ch = false := by
    by_contra hno
    exact not_reaches_of_mark htrunk hbase hweb h hpath hno hreaches
  obtain rfl : blanks = [] := by
    by_contra hne
    exact not_reaches_of_blanks htrunk hbase hweb h hmark hne hreaches
  obtain ⟨hquery, hfragment, -⟩ := htrunk.exists_path hbase hweb hmark
  refine ⟨hquery, hfragment, ?_, ?_⟩
  · rw [← htrunk.endsInEdge_iff hbase]
    exact fun hne => hne rfl
  · rcases htrunk.parse_address hbase hweb with ⟨-, hok⟩ | ⟨hne, -⟩
    · exact (htrunk.noEmptySegment_iff hbase hweb hmark).mpr
        ((reaches_iff h hmark (isSlash_head hmark) (hok endpoint)).mp hreaches)
    · exact absurd rfl hne

end

end CoachClient.Service

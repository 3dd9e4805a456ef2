/-
CoachClient.Proofs.Service.Endpoint — the endpoints of operations are plain.

* `IsPlainEndpoint` — a path, and maybe a query, that stand for themselves in a
  URL, character by character.
* `isPlainPath_of_isPlainSegment` — the ids that are let through are such
  segments.
* `Operation.call_endpoint` — every operation asks for a plain endpoint.
* `IsPlainEndpoint.goesOn` — a URL goes on with one as it is written.
-/
import CoachClient.Proofs.Service.Address
import CoachClient.Proofs.Text.Decimal
import CoachClient.Proofs.Url.Path
import Mathlib.Data.Bool.AllAny

namespace CoachClient.Service

open CoachClient.Coaching CoachClient.Json CoachClient.Text CoachClient.Url

/-! ## 1. Plain characters -/

theorem isIdChar_lt {c : Char} (h : isIdChar c = true) : c.toNat < 128 := by
  unfold isIdChar isDigit at h
  simp only [Bool.or_eq_true, Bool.and_eq_true, decide_eq_true_eq, beq_iff_eq] at h
  have hle : ∀ {d : Char}, c ≤ d → d.toNat < 128 → c.toNat < 128 := by
    intro d hcd hd
    have hcd' : c.toNat ≤ d.toNat := hcd
    omega
  rcases h with ((((h | h) | h) | h) | h) | h
  · exact hle h.2 (by decide)
  · exact hle h.2 (by decide)
  · exact hle h.2 (by decide)
  · rw [h]; decide
  · rw [h]; decide
  · rw [h]; decide

/-- What the characters of an id are not, and what they do not become in small
letters. -/
theorem isIdChar_plain {c : Char} (h : isIdChar c = true) :
    mustEncode pathSet c = false ∧ mustEncode specialQuerySet c = false ∧
      isSlash .special c = false ∧ (c.toLower = '.' → c = '.') ∧ c.toLower ≠ '%' := by
  have hall : ∀ n < 128, isIdChar (Char.ofNat n) = true →
      mustEncode pathSet (Char.ofNat n) = false ∧
        mustEncode specialQuerySet (Char.ofNat n) = false ∧
        isSlash .special (Char.ofNat n) = false ∧
        ((Char.ofNat n).toLower = '.' → Char.ofNat n = '.') ∧ (Char.ofNat n).toLower ≠ '%' := by
    decide
  have hc := hall c.toNat (isIdChar_lt h)
  rw [Char.ofNat_toNat] at hc
  exact hc h

theorem isIdChar_of_mem_digits {n : Nat} {c : Char} (h : c ∈ digits n) : isIdChar c = true := by
  unfold isIdChar
  simp [isDigit_of_mem_digits h]

/-! ## 2. Plain paths -/

theorem isPlainPath_append {xs ys : List Char} (hx : IsPlainPath xs) (hy : IsPlainPath ys) :
    IsPlainPath (xs ++ '/' :: ys) := by
  constructor
  · intro c hc
    rcases List.mem_append.mp hc with hc | hc
    · exact hx.chars c hc
    · rcases List.mem_cons.mp hc with rfl | hc
      · decide
      · exact hy.chars c hc
  · intro piece hpiece
    rw [splitSlashes_append] at hpiece
    rcases List.mem_append.mp hpiece with hpiece | hpiece
    · exact hx.pieces piece hpiece
    · exact hy.pieces piece hpiece

/-- An id is one plain segment. -/
theorem isPlainPath_of_isPlainSegment {id : String} (h : isPlainSegment id = true) :
    IsPlainPath id.toList := by
  simp only [isPlainSegment, Bool.and_eq_true, bne_iff_ne, ne_eq, List.all_eq_true] at h
  obtain ⟨⟨⟨-, hdot⟩, hdots⟩, hchars⟩ := h
  have hsplit : splitSlashes .special id.toList = [id.toList] :=
    splitSlashes_of_not fun c hc => (isIdChar_plain (hchars c hc)).2.2.1
  have hnoPercent : '%' ∉ id.toList.map Char.toLower := by
    intro hmem
    obtain ⟨c, hc, hlower⟩ := List.mem_map.mp hmem
    exact (isIdChar_plain (hchars c hc)).2.2.2.2 hlower
  have hpoints : ∀ n, id.toList.map Char.toLower = List.replicate n '.' →
      id.toList = List.replicate n '.' := by
    intro n hlower
    have hlength : id.toList.length = n := by
      rw [← List.length_map Char.toLower, hlower, List.length_replicate]
    rw [← hlength]
    refine List.eq_replicate_of_mem fun c hc => ?_
    have hmem : c.toLower ∈ id.toList.map Char.toLower := List.mem_map_of_mem hc
    rw [hlower] at hmem
    exact (isIdChar_plain (hchars c hc)).2.2.2.1 (List.eq_of_mem_replicate hmem)
  refine ⟨fun c hc => ?_, fun piece hpiece => ?_⟩
  · obtain ⟨hencode, -, hslash, -⟩ := isIdChar_plain (hchars c hc)
    refine ⟨hencode, ?_⟩
    rintro rfl
    exact absurd hslash (by decide)
  · rw [hsplit, List.mem_singleton] at hpiece
    subst hpiece
    refine dots_of_eq_none fun dots hdots heq => ?_
    rw [heq] at hnoPercent
    simp only [dotSpellings, List.mem_cons, List.not_mem_nil, or_false] at hdots
    rcases hdots with rfl | rfl | rfl | rfl | rfl | rfl
    · exact hdots (String.toList_inj.mp (hpoints 2 heq))
    · exact hnoPercent (by decide)
    · exact hnoPercent (by decide)
    · exact hnoPercent (by decide)
    · exact hdot (String.toList_inj.mp (hpoints 1 heq))
    · exact hnoPercent (by decide)

/-! ## 3. Plain endpoints -/

/-- An endpoint whose path and query stand for themselves. -/
structure IsPlainEndpoint (endpoint : String) (path : List Char) (query : Option (List Char)) :
    Prop where
  text : endpoint.toList = '/' :: path ++ marked '?' query
  path : IsPlainPath path
  query : ∀ q ∈ query, ∀ c ∈ q, mustEncode specialQuerySet c = false

/-- An endpoint without a query. -/
theorem isPlainEndpoint_of_path {endpoint : String} {path : List Char}
    (htext : endpoint.toList = '/' :: path) (hpath : IsPlainPath path) :
    IsPlainEndpoint endpoint path none :=
  ⟨by rw [htext]; exact (List.append_nil _).symm, hpath, fun _ hq => nomatch hq⟩

/-- The path of an id between two plain ones. -/
theorem endpoint_of_pathWith {front id back endpoint : String} {before after : List Char}
    (h : pathWith front id back = .ok endpoint) (hfront : front.toList = '/' :: before ++ ['/'])
    (hback : back.toList = after) (hbefore : IsPlainPath before)
    (hafter : after = [] ∨ ∃ rest, after = '/' :: rest ∧ IsPlainPath rest) :
    ∃ path, IsPlainEndpoint endpoint path none := by
  unfold pathWith at h
  split at h
  · rename_i hid
    have hplain := isPlainPath_of_isPlainSegment hid
    obtain rfl := Except.ok.inj h
    have htext : (front ++ id ++ back).toList = '/' :: (before ++ '/' :: (id.toList ++ after)) := by
      simp [hfront, hback]
    rcases hafter with rfl | ⟨rest, rfl, hrest⟩
    · rw [List.append_nil] at htext
      exact ⟨_, isPlainEndpoint_of_path htext (isPlainPath_append hbefore hplain)⟩
    · exact ⟨_, isPlainEndpoint_of_path htext
        (isPlainPath_append hbefore (isPlainPath_append hplain hrest))⟩
  · cases h

theorem query_toList (page : PageRequest) :
    page.query.toList = "limit=".toList ++ digits page.limit.toNat ++ "&offset=".toList ++
      digits page.offset.toNat :=
  String.toList_ofList

/-- The query that asks for a page. -/
theorem isPlainEndpoint_page (page : PageRequest) :
    IsPlainEndpoint ("/admin/users/?" ++ page.query) "admin/users/".toList
      (some page.query.toList) := by
  have htext : ("/admin/users/?" ++ page.query).toList =
      '/' :: "admin/users/".toList ++ marked '?' (some page.query.toList) := by
    generalize page.query = q
    simp [marked]
  have hpath : IsPlainPath "admin/users/".toList := by decide
  have hkeys : ∀ c ∈ "limit=".toList ++ "&offset=".toList,
      mustEncode specialQuerySet c = false := List.all_iff_forall_prop.mp (by decide)
  refine ⟨htext, hpath, fun q hq c hc => ?_⟩
  rw [← Option.mem_some_iff.mp hq, query_toList, List.mem_append, List.mem_append,
    List.mem_append] at hc
  rcases hc with ((hc | hc) | hc) | hc
  · exact hkeys c (List.mem_append_left _ hc)
  · exact (isIdChar_plain (isIdChar_of_mem_digits hc)).2.1
  · exact hkeys c (List.mem_append_right _ hc)
  · exact (isIdChar_plain (isIdChar_of_mem_digits hc)).2.1

/-! ## 4. The endpoints of operations -/

/-- A call with an id in its path asks for that path. -/
theorem pathWith_of_map {front id back : String} {f : String → Call} {call : Call}
    (hf : ∀ path, (f path).endpoint = path) (h : (pathWith front id back).map f = .ok call) :
    pathWith front id back = .ok call.endpoint := by
  cases hpath : pathWith front id back with
  | error refusal =>
    rw [hpath] at h
    cases h
  | ok path =>
    rw [hpath] at h
    rw [← Except.ok.inj h, hf]

theorem isPlainPath_sessions : IsPlainPath "sessions".toList := by decide

theorem isPlainPath_accounts : IsPlainPath "admin/users".toList := by decide

/-- An operation on a session asks for its path, maybe with an action. -/
theorem endpoint_of_session {id back : String} {f : String → Call} {call : Call}
    (hf : ∀ path, (f path).endpoint = path)
    (hback : back.toList = [] ∨ ∃ rest, back.toList = '/' :: rest ∧ IsPlainPath rest)
    (h : (pathWith "/sessions/" id back).map f = .ok call) :
    ∃ path, IsPlainEndpoint call.endpoint path none :=
  endpoint_of_pathWith (pathWith_of_map hf h) rfl rfl isPlainPath_sessions hback

/-- An operation on an account asks for the path of an action on it. -/
theorem endpoint_of_account {id action : String} {f : String → Call} {call : Call}
    (hf : ∀ path, (f path).endpoint = path) (haction : IsPlainPath action.toList)
    (h : (accountPath id action).map f = .ok call) :
    ∃ path, IsPlainEndpoint call.endpoint path none := by
  have hback : ("/" ++ action).toList = '/' :: action.toList := by simp
  exact endpoint_of_pathWith (pathWith_of_map hf h) rfl rfl isPlainPath_accounts
    (Or.inr ⟨action.toList, hback, haction⟩)

/-- Every operation asks for a plain endpoint. -/
theorem Operation.call_endpoint {o : Operation} {call : Call} (h : o.call = .ok call) :
    ∃ path query, IsPlainEndpoint call.endpoint path query := by
  have hfixed : ∀ endpoint path, call.endpoint = endpoint → endpoint.toList = '/' :: path →
      IsPlainPath path → ∃ path query, IsPlainEndpoint call.endpoint path query := by
    rintro endpoint path rfl htext hpath
    exact ⟨path, none, isPlainEndpoint_of_path htext hpath⟩
  have hpath : (∃ path, IsPlainEndpoint call.endpoint path none) →
      ∃ path query, IsPlainEndpoint call.endpoint path query := fun ⟨path, hplain⟩ =>
    ⟨path, none, hplain⟩
  cases o with
  | grantToken credentials =>
    obtain rfl := Except.ok.inj h
    exact hfixed "/auth/login" "auth/login".toList rfl rfl (by decide)
  | identity =>
    obtain rfl := Except.ok.inj h
    exact hfixed "/auth/me" "auth/me".toList rfl rfl (by decide)
  | revokeToken =>
    obtain rfl := Except.ok.inj h
    exact hfixed "/auth/logout" "auth/logout".toList rfl rfl (by decide)
  | listSessions =>
    obtain rfl := Except.ok.inj h
    exact hfixed "/sessions" "sessions".toList rfl rfl isPlainPath_sessions
  | createSession session =>
    obtain rfl := Except.ok.inj h
    exact hfixed "/sessions" "sessions".toList rfl rfl isPlainPath_sessions
  | listAccounts page =>
    obtain rfl := Except.ok.inj h
    exact ⟨_, _, isPlainEndpoint_page page⟩
  | showSession id => exact hpath (endpoint_of_session (fun _ => rfl) (Or.inl rfl) h)
  | cancelSession id =>
    exact hpath (endpoint_of_session (fun _ => rfl)
      (Or.inr ⟨"cancel".toList, rfl, by decide⟩) h)
  | grantRole id role =>
    exact hpath (endpoint_of_account (fun _ => rfl) (by decide) h)
  | revokeRole id role =>
    exact hpath (endpoint_of_account (fun _ => rfl) (by decide) h)
  | disable id reason =>
    exact hpath (endpoint_of_account (fun _ => rfl) (by decide) h)
  | reenable id => exact hpath (endpoint_of_account (fun _ => rfl) (by decide) h)

/-! ## 5. A URL that goes on with one -/

section
variable {endpoint : String} {path : List Char} {query : Option (List Char)}

theorem not_edge_of_not_mustEncode {set : EncodeSet} (hset : ' ' ∈ set) {c : Char}
    (h : mustEncode set c = false) : ¬ IsEdge c := by
  intro hedge
  simp only [mustEncode, Bool.or_eq_false_iff, decide_eq_false_iff_not] at h
  have hle : c.toNat ≤ 0x20 := hedge
  have hspace : c = ' ' := by
    have hnat : c.toNat = ' '.toNat := by
      have hval : ' '.toNat = 0x20 := rfl
      omega
    exact Char.toNat_inj.mp hnat
  rw [hspace] at h
  simp [hset] at h

/-- All of an endpoint is read. -/
theorem IsPlainEndpoint.behind (h : IsPlainEndpoint endpoint path query) :
    behind (belowRoot endpoint) = path ++ marked '?' query := by
  have hbelow : belowRoot endpoint = path ++ marked '?' query := by
    rw [belowRoot, h.text]
    rfl
  rw [hbelow]
  refine behind_of_not fun c hc => ?_
  rcases List.mem_append.mp hc with hc | hc
  · exact not_edge_of_not_mustEncode (by decide) (h.path.chars c hc).1
  · cases query with
    | none => cases hc
    | some q =>
      rcases List.mem_cons.mp hc with rfl | hc
      · decide
      · exact not_edge_of_not_mustEncode (by decide) (h.query q rfl c hc)

theorem IsPlainEndpoint.not_endsPath (h : IsPlainEndpoint endpoint path query) :
    ∀ c ∈ path, endsPath c = false := by
  intro c hc
  have hencode := (h.path.chars c hc).1
  cases hend : endsPath c with
  | false => rfl
  | true =>
    simp only [endsPath, Bool.or_eq_true, beq_iff_eq] at hend
    rcases hend with rfl | rfl <;> exact absurd hencode (by decide)

/-- The query of an endpoint is the query of the URL. -/
theorem IsPlainEndpoint.readTail (h : IsPlainEndpoint endpoint path query) :
    Url.readTail .special (marked '?' query) = (query, none) := by
  cases query with
  | none => rfl
  | some q =>
    have hchars := h.query q rfl
    have hmark : ∀ c ∈ q, (c != '#') = true := by
      intro c hc
      simp only [bne_iff_ne, ne_eq]
      rintro rfl
      exact absurd (hchars '#' hc) (by decide)
    have htake : q.takeWhile (· != '#') = q := List.takeWhile_eq_self_iff.mpr hmark
    have hdrop : q.dropWhile (· != '#') = [] := List.dropWhile_eq_nil_iff.mpr hmark
    simp only [Url.readTail, marked, htake, hdrop]
    rw [if_neg (by decide), percentEncode_of_not hchars]

/-- Behind a text without a query or a fragment, an endpoint is the end of the
path, and its query is that of the URL. -/
theorem IsPlainEndpoint.goesOn (h : IsPlainEndpoint endpoint path query) {cs : List Char}
    (hcs : ∀ c ∈ cs, endsPath c = false) (base : Url) :
    base.goesOn (cs ++ '/' :: (path ++ marked '?' query)) =
      { base with
        path := readPathStart .special (cs ++ '/' :: path)
        query, fragment := none } := by
  have hinside : ∀ c ∈ cs ++ '/' :: path, (!endsPath c) = true := by
    intro c hc
    rw [Bool.not_eq_true']
    rcases List.mem_append.mp hc with hc | hc
    · exact hcs c hc
    · rcases List.mem_cons.mp hc with rfl | hc
      · decide
      · exact h.not_endsPath c hc
  have hmark : ∀ c ∈ (marked '?' query).head?, (!endsPath c) = false := by
    cases query with
    | none => exact fun _ hc => nomatch hc
    | some q => simp [marked, endsPath]
  have hsplit : cs ++ '/' :: (path ++ marked '?' query) = (cs ++ '/' :: path) ++ marked '?' query := by
    simp
  have hends : (cs ++ '/' :: path).dropWhile (fun c => !endsPath c) ≠ [] ∨
      ∀ c ∈ (marked '?' query).head?, (!endsPath c) = false := Or.inr hmark
  obtain ⟨htake, hdrop⟩ := takeWhile_dropWhile_append hends
  rw [List.takeWhile_eq_self_iff.mpr hinside] at htake
  rw [List.dropWhile_eq_nil_iff.mpr hinside, List.nil_append] at hdrop
  rw [hsplit, Url.goesOn, htake, hdrop, h.readTail]

end

end CoachClient.Service

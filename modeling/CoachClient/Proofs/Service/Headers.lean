/-
CoachClient.Proofs.Service.Headers — what the headers of a request are.

* `headerRefusal?`, `credentialRefusal?`, `refusal?` — why the headers of a call and a
  credential are refused, if they are.
* `putHeader`, `mergedHeaders` — what comes of them otherwise. Here nothing can fail.
* `addHeader_eq`, `foldlM_addHeader_eq`, `mergeHeaders_eq` — merging is these two, one after
  the other; all else that is known about headers is read off from them.
* `givenValues`, `valueFor` — what a call says about a name, and what the request then has
  for it.
* `Fits` — every header of the call can be one, and so can the credential;
  `mergeHeaders_eq_ok_iff` — just these are merged.
* `mergeHeaders_exact` — headers that fit are merged to just those values, each name once,
  and others are refused before anything is sent.
* `mixed_headers_merge` — a list with repetitions, mixed cases and a forged credential.

Whether a header is refused has nothing to do with those before it. That is why merging
comes apart into a search for the first refusal and a fold that ignores refusals.
-/
import CoachClient.Proofs.Http.Header
import CoachClient.Service.Call

namespace CoachClient.Service

open CoachClient.Http CoachClient.Json

/-! ## 1. Refusals -/

/-- Why a header of a call is refused. The value of one for the credential is not looked
at. -/
def headerRefusal? (header : String × String) : Option Refusal :=
  if isHeaderName header.1 = false then some (.headerName header.1)
  else if headerName header.1 = authorization then none
  else if isHeaderValue header.2 = false then some (.headerValue (headerName header.1))
  else none

/-- Why a credential is refused. -/
def credentialRefusal? : Option String → Option Refusal
  | none => none
  | some credential => if isHeaderValue (bearer credential) then none else some .credential

/-- Why a call is refused: for the first of its headers that is, or for the credential. -/
def refusal? (credential : Option String) (extra : List (String × String)) : Option Refusal :=
  (extra.findSome? headerRefusal?).or (credentialRefusal? credential)

/-! ## 2. Merging -/

/-- Add a header that is not refused. -/
def putHeader (hs : Headers) (header : String × String) : Headers :=
  if headerName header.1 = authorization then hs else hs.set (headerName header.1) header.2

/-- The headers of a call that is not refused. -/
def mergedHeaders (credential : Option String) (extra : List (String × String)) : Headers :=
  let hs := extra.foldl putHeader [(contentType, jsonType)]
  match credential with
  | none => hs
  | some shown => hs.set authorization (bearer shown)

theorem addHeader_eq (hs : Headers) (header : String × String) :
    addHeader hs header =
      match headerRefusal? header with
      | some refusal => .error refusal
      | none => .ok (putHeader hs header) := by
  obtain ⟨name, value⟩ := header
  unfold addHeader headerRefusal? putHeader
  cases hname : isHeaderName name with
  | false => simp [hname]
  | true =>
    by_cases hcredential : headerName name = authorization
    · simp [hname, hcredential]
    · cases hvalue : isHeaderValue value with
      | false => simp [hname, hcredential, hvalue]
      | true => simp [hname, hcredential, hvalue]

theorem foldlM_addHeader_eq (extra : List (String × String)) (hs : Headers) :
    extra.foldlM addHeader hs =
      match extra.findSome? headerRefusal? with
      | some refusal => .error refusal
      | none => .ok (extra.foldl putHeader hs) := by
  induction extra generalizing hs with
  | nil => rfl
  | cons header extra ih =>
    rw [List.foldlM_cons, addHeader_eq, List.findSome?_cons]
    cases headerRefusal? header with
    | some refusal => rfl
    | none => exact ih (putHeader hs header)

/-- Headers are merged, or refused for the first reason there is. -/
theorem mergeHeaders_eq (credential : Option String) (extra : List (String × String)) :
    mergeHeaders credential extra =
      match refusal? credential extra with
      | some refusal => .error refusal
      | none => .ok (mergedHeaders credential extra) := by
  unfold mergeHeaders refusal? mergedHeaders
  rw [foldlM_addHeader_eq]
  cases extra.findSome? headerRefusal? with
  | some refusal => rfl
  | none =>
    cases credential with
    | none => rfl
    | some shown =>
      cases hvalue : isHeaderValue (bearer shown) with
      | false => simp [credentialRefusal?, hvalue, bind, Except.bind]
      | true => simp [credentialRefusal?, hvalue, bind, Except.bind]

/-- What is refused is not sent. -/
theorem start_of_refusal {α : Type} {c : Client} {d : Decoder α} {call : Call}
    {credential : Option String} {refusal : Refusal}
    (h : refusal? credential call.headers = some refusal) :
    c.start d call credential = .done (.error (.refused refusal)) := by
  simp only [Client.start, Client.dispatch, mergeHeaders_eq, h, bind, Except.bind]

/-! ## 3. What fits -/

/-- Every header of the call can be one, and so can the credential. -/
structure Fits (credential : Option String) (extra : List (String × String)) : Prop where
  names : ∀ header ∈ extra, isHeaderName header.1 = true
  /-- What a call gives for the credential may be anything. -/
  values : ∀ header ∈ extra, headerName header.1 ≠ authorization → isHeaderValue header.2 = true
  credential : ∀ shown, credential = some shown → isHeaderValue (bearer shown) = true

theorem headerRefusal?_eq_none_iff {header : String × String} :
    headerRefusal? header = none ↔
      isHeaderName header.1 = true ∧
        (headerName header.1 ≠ authorization → isHeaderValue header.2 = true) := by
  unfold headerRefusal?
  cases isHeaderName header.1 with
  | false => simp
  | true =>
    by_cases hcredential : headerName header.1 = authorization
    · simp [hcredential]
    · cases isHeaderValue header.2 <;> simp [hcredential]

theorem credentialRefusal?_eq_none_iff {credential : Option String} :
    credentialRefusal? credential = none ↔
      ∀ shown, credential = some shown → isHeaderValue (bearer shown) = true := by
  cases credential with
  | none => simp [credentialRefusal?]
  | some shown => cases hvalue : isHeaderValue (bearer shown) <;> simp [credentialRefusal?, hvalue]

/-- Just what does not fit is refused. -/
theorem refusal?_eq_none_iff {credential : Option String} {extra : List (String × String)} :
    refusal? credential extra = none ↔ Fits credential extra := by
  unfold refusal?
  rw [Option.or_eq_none_iff, List.findSome?_eq_none_iff, credentialRefusal?_eq_none_iff]
  simp only [headerRefusal?_eq_none_iff]
  constructor
  · rintro ⟨hheaders, hcredential⟩
    exact ⟨fun header h => (hheaders header h).1, fun header h => (hheaders header h).2,
      hcredential⟩
  · rintro ⟨hnames, hvalues, hcredential⟩
    exact ⟨fun header h => ⟨hnames header h, hvalues header h⟩, hcredential⟩

/-- Just what fits is merged. -/
theorem mergeHeaders_eq_ok_iff {credential : Option String} {extra : List (String × String)}
    {hs : Headers} :
    mergeHeaders credential extra = .ok hs ↔
      Fits credential extra ∧ mergedHeaders credential extra = hs := by
  rw [mergeHeaders_eq, ← refusal?_eq_none_iff]
  cases refusal? credential extra with
  | some refusal => simp
  | none => simp

/-! ## 4. The value of a name -/

/-- The values that a call gives for a name, in whichever case its letters are. -/
def givenValues (name : String) (extra : List (String × String)) : List String :=
  (extra.filter fun header => headerName header.1 == name).map Prod.snd

/-- The value that a request has for a name. The credential is not for the call to give,
bodies are JSON unless it says otherwise, and of several values the last one counts. -/
def valueFor (credential : Option String) (extra : List (String × String)) (name : String) :
    Option String :=
  if name = authorization then credential.map bearer
  else if name = contentType then some ((givenValues contentType extra).getLast?.getD jsonType)
  else (givenValues name extra).getLast?

theorem givenValues_cons_self {name : String} {header : String × String}
    (h : headerName header.1 = name) (extra : List (String × String)) :
    givenValues name (header :: extra) = header.2 :: givenValues name extra := by
  simp [givenValues, h]

theorem givenValues_cons_of_ne {name : String} {header : String × String}
    (h : headerName header.1 ≠ name) (extra : List (String × String)) :
    givenValues name (header :: extra) = givenValues name extra := by
  simp [givenValues, h]

theorem unique_foldl_putHeader (extra : List (String × String)) {hs : Headers} (h : hs.Unique) :
    (extra.foldl putHeader hs).Unique := by
  induction extra generalizing hs with
  | nil => exact h
  | cons header extra ih =>
    rw [List.foldl_cons]
    apply ih
    unfold putHeader
    split
    · exact h
    · exact h.set _ _

/-- A call cannot touch the credential. -/
theorem get?_authorization_foldl (extra : List (String × String)) (hs : Headers) :
    (extra.foldl putHeader hs).get? authorization = hs.get? authorization := by
  induction extra generalizing hs with
  | nil => rfl
  | cons header extra ih =>
    rw [List.foldl_cons, ih]
    unfold putHeader
    split
    · rfl
    · rename_i hother
      exact Headers.get?_set_of_ne hother _ _

/-- Everything else has the last value that the call gives, or the one it had. -/
theorem get?_foldl_putHeader {name : String} (hname : name ≠ authorization)
    (extra : List (String × String)) (hs : Headers) :
    (extra.foldl putHeader hs).get? name =
      (givenValues name extra).getLast?.or (hs.get? name) := by
  induction extra generalizing hs with
  | nil => rfl
  | cons header extra ih =>
    rw [List.foldl_cons, ih]
    by_cases hsame : headerName header.1 = name
    · have hput : putHeader hs header = hs.set name header.2 := by
        unfold putHeader
        rw [hsame, if_neg hname]
      rw [hput, Headers.get?_set_self, givenValues_cons_self hsame, List.getLast?_cons]
      cases (givenValues name extra).getLast? <;> rfl
    · have hput : (putHeader hs header).get? name = hs.get? name := by
        unfold putHeader
        split
        · rfl
        · exact Headers.get?_set_of_ne hsame _ _
      rw [hput, givenValues_cons_of_ne hsame]

theorem unique_mergedHeaders (credential : Option String) (extra : List (String × String)) :
    (mergedHeaders credential extra).Unique := by
  have hfold : (extra.foldl putHeader [(contentType, jsonType)]).Unique :=
    unique_foldl_putHeader extra (Headers.unique_nil.set contentType jsonType)
  cases credential with
  | none => exact hfold
  | some shown => exact hfold.set authorization (bearer shown)

/-- Each name has the value it should have. -/
theorem get?_mergedHeaders (credential : Option String) (extra : List (String × String))
    (name : String) :
    (mergedHeaders credential extra).get? name = valueFor credential extra name := by
  by_cases hname : name = authorization
  · subst hname
    rw [valueFor, if_pos rfl]
    cases credential with
    | none => exact get?_authorization_foldl extra _
    | some shown => exact Headers.get?_set_self _ _ _
  · have hfold : (mergedHeaders credential extra).get? name =
        (extra.foldl putHeader [(contentType, jsonType)]).get? name := by
      cases credential with
      | none => rfl
      | some shown => exact Headers.get?_set_of_ne (Ne.symm hname) _ _
    rw [hfold, get?_foldl_putHeader hname, valueFor, if_neg hname]
    by_cases htype : name = contentType
    · subst htype
      rw [if_pos rfl]
      cases (givenValues contentType extra).getLast? <;> rfl
    · rw [if_neg htype]
      simp [Headers.get?, Ne.symm htype]

/-! ## 5. Merging is exact -/

/-- **Headers are merged exactly.** They are merged if and only if they fit. Then each name
is there once, and what is there is the value that its name should have. Otherwise the call
is refused, and whoever makes it sends nothing. -/
theorem mergeHeaders_exact (credential : Option String) (extra : List (String × String)) :
    ((∃ hs, mergeHeaders credential extra = .ok hs) ↔ Fits credential extra) ∧
      (∀ hs, mergeHeaders credential extra = .ok hs →
        hs.Unique ∧ ∀ name value,
          (name, value) ∈ hs ↔ valueFor credential extra name = some value) ∧
      (¬ Fits credential extra → ∃ refusal, mergeHeaders credential extra = .error refusal ∧
        ∀ (α : Type) (c : Client) (d : Decoder α) (call : Call), call.headers = extra →
          c.start d call credential = .done (.error (.refused refusal))) := by
  refine ⟨?_, fun hs hmerge => ?_, fun hunfit => ?_⟩
  · constructor
    · rintro ⟨hs, hmerge⟩
      exact (mergeHeaders_eq_ok_iff.mp hmerge).1
    · intro hfits
      exact ⟨_, mergeHeaders_eq_ok_iff.mpr ⟨hfits, rfl⟩⟩
  · obtain ⟨-, rfl⟩ := mergeHeaders_eq_ok_iff.mp hmerge
    have hunique := unique_mergedHeaders credential extra
    refine ⟨hunique, fun name value => ?_⟩
    rw [hunique.mem_iff_get?, get?_mergedHeaders]
  · obtain ⟨refusal, hrefusal⟩ := Option.ne_none_iff_exists'.mp (mt refusal?_eq_none_iff.mp hunfit)
    refine ⟨refusal, by rw [mergeHeaders_eq, hrefusal], ?_⟩
    rintro α c d call rfl
    exact start_of_refusal hrefusal

/-- Headers of a call with a name in two cases, a type of its own and somebody else's
credential, which no header could carry. -/
def mixedHeaders : List (String × String) :=
  [("X-Trace", "a"), ("Authorization", "Bearer\nforged"), ("CONTENT-type", "text/plain"),
    ("x-trace", "b")]

/-- They fit, and a request has three headers then. -/
theorem mixed_headers_merge :
    Fits (some "tok") mixedHeaders ∧
      ∃ hs, mergeHeaders (some "tok") mixedHeaders = .ok hs ∧ hs.Unique ∧
        (authorization, "Bearer tok") ∈ hs ∧ (contentType, "text/plain") ∈ hs ∧
        ("x-trace", "b") ∈ hs ∧ ("x-trace", "a") ∉ hs := by
  have hfits : Fits (some "tok") mixedHeaders := by
    refine ⟨by decide +kernel, by decide +kernel, ?_⟩
    rintro shown ⟨⟩
    decide +kernel
  obtain ⟨hmerged, hexact, -⟩ := mergeHeaders_exact (some "tok") mixedHeaders
  obtain ⟨hs, hmerge⟩ := hmerged.mpr hfits
  obtain ⟨hunique, hmem⟩ := hexact hs hmerge
  refine ⟨hfits, hs, hmerge, hunique, ?_⟩
  simp only [hmem]
  decide +kernel

end CoachClient.Service

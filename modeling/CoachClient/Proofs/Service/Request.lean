/-
CoachClient.Proofs.Service.Request — a request tells which operation it is for.

* `Operation.line` — the method of an operation, and its path with the query.
* `Operation.fields?` — the members of its body.
* `Operation.id?`, `IsId` — the id in it, and what an id may be.
* `Operation.IsCallOf` — the call of an operation has this line and this body;
  `exists_call`, `call_of_not_isId` — there is one exactly if the id is one.
* `Operation.IsCarriedBy` — a body says what the operation says;
  `isCarriedBy_of_call` — that of its call does.
* `Operation.kind_of_line`, `Operation.eq_of_line` — operations with one line and one
  body are the same, arguments included.
-/
import CoachClient.Proofs.Coaching.NewSession
import CoachClient.Proofs.Service.Endpoint

namespace CoachClient.Service

open CoachClient.Coaching CoachClient.Http CoachClient.Json CoachClient.Text CoachClient.Url

/-! ## 1. Operations on the wire -/

/-- An id: not empty, not dots, and made of letters, digits, dashes, underscores and
dots. -/
def IsId (id : String) : Prop :=
  id ≠ "" ∧ id ≠ "." ∧ id ≠ ".." ∧
    ∀ c ∈ id.toList, c.isAlphanum = true ∨ c = '-' ∨ c = '_' ∨ c = '.'

namespace Operation

/-- The method, and the path with its query. -/
def line : Operation → String × String
  | .grantToken _ => ("POST", "/auth/login")
  | .identity => ("GET", "/auth/me")
  | .revokeToken => ("POST", "/auth/logout")
  | .listSessions => ("GET", "/sessions")
  | .showSession id => ("GET", "/sessions/" ++ id)
  | .createSession _ => ("POST", "/sessions")
  | .cancelSession id => ("PUT", "/sessions/" ++ id ++ "/cancel")
  | .listAccounts page =>
    ("GET", "/admin/users/?limit=" ++ toString page.limit.toNat
      ++ "&offset=" ++ toString page.offset.toNat)
  | .grantRole id _ => ("POST", "/admin/users/" ++ id ++ "/grant-role")
  | .revokeRole id _ => ("POST", "/admin/users/" ++ id ++ "/revoke-role")
  | .disable id _ => ("POST", "/admin/users/" ++ id ++ "/disable")
  | .reenable id => ("POST", "/admin/users/" ++ id ++ "/reenable")

/-- The members of the body, if there is one. -/
def fields? : Operation → Option (List (String × Value))
  | .grantToken credentials =>
    some [("email", .text credentials.email), ("password", .text credentials.password)]
  | .createSession session => some session.members
  | .grantRole _ role | .revokeRole _ role => some [("role", .text role)]
  | .disable _ reason => some [("reason", .text reason)]
  | .identity | .revokeToken | .listSessions | .showSession _ | .cancelSession _
  | .listAccounts _ | .reenable _ => none

/-- The id in the path. -/
def id? : Operation → Option String
  | .showSession id | .cancelSession id | .grantRole id _ | .revokeRole id _ | .disable id _
  | .reenable id => some id
  | .grantToken _ | .identity | .revokeToken | .listSessions | .createSession _
  | .listAccounts _ => none

/-- The id in the path, if there is one, is an id. -/
def HasId (o : Operation) : Prop := ∀ id ∈ o.id?, IsId id

end Operation

/-! ## 2. Ids -/

theorem isIdChar_iff (c : Char) :
    isIdChar c = true ↔ c.isAlphanum = true ∨ c = '-' ∨ c = '_' ∨ c = '.' := by
  have hlower : ('a' ≤ c && c ≤ 'z') = c.isLower := rfl
  have hupper : ('A' ≤ c && c ≤ 'Z') = c.isUpper := by
    unfold Char.isUpper
    exact (Bool.decide_and _ _).symm
  have hdigit : isDigit c = c.isDigit := rfl
  unfold isIdChar Char.isAlphanum Char.isAlpha
  rw [hlower, hupper, hdigit]
  simp only [Bool.or_eq_true, beq_iff_eq, or_assoc, or_left_comm]

theorem isPlainSegment_iff (id : String) : isPlainSegment id = true ↔ IsId id := by
  simp only [isPlainSegment, IsId, Bool.and_eq_true, bne_iff_ne, ne_eq, List.all_eq_true,
    isIdChar_iff, and_assoc]

instance : DecidablePred IsId := fun id => decidable_of_iff _ (isPlainSegment_iff id)

theorem pathWith_of_isId {id : String} (h : IsId id) (front back : String) :
    pathWith front id back = .ok (front ++ id ++ back) := by
  rw [pathWith, if_pos ((isPlainSegment_iff id).mpr h)]

theorem pathWith_of_not_isId {id : String} (h : ¬ IsId id) (front back : String) :
    pathWith front id back = .error (.segment id) := by
  rw [pathWith, if_neg fun hplain => h ((isPlainSegment_iff id).mp hplain)]

/-! ## 3. Calls -/

namespace Operation

/-- The call has the line and the body of the operation, and nothing else. -/
structure IsCallOf (o : Operation) (call : Call) : Prop where
  line : (call.method, call.endpoint) = o.line
  body : call.body = o.fields?.map fun fields => (Value.object fields).sorted
  headers : call.headers = []
  timeout : call.timeout = none
  cancellation : call.cancellation = .never

/-- There is one if the id is an id. -/
theorem exists_call {o : Operation} (h : o.HasId) :
    ∃ call, o.call = .ok call ∧ o.IsCallOf call := by
  have hpath : ∀ front id back (f : String → Call), IsId id →
      o.IsCallOf (f (front ++ id ++ back)) →
        ∃ call, (pathWith front id back).map f = .ok call ∧ o.IsCallOf call := by
    intro front id back f hid hf
    rw [pathWith_of_isId hid]
    exact ⟨_, rfl, hf⟩
  cases o with
  | grantToken _ | identity | revokeToken | listSessions | createSession _ =>
    exact ⟨_, rfl, rfl, rfl, rfl, rfl, rfl⟩
  | listAccounts page =>
    have hquery : "/admin/users/?" ++ page.query = (Operation.listAccounts page).line.2 := by
      rw [← String.toList_inj, String.toList_append, query_toList]
      simp [Operation.line, digits]
    exact ⟨_, rfl, Prod.ext rfl hquery, rfl, rfl, rfl, rfl⟩
  | showSession id =>
    refine hpath "/sessions/" id "" _ (h id rfl) ⟨?_, rfl, rfl, rfl, rfl⟩
    simp [line, Call.get]
  | cancelSession id =>
    exact hpath "/sessions/" id "/cancel" _ (h id rfl) ⟨rfl, rfl, rfl, rfl, rfl⟩
  | grantRole id role =>
    exact hpath "/admin/users/" id "/grant-role" _ (h id rfl) ⟨rfl, rfl, rfl, rfl, rfl⟩
  | revokeRole id role =>
    exact hpath "/admin/users/" id "/revoke-role" _ (h id rfl) ⟨rfl, rfl, rfl, rfl, rfl⟩
  | disable id reason =>
    exact hpath "/admin/users/" id "/disable" _ (h id rfl) ⟨rfl, rfl, rfl, rfl, rfl⟩
  | reenable id =>
    exact hpath "/admin/users/" id "/reenable" _ (h id rfl) ⟨rfl, rfl, rfl, rfl, rfl⟩

/-- There is none if it is not. -/
theorem call_of_not_isId {o : Operation} {id : String} (h : o.id? = some id) (hid : ¬ IsId id) :
    o.call = .error (.segment id) := by
  have hpath : ∀ front back (f : String → Call),
      (pathWith front id back).map f = .error (.segment id) := by
    intro front back f
    rw [pathWith_of_not_isId hid]
    rfl
  cases o with
  | showSession id' | cancelSession id' | grantRole id' _ | revokeRole id' _ | disable id' _
  | reenable id' =>
    obtain rfl : id' = id := Option.some.inj h
    exact hpath _ _ _
  | _ => exact nomatch h

end Operation

/-! ## 4. Bodies -/

/-- The bytes of a body that may be absent. -/
def bodyBytes (body : Option Value) : List UInt8 :=
  match body with
  | some v => Utf8.encode v.compact
  | none => []

namespace Operation

/-- The body says what the operation says: it is an object of its members and of no
others, with the instants of a new session, or there is none. -/
structure IsCarriedBy (o : Operation) (body : List UInt8) : Prop where
  fields : ∀ fields ∈ o.fields?, ∃ members,
    Decoder.value.decode body = .ok (.object members) ∧ members.Perm fields
  nothing : o.fields? = none → body = []
  session : ∀ session, o = .createSession session → NewSession.decoder.decode body = .ok session

theorem fields_plain {o : Operation} {fields : List (String × Value)} (h : o.fields? = some fields) :
    (fields.map Prod.fst).Nodup ∧ ∀ m ∈ fields, m.2.Within 1 := by
  cases o with
  | grantToken credentials =>
    obtain rfl := Option.some.inj h
    refine ⟨by simp, fun m hm => ?_⟩
    simp only [List.mem_cons, List.not_mem_nil, or_false] at hm
    rcases hm with rfl | rfl
    · exact .text 0 _
    · exact .text 0 _
  | createSession session =>
    obtain rfl := Option.some.inj h
    exact ⟨session.members_distinct, session.members_plain⟩
  | grantRole _ text | revokeRole _ text | disable _ text =>
    obtain rfl := Option.some.inj h
    exact ⟨by simp, fun m hm => List.mem_singleton.mp hm ▸ .text 0 text⟩
  | _ => exact nomatch h

/-- The body of the call of an operation says what the operation says. -/
theorem isCarriedBy_of_call {o : Operation} {call : Call} (h : o.IsCallOf call) :
    o.IsCarriedBy (bodyBytes call.body) := by
  rw [h.body]
  constructor
  · intro fields hfields
    obtain ⟨hdistinct, hplain⟩ := fields_plain hfields
    rw [Option.mem_def.mp hfields]
    exact decode_flat hdistinct hplain
  · intro hnone
    rw [hnone]
    rfl
  · rintro session rfl
    exact session.decode_sorted

end Operation

/-! ## 5. Operations with one request -/

/-- An id ends at the slash after it. -/
theorem IsId.cut {id id' : String} {rest rest' : List Char} (h : IsId id) (h' : IsId id')
    (heq : id.toList ++ '/' :: rest = id'.toList ++ '/' :: rest') : id = id' ∧ rest = rest' := by
  have hslash : ∀ id, IsId id → '/' ∉ id.toList := by
    intro id hid hmem
    have hchar := hid.2.2.2 '/' hmem
    exact absurd hchar (by decide)
  obtain ⟨hid, hrest⟩ := append_cons_inj (hslash id h) (hslash id' h') heq
  exact ⟨String.toList_inj.mp hid, hrest⟩

/-- A page is told by its two numbers. -/
theorem page_inj {page page' : PageRequest}
    (h : (Operation.listAccounts page).line = (Operation.listAccounts page').line) :
    page = page' := by
  have hmark : ∀ n, '&' ∉ digits n := fun n hmem =>
    absurd (isDigit_of_mem_digits hmem) (by decide)
  have htext : digits page.limit.toNat ++ '&' :: ("offset=".toList ++ digits page.offset.toNat) =
      digits page'.limit.toNat ++ '&' :: ("offset=".toList ++ digits page'.offset.toNat) := by
    simpa [Operation.line, ← String.toList_inj, digits] using h
  obtain ⟨hlimit, hoffset⟩ := append_cons_inj (hmark _) (hmark _) htext
  have hlimit' : page.limit = page'.limit := UInt32.toNat_inj.mp (digits_inj hlimit)
  have hoffset' : page.offset = page'.offset :=
    UInt32.toNat_inj.mp (digits_inj (List.append_cancel_left hoffset))
  obtain ⟨limit, offset⟩ := page
  obtain ⟨limit', offset'⟩ := page'
  rw [PageRequest.mk.injEq]
  exact ⟨hlimit', hoffset'⟩

namespace Operation

/-- Operations with one line are of one kind and are about one id. -/
theorem kind_of_line {o o' : Operation} (ho : o.HasId) (ho' : o'.HasId) (h : o.line = o'.line) :
    o.ctorIdx = o'.ctorIdx ∧ o.id? = o'.id? := by
  -- the texts differ at some place, except for those that only differ behind an id
  cases o <;> cases o' <;> simp [line, ← String.toList_inj] at h <;>
    first
    | exact absurd ((ho _ rfl).cut (ho' _ rfl) h).2 (by decide)
    | exact ⟨rfl, congrArg some (String.toList_inj.mp h)⟩
    | exact ⟨rfl, rfl⟩

/-- Members that one body stands for are the same, in some order. -/
theorem fields_perm {o o' : Operation} {body : List UInt8} (h : o.IsCarriedBy body)
    (h' : o'.IsCarriedBy body) {fields fields' : List (String × Value)}
    (hfields : o.fields? = some fields) (hfields' : o'.fields? = some fields') :
    fields.Perm fields' := by
  obtain ⟨members, hdecode, hperm⟩ := h.fields fields hfields
  obtain ⟨members', hdecode', hperm'⟩ := h'.fields fields' hfields'
  obtain rfl : members = members' := by
    have hsame := Except.ok.inj (hdecode.symm.trans hdecode')
    exact Value.object.inj hsame
  exact hperm.symm.trans hperm'

/-- Operations with one line and one body are the same. -/
theorem eq_of_line {o o' : Operation} {body : List UInt8} (ho : o.HasId) (ho' : o'.HasId)
    (h : o.line = o'.line) (hbody : o.IsCarriedBy body) (hbody' : o'.IsCarriedBy body) :
    o = o' := by
  obtain ⟨hkind, hids⟩ := kind_of_line ho ho' h
  have hfields := @fields_perm o o' body hbody hbody'
  cases o with
  | grantToken credentials =>
    cases o' with
    | grantToken credentials' =>
      have hperm := hfields rfl rfl
      have hemail := hperm.mem_iff (a := ("email", .text credentials.email))
      have hpassword := hperm.mem_iff (a := ("password", .text credentials.password))
      simp at hemail hpassword
      obtain ⟨email, password⟩ := credentials
      obtain ⟨email', password'⟩ := credentials'
      rw [grantToken.injEq, Credentials.mk.injEq]
      exact ⟨hemail, hpassword⟩
    | _ => exact nomatch hkind
  | identity =>
    cases o' with
    | identity => rfl
    | _ => exact nomatch hkind
  | revokeToken =>
    cases o' with
    | revokeToken => rfl
    | _ => exact nomatch hkind
  | listSessions =>
    cases o' with
    | listSessions => rfl
    | _ => exact nomatch hkind
  | showSession id =>
    cases o' with
    | showSession id' =>
      rw [Option.some.inj hids]
    | _ => exact nomatch hkind
  | createSession session =>
    cases o' with
    | createSession session' =>
      have hsame := (hbody.session session rfl).symm.trans (hbody'.session session' rfl)
      rw [Except.ok.inj hsame]
    | _ => exact nomatch hkind
  | cancelSession id =>
    cases o' with
    | cancelSession id' =>
      rw [Option.some.inj hids]
    | _ => exact nomatch hkind
  | listAccounts page =>
    cases o' with
    | listAccounts page' => rw [page_inj h]
    | _ => exact nomatch hkind
  | grantRole id role =>
    cases o' with
    | grantRole id' role' =>
      have hrole : role = role' := by simpa using hfields rfl rfl
      rw [Option.some.inj hids, hrole]
    | _ => exact nomatch hkind
  | revokeRole id role =>
    cases o' with
    | revokeRole id' role' =>
      have hrole : role = role' := by simpa using hfields rfl rfl
      rw [Option.some.inj hids, hrole]
    | _ => exact nomatch hkind
  | disable id reason =>
    cases o' with
    | disable id' reason' =>
      have hreason : reason = reason' := by simpa using hfields rfl rfl
      rw [Option.some.inj hids, hreason]
    | _ => exact nomatch hkind
  | reenable id =>
    cases o' with
    | reenable id' =>
      rw [Option.some.inj hids]
    | _ => exact nomatch hkind

end Operation

end CoachClient.Service

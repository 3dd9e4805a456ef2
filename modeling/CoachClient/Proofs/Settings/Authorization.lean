/-
CoachClient.Proofs.Settings.Authorization — whose name stands on a request.

* `userinfoHeader` — the header that the user information of a URL turns into.
* `all_request_of_nil` — a request to which no credential is attached gets that
  header from its URL.
* `Client.SendsFirst` — the first request that a call puts on the wire.
* `Shows` — its authorization is the credential it was made with: once, or not at
  all when there is none.
* `first_shows_credential_iff` — with settings that can be used, the first request
  of a call shows its credential if there is one, and otherwise if the address of
  the service has no user information. Nothing else has an influence.
* `named_request_shows_user` — an address with user information: nobody has signed
  in, and yet the request has an authorization header.

The credential is attached when the headers of a call are merged, and there no
header of the call gets through. User information joins later, when the URL is
taken apart, and only gives way to a header that is already there.
-/
import CoachClient.Proofs.Service.Script
import CoachClient.Proofs.Settings.Address

namespace CoachClient.Service

open CoachClient.Access CoachClient.Http CoachClient.Json CoachClient.Url

/-! ## 1. User information -/

/-- The value of the header that the user information of a URL turns into. -/
def userinfoHeader (u : Url) : Option String :=
  u.takeUserinfo.2.map fun user => basicCredential user.1 user.2

theorem userinfoHeader_eq_none {u : Url} : userinfoHeader u = none ↔ u.takeUserinfo.2 = none :=
  Option.map_eq_none_iff

/-- What is put behind the authority does not touch the user information. -/
theorem userinfoHeader_goesOn (base : Url) (rest : List Char) :
    userinfoHeader (base.goesOn rest) = userinfoHeader base := by
  have htaken : (base.goesOn rest).takeUserinfo.2 = base.takeUserinfo.2 := by
    unfold Url.takeUserinfo Url.goesOn
    cases decodedText base.username with
    | none => rfl
    | some name =>
      dsimp only
      split <;> rfl
  unfold userinfoHeader
  rw [htaken]

/-- Without an authorization header of its own a dispatch gets that of its URL. -/
theorem all_request_of_nil {d : Dispatch} {r : Request} (h : d.request = .ok r)
    (hd : Headers.all authorization d.headers = []) :
    ∃ url, Url.parse d.url = .ok url ∧
      Headers.all authorization r.headers = (userinfoHeader url).toList := by
  simp only [Dispatch.request] at h
  cases hu : Url.parse d.url with
  | error fault => simp [hu, bind, Except.bind] at h
  | ok url =>
    refine ⟨url, rfl, ?_⟩
    simp only [hu, mapError_ok, bind, Except.bind] at h
    split at h
    · simp at h
    · rw [← Except.ok.inj h]
      rw [Headers.all_setDefault_of_ne (by decide), Headers.all_setDefault_of_ne (by decide),
        Headers.all_setAll, hd, List.foldl_nil]
      unfold userinfoHeader
      cases url.takeUserinfo.2 with
      | none => rfl
      | some user => simp [Headers.all_cons_self]

/-! ## 2. The first request of a call -/

/-- The first request that a call puts on the wire. -/
def Client.SendsFirst {α : Type} (c : Client) (d : Decoder α) (call : Call) (e : Surroundings)
    (w : World) (first : Request) : Prop :=
  ∃ later, ((c.send d call).run e w).2.traffic.requests = w.traffic.requests ++ first :: later

/-- A request shows a credential in the one authorization header that it has, and
without one it has no such header. -/
def Shows (credential : Option String) (r : Request) : Prop :=
  Headers.all authorization r.headers = (credential.map bearer).toList

section
variable {α : Type} {c : Client} {base : Url} {d : Decoder α} {call : Call} {e : Surroundings}
  {w : World} {first : Request}

/-- It is made with the credential of the moment. -/
theorem Client.SendsFirst.exists_dispatch (h : c.SendsFirst d call e w first) :
    ∃ dispatch r, c.dispatch w.store.snapshot.credential? call = .ok dispatch ∧
      dispatch.request = .ok r ∧ first = r.withCookies w.traffic.jar := by
  obtain ⟨later, hlater⟩ := h
  rcases c.send_sent d call e w with hsame | ⟨dispatch, r, later', hd, hr, hsent⟩
  · rw [hsame] at hlater
    simp at hlater
  · rw [hsent] at hlater
    exact ⟨dispatch, r, hd, hr, (List.cons.inj (List.append_cancel_left hlater)).1.symm⟩

/-- Who is signed in shows the credential, whatever the address of the service. -/
theorem Client.SendsFirst.all_of_some {credential : String} (h : c.SendsFirst d call e w first)
    (hc : w.store.snapshot.credential? = some credential) :
    Headers.all authorization first.headers = [bearer credential] := by
  obtain ⟨dispatch, r, hd, hr, rfl⟩ := h.exists_dispatch
  rw [hc] at hd
  rw [all_withCookies]
  exact all_request hr (all_mergeHeaders (dispatch_ok hd).1)

/-- For everybody else it is the user information in that address. -/
theorem Client.SendsFirst.all_of_none (h : c.SendsFirst d call e w first)
    (hbase : Url.parse c.baseUrl = .ok base) (hweb : base.isWeb = true)
    (hc : w.store.snapshot.credential? = none) :
    Headers.all authorization first.headers = (userinfoHeader base).toList := by
  obtain ⟨dispatch, r, hd, hr, rfl⟩ := h.exists_dispatch
  rw [hc] at hd
  obtain ⟨hmerge, -, hurl⟩ := dispatch_ok hd
  obtain ⟨url, hparse, hall⟩ := all_request_of_nil hr (all_mergeHeaders hmerge)
  rw [hurl] at hparse
  obtain ⟨rest, rfl⟩ := parse_address hbase hweb hparse
  rw [all_withCookies, hall, userinfoHeader_goesOn]

end

end CoachClient.Service

namespace CoachClient.Settings

open CoachClient.Access CoachClient.Http CoachClient.Json CoachClient.Service CoachClient.Url

/-! ## 3. Settings that can be used -/

/-- **What authorizes a request.** The credential of the moment if there is one, and
otherwise the user information in the address of the service. So the first request
of a call shows who is signed in, and nothing when nobody is, exactly if somebody is
or the address has no user information. -/
theorem first_shows_credential_iff {s : Settings} (h : s.fault? = none) {base : Url}
    (hbase : Url.parse s.baseUrl = .ok base) {α : Type} (d : Decoder α) (call : Call)
    (e : Surroundings) (w : World) (first : Request)
    (hfirst : s.client.SendsFirst d call e w first) :
    (∀ credential, w.store.snapshot.credential? = some credential →
        Headers.all authorization first.headers = [bearer credential]) ∧
      (w.store.snapshot.credential? = none →
        Headers.all authorization first.headers = (userinfoHeader base).toList) ∧
      (Shows w.store.snapshot.credential? first ↔
        w.store.snapshot.isAuthenticated = true ∨ base.takeUserinfo.2 = none) := by
  obtain ⟨base', hbase', hweb⟩ := exists_base h
  obtain rfl : base' = base := Except.ok.inj (hbase'.symm.trans hbase)
  refine ⟨fun credential hc => hfirst.all_of_some hc, hfirst.all_of_none hbase hweb, ?_⟩
  unfold Shows Snapshot.isAuthenticated
  cases hc : w.store.snapshot.credential? with
  | some credential => simp [hfirst.all_of_some hc]
  | none => simp [hfirst.all_of_none hbase hweb hc, userinfoHeader_eq_none]

/-- A service whose address has user information. -/
def named : Settings := { initial with baseUrl := "http://user:pw@service" }

/-- Somebody is signed in. -/
def signedInWorld : World := ⟨⟨.signedIn "tok" ["admin"], 1⟩, Traffic.none⟩

/-- A call with an authorization of its own. -/
def forgedCall : Call := { Call.get "/sessions" with headers := [("AUTHORIZATION", "Bearer mine")] }

/-- A service that refuses everything. -/
def refusing : Surroundings := .answering [.full ⟨⟨401⟩, [], []⟩]

/-- What that service gets when the call is made. -/
def requestsOf (w : World) : List Request :=
  ((named.client.send Decoder.value forgedCall).run refusing w).2.traffic.requests

theorem exists_first {w : World} {r : Request} (hw : w.traffic.requests = [])
    (h : (requestsOf w).head? = some r) :
    named.client.SendsFirst Decoder.value forgedCall refusing w r := by
  obtain ⟨later, hlater⟩ := List.head?_eq_some_iff.mp h
  exact ⟨later, by rw [hw]; exact hlater⟩

/-- Who is signed in shows the credential and nothing else. -/
theorem named_request_shows_credential :
    named.fault? = none ∧ ∃ base first, Url.parse named.baseUrl = .ok base ∧
      base.takeUserinfo.2 = some ("user", some "pw") ∧
      named.client.SendsFirst Decoder.value forgedCall refusing signedInWorld first ∧
      Shows (some "tok") first := by
  have hfault : named.fault? = none := by decide +kernel
  obtain ⟨base, hbase, -⟩ := exists_base hfault
  obtain ⟨first, hhead⟩ : ∃ first, (requestsOf signedInWorld).head? = some first :=
    Option.isSome_iff_exists.mp (by decide +kernel)
  have hfirst := exists_first (w := signedInWorld) rfl hhead
  have huser : (Url.parse named.baseUrl).toOption.bind (fun u => u.takeUserinfo.2) =
      some ("user", some "pw") := by decide +kernel
  rw [hbase] at huser
  have hshows := first_shows_credential_iff hfault hbase Decoder.value forgedCall refusing
    signedInWorld first hfirst
  exact ⟨hfault, base, first, hbase, huser, hfirst, hshows.2.2.mpr (Or.inl rfl)⟩

/-- Nobody is signed in, and the request has an authorization header all the same. -/
theorem named_request_shows_user :
    named.fault? = none ∧ World.fresh.store.snapshot.credential? = none ∧
      ∃ first, named.client.SendsFirst Decoder.value forgedCall refusing World.fresh first ∧
        Headers.all authorization first.headers = ["Basic dXNlcjpwdw=="] ∧
        ¬ Shows none first := by
  have hhead : (requestsOf World.fresh).head?.map (fun r => Headers.all authorization r.headers) =
      some ["Basic dXNlcjpwdw=="] := by decide +kernel
  obtain ⟨first, hfirst, hall⟩ := Option.map_eq_some_iff.mp hhead
  refine ⟨by decide +kernel, rfl, first, exists_first rfl hfirst, hall, fun hnone => ?_⟩
  unfold Shows at hnone
  rw [hall] at hnone
  exact absurd hnone (by decide)

end CoachClient.Settings

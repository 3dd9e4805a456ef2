/-
CoachClient.Proofs.Service.Address — where the address of an endpoint leads.

* `address_toList` — an address is that of the service without the slashes at its
  end, one slash, and the rest of the endpoint.
* `Client.Trunk` — what of it is read on its own, and what in front of an
  endpoint.
* `Client.Trunk.parse_address`, `parse_address` — so if it is a URL at all, it is
  that of the service with another path, query and fragment.
* `Client.send_sent` — and this is where the first request of a call goes, with
  the credential of the moment.
-/
import CoachClient.Proofs.Service.Flow
import CoachClient.Proofs.Url.Hierarchy

namespace CoachClient.Service

open CoachClient.Access CoachClient.Http CoachClient.Json CoachClient.Text CoachClient.Url

/-! ## 1. The text of an address -/

/-- An endpoint without the slash it may begin with. -/
def belowRoot (endpoint : String) : List Char :=
  match endpoint.toList with
  | '/' :: rest => rest
  | cs => cs

theorem address_toList (c : Client) (endpoint : String) :
    c.address endpoint =
      String.ofList (dropEndWhile (· == '/') c.baseUrl.toList ++ '/' :: belowRoot endpoint) := by
  unfold Client.address belowRoot
  rw [← String.toList_inj]
  cases hcs : endpoint.toList with
  | nil => simp [hcs]
  | cons d cs =>
    by_cases hd : d = '/'
    · subst hd
      simp [hcs]
    · simp [hcs, hd]

/-- How the address of the service is read on its own and in front of an endpoint:
on its own it loses the blanks at its end, or it has slashes there. -/
structure Client.Trunk (c : Client) (trunk blanks : List Char) (k : Nat) : Prop where
  base : significant c.baseUrl = trunk ++ List.replicate k '/'
  address : ∀ endpoint, significant (c.address endpoint) =
    trunk ++ blanks ++ '/' :: behind (belowRoot endpoint)
  edges : ∀ ch ∈ blanks, IsEdge ch
  apart : blanks = [] ∨ k = 0
  blanks_iff : significant c.baseUrl ≠ [] → (blanks ≠ [] ↔ EndsInEdge c.baseUrl)

theorem Client.exists_trunk (c : Client) : ∃ trunk blanks k, c.Trunk trunk blanks k := by
  obtain ⟨trunk, blanks, k, hfront, hbase, hedges, hapart, hblanks⟩ := Url.exists_trunk c.baseUrl
  refine ⟨trunk, blanks, k, hbase, fun endpoint => ?_, hedges, hapart, hblanks⟩
  rw [address_toList, significant_append, hfront]

/-! ## 2. Where it leads -/

section
variable {c : Client} {base : Url}

/-- An address is that of the service with another text behind the authority. If
blanks follow the authority, no address is a URL. -/
theorem Client.Trunk.parse_address {trunk blanks : List Char} {k : Nat}
    (htrunk : c.Trunk trunk blanks k) (hbase : Url.parse c.baseUrl = .ok base)
    (hweb : base.isWeb = true) :
    ((pathPart trunk ≠ [] ∨ blanks = []) ∧ ∀ endpoint, Url.parse (c.address endpoint) =
        .ok (base.goesOn (pathPart trunk ++ (blanks ++ '/' :: behind (belowRoot endpoint))))) ∨
      blanks ≠ [] ∧ ∀ endpoint url, Url.parse (c.address endpoint) ≠ .ok url := by
  rw [parse_eq_read, htrunk.base] at hbase
  by_cases hended : pathPart trunk ≠ [] ∨ blanks = []
  · refine Or.inl ⟨hended, fun endpoint => ?_⟩
    have hmore : pathPart trunk ≠ [] ∨
        ∀ ch ∈ (blanks ++ '/' :: behind (belowRoot endpoint)).head?, ch = '/' := by
      refine hended.imp_right ?_
      rintro rfl ch hch
      exact (Option.some.inj hch).symm
    rw [parse_eq_read, htrunk.address, List.append_assoc]
    exact read_append hbase hweb hmore
  · simp only [not_or, not_not] at hended
    refine Or.inr ⟨hended.2, fun endpoint url => ?_⟩
    rw [parse_eq_read, htrunk.address]
    exact read_edge hbase hweb hended.1 htrunk.edges hended.2 url

/-- An address leads to the service, whatever the endpoint. -/
theorem parse_address {url : Url} {endpoint : String} (hbase : Url.parse c.baseUrl = .ok base)
    (hweb : base.isWeb = true) (h : Url.parse (c.address endpoint) = .ok url) :
    ∃ rest, url = base.goesOn rest := by
  obtain ⟨trunk, blanks, k, htrunk⟩ := c.exists_trunk
  rcases htrunk.parse_address hbase hweb with ⟨-, hok⟩ | ⟨-, hnone⟩
  · exact ⟨_, Except.ok.inj (h.symm.trans (hok endpoint))⟩
  · exact absurd h (hnone endpoint url)

end

/-- A request to where a URL leads, whatever its path. -/
structure LeadsTo (base url : Url) : Prop where
  scheme : url.scheme = base.scheme
  host : url.host = base.host
  port : url.port = base.port

theorem leadsTo_goesOn (base : Url) (rest : List Char) : LeadsTo base (base.goesOn rest) :=
  ⟨rfl, rfl, rfl⟩

/-- User information is not part of where a URL leads. -/
theorem LeadsTo.takeUserinfo {base url : Url} (h : LeadsTo base url) :
    LeadsTo base url.takeUserinfo.1 := by
  unfold Url.takeUserinfo
  split
  · exact h
  · dsimp only
    split
    · exact h
    · exact ⟨h.scheme, h.host, h.port⟩

/-! ## 3. Calls -/

/-- A call does nothing, or the first request that arrives is its own, made with
the credential of the moment. -/
theorem Client.send_sent {α : Type} (c : Client) (d : Decoder α) (call : Call) (e : Surroundings)
    (w : World) :
    ((c.send d call).run e w).2.traffic.requests = w.traffic.requests ∨
      ∃ dispatch r later, c.dispatch w.store.snapshot.credential? call = .ok dispatch ∧
        dispatch.request = .ok r ∧
        ((c.send d call).run e w).2.traffic.requests =
          w.traffic.requests ++ r.withCookies w.traffic.jar :: later := by
  simp only [Client.send, Client.start, Flow.run]
  cases hd : c.dispatch w.store.snapshot.credential? call with
  | error refusal => exact Or.inl rfl
  | ok dispatch =>
    simp only [Flow.run]
    rcases World.perform_sent e dispatch w with hsame | ⟨r, later, hr, hlater⟩
    · exact Or.inl (by rw [hsame])
    · exact Or.inr ⟨dispatch, r, later, rfl, hr, hlater⟩

end CoachClient.Service

/-
CoachClient.Proofs.Settings.Address — where settings that can be used lead.

* `Settings.exists_base` — they name a URL of the web.
* `Settings.calls_lead_to_service` — whatever endpoint is put behind its text, the
  outcome leads to the same scheme, host and port or is no URL. So the first
  request of a call, which shows the credential, goes to the service.
* `Settings.endpoints_reached_iff` — the endpoints of all operations are reached
  if paths can be put behind the address of the service, and only then. That is
  not looked at when it is decided whether settings can be used.
-/
import CoachClient.Proofs.Service.Reach
import CoachClient.Settings.Basic

namespace CoachClient.Settings

open CoachClient.Access CoachClient.Http CoachClient.Json CoachClient.Service CoachClient.Url

/-! ## 1. Where addresses lead -/

section
variable {s : Settings}

theorem exists_base (h : s.fault? = none) :
    ∃ base, Url.parse s.baseUrl = .ok base ∧ base.isWeb = true := by
  unfold fault? at h
  split at h
  · cases h
  · rename_i base hbase
    cases hweb : base.isWeb with
    | true => exact ⟨base, hbase, hweb⟩
    | false => simp [hweb] at h

/-- No endpoint takes the credential anywhere else. -/
theorem calls_lead_to_service (h : s.fault? = none) :
    ∃ base, Url.parse s.baseUrl = .ok base ∧
      (∀ endpoint url, Url.parse (s.client.address endpoint) = .ok url → LeadsTo base url) ∧
      ∀ {α : Type} (d : Decoder α) (call : Call) (e : Surroundings) (w : World),
        ((s.client.send d call).run e w).2.traffic.requests = w.traffic.requests ∨
          ∃ first later, LeadsTo base first.url ∧
            ((s.client.send d call).run e w).2.traffic.requests =
              w.traffic.requests ++ first :: later ∧
            ∀ credential, w.store.snapshot.credential? = some credential →
              Headers.all authorization first.headers = [bearer credential] := by
  obtain ⟨base, hbase, hweb⟩ := exists_base h
  have hleads : ∀ endpoint url, Url.parse (s.client.address endpoint) = .ok url →
      LeadsTo base url := by
    intro endpoint url hurl
    obtain ⟨rest, rfl⟩ := parse_address (c := s.client) hbase hweb hurl
    exact leadsTo_goesOn base rest
  refine ⟨base, hbase, hleads, fun d call e w => ?_⟩
  rcases s.client.send_sent d call e w with hsame | ⟨dispatch, r, later, hd, hr, hlater⟩
  · exact Or.inl hsame
  obtain ⟨hmerge, -, hurl⟩ := dispatch_ok hd
  obtain ⟨-, url, hparse, hrequest⟩ := request_ok hr
  refine Or.inr ⟨r.withCookies w.traffic.jar, later, ?_, hlater, fun credential hc => ?_⟩
  · rw [(withCookies_method_url r w.traffic.jar).2, hrequest]
    rw [hurl] at hparse
    exact (hleads call.endpoint url hparse).takeUserinfo
  · rw [all_withCookies]
    rw [hc] at hmerge
    exact all_request hr (all_mergeHeaders hmerge)

/-- An endpoint that would be user information and another host, were it not for
the slash in front of it. -/
theorem at_sign_leads_to_service :
    initial.fault? = none ∧ ∃ base url, Url.parse initial.baseUrl = .ok base ∧
      Url.parse (initial.client.address "@elsewhere.example:80") = .ok url ∧ LeadsTo base url := by
  have hfault : initial.fault? = none := by decide +kernel
  obtain ⟨base, hbase, hleads, -⟩ := calls_lead_to_service hfault
  cases hurl : Url.parse (initial.client.address "@elsewhere.example:80") with
  | ok url => exact ⟨hfault, base, url, hbase, rfl, hleads _ url hurl⟩
  | error fault =>
    have hread : (Url.parse (initial.client.address "@elsewhere.example:80")).toOption.isSome =
        true := by decide +kernel
    rw [hurl] at hread
    cases hread

/-! ## 2. Endpoints -/

/-- All operations reach their endpoints exactly when paths can be put behind the
address of the service. -/
theorem endpoints_reached_iff {base : Url} (h : s.fault? = none)
    (hbase : Url.parse s.baseUrl = .ok base) :
    (∀ (o : Operation) call, o.call = .ok call → s.client.Reaches base call.endpoint) ↔
      s.client.TakesPaths base := by
  obtain ⟨base', hbase', hweb⟩ := exists_base h
  obtain rfl : base' = base := Except.ok.inj (hbase'.symm.trans hbase)
  have hclient : Url.parse s.client.baseUrl = .ok base' := hbase
  constructor
  · intro hall
    -- any operation will do whose path is not just slashes
    have hplain : IsPlainEndpoint "/auth/me" "auth/me".toList none :=
      isPlainEndpoint_of_path rfl (by decide)
    have hreaches := hall .identity (.get "/auth/me") rfl
    exact takesPaths_of_reaches hclient hweb hplain ⟨'a', by decide, by decide⟩ hreaches
  · intro htakes o call hcall
    obtain ⟨path, query, hplain⟩ := Operation.call_endpoint hcall
    exact reaches_of_takesPaths hclient hweb htakes hplain

end

/-- A service that does not stand at the root of its host. -/
def mounted : Settings := { initial with baseUrl := "http://service/api/v1//" }

/-- The address of that service as a URL. -/
def mountedUrl : Url :=
  { scheme := "http".toList, username := [], password := none,
    host := some (.domain "service".toList), port := none,
    path := .segments ["api".toList, "v1".toList, [], []], query := none, fragment := none }

theorem eq_ok_of_toOption {ε α : Type} {x : Except ε α} {a : α} (h : x.toOption = some a) :
    x = .ok a := by
  cases x with
  | error _ => cases h
  | ok _ => rw [Option.some.inj h]

/-- It is reached, whatever is asked of it. -/
theorem mounted_endpoints_reached :
    mounted.fault? = none ∧ Url.parse mounted.baseUrl = .ok mountedUrl ∧
      ∀ (o : Operation) call, o.call = .ok call →
        mounted.client.Reaches mountedUrl call.endpoint := by
  have hfault : mounted.fault? = none := by decide +kernel
  have hbase : Url.parse mounted.baseUrl = .ok mountedUrl :=
    eq_ok_of_toOption (by decide +kernel)
  have hroot : ∀ root, Url.parse (mounted.client.address "/") = .ok root →
      ¬ ['/', '/'] <:+ root.path.text := by
    intro root hparse
    have htext : (Url.parse (mounted.client.address "/")).toOption.map (fun u => u.path.text) =
        some "/api/v1/".toList := by decide +kernel
    rw [hparse] at htext
    have hpath : root.path.text = "/api/v1/".toList := Option.some.inj htext
    rw [hpath]
    decide
  have hblank : ¬ EndsInEdge mounted.client.baseUrl := by
    rintro ⟨c, hc, hedge⟩
    have hlast : (mounted.client.baseUrl.toList.filter isKept).getLast? = some '/' := by
      decide +kernel
    rw [hlast] at hc
    obtain rfl := Option.some.inj hc
    exact absurd hedge (by decide)
  exact ⟨hfault, hbase, (endpoints_reached_iff hfault hbase).mpr ⟨rfl, rfl, hblank, hroot⟩⟩

/-- Settings with a blank at the end of the address. -/
def spaced : Settings := { initial with baseUrl := "http://service " }

/-- These settings can be used, they say, and yet no session can be asked for. -/
theorem spaced_sessions_not_reached :
    spaced.fault? = none ∧ Operation.listSessions.call = .ok (.get "/sessions") ∧
      ∀ base, ¬ spaced.client.Reaches base "/sessions" := by
  refine ⟨by decide +kernel, rfl, ?_⟩
  rintro base ⟨url, hurl, -⟩
  have hnone : (Url.parse (spaced.client.address "/sessions")).toOption = none := by
    decide +kernel
  rw [hurl] at hnone
  cases hnone

end CoachClient.Settings

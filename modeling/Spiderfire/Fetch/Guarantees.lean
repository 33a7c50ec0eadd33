import Spiderfire.Fetch.Pipeline

namespace Spiderfire

section Capped

variable {env : Env} {request : Request} {response : Response} {taint : ResponseTaint}
  {redirections : UInt8} {sent : List Request}

/-- From 20 followed redirects on, http_redirect_fetch never enters main_fetch again: it calls
the client no more and hands back the request as it was, with a network error or the redirect
response itself. -/
theorem httpRedirectFetch_capped (capped : 20 ≤ redirections) :
    (httpRedirectFetch env request response taint redirections sent).2 = sent ∧
      ∀ a, (httpRedirectFetch env request response taint redirections sent).1 = .ok a →
        a = (networkError, request) ∨ a = (response, request) := by
  rw [httpRedirectFetch]
  dsimp only
  rcases sizeHintUpper (response.headers.getAll HeaderName.location) with _ | _ | n
  · exact ⟨rfl, fun a ok => .inl (Except.ok.inj ok).symm⟩
  · exact ⟨rfl, fun a ok => .inr (Except.ok.inj ok).symm⟩
  simp only []
  rw [FetchM.bind_apply, FetchM.lift_apply]
  rcases (orPanic (response.headers.getAll HeaderName.location).head? .locationNext >>= fun value =>
      orPanic (fromUtf8 value) .locationUtf8) with p | text
  · refine ⟨rfl, fun a ok => ?_⟩
    cases ok
  dsimp only
  rcases env.parse response.url text with _ | parsed
  · exact ⟨rfl, fun a ok => .inl (Except.ok.inj ok).symm⟩
  dsimp only
  split_ifs <;> exact ⟨rfl, fun a ok => .inl (Except.ok.inj ok).symm⟩

/-- A single `Location` that decodes and parses to an http(s) URL, received after 20 followed
redirects, is answered with a network error. -/
theorem httpRedirectFetch_capped_location {value : HeaderValue} {text : String} {parsed : Url}
    (capped : 20 ≤ redirections)
    (location : response.headers.getAll HeaderName.location = [value])
    (decoded : fromUtf8 value = some text) (parses : env.parse response.url text = some parsed)
    (web : (redirectTarget parsed response.url).scheme = "https" ∨
      (redirectTarget parsed response.url).scheme = "http") :
    httpRedirectFetch env request response taint redirections sent = (.ok (networkError, request), sent) := by
  rw [httpRedirectFetch]
  simp [location, sizeHintUpper, orPanic, bind, Except.bind, decoded, parses, web, capped,
    FetchM.bind, FetchM.lift]

end Capped

section TopLevel

variable (env : Env) (request : Request) (sent : List Request)

/-- Every request main_fetch hands the client is an http(s) request on an allowed port, not in
same-origin mode, not only-if-cached, in follow mode when no-cors, and, in a cors fetch, without
userinfo in a redirect target. -/
theorem mainFetch_sends_only_admitted :
    ∃ extra, (mainFetch env request 0 sent).2 = sent ++ extra ∧
      ∀ out ∈ extra, Transported request out :=
  let ⟨extra, eq, _, each⟩ := (mainFetch_spec env 0 (by decide) request sent).sends
  ⟨extra, eq, each⟩

/-- main_fetch is total; it calls the client at most 42 times, each http_network_fetch at most
twice and its 421 retry at most once, and follows at most 20 redirects; from 20 followed
redirects on http_redirect_fetch re-enters nothing, answering a further redirect to an http(s)
location with a network error. -/
theorem mainFetch_bounded :
    (∃ extra, (mainFetch env request 0 sent).2 = sent ++ extra ∧ extra.length ≤ 42) ∧
    (∀ hop isNew (before : List Request), ∃ extra,
      (httpNetworkFetch env hop isNew before).2 = before ++ extra ∧
        extra.length ≤ if isNew then 1 else 2) ∧
    (∀ response final, (mainFetch env request 0 sent).1 = .ok (response, final) →
      ∃ added, final.locations = request.locations ++ added ∧ added.length ≤ 20) ∧
    (∀ (redirections : UInt8) request response taint sent, 20 ≤ redirections →
      (httpRedirectFetch env request response taint redirections sent).2 = sent ∧
      ∀ a, (httpRedirectFetch env request response taint redirections sent).1 = .ok a →
        a = (networkError, request) ∨ a = (response, request)) ∧
    (∀ (redirections : UInt8) request response taint sent value text parsed,
      20 ≤ redirections → response.headers.getAll HeaderName.location = [value] →
      fromUtf8 value = some text → env.parse response.url text = some parsed →
      ((redirectTarget parsed response.url).scheme = "https" ∨
        (redirectTarget parsed response.url).scheme = "http") →
      httpRedirectFetch env request response taint redirections sent =
        (.ok (networkError, request), sent)) := by
  have spec := mainFetch_spec env 0 (by decide) request sent
  obtain ⟨extra, eq, length, -⟩ := spec.sends
  refine ⟨⟨extra, eq, length⟩, fun hop isNew before => ?_,
    fun response final fetched => (spec.result _ fetched).1,
    fun _ _ _ _ _ capped => httpRedirectFetch_capped capped,
    fun _ _ _ _ _ _ _ _ capped => httpRedirectFetch_capped_location capped⟩
  obtain ⟨extra, eq, length, -⟩ := (httpNetworkFetch_spec env hop isNew before).sent_eq
  exact ⟨extra, eq, length⟩

/-- A response main_fetch returns that is not a network error carries no `Set-Cookie` or
`Set-Cookie2` entry, whichever path produced it. -/
theorem mainFetch_strips_forbidden (response : Response) (final : Request)
    (fetched : (mainFetch env request 0 sent).1 = .ok (response, final))
    (notError : response.kind ≠ .Error) :
    ∀ name ∈ forbiddenResponseHeaders, name ∉ response.headers.keys :=
  ((mainFetch_spec env 0 (by decide) request sent).result _ fetched).2.forbidden notError

end TopLevel

/-- `about:blank`, which scheme_fetch answers itself. -/
def aboutBlankUrl : Url where
  serialization := "about:blank"
  scheme := "about"
  username := ""
  password := none
  host := none
  port := none
  path := "blank"
  fragment := none
  serialization_printable := by decide
  host_printable _ := nofun
  port_lt _ := nofun
  http_host := nofun

def offlineEnv : Env := ⟨fun _ _ => none, fun _ => none, fun _ _ => none, "0.1.0"⟩

def aboutBlankRequest : Request :=
  ⟨.GET, aboutBlankUrl, HeaderMap.empty, .None, .Cors, .SameOrigin, .Default, .Follow, .Client,
    .None, false, []⟩

theorem aboutBlank_fetched : ∃ response final,
    (mainFetch offlineEnv aboutBlankRequest 0 []).1 = .ok (response, final) ∧
      response.kind ≠ .Error := by
  rw [mainFetch]
  simp [aboutBlankRequest, aboutBlankUrl, schemes, schemeFetch, mainFetchFinish, FetchM.lift,
    pure, Except.pure, Except.bind, Except.map, Response.newFromBytes, filterResponse]

theorem aboutBlank_strips_forbidden : ∃ response final,
    (mainFetch offlineEnv aboutBlankRequest 0 []).1 = .ok (response, final) ∧
      response.kind ≠ .Error ∧ ∀ name ∈ forbiddenResponseHeaders, name ∉ response.headers.keys :=
  let ⟨response, final, fetched, kind⟩ := aboutBlank_fetched
  ⟨response, final, fetched, kind,
    mainFetch_strips_forbidden offlineEnv aboutBlankRequest [] response final fetched kind⟩

section TopLevel

variable (env : Env) (request : Request) (sent : List Request)

/-- The response main_fetch returns is visible as its kind says, with the method the redirects
left and `redirected` set exactly when a redirect was followed and it is no network error. -/
theorem mainFetch_visible (response : Response) (final : Request)
    (fetched : (mainFetch env request 0 sent).1 = .ok (response, final)) :
    Visible final (request.locations.length < final.locations.length) response :=
  ((mainFetch_spec env 0 (by decide) request sent).result _ fetched).2.visible

end TopLevel

theorem aboutBlank_visible : ∃ response final,
    (mainFetch offlineEnv aboutBlankRequest 0 []).1 = .ok (response, final) ∧ response.kind ≠ .Error ∧
      Visible final (aboutBlankRequest.locations.length < final.locations.length) response :=
  let ⟨response, final, fetched, kind⟩ := aboutBlank_fetched
  ⟨response, final, fetched, kind,
    mainFetch_visible offlineEnv aboutBlankRequest [] response final fetched⟩

end Spiderfire

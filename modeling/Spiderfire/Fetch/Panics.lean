import Spiderfire.Fetch.Pipeline

namespace Spiderfire

/-- Two `unwrap`s main_fetch reaches on inputs a server or a script chooses: a redirect whose
single `Location` value is not UTF-8 panics in http_redirect_fetch, and a `file:` URL with a
host other than `localhost` panics in scheme_fetch. -/
theorem mainFetch_can_panic (env : Env) :
    (∀ request sent incoming value, Admissible request → request.redirect = .Follow →
      (∃ out, httpNetworkRequest env.version request = .ok out ∧
        out.cache ≠ .OnlyIfCached ∧ env.send sent out = some incoming) →
      300 ≤ incoming.status ∧ incoming.status ≤ 399 →
      incoming.headers.getAll HeaderName.location = [value] → fromUtf8 value = none →
      (mainFetch env request 0 sent).1 = .error .locationUtf8) ∧
    (∀ request sent, request.mode ≠ .SameOrigin → request.url.scheme = "file" →
      request.url.toFilePath = none → mainFetch env request 0 sent = (.error .filePath, sent)) := by
  constructor
  · intro request sent incoming value gate follow answered redirection location undecodable
    obtain ⟨out, normalised, cached, answer⟩ := answered
    have unlisted : request.url.scheme ∉ schemes := by
      rcases gate.scheme with web | web <;> simp [web, schemes]
    have unblocked : ¬(request.mode = .NoCors ∧ request.redirect ≠ .Follow) := by simp [follow]
    have notProxy : ¬(incoming.status = 407 ∧ request.clientWindow = false) := by omega
    have notMisdirected :
        ¬(incoming.status = 421 ∧ false = false ∧ request.body.isNotStream = true) := by omega
    rw [mainFetch]
    dsimp only
    rw [if_neg gate.mode, if_neg unlisted, if_pos gate.scheme, if_neg (by simp [gate.port]),
      if_neg unblocked, FetchM.bind_apply, httpFetch, FetchM.bind_apply, httpNetworkFetch_apply,
      normalised]
    dsimp only
    rw [if_neg cached, answer]
    dsimp only
    rw [if_neg notProxy, if_neg notMisdirected]
    dsimp only [Response.new]
    rw [if_pos redirection, follow]
    dsimp only
    rw [FetchM.bind_apply, httpRedirectFetch]
    simp [location, sizeHintUpper, orPanic, bind, Except.bind, undecodable, FetchM.bind,
      FetchM.lift]
  · intro request sent crossOrigin file remote
    rw [mainFetch]
    simp [crossOrigin, file, schemes, schemeFetch, remote, orPanic, bind, Except.bind,
      FetchM.lift]

def exampleUrl : Url where
  serialization := "http://example.com/"
  scheme := "http"
  username := ""
  password := none
  host := some "example.com"
  port := none
  path := "/"
  fragment := none
  serialization_printable := by decide
  host_printable _ member := by cases member; decide
  port_lt _ := nofun
  http_host _ := rfl

def remoteFileUrl : Url where
  serialization := "file://example.com/notes"
  scheme := "file"
  username := ""
  password := none
  host := some "example.com"
  port := none
  path := "/notes"
  fragment := none
  serialization_printable := by decide
  host_printable _ member := by cases member; decide
  port_lt _ := nofun
  http_host := nofun

def plainRequest (url : Url) : Request :=
  ⟨.GET, url, HeaderMap.empty, .None, .Cors, .SameOrigin, .Default, .Follow, .Client, .None,
    false, []⟩

/-- The server's answer in the failing run: a 302 whose `Location` is the single byte 0xFF. -/
def undecodableRedirect : IncomingResponse :=
  ⟨302, none, HeaderMap.ofList [(HeaderName.location, [0xFF])], []⟩

def undecodableRedirectEnv : Env :=
  ⟨fun _ _ => some undecodableRedirect, fun _ => none, fun _ _ => none, "0.1.0"⟩

theorem undecodable_location_panics :
    (Admissible (plainRequest exampleUrl) ∧ (plainRequest exampleUrl).redirect = .Follow ∧
      (∃ out, httpNetworkRequest undecodableRedirectEnv.version (plainRequest exampleUrl) = .ok out ∧
        out.cache ≠ .OnlyIfCached ∧ undecodableRedirectEnv.send [] out = some undecodableRedirect) ∧
      (300 ≤ undecodableRedirect.status ∧ undecodableRedirect.status ≤ 399) ∧
      undecodableRedirect.headers.getAll HeaderName.location = [[0xFF]] ∧ fromUtf8 [0xFF] = none) ∧
    (mainFetch undecodableRedirectEnv (plainRequest exampleUrl) 0 []).1 = .error .locationUtf8 ∧
    ((plainRequest remoteFileUrl).mode ≠ .SameOrigin ∧ remoteFileUrl.scheme = "file" ∧
      remoteFileUrl.toFilePath = none) ∧
    mainFetch undecodableRedirectEnv (plainRequest remoteFileUrl) 0 [] = (.error .filePath, []) := by
  have gate : Admissible (plainRequest exampleUrl) := ⟨.inr rfl, rfl, nofun, nofun⟩
  have answered : ∃ out, httpNetworkRequest undecodableRedirectEnv.version (plainRequest exampleUrl) =
      .ok out ∧ out.cache ≠ .OnlyIfCached ∧ undecodableRedirectEnv.send [] out = some undecodableRedirect :=
    ⟨_, rfl, by decide, rfl⟩
  have facts := mainFetch_can_panic undecodableRedirectEnv
  exact ⟨⟨gate, rfl, answered, by decide, by decide, by decide⟩,
    facts.1 _ [] undecodableRedirect [0xFF] gate rfl answered (by decide) (by decide) (by decide),
    ⟨nofun, rfl, by decide⟩, facts.2 _ [] nofun rfl (by decide)⟩

end Spiderfire

import Spiderfire.Fetch.Filtering
import Spiderfire.Fetch.Ranges
import Spiderfire.File.Base64

namespace Spiderfire

theorem entries_foldl_remove (names : List HeaderName) (m : HeaderMap) :
    (names.foldl removeAllHeaderEntries m).entries = m.entries.filter fun entry => entry.1 ∉ names := by
  induction names generalizing m with
  | nil => simp
  | cons name rest ih =>
    simp only [List.foldl_cons, ih, removeAllHeaderEntries, List.filter_filter, List.mem_cons, not_or]
    congr 1
    funext entry
    simp [Bool.and_comm]

section Redirected

variable (request : Request) (status : Option Nat) (location : Url) (policy : Option ReferrerPolicy)

theorem redirectedRequest_method :
    (redirectedRequest request status location policy).method = (redirectDowngrade request status).method := by
  cases policy <;> rfl

theorem redirectedRequest_body :
    (redirectedRequest request status location policy).body = (redirectDowngrade request status).body := by
  cases policy <;> rfl

theorem redirectedRequest_headers :
    (redirectedRequest request status location policy).headers =
      (redirectDowngrade request status).headers := by
  cases policy <;> rfl

/-- The request http_redirect_fetch hands back to main_fetch keeps the method, the body and the
headers of the request it follows, except that a POST redirected by 301 or 302, and every request
redirected by 303, GET and HEAD included, becomes a GET without body and without the four content
headers. Every other header entry keeps its values and its place. -/
theorem redirectedRequest_downgrade :
    if ((status = some 301 ∨ status = some 302) ∧ request.method = .POST) ∨ status = some 303 then
      (redirectedRequest request status location policy).method = .GET ∧
        (redirectedRequest request status location policy).body = .None ∧
        (redirectedRequest request status location policy).headers.entries =
          request.headers.entries.filter fun entry => entry.1 ∉ downgradeHeaders
    else
      (redirectedRequest request status location policy).method = request.method ∧
        (redirectedRequest request status location policy).body = request.body ∧
        (redirectedRequest request status location policy).headers = request.headers := by
  have either : request.method ≠ .GET ∨ request.method ≠ .HEAD := by
    by_cases get : request.method = .GET
    · exact .inr (by rw [get]; decide)
    · exact .inl get
  simp only [redirectedRequest_method, redirectedRequest_body, redirectedRequest_headers,
    redirectDowngrade]
  by_cases seeOther : status = some 303
  · simp [seeOther, either, entries_foldl_remove]
  · by_cases moved : (status = some 301 ∨ status = some 302) ∧ request.method = .POST
    · simp [moved, entries_foldl_remove]
    · simp [moved, seeOther]

end Redirected

section Values

end Values

namespace HeaderMap

@[simp] theorem containsKey_append (m : HeaderMap) (name : HeaderName) (value : HeaderValue)
    (k : HeaderName) : (m.append name value).containsKey k = (m.containsKey k || name == k) := by
  have keys : ∀ m : HeaderMap, m.containsKey k = true ↔ k ∈ m.keys := fun m => by
    simp only [containsKey, keys, List.any_eq_true, decide_eq_true_eq, List.mem_map]
  apply Bool.eq_iff_iff.mpr
  rw [keys, HeaderMap.keys, append, appendEntries_names, Bool.or_eq_true, keys, beq_iff_eq]
  split
  · exact ⟨.inl, fun h => h.elim id (· ▸ ‹_›)⟩
  · simp [HeaderMap.keys, eq_comm]

/-- `HeaderMap::iter`: each name with each of its values, name by name, in the order the client
writes them. -/
def iter (m : HeaderMap) : List (HeaderName × HeaderValue) :=
  m.entries.flatMap fun entry => entry.2.map (entry.1, ·)

end HeaderMap

section Normalisation

end Normalisation

end Spiderfire

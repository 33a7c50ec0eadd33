import Mathlib.Algebra.Group.Nat.Basic
import Spiderfire.Fetch.Network
import Spiderfire.File.Reader

namespace Spiderfire

/-- The panics of scheme.rs's ranged reads, by call site. -/
inductive SchemePanic where
  /-- `checked_add(1).expect("out of range")` in `Bytes::slice`. -/
  | sliceOutOfRange
  /-- `Bytes::slice`: "range start must not be greater than end". -/
  | sliceStartAfterEnd
  /-- `Bytes::slice`: "range end out of bounds". -/
  | sliceEndOutOfBounds
  /-- `len - 1` on an empty body, with overflow checks on. -/
  | subtractOverflow
  /-- The `unreachable!()` arm of get_ranged_bytes. -/
  | unreachable
  /-- `ArrayVec::push` on a full vector. -/
  | capacityExceeded
  deriving DecidableEq, Repr

/-- `ArrayVec<T, N>`: a vector of at most `N` items. -/
structure ArrayVec (α : Type) (N : Nat) where
  items : List α
  length_le : items.length ≤ N

namespace ArrayVec

variable {α : Type} {N : Nat}

def new : ArrayVec α N := ⟨[], Nat.zero_le N⟩

/-- `ArrayVec::push`, which panics on a full vector. -/
def push (v : ArrayVec α N) (item : α) : Except SchemePanic (ArrayVec α N) :=
  if room : v.items.length < N then
    .ok ⟨v.items ++ [item], by rw [List.length_append, List.length_singleton]; exact room⟩
  else .error .capacityExceeded

theorem push_eq_ok {v : ArrayVec α N} {item : α} (room : v.items.length < N) :
    ∃ pushed : ArrayVec α N, v.push item = .ok pushed ∧ pushed.items = v.items ++ [item] :=
  ⟨_, dif_pos room, rfl⟩

theorem push_items {v pushed : ArrayVec α N} {item : α} (push : v.push item = .ok pushed) :
    pushed.items = v.items ++ [item] := by
  unfold ArrayVec.push at push
  split at push
  · cases push; rfl
  · cases push

end ArrayVec

/-- `std::ops::Bound` over byte offsets. -/
inductive Bound where
  | Included (n : Nat)
  | Excluded (n : Nat)
  | Unbounded
  deriving DecidableEq, Repr

/-- `u64::from_str`: an optional `+`, then one or more decimal digits, below 2^64. -/
def parseU64 (s : List Char) : Option Nat :=
  let digits := match s with
    | '+' :: rest => rest
    | _ => s
  if !digits.isEmpty && digits.all Char.isDigit then
    let n := digits.foldl (fun n c => 10 * n + (c.toNat - '0'.toNat)) 0
    if n < 2 ^ 64 then some n else none
  else none

/-- The headers crate's `parse_bound`: no text is `Unbounded`, otherwise a `u64`. -/
def parseBound (s : List Char) : Option Bound :=
  if s.isEmpty then some .Unbounded else (parseU64 s).map .Included

/-- `str::trim` on header text, whose only whitespace is space and tab. -/
def trimWhitespace (s : List Char) : List Char :=
  ((s.dropWhile Char.isWhitespace).reverse.dropWhile Char.isWhitespace).reverse

/-- `splitn(2, '-')`: the text before the first `-`, and the text after it, if there is one. -/
def splitnDash (s : List Char) : List Char × Option (List Char) :=
  match s.span (· != '-') with
  | (first, _ :: rest) => (first, some rest)
  | (first, []) => (first, none)

/-- The closure `Range::satisfiable_ranges` maps over the comma-separated specs: both bounds
must parse; a suffix `-n` is the last `n` bytes, or no range if `n` exceeds the length; every
other pair is returned as parsed, unchecked against the length. -/
def satisfiableRange (len : Nat) (spec : List Char) : Option (Bound × Bound) :=
  let (first, second) := splitnDash (trimWhitespace spec)
  (parseBound first).bind fun start =>
    (second.bind parseBound).bind fun stop =>
      match start, stop with
      | .Unbounded, .Included stop =>
        if len < stop then none else some (.Included (len - stop), .Unbounded)
      | start, stop => some (start, stop)

/-- `Range::satisfiable_ranges`: the specs after `bytes=`, those the closure keeps. -/
def satisfiableRanges (value : List Char) (len : Nat) : List (Bound × Bound) :=
  ((value.drop 6).splitOn ',').filterMap (satisfiableRange len)

/-- `HeaderValue::to_str`: the text of a value whose bytes are all visible ASCII or tab. -/
def HeaderValue.toStr (value : HeaderValue) : Option String :=
  if value.all fun b => (32 ≤ b && b < 127) || b == 9 then some ⟨value.map fun b => Char.ofNat b.toNat⟩
  else none

/-- `typed_try_get::<Range>()`: `Ok(None)` without a `Range` value, otherwise `Range::decode` of
the first value, which must be text starting `bytes=`. -/
def typedTryGetRange (headers : HeaderMap) : Except Unit (Option String) :=
  match headers.getAll HeaderName.range with
  | [] => .ok none
  | value :: _ =>
    match value.toStr with
    | some text => if "bytes=".data.isPrefixOf text.data then .ok (some text) else .error ()
    | none => .error ()

/-- `Bytes::slice`: the offsets the bounds name, checked against each other and the length. -/
def bytesSlice (bytes : List UInt8) (start stop : Bound) : Except SchemePanic (List UInt8) := do
  let low ← match start with
    | .Included n => pure n
    | .Excluded n => if n + 1 < 2 ^ 64 then pure (n + 1) else throw .sliceOutOfRange
    | .Unbounded => pure 0
  let high ← match stop with
    | .Included n => if n + 1 < 2 ^ 64 then pure (n + 1) else throw .sliceOutOfRange
    | .Excluded n => pure n
    | .Unbounded => pure bytes.length
  if low ≤ high then
    if high ≤ bytes.length then pure ((bytes.drop low).take (high - low))
    else throw .sliceEndOutOfBounds
  else throw .sliceStartAfterEnd

/-- The `(start, end)` get_ranged_bytes prints: an open end is `len - 1`. -/
def printedBounds (len : Nat) : Bound × Bound → Except SchemePanic (Nat × Nat)
  | (.Included s, .Included e) => pure (s, e)
  | (.Included s, .Unbounded) => if len = 0 then throw .subtractOverflow else pure (s, len - 1)
  | _ => throw .unreachable

/-- The `Content-Range` text get_ranged_bytes writes, `format!("{start}-{end}/{len}")`. -/
def contentRangeText (first last len : Nat) : String :=
  toString first ++ "-" ++ toString last ++ "/" ++ toString len

theorem digitChar_mem_digits : ∀ d < 10, Nat.digitChar d ∈ "0123456789".data := by decide

theorem mem_toDigitsCore {fuel n : Nat} {ds : List Char} {c : Char}
    (member : c ∈ Nat.toDigitsCore 10 fuel n ds) : c ∈ ds ∨ c ∈ "0123456789".data := by
  induction fuel generalizing n ds with
  | zero => exact .inl member
  | succ fuel ih =>
    have unfolded : c ∈ if n / 10 = 0 then Nat.digitChar (n % 10) :: ds
        else Nat.toDigitsCore 10 fuel (n / 10) (Nat.digitChar (n % 10) :: ds) := member
    have step : c ∈ Nat.digitChar (n % 10) :: ds ∨ c ∈ "0123456789".data := by
      split at unfolded
      · exact .inl unfolded
      · exact ih unfolded
    rcases step with here | digit
    · rcases List.mem_cons.mp here with rfl | rest
      · exact .inr (digitChar_mem_digits _ (Nat.mod_lt n (by decide)))
      · exact .inl rest
    · exact .inr digit

theorem mem_toString_digits {n : Nat} {c : Char} (member : c ∈ (toString n).data) :
    c ∈ "0123456789".data :=
  (@mem_toDigitsCore (n + 1) n [] c member).resolve_left (List.not_mem_nil c)

theorem mem_contentRangeText {first last len : Nat} {c : Char}
    (member : c ∈ (contentRangeText first last len).data) : c ∈ "0123456789-/".data := by
  have digit : ∀ n, c ∈ (toString n).data → c ∈ "0123456789-/".data := fun n inN =>
    List.mem_append_left "-/".data (mem_toString_digits inN)
  simp only [contentRangeText, String.data_append, List.mem_append] at member
  rcases member with (((inFirst | dash) | inLast) | slash) | inLen
  · exact digit first inFirst
  · obtain rfl := List.mem_singleton.mp dash; decide
  · exact digit last inLast
  · obtain rfl := List.mem_singleton.mp slash; decide
  · exact digit len inLen

theorem validByte_of_mem_contentRangeChars :
    ∀ c ∈ "0123456789-/".data, (String.utf8EncodeChar c).all HeaderValue.validByte := by decide

/-- The `Content-Range` text is always a valid header value, so get_ranged_bytes' `Err` arm after
`HeaderValue::from_str` is never taken. -/
theorem fromStr_contentRangeText (first last len : Nat) :
    HeaderValue.fromStr (contentRangeText first last len) =
      some (utf8Bytes (contentRangeText first last len)) :=
  if_pos (List.all_eq_true.mpr fun byte member => by
    obtain ⟨c, inText, inChar⟩ := List.mem_flatMap.mp member
    exact List.all_eq_true.mp (validByte_of_mem_contentRangeChars c (mem_contentRangeText inText))
      byte inChar)

/-- What get_ranged_bytes hands back: its result (the status and `range_requested`, or the
network error returned through `Err`), with the body and the header buffer as it leaves them. -/
structure RangedBytes (N : Nat) where
  result : Except Response (Nat × Bool)
  bytes : List UInt8
  responseHeaders : ArrayVec (HeaderName × HeaderValue) N

/-- `get_ranged_bytes`: without a `Range` header 200 and the body as it is; with one, the body
cut to the first satisfiable range, one `Content-Range` header and 206; a network error when the
header does not decode or no range is satisfiable. -/
def getRangedBytes {N : Nat} (headers : HeaderMap) (bytes : List UInt8)
    (responseHeaders : ArrayVec (HeaderName × HeaderValue) N) : Except SchemePanic (RangedBytes N) :=
  match typedTryGetRange headers with
  | .ok (some range) =>
    match (satisfiableRanges range.data bytes.length).head? with
    | some bounds => do
      let sliced ← bytesSlice bytes bounds.1 bounds.2
      let (first, last) ← printedBounds bytes.length bounds
      match HeaderValue.fromStr (contentRangeText first last bytes.length) with
      | some range => do
        let responseHeaders ← responseHeaders.push (HeaderName.contentRange, range)
        pure ⟨.ok (206, true), sliced, responseHeaders⟩
      | none => pure ⟨.error networkError, sliced, responseHeaders⟩
    | none => pure ⟨.error networkError, bytes, responseHeaders⟩
  | .ok none => pure ⟨.ok (200, false), bytes, responseHeaders⟩
  | .error _ => pure ⟨.error networkError, bytes, responseHeaders⟩

/-- The end file_fetch and blob_fetch share after get_ranged_bytes: its error response, or a
`Content-Length` of the body pushed and the response built from the buffer. -/
def rangedResponse {N : Nat} (ranged : RangedBytes N) (url : Url) : Except SchemePanic Response :=
  match ranged.result with
  | .error response => pure response
  | .ok (status, rangeRequested) => do
    let responseHeaders ← ranged.responseHeaders.push
      (HeaderName.contentLength, utf8Bytes (toString ranged.bytes.length))
    pure { Response.newFromBytes ranged.bytes url (HeaderMap.ofList responseHeaders.items) with
      status := some status, rangeRequested }

/-- `file_fetch`: GET only; the file's bytes through get_ranged_bytes with room for two
headers. -/
def fileFetch (env : Env) (request : Request) (url : Url) : Except SchemePanic Response :=
  if request.method ≠ .GET then pure networkError
  else
    match url.toFilePath with
    | none => pure networkError
    | some path =>
      match env.read path with
      | none => pure networkError
      | some bytes => do
        let ranged ← getRangedBytes request.headers bytes (ArrayVec.new : ArrayVec _ 2)
        rangedResponse ranged url

/-- `blob_fetch`: GET only; the blob the URL's UUID names in the blob store (`blobs` is
`parse_uuid_from_url_path` and the store lookup), its type as the first of three headers,
then its bytes through get_ranged_bytes. -/
def blobFetch (blobs : Url → Option Blob) (request : Request) (url : Url) :
    Except SchemePanic Response :=
  if request.method ≠ .GET then pure networkError
  else
    match blobs url with
    | none => pure networkError
    | some blob =>
      match HeaderValue.fromStr (blob.kind.getD "") with
      | none => pure networkError
      | some kind => do
        let responseHeaders ← (ArrayVec.new : ArrayVec _ 3).push (HeaderName.contentType, kind)
        let ranged ← getRangedBytes request.headers blob.bytes responseHeaders
        rangedResponse ranged url

theorem bytesSlice_ne_capacityExceeded (bytes : List UInt8) (start stop : Bound) :
    bytesSlice bytes start stop ≠ .error .capacityExceeded := by
  cases start <;> cases stop <;>
    simp [bytesSlice, bind, Except.bind, pure, Except.pure, throw, throwThe, MonadExceptOf.throw] <;>
    split_ifs <;> simp

theorem printedBounds_ne_capacityExceeded (len : Nat) (bounds : Bound × Bound) :
    printedBounds len bounds ≠ .error .capacityExceeded := by
  obtain ⟨start, stop⟩ := bounds
  cases start <;> cases stop <;> simp [printedBounds, pure, Except.pure, throw, throwThe,
    MonadExceptOf.throw]
  split_ifs <;> simp

/-- A pair of bounds get_ranged_bytes slices and prints without a panic: an included start, and
an included end below the length and at least the start less one, or an open end on a body that
is not empty. -/
def rangeFits (len : Nat) : Bound × Bound → Bool
  | (.Included s, .Included e) => s ≤ e + 1 && e < len
  | (.Included s, .Unbounded) => s ≤ len && 0 < len
  | _ => false

theorem slice_print_ok_iff {bytes : List UInt8} (small : bytes.length < 2 ^ 64) (bounds : Bound × Bound) :
    (∃ sliced printed, bytesSlice bytes bounds.1 bounds.2 = .ok sliced ∧
      printedBounds bytes.length bounds = .ok printed) ↔ rangeFits bytes.length bounds = true := by
  obtain ⟨start, stop⟩ := bounds
  cases start <;> cases stop <;>
    simp [bytesSlice, printedBounds, rangeFits, bind, Except.bind, pure, Except.pure, throw, throwThe,
      MonadExceptOf.throw]
  all_goals split_ifs <;> simp_all [List.length_pos] <;> omega

section RangedBytes

variable {N : Nat} {headers : HeaderMap} {bytes : List UInt8}
  {buffer : ArrayVec (HeaderName × HeaderValue) N} {out : RangedBytes N}

theorem getRangedBytes_eq_ok (ranged : getRangedBytes headers bytes buffer = .ok out) :
    (typedTryGetRange headers = .ok none ∧ out.result = .ok (200, false) ∧ out.bytes = bytes ∧
        out.responseHeaders = buffer) ∨
      (out.result = .error networkError ∧ out.responseHeaders = buffer) ∨
      ∃ bounds first last, bytesSlice bytes bounds.1 bounds.2 = .ok out.bytes ∧
        printedBounds bytes.length bounds = .ok (first, last) ∧ out.result = .ok (206, true) ∧
        out.responseHeaders.items = buffer.items ++
          [(HeaderName.contentRange, utf8Bytes (contentRangeText first last bytes.length))] := by
  unfold getRangedBytes at ranged
  split at ranged
  · split at ranged
    · rename_i bounds _
      obtain ⟨sliced, slice, ranged⟩ := Except.bind_eq_ok ranged
      obtain ⟨⟨first, last⟩, print, ranged⟩ := Except.bind_eq_ok ranged
      simp only [fromStr_contentRangeText] at ranged
      obtain ⟨pushed, push, ranged⟩ := Except.bind_eq_ok ranged
      cases ranged
      exact .inr (.inr ⟨bounds, first, last, slice, print, rfl, ArrayVec.push_items push⟩)
    · cases ranged
      exact .inr (.inl ⟨rfl, rfl⟩)
  · cases ranged
    exact .inl ⟨‹_›, rfl, rfl, rfl⟩
  · cases ranged
    exact .inr (.inl ⟨rfl, rfl⟩)

theorem getRangedBytes_ne_capacityExceeded (room : buffer.items.length < N) :
    getRangedBytes headers bytes buffer ≠ .error .capacityExceeded := by
  unfold getRangedBytes
  split
  · split
    · rename_i bounds _
      cases slice : bytesSlice bytes bounds.1 bounds.2 with
      | error p =>
        simpa [slice, bind, Except.bind] using bytesSlice_ne_capacityExceeded bytes bounds.1 bounds.2
      | ok sliced =>
        cases print : printedBounds bytes.length bounds with
        | error p =>
          simpa [slice, print, bind, Except.bind] using printedBounds_ne_capacityExceeded bytes.length bounds
        | ok printed =>
          obtain ⟨pushed, push, -⟩ := @ArrayVec.push_eq_ok _ _ buffer
            (HeaderName.contentRange, utf8Bytes (contentRangeText printed.1 printed.2 bytes.length)) room
          simp [slice, print, fromStr_contentRangeText, push, bind, Except.bind, pure, Except.pure]
    · simp [pure, Except.pure]
  · simp [pure, Except.pure]
  · simp [pure, Except.pure]

/-- With room in the buffer for its header, get_ranged_bytes panics exactly when the request has
a `Range` header whose first satisfiable range does not fit the body: the headers crate returns
ranges unchecked against the length, `Bytes::slice` asserts them (a start past the end plus one,
an end at or past the length), an open end on an empty body subtracts below zero, and `bytes=-`
reaches `unreachable!()`. -/
theorem getRangedBytes_panics_iff (room : buffer.items.length < N) (small : bytes.length < 2 ^ 64) :
    (∃ p, getRangedBytes headers bytes buffer = .error p) ↔
      ∃ range bounds, typedTryGetRange headers = .ok (some range) ∧
        (satisfiableRanges range.data bytes.length).head? = some bounds ∧
        rangeFits bytes.length bounds = false := by
  unfold getRangedBytes
  split
  · rename_i range decoded
    split
    · rename_i bounds first
      obtain ⟨start, stop⟩ := bounds
      by_cases fits : rangeFits bytes.length (start, stop) = true
      · obtain ⟨sliced, ⟨low, high⟩, slice, print⟩ := (slice_print_ok_iff small _).mpr fits
        obtain ⟨pushed, push, -⟩ := @ArrayVec.push_eq_ok _ _ buffer
          (HeaderName.contentRange, utf8Bytes (contentRangeText low high bytes.length)) room
        simp [slice, print, fromStr_contentRangeText, push, bind, Except.bind, pure, Except.pure, fits,
          decoded, first]
      · refine iff_of_true ?_ ⟨range, _, decoded, first, by simpa using fits⟩
        cases slice : bytesSlice bytes start stop with
        | error p => exact ⟨p, by simp [slice, bind, Except.bind]⟩
        | ok sliced =>
          cases print : printedBounds bytes.length (start, stop) with
          | error p => exact ⟨p, by simp [slice, print, bind, Except.bind]⟩
          | ok printed =>
            exact absurd ((slice_print_ok_iff small _).mp ⟨sliced, printed, slice, print⟩) fits
    · simp_all [pure, Except.pure]
  · simp_all [pure, Except.pure]
  · simp_all [pure, Except.pure]

theorem range_past_end_panics :
    (0 : Nat) < 2 ∧ [0, 1, 2, 3, 4, 5, 6, 7, 8, 9].length < 2 ^ 64 ∧
      ((∃ p, getRangedBytes (HeaderMap.ofList [(HeaderName.range, utf8Bytes "bytes=0-99")])
          [0, 1, 2, 3, 4, 5, 6, 7, 8, 9] (ArrayVec.new : ArrayVec _ 2) = .error p) ↔
        ∃ range bounds, typedTryGetRange (HeaderMap.ofList [(HeaderName.range, utf8Bytes "bytes=0-99")]) =
            .ok (some range) ∧
          (satisfiableRanges range.data 10).head? = some bounds ∧ rangeFits 10 bounds = false) ∧
      getRangedBytes (HeaderMap.ofList [(HeaderName.range, utf8Bytes "bytes=0-99")])
        [0, 1, 2, 3, 4, 5, 6, 7, 8, 9] (ArrayVec.new : ArrayVec _ 2) = .error .sliceEndOutOfBounds :=
  ⟨by decide, by decide, getRangedBytes_panics_iff (by decide) (by decide), rfl⟩

theorem getRangedBytes_headers (ranged : getRangedBytes headers bytes buffer = .ok out) :
    out.responseHeaders.items = buffer.items ∨
      ∃ value, out.responseHeaders.items = buffer.items ++ [(HeaderName.contentRange, value)] := by
  rcases getRangedBytes_eq_ok ranged with ⟨-, -, -, same⟩ | ⟨-, same⟩ | ⟨_, _, _, -, -, -, added⟩
  · exact .inl (congrArg ArrayVec.items same)
  · exact .inl (congrArg ArrayVec.items same)
  · exact .inr ⟨_, added⟩

theorem getRangedBytes_error_response (ranged : getRangedBytes headers bytes buffer = .ok out)
    {response : Response} (failed : out.result = .error response) : response = networkError := by
  rcases getRangedBytes_eq_ok ranged with ⟨-, plain, -⟩ | ⟨errored, -⟩ | ⟨_, _, _, -, -, answered, -⟩
  · rw [plain] at failed; cases failed
  · rw [errored] at failed; cases failed; rfl
  · rw [answered] at failed; cases failed

end RangedBytes

section Responses

variable {N : Nat} {ranged : RangedBytes N} {url : Url} {response : Response}

/-- The response built after get_ranged_bytes carries one `Content-Length`, the length of its body,
when no header in the buffer is a `Content-Length`. -/
theorem rangedResponse_contentLength (built : rangedResponse ranged url = .ok response)
    (failed : ∀ r, ranged.result = .error r → r = networkError)
    (others : ∀ pair ∈ ranged.responseHeaders.items, pair.1 ≠ HeaderName.contentLength) :
    response = networkError ∨ ∃ body, response.body = some body ∧
      response.headers.getAll HeaderName.contentLength = [utf8Bytes (toString body.length)] := by
  unfold rangedResponse at built
  split at built
  · rename_i errored
    cases built
    exact .inl (failed _ errored)
  · obtain ⟨pushed, push, built⟩ := Except.bind_eq_ok built
    cases built
    refine .inr ⟨ranged.bytes, rfl, ?_⟩
    simp only [Response.newFromBytes, HeaderMap.getAll_ofList, ArrayVec.push_items push,
      List.filter_append, List.map_append]
    rw [List.filter_eq_nil_iff.mpr fun pair member named => others pair member (of_decide_eq_true named)]
    rfl

theorem rangedResponse_ne_capacityExceeded (room : ranged.responseHeaders.items.length < N) :
    rangedResponse ranged url ≠ .error .capacityExceeded := by
  unfold rangedResponse
  split
  · simp [pure, Except.pure]
  · obtain ⟨pushed, push, -⟩ := @ArrayVec.push_eq_ok _ _ ranged.responseHeaders
      (HeaderName.contentLength, utf8Bytes (toString ranged.bytes.length)) room
    simp [push, bind, Except.bind, pure, Except.pure]

end Responses

/-- get_ranged_bytes and the response built on its result, from a buffer with room for both
their headers and without a `Content-Length`: the buffer never overflows, and a response carries
one `Content-Length`, the length of the (possibly ranged) body. -/
theorem rangedFetch_buffer {N : Nat} (headers : HeaderMap) (bytes : List UInt8)
    (buffer : ArrayVec (HeaderName × HeaderValue) N) (url : Url) (room : buffer.items.length + 2 ≤ N)
    (others : ∀ pair ∈ buffer.items, pair.1 ≠ HeaderName.contentLength) :
    (getRangedBytes headers bytes buffer >>= fun ranged => rangedResponse ranged url) ≠
        .error .capacityExceeded ∧
      ∀ response, (getRangedBytes headers bytes buffer >>= fun ranged => rangedResponse ranged url) =
        .ok response → response = networkError ∨ ∃ body, response.body = some body ∧
          response.headers.getAll HeaderName.contentLength = [utf8Bytes (toString body.length)] := by
  cases ranging : getRangedBytes headers bytes buffer with
  | error p =>
    refine ⟨?_, fun response fetched => by simp [bind, Except.bind] at fetched⟩
    simpa [ranging, bind, Except.bind] using
      @getRangedBytes_ne_capacityExceeded N headers bytes buffer (by omega)
  | ok ranged =>
    have added := getRangedBytes_headers ranging
    refine ⟨?_, fun response fetched => ?_⟩
    · refine rangedResponse_ne_capacityExceeded ?_
      rcases added with same | ⟨_, same⟩ <;> simp only [same, List.length_append, List.length_singleton] <;> omega
    · refine rangedResponse_contentLength fetched (fun _ => getRangedBytes_error_response ranging) ?_
      intro pair member
      rcases added with same | ⟨_, same⟩ <;> rw [same] at member
      · exact others pair member
      · rcases List.mem_append.mp member with old | added
        · exact others pair old
        · rw [List.mem_singleton.mp added]
          show HeaderName.contentRange ≠ HeaderName.contentLength
          decide

/-- file_fetch's buffer of two never overflows, and a response it builds carries one
`Content-Length`, the length of the (possibly ranged) body. -/
theorem fileFetch_buffer (env : Env) (request : Request) (url : Url) :
    fileFetch env request url ≠ .error .capacityExceeded ∧ ∀ response,
      fileFetch env request url = .ok response → response = networkError ∨ ∃ body,
        response.body = some body ∧
        response.headers.getAll HeaderName.contentLength = [utf8Bytes (toString body.length)] := by
  unfold fileFetch
  split
  · simp [pure, Except.pure]
  split
  · simp [pure, Except.pure]
  split
  · simp [pure, Except.pure]
  exact rangedFetch_buffer _ _ _ url (by decide) nofun

/-- blob_fetch's buffer of three never overflows, and a response it builds carries one
`Content-Length`, the length of the (possibly ranged) body. -/
theorem blobFetch_buffer (blobs : Url → Option Blob) (request : Request) (url : Url) :
    blobFetch blobs request url ≠ .error .capacityExceeded ∧ ∀ response,
      blobFetch blobs request url = .ok response → response = networkError ∨ ∃ body,
        response.body = some body ∧
        response.headers.getAll HeaderName.contentLength = [utf8Bytes (toString body.length)] := by
  unfold blobFetch
  split
  · simp [pure, Except.pure]
  split
  · simp [pure, Except.pure]
  split
  · simp [pure, Except.pure]
  rename_i kind _
  obtain ⟨typed, push, items⟩ := @ArrayVec.push_eq_ok _ 3 ArrayVec.new
    (HeaderName.contentType, kind) (by decide)
  simp only [ArrayVec.new, List.nil_append] at items
  simp only [push, bind, Except.bind]
  exact rangedFetch_buffer _ _ typed url (by simp [items])
    (by simp [items, HeaderName.contentType, HeaderName.contentLength])

/-- Every call of get_ranged_bytes that returns gives 200 with the body and the buffer as they
were when there is no `Range` header; a network error with the buffer as it was; or 206 with one
header added, `Content-Range` with the text `first-last/len`, without the `bytes ` unit. So
file_fetch's buffer of two and blob_fetch's of three never overflow, and a response they build
carries one `Content-Length`, the length of the (possibly ranged) body. -/
theorem getRangedBytes_returns {N : Nat} {headers : HeaderMap} {bytes : List UInt8}
    {buffer : ArrayVec (HeaderName × HeaderValue) N} {out : RangedBytes N}
    (ranged : getRangedBytes headers bytes buffer = .ok out) :
    ((typedTryGetRange headers = .ok none ∧ out.result = .ok (200, false) ∧ out.bytes = bytes ∧
        out.responseHeaders = buffer) ∨
      (out.result = .error networkError ∧ out.responseHeaders = buffer) ∨
      (out.result = .ok (206, true) ∧ ∃ first last : Nat, out.responseHeaders.items = buffer.items ++
        [(HeaderName.contentRange,
          utf8Bytes (toString first ++ "-" ++ toString last ++ "/" ++ toString bytes.length))])) ∧
    (∀ env request url, fileFetch env request url ≠ .error .capacityExceeded ∧ ∀ response,
      fileFetch env request url = .ok response → response = networkError ∨ ∃ body,
        response.body = some body ∧
        response.headers.getAll HeaderName.contentLength = [utf8Bytes (toString body.length)]) ∧
    (∀ blobs request url, blobFetch blobs request url ≠ .error .capacityExceeded ∧ ∀ response,
      blobFetch blobs request url = .ok response → response = networkError ∨ ∃ body,
        response.body = some body ∧
        response.headers.getAll HeaderName.contentLength = [utf8Bytes (toString body.length)]) := by
  refine ⟨?_, fileFetch_buffer, blobFetch_buffer⟩
  rcases getRangedBytes_eq_ok ranged with plain | failed | ⟨-, first, last, -, -, answered, added⟩
  · exact .inl plain
  · exact .inr (.inl failed)
  · exact .inr (.inr ⟨answered, first, last, added⟩)

def firstFiveRange : HeaderMap := HeaderMap.ofList [(HeaderName.range, utf8Bytes "bytes=0-4")]

def tenBytes : List UInt8 := [0, 1, 2, 3, 4, 5, 6, 7, 8, 9]

/-- What get_ranged_bytes makes of the spec's example: 206, the first five bytes, and the
`Content-Range` text `0-4/10` where the spec has `bytes 0-4/10`. -/
def firstFiveOfTen : RangedBytes 2 :=
  ⟨.ok (206, true), [0, 1, 2, 3, 4], ⟨[(HeaderName.contentRange, utf8Bytes "0-4/10")], by decide⟩⟩

theorem first_five_of_ten_bytes :
    getRangedBytes firstFiveRange tenBytes (ArrayVec.new : ArrayVec _ 2) = .ok firstFiveOfTen ∧
    ((typedTryGetRange firstFiveRange = .ok none ∧ firstFiveOfTen.result = .ok (200, false) ∧
        firstFiveOfTen.bytes = tenBytes ∧ firstFiveOfTen.responseHeaders = ArrayVec.new) ∨
      (firstFiveOfTen.result = .error networkError ∧ firstFiveOfTen.responseHeaders = ArrayVec.new) ∨
      (firstFiveOfTen.result = .ok (206, true) ∧ ∃ first last : Nat,
        firstFiveOfTen.responseHeaders.items = (ArrayVec.new : ArrayVec _ 2).items ++
          [(HeaderName.contentRange,
            utf8Bytes (toString first ++ "-" ++ toString last ++ "/" ++ toString tenBytes.length))])) :=
  have ranged : getRangedBytes firstFiveRange tenBytes (ArrayVec.new : ArrayVec _ 2) =
      .ok firstFiveOfTen := rfl
  ⟨ranged, (getRangedBytes_returns ranged).1⟩

end Spiderfire

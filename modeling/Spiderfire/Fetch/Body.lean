import Spiderfire.Fetch.Network
import Spiderfire.Fetch.DataUrl
import Spiderfire.File.FileReader

namespace Spiderfire

/-- `FetchBodyKind`: what a body was made from. -/
inductive FetchBodyKind where
  | String
  | Blob (mime : String)
  | URLSearchParams
  deriving DecidableEq, Repr

/-- `FetchBodyKind`'s `Display`: the Content-Type of such a body. -/
instance : ToString FetchBodyKind where
  toString
    | .String => "text/plain;charset=UTF-8"
    | .Blob mime => mime
    | .URLSearchParams => "application/x-www-form-urlencoded;charset=UTF-8"

namespace FormUrlencoded

/-- `byte_serialized_unchanged`: `*`, `-`, `.`, `_` and the ASCII letters and digits. -/
def byteSerializedUnchanged (b : UInt8) : Bool :=
  b == 42 || b == 45 || b == 46 || (48 ≤ b && b ≤ 57) || (65 ≤ b && b ≤ 90) || b == 95 ||
    (97 ≤ b && b ≤ 122)

/-- `byte_serialize`, its pieces put together: a byte left unchanged, a space as `+`, any other
byte percent-encoded. -/
def byteSerialize : List UInt8 → List UInt8
  | [] => []
  | b :: rest =>
    if byteSerializedUnchanged b then b :: byteSerialize rest
    else if b = 32 then 43 :: byteSerialize rest
    else DataUrl.percentEncodeByte b ++ byteSerialize rest

/-- `append_pair` on the target of a `Serializer` started at position 0: `&` when the target has
grown, then the name, `=` and the value, each `byte_serialize`d. -/
def appendPair (target : List UInt8) (pair : List UInt8 × List UInt8) : List UInt8 :=
  (if target.length > 0 then target ++ [38] else target) ++
    byteSerialize pair.1 ++ 61 :: byteSerialize pair.2

/-- `Serializer::new(String::new()).extend_pairs(pairs).finish()`, on the UTF-8 bytes of the
names and values. -/
def serialize (pairs : List (List UInt8 × List UInt8)) : List UInt8 :=
  pairs.foldl appendPair []

/-- `splitn(2, |&b| b == sep)`: the bytes before the first `sep`, and those after it if there is
one. -/
def splitFirst (sep : UInt8) : List UInt8 → List UInt8 × Option (List UInt8)
  | [] => ([], none)
  | b :: rest =>
    if b = sep then ([], some rest)
    else ((b :: (splitFirst sep rest).1), (splitFirst sep rest).2)

/-- `replace_plus`: each `+` a space. -/
def replacePlus (bytes : List UInt8) : List UInt8 := bytes.map fun b => if b = 43 then 32 else b

/-- The percent_encoding crate's `percent_decode`: `%` and two hexadecimal digits is the byte
they spell; a `%` without them stays. -/
def percentDecode : List UInt8 → List UInt8
  | [] => []
  | b :: rest =>
    if b = 37 then
      match rest with
      | h :: l :: after =>
        match fromHex h, fromHex l with
        | some high, some low => (high * 16 + low) :: percentDecode after
        | _, _ => b :: percentDecode (h :: l :: after)
      | tail => b :: percentDecode tail
    else b :: percentDecode rest

/-- `decode`, up to its `decode_utf8_lossy`: `+` as a space, then percent-decoded. -/
def decode (bytes : List UInt8) : List UInt8 := percentDecode (replacePlus bytes)

theorem length_splitFirst_rest (sep : UInt8) :
    ∀ (b : UInt8) (rest : List UInt8),
      ((splitFirst sep (b :: rest)).2.getD []).length < (b :: rest).length
  | b, [] => by simp only [splitFirst]; split <;> simp
  | b, c :: rest => by
    have shorter := length_splitFirst_rest sep c rest
    simp only [splitFirst] at shorter ⊢
    split
    · simp
    · simp only [List.length_cons] at shorter ⊢
      omega

/-- `form_urlencoded::parse`: the input split at each `&`, empty sequences skipped, each sequence
split at its first `=` (a missing value is empty), and both sides decoded. -/
def parse : List UInt8 → List (List UInt8 × List UInt8)
  | [] => []
  | b :: rest =>
    if (splitFirst 38 (b :: rest)).1.isEmpty then parse ((splitFirst 38 (b :: rest)).2.getD [])
    else
      (decode (splitFirst 61 (splitFirst 38 (b :: rest)).1).1,
        decode ((splitFirst 61 (splitFirst 38 (b :: rest)).1).2.getD [])) ::
        parse ((splitFirst 38 (b :: rest)).2.getD [])
termination_by input => input.length
decreasing_by
  all_goals exact length_splitFirst_rest 38 b rest

/-- The digit `percent_encode` writes for a nibble: `0`-`9`, then `A`-`F`. -/
def hexDigit (n : UInt8) : UInt8 := if n < 10 then 48 + n else 55 + n

theorem percentEncodeByte_eq (b : UInt8) :
    DataUrl.percentEncodeByte b = [37, hexDigit (b / 16), hexDigit (b % 16)] := rfl

/-- A nibble is one of sixteen, so what `fromHex` makes of its digit, and that the digit is no
separator and no `+`, is decided once. -/
theorem hexDigit_facts {n : UInt8} (small : n < 16) :
    fromHex (hexDigit n) = some n ∧ hexDigit n ≠ 38 ∧ hexDigit n ≠ 61 ∧ hexDigit n ≠ 43 := by
  have back : UInt8.ofNat n.toNat = n := UInt8.toNat.inj (UInt8.toNat_ofNat_of_lt n.toNat_lt_size)
  have digits := (by decide : ∀ k < 16, fromHex (hexDigit (UInt8.ofNat k)) = some (UInt8.ofNat k) ∧
    hexDigit (UInt8.ofNat k) ≠ 38 ∧ hexDigit (UInt8.ofNat k) ≠ 61 ∧ hexDigit (UInt8.ofNat k) ≠ 43)
    n.toNat small
  rwa [back] at digits

theorem div_mod_sixteen (b : UInt8) : b / 16 < 16 ∧ b % 16 < 16 ∧ b / 16 * 16 + b % 16 = b := by
  have bound := b.toNat_lt_size
  refine ⟨?_, ?_, UInt8.toNat.inj ?_⟩
  · show b.toNat / 16 < 16
    simp only [UInt8.size] at bound; omega
  · show b.toNat % 16 < 16
    omega
  · show ((b.toNat / 16 * 16 % 256) + b.toNat % 16) % 256 = b.toNat
    simp only [UInt8.size] at bound; omega

theorem percentDecode_percentEncodeByte (b : UInt8) (rest : List UInt8) :
    percentDecode (DataUrl.percentEncodeByte b ++ rest) = b :: percentDecode rest := by
  obtain ⟨high, low, whole⟩ := div_mod_sixteen b
  rw [percentEncodeByte_eq]
  simp only [List.cons_append, List.nil_append, percentDecode, if_true,
    (hexDigit_facts high).1, (hexDigit_facts low).1, whole]
  rfl

theorem replacePlus_percentEncodeByte (b : UInt8) :
    replacePlus (DataUrl.percentEncodeByte b) = DataUrl.percentEncodeByte b := by
  obtain ⟨high, low, _⟩ := div_mod_sixteen b
  rw [percentEncodeByte_eq]
  simp [replacePlus, (hexDigit_facts high).2.2.2, (hexDigit_facts low).2.2.2]

theorem percentDecode_cons_of_ne {b : UInt8} (notPercent : b ≠ 37) (rest : List UInt8) :
    percentDecode (b :: rest) = b :: percentDecode rest := by
  conv_lhs => unfold percentDecode
  rw [if_neg notPercent]

theorem replacePlus_cons (b : UInt8) (rest : List UInt8) :
    replacePlus (b :: rest) = (if b = 43 then 32 else b) :: replacePlus rest := rfl

theorem decode_byteSerialize : ∀ bytes : List UInt8, decode (byteSerialize bytes) = bytes
  | [] => rfl
  | b :: rest => by
    have ih := decode_byteSerialize rest
    simp only [decode] at ih ⊢
    by_cases unchanged : byteSerializedUnchanged b
    · have notPlus : b ≠ 43 := by rintro rfl; exact absurd unchanged (by decide)
      have notPercent : b ≠ 37 := by rintro rfl; exact absurd unchanged (by decide)
      rw [byteSerialize, if_pos unchanged, replacePlus_cons, if_neg notPlus,
        percentDecode_cons_of_ne notPercent, ih]
    · by_cases space : b = 32
      · subst space
        rw [byteSerialize, if_neg unchanged, if_pos rfl, replacePlus_cons, if_pos rfl,
          percentDecode_cons_of_ne (by decide), ih]
      · rw [byteSerialize, if_neg unchanged, if_neg space, replacePlus, List.map_append,
          ← replacePlus, ← replacePlus, replacePlus_percentEncodeByte,
          percentDecode_percentEncodeByte, ih]

theorem hexDigit_ne_separator {n : UInt8} (small : n < 16) {sep : UInt8} (separator : sep = 38 ∨ sep = 61) :
    sep ≠ hexDigit n := by
  rcases separator with rfl | rfl
  exacts [(hexDigit_facts small).2.1.symm, (hexDigit_facts small).2.2.1.symm]

theorem not_mem_byteSerialize {sep : UInt8} (separator : sep = 38 ∨ sep = 61) :
    ∀ bytes, sep ∉ byteSerialize bytes
  | [] => List.not_mem_nil _
  | b :: rest => by
    have later := not_mem_byteSerialize separator rest
    have kept : byteSerializedUnchanged sep = false := by rcases separator with rfl | rfl <;> rfl
    have notPlus : sep ≠ 43 := by rcases separator with rfl | rfl <;> decide
    have notPercent : sep ≠ 37 := by rcases separator with rfl | rfl <;> decide
    rw [byteSerialize]
    split
    next unchanged =>
      refine List.not_mem_cons_of_ne_of_not_mem (fun same => ?_) later
      rw [same, unchanged] at kept
      cases kept
    next =>
      split
      next => exact List.not_mem_cons_of_ne_of_not_mem notPlus later
      next =>
        obtain ⟨high, low, _⟩ := div_mod_sixteen b
        rw [percentEncodeByte_eq, List.cons_append, List.cons_append, List.cons_append, List.nil_append]
        exact List.not_mem_cons_of_ne_of_not_mem notPercent <|
          List.not_mem_cons_of_ne_of_not_mem (hexDigit_ne_separator high separator) <|
          List.not_mem_cons_of_ne_of_not_mem (hexDigit_ne_separator low separator) later

theorem splitFirst_append_of_not_mem {sep : UInt8} :
    ∀ {front : List UInt8}, sep ∉ front → ∀ rest : List UInt8,
      splitFirst sep (front ++ rest) = (front ++ (splitFirst sep rest).1, (splitFirst sep rest).2)
  | [], _, _ => rfl
  | b :: front, absent, rest => by
    have other : b ≠ sep := fun same => absent (same ▸ List.mem_cons_self _ _)
    rw [List.cons_append, splitFirst, if_neg other,
      splitFirst_append_of_not_mem (fun inFront => absent (List.mem_cons_of_mem _ inFront)) rest]
    rfl

/-- One pair as the serializer writes it: name, `=`, value. -/
def encodePair (pair : List UInt8 × List UInt8) : List UInt8 :=
  byteSerialize pair.1 ++ 61 :: byteSerialize pair.2

theorem appendPair_length_pos (target : List UInt8) (pair : List UInt8 × List UInt8) :
    0 < (appendPair target pair).length := by
  simp only [appendPair, List.length_append, List.length_cons]
  omega

theorem foldl_appendPair : ∀ (pairs : List (List UInt8 × List UInt8)) {target : List UInt8},
    0 < target.length → pairs.foldl appendPair target = target ++ pairs.flatMap (38 :: encodePair ·)
  | [], _, _ => by simp
  | pair :: pairs, target, grown => by
    rw [List.foldl_cons, foldl_appendPair pairs (appendPair_length_pos _ _), appendPair, if_pos grown]
    simp [encodePair]

theorem serialize_cons (pair : List UInt8 × List UInt8) (pairs : List (List UInt8 × List UInt8)) :
    serialize (pair :: pairs) = encodePair pair ++ pairs.flatMap (38 :: encodePair ·) := by
  rw [serialize, List.foldl_cons, foldl_appendPair pairs (appendPair_length_pos _ _)]
  simp [appendPair, encodePair]

theorem parse_encodePair (pair : List UInt8 × List UInt8) {rest : List UInt8}
    (boundary : (splitFirst 38 rest).1 = []) :
    parse (encodePair pair ++ rest) = pair :: parse ((splitFirst 38 rest).2.getD []) := by
  obtain ⟨c, e, nonempty⟩ : ∃ c e, encodePair pair = c :: e := List.exists_cons_of_ne_nil (by simp [encodePair])
  have sequence : splitFirst 38 (encodePair pair ++ rest) = (encodePair pair, (splitFirst 38 rest).2) := by
    rw [splitFirst_append_of_not_mem ?_ rest, boundary, List.append_nil]
    simp only [encodePair, List.mem_append, List.mem_cons, not_or]
    exact ⟨not_mem_byteSerialize (.inl rfl) _, by decide, not_mem_byteSerialize (.inl rfl) _⟩
  have pairSplit : splitFirst 61 (encodePair pair) = (byteSerialize pair.1, some (byteSerialize pair.2)) := by
    rw [encodePair, splitFirst_append_of_not_mem (not_mem_byteSerialize (.inr rfl) _)]
    simp [splitFirst]
  rw [nonempty, List.cons_append, parse, ← List.cons_append, ← nonempty, sequence, nonempty]
  simp only [List.isEmpty_cons, Bool.false_eq_true, if_false]
  rw [← nonempty, pairSplit]
  simp [decode_byteSerialize]

theorem parse_encodePairs (pair : List UInt8 × List UInt8) (pairs : List (List UInt8 × List UInt8)) :
    parse (encodePair pair ++ pairs.flatMap (38 :: encodePair ·)) = pair :: pairs := by
  induction pairs generalizing pair with
  | nil => rw [List.flatMap_nil, @parse_encodePair pair [] rfl, splitFirst, Option.getD_none, parse]
  | cons next others ih =>
    have joined : splitFirst 38 (38 :: encodePair next ++ others.flatMap (38 :: encodePair ·)) =
        ([], some (encodePair next ++ others.flatMap (38 :: encodePair ·))) := by
      rw [List.cons_append, splitFirst, if_pos rfl]
    rw [List.flatMap_cons, parse_encodePair pair (by rw [joined]), joined, Option.getD_some, ih]

/-- The form_urlencoded round trip: `parse` reads back every list of name and value pairs that
the `Serializer` writes, in order, whatever bytes the names and values hold. -/
theorem parse_serialize : ∀ pairs : List (List UInt8 × List UInt8), parse (serialize pairs) = pairs
  | [] => by rw [serialize, List.foldl_nil, parse]
  | pair :: pairs => by rw [serialize_cons, parse_encodePairs]

example : serialize [(utf8Bytes "a b", utf8Bytes "x&y"), (utf8Bytes "n", [])] =
    utf8Bytes "a+b=x%26y&n=" := by decide

end FormUrlencoded

/-- A script value as `FetchBody::from_value` tries it in turn: a string, a `BufferSource` (its
bytes), a `Blob`, a `URLSearchParams` (its name and value pairs), or any other value. -/
inductive BodyInit where
  | string (s : String)
  | bufferSource (bytes : List UInt8)
  | blob (blob : Blob)
  | urlSearchParams (pairs : List (String × String))
  | other

/-- The error `FetchBody::from_value` returns for any other value. -/
def expectedValidBody : ScriptError := ⟨"Expected Valid Body", .Type⟩

/-- `FetchBody::from_value`: the body's bytes and kind. -/
def FetchBody.fromValue : BodyInit → Except ScriptError (FetchBody × Option FetchBodyKind)
  | .string s => .ok (.Bytes (utf8Bytes s), some .String)
  | .bufferSource bytes => .ok (.Bytes bytes, none)
  | .blob blob => .ok (.Bytes blob.bytes, blob.kind.map .Blob)
  | .urlSearchParams pairs =>
    .ok (.Bytes (FormUrlencoded.serialize (pairs.map fun pair => (utf8Bytes pair.1, utf8Bytes pair.2))),
      some .URLSearchParams)
  | .other => .error expectedValidBody

/-- `FetchBody::add_content_type_header`: where the body has a kind and the headers no
Content-Type, the kind's text is appended as one; `HeaderValue::from_str(..).unwrap()` panics
where that text is not a valid header value. -/
def addContentTypeHeader (kind : Option FetchBodyKind) (headers : HeaderMap) :
    Except Panic HeaderMap :=
  match kind with
  | none => .ok headers
  | some kind =>
    if headers.containsKey HeaderName.contentType then .ok headers
    else do
      let value ← orPanic (HeaderValue.fromStr (toString kind)) .headerValue
      pure (headers.append HeaderName.contentType value)

theorem HeaderMap.getAll_eq_nil {m : HeaderMap} {n : HeaderName} (absent : m.containsKey n = false) :
    m.getAll n = [] := by
  simp only [HeaderMap.containsKey, List.any_eq_false, decide_eq_true_eq] at absent
  rw [HeaderMap.getAll, List.filter_eq_nil_iff.mpr fun entry member => by simpa using absent entry member]
  rfl

/-- What `add_content_type_header` leaves under each name: where the body has a kind and the
headers no Content-Type, the kind's text is the one Content-Type value; everything else is kept. -/
theorem getAll_addContentTypeHeader {kind : Option FetchBodyKind} {headers result : HeaderMap}
    (added : addContentTypeHeader kind headers = .ok result) (n : HeaderName) :
    result.getAll n =
      if n = HeaderName.contentType ∧ headers.containsKey HeaderName.contentType = false then
        (kind.map fun k => utf8Bytes (toString k)).toList
      else headers.getAll n := by
  cases kind with
  | none =>
    cases added
    split
    next unset => exact HeaderMap.getAll_eq_nil (unset.1 ▸ unset.2)
    next => rfl
  | some kind =>
    by_cases present : headers.containsKey HeaderName.contentType
    · simp only [addContentTypeHeader, present, if_true, Except.ok.injEq] at added
      simp [← added, present]
    · simp only [addContentTypeHeader, present, Bool.false_eq_true, if_false] at added
      obtain ⟨value, fromText, added⟩ := Except.bind_eq_ok added
      cases added
      have valueIs : value = utf8Bytes (toString kind) := by
        simp only [orPanic, HeaderValue.fromStr] at fromText
        split at fromText <;> simp_all
      rw [HeaderMap.getAll_append]
      by_cases named : n = HeaderName.contentType
      · simp [named, present, HeaderMap.getAll_eq_nil (Bool.eq_false_iff.mpr present), valueIs]
      · simp [named]

theorem form_body_content_type :
    addContentTypeHeader (some .URLSearchParams) HeaderMap.empty =
        .ok (HeaderMap.empty.append HeaderName.contentType (utf8Bytes (toString FetchBodyKind.URLSearchParams))) ∧
      (HeaderMap.empty.append HeaderName.contentType (utf8Bytes (toString FetchBodyKind.URLSearchParams))).getAll
        HeaderName.contentType = [utf8Bytes "application/x-www-form-urlencoded;charset=UTF-8"] :=
  ⟨rfl, (@getAll_addContentTypeHeader (some .URLSearchParams) HeaderMap.empty
    (HeaderMap.empty.append HeaderName.contentType (utf8Bytes (toString FetchBodyKind.URLSearchParams)))
    rfl HeaderName.contentType).trans (by decide)⟩

end Spiderfire

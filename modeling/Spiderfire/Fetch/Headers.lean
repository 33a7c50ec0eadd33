import Mathlib.Data.List.Nodup

namespace Spiderfire

/-- A header name as the http crate stores it: lower-case ASCII. -/
abbrev HeaderName := String

/-- A header value: the bytes the http crate keeps, which may include obs-text `0x80..=0xFF`. -/
abbrev HeaderValue := List UInt8

/-- `str::as_bytes`: the UTF-8 encoding of a string. -/
def utf8Bytes (s : String) : List UInt8 := s.data.flatMap String.utf8EncodeChar

def continuation (b : UInt8) : Bool := 0x80 ≤ b && b ≤ 0xBF

/-- The characters of a UTF-8 byte string as `str::from_utf8` checks it: no overlong forms, no
surrogates, nothing above U+10FFFF, no truncated sequence. -/
def decodeUtf8 : List UInt8 → Option (List Char)
  | [] => some []
  | b :: rest =>
    if b < 0x80 then (Char.ofNat b.toNat :: ·) <$> decodeUtf8 rest
    else if 0xC2 ≤ b && b ≤ 0xDF then
      match rest with
      | c :: rest =>
        if continuation c then (Char.ofNat (b.toNat % 32 * 64 + c.toNat % 64) :: ·) <$> decodeUtf8 rest
        else none
      | [] => none
    else if 0xE0 ≤ b && b ≤ 0xEF then
      match rest with
      | c₁ :: c₂ :: rest =>
        let low : UInt8 := if b = 0xE0 then 0xA0 else 0x80
        let high : UInt8 := if b = 0xED then 0x9F else 0xBF
        if low ≤ c₁ && c₁ ≤ high && continuation c₂ then
          (Char.ofNat (b.toNat % 16 * 4096 + c₁.toNat % 64 * 64 + c₂.toNat % 64) :: ·) <$> decodeUtf8 rest
        else none
      | _ => none
    else if 0xF0 ≤ b && b ≤ 0xF4 then
      match rest with
      | c₁ :: c₂ :: c₃ :: rest =>
        let low : UInt8 := if b = 0xF0 then 0x90 else 0x80
        let high : UInt8 := if b = 0xF4 then 0x8F else 0xBF
        if low ≤ c₁ && c₁ ≤ high && continuation c₂ && continuation c₃ then
          (Char.ofNat (b.toNat % 8 * 262144 + c₁.toNat % 64 * 4096 + c₂.toNat % 64 * 64 +
            c₃.toNat % 64) :: ·) <$> decodeUtf8 rest
        else none
      | _ => none
    else none

/-- `str::from_utf8`. -/
def fromUtf8 (bytes : List UInt8) : Option String := String.mk <$> decodeUtf8 bytes

namespace HeaderValue

/-- The http crate's `is_valid` for one byte of a header value. -/
def validByte (b : UInt8) : Bool := (32 ≤ b && b != 127) || b == 9

/-- `HeaderValue::from_str`: the string's bytes, if each is valid in a header value. -/
def fromStr (s : String) : Option HeaderValue :=
  if (utf8Bytes s).all validByte then some (utf8Bytes s) else none

end HeaderValue

/-- The upper bound of `ValueIter::size_hint` over a name's values: exact for none or one
value, `None` for more. -/
def sizeHintUpper : List HeaderValue → Option Nat
  | [] => some 0
  | [_] => some 1
  | _ :: _ :: _ => none

/-- The http crate's `HeaderMap`: one entry a name, in the order names were first added, each
holding its values in the order they were appended. -/
structure HeaderMap where
  entries : List (HeaderName × List HeaderValue)
  names_nodup : (entries.map Prod.fst).Nodup
  values_ne_nil : ∀ entry ∈ entries, entry.2 ≠ []

namespace HeaderMap

def empty : HeaderMap := ⟨[], List.nodup_nil, by simp⟩

/-- `HeaderMap::get_all`: the values of `name`, in order. -/
def getAll (m : HeaderMap) (name : HeaderName) : List HeaderValue :=
  (m.entries.filter (·.1 = name)).flatMap Prod.snd

/-- `HeaderMap::contains_key`. -/
def containsKey (m : HeaderMap) (name : HeaderName) : Bool := m.entries.any (·.1 = name)

/-- `HeaderMap::keys`: each name once. -/
def keys (m : HeaderMap) : List HeaderName := m.entries.map Prod.fst

def appendEntries (name : HeaderName) (value : HeaderValue) :
    List (HeaderName × List HeaderValue) → List (HeaderName × List HeaderValue)
  | [] => [(name, [value])]
  | entry :: rest =>
    if entry.1 = name then (entry.1, entry.2 ++ [value]) :: rest
    else entry :: appendEntries name value rest

theorem appendEntries_names (name : HeaderName) (value : HeaderValue)
    (entries : List (HeaderName × List HeaderValue)) :
    (appendEntries name value entries).map Prod.fst =
      if name ∈ entries.map Prod.fst then entries.map Prod.fst else entries.map Prod.fst ++ [name] := by
  induction entries with
  | nil => rfl
  | cons entry rest ih =>
    by_cases same : entry.1 = name
    · simp [appendEntries, same]
    · have other : name ≠ entry.1 := fun h => same h.symm
      simp only [appendEntries, same, if_false, List.map_cons, ih, List.mem_cons, other, false_or]
      split <;> rfl

theorem appendEntries_values {name : HeaderName} {value : HeaderValue}
    {entries : List (HeaderName × List HeaderValue)} (nonempty : ∀ entry ∈ entries, entry.2 ≠ []) :
    ∀ entry ∈ appendEntries name value entries, entry.2 ≠ [] := by
  induction entries with
  | nil => simp [appendEntries]
  | cons head rest ih =>
    intro entry member
    simp only [appendEntries] at member
    split at member
    · rcases List.mem_cons.mp member with rfl | tail
      · simp
      · exact nonempty entry (List.mem_cons_of_mem _ tail)
    · rcases List.mem_cons.mp member with rfl | tail
      · exact nonempty _ (List.mem_cons_self _ _)
      · exact ih (fun e inRest => nonempty e (List.mem_cons_of_mem _ inRest)) entry tail

/-- `HeaderMap::append`: `value` after the values `name` already has, or in a new last entry. -/
def append (m : HeaderMap) (name : HeaderName) (value : HeaderValue) : HeaderMap where
  entries := appendEntries name value m.entries
  names_nodup := by
    rw [appendEntries_names]
    split
    · exact m.names_nodup
    · rename_i fresh
      exact List.nodup_append.mpr ⟨m.names_nodup, List.nodup_singleton _,
        List.disjoint_singleton.mpr fresh⟩
  values_ne_nil := appendEntries_values m.values_ne_nil

/-- `HeaderMap::from_iter`: the pairs appended in order. -/
def ofList (pairs : List (HeaderName × HeaderValue)) : HeaderMap :=
  pairs.foldl (fun m pair => m.append pair.1 pair.2) empty

theorem getAll_appendEntries {name n : HeaderName} {value : HeaderValue} :
    ∀ {entries : List (HeaderName × List HeaderValue)}, (entries.map Prod.fst).Nodup →
      ((appendEntries name value entries).filter (·.1 = n)).flatMap Prod.snd =
        (entries.filter (·.1 = n)).flatMap Prod.snd ++ if n = name then [value] else []
  | [], _ => by by_cases named : n = name <;> simp [appendEntries, named, eq_comm]
  | entry :: rest, nodup => by
    obtain ⟨fresh, nodup⟩ := List.nodup_cons.mp nodup
    by_cases same : entry.1 = name
    · by_cases named : n = name
      · subst named
        have absent : rest.filter (·.1 = n) = [] := by
          simp only [List.filter_eq_nil_iff, decide_eq_true_eq]
          rintro other member rfl
          exact fresh (same ▸ List.mem_map_of_mem Prod.fst member)
        simp [appendEntries, same, absent, List.filter_cons]
      · simp [appendEntries, same, named, Ne.symm named, List.filter_cons]
    · have ih := @getAll_appendEntries name n value rest nodup
      by_cases named : entry.1 = n
      · have other : n ≠ name := named ▸ same
        simp [appendEntries, same, named, other, List.filter_cons, ih]
      · simp [appendEntries, same, named, List.filter_cons, ih]

theorem getAll_append (m : HeaderMap) (name : HeaderName) (value : HeaderValue) (n : HeaderName) :
    (m.append name value).getAll n = m.getAll n ++ if n = name then [value] else [] :=
  getAll_appendEntries m.names_nodup

theorem getAll_foldl_append (pairs : List (HeaderName × HeaderValue)) (m : HeaderMap) (n : HeaderName) :
    (pairs.foldl (fun m pair => m.append pair.1 pair.2) m).getAll n =
      m.getAll n ++ (pairs.filter (·.1 = n)).map Prod.snd := by
  induction pairs generalizing m with
  | nil => simp
  | cons pair rest ih =>
    by_cases named : pair.1 = n
    · simp [ih, getAll_append, named, List.filter_cons]
    · simp [ih, getAll_append, named, Ne.symm named, List.filter_cons]

theorem getAll_ofList (pairs : List (HeaderName × HeaderValue)) (n : HeaderName) :
    (ofList pairs).getAll n = (pairs.filter (·.1 = n)).map Prod.snd := by
  rw [ofList, getAll_foldl_append]
  rfl

end HeaderMap

/-- Modelled from the spec: `remove_all_header_entries` (header.rs, missing) removes every
value of `name` and keeps the other entries in their order. -/
def removeAllHeaderEntries (m : HeaderMap) (name : HeaderName) : HeaderMap where
  entries := m.entries.filter (·.1 ≠ name)
  names_nodup := ((List.filter_sublist _).map _).nodup m.names_nodup
  values_ne_nil entry member := m.values_ne_nil entry (List.mem_of_mem_filter member)

/-- Modelled from the spec: `FORBIDDEN_RESPONSE_HEADERS` (header.rs, missing), the
`Set-Cookie` family. -/
def forbiddenResponseHeaders : List HeaderName := ["set-cookie", "set-cookie2"]

namespace HeaderName

def accept : HeaderName := "accept"
def acceptEncoding : HeaderName := "accept-encoding"
def accessControlAllowHeaders : HeaderName := "access-control-allow-headers"
def cacheControl : HeaderName := "cache-control"
def contentEncoding : HeaderName := "content-encoding"
def contentLanguage : HeaderName := "content-language"
def contentLength : HeaderName := "content-length"
def contentLocation : HeaderName := "content-location"
def contentRange : HeaderName := "content-range"
def contentType : HeaderName := "content-type"
def host : HeaderName := "host"
def ifMatch : HeaderName := "if-match"
def ifModifiedSince : HeaderName := "if-modified-since"
def ifNoneMatch : HeaderName := "if-none-match"
def ifRange : HeaderName := "if-range"
def ifUnmodifiedSince : HeaderName := "if-unmodified-since"
def location : HeaderName := "location"
def pragma : HeaderName := "pragma"
def range : HeaderName := "range"
def referer : HeaderName := "referer"
def referrerPolicy : HeaderName := "referrer-policy"
def userAgent : HeaderName := "user-agent"

end HeaderName

end Spiderfire

import Spiderfire.File.Base64
import Spiderfire.Fetch.MainFetch

namespace Spiderfire

theorem toNat_lt_of_printable {c : Char} (printable : c ≤ '~') : c.toNat < 128 :=
  Nat.lt_of_le_of_lt (show c.val.toBitVec.toNat ≤ 126 from printable) (by decide)

theorem asciiString_map_asciiByte {s : String} (ascii : ∀ c ∈ s.data, c.toNat < 128) :
    asciiString (s.data.map asciiByte) = s := by
  rw [asciiString, List.map_map]
  conv_rhs => rw [show s = ⟨s.data.map id⟩ by rw [List.map_id]]
  congr 1
  exact List.map_congr_left fun c mem => by
    rw [Function.comp_apply, asciiByte_toNat (ascii c mem), Char.ofNat_toNat, id]

theorem asciiByte_inj {c d : Char} (ascii : c.toNat < 128) (ascii' : d.toNat < 128)
    (same : asciiByte c = asciiByte d) : c = d := by
  have := congrArg UInt8.toNat same
  rw [asciiByte_toNat ascii, asciiByte_toNat ascii'] at this
  rw [← Char.ofNat_toNat c, this, Char.ofNat_toNat]

/-- A byte of a MIME type that the data: URL code passes through unchanged: an HTTP token
byte other than `#` that is not an upper-case letter. -/
def mimeByte (b : UInt8) : Bool := httpToken b && b != 35 && !(65 ≤ b && b ≤ 90)

/-- A character of such a MIME type. -/
def MimeChar (c : Char) : Prop := c.toNat < 128 ∧ mimeByte (asciiByte c) = true

/-- What the data: URL code finds of a MIME byte. -/
@[mk_iff]
structure MimeByteFacts (b : UInt8) : Prop where
  visible : 32 < b.toNat
  below : b.toNat < 127
  notComma : b ≠ 44
  notHash : b ≠ 35
  notSlash : b ≠ 47
  notSemicolon : b ≠ 59
  notQuestion : b ≠ 63
  notNewline : newlineByte b = false
  notWhitespace : httpWhitespace b = false
  lower : asciiLower b = b
  token : httpToken b = true
  valid : HeaderValue.validByte b = true

instance : DecidablePred MimeByteFacts := fun b => decidable_of_iff _ (mimeByteFacts_iff b).symm

set_option maxRecDepth 4000 in
theorem mimeByte_facts : ∀ n < 128, mimeByte n.toUInt8 = true → MimeByteFacts n.toUInt8 := by
  decide

instance : DecidablePred MimeChar := fun _ => inferInstanceAs (Decidable (_ ∧ _))

theorem MimeChar.facts {c : Char} (mime : MimeChar c) : MimeByteFacts (asciiByte c) :=
  mimeByte_facts c.toNat mime.1 mime.2

theorem dropWhile_of_forall {p : UInt8 → Bool} {l : List UInt8} (kept : ∀ b ∈ l, p b = false) :
    l.dropWhile p = l := by
  cases l with
  | nil => rfl
  | cons b rest => exact List.dropWhile_cons_of_neg (by simp [kept b (List.mem_cons_self _ _)])

theorem trimEnds_of_forall {strip : UInt8 → Bool} {l : List UInt8} (kept : ∀ b ∈ l, strip b = false) :
    trimEnds strip l = l := by
  rw [trimEnds, dropWhile_of_forall kept,
    dropWhile_of_forall fun b mem => kept b (List.mem_reverse.1 mem), List.reverse_reverse]

theorem forall_mem_mime {P : UInt8 → Prop} {T S : List UInt8} (typeBytes : ∀ b ∈ T, P b)
    (slash : P 47) (subtypeBytes : ∀ b ∈ S, P b) : ∀ b ∈ T ++ 47 :: S, P b := by
  intro b mem
  rcases List.mem_append.1 mem with mem | mem
  · exact typeBytes b mem
  rcases List.mem_cons.1 mem with rfl | mem
  · exact slash
  · exact subtypeBytes b mem

/-- A type and a subtype of MIME bytes, joined by `/`, parse as themselves. -/
theorem Mime.parse_plain {T S : List UInt8} (typeBytes : ∀ b ∈ T, MimeByteFacts b)
    (subtypeBytes : ∀ b ∈ S, MimeByteFacts b) (namedT : T ≠ []) (namedS : S ≠ []) :
    Mime.parse (T ++ 47 :: S) = some ⟨asciiString T, asciiString S⟩ := by
  have trimmed : trimEnds httpWhitespace (T ++ 47 :: S) = T ++ 47 :: S :=
    trimEnds_of_forall (forall_mem_mime (fun b mem => (typeBytes b mem).notWhitespace) rfl
      fun b mem => (subtypeBytes b mem).notWhitespace)
  have beforeSlash : ∀ b ∈ T, (b != 47) = true := fun b mem => by
    simpa using (typeBytes b mem).notSlash
  have noSemicolon : S.takeWhile (· != 59) = S :=
    List.takeWhile_eq_self_iff.2 fun b mem => by simpa using (subtypeBytes b mem).notSemicolon
  have unspaced : S.reverse.dropWhile httpWhitespace = S.reverse :=
    dropWhile_of_forall fun b mem => (subtypeBytes b (List.mem_reverse.1 mem)).notWhitespace
  have lower {l : List UInt8} (facts : ∀ b ∈ l, MimeByteFacts b) : l.map asciiLower = l :=
    (List.map_congr_left fun b mem => (facts b mem).lower).trans (List.map_id _)
  have tokens {l : List UInt8} (facts : ∀ b ∈ l, MimeByteFacts b) : l.all httpToken = true :=
    List.all_eq_true.2 fun b mem => (facts b mem).token
  simp [Mime.parse, trimmed, List.takeWhile_append_of_pos beforeSlash,
    List.dropWhile_append_of_pos beforeSlash, noSemicolon, unspaced, lower typeBytes,
    lower subtypeBytes, tokens typeBytes, tokens subtypeBytes, namedT, namedS]

namespace DataUrl

theorem plain_byte {b : UInt8} (plain : 43 ≤ b.toNat) {m : UInt8} (below : m.toNat < 43) : b ≠ m :=
  fun same => by rw [same] at plain; omega

theorem consumeIgnoringNewlines_self {pattern : List UInt8} (rest : List UInt8)
    (plain : ∀ b ∈ pattern, newlineByte b = false ∧ asciiLower b = b) :
    consumeIgnoringNewlines pattern (pattern ++ rest) = some rest := by
  induction pattern with
  | nil => simp [consumeIgnoringNewlines]
  | cons p pattern ih =>
    obtain ⟨kept, lower⟩ := plain p (List.mem_cons_self _ _)
    simp [consumeIgnoringNewlines, kept, lower, ih fun b mem => plain b (List.mem_cons_of_mem _ mem)]

/-- The input after `data:` is kept whole when it ends in a `,` and a body of visible bytes. -/
theorem pretendParseDataUrl_data (header : List UInt8) {body : List UInt8}
    (visible : ∀ b ∈ body, 32 < b.toNat) :
    pretendParseDataUrl (utf8Bytes "data:" ++ (header ++ 44 :: body)) = some (header ++ 44 :: body) := by
  have leading : (utf8Bytes "data:" ++ (header ++ 44 :: body)).dropWhile (· ≤ 32) =
      utf8Bytes "data:" ++ (header ++ 44 :: body) := rfl
  have trailing : ((header ++ 44 :: body).reverse.dropWhile (· ≤ 32)).reverse = header ++ 44 :: body := by
    rw [List.reverse_append]
    cases last : (44 :: body).reverse with
    | nil => simp at last
    | cons b before =>
      have mem := List.mem_reverse.1 (last ▸ List.mem_cons_self _ _)
      have : 32 < b.toNat := by
        rcases List.mem_cons.1 mem with rfl | mem
        · decide
        · exact visible b mem
      rw [List.cons_append, List.dropWhile_cons_of_neg (by simp [UInt8.le_iff_toNat_le, UInt8.size]; omega),
        ← List.cons_append, ← last, ← List.reverse_append, List.reverse_reverse]
  have consumed : consumeIgnoringNewlines (utf8Bytes "data:")
      (utf8Bytes "data:" ++ (header ++ 44 :: body)) = some (header ++ 44 :: body) :=
    consumeIgnoringNewlines_self _ (by decide)
  simp only [pretendParseDataUrl, leading, consumed, Option.map_some', trailing]

theorem findCommaBeforeFragment_append {header : List UInt8} (body : List UInt8)
    (plain : ∀ b ∈ header, b ≠ 44 ∧ b ≠ 35) :
    findCommaBeforeFragment (header ++ 44 :: body) = some (header, body) := by
  induction header with
  | nil => simp [findCommaBeforeFragment]
  | cons b header ih =>
    obtain ⟨comma, hash⟩ := plain b (List.mem_cons_self _ _)
    simp [findCommaBeforeFragment, comma, hash,
      ih fun b mem => plain b (List.mem_cons_of_mem _ mem)]

theorem decodeWithoutBase64_plain {bytes : List UInt8} (plain : ∀ b ∈ bytes, 43 ≤ b.toNat) :
    decodeWithoutBase64 bytes = bytes := by
  induction bytes with
  | nil => rfl
  | cons b rest ih =>
    have ne := @plain_byte b (plain b (List.mem_cons_self _ _))
    have kept : newlineByte b = false := by
      simp [newlineByte, ne (m := 9) (by decide), ne (m := 10) (by decide), ne (m := 13) (by decide)]
    rw [decodeWithoutBase64.eq_def]
    simp only [if_neg (ne (m := 37) (by decide)), if_neg (ne (m := 35) (by decide)), kept,
      ih fun b mem => plain b (List.mem_cons_of_mem _ mem)]
    rfl

theorem parseHeader_base64 : parseHeader (utf8Bytes "base64") = (Mime.textPlain, false) := by
  decide

theorem findCommaBeforeFragment_hash {header : List UInt8} (rest : List UInt8)
    (noComma : ∀ b ∈ header, b ≠ 44) : findCommaBeforeFragment (header ++ 35 :: rest) = none := by
  induction header with
  | nil => simp [findCommaBeforeFragment]
  | cons b header ih =>
    simp [findCommaBeforeFragment, noComma b (List.mem_cons_self _ _),
      ih fun b mem => noComma b (List.mem_cons_of_mem _ mem)]

theorem encodeHeader_plain {l : List UInt8}
    (plain : ∀ b ∈ l, newlineByte b = false ∧ 32 ≤ b.toNat ∧ b.toNat < 127 ∧ b ≠ 63) :
    encodeHeader false l = l := by
  induction l with
  | nil => rfl
  | cons b rest ih =>
    obtain ⟨kept, low, high, question⟩ := plain b (List.mem_cons_self _ _)
    have printable : (b < 32 || 127 ≤ b) = false := by
      simp [← UInt8.not_le, UInt8.le_iff_toNat_le, UInt8.size]
      omega
    simp [encodeHeader, kept, printable, question, ih fun b mem => plain b (List.mem_cons_of_mem _ mem)]

theorem removeBase64Suffix_of_typed (mime : List UInt8) :
    removeBase64Suffix (mime ++ utf8Bytes ";base64") = some mime := by
  have reversed : (mime ++ utf8Bytes ";base64").reverse = utf8Bytes "46esab" ++ 59 :: mime.reverse := by
    rw [List.reverse_append]
    rfl
  have consumed : consumeIgnoringNewlines (utf8Bytes "46esab") (utf8Bytes "46esab" ++ 59 :: mime.reverse) =
      some (59 :: mime.reverse) := consumeIgnoringNewlines_self _ (by decide)
  simp [removeBase64Suffix, reversed, consumed, newlineByte]

/-- The header of a typed blob's data: URL, its type and `;base64`, is read as that type, with
the body in base64. -/
theorem parseHeader_typed {T S : List UInt8} (typeBytes : ∀ b ∈ T, MimeByteFacts b)
    (subtypeBytes : ∀ b ∈ S, MimeByteFacts b) (namedT : T ≠ []) (namedS : S ≠ []) :
    parseHeader (T ++ 47 :: S ++ utf8Bytes ";base64") = (⟨asciiString T, asciiString S⟩, true) := by
  have unspaced : ∀ b ∈ T ++ 47 :: S ++ utf8Bytes ";base64", httpWhitespace b = false := by
    intro b mem
    rcases List.mem_append.1 mem with mem | mem
    · exact forall_mem_mime (fun b mem => (typeBytes b mem).notWhitespace) rfl
        (fun b mem => (subtypeBytes b mem).notWhitespace) b mem
    · exact (by decide : ∀ b ∈ utf8Bytes ";base64", httpWhitespace b = false) b mem
  have plain : ∀ b ∈ T ++ 47 :: S, newlineByte b = false ∧ 32 ≤ b.toNat ∧ b.toNat < 127 ∧ b ≠ 63 :=
    forall_mem_mime (fun b mem => have facts := typeBytes b mem
        ⟨facts.notNewline, facts.visible.le, facts.below, facts.notQuestion⟩) (by decide)
      fun b mem => have facts := subtypeBytes b mem
        ⟨facts.notNewline, facts.visible.le, facts.below, facts.notQuestion⟩
  have first : T.head? ≠ some 59 := by
    obtain ⟨b, rest, rfl⟩ := List.exists_cons_of_ne_nil namedT
    simpa using (typeBytes b (List.mem_cons_self _ _)).notSemicolon
  rw [parseHeader, trimEnds_of_forall unspaced, removeBase64Suffix_of_typed]
  simp [first, encodeHeader_plain plain, Mime.parse_plain typeBytes subtypeBytes namedT namedS]

end DataUrl

/-- The bytes the readers write between `data:` and the comma: the type and `;base64`, or
`base64` alone. -/
def dataUrlHeader : Option String → List UInt8
  | some mime => utf8Bytes mime ++ utf8Bytes ";base64"
  | none => utf8Bytes "base64"

theorem base64Encode_visible (bytes : List UInt8) :
    ∀ b ∈ utf8Bytes ⟨base64Encode bytes⟩, 32 < b.toNat := fun b mem => by
  have := ((base64Encode_bytes bytes).2 b mem).1
  omega

theorem utf8Bytes_dataUrlOf (blob : Blob) :
    utf8Bytes (dataUrlOf blob) =
      utf8Bytes "data:" ++ (dataUrlHeader blob.kind ++ 44 :: utf8Bytes ⟨base64Encode blob.bytes⟩) := by
  obtain ⟨bytes, _ | mime⟩ := blob
  · rw [dataUrlOf, utf8Bytes_append]
    rfl
  · have suffix : utf8Bytes ";base64," = utf8Bytes ";base64" ++ [44] := rfl
    simp only [dataUrlOf, dataUrlHeader, utf8Bytes_append, suffix, List.append_assoc,
      List.singleton_append]

/-- How data_fetch reads the data: URL the readers build: the header up to the first comma or
fragment, and after the comma the base64 text. -/
theorem process_dataUrlOf (blob : Blob) :
    DataUrl.process (dataUrlOf blob) =
      (DataUrl.findCommaBeforeFragment
          (dataUrlHeader blob.kind ++ 44 :: utf8Bytes ⟨base64Encode blob.bytes⟩)).map
        fun split => ⟨(DataUrl.parseHeader split.1).1, (DataUrl.parseHeader split.1).2, split.2⟩ := by
  rw [DataUrl.process, utf8Bytes_dataUrlOf,
    DataUrl.pretendParseDataUrl_data _ (base64Encode_visible _), Option.bind_eq_bind, Option.some_bind]
  rcases DataUrl.findCommaBeforeFragment
    (dataUrlHeader blob.kind ++ 44 :: utf8Bytes ⟨base64Encode blob.bytes⟩) with _ | ⟨header, body⟩
  · simp only [Option.bind_eq_bind, Option.none_bind, Option.map_none']
  · simp only [Option.bind_eq_bind, Option.some_bind, Option.map_some']
    rfl

/-- The data: URL of a blob without a type: `base64` is read as the MIME type, which does not
parse, and the body is not marked base64. -/
theorem process_untyped (bytes : List UInt8) :
    DataUrl.process (dataUrlOf ⟨bytes, none⟩) =
      some ⟨Mime.textPlain, false, utf8Bytes ⟨base64Encode bytes⟩⟩ := by
  have header : ∀ b ∈ utf8Bytes "base64", b ≠ 44 ∧ b ≠ 35 := by decide
  simp [process_dataUrlOf, dataUrlHeader, DataUrl.findCommaBeforeFragment_append _ header,
    DataUrl.parseHeader_base64]

/-- The data: URL of a blob whose type has a `#` before any `,` has no comma before its
fragment. -/
theorem process_hash {pre : String} (post : String) (bytes : List UInt8)
    (noComma : ∀ b ∈ utf8Bytes pre, b ≠ 44) :
    DataUrl.process (dataUrlOf ⟨bytes, some (pre ++ "#" ++ post)⟩) = none := by
  have hash : utf8Bytes "#" = [35] := rfl
  simp only [process_dataUrlOf, dataUrlHeader, utf8Bytes_append, hash, List.append_assoc,
    List.singleton_append, List.cons_append, DataUrl.findCommaBeforeFragment_hash _ noComma,
    Option.map_none']

/-- The blob's bytes do not come back from the data: URL the readers make of it in two cases.
Without a type, data_fetch answers with the base64 text itself as body, under `text/plain`,
and that text is never the bytes when there are any. With a type that has a `#` before any
`,`, which the URL parser takes for the start of the fragment, data_fetch finds no comma and
answers with a network error. -/
theorem dataFetch_dataUrlOf_mismatch (bytes : List UInt8) (url : Url) :
    (url.serialization = dataUrlOf ⟨bytes, none⟩ →
      dataFetch url = .ok (Response.newFromBytes (utf8Bytes ⟨base64Encode bytes⟩) url
        (HeaderMap.ofList [(HeaderName.contentType, utf8Bytes "text/plain")])) ∧
      (bytes ≠ [] → utf8Bytes ⟨base64Encode bytes⟩ ≠ bytes)) ∧
    (∀ pre post, ',' ∉ pre.data → url.serialization = dataUrlOf ⟨bytes, some (pre ++ "#" ++ post)⟩ →
      dataFetch url = .ok networkError) := by
  obtain ⟨ascii, plain⟩ := base64Encode_bytes bytes
  constructor
  · intro parsed
    constructor
    · have textPlain : HeaderValue.fromStr (Mime.textPlain.type_ ++ "/" ++ Mime.textPlain.subtype) =
          some (utf8Bytes "text/plain") := rfl
      have processed : DataUrl.process url.serialization =
          some ⟨Mime.textPlain, false, utf8Bytes ⟨base64Encode bytes⟩⟩ := by
        rw [parsed]
        exact process_untyped bytes
      exact dataFetch_of_decoded processed
        (by simp [DataUrl.decodeToVec, DataUrl.decodeWithoutBase64_plain fun b mem => (plain b mem).1])
        textPlain
    · intro nonempty same
      have lengths := congrArg List.length same
      rw [ascii, List.length_map, length_base64Encode] at lengths
      have := List.length_pos.2 nonempty
      omega
  · intro pre post noComma parsed
    have preAscii : ∀ c ∈ pre.data, c.toNat < 128 := by
      intro c mem
      apply toNat_lt_of_printable
      apply (printable_iff.1 url.serialization_printable c _).2
      simp [parsed, dataUrlOf, mem]
    have noCommaByte : ∀ b ∈ utf8Bytes pre, b ≠ 44 := by
      rw [show pre = ⟨pre.data⟩ from rfl, utf8Bytes_ascii preAscii]
      simp only [List.mem_map]
      rintro b ⟨c, mem, rfl⟩ comma
      exact noComma (asciiByte_inj (d := ',') (preAscii c mem) (by decide) comma ▸ mem)
    exact dataFetch_of_unprocessed (parsed ▸ process_hash post bytes noCommaByte)

def zeroByteDataUrl : Url where
  serialization := "data:base64,AA=="
  scheme := "data"
  username := ""
  password := none
  host := none
  port := none
  path := "base64,AA=="
  fragment := none
  serialization_printable := by decide
  host_printable _ := nofun
  port_lt _ := nofun
  http_host := nofun

/-- `data:text/c#;base64,AA==`, the data: URL of the blob of the single byte 0 with the type
`text/c#`; the parser reads `;base64,AA==` as its fragment. -/
def hashTypeDataUrl : Url where
  serialization := "data:text/c#;base64,AA=="
  scheme := "data"
  username := ""
  password := none
  host := none
  port := none
  path := "text/c"
  fragment := some ";base64,AA=="
  serialization_printable := by decide
  host_printable _ := nofun
  port_lt _ := nofun
  http_host := nofun

theorem zero_byte_dataUrls_mismatch :
    (zeroByteDataUrl.serialization = dataUrlOf ⟨[0], none⟩ ∧
      dataFetch zeroByteDataUrl = .ok (Response.newFromBytes (utf8Bytes "AA==") zeroByteDataUrl
        (HeaderMap.ofList [(HeaderName.contentType, utf8Bytes "text/plain")])) ∧
      utf8Bytes "AA==" ≠ [0]) ∧
    (',' ∉ "text/c".data ∧ hashTypeDataUrl.serialization = dataUrlOf ⟨[0], some ("text/c" ++ "#" ++ "")⟩ ∧
      dataFetch hashTypeDataUrl = .ok networkError) :=
  have untyped : zeroByteDataUrl.serialization = dataUrlOf ⟨[0], none⟩ := rfl
  have typed : hashTypeDataUrl.serialization = dataUrlOf ⟨[0], some ("text/c" ++ "#" ++ "")⟩ := rfl
  have noComma : ',' ∉ "text/c".data := by decide
  have undecoded := (dataFetch_dataUrlOf_mismatch [0] zeroByteDataUrl).1 untyped
  ⟨⟨untyped, undecoded.1, undecoded.2 nofun⟩, noComma, typed,
    (dataFetch_dataUrlOf_mismatch [0] hashTypeDataUrl).2 _ _ noComma typed⟩

section Typed

variable {name : String}

theorem utf8Bytes_mime (chars : ∀ c ∈ name.data, MimeChar c) :
    utf8Bytes name = name.data.map asciiByte :=
  utf8Bytes_ascii fun c mem => (chars c mem).1

theorem utf8Bytes_mime_facts (chars : ∀ c ∈ name.data, MimeChar c) :
    ∀ b ∈ utf8Bytes name, MimeByteFacts b := by
  rw [utf8Bytes_mime chars]
  simp only [List.mem_map]
  rintro b ⟨c, mem, rfl⟩
  exact (chars c mem).facts

theorem utf8Bytes_mime_ne_nil (chars : ∀ c ∈ name.data, MimeChar c) (named : name ≠ "") :
    utf8Bytes name ≠ [] := by
  rw [utf8Bytes_mime chars]
  exact fun empty => named (String.ext (List.map_eq_nil_iff.1 empty))

theorem asciiString_mime (chars : ∀ c ∈ name.data, MimeChar c) : asciiString (utf8Bytes name) = name := by
  rw [utf8Bytes_mime chars]
  exact asciiString_map_asciiByte fun c mem => (chars c mem).1

end Typed

section Typed

variable {type_ subtype : String} (typeChars : ∀ c ∈ type_.data, MimeChar c)
  (subtypeChars : ∀ c ∈ subtype.data, MimeChar c)

theorem utf8Bytes_typed : utf8Bytes (type_ ++ "/" ++ subtype) = utf8Bytes type_ ++ 47 :: utf8Bytes subtype := by
  simp only [utf8Bytes_append, List.append_assoc]
  rfl

include typeChars subtypeChars

/-- The data: URL of a blob whose type is `type/subtype` in MIME characters is read as that type,
with the base64 text as its base64 body. -/
theorem process_typed (bytes : List UInt8) (named : type_ ≠ "" ∧ subtype ≠ "") :
    DataUrl.process (dataUrlOf ⟨bytes, some (type_ ++ "/" ++ subtype)⟩) =
      some ⟨⟨type_, subtype⟩, true, utf8Bytes ⟨base64Encode bytes⟩⟩ := by
  have typeBytes := utf8Bytes_mime_facts typeChars
  have subtypeBytes := utf8Bytes_mime_facts subtypeChars
  have header : ∀ b ∈ utf8Bytes type_ ++ 47 :: utf8Bytes subtype ++ utf8Bytes ";base64",
      b ≠ 44 ∧ b ≠ 35 := by
    intro b mem
    rcases List.mem_append.1 mem with mem | mem
    · exact forall_mem_mime (P := fun b => b ≠ 44 ∧ b ≠ 35)
        (fun b mem => ⟨(typeBytes b mem).notComma, (typeBytes b mem).notHash⟩) (by decide)
        (fun b mem => ⟨(subtypeBytes b mem).notComma, (subtypeBytes b mem).notHash⟩) b mem
    · exact (by decide : ∀ b ∈ utf8Bytes ";base64", b ≠ 44 ∧ b ≠ 35) b mem
  rw [process_dataUrlOf, dataUrlHeader, utf8Bytes_typed,
    DataUrl.findCommaBeforeFragment_append _ header, Option.map_some',
    DataUrl.parseHeader_typed typeBytes subtypeBytes (utf8Bytes_mime_ne_nil typeChars named.1)
      (utf8Bytes_mime_ne_nil subtypeChars named.2), asciiString_mime typeChars,
    asciiString_mime subtypeChars]

theorem fromStr_typed :
    HeaderValue.fromStr (type_ ++ "/" ++ subtype) = some (utf8Bytes (type_ ++ "/" ++ subtype)) := by
  rw [HeaderValue.fromStr, if_pos]
  rw [utf8Bytes_typed, List.all_eq_true]
  exact forall_mem_mime (fun b mem => (utf8Bytes_mime_facts typeChars b mem).valid) rfl
    fun b mem => (utf8Bytes_mime_facts subtypeChars b mem).valid

end Typed

/-- A blob whose type is a type and a subtype of lower-case HTTP token characters other than
`#` fetches back from its data: URL: data_fetch answers with the blob's bytes, under its type. -/
theorem dataFetch_dataUrlOf_typed (bytes : List UInt8) (type_ subtype : String) (url : Url)
    (typeChars : ∀ c ∈ type_.data, MimeChar c) (subtypeChars : ∀ c ∈ subtype.data, MimeChar c)
    (named : type_ ≠ "" ∧ subtype ≠ "")
    (parsed : url.serialization = dataUrlOf ⟨bytes, some (type_ ++ "/" ++ subtype)⟩) :
    dataFetch url = .ok (Response.newFromBytes bytes url
      (HeaderMap.ofList [(HeaderName.contentType, utf8Bytes (type_ ++ "/" ++ subtype))])) := by
  obtain ⟨encoded, plain⟩ := base64Encode_bytes bytes
  have decoded : (Base64Decoder.new.feed (utf8Bytes ⟨base64Encode bytes⟩)).bind Base64Decoder.finish =
      some bytes := by
    rw [encoded]
    exact Base64Decoder.feed_base64Encode bytes rfl rfl
  have processed : DataUrl.process url.serialization =
      some ⟨⟨type_, subtype⟩, true, utf8Bytes ⟨base64Encode bytes⟩⟩ := by
    rw [parsed]
    exact process_typed typeChars subtypeChars bytes named
  exact dataFetch_of_decoded processed
    (by simp [DataUrl.decodeToVec, DataUrl.decodeWithoutBase64_plain fun b mem => (plain b mem).1, decoded])
    (fromStr_typed typeChars subtypeChars)

def textPlainDataUrl : Url where
  serialization := "data:text/plain;base64,AA=="
  scheme := "data"
  username := ""
  password := none
  host := none
  port := none
  path := "text/plain;base64,AA=="
  fragment := none
  serialization_printable := by decide
  host_printable _ := nofun
  port_lt _ := nofun
  http_host := nofun

theorem text_plain_dataUrl_fetched_back :
    (∀ c ∈ "text".data, MimeChar c) ∧ (∀ c ∈ "plain".data, MimeChar c) ∧
      ("text" ≠ "" ∧ "plain" ≠ "") ∧
      textPlainDataUrl.serialization = dataUrlOf ⟨[0], some ("text" ++ "/" ++ "plain")⟩ ∧
      dataFetch textPlainDataUrl = .ok (Response.newFromBytes [0] textPlainDataUrl
        (HeaderMap.ofList [(HeaderName.contentType, utf8Bytes ("text" ++ "/" ++ "plain"))])) :=
  have typeChars : ∀ c ∈ "text".data, MimeChar c := by decide
  have subtypeChars : ∀ c ∈ "plain".data, MimeChar c := by decide
  have named : "text" ≠ "" ∧ "plain" ≠ "" := by decide
  have parsed : textPlainDataUrl.serialization = dataUrlOf ⟨[0], some ("text" ++ "/" ++ "plain")⟩ := by
    decide
  ⟨typeChars, subtypeChars, named, parsed,
    dataFetch_dataUrlOf_typed [0] "text" "plain" textPlainDataUrl typeChars subtypeChars named parsed⟩

end Spiderfire

import Mathlib.Data.Nat.Defs
import Mathlib.Algebra.Group.Nat.Basic
import Spiderfire.Fetch.Headers

namespace Spiderfire

def newlineByte (b : UInt8) : Bool := b == 9 || b == 10 || b == 13

def httpWhitespace (b : UInt8) : Bool := b == 32 || newlineByte b

def asciiLower (b : UInt8) : UInt8 := if 65 ≤ b && b ≤ 90 then b + 32 else b

/-- An HTTP token code point: alphanumeric or one of ``!#$%&'*+-.^_`|~``. -/
def httpToken (b : UInt8) : Bool :=
  (48 ≤ b && b ≤ 57) || (65 ≤ b && b ≤ 90) || (97 ≤ b && b ≤ 122) ||
    [33, 35, 36, 37, 38, 39, 42, 43, 45, 46, 94, 95, 96, 124, 126].contains b

def fromHex (b : UInt8) : Option UInt8 :=
  if 48 ≤ b && b ≤ 57 then some (b - 48)
  else if 65 ≤ b && b ≤ 70 then some (b - 55)
  else if 97 ≤ b && b ≤ 102 then some (b - 87)
  else none

def asciiString (bytes : List UInt8) : String := ⟨bytes.map fun b => Char.ofNat b.toNat⟩

def trimEnds (strip : UInt8 → Bool) (bytes : List UInt8) : List UInt8 :=
  ((bytes.dropWhile strip).reverse.dropWhile strip).reverse

/-- The data_url crate's `Mime`, with the parts the pipeline reads. -/
structure Mime where
  type_ : String
  subtype : String
  deriving DecidableEq, Repr

/-- `mime::parse`: a token type, `/`, a token subtype up to `;`, lower-cased; the parameters,
which never make it fail, are not read. -/
def Mime.parse (bytes : List UInt8) : Option Mime :=
  let trimmed := trimEnds httpWhitespace bytes
  let type_ := trimmed.takeWhile (· != 47)
  match trimmed.dropWhile (· != 47) with
  | [] => none
  | _ :: rest =>
    let subtype := ((rest.takeWhile (· != 59)).reverse.dropWhile httpWhitespace).reverse
    if type_.all httpToken && !type_.isEmpty && subtype.all httpToken && !subtype.isEmpty then
      some ⟨asciiString (type_.map asciiLower), asciiString (subtype.map asciiLower)⟩
    else none

/-- The crate's default when the header's MIME type does not parse: `text/plain;charset=US-ASCII`. -/
def Mime.textPlain : Mime := ⟨"text", "plain"⟩

/-- The data_url crate's `DataUrl`: its MIME type, whether its body is base64, and the body
with the fragment after it. -/
structure DataUrl where
  mimeType : Mime
  base64 : Bool
  encodedBodyPlusFragment : List UInt8

namespace DataUrl

/-- `pattern`, compared ASCII case-insensitively, at the start of `input`, with tabs and newlines
skipped; what follows it. -/
def consumeIgnoringNewlines : List UInt8 → List UInt8 → Option (List UInt8)
  | [], input => some input
  | _ :: _, [] => none
  | p :: ps, b :: rest =>
    if newlineByte b then consumeIgnoringNewlines (p :: ps) rest
    else if asciiLower b = p then consumeIgnoringNewlines ps rest
    else none

/-- `pretend_parse_data_url`: the input after `data:`, with C0 controls and spaces stripped. -/
def pretendParseDataUrl (input : List UInt8) : Option (List UInt8) :=
  (consumeIgnoringNewlines (utf8Bytes "data:") (input.dropWhile (· ≤ 32))).map fun afterColon =>
    (afterColon.reverse.dropWhile (· ≤ 32)).reverse

/-- `find_comma_before_fragment`. -/
def findCommaBeforeFragment : List UInt8 → Option (List UInt8 × List UInt8)
  | [] => none
  | b :: rest =>
    if b = 44 then some ([], rest)
    else if b = 35 then none
    else (findCommaBeforeFragment rest).map fun (header, body) => (b :: header, body)

/-- `remove_base64_suffix`: what comes before `;base64` (spaces allowed before `base64`,
tabs and newlines anywhere, `base64` in any case). -/
def removeBase64Suffix (bytes : List UInt8) : Option (List UInt8) :=
  match consumeIgnoringNewlines (utf8Bytes "46esab") bytes.reverse with
  | none => none
  | some rest =>
    match rest.dropWhile fun b => b == 32 || newlineByte b with
    | 59 :: before => some before.reverse
    | _ => none

/-- `percent_encode` of one byte: `%` and two upper-case hexadecimal digits. -/
def percentEncodeByte (b : UInt8) : List UInt8 :=
  let hex (n : UInt8) : UInt8 := if n < 10 then 48 + n else 55 + n
  [37, hex (b / 16), hex (b % 16)]

/-- The loop of `parse_header` that rebuilds the MIME type string as the URL parser would have
left it: tabs and newlines dropped, controls and non-ASCII percent-encoded, and after a `?`
also space, `"`, `<` and `>`. -/
def encodeHeader : Bool → List UInt8 → List UInt8
  | _, [] => []
  | inQuery, b :: rest =>
    if newlineByte b then encodeHeader inQuery rest
    else if b < 32 || 127 ≤ b then percentEncodeByte b ++ encodeHeader inQuery rest
    else if inQuery && (b == 32 || b == 34 || b == 60 || b == 62) then
      percentEncodeByte b ++ encodeHeader inQuery rest
    else if b = 63 then 63 :: encodeHeader true rest
    else b :: encodeHeader inQuery rest

/-- `parse_header`: the MIME type (text/plain when it does not parse) and whether the body is
base64. -/
def parseHeader (fromColonToComma : List UInt8) : Mime × Bool :=
  let trimmed := trimEnds httpWhitespace fromColonToComma
  let mimeType := (removeBase64Suffix trimmed).getD trimmed
  let string := (if mimeType.head? = some 59 then utf8Bytes "text/plain" else []) ++
    encodeHeader false mimeType
  ((Mime.parse string).getD Mime.textPlain, (removeBase64Suffix trimmed).isSome)

/-- `DataUrl::process`. -/
def process (input : String) : Option DataUrl := do
  let afterColon ← pretendParseDataUrl (utf8Bytes input)
  let (fromColonToComma, encodedBodyPlusFragment) ← findCommaBeforeFragment afterColon
  let (mimeType, base64) := parseHeader fromColonToComma
  pure ⟨mimeType, base64, encodedBodyPlusFragment⟩

/-- `decode_without_base64`: the body percent-decoded up to the fragment, tabs and newlines
dropped; a `%` without two hexadecimal digits stays. -/
def decodeWithoutBase64 : List UInt8 → List UInt8
  | [] => []
  | b :: rest =>
    if b = 37 then
      match rest with
      | h :: l :: after =>
        match fromHex h, fromHex l with
        | some high, some low => (high * 16 + low) :: decodeWithoutBase64 after
        | _, _ => b :: decodeWithoutBase64 (h :: l :: after)
      | tail => b :: decodeWithoutBase64 tail
    else if b = 35 then []
    else if newlineByte b then decodeWithoutBase64 rest
    else b :: decodeWithoutBase64 rest

end DataUrl

def base64Value (b : UInt8) : Option Nat :=
  if 65 ≤ b && b ≤ 90 then some (b.toNat - 65)
  else if 97 ≤ b && b ≤ 122 then some (b.toNat - 71)
  else if 48 ≤ b && b ≤ 57 then some (b.toNat + 4)
  else if b = 43 then some 62
  else if b = 47 then some 63
  else none

/-- The state of the crate's streaming `forgiving_base64::Decoder`: its `u32` bit buffer, how
many of its bits are pending, the `=` seen, and the bytes written so far. -/
structure Base64Decoder where
  bitBuffer : Nat
  bufferBitLength : Nat
  paddingSymbols : Nat
  written : List UInt8

namespace Base64Decoder

def new : Base64Decoder := ⟨0, 0, 0, []⟩

/-- `Decoder::feed`: ASCII whitespace skipped, `=` counted, an alphabet symbol after `=` or any
other symbol an error; every fourth symbol writes three bytes. -/
def feed (d : Base64Decoder) : List UInt8 → Option Base64Decoder
  | [] => some d
  | b :: rest =>
    match base64Value b with
    | none =>
      if b == 32 || b == 9 || b == 10 || b == 13 || b == 12 then d.feed rest
      else if b = 61 then { d with paddingSymbols := min (d.paddingSymbols + 1) 255 }.feed rest
      else none
    | some value =>
      if 0 < d.paddingSymbols then none
      else
        let buffer := (d.bitBuffer * 64 + value) % 2 ^ 32
        if d.bufferBitLength < 18 then
          { d with bitBuffer := buffer, bufferBitLength := d.bufferBitLength + 6 }.feed rest
        else
          { d with bitBuffer := buffer, bufferBitLength := 0,
                   written := d.written ++ [(buffer / 2 ^ 16).toUInt8, (buffer / 2 ^ 8).toUInt8,
                     buffer.toUInt8] }.feed rest

/-- `Decoder::finish`: the bytes of a last group of two or three symbols, padded or not. -/
def finish (d : Base64Decoder) : Option (List UInt8) :=
  match d.bufferBitLength, d.paddingSymbols with
  | 0, 0 => some d.written
  | 12, 2 | 12, 0 => some (d.written ++ [(d.bitBuffer / 2 ^ 4).toUInt8])
  | 18, 1 | 18, 0 => some (d.written ++ [(d.bitBuffer / 2 ^ 10).toUInt8, (d.bitBuffer / 2 ^ 2).toUInt8])
  | _, _ => none

end Base64Decoder

/-- `DataUrl::decode_to_vec`: the body, through the base64 decoder when the header says so. -/
def DataUrl.decodeToVec (url : DataUrl) : Option (List UInt8) :=
  let bytes := DataUrl.decodeWithoutBase64 url.encodedBodyPlusFragment
  if url.base64 then (Base64Decoder.new.feed bytes).bind Base64Decoder.finish else some bytes

end Spiderfire

namespace Spiderfire

/-- An `encoding_rs` encoding, named as `Encoding::name` names it. -/
structure Encoding where
  name : String
  deriving DecidableEq, Repr

namespace Encoding

/-- `UTF_8`. -/
def utf8 : Encoding := ⟨"UTF-8"⟩

/-- `REPLACEMENT`, the encoding the ISO-2022-KR family of labels names. -/
def replacement : Encoding := ⟨"replacement"⟩

end Encoding

/-- The two crates `encoding_from_string_mime` calls, taken as given: `encoding_rs`'s label
table and the `mime` crate's parser. -/
structure EncodingCrates where
  /-- `Encoding::for_label`: the encoding a label names, if it is one of the table's labels. -/
  forLabel : String → Option Encoding
  /-- `Mime::from_str(..).ok()` and then `get_param("charset")`: `none` if the string does not
  parse as a MIME type, otherwise its `charset` parameter, if it has one. -/
  mimeCharset : String → Option (Option String)

namespace EncodingCrates

/-- `Encoding::for_label_no_replacement`: `for_label`, with `REPLACEMENT` read as no encoding. -/
def forLabelNoReplacement (crates : EncodingCrates) (label : String) : Option Encoding :=
  (crates.forLabel label).filter (· != Encoding.replacement)

end EncodingCrates

section

variable (crates : EncodingCrates)

/-- `encoding_from_string_mime`: the label's encoding; for a label that names none while the blob
has a type, the encoding of the type's `charset` parameter; UTF-8 for everything else, an absent
label included. -/
def encodingFromStringMime (encoding mime : Option String) : Encoding :=
  (encoding.bind fun e =>
    match crates.forLabelNoReplacement e, mime with
    | none, some mime =>
      (crates.mimeCharset mime).bind fun charset => crates.forLabelNoReplacement (charset.getD "")
    | e, _ => e).getD Encoding.utf8

/-- The choice as the specification words it, to compare with `encodingFromStringMime`: the label's
encoding if it names a non-replacement one, else the encoding the type's `charset` names,
else UTF-8. -/
def labelThenCharset (label mime : Option String) : Encoding :=
  ((label.bind crates.forLabelNoReplacement).orElse fun _ =>
    (mime.bind crates.mimeCharset).bind fun charset => charset.bind crates.forLabel).getD
    Encoding.utf8

theorem encodingFromStringMime_without_label (mime : Option String) :
    encodingFromStringMime crates none mime = Encoding.utf8 := rfl

/-- Where the type names a charset whose encoding is not UTF-8, leaving the label out gives
another encoding than the fallback to the type's `charset`. -/
theorem encodingFromStringMime_ignores_charset {mime charset : String} {e : Encoding}
    (typed : crates.mimeCharset mime = some (some charset)) (named : crates.forLabel charset = some e)
    (other : e ≠ Encoding.utf8) :
    encodingFromStringMime crates none (some mime) ≠ labelThenCharset crates none (some mime) := by
  rw [encodingFromStringMime_without_label]
  simpa [labelThenCharset, typed, named] using other.symm

end

/-- One blob type as the two crates read it: `text/plain;charset=windows-1252` parses with the
charset `windows-1252`, which encoding_rs names `windows-1252`. -/
def windows1252Crates : EncodingCrates where
  forLabel label := if label = "windows-1252" then some ⟨"windows-1252"⟩ else none
  mimeCharset mime :=
    if mime = "text/plain;charset=windows-1252" then some (some "windows-1252") else none

theorem windows1252_blob_read_as_utf8 :
    windows1252Crates.mimeCharset "text/plain;charset=windows-1252" = some (some "windows-1252") ∧
      windows1252Crates.forLabel "windows-1252" = some ⟨"windows-1252"⟩ ∧
      (⟨"windows-1252"⟩ : Encoding) ≠ Encoding.utf8 ∧
      encodingFromStringMime windows1252Crates none (some "text/plain;charset=windows-1252") ≠
        labelThenCharset windows1252Crates none (some "text/plain;charset=windows-1252") :=
  have typed : windows1252Crates.mimeCharset "text/plain;charset=windows-1252" =
      some (some "windows-1252") := by decide
  have named : windows1252Crates.forLabel "windows-1252" = some ⟨"windows-1252"⟩ := by decide
  have other : (⟨"windows-1252"⟩ : Encoding) ≠ Encoding.utf8 := by decide
  ⟨typed, named, other, encodingFromStringMime_ignores_charset windows1252Crates typed named other⟩

end Spiderfire

namespace Spiderfire

/-- Modelled from the spec: `Blob` (file/mod.rs, missing), with the two fields the readers
read: its bytes and its type. -/
structure Blob where
  bytes : List UInt8
  kind : Option String

/-- The base64 crate's standard alphabet. -/
def standardAlphabet : List Char :=
  "ABCDEFGHIJKLMNOPQRSTUVWXYZabcdefghijklmnopqrstuvwxyz0123456789+/".toList

def base64Symbol (n : Nat) : Char := standardAlphabet.getD n '='

/-- `BASE64_STANDARD.encode`: four symbols for every three bytes, and a last group of one or
two bytes padded with `=` to four symbols. -/
def base64Encode : List UInt8 → List Char
  | a :: b :: c :: rest =>
    let v := a.toNat * 65536 + b.toNat * 256 + c.toNat
    base64Symbol (v / 262144) :: base64Symbol (v / 4096 % 64) :: base64Symbol (v / 64 % 64) ::
      base64Symbol (v % 64) :: base64Encode rest
  | [a, b] =>
    let v := a.toNat * 65536 + b.toNat * 256
    [base64Symbol (v / 262144), base64Symbol (v / 4096 % 64), base64Symbol (v / 64 % 64), '=']
  | [a] =>
    let v := a.toNat * 65536
    [base64Symbol (v / 262144), base64Symbol (v / 4096 % 64), '=', '=']
  | [] => []

/-- The data: URL both `read_as_data_url`s build from a blob: its type, if it has one, then
`;base64,` and the base64 of its bytes; without a type, `data:base64,` and the base64. -/
def dataUrlOf (blob : Blob) : String :=
  let base64 : String := ⟨base64Encode blob.bytes⟩
  match blob.kind with
  | some mime => "data:" ++ mime ++ ";base64," ++ base64
  | none => "data:base64," ++ base64

/-- `FileReaderSync::read_as_data_url`, which returns the string. -/
def FileReaderSync.readAsDataUrl (blob : Blob) : String := dataUrlOf blob

theorem length_base64Encode (bytes : List UInt8) :
    (base64Encode bytes).length = 4 * ((bytes.length + 2) / 3) := by
  induction bytes using base64Encode.induct with
  | case1 a b c rest ih => simp only [base64Encode, List.length_cons, ih]; omega
  | case2 | case3 | case4 => simp [base64Encode]

example : base64Encode [0] = "AA==".toList := by decide

example : base64Encode [77, 97, 110, 77] = "TWFuTQ==".toList := by decide

end Spiderfire

import Mathlib.Data.List.Basic

namespace Spiderfire

/-- Printable ASCII, `' '..='~'`: all the url crate's serializer writes. -/
def printable (s : String) : Bool := s.data.all fun c => ' ' ≤ c && c ≤ '~'

def hexUpper (n : Nat) : Char := if n < 10 then Char.ofNat (48 + n) else Char.ofNat (55 + n)

/-- The url crate's percent-encoding of a character: `%XX` for each of its UTF-8 bytes. -/
def percentEncodeChar (c : Char) : List Char :=
  (String.utf8EncodeChar c).flatMap fun b => ['%', hexUpper (b.toNat / 16), hexUpper (b.toNat % 16)]

/-- The URL standard's fragment percent-encode set: C0 controls, non-ASCII, and
`` ␠"<>` ``. -/
def inFragmentSet (c : Char) : Bool :=
  c < ' ' || '~' < c || c = ' ' || c = '"' || c = '<' || c = '>' || c = '`'

/-- A fragment as `Url::set_fragment` stores it. -/
def encodeFragment (s : String) : String :=
  ⟨s.data.flatMap fun c => if inFragmentSet c then percentEncodeChar c else [c]⟩

theorem hexUpper_printable : ∀ n < 16, ' ' ≤ hexUpper n ∧ hexUpper n ≤ '~' := by decide

theorem printable_iff {s : String} : printable s = true ↔ ∀ c ∈ s.data, ' ' ≤ c ∧ c ≤ '~' := by
  simp [printable]

theorem printable_encodeFragment (s : String) : printable (encodeFragment s) = true := by
  simp only [printable_iff, encodeFragment, List.mem_flatMap]
  rintro c ⟨d, -, member⟩
  split at member
  · obtain ⟨b, -, member⟩ := List.mem_flatMap.mp member
    have low : b.toNat % 16 < 16 := Nat.mod_lt _ (by decide)
    have high : b.toNat / 16 < 16 := by have := b.toNat_lt_size; simp only [UInt8.size] at this; omega
    simp only [List.mem_cons, List.mem_singleton, List.not_mem_nil, or_false] at member
    rcases member with rfl | rfl | rfl
    · decide
    · exact hexUpper_printable _ high
    · exact hexUpper_printable _ low
  · rename_i outside
    obtain rfl := List.mem_singleton.mp member
    simp only [inFragmentSet, Bool.or_eq_true, decide_eq_true_eq, not_or] at outside
    exact ⟨Char.not_lt.mp outside.1.1.1.1.1.1, Char.not_lt.mp outside.1.1.1.1.1.2⟩

theorem printable_append {a b : String} (left : printable a = true) (right : printable b = true) :
    printable (a ++ b) = true := by
  simp only [printable_iff, String.data_append, List.mem_append] at *
  rintro c (inA | inB)
  · exact left c inA
  · exact right c inB

/-- A URL as the url crate hands it out: its serialization (`as_str`) and the components the
fetch pipeline reads. The last fields are what the crate's parser guarantees of them. -/
structure Url where
  serialization : String
  scheme : String
  username : String
  password : Option String
  host : Option String
  port : Option Nat
  path : String
  fragment : Option String
  serialization_printable : printable serialization = true
  host_printable : ∀ h ∈ host, printable h = true
  port_lt : ∀ p ∈ port, p < 65536
  http_host : scheme = "http" ∨ scheme = "https" → host.isSome = true

namespace Url

/-- `Url::set_fragment`: the serialization up to the old fragment, then the new one. -/
def setFragment (u : Url) (fragment : Option String) : Url where
  serialization := ⟨u.serialization.data.takeWhile (· ≠ '#')⟩ ++
    (fragment.map fun f => "#" ++ encodeFragment f).getD ""
  scheme := u.scheme
  username := u.username
  password := u.password
  host := u.host
  port := u.port
  path := u.path
  fragment := fragment.map encodeFragment
  serialization_printable := by
    refine printable_append ?_ ?_
    · have whole := printable_iff.mp u.serialization_printable
      exact printable_iff.mpr fun c member => whole c ((List.takeWhile_sublist _).subset member)
    · cases fragment with
      | none => rfl
      | some f => exact printable_append (by decide) (printable_encodeFragment f)
  host_printable := u.host_printable
  port_lt := u.port_lt
  http_host := u.http_host

/-- `Url::to_file_path` on Unix: the path, when the host is absent or `localhost`. -/
def toFilePath (u : Url) : Option String :=
  if u.host = none ∨ u.host = some "localhost" then some u.path else none

end Url

end Spiderfire

import Spiderfire.File.Reader
import Spiderfire.Fetch.DataUrl

namespace Spiderfire

def asciiByte (c : Char) : UInt8 := c.toNat.toUInt8

/-- A character the encoder writes: ASCII, from `+` on, and not `,`. -/
def Base64Char (c : Char) : Prop := 43 ≤ c.toNat ∧ c.toNat < 128 ∧ c.toNat ≠ 44

instance : DecidablePred Base64Char := fun _ => inferInstanceAs (Decidable (_ ∧ _ ∧ _))

theorem base64Symbol_mem (n : Nat) : base64Symbol n ∈ '=' :: standardAlphabet := by
  rw [base64Symbol, List.getD_eq_getElem?_getD]
  cases letter : standardAlphabet[n]? with
  | none => exact List.mem_cons_self _ _
  | some c => exact List.mem_cons_of_mem _ (List.getElem?_mem letter)

theorem alphabet_chars : ∀ c ∈ '=' :: standardAlphabet, Base64Char c := by decide

theorem base64Value_symbol : ∀ n < 64, base64Value (asciiByte (base64Symbol n)) = some n := by
  decide

theorem base64Encode_chars (bytes : List UInt8) : ∀ c ∈ base64Encode bytes, Base64Char c := by
  suffices ∀ c ∈ base64Encode bytes, c ∈ '=' :: standardAlphabet from
    fun c mem => alphabet_chars c (this c mem)
  induction bytes using base64Encode.induct with
  | case1 a b c rest ih =>
    simp only [base64Encode, List.forall_mem_cons]
    exact ⟨base64Symbol_mem _, base64Symbol_mem _, base64Symbol_mem _, base64Symbol_mem _, ih⟩
  | case2 a b =>
    simp only [base64Encode, List.forall_mem_cons]
    exact ⟨base64Symbol_mem _, base64Symbol_mem _, base64Symbol_mem _, List.mem_cons_self _ _, nofun⟩
  | case3 a =>
    simp only [base64Encode, List.forall_mem_cons]
    exact ⟨base64Symbol_mem _, base64Symbol_mem _, List.mem_cons_self _ _, List.mem_cons_self _ _,
      nofun⟩
  | case4 => nofun

theorem utf8Bytes_append (s t : String) : utf8Bytes (s ++ t) = utf8Bytes s ++ utf8Bytes t := by
  simp [utf8Bytes]

theorem utf8Bytes_ascii {cs : List Char} (ascii : ∀ c ∈ cs, c.toNat < 128) :
    utf8Bytes ⟨cs⟩ = cs.map asciiByte := by
  induction cs with
  | nil => rfl
  | cons c cs ih =>
    have single : String.utf8EncodeChar c = [asciiByte c] := by
      have small : c.val.toBitVec.toNat < 128 := ascii c (List.mem_cons_self _ _)
      simp only [String.utf8EncodeChar, asciiByte]
      rw [if_pos (by simp [UInt32.le_def, BitVec.le_def]; omega)]
      rfl
    simp [utf8Bytes, single] at ih ⊢
    exact ih fun c mem => ascii c (List.mem_cons_of_mem _ mem)

theorem asciiByte_toNat {c : Char} (ascii : c.toNat < 128) : (asciiByte c).toNat = c.toNat :=
  UInt8.toNat_ofNat_of_lt (by simp only [UInt8.size]; omega)

theorem base64Encode_bytes (bytes : List UInt8) :
    utf8Bytes ⟨base64Encode bytes⟩ = (base64Encode bytes).map asciiByte ∧
      ∀ b ∈ utf8Bytes ⟨base64Encode bytes⟩, 43 ≤ b.toNat ∧ b.toNat ≠ 44 := by
  have chars := base64Encode_chars bytes
  have ascii := utf8Bytes_ascii fun c mem => (chars c mem).2.1
  refine ⟨ascii, ?_⟩
  rw [ascii]
  simp only [List.mem_map]
  rintro b ⟨c, mem, rfl⟩
  obtain ⟨low, high, comma⟩ := chars c mem
  rw [asciiByte_toNat high]
  exact ⟨low, comma⟩

namespace Base64Decoder

theorem toNat_toUInt8 (x : Nat) : x.toUInt8.toNat = x % 256 := by
  simp [Nat.toUInt8, UInt8.toNat, UInt8.ofNat]

theorem toUInt8_eq {x : Nat} {a : UInt8} (low : x % 256 = a.toNat) : x.toUInt8 = a :=
  UInt8.toNat.inj (by rw [toNat_toUInt8, low])

theorem feed_pad (d : Base64Decoder) (rest : List UInt8) :
    d.feed (asciiByte '=' :: rest) = { d with paddingSymbols := min (d.paddingSymbols + 1) 255 }.feed rest :=
  rfl

section Symbols

variable {d : Base64Decoder} {n : Nat}

theorem feed_symbol_buffered (lt : n < 64) (unpadded : d.paddingSymbols = 0) (rest : List UInt8)
    (room : d.bufferBitLength < 18) :
    d.feed (asciiByte (base64Symbol n) :: rest) =
      { d with bitBuffer := (d.bitBuffer * 64 + n) % 2 ^ 32,
               bufferBitLength := d.bufferBitLength + 6 }.feed rest := by
  simp only [feed, base64Value_symbol _ lt, unpadded, Nat.lt_irrefl, if_false, room, if_true]

theorem feed_symbol_full (lt : n < 64) (unpadded : d.paddingSymbols = 0) (rest : List UInt8)
    (full : d.bufferBitLength = 18) :
    d.feed (asciiByte (base64Symbol n) :: rest) =
      { d with bitBuffer := (d.bitBuffer * 64 + n) % 2 ^ 32, bufferBitLength := 0,
               written := d.written ++ [((d.bitBuffer * 64 + n) % 2 ^ 32 / 2 ^ 16).toUInt8,
                 ((d.bitBuffer * 64 + n) % 2 ^ 32 / 2 ^ 8).toUInt8,
                 ((d.bitBuffer * 64 + n) % 2 ^ 32).toUInt8] }.feed rest := by
  simp only [feed, base64Value_symbol _ lt, unpadded, Nat.lt_irrefl, if_false, full]

end Symbols

/-- From a state between two groups, the decoder reads back every byte the encoder wrote. -/
theorem feed_base64Encode (bytes : List UInt8) {d : Base64Decoder} (aligned : d.bufferBitLength = 0)
    (unpadded : d.paddingSymbols = 0) :
    (d.feed ((base64Encode bytes).map asciiByte)).bind finish = some (d.written ++ bytes) := by
  induction bytes using base64Encode.induct generalizing d with
  | case1 a b c rest ih =>
    have := a.toNat_lt_size; have := b.toNat_lt_size; have := c.toNat_lt_size
    simp only [UInt8.size] at *
    simp only [base64Encode, List.map_cons]
    simp (disch := first | omega | simp [aligned, unpadded]) only [feed_symbol_buffered,
      feed_symbol_full]
    refine (ih ?_ ?_).trans ?_
    · rfl
    · exact unpadded
    simp only [Option.some.injEq, List.append_assoc, List.cons_append, List.nil_append,
      List.append_cancel_left_eq, List.cons.injEq, and_true]
    refine ⟨toUInt8_eq ?_, toUInt8_eq ?_, toUInt8_eq ?_⟩ <;> omega
  | case2 a b =>
    have := a.toNat_lt_size; have := b.toNat_lt_size
    simp only [UInt8.size] at *
    simp (disch := first | omega | simp [aligned, unpadded]) only [base64Encode, List.map_cons,
      List.map_nil, feed_symbol_buffered, feed_pad]
    simp only [feed, aligned, unpadded, Option.some_bind, finish, Nat.zero_add, Nat.reduceAdd,
      Nat.min_def, Nat.reduceLeDiff, ite_true, Option.some.injEq, List.append_cancel_left_eq,
      List.cons.injEq, and_true]
    refine ⟨toUInt8_eq ?_, toUInt8_eq ?_⟩ <;> omega
  | case3 a =>
    have := a.toNat_lt_size
    simp only [UInt8.size] at *
    simp (disch := first | omega | simp [aligned, unpadded]) only [base64Encode, List.map_cons,
      List.map_nil, feed_symbol_buffered, feed_pad]
    simp only [feed, aligned, unpadded, Option.some_bind, finish, Nat.zero_add, Nat.reduceAdd,
      Nat.min_def, Nat.reduceLeDiff, ite_true, Option.some.injEq, List.append_cancel_left_eq,
      List.cons.injEq, and_true]
    exact toUInt8_eq (by omega)
  | case4 => simp [base64Encode, feed, finish, aligned, unpadded]

end Base64Decoder

end Spiderfire

import Mathlib.Data.String.Basic
import Mathlib.Tactic.Ring

/-!
Owns the encoding of text as bytes, and its decoding where bytes that encode no
character are replaced: each longest start of a character that is not completed
gives one replacement character, and so does a byte no character starts with.
Decoding undoes encoding, and it does so byte by byte for ASCII: the decoded text
starts with ASCII characters exactly as far as the bytes are ASCII.
-/

namespace TradingStrands.Foundation.Utf8

/-! ### Encoding -/

def encode (chars : List Char) : List UInt8 := chars.flatMap String.utf8EncodeChar

theorem encode_cons (char : Char) (rest : List Char) :
    encode (char :: rest) = String.utf8EncodeChar char ++ encode rest := List.flatMap_cons

theorem length_encode_cons (char : Char) (rest : List Char) :
    (encode (char :: rest)).length = char.utf8Size + (encode rest).length := by
  rw [encode_cons, List.length_append, String.length_utf8EncodeChar]

theorem utf8ByteSize_eq (text : String) : text.utf8ByteSize = (encode text.toList).length := by
  have whole : (String.ofList text.toList).utf8ByteSize = (encode text.toList).length := by
    show (List.toByteArray (encode text.toList)).size = _
    exact List.size_toByteArray
  rwa [String.ofList_toList] at whole

/-- A character of one byte. -/
def IsAscii (char : Char) : Prop := char.toNat < 0x80

instance (char : Char) : Decidable (IsAscii char) := inferInstanceAs (Decidable (_ < _))

theorem utf8Size_eq_one_iff {char : Char} : char.utf8Size = 1 ↔ IsAscii char := by
  rw [Char.utf8Size_eq_one_iff, UInt32.le_iff_toNat_le]
  exact Nat.lt_succ_iff.symm

theorem length_le_length_encode (chars : List Char) : chars.length ≤ (encode chars).length := by
  induction chars with
  | nil => exact Nat.zero_le _
  | cons char rest inductionHypothesis =>
      have positive := char.utf8Size_pos
      rw [length_encode_cons, List.length_cons]
      omega

/-- A text has as many bytes as characters exactly if all of it is ASCII. -/
theorem length_encode_le_iff {chars : List Char} :
    (encode chars).length ≤ chars.length ↔ ∀ char ∈ chars, IsAscii char := by
  induction chars with
  | nil => exact iff_of_true le_rfl nofun
  | cons char rest inductionHypothesis =>
      have positive := char.utf8Size_pos
      have longer := length_le_length_encode rest
      rw [length_encode_cons, List.length_cons, List.forall_mem_cons, ← inductionHypothesis,
        ← utf8Size_eq_one_iff]
      omega

/-! ### Decoding -/

def replacement : Char := Char.ofNat 0xFFFD

/-- A character that has started: `owed` bytes are to come after the next one,
which lies between two bounds, and `code` is what the bytes so far say. Whatever
comes within the bounds, the character is a scalar value beyond ASCII. -/
structure Pending where
  owed : Nat
  low : Nat
  high : Nat
  code : Nat
  scalar : ∀ value, (code * 64 + (low - 0x80)) * 64 ^ owed ≤ value →
    value < (code * 64 + (high - 0x80) + 1) * 64 ^ owed → 0x80 ≤ value ∧ value.isValidChar

namespace Pending

/-- The value with one byte more. -/
def extend (pending : Pending) (byte : Nat) : Nat := pending.code * 64 + (byte - 0x80)

def Admits (pending : Pending) (byte : Nat) : Prop := pending.low ≤ byte ∧ byte ≤ pending.high

instance (pending : Pending) (byte : Nat) : Decidable (pending.Admits byte) :=
  inferInstanceAs (Decidable (_ ∧ _))

/-- The character with one byte more, where another is owed. -/
def more (pending : Pending) (byte owed : Nat) (admits : pending.Admits byte)
    (owes : pending.owed = owed + 1) : Pending where
  owed
  low := 0x80
  high := 0xBF
  code := pending.extend byte
  scalar value atLeast below := by
    have scalar := pending.scalar value
    rw [owes, pow_succ'] at scalar
    obtain ⟨lower, upper⟩ := admits
    have fromLow : (pending.code * 64 + (pending.low - 0x80)) * (64 * 64 ^ owed) ≤
        (pending.extend byte * 64 + (0x80 - 0x80)) * 64 ^ owed := by
      unfold extend
      rw [← mul_assoc]
      exact Nat.mul_le_mul_right _ (by omega)
    have toHigh : (pending.extend byte * 64 + (0xBF - 0x80) + 1) * 64 ^ owed ≤
        (pending.code * 64 + (pending.high - 0x80) + 1) * (64 * 64 ^ owed) := by
      unfold extend
      rw [← mul_assoc]
      exact Nat.mul_le_mul_right _ (by omega)
    exact scalar (fromLow.trans atLeast) (below.trans_le toHigh)

theorem scalar_extend {pending : Pending} {byte : Nat} (admits : pending.Admits byte)
    (last : pending.owed = 0) :
    0x80 ≤ pending.extend byte ∧ (pending.extend byte).isValidChar := by
  have scalar := pending.scalar (pending.extend byte)
  obtain ⟨lower, upper⟩ := admits
  rw [last, pow_zero, mul_one, mul_one] at scalar
  unfold extend at scalar ⊢
  exact scalar (by omega) (by omega)

/-- The character after one byte more, or what is still to come. -/
def take (pending : Pending) (byte : Nat) (admits : pending.Admits byte) :
    List Char × Option Pending :=
  match owes : pending.owed with
  | 0 => ([Char.ofNat (pending.extend byte)], none)
  | owed + 1 => ([], some (pending.more byte owed admits owes))

/-! What is to come after the first byte of a longer character. -/

def two (byte : Nat) (lead : 0xC2 ≤ byte ∧ byte ≤ 0xDF) : Pending where
  owed := 0
  low := 0x80
  high := 0xBF
  code := byte - 0xC0
  scalar := by
    unfold Nat.isValidChar
    omega

def three (byte : Nat) (lead : 0xE0 ≤ byte ∧ byte ≤ 0xEF) : Pending where
  owed := 1
  low := if byte = 0xE0 then 0xA0 else 0x80
  high := if byte = 0xED then 0x9F else 0xBF
  code := byte - 0xE0
  scalar := by
    unfold Nat.isValidChar
    split_ifs <;> omega

def four (byte : Nat) (lead : 0xF0 ≤ byte ∧ byte ≤ 0xF4) : Pending where
  owed := 2
  low := if byte = 0xF0 then 0x90 else 0x80
  high := if byte = 0xF4 then 0x8F else 0xBF
  code := byte - 0xF0
  scalar := by
    unfold Nat.isValidChar
    split_ifs <;> omega

end Pending

/-- A byte between characters. -/
def start (byte : Nat) : List Char × Option Pending :=
  if byte < 0x80 then ([Char.ofNat byte], none)
  else if lead : 0xC2 ≤ byte ∧ byte ≤ 0xDF then ([], some (Pending.two byte lead))
  else if lead : 0xE0 ≤ byte ∧ byte ≤ 0xEF then ([], some (Pending.three byte lead))
  else if lead : 0xF0 ≤ byte ∧ byte ≤ 0xF4 then ([], some (Pending.four byte lead))
  else ([replacement], none)

/-- One byte: the characters it settles, and what is still to come. A byte that
does not go on is looked at again. -/
def step : Option Pending → UInt8 → List Char × Option Pending
  | none, byte => start byte.toNat
  | some pending, byte =>
      if admits : pending.Admits byte.toNat then pending.take byte.toNat admits
      else (replacement :: (start byte.toNat).1, (start byte.toNat).2)

def decodeFrom : Option Pending → List UInt8 → List Char
  | none, [] => []
  | some _, [] => [replacement]
  | pending, byte :: rest => (step pending byte).1 ++ decodeFrom (step pending byte).2 rest

def decode (bytes : List UInt8) : List Char := decodeFrom none bytes

/-- The start of a character that a letter ends, and a pair of bytes of which
neither starts one. -/
example : decode [0xE2, 0x82, 0x41, 0xE0, 0x80] =
    [replacement, Char.ofNat 0x41, replacement, replacement] := by
  decide

theorem toNat_ofNat {value : Nat} (valid : value.isValidChar) :
    (Char.ofNat value).toNat = value := by
  unfold Char.ofNat
  rw [dif_pos valid]
  rfl

theorem decodeFrom_none_cons (byte : UInt8) (rest : List UInt8) :
    decodeFrom none (byte :: rest) =
      (start byte.toNat).1 ++ decodeFrom (start byte.toNat).2 rest := rfl

/-- ASCII bytes decode one by one. -/
theorem decodeFrom_ascii {byte : UInt8} (ascii : byte.toNat < 0x80) (rest : List UInt8) :
    decodeFrom none (byte :: rest) = Char.ofNat byte.toNat :: decodeFrom none rest := by
  rw [decodeFrom_none_cons]
  unfold start
  rw [if_pos ascii]
  rfl

theorem decodeFrom_admitted {pending : Pending} {byte : UInt8} (admits : pending.Admits byte.toNat)
    (rest : List UInt8) : decodeFrom (some pending) (byte :: rest) =
      (pending.take byte.toNat admits).1 ++ decodeFrom (pending.take byte.toNat admits).2 rest := by
  have admitted : step (some pending) byte = pending.take byte.toNat admits := dif_pos admits
  show (step (some pending) byte).1 ++ decodeFrom (step (some pending) byte).2 rest = _
  rw [admitted]

/-- The last byte of a character settles it. -/
theorem decodeFrom_last {pending : Pending} {byte : UInt8} (admits : pending.Admits byte.toNat)
    (last : pending.owed = 0) (rest : List UInt8) :
    decodeFrom (some pending) (byte :: rest) =
      Char.ofNat (pending.extend byte.toNat) :: decodeFrom none rest := by
  rw [decodeFrom_admitted admits]
  unfold Pending.take
  split
  · rfl
  · omega

/-- A byte that is not the last leaves one fewer to come. -/
theorem decodeFrom_more {pending : Pending} {byte : UInt8} {owed : Nat}
    (admits : pending.Admits byte.toNat) (owes : pending.owed = owed + 1) (rest : List UInt8) :
    decodeFrom (some pending) (byte :: rest) =
      decodeFrom (some (pending.more byte.toNat owed admits owes)) rest := by
  rw [decodeFrom_admitted admits]
  unfold Pending.take
  split
  · omega
  · next other same =>
      have equal : other = owed := by omega
      subst equal
      rfl

/-- Bytes that are to complete a character give one beyond ASCII first. -/
theorem decodeFrom_some (bytes : List UInt8) :
    ∀ pending : Pending, ∃ char rest, decodeFrom (some pending) bytes = char :: rest ∧
      ¬ IsAscii char := by
  have replaced : ¬ IsAscii replacement := by decide
  induction bytes with
  | nil =>
      intro pending
      exact ⟨replacement, [], rfl, replaced⟩
  | cons byte rest inductionHypothesis =>
      intro pending
      by_cases admits : pending.Admits byte.toNat
      · cases owes : pending.owed with
        | zero =>
            obtain ⟨beyond, valid⟩ := Pending.scalar_extend admits owes
            refine ⟨_, _, decodeFrom_last admits owes rest, ?_⟩
            unfold IsAscii
            rw [toNat_ofNat valid]
            omega
        | succ owed =>
            rw [decodeFrom_more admits owes]
            exact inductionHypothesis _
      · refine ⟨replacement, (start byte.toNat).1 ++ decodeFrom (start byte.toNat).2 rest, ?_,
          replaced⟩
        have refused : step (some pending) byte =
            (replacement :: (start byte.toNat).1, (start byte.toNat).2) := dif_neg admits
        show (step (some pending) byte).1 ++ decodeFrom (step (some pending) byte).2 rest = _
        rw [refused]
        rfl

/-- A byte beyond ASCII gives a character beyond ASCII first. -/
theorem decodeFrom_beyond {byte : UInt8} (beyond : ¬ byte.toNat < 0x80) (rest : List UInt8) :
    ∃ char later, decodeFrom none (byte :: rest) = char :: later ∧ ¬ IsAscii char := by
  rw [decodeFrom_none_cons]
  unfold start
  rw [if_neg beyond]
  split
  · exact decodeFrom_some rest _
  · split
    · exact decodeFrom_some rest _
    · split
      · exact decodeFrom_some rest _
      · exact ⟨replacement, decodeFrom none rest, rfl, by decide⟩

/-- The first bytes are all there and ASCII. -/
def AsciiLead (size : Nat) (bytes : List UInt8) : Prop :=
  size ≤ bytes.length ∧ ∀ byte ∈ bytes.take size, byte.toNat < 0x80

instance (size : Nat) (bytes : List UInt8) : Decidable (AsciiLead size bytes) :=
  inferInstanceAs (Decidable (_ ∧ _))

/-- The decoded text starts with ASCII characters exactly as far as the bytes are
ASCII. -/
theorem ascii_take_decode_iff (size : Nat) (bytes : List UInt8) :
    (size ≤ (decode bytes).length ∧ ∀ char ∈ (decode bytes).take size, IsAscii char) ↔
      AsciiLead size bytes := by
  unfold decode AsciiLead
  induction size generalizing bytes with
  | zero => exact iff_of_true ⟨Nat.zero_le _, nofun⟩ ⟨Nat.zero_le _, nofun⟩
  | succ size inductionHypothesis =>
      cases bytes with
      | nil => exact iff_of_false (fun both => nomatch both.1) fun both => nomatch both.1
      | cons byte rest =>
          by_cases ascii : byte.toNat < 0x80
          · have valid : byte.toNat.isValidChar := Or.inl (by omega)
            have isAscii : IsAscii (Char.ofNat byte.toNat) := by
              unfold IsAscii
              rw [toNat_ofNat valid]
              exact ascii
            have here := inductionHypothesis rest
            rw [decodeFrom_ascii ascii]
            simp only [List.length_cons, List.take_succ_cons, List.forall_mem_cons,
              Nat.add_le_add_iff_right]
            tauto
          · obtain ⟨char, later, decoded, notAscii⟩ := decodeFrom_beyond ascii rest
            rw [decoded]
            refine iff_of_false (fun both => ?_) fun both => ?_
            · exact notAscii (both.2 char List.mem_cons_self)
            · exact ascii (both.2 byte List.mem_cons_self)

/-! ### Decoding undoes encoding -/

theorem toNat_byte {value : Nat} (small : value < 256) : (UInt8.ofNat value).toNat = value := by
  rw [UInt8.toNat_ofNat']
  omega

theorem decodeFrom_two {value : Nat} (least : 0x80 ≤ value) (most : value ≤ 0x7FF)
    (rest : List UInt8) :
    decodeFrom none (UInt8.ofNat (value / 64 % 0x20 + 0xC0) ::
      UInt8.ofNat (value % 0x40 + 0x80) :: rest) = Char.ofNat value :: decodeFrom none rest := by
  have second := @toNat_byte (value % 0x40 + 0x80) (by omega)
  have lead : 0xC2 ≤ value / 64 % 0x20 + 0xC0 ∧ value / 64 % 0x20 + 0xC0 ≤ 0xDF := by omega
  have started : start (value / 64 % 0x20 + 0xC0) = ([], some (Pending.two _ lead)) := by
    unfold start
    rw [if_neg (by omega), dif_pos lead]
  have admits : (Pending.two _ lead).Admits (UInt8.ofNat (value % 0x40 + 0x80)).toNat := by
    rw [second]
    show 0x80 ≤ value % 0x40 + 0x80 ∧ value % 0x40 + 0x80 ≤ 0xBF
    omega
  have settled : (Pending.two _ lead).extend (value % 0x40 + 0x80) = value := by
    show (value / 64 % 0x20 + 0xC0 - 0xC0) * 64 + (value % 0x40 + 0x80 - 0x80) = value
    omega
  rw [decodeFrom_none_cons, toNat_byte (by omega), started]
  show decodeFrom (some (Pending.two _ lead)) _ = _
  rw [decodeFrom_last admits rfl, second, settled]

theorem decodeFrom_three {value : Nat} (least : 0x800 ≤ value) (most : value ≤ 0xFFFF)
    (noSurrogate : value < 0xD800 ∨ 0xDFFF < value) (rest : List UInt8) :
    decodeFrom none (UInt8.ofNat (value / 4096 % 0x10 + 0xE0) ::
      UInt8.ofNat (value / 64 % 0x40 + 0x80) :: UInt8.ofNat (value % 0x40 + 0x80) :: rest) =
        Char.ofNat value :: decodeFrom none rest := by
  have second := @toNat_byte (value / 64 % 0x40 + 0x80) (by omega)
  have third := @toNat_byte (value % 0x40 + 0x80) (by omega)
  have lead : 0xE0 ≤ value / 4096 % 0x10 + 0xE0 ∧ value / 4096 % 0x10 + 0xE0 ≤ 0xEF := by omega
  have started : start (value / 4096 % 0x10 + 0xE0) = ([], some (Pending.three _ lead)) := by
    unfold start
    rw [if_neg (by omega), dif_neg (by omega), dif_pos lead]
  have admits : (Pending.three _ lead).Admits (UInt8.ofNat (value / 64 % 0x40 + 0x80)).toNat := by
    rw [second]
    show (if value / 4096 % 0x10 + 0xE0 = 0xE0 then 0xA0 else 0x80) ≤ value / 64 % 0x40 + 0x80 ∧
      value / 64 % 0x40 + 0x80 ≤ if value / 4096 % 0x10 + 0xE0 = 0xED then 0x9F else 0xBF
    split_ifs <;> omega
  have last : ((Pending.three _ lead).more _ 0 admits rfl).Admits
      (UInt8.ofNat (value % 0x40 + 0x80)).toNat := by
    rw [third]
    show 0x80 ≤ value % 0x40 + 0x80 ∧ value % 0x40 + 0x80 ≤ 0xBF
    omega
  have settled : ((Pending.three _ lead).more _ 0 admits rfl).extend (value % 0x40 + 0x80) =
      value := by
    show ((value / 4096 % 0x10 + 0xE0 - 0xE0) * 64 +
      ((UInt8.ofNat (value / 64 % 0x40 + 0x80)).toNat - 0x80)) * 64 +
        (value % 0x40 + 0x80 - 0x80) = value
    omega
  rw [decodeFrom_none_cons, toNat_byte (by omega), started]
  show decodeFrom (some (Pending.three _ lead)) _ = _
  rw [decodeFrom_more admits rfl, decodeFrom_last last rfl, third, settled]

theorem decodeFrom_four {value : Nat} (least : 0x10000 ≤ value) (most : value < 0x110000)
    (rest : List UInt8) :
    decodeFrom none (UInt8.ofNat (value / 262144 % 0x08 + 0xF0) ::
      UInt8.ofNat (value / 4096 % 0x40 + 0x80) :: UInt8.ofNat (value / 64 % 0x40 + 0x80) ::
        UInt8.ofNat (value % 0x40 + 0x80) :: rest) = Char.ofNat value :: decodeFrom none rest := by
  have second := @toNat_byte (value / 4096 % 0x40 + 0x80) (by omega)
  have third := @toNat_byte (value / 64 % 0x40 + 0x80) (by omega)
  have fourth := @toNat_byte (value % 0x40 + 0x80) (by omega)
  have lead : 0xF0 ≤ value / 262144 % 0x08 + 0xF0 ∧ value / 262144 % 0x08 + 0xF0 ≤ 0xF4 := by omega
  have started : start (value / 262144 % 0x08 + 0xF0) = ([], some (Pending.four _ lead)) := by
    unfold start
    rw [if_neg (by omega), dif_neg (by omega), dif_neg (by omega), dif_pos lead]
  have admits : (Pending.four _ lead).Admits
      (UInt8.ofNat (value / 4096 % 0x40 + 0x80)).toNat := by
    rw [second]
    show (if value / 262144 % 0x08 + 0xF0 = 0xF0 then 0x90 else 0x80) ≤
        value / 4096 % 0x40 + 0x80 ∧ value / 4096 % 0x40 + 0x80 ≤
          if value / 262144 % 0x08 + 0xF0 = 0xF4 then 0x8F else 0xBF
    split_ifs <;> omega
  have goesOn : ((Pending.four _ lead).more _ 1 admits rfl).Admits
      (UInt8.ofNat (value / 64 % 0x40 + 0x80)).toNat := by
    rw [third]
    show 0x80 ≤ value / 64 % 0x40 + 0x80 ∧ value / 64 % 0x40 + 0x80 ≤ 0xBF
    omega
  have last : (((Pending.four _ lead).more _ 1 admits rfl).more _ 0 goesOn rfl).Admits
      (UInt8.ofNat (value % 0x40 + 0x80)).toNat := by
    rw [fourth]
    show 0x80 ≤ value % 0x40 + 0x80 ∧ value % 0x40 + 0x80 ≤ 0xBF
    omega
  have settled : (((Pending.four _ lead).more _ 1 admits rfl).more _ 0 goesOn rfl).extend
      (value % 0x40 + 0x80) = value := by
    show (((value / 262144 % 0x08 + 0xF0 - 0xF0) * 64 +
      ((UInt8.ofNat (value / 4096 % 0x40 + 0x80)).toNat - 0x80)) * 64 +
        ((UInt8.ofNat (value / 64 % 0x40 + 0x80)).toNat - 0x80)) * 64 +
          (value % 0x40 + 0x80 - 0x80) = value
    omega
  rw [decodeFrom_none_cons, toNat_byte (by omega), started]
  show decodeFrom (some (Pending.four _ lead)) _ = _
  rw [decodeFrom_more admits rfl, decodeFrom_more goesOn rfl, decodeFrom_last last rfl, fourth,
    settled]

/-- The bytes of a character decode to it. -/
theorem decodeFrom_encodeChar (char : Char) (rest : List UInt8) :
    decodeFrom none (String.utf8EncodeChar char ++ rest) = char :: decodeFrom none rest := by
  have valid : char.val.toNat < 0xD800 ∨ 0xDFFF < char.val.toNat ∧ char.val.toNat < 0x110000 :=
    char.valid
  have same : Char.ofNat char.val.toNat = char := Char.ofNat_toNat char
  unfold String.utf8EncodeChar
  dsimp only
  split_ifs with one two three
  · have byte := @toNat_byte char.val.toNat (by omega)
    have ascii : (UInt8.ofNat char.val.toNat).toNat < 0x80 := by omega
    exact (decodeFrom_ascii ascii rest).trans (by rw [byte, same])
  · exact (decodeFrom_two (by omega) two rest).trans (by rw [same])
  · exact (decodeFrom_three (by omega) three (by omega) rest).trans (by rw [same])
  · exact (decodeFrom_four (by omega) (by omega) rest).trans (by rw [same])

theorem decode_encode (chars : List Char) : decode (encode chars) = chars := by
  unfold decode
  induction chars with
  | nil => rfl
  | cons char rest inductionHypothesis =>
      rw [encode_cons, decodeFrom_encodeChar, inductionHypothesis]

end TradingStrands.Foundation.Utf8

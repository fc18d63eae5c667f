import TradingStrands.FilingsStore.Store
import TradingStrands.Foundation.Utf8

/-!
Owns the filing bodies: objects of bytes, written from a text and read as one,
cut at a maximum. The maximum is named in bytes and the cut is made in
characters, so a text with characters beyond ASCII can be larger.
-/

namespace TradingStrands

open TradingStrands.Foundation

/-- How a request for an object fails. -/
inductive GetFault
  | noSuchKey
  | clientError (code : String) (error : PyError)
  | other (error : PyError)

abbrev FilingBodies : Type := Dict String (List UInt8)

namespace FilingsBodyStore

def put (key body : String) (bodies : FilingBodies) : FilingBodies :=
  bodies.set key (Utf8.encode body.toList)

/-- `body.decode("utf-8", errors="replace")` -/
def decoded (body : List UInt8) : String := String.ofList (Utf8.decode body)

/-- The text, cut if it is longer than the maximum. -/
def truncate (text : String) : Option Nat → String
  | none => text
  | some maxBytes =>
      if maxBytes < text.length then String.ofList (text.toList.take maxBytes) else text

def get (fault : Option GetFault) (key : String) (maxBytes : Option Nat)
    (bodies : FilingBodies) : Except PyError (Option String) :=
  match fault with
  | some .noSuchKey => .ok none
  | some (.clientError code error) =>
      if code = "NoSuchKey" ∨ code = "404" then .ok none else .error error
  | some (.other error) => .error error
  | none => .ok ((bodies.get? key).map fun body => truncate (decoded body) maxBytes)

theorem decoded_encode (text : String) : decoded (Utf8.encode text.toList) = text := by
  unfold decoded
  rw [Utf8.decode_encode, String.ofList_toList]

/-- What is written is read back, if nothing is to be cut. -/
theorem get_put (key body : String) (bodies : FilingBodies) :
    get none key none (put key body bodies) = .ok (some body) := by
  unfold get put
  rw [Dict.get?_set_self]
  show Except.ok (some (decoded (Utf8.encode body.toList))) = _
  rw [decoded_encode]

/-- A text that is read is that of the body, cut. -/
theorem eq_truncate_of_get {fault : Option GetFault} {key : String} {maxBytes : Option Nat}
    {bodies : FilingBodies} {body : List UInt8} {text : String}
    (stored : bodies.get? key = some body) (read : get fault key maxBytes bodies = .ok (some text)) :
    text = truncate (decoded body) maxBytes := by
  unfold get at read
  split at read
  · cases read
  · split at read <;> cases read
  · cases read
  · rw [stored] at read
    exact (Option.some.inj (Except.ok.inj read)).symm

/-! ### The budget -/

/-- Whether a text is a part of a body that fits the maximum. -/
def FitsBudget (body : List UInt8) (maxBytes : Nat) (text : String) : Prop :=
  text.utf8ByteSize ≤ maxBytes ∧ text.toList <+: (decoded body).toList

theorem toList_decoded (body : List UInt8) : (decoded body).toList = Utf8.decode body :=
  String.toList_ofList

theorem length_decoded (body : List UInt8) : (decoded body).length = (Utf8.decode body).length := by
  rw [← String.length_toList, toList_decoded]

/-- What is returned is always a prefix of the decoded body. -/
theorem truncate_isPrefix (text : String) (maxBytes : Option Nat) :
    (truncate text maxBytes).toList <+: text.toList := by
  cases maxBytes with
  | none => exact List.prefix_rfl
  | some maxBytes =>
      unfold truncate
      dsimp only
      split_ifs with long
      · rw [String.toList_ofList]
        exact List.take_prefix maxBytes text.toList
      · exact List.prefix_rfl

/-- The cut text has at most `maxBytes` bytes exactly where it is cut after ASCII
characters only, or where the whole text fits. -/
theorem utf8ByteSize_truncate_le_iff (body : List UInt8) (maxBytes : Nat) :
    (truncate (decoded body) (some maxBytes)).utf8ByteSize ≤ maxBytes ↔
      Utf8.AsciiLead maxBytes body ∨ (decoded body).utf8ByteSize ≤ maxBytes := by
  have lead := Utf8.ascii_take_decode_iff maxBytes body
  have whole : (decoded body).utf8ByteSize = (Utf8.encode (Utf8.decode body)).length := by
    rw [Utf8.utf8ByteSize_eq, toList_decoded]
  have atLeast := Utf8.length_le_length_encode (Utf8.decode body)
  unfold truncate
  dsimp only
  rw [length_decoded, ← lead, whole]
  by_cases long : maxBytes < (Utf8.decode body).length
  · have cut : ((Utf8.decode body).take maxBytes).length = maxBytes := by
      rw [List.length_take]
      omega
    have ascii := @Utf8.length_encode_le_iff ((Utf8.decode body).take maxBytes)
    rw [cut] at ascii
    rw [if_pos long, Utf8.utf8ByteSize_eq, String.toList_ofList, toList_decoded, ascii]
    constructor
    · intro all
      exact Or.inl ⟨long.le, all⟩
    · intro fits
      rcases fits with ⟨_, all⟩ | small
      · exact all
      · omega
  · rw [if_neg long, whole]
    constructor
    · intro small
      exact Or.inr small
    · intro fits
      rcases fits with ⟨enough, all⟩ | small
      · rw [List.take_of_length_le (by omega)] at all
        have ascii := Utf8.length_encode_le_iff.mpr all
        omega
      · exact small

end FilingsBodyStore

end TradingStrands

/-!
# Text/Utf8 — text as bytes, and bytes as text

`utf8` spells a text. Backwards there are two readings: `text?` accepts only bytes that are well
formed from first to last, `leadingText` keeps what precedes the first ill-formed sequence. `fit` is
the cut in the other direction: the longest run of leading characters whose spelling has room.
-/

namespace VehicleLink

/-- The bytes that spell `text`. -/
def utf8 (text : String) : List UInt8 := text.toUTF8.data.toList

/-- The text that `bytes` spell, if they are well formed from first to last. -/
def text? (bytes : List UInt8) : Option String := String.fromUTF8? bytes.toByteArray

/-- The character whose spelling starts `bytes`. -/
def leadingChar? (bytes : List UInt8) : Option Char := bytes.toByteArray.utf8DecodeChar? 0

theorem utf8Size_le_of_leadingChar? {bytes : List UInt8} {c : Char}
    (h : leadingChar? bytes = some c) : c.utf8Size ≤ bytes.length := by
  have := ByteArray.le_size_of_utf8DecodeChar?_eq_some h
  simpa using this

/-- The characters that `bytes` spell before their first ill-formed sequence. -/
def leadingChars (bytes : List UInt8) : List Char :=
  match _h : leadingChar? bytes with
  | some c => c :: leadingChars (bytes.drop c.utf8Size)
  | none => []
termination_by bytes.length
decreasing_by
  have := utf8Size_le_of_leadingChar? _h
  have := c.utf8Size_pos
  rw [List.length_drop]
  omega

/-- The text that `bytes` spell before their first ill-formed sequence. -/
def leadingText (bytes : List UInt8) : String := String.ofList (leadingChars bytes)

/-- The longest run of leading characters that spell at most `room` bytes. -/
def fit : (room : Nat) → List Char → List Char
  | _, [] => []
  | room, c :: cs => if c.utf8Size ≤ room then c :: fit (room - c.utf8Size) cs else []

@[simp] theorem utf8_ofList (cs : List Char) :
    utf8 (String.ofList cs) = cs.flatMap String.utf8EncodeChar := by
  simp [utf8, List.utf8Encode]

theorem length_utf8_fit (room : Nat) (cs : List Char) :
    (utf8 (String.ofList (fit room cs))).length ≤ room := by
  rw [utf8_ofList]
  induction cs generalizing room with
  | nil => simp [fit]
  | cons c cs ih =>
    rw [fit]
    split
    · have := ih (room - c.utf8Size)
      simp only [List.flatMap_cons, List.length_append, String.length_utf8EncodeChar]
      omega
    · simp

end VehicleLink

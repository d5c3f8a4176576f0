set_option autoImplicit false

/-!
# Characters as bytes

`encode` writes characters in UTF-8 and `decode` reads them back. Bytes that are no such text are
refused with the index of the first byte that begins no character.
-/
namespace TimeSeries.Text

def encode (text : List Char) : List UInt8 := text.flatMap String.utf8EncodeChar

def byteLength (text : List Char) : Nat := (encode text).length

/-- The index of the first byte at or after `start` that begins no character. -/
def validUpTo (bytes : ByteArray) (start : Nat) : Nat :=
  match found : bytes.utf8DecodeChar? start with
  | some c =>
    have _ : start < bytes.size :=
      ByteArray.lt_size_of_isSome_utf8DecodeChar? (by simp [found])
    validUpTo bytes (start + c.utf8Size)
  | none => start
termination_by bytes.size - start
decreasing_by
  have := c.utf8Size_pos
  omega

/-- The text that the bytes spell, or the number of bytes before the first fault. -/
def decode (bytes : List UInt8) : Except Nat (List Char) :=
  match bytes.toByteArray.utf8Decode? with
  | some text => .ok text.toList
  | none => .error (validUpTo bytes.toByteArray 0)

theorem decode_encode (text : List Char) : decode (encode text) = .ok text := by
  have h : (encode text).toByteArray.utf8Decode? = some text.toArray :=
    List.utf8Decode?_utf8Encode
  simp [decode, h]

end TimeSeries.Text

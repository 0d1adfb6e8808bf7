import TableWire.Bytes

/-!
Text as bytes. Reading is strict, or shows each longest broken beginning of a character as one
replacement character.
-/
namespace TableWire.Text

/-- The bytes of a text in UTF-8. -/
def utf8 (text : String) : Bytes := text.toByteArray.data.toList

/-- The text that the bytes spell, if they are valid UTF-8. -/
def ofUtf8? (bytes : Bytes) : Option String := String.fromUTF8? ⟨bytes.toArray⟩

/-- What a first byte announces: how many bytes follow, the bounds of the next one, and the bits
of the code point that the first byte holds. -/
structure Lead where
  following : Nat
  least : Nat
  most : Nat
  bits : Nat

def Lead.ofByte? (byte : UInt8) : Option Lead :=
  let b := byte.toNat
  if b < 0x80 then some ⟨0, 0x80, 0xbf, b⟩
  else if b < 0xc2 then none
  else if b < 0xe0 then some ⟨1, 0x80, 0xbf, b % 0x20⟩
  else if b = 0xe0 then some ⟨2, 0xa0, 0xbf, b % 0x10⟩
  else if b = 0xed then some ⟨2, 0x80, 0x9f, b % 0x10⟩
  else if b < 0xf0 then some ⟨2, 0x80, 0xbf, b % 0x10⟩
  else if b = 0xf0 then some ⟨3, 0x90, 0xbf, b % 0x08⟩
  else if b < 0xf4 then some ⟨3, 0x80, 0xbf, b % 0x08⟩
  else if b = 0xf4 then some ⟨3, 0x80, 0x8f, b % 0x08⟩
  else none

/-- The following bytes that fit a lead, as many as it announces and there are. -/
def Lead.accepted (lead : Lead) (rest : Bytes) : Bytes :=
  match rest.take lead.following with
  | [] => []
  | second :: more =>
    if lead.least ≤ second.toNat && second.toNat ≤ lead.most then
      second :: more.takeWhile (fun b => 0x80 ≤ b.toNat && b.toNat ≤ 0xbf)
    else []

/-- The code point of a lead and its following bytes. -/
def Lead.code (lead : Lead) (following : Bytes) : Nat :=
  following.foldl (fun code b => code * 0x40 + b.toNat % 0x40) lead.bits

def replacement : Char := Char.ofNat 0xfffd

/-- The characters of the bytes, with a replacement for each broken piece. -/
def lossyChars : Bytes → List Char
  | [] => []
  | byte :: rest =>
    match Lead.ofByte? byte with
    | none => replacement :: lossyChars rest
    | some lead =>
      let following := lead.accepted rest
      let shown := if following.length = lead.following then Char.ofNat (lead.code following)
        else replacement
      shown :: lossyChars (rest.drop following.length)
termination_by bytes => bytes.length
decreasing_by
  · simp
  · simp only [List.length_drop, List.length_cons]
    omega

/-- The text of the bytes, with a replacement for each broken piece. -/
def lossyText (bytes : Bytes) : String := String.ofList (lossyChars bytes)

end TableWire.Text

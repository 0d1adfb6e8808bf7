/-!
Byte strings.
-/
namespace TableWire

/-- A byte string; buffers and encoded records are lists of bytes. -/
abbrev Bytes := List UInt8

end TableWire

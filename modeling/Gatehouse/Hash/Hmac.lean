import Gatehouse.Hash.Sha256

/-!
# HMAC-SHA256

A message authentication code from the hash: the key, made as long as a block,
marks an inner and an outer use of the hash in two different ways.
-/

namespace Gatehouse.Hash

/-- A key as one block: hashed first where it is longer, then filled with zeros. -/
def hmacBlock (key : List UInt8) : List UInt8 :=
  let short := if key.length ≤ 64 then key else sha256 key
  short ++ List.replicate (64 - short.length) 0

/-- The code of a message under a key, 32 octets. -/
def hmacSha256 (key message : List UInt8) : List UInt8 :=
  let block := hmacBlock key
  sha256 (block.map (· ^^^ 0x5C) ++ sha256 (block.map (· ^^^ 0x36) ++ message))

end Gatehouse.Hash

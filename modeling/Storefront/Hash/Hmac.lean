/-
Keyed digests.

The digest of a message under a key is the digest of the key, changed in one way, in
front of the digest of the key, changed in another, in front of the message.
-/
import Storefront.Hash.Sha256

namespace Storefront.Hash

/-- The number of bytes in a block. -/
def blockSize : Nat := 64

/-- A key as one block: a long key is digested first, and zeros fill the block. -/
def keyBlock (key : List UInt8) : List UInt8 :=
  let short := if blockSize < key.length then sha256 key else key
  short ++ List.replicate (blockSize - short.length) 0

/-- The digest of a message under a key. -/
def hmac (key message : List UInt8) : List UInt8 :=
  let block := keyBlock key
  sha256 (block.map (· ^^^ 0x5c) ++ sha256 (block.map (· ^^^ 0x36) ++ message))

end Storefront.Hash

/-!
# The CRC-32 checksum

The remainder of a byte sequence under the reflected polynomial EDB88320.
-/

namespace ValidityTables.Compressed

def crcShift : Nat → UInt32 → UInt32
  | 0, r => r
  | n + 1, r => crcShift n (if r &&& 1 = 1 then (r >>> 1) ^^^ 0xEDB88320 else r >>> 1)

def crc32 (bytes : List UInt8) : UInt32 :=
  bytes.foldl (fun r b => crcShift 8 (r ^^^ b.toUInt32)) 0xFFFFFFFF ^^^ 0xFFFFFFFF

end ValidityTables.Compressed

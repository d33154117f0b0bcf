/-! The cyclic redundancy check of compressed data. -/

namespace Sitemaps.Gzip

def checksumBit (sum : UInt32) : UInt32 :=
  if sum % 2 = 1 then (sum >>> 1) ^^^ 0xEDB88320 else sum >>> 1

def checksumByte (sum : UInt32) (byte : UInt8) : UInt32 :=
  let mixed := sum ^^^ byte.toUInt32
  checksumBit (checksumBit (checksumBit (checksumBit
    (checksumBit (checksumBit (checksumBit (checksumBit mixed)))))))

def checksum (bytes : List UInt8) : UInt32 :=
  bytes.foldl checksumByte 0xFFFFFFFF ^^^ 0xFFFFFFFF

end Sitemaps.Gzip

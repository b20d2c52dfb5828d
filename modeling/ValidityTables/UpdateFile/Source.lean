import ValidityTables.Compressed.Gzip
import ValidityTables.Compressed.Zstd
import ValidityTables.Text.Lines
import ValidityTables.Text.Utf8
import ValidityTables.UpdateFile

/-!
# The lines of a file

How the bytes of an update file become lines. The ending of the file's name tells whether it is
compressed. A line that is not UTF-8 cannot be read, and neither can a line that was not complete
when a compressed file turned out to be damaged.
-/

namespace ValidityTables.UpdateFile

def readLine (bytes : List UInt8) : SourceLine :=
  match Text.Utf8.decode? bytes with
  | some cs => .ok (String.ofList cs)
  | none => .error .invalidUtf8

def ofBytes (bytes : List UInt8) : List SourceLine := (Text.byteLines bytes).map readLine

def completeLines (bytes : List UInt8) : List UInt8 :=
  (bytes.reverse.dropWhile (· != 10)).reverse

def ofDecoded (decoded : Compressed.Decoded) : List SourceLine :=
  if decoded.intact then ofBytes decoded.bytes
  else ofBytes (completeLines decoded.bytes) ++ [.error .damaged]

inductive Compression
  | none
  | gzip
  | zstd
  deriving DecidableEq, Repr

def compressionOf (name : String) : Compression :=
  if ".gz".toList.isSuffixOf name.toList then .gzip
  else if ".zst".toList.isSuffixOf name.toList then .zstd
  else .none

def sourceLines (name : String) (bytes : List UInt8) : List SourceLine :=
  match compressionOf name with
  | .none => ofBytes bytes
  | .gzip => ofDecoded (Compressed.Gzip.decode bytes)
  | .zstd => ofDecoded (Compressed.Zstd.decode bytes)

end ValidityTables.UpdateFile

import ValidityTables.Proofs.Application
import ValidityTables.Proofs.GzipMembers
import ValidityTables.Proofs.Operations
import ValidityTables.Proofs.ZstdFrames
import ValidityTables.UpdateFile.Source

/-! # Compressed update files

A file of frames is applied as the plain file that holds what all of them hold. A file of members is
applied as the plain file that holds what the first member holds: nothing tells that there were
others.
-/

namespace ValidityTables

open Compressed

variable {σ : Type}

namespace UpdateFile

variable {name : String}

theorem sourceLines_plain (h : compressionOf name = .none) (bytes : List UInt8) :
    sourceLines name bytes = ofBytes bytes := by
  rw [sourceLines, h]

theorem sourceLines_member (h : compressionOf name = .gzip) (member : Gzip.Member)
    (rest : List UInt8) : sourceLines name (member.bytes ++ rest) = ofBytes member.content := by
  rw [sourceLines, h]
  simp only [member.decode_append, ofDecoded, if_true]

theorem sourceLines_frames (h : compressionOf name = .zstd) (frame : Zstd.RawFrame)
    (frames : List Zstd.RawFrame) :
    sourceLines name ((frame :: frames).flatMap Zstd.RawFrame.bytes) =
      ofBytes ((frame :: frames).flatMap Zstd.RawFrame.content) := by
  rw [sourceLines, h]
  simp only [Zstd.decode_frames, ofDecoded, if_true]

end UpdateFile

namespace Updater

/-- What an updater does with a file that has a given name and given bytes: what can be seen
afterwards, and the calls that were made. -/
def ranFile (updater : Updater σ) (scope : Scope) (session : Session σ) (name : String)
    (bytes : List UInt8) : ((List Observation × List Block) × Session σ) × List Call :=
  let operations := [.applyFile scope (.ok (UpdateFile.sourceLines name bytes))]
  (updater.performAll [] operations session, updater.calls [] operations session)

/-- Frames are applied like the plain file that holds their contents one after the other. Of the
members of a file only the first one is applied, whatever comes after it. Nothing is said of frames
that are not a `Zstd.RawFrame`: compressed blocks and checksums are refused by `Zstd.decode`,
although decoders in use take them. -/
theorem ranFile_compressed {plain gzip zstd : String}
    (hPlain : UpdateFile.compressionOf plain = .none)
    (hGzip : UpdateFile.compressionOf gzip = .gzip)
    (hZstd : UpdateFile.compressionOf zstd = .zstd) (updater : Updater σ) (scope : Scope)
    (session : Session σ) (frame : Zstd.RawFrame) (frames : List Zstd.RawFrame)
    (member : Gzip.Member) (rest : List UInt8) :
    let ran := updater.ranFile scope session
    ran zstd ((frame :: frames).flatMap Zstd.RawFrame.bytes) =
        ran plain ((frame :: frames).flatMap Zstd.RawFrame.content) ∧
      ran gzip (member.bytes ++ rest) = ran plain member.content := by
  intro ran
  constructor
  · simp only [ran, ranFile, UpdateFile.sourceLines_frames hZstd,
      UpdateFile.sourceLines_plain hPlain]
  · simp only [ran, ranFile, UpdateFile.sourceLines_member hGzip,
      UpdateFile.sourceLines_plain hPlain]

/-- An update in two parts, with a statement in each of them. -/
def splitFirst : List UInt8 := "SQL select 1;\n".toUTF8.toList

def splitSecond : List UInt8 := "SQL select 2;\n".toUTF8.toList

def splitUpdater : Updater Script := ⟨{}, Script.backend⟩

def splitSession : Session Script := { world := Script.steady }

def splitStatements (name : String) (bytes : List UInt8) : Option Nat :=
  (splitUpdater.applySource .locally (.ok (UpdateFile.sourceLines name bytes))
    splitSession).1.toOption.map ApplyReport.sqlStatements

theorem ranFile_compressed_split :
    let ran := splitUpdater.ranFile .locally splitSession
    let frames := [splitFirst, splitSecond].map Zstd.RawFrame.ofContent
    let member := Gzip.Member.ofContent splitFirst
    (UpdateFile.compressionOf "update.txt" = .none ∧
      UpdateFile.compressionOf "update.txt.gz" = .gzip ∧
      UpdateFile.compressionOf "update.txt.zst" = .zstd) ∧
      ran "update.txt.zst" (frames.flatMap Zstd.RawFrame.bytes) =
        ran "update.txt" (splitFirst ++ splitSecond) ∧
      ran "update.txt.gz" (member.bytes ++ splitSecond) = ran "update.txt" splitFirst := by
  intro ran frames member
  have hPlain : UpdateFile.compressionOf "update.txt" = .none := by decide +kernel
  have hGzip : UpdateFile.compressionOf "update.txt.gz" = .gzip := by decide +kernel
  have hZstd : UpdateFile.compressionOf "update.txt.zst" = .zstd := by decide +kernel
  obtain ⟨hFrames, hMember⟩ := ranFile_compressed hPlain hGzip hZstd splitUpdater .locally
    splitSession (.ofContent splitFirst) [.ofContent splitSecond] member splitSecond
  have hContents : [Zstd.RawFrame.ofContent splitFirst, .ofContent splitSecond].flatMap
      Zstd.RawFrame.content = splitFirst ++ splitSecond := by simp
  rw [hContents] at hFrames
  rw [Gzip.Member.content_ofContent] at hMember
  exact ⟨⟨hPlain, hGzip, hZstd⟩, hFrames, hMember⟩

/-- The statement in the second member is not run, and the update succeeds all the same. -/
theorem ranFile_compressed_dropped :
    let members := [splitFirst, splitSecond].map Gzip.Member.ofContent
    members.flatMap Gzip.Member.content = splitFirst ++ splitSecond ∧
      splitStatements "update.txt" (splitFirst ++ splitSecond) = some 2 ∧
      splitStatements "update.txt.gz" (members.flatMap Gzip.Member.bytes) = some 1 := by
  intro members
  have hPlain : UpdateFile.compressionOf "update.txt" = .none := by decide +kernel
  have hGzip : UpdateFile.compressionOf "update.txt.gz" = .gzip := by decide +kernel
  have hFirst : splitStatements "update.txt" splitFirst = some 1 := by decide +kernel
  have hSame : splitStatements "update.txt.gz" (members.flatMap Gzip.Member.bytes) =
      splitStatements "update.txt" splitFirst := by
    simp only [splitStatements, members, List.map_cons, List.flatMap_cons,
      UpdateFile.sourceLines_member hGzip, UpdateFile.sourceLines_plain hPlain,
      Gzip.Member.content_ofContent]
  exact ⟨by simp [members], by decide +kernel, hSame.trans hFirst⟩

end Updater

end ValidityTables

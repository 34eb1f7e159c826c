import Brokerage.Disk.Fault
import Brokerage.Text.Utf8

/-!
Images of databases: the bytes of a file. An image begins with a header of 100 bytes, which tells
how large its pages are and in which format they are written; the rest of the first page lists the
tables. Only images without tables are told apart here. What is wrong with one shows either when it
is read, or when a migration adds tables to it.
-/

namespace Brokerage.Disk

structure Image where
  bytes : List UInt8
  deriving DecidableEq, Repr

namespace Image

/-- How an image begins. -/
def mark : List UInt8 := Text.Utf8.encode "SQLite format 3\x00".toList

/-- The number in one byte; there are zeros behind the end. -/
def byte (image : Image) (i : Nat) : Nat := (image.bytes.getD i 0).toNat

/-- The number in two bytes, the higher one first. -/
def pair (image : Image) (i : Nat) : Nat := 256 * image.byte i + image.byte (i + 1)

/-- The number in four bytes, the highest one first. -/
def quad (image : Image) (i : Nat) : Nat := 65536 * image.pair i + image.pair (i + 2)

/-- The number of bytes in a page. The greatest is too great for the place where it is written. -/
def pageSize (image : Image) : Nat := 256 * image.byte 16 + 65536 * image.byte 17

def pageSizes : List Nat := [512, 1024, 2048, 4096, 8192, 16384, 32768, 65536]

/-- The number of bytes in a page that can be used. -/
def usable (image : Image) : Nat := image.pageSize - image.byte 20

/-- How many pages there are, the last of which need not be whole. -/
def pagesPresent (image : Image) : Nat := (image.bytes.length + image.pageSize - 1) / image.pageSize

/-- How many pages there should be. The header tells it if it has been kept up with the changes. -/
def pages (image : Image) : Nat :=
  if image.quad 28 ≠ 0 && image.quad 24 = image.quad 92 then image.quad 28 else image.pagesPresent

/-- What is wrong with an image when it is read, by connections that can share memory or cannot. -/
def readFault? (image : Image) (sharesMemory : Bool) : Option Fault :=
  if image.bytes.take mark.length ≠ mark || 2 < image.byte 19 then some .notADatabase
  else if image.byte 19 = 2 && !sharesMemory then some .cannotOpen
  else if [image.byte 21, image.byte 22, image.byte 23] ≠ [64, 32, 32] then some .notADatabase
  else if !pageSizes.contains image.pageSize then some .notADatabase
  else if image.pagesPresent < image.pages then some .malformed
  else if image.usable < 480 then some .notADatabase
  else if 4 < image.byte 47 then some .unsupportedFormat
  else if image.byte 100 ≠ 13 || image.pair 103 ≠ 0 then some .malformed
  else none

/-- Where the entries of the first page begin; none are there, so they begin where they end. -/
def top (image : Image) : Nat := if image.pair 105 = 0 then 65536 else image.pair 105

/-- Where the first page can be written to. -/
def bottom : Nat := 108

/-- Where the free bytes of the first page end, those included that are too few to be of use. -/
def free (image : Image) : Nat := image.top + image.byte 107

/-- How many bytes in one piece each migration needs on a first page whose free bytes do not add up,
and which can therefore not be put in order. -/
def rooms (pageSize : Nat) : List Nat :=
  match pageSize with
  | 512 => [41, 41, 41, 54]
  | 1024 => [436, 436, 436, 436]
  | 2048 => [917, 917, 917, 917]
  | 4096 => [1789, 1828, 1858, 1858]
  | _ => [1789, 1828, 2204, 2243]

/-- What is wrong with an image when the migration with a number, for which there has to be some
room, adds to it. The migration behind the first one notices in which encoding texts are. -/
def migrationFault? (image : Image) (room : Nat) (number : Nat) : Option Fault :=
  let encoding := image.quad 56
  if image.free ≠ image.usable && image.top - bottom < room then some .malformed
  else if number = 1 && encoding ≠ 0 && encoding % 4 = 0 then some .foreignEncoding
  else none

/-- The number of the first migration that cannot be added to an image, and why. -/
def writeFault? (image : Image) : Option (Nat × Fault) :=
  if 2 < image.byte 18 then some (0, .readOnly)
  else if image.quad 36 ≠ 0 || image.pages < image.quad 52 || image.pair 101 ≠ 0 ||
      image.usable < image.free || image.free < bottom then
    some (0, .malformed)
  else
    (rooms image.pageSize).zipIdx.findSome? fun (room, number) =>
      (image.migrationFault? room number).map fun fault => (number, fault)

end Image

end Brokerage.Disk

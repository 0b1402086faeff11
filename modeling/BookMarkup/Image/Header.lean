/-
This file reads the size of an image from the first bytes of its file. The format is
recognised by content: portable network graphics, the graphics interchange format,
bitmaps and baseline photographs. A header that is broken or cut off is told apart
from one that ends inside a part it has announced.
-/

import BookMarkup.Text.Basic

namespace BookMarkup

namespace Image

/-! ### Numbers and checksums -/

/-- The number that bytes spell with the most significant one first. -/
def bigEndian (bytes : List UInt8) : Nat :=
  bytes.foldl (fun number byte => number * 256 + byte.toNat) 0

/-- The number that bytes spell with the least significant one first. -/
def littleEndian (bytes : List UInt8) : Nat :=
  bigEndian bytes.reverse

/-- The bytes of a text of ASCII characters. -/
def asciiBytes (text : Text) : List UInt8 :=
  text.map fun c => UInt8.ofNat c.toNat

/-- The bytes from an offset on, up to a count. -/
def slice (offset count : Nat) (bytes : List UInt8) : List UInt8 :=
  (bytes.drop offset).take count

/-- One bit of the cyclic redundancy check with the reflected polynomial 0xEDB88320. -/
def checksumBit (state : UInt32) : UInt32 :=
  if state &&& 1 = 1 then (state >>> 1) ^^^ 0xEDB88320 else state >>> 1

/-- The cyclic redundancy check of bytes. -/
def checksum (bytes : List UInt8) : Nat :=
  let step := fun (state : UInt32) (byte : UInt8) =>
    Nat.repeat checksumBit 8 (state ^^^ byte.toUInt32)
  (bytes.foldl step 0xFFFFFFFF ^^^ 0xFFFFFFFF).toNat

/-! ### Headers -/

/-- What the bytes of a file say about the size of an image. -/
inductive Header where
  /-- The width and the height in pixels. -/
  | size (width height : Nat)
  /-- The file ends inside a part that it has announced. -/
  | truncated
  /-- The bytes are no image. -/
  | unrecognised
  /-- The bytes are a bitmap whose header has an unknown length. -/
  | unsupported (length : Nat)
  deriving DecidableEq, Repr

/-- A size as a header; an image without pixels is none. -/
def Header.ofSize (width height : Nat) : Header :=
  if width = 0 || height = 0 then .unrecognised else .size width height

/-- The header that a size found on the way gives. -/
def Header.ofSize? : Option (Nat × Nat) → Header
  | some (width, height) => .ofSize width height
  | none => .unrecognised

/-- Reads chunks until the image data starts. Each chunk has a length, a kind, its data and a
checksum of kind and data; the size stands in the header chunk. -/
def readChunks : Nat → Option (Nat × Nat) → List UInt8 → Header
  | 0, _, _ => .unrecognised
  | fuel + 1, size, bytes =>
    let length := bigEndian (bytes.take 4)
    let kind := slice 4 4 bytes
    let rest := bytes.drop 8
    if kind.length < 4 then .unrecognised
    else if kind = asciiBytes "IDAT".toList || kind = asciiBytes "IEND".toList then .ofSize? size
    else if !kind.all fun byte => (Char.ofNat byte.toNat).isAlphanum || byte == 0x5F then
      .unrecognised
    else if rest.length < length then .truncated
    else
      let content := rest.take length
      let check := slice length 4 rest
      if check.length < 4 || bigEndian check != checksum (kind ++ content) then .unrecognised
      else
        let found :=
          if kind = asciiBytes "IHDR".toList && 13 ≤ length then
            some (bigEndian (content.take 4), bigEndian (slice 4 4 content))
          else size
        readChunks fuel found (rest.drop (length + 4))

/-- Reads segments until the scan starts. A segment that starts a frame gives height and
width. -/
def readSegments : Nat → Option (Nat × Nat) → List UInt8 → Header
  | 0, _, _ => .unrecognised
  | fuel + 1, size, bytes =>
    match bytes with
    | 0xFF :: 0xFF :: rest => readSegments fuel size (0xFF :: rest)
    | 0xFF :: marker :: rest =>
      if marker = 0xDA then .ofSize? size
      else if marker = 0 || marker = 1 || (0xD0 ≤ marker && marker ≤ 0xD9) then
        readSegments fuel size rest
      else
        let length := bigEndian (rest.take 2)
        let content := slice 2 (length - 2) rest
        if content.length < length - 2 then .truncated
        else
          let startsFrame := 0xC0 ≤ marker && marker ≤ 0xCF &&
            marker != 0xC4 && marker != 0xC8 && marker != 0xCC
          let found :=
            if startsFrame then some (bigEndian (slice 3 2 content), bigEndian (slice 1 2 content))
            else size
          readSegments fuel found (rest.drop length)
    | _ :: rest => readSegments fuel size rest
    | [] => .unrecognised

/-- The height of a bitmap: rows that are stored from top to bottom have a negative one. -/
def bitmapHeight (field : Nat) : Nat :=
  if 0xFF000000 ≤ field then 0x100000000 - field else field

/-- The lengths of the bitmap headers whose width and height take four bytes each. -/
def wideBitmapHeaders : List Nat :=
  [40, 52, 56, 64, 108, 124]

/-- Reads the header of a bitmap behind its first fourteen bytes. The oldest header has two bytes
for the width and two for the height. -/
def readBitmap (bytes : List UInt8) : Header :=
  let length := littleEndian (bytes.take 4)
  if bytes.length < 4 then .unrecognised
  else if bytes.length < length then .truncated
  else if length = 12 then .ofSize (littleEndian (slice 4 2 bytes)) (littleEndian (slice 6 2 bytes))
  else if wideBitmapHeaders.contains length then
    .ofSize (littleEndian (slice 4 4 bytes)) (bitmapHeight (littleEndian (slice 8 4 bytes)))
  else .unsupported length

/-- Reads the header of an image. -/
def Header.ofBytes (bytes : List UInt8) : Header :=
  if [0x89, 0x50, 0x4E, 0x47, 0x0D, 0x0A, 0x1A, 0x0A].isPrefixOf bytes then
    readChunks bytes.length none (bytes.drop 8)
  else if (asciiBytes "GIF87a".toList).isPrefixOf bytes ||
      (asciiBytes "GIF89a".toList).isPrefixOf bytes then
    if bytes.length ≤ 13 then .unrecognised
    else .ofSize (littleEndian (slice 6 2 bytes)) (littleEndian (slice 8 2 bytes))
  else if (asciiBytes "BM".toList).isPrefixOf bytes then readBitmap (bytes.drop 14)
  else if [0xFF, 0xD8, 0xFF].isPrefixOf bytes then
    readSegments (2 * bytes.length) none (bytes.drop 2)
  else .unrecognised

end Image

end BookMarkup

import TreeInspector.View.Painting

/-! # Picture files

The bytes of a picture file: a signature and three chunks, one with the size, one with the rows and
one that ends the file. A pixel takes four bytes, and the rows are written in blocks that are stored as
they are.
-/

namespace TreeInspector

namespace Png

/-- The bytes of a number, the highest of four first. -/
def word (n : Nat) : List UInt8 :=
  [UInt8.ofNat (n >>> 24), UInt8.ofNat (n >>> 16), UInt8.ofNat (n >>> 8), UInt8.ofNat n]

/-- The number whose four bytes are given, the highest first. -/
def ofWord (a b c d : UInt8) : Nat :=
  ((a.toNat * 256 + b.toNat) * 256 + c.toNat) * 256 + d.toNat

/-- The bytes that every picture file starts with. -/
def signature : List UInt8 := [137, 80, 78, 71, 13, 10, 26, 10]

/-- One bit of the cyclic checksum. -/
def checkBit (sum : UInt32) : UInt32 :=
  if sum &&& 1 = 1 then (sum >>> 1) ^^^ 0xedb88320 else sum >>> 1

/-- One byte of the cyclic checksum. -/
def checkByte (sum : UInt32) (byte : UInt8) : UInt32 :=
  Nat.repeat checkBit 8 (sum ^^^ byte.toUInt32)

/-- The cyclic checksum of a chunk. -/
def checksum (bytes : List UInt8) : Nat :=
  ((bytes.foldl checkByte 0xffffffff) ^^^ 0xffffffff).toNat

/-- A chunk: its length, its kind, its data and their checksum. -/
def chunk (kind data : List UInt8) : List UInt8 :=
  word data.length ++ (kind ++ data) ++ word (checksum (kind ++ data))

/-- The pair of running sums that ends stored rows. -/
def rowSums (bytes : List UInt8) : Nat :=
  let (low, high) := bytes.foldl (fun sums byte =>
    let low := (sums.1 + byte.toNat) % 65521
    (low, (sums.2 + low) % 65521)) (1, 0)
  high * 65536 + low

/-- The most bytes one stored block holds. -/
def blockSize : Nat := 65535

/-- Bytes in stored blocks, at most so many of them; the last one is marked. -/
def blocks : Nat → List UInt8 → List UInt8
  | 0, _ => []
  | more + 1, bytes =>
    let block := bytes.take blockSize
    let rest := bytes.drop blockSize
    let size := block.length
    let head : List UInt8 :=
      [if rest.isEmpty then 1 else 0, UInt8.ofNat size, UInt8.ofNat (size / 256),
        UInt8.ofNat (blockSize - size), UInt8.ofNat ((blockSize - size) / 256)]
    head ++ block ++ (if rest.isEmpty then [] else blocks more rest)

/-- The bytes of a pixel. -/
def pixel (color : Color) : List UInt8 := [color.red, color.green, color.blue, color.opacity]

/-- A row of a bitmap: no filter, then its pixels. -/
def row (bitmap : Bitmap) (y : Fin bitmap.size.height) : List UInt8 :=
  0 :: (List.finRange bitmap.size.width).flatMap fun x => pixel (bitmap.pixels x y)

/-- All rows of a bitmap. -/
def rows (bitmap : Bitmap) : List UInt8 := (List.finRange bitmap.size.height).flatMap (row bitmap)

/-- The size chunk's data: the size, four times eight bits a pixel and the plain choices for all else. -/
def header (size : PixelSize) : List UInt8 :=
  word size.width ++ word size.height ++ [8, 6, 0, 0, 0]

/-- The bytes of a picture file. -/
def encode (bitmap : Bitmap) : List UInt8 :=
  let rows := rows bitmap
  signature ++ chunk [73, 72, 68, 82] (header bitmap.size) ++
    chunk [73, 68, 65, 84]
      ([120, 1] ++ blocks (rows.length / blockSize + 1) rows ++ word (rowSums rows)) ++
    chunk [73, 69, 78, 68] []

/-- The size that a picture file starts with. -/
def size? (bytes : List UInt8) : Option PixelSize :=
  if signature.isPrefixOf bytes then
    match bytes.drop 16 with
    | a :: b :: c :: d :: e :: f :: g :: h :: _ => some ⟨ofWord a b c d, ofWord e f g h⟩
    | _ => none
  else none

end Png

end TreeInspector

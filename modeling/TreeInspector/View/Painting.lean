import TreeInspector.View.Scene

/-! # Painting onto bitmaps

Anything with a pixel size that can be painted can be exported. A bitmap carries its pixels. What a
scene looks like in pixels is up to a rasterizer outside this library, which may also turn a scene
down; it paints over the pixels that are there and leaves the size of the bitmap alone.
-/

namespace TreeInspector

/-- The colour of a pixel: its red, green and blue, and how opaque it is. -/
structure Color where
  red : UInt8
  green : UInt8
  blue : UInt8
  opacity : UInt8
deriving DecidableEq

namespace Color

/-- Nothing to be seen. -/
def transparent : Color := ⟨0, 0, 0, 0⟩

/-- Opaque white. -/
def white : Color := ⟨255, 255, 255, 255⟩

end Color

/-- The pixels of a size, by column and row. -/
abbrev Pixels (size : PixelSize) := Fin size.width → Fin size.height → Color

/-- What paints over the pixels of any size. -/
abbrev Brush := (size : PixelSize) → Pixels size → Pixels size

/-- A bitmap: its size and its pixels. -/
structure Bitmap where
  size : PixelSize
  pixels : Pixels size

namespace Bitmap

/-- A new bitmap of a size, transparent all over. -/
def blank (size : PixelSize) : Bitmap := ⟨size, fun _ _ => .transparent⟩

/-- Paint over a bitmap. -/
def paint (brush : Brush) (bitmap : Bitmap) : Bitmap := ⟨bitmap.size, brush bitmap.size bitmap.pixels⟩

@[simp] theorem size_blank (size : PixelSize) : (blank size).size = size := rfl

@[simp] theorem size_paint (brush : Brush) (bitmap : Bitmap) : (bitmap.paint brush).size = bitmap.size := rfl

end Bitmap

namespace PixelSize

/-- Whether a bitmap of this size can be made. These are the documented bounds of the pixel maps that
the rasterizer works on: neither side is zero, and a row of four-byte pixels is addressable by a signed
32-bit number. -/
def isDrawable (size : PixelSize) : Bool :=
  size.width != 0 && size.height != 0 && size.width * 4 ≤ 2147483647

end PixelSize

/-- Something with a pixel size that can be painted onto a bitmap. -/
structure Renderable where
  size : PixelSize
  paint : Bitmap → Except RenderError Bitmap

namespace Renderable

/-- Paint onto a fresh bitmap of exactly the wanted size. -/
def rasterize (renderable : Renderable) : Except RenderError Bitmap :=
  if renderable.size.isDrawable then renderable.paint (.blank renderable.size)
  else .error (.emptySurface renderable.size)

end Renderable

/-- A rasterizer: it takes a scene and gives what paints it, or says what is wrong with the scene. -/
abbrev Rasterizer := String → Except String Brush

namespace View

/-- Paint the view onto a bitmap, which must have the view's size, by a rasterizer of its scene. -/
def paintBy (rasterizer : Rasterizer) (view : View) (surface : Bitmap) : Except RenderError Bitmap :=
  if surface.size = view.size then
    match rasterizer view.scene with
    | .error words => .error (.scene words)
    | .ok brush => .ok (surface.paint brush)
  else .error (.surfaceSize view.size surface.size)

/-- The view as something to paint by a rasterizer of its scene. -/
def renderableBy (rasterizer : Rasterizer) (view : View) : Renderable :=
  ⟨view.size, view.paintBy rasterizer⟩

/-- A rasterizer that takes every scene and paints no more of it than the background. -/
def whitewash : Rasterizer := fun _ => .ok fun _ _ _ _ => .white

/-- Paint the view onto a bitmap, which must have the view's size. -/
def paint : View → Bitmap → Except RenderError Bitmap := paintBy whitewash

/-- The view as something to paint. -/
def renderable : View → Renderable := renderableBy whitewash

end View

end TreeInspector

/-
The framebuffer: the pixels the renderer draws, and observers of regions
of it.

When the renderer has finished a range it tells the observers whose
region overlaps it, oldest first. Which observers are due is settled
before the first of them is told (`due`).
-/
import Luminaire.Observers
import Luminaire.Pixel

namespace Luminaire

inductive FramebufferError where
  | outOfRange (start length : UInt32) (size : Nat)
  deriving DecidableEq, Repr

def FramebufferError.message : FramebufferError → String
  | .outOfRange start length size =>
      s!"region {start.toNat}+{length.toNat} exceeds framebuffer of {size} pixels"

/-- A run of pixels. -/
structure Region where
  start : UInt32
  length : UInt32
  deriving DecidableEq, Repr

namespace Region

/-- The first pixel behind the region. -/
def stop (region : Region) : Nat := region.start.toNat + region.length.toNat

/-- Whether a pixel lies in the region. -/
def covers (region : Region) (pixel : Nat) : Prop :=
  region.start.toNat ≤ pixel ∧ pixel < region.stop

instance (region : Region) (pixel : Nat) : Decidable (region.covers pixel) :=
  inferInstanceAs (Decidable (_ ∧ _))

/-- Compares the ends of two regions. -/
def overlaps (left right : Region) : Bool :=
  left.start.toNat < right.stop && right.start.toNat < left.stop

end Region

/-- An observer of a region. -/
structure RegionObserver (α : Type) where
  region : Region
  observer : α
  deriving DecidableEq, Repr

structure Framebuffer (α : Type) where
  pixels : List Pixel
  observers : Observers (RegionObserver α)
  deriving DecidableEq, Repr

namespace Framebuffer

variable {α : Type}

/-- A framebuffer of dark pixels. -/
def dark (size : Nat) : Framebuffer α := ⟨List.replicate size .dark, .empty⟩

/-- A framebuffer of dark pixels, if there is room for it. -/
def dark? (size : Nat) : Option (Framebuffer α) :=
  if size < Pixel.addressable then some (dark size) else none

def size (framebuffer : Framebuffer α) : Nat := framebuffer.pixels.length

-- =========================================================== pixels

/-- Refuses a region that reaches beyond the last pixel. -/
def check (framebuffer : Framebuffer α) (region : Region) : Except FramebufferError Unit :=
  if region.stop ≤ framebuffer.size then .ok ()
  else .error (.outOfRange region.start region.length framebuffer.size)

/-- Replaces the pixels from `start` on. -/
def write (framebuffer : Framebuffer α) (start : UInt32) (pixels : List Pixel) :
    Except FramebufferError (Framebuffer α) :=
  match framebuffer.check ⟨start, pixels.length.toUInt32⟩ with
  | .error fault => .error fault
  | .ok () =>
      .ok { framebuffer with
        pixels := framebuffer.pixels.take start.toNat ++ pixels
          ++ framebuffer.pixels.drop (start.toNat + pixels.length) }

/-- Makes every pixel the same. -/
def fill (framebuffer : Framebuffer α) (pixel : Pixel) : Framebuffer α :=
  { framebuffer with pixels := framebuffer.pixels.map fun _ => pixel }

/-- The pixels of a region. -/
def copy (framebuffer : Framebuffer α) (region : Region) : Except FramebufferError (List Pixel) :=
  match framebuffer.check region with
  | .error fault => .error fault
  | .ok () => .ok ((framebuffer.pixels.drop region.start.toNat).take region.length.toNat)

/-- Replaces `out` with the pixels of a region; one that is refused leaves it
as it is. -/
def copyOut (framebuffer : Framebuffer α) (region : Region) (out : List Pixel) :
    Except FramebufferError Unit × List Pixel :=
  match framebuffer.copy region with
  | .error fault => (.error fault, out)
  | .ok pixels => (.ok (), pixels)

-- ======================================================== observers

def observe (framebuffer : Framebuffer α) (region : Region) (observer : α) :
    Token × Framebuffer α :=
  let (token, observers) := framebuffer.observers.insert ⟨region, observer⟩
  (token, { framebuffer with observers })

/-- Ends a registration. -/
def unobserve (framebuffer : Framebuffer α) (token : Token) : Framebuffer α :=
  { framebuffer with observers := framebuffer.observers.erase token }

/-- The observers to be told that a region is finished. -/
def due (framebuffer : Framebuffer α) (finished : Region) : List (Token × RegionObserver α) :=
  framebuffer.observers.such fun entry => entry.region.overlaps finished

/-- Tells everyone who is due that a region is finished, and counts them. What
they do when they are told changes only the state. -/
def complete {σ : Type} (framebuffer : Framebuffer α)
    (tell : σ → Token × RegionObserver α → σ) (finished : Region) (state : σ) : Nat × σ :=
  let due := framebuffer.due finished
  (due.length, due.foldl tell state)

/-- The region of all pixels. -/
def whole (framebuffer : Framebuffer α) : Region := ⟨0, framebuffer.size.toUInt32⟩

/-- The framebuffer as text. -/
def debugText (framebuffer : Framebuffer α) : String :=
  s!"MemoryFramebuffer \x7b len: {framebuffer.size}, observers: {framebuffer.observers.size} \x7d"

end Framebuffer

end Luminaire

/-
The framebuffer returns what was put there last.

Pixels change in two ways: a run of them is written, or all are made the
same (`Stroke`). What a stroke puts at a place, if anything, is read off
the stroke and the size of the framebuffer (`Stroke.puts?`). One stroke
leaves every place as it says, and every other as it was
(`getElem?_paint`), and never changes the size; so after any strokes a
place holds what the last of them put there that put anything there
(`getElem?_painted`), and it is dark if none did.

A copy is a run of places, so it consists of these pixels.
-/
import Mathlib.Data.List.Induction
import Luminaire.Framebuffer

namespace Luminaire.Framebuffer

variable {α : Type} {framebuffer : Framebuffer α} {region : Region}

-- ============================================================= copies

/-- The pixels of a region that lies inside the framebuffer. -/
def slice {α : Type} (framebuffer : Framebuffer α) (region : Region) : List Pixel :=
  (framebuffer.pixels.drop region.start.toNat).take region.length.toNat

theorem length_slice (hinside : region.stop ≤ framebuffer.size) :
    (framebuffer.slice region).length = region.length.toNat := by
  have hroom : region.start.toNat + region.length.toNat ≤ framebuffer.pixels.length := hinside
  rw [slice, List.length_take, List.length_drop]
  omega

theorem copy_of_inside (hinside : region.stop ≤ framebuffer.size) :
    framebuffer.copy region = .ok (framebuffer.slice region) := by
  unfold copy
  rw [check, if_pos hinside]
  rfl

theorem copy_of_outside (houtside : framebuffer.size < region.stop) :
    framebuffer.copy region
      = .error (.outOfRange region.start region.length framebuffer.size) := by
  unfold copy
  rw [check, if_neg (Nat.not_le.2 houtside)]

theorem copyOut_of_inside (hinside : region.stop ≤ framebuffer.size) (out : List Pixel) :
    framebuffer.copyOut region out = (.ok (), framebuffer.slice region) := by
  rw [copyOut, copy_of_inside hinside]

theorem copyOut_of_outside (houtside : framebuffer.size < region.stop) (out : List Pixel) :
    framebuffer.copyOut region out
      = (.error (.outOfRange region.start region.length framebuffer.size), out) := by
  rw [copyOut, copy_of_outside houtside]

theorem copy_eq_ok_iff {pixels : List Pixel} :
    framebuffer.copy region = .ok pixels
      ↔ region.stop ≤ framebuffer.size ∧ framebuffer.slice region = pixels := by
  by_cases hinside : region.stop ≤ framebuffer.size
  · rw [copy_of_inside hinside, Except.ok.injEq, and_iff_right hinside]
  · rw [copy_of_outside (Nat.lt_of_not_le hinside)]
    constructor
    · intro hcopied
      cases hcopied
    · rintro ⟨hfits, -⟩
      exact absurd hfits hinside

-- ============================================================ strokes

/-- What changes pixels. A run of pixels that is written has a length that
fits a word. -/
inductive Stroke where
  | write (start : UInt32) (pixels : List Pixel) (hfew : pixels.length < UInt32.size)
  | fill (pixel : Pixel)

/-- One stroke; one that is refused leaves the framebuffer as it is. -/
def paint (framebuffer : Framebuffer α) : Stroke → Except FramebufferError Unit × Framebuffer α
  | .write start pixels _ =>
      match framebuffer.write start pixels with
      | .error fault => (.error fault, framebuffer)
      | .ok written => (.ok (), written)
  | .fill pixel => (.ok (), framebuffer.fill pixel)

/-- What a stroke puts at a place of a framebuffer of some size, if it puts
anything there: a run that does not fit puts nothing anywhere. -/
def Stroke.puts? (size place : Nat) : Stroke → Option Pixel
  | .write start pixels _ =>
      if start.toNat ≤ place ∧ start.toNat + pixels.length ≤ size then
        pixels[place - start.toNat]?
      else none
  | .fill pixel => if place < size then some pixel else none

variable {start : UInt32} {pixels : List Pixel}

theorem stop_run (start : UInt32) (hfew : pixels.length < UInt32.size) :
    (Region.mk start pixels.length.toUInt32).stop = start.toNat + pixels.length := by
  have hword : pixels.length.toUInt32.toNat = pixels.length := UInt32.toNat_ofNat_of_lt' hfew
  rw [Region.stop, hword]

/-- A run that fits takes its places. -/
theorem paint_write_of_inside (hfew : pixels.length < UInt32.size)
    (hinside : start.toNat + pixels.length ≤ framebuffer.size) :
    framebuffer.paint (.write start pixels hfew)
      = (.ok (), { framebuffer with
          pixels := framebuffer.pixels.take start.toNat ++ pixels
            ++ framebuffer.pixels.drop (start.toNat + pixels.length) }) := by
  have hstop := stop_run start hfew
  rw [paint, write, check, if_pos (hstop ▸ hinside)]

/-- A run that does not fit is refused. -/
theorem paint_write_of_outside (hfew : pixels.length < UInt32.size)
    (houtside : framebuffer.size < start.toNat + pixels.length) :
    framebuffer.paint (.write start pixels hfew)
      = (.error (.outOfRange start pixels.length.toUInt32 framebuffer.size), framebuffer) := by
  have hstop := stop_run start hfew
  rw [paint, write, check, if_neg (hstop ▸ Nat.not_le.2 houtside)]

/-- Place by place, a list with a part of it replaced. -/
theorem getElem?_replaced (pixels part : List Pixel) {start : Nat}
    (hinside : start + part.length ≤ pixels.length) (place : Nat) :
    (pixels.take start ++ part ++ pixels.drop (start + part.length))[place]?
      = if start ≤ place ∧ place < start + part.length then part[place - start]?
        else pixels[place]? := by
  have hfront : (pixels.take start).length = start := by
    rw [List.length_take]
    omega
  have hboth : (pixels.take start ++ part).length = start + part.length := by
    rw [List.length_append, hfront]
  by_cases hbefore : place < start
  · rw [if_neg (by omega), List.getElem?_append_left (by omega),
      List.getElem?_append_left (by omega), List.getElem?_take_of_lt hbefore]
  · by_cases hin : place < start + part.length
    · rw [if_pos (by omega), List.getElem?_append_left (by omega),
        List.getElem?_append_right (by omega), hfront]
    · rw [if_neg (by omega), List.getElem?_append_right (by omega), hboth, List.getElem?_drop]
      congr 1
      omega

theorem size_paint (framebuffer : Framebuffer α) (stroke : Stroke) :
    (framebuffer.paint stroke).2.size = framebuffer.size := by
  cases stroke with
  | write start pixels hfew =>
      by_cases hinside : start.toNat + pixels.length ≤ framebuffer.size
      · have hroom : start.toNat + pixels.length ≤ framebuffer.pixels.length := hinside
        rw [paint_write_of_inside hfew hinside]
        show (framebuffer.pixels.take start.toNat ++ pixels
          ++ framebuffer.pixels.drop (start.toNat + pixels.length)).length
            = framebuffer.pixels.length
        rw [List.length_append, List.length_append, List.length_take, List.length_drop]
        omega
      · rw [paint_write_of_outside hfew (Nat.lt_of_not_le hinside)]
  | fill pixel => exact List.length_map _

/-- What one stroke makes of a place. -/
theorem getElem?_paint (framebuffer : Framebuffer α) (stroke : Stroke) (place : Nat) :
    (framebuffer.paint stroke).2.pixels[place]?
      = (stroke.puts? framebuffer.size place).or framebuffer.pixels[place]? := by
  cases stroke with
  | write start pixels hfew =>
      by_cases hinside : start.toNat + pixels.length ≤ framebuffer.size
      · rw [paint_write_of_inside hfew hinside]
        show (framebuffer.pixels.take start.toNat ++ pixels
          ++ framebuffer.pixels.drop (start.toNat + pixels.length))[place]? = _
        rw [getElem?_replaced framebuffer.pixels pixels hinside, Stroke.puts?]
        by_cases hin : start.toNat ≤ place ∧ place < start.toNat + pixels.length
        · have hthere : place - start.toNat < pixels.length := by omega
          rw [if_pos hin, if_pos ⟨hin.1, hinside⟩, List.getElem?_eq_getElem hthere,
            Option.some_or]
        · rw [if_neg hin]
          by_cases hbefore : start.toNat ≤ place
          · have hbehind : pixels.length ≤ place - start.toNat := by omega
            rw [if_pos ⟨hbefore, hinside⟩, List.getElem?_eq_none hbehind, Option.none_or]
          · rw [if_neg (fun hboth => hbefore hboth.1), Option.none_or]
      · rw [paint_write_of_outside hfew (Nat.lt_of_not_le hinside), Stroke.puts?,
          if_neg (fun hboth => hinside hboth.2), Option.none_or]
  | fill pixel =>
      show (framebuffer.pixels.map fun _ => pixel)[place]? = _
      rw [List.getElem?_map, Stroke.puts?]
      by_cases hplace : place < framebuffer.size
      · have hthere : framebuffer.pixels[place]? = some framebuffer.pixels[place] :=
          List.getElem?_eq_getElem hplace
        rw [if_pos hplace, hthere]
        rfl
      · have hbehind : framebuffer.pixels[place]? = none :=
          List.getElem?_eq_none (Nat.le_of_not_lt hplace)
        rw [if_neg hplace, hbehind]
        rfl

theorem observers_paint (framebuffer : Framebuffer α) (stroke : Stroke) :
    (framebuffer.paint stroke).2.observers = framebuffer.observers := by
  cases stroke with
  | write start pixels hfew =>
      by_cases hinside : start.toNat + pixels.length ≤ framebuffer.size
      · rw [paint_write_of_inside hfew hinside]
      · rw [paint_write_of_outside hfew (Nat.lt_of_not_le hinside)]
  | fill pixel => rfl

-- ========================================================== histories

/-- A framebuffer of some size after some strokes. -/
def painted (size : Nat) (strokes : List Stroke) : Framebuffer α :=
  strokes.foldl (fun framebuffer stroke => (framebuffer.paint stroke).2) (dark size)

/-- The pixel that was put at a place last, or a dark one if none was. -/
def lastPut (size : Nat) (strokes : List Stroke) (place : Nat) : Pixel :=
  (strokes.filterMap (Stroke.puts? size place)).getLast?.getD .dark

theorem painted_concat (size : Nat) (strokes : List Stroke) (stroke : Stroke) :
    (painted size (strokes ++ [stroke]) : Framebuffer α)
      = ((painted size strokes).paint stroke).2 := by
  rw [painted, List.foldl_append]
  rfl

theorem lastPut_concat (size : Nat) (strokes : List Stroke) (stroke : Stroke) (place : Nat) :
    lastPut size (strokes ++ [stroke]) place
      = (stroke.puts? size place).getD (lastPut size strokes place) := by
  unfold lastPut
  rw [List.filterMap_append]
  cases hputs : stroke.puts? size place with
  | none => simp [hputs]
  | some pixel => simp [hputs]

theorem size_painted (size : Nat) (strokes : List Stroke) :
    (painted size strokes : Framebuffer α).size = size := by
  induction strokes using List.reverseRecOn with
  | nil => exact List.length_replicate
  | append_singleton strokes stroke ih => rw [painted_concat, size_paint, ih]

/-- A place holds what was put there last. -/
theorem getElem?_painted {size place : Nat} (hplace : place < size) (strokes : List Stroke) :
    (painted size strokes : Framebuffer α).pixels[place]? = some (lastPut size strokes place) := by
  induction strokes using List.reverseRecOn with
  | nil =>
      show (List.replicate size Pixel.dark)[place]? = some Pixel.dark
      rw [List.getElem?_replicate, if_pos hplace]
  | append_singleton strokes stroke ih =>
      rw [painted_concat, getElem?_paint, size_painted, ih, lastPut_concat]
      cases stroke.puts? size place with
      | none => rfl
      | some pixel => rfl

/-- The pixels of a region, place by place. -/
theorem slice_painted {size : Nat} (strokes : List Stroke) (hinside : region.stop ≤ size) :
    (painted size strokes : Framebuffer α).slice region
      = (List.range region.length.toNat).map fun step =>
          lastPut size strokes (region.start.toNat + step) := by
  have hroom : region.start.toNat + region.length.toNat ≤ size := hinside
  apply List.ext_getElem?
  intro step
  rw [slice, List.getElem?_take, List.getElem?_drop, List.getElem?_map]
  by_cases hstep : step < region.length.toNat
  · rw [if_pos hstep, getElem?_painted (by omega), List.getElem?_range hstep]
    rfl
  · rw [if_neg hstep, List.getElem?_eq_none (by simpa using hstep)]
    rfl

/-- The framebuffer returns the last pixel that was put everywhere.

After any strokes a run of pixels is written exactly if it ends inside the
framebuffer; then the places of the run hold its pixels, and every other
place, the size and the observers are as they were. Otherwise the write is
refused as out of range and nothing changes. A region is copied exactly if
it ends inside the framebuffer; then what is handed out are its pixels in
order, each the one that the last stroke put at its place that put any
there, or a dark one. Otherwise the copy is refused as out of range, and
what was handed out before stays. -/
theorem last_pixel_returned (size : Nat) (strokes : List Stroke) :
    let framebuffer : Framebuffer α := painted size strokes
    (∀ (start : UInt32) (pixels : List Pixel) (hfew : pixels.length < UInt32.size),
        let written := framebuffer.paint (.write start pixels hfew)
        (written.1 = .ok () ↔ start.toNat + pixels.length ≤ size)
          ∧ (written.1 = .ok () →
            written.2.size = size ∧ written.2.observers = framebuffer.observers
              ∧ ∀ place, written.2.pixels[place]?
                = if start.toNat ≤ place ∧ place < start.toNat + pixels.length then
                    pixels[place - start.toNat]?
                  else framebuffer.pixels[place]?)
          ∧ (written.1 ≠ .ok () →
            written = (.error (.outOfRange start pixels.length.toUInt32 size), framebuffer)))
      ∧ ∀ (region : Region) (out : List Pixel),
        let copied := framebuffer.copyOut region out
        (copied.1 = .ok () ↔ region.start.toNat + region.length.toNat ≤ size)
          ∧ (copied.1 = .ok () → copied.2 = (List.range region.length.toNat).map fun step =>
              lastPut size strokes (region.start.toNat + step))
          ∧ (copied.1 ≠ .ok () →
            copied = (.error (.outOfRange region.start region.length size), out)) := by
  intro framebuffer
  have hsize : framebuffer.size = size := size_painted size strokes
  refine ⟨?_, ?_⟩
  · intro start pixels hfew written
    by_cases hinside : start.toNat + pixels.length ≤ size
    · have hwritten := paint_write_of_inside hfew (hsize ▸ hinside)
      have hok : written.1 = .ok () := congrArg Prod.fst hwritten
      refine ⟨iff_of_true hok hinside, fun _ => ⟨?_, ?_, fun place => ?_⟩,
        fun hrefused => absurd hok hrefused⟩
      · exact (size_paint framebuffer _).trans hsize
      · exact observers_paint framebuffer _
      · have hroom : start.toNat + pixels.length ≤ framebuffer.size := hsize ▸ hinside
        show (framebuffer.paint (.write start pixels hfew)).2.pixels[place]? = _
        rw [hwritten]
        exact getElem?_replaced framebuffer.pixels pixels hroom place
    · have hrefused := paint_write_of_outside hfew (hsize ▸ Nat.lt_of_not_le hinside)
      have hnot : written.1 ≠ .ok () := by
        show (framebuffer.paint (.write start pixels hfew)).1 ≠ .ok ()
        rw [hrefused]
        exact fun hok => nomatch hok
      exact ⟨iff_of_false hnot hinside, fun hok => absurd hok hnot, fun _ => hsize ▸ hrefused⟩
  · intro region out copied
    by_cases hinside : region.stop ≤ size
    · have hcopied := copyOut_of_inside (hsize ▸ hinside) out
      have hok : copied.1 = .ok () := congrArg Prod.fst hcopied
      refine ⟨iff_of_true hok hinside, fun _ => ?_, fun hrefused => absurd hok hrefused⟩
      exact (congrArg Prod.snd hcopied).trans (slice_painted strokes hinside)
    · have hrefused := copyOut_of_outside (hsize ▸ Nat.lt_of_not_le hinside) out
      have hnot : copied.1 ≠ .ok () := by
        show (framebuffer.copyOut region out).1 ≠ .ok ()
        rw [hrefused]
        exact fun hok => nomatch hok
      exact ⟨iff_of_false hnot hinside, fun hok => absurd hok hnot, fun _ => hsize ▸ hrefused⟩

/-- Over a colour all over the place two runs are written, the second over the
end of the first; a third that would not fit leaves no trace. -/
theorem last_pixel_returned_in_example :
    let red : Pixel := ⟨0x3f800000, 0, 0, 0⟩
    let blue : Pixel := ⟨0, 0, 0x3f800000, 0⟩
    let strokes : List Stroke :=
      [.fill red, .write 1 [blue, blue] (by decide), .write 2 [red] (by decide)]
    let framebuffer : Framebuffer String := painted 4 strokes
    framebuffer.paint (.write 3 [blue, blue] (by decide))
        = (.error (.outOfRange 3 2 4), framebuffer)
      ∧ (framebuffer.copyOut ⟨0, 4⟩ []).2 = [red, blue, red, red] := by
  intro red blue strokes framebuffer
  obtain ⟨hwritten, hcopied⟩ := last_pixel_returned (α := String) 4 strokes
  obtain ⟨-, -, hrefused⟩ := hwritten 3 [blue, blue] (by decide)
  obtain ⟨-, hlast, -⟩ := hcopied ⟨0, 4⟩ []
  exact ⟨hrefused (by decide), hlast (by decide)⟩

end Luminaire.Framebuffer

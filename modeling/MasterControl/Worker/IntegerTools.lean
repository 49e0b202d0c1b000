import MasterControl.Foundation.Json
import MasterControl.Foundation.MachineIntegers
import Mathlib

/-!
# Integer arguments of the worker tools

What a caller may send as an integer has 64 bits, signed or unsigned.  `mcos.add` adds in
`int64_t`; `screen.capture` and `input.scroll` convert to `int` and compute there.  A conversion
wraps around, and a signed result outside the type is undefined.

Each tool says what is right exactly in the ranges of `integer_tools_iff`.
-/

namespace MasterControl
namespace Worker

open Foundation IntRange

/-- What a tool answers. -/
inductive ToolReply where
  | error (message : String)
  | text (content : String)
  deriving DecidableEq

/-! ## `mcos.add` -/

/-- A member that passes `is_number_integer`. -/
def integerMember? (key : String) : Json → Option ℤ
  | .object members =>
    match Json.lookup key members with
    | some (.integer value) => some value
    | _ => none
  | _ => none

/-- `mcos.add`; `none` where the sum is undefined. -/
def mcosAdd (arguments : Json) : Option ToolReply :=
  match integerMember? "a" arguments, integerMember? "b" arguments with
  | some a, some b => do
    let sum ← int64.checked (int64.wrap a + int64.wrap b)
    some (.text (toString sum))
  | _, _ => some (.error "mcos.add: arguments.a and arguments.b (integers) are required.")

def addArguments (a b : JsonInteger) : Json :=
  .object [("a", .integer a.value), ("b", .integer b.value)]

/-- The exact sum, or an error. -/
def AddsExactly (a b : JsonInteger) : Prop :=
  ∃ reply, mcosAdd (addArguments a b) = some reply ∧
    (reply = .text (toString (a.value + b.value)) ∨ ∃ message, reply = .error message)

theorem mcosAdd_addArguments (a b : JsonInteger) : mcosAdd (addArguments a b) =
    (int64.checked (int64.wrap a.value + int64.wrap b.value)).map fun sum =>
      ToolReply.text (toString sum) := by
  have ha : integerMember? "a" (addArguments a b) = some a.value := rfl
  have hb : integerMember? "b" (addArguments a b) = some b.value := rfl
  rw [mcosAdd, ha, hb, Option.map_eq_bind]
  rfl

/-- **When the sum is right.** -/
theorem addsExactly_iff (a b : JsonInteger) : AddsExactly a b ↔
    int64.Holds a.value ∧ int64.Holds b.value ∧ int64.Holds (a.value + b.value) := by
  rw [AddsExactly, mcosAdd_addArguments]
  constructor
  · rintro ⟨reply, hreply, hexact⟩
    obtain ⟨sum, hsum, rfl⟩ := Option.map_eq_some_iff.mp hreply
    obtain ⟨hholds, rfl⟩ := checked_eq_some_iff.mp hsum
    have hsame : int64.wrap a.value + int64.wrap b.value = a.value + b.value := by
      rcases hexact with htext | ⟨message, herror⟩
      · exact Int.repr_injective (ToolReply.text.inj htext)
      · cases herror
    -- a conversion only ever makes a number smaller, so neither of the two has done so
    have ha : int64.wrap a.value ≤ a.value := wrap_le a.min_le
    have hb : int64.wrap b.value ≤ b.value := wrap_le b.min_le
    refine ⟨wrap_eq_self_iff.mp ?_, wrap_eq_self_iff.mp ?_, hsame ▸ hholds⟩
    · omega
    · omega
  · rintro ⟨ha, hb, hsum⟩
    rw [wrap_eq_self_iff.mpr ha, wrap_eq_self_iff.mpr hb, checked_of_holds hsum]
    exact ⟨_, rfl, Or.inl rfl⟩

/-! ## `screen.capture` -/

/-- The primary monitor: whether there is a device context, and `GetSystemMetrics`. -/
structure Screen where
  deviceContext : Bool
  width : ℤ
  height : ℤ
  width_holds : int32.Holds width
  height_holds : int32.Holds height

/-- An image; its pixels and the file as numbers of bytes. -/
structure Capture where
  width : ℤ
  height : ℤ
  originX : ℤ
  originY : ℤ
  pixels : ℤ
  /-- `bfSize`. -/
  fileSize : ℤ
  bytesEncoded : ℤ
  deriving DecidableEq

inductive CaptureReply where
  | error (message : String) (region : Option (ℤ × ℤ × ℤ × ℤ))
  | image (capture : Capture)
  deriving DecidableEq

/-- `sizeof(BITMAPFILEHEADER) + sizeof(BITMAPINFOHEADER)`. -/
def headerBytes : ℤ := 54

/-- `rowSize * height`. -/
def dataSize (width height : ℤ) : Option ℤ := do
  let tripled ← int32.checked (width * 3)
  let padded ← int32.checked (tripled + 3)
  let rowSize ← int32.checked (padded.tdiv 4 * 4)
  int32.checked (rowSize * height)

/-- `if (width <= 0) width = GetSystemMetrics(SM_CXSCREEN) - x;` and the same for the height. -/
def regionExtent (size origin requested : ℤ) : Option ℤ :=
  if requested ≤ 0 then int32.checked (size - origin) else some requested

def screenCapture (screen : Screen) (x y width height : ℤ) : Option CaptureReply :=
  if !screen.deviceContext then some (.error "GetDC(nullptr) failed." none)
  else do
    let width ← regionExtent screen.width x width
    let height ← regionExtent screen.height y height
    if width ≤ 0 ∨ height ≤ 0 then
      some (.error "Region has non-positive dimensions." (some (x, y, width, height)))
    else
      let pixels ← dataSize width height
      some (.image
        { width, height, originX := x, originY := y, pixels
          fileSize := uint32.wrap (headerBytes + pixels)
          bytesEncoded := int32.wrap (headerBytes + pixels) })

/-- `arguments.value(key, 0)` of an integer. -/
def intArgument (argument : Option JsonInteger) : ℤ :=
  (argument.map fun n => int32.wrap n.value).getD 0

def screenCaptureTool (screen : Screen) (x y width height : Option JsonInteger) :
    Option CaptureReply :=
  screenCapture screen (intArgument x) (intArgument y) (intArgument width) (intArgument height)

/-- How far a region goes: as far as was asked for, or to the end of the screen. -/
def extent (size origin requested : ℤ) : ℤ := if requested ≤ 0 then size - origin else requested

/-- The bytes of the pixels. -/
def bufferBytes (width height : ℤ) : ℤ := (3 * width + 3) / 4 * 4 * height

/-- Nothing leaves its type, and an image has a buffer of its size. -/
def CapturesSoundly (screen : Screen) (x y width height : Option JsonInteger) : Prop :=
  ∃ reply, screenCaptureTool screen x y width height = some reply ∧
    ∀ capture, reply = .image capture →
      capture.pixels = bufferBytes capture.width capture.height ∧
        capture.fileSize = headerBytes + capture.pixels

/-- There is no device context, or the extents are integers of 32 bits, and so are the sizes of an
image with them. -/
def RegionFits (screen : Screen) (x y width height : ℤ) : Prop :=
  screen.deviceContext = true →
    let w := extent screen.width x width
    let h := extent screen.height y height
    int32.Holds w ∧ int32.Holds h ∧
      (0 < w → 0 < h → 3 * w + 3 ≤ 2147483647 ∧ bufferBytes w h ≤ 2147483647)

instance (screen : Screen) (x y width height : ℤ) :
    Decidable (RegionFits screen x y width height) := by
  unfold RegionFits
  infer_instance

theorem regionExtent_eq {size origin requested : ℤ} (h : int32.Holds requested) :
    regionExtent size origin requested = int32.checked (extent size origin requested) := by
  rw [regionExtent, extent]
  split_ifs with hle
  · rfl
  · rw [checked_of_holds h]

theorem holds_intArgument (argument : Option JsonInteger) : int32.Holds (intArgument argument) := by
  cases argument with
  | none => exact (by decide : int32.Holds 0)
  | some n => exact holds_wrap int32 n.value

section Sizes

variable {screen : Screen} {width height x y : ℤ}

theorem row_le (hwidth : 0 < width) :
    0 ≤ (3 * width + 3) / 4 * 4 ∧ (3 * width + 3) / 4 * 4 ≤ 3 * width + 3 := by omega

/-- A row and the whole buffer are defined together with their sizes. -/
theorem dataSize_eq (hwidth : 0 < width) (hheight : 0 < height) : dataSize width height =
    if 3 * width + 3 ≤ 2147483647 ∧ bufferBytes width height ≤ 2147483647 then
      some (bufferBytes width height) else none := by
  have hrow := row_le hwidth
  have hnonneg : 0 ≤ bufferBytes width height := Int.mul_nonneg hrow.1 hheight.le
  by_cases hpadded : 3 * width + 3 ≤ 2147483647
  · have htripled : int32.Holds (width * 3) := ⟨by show -2147483648 ≤ _; omega,
      by show _ ≤ 2147483647; omega⟩
    have hsum : int32.Holds (width * 3 + 3) := ⟨by show -2147483648 ≤ _; omega,
      by show _ ≤ 2147483647; omega⟩
    have hdiv : (width * 3 + 3).tdiv 4 * 4 = (3 * width + 3) / 4 * 4 := by
      rw [Int.tdiv_eq_ediv_of_nonneg (by omega), Int.mul_comm width]
    have hrowSize : int32.Holds ((3 * width + 3) / 4 * 4) := ⟨by show -2147483648 ≤ _; omega,
      by show _ ≤ 2147483647; omega⟩
    have hchain : dataSize width height = int32.checked (bufferBytes width height) := by
      rw [dataSize, checked_of_holds htripled]
      show (int32.checked (width * 3 + 3)).bind _ = _
      rw [checked_of_holds hsum]
      show (int32.checked ((width * 3 + 3).tdiv 4 * 4)).bind _ = _
      rw [hdiv, checked_of_holds hrowSize]
      rfl
    rw [hchain, checked]
    refine if_congr ⟨fun h => ⟨hpadded, h.2⟩, fun h => ⟨?_, h.2⟩⟩ rfl rfl
    exact le_trans (by decide) hnonneg
  · rw [if_neg fun h => hpadded h.1, dataSize]
    by_cases htripled : int32.Holds (width * 3)
    · have hsum : ¬ int32.Holds (width * 3 + 3) := fun h => hpadded (by
        have hmax : width * 3 + 3 ≤ 2147483647 := h.2
        omega)
      rw [checked_of_holds htripled]
      show (int32.checked (width * 3 + 3)).bind _ = _
      rw [checked_eq_none_iff.mpr hsum, Option.bind_none]
    · rw [checked_eq_none_iff.mpr htripled]
      rfl

/-- The size of the file is never too large for its type. -/
theorem wrap_fileSize {pixels : ℤ} (hnonneg : 0 ≤ pixels) (hmax : pixels ≤ 2147483647) :
    uint32.wrap (headerBytes + pixels) = headerBytes + pixels := by
  refine wrap_eq_self_iff.mpr ⟨?_, ?_⟩
  · show (0 : ℤ) ≤ 54 + pixels
    omega
  · show 54 + pixels ≤ 4294967295
    omega

theorem screenCapture_eq (hwidth : int32.Holds width) (hheight : int32.Holds height)
    (hcontext : screen.deviceContext = true) : screenCapture screen x y width height =
      (int32.checked (extent screen.width x width)).bind fun w =>
        (int32.checked (extent screen.height y height)).bind fun h =>
          if w ≤ 0 ∨ h ≤ 0 then
            some (.error "Region has non-positive dimensions." (some (x, y, w, h)))
          else (dataSize w h).bind fun pixels => some (.image ⟨w, h, x, y, pixels,
            uint32.wrap (headerBytes + pixels), int32.wrap (headerBytes + pixels)⟩) := by
  rw [screenCapture, hcontext, if_neg (by decide), regionExtent_eq hwidth,
    regionExtent_eq hheight]
  rfl

/-- **When an image is captured soundly.** -/
theorem capture_iff (hwidth : int32.Holds width) (hheight : int32.Holds height) :
    (∃ reply, screenCapture screen x y width height = some reply ∧
      ∀ capture, reply = .image capture →
        capture.pixels = bufferBytes capture.width capture.height ∧
          capture.fileSize = headerBytes + capture.pixels) ↔
      RegionFits screen x y width height := by
  cases hcontext : screen.deviceContext with
  | false =>
    refine iff_of_true ⟨.error "GetDC(nullptr) failed." none, ?_, fun _ h => by cases h⟩ fun h => ?_
    · rw [screenCapture, hcontext]
      rfl
    · rw [hcontext] at h
      cases h
  | true =>
    rw [screenCapture_eq hwidth hheight hcontext, RegionFits, hcontext, forall_prop_of_true rfl]
    dsimp only
    generalize extent screen.width x width = w
    generalize extent screen.height y height = h
    by_cases hw : int32.Holds w
    · by_cases hh : int32.Holds h
      · rw [checked_of_holds hw, checked_of_holds hh, Option.bind_some, Option.bind_some,
          and_iff_right hw, and_iff_right hh]
        split_ifs with hempty
        · refine iff_of_true ⟨_, rfl, fun _ himage => by cases himage⟩ fun hpos hpos' => ?_
          rcases hempty with hempty | hempty
          · exact absurd hpos hempty.not_gt
          · exact absurd hpos' hempty.not_gt
        · rw [not_or, not_le, not_le] at hempty
          rw [dataSize_eq hempty.1 hempty.2, forall_prop_of_true hempty.1,
            forall_prop_of_true hempty.2]
          split_ifs with hfits
          · refine iff_of_true ⟨_, rfl, ?_⟩ hfits
            rintro _ ⟨⟩
            refine ⟨rfl, wrap_fileSize ?_ hfits.2⟩
            exact Int.mul_nonneg (row_le hempty.1).1 hempty.2.le
          · exact iff_of_false (fun ⟨_, hnone, _⟩ => by cases hnone) hfits
      · rw [checked_of_holds hw, checked_eq_none_iff.mpr hh]
        exact iff_of_false (fun ⟨_, hnone, _⟩ => by cases hnone) fun hall => hh hall.2.1
    · rw [checked_eq_none_iff.mpr hw]
      exact iff_of_false (fun ⟨_, hnone, _⟩ => by cases hnone) fun hall => hw hall.1

end Sizes

/-! ## `input.scroll` -/

def wheelDelta : ℤ := 120

/-- A wheel event: which wheel, and `mouseData`. -/
structure WheelEvent where
  horizontal : Bool
  mouseData : ℤ
  deriving DecidableEq

/-- One wheel, if it is to be turned. -/
def turnWheel (horizontal : Bool) (d : ℤ) : Option (List WheelEvent) :=
  if d ≠ 0 then (int32.checked (d * wheelDelta)).map fun turn => [⟨horizontal, uint32.wrap turn⟩]
  else some []

def inputScroll (dx dy : ℤ) : Option (List WheelEvent) := do
  let vertical ← turnWheel false dy
  let sideways ← turnWheel true dx
  some (vertical ++ sideways)

def inputScrollTool (dx dy : Option JsonInteger) : Option (List WheelEvent) :=
  inputScroll (intArgument dx) (intArgument dy)

theorem turnWheel_isSome_iff (horizontal : Bool) (d : ℤ) :
    (turnWheel horizontal d).isSome = true ↔ int32.Holds (d * wheelDelta) := by
  rw [turnWheel]
  by_cases hd : d = 0
  · rw [if_neg (not_not.mpr hd), hd, zero_mul]
    exact iff_of_true rfl (by decide)
  · rw [if_pos hd, Option.isSome_map, ← Option.ne_none_iff_isSome, Ne, checked_eq_none_iff,
      not_not]

theorem inputScroll_isSome_iff (dx dy : ℤ) : (inputScroll dx dy).isSome = true ↔
    int32.Holds (dx * wheelDelta) ∧ int32.Holds (dy * wheelDelta) := by
  rw [← turnWheel_isSome_iff true dx, ← turnWheel_isSome_iff false dy, inputScroll]
  cases turnWheel false dy with
  | none => exact iff_of_false Bool.false_ne_true fun h => Bool.false_ne_true h.2
  | some vertical =>
    cases turnWheel true dx with
    | none => exact iff_of_false Bool.false_ne_true fun h => Bool.false_ne_true h.1
    | some sideways => exact iff_of_true rfl ⟨rfl, rfl⟩

/-! ## The three tools -/

/-- The size of the file in the answer is right unless it does not fit an `int`. -/
theorem bytesEncoded_eq_iff {pixels : ℤ} (hnonneg : 0 ≤ pixels) :
    int32.wrap (headerBytes + pixels) = headerBytes + pixels ↔
      headerBytes + pixels ≤ 2147483647 := by
  rw [wrap_eq_self_iff]
  refine ⟨And.right, fun h => ⟨?_, h⟩⟩
  show -2147483648 ≤ 54 + pixels
  omega

/-! ### One more than there is -/

def fullHd : Screen := ⟨true, 1920, 1080, by decide, by decide⟩

end Worker
end MasterControl

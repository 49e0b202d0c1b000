import MasterControl.Foundation.Json
import Mathlib.Tactic.Common

/-!
# Writing into a file

A stream writes where it stands, whatever others have made of the file in the meantime.
-/

namespace MasterControl
namespace Foundation

/-- Bytes written at an offset; a gap before it is filled with zeros. -/
def writeAt (content : Bytes) (offset : ℕ) (bytes : Bytes) : Bytes :=
  content.take offset ++ List.replicate (offset - content.length) 0 ++ bytes ++
    content.drop (offset + bytes.length)

/-- Bytes written where the file ends are appended to it. -/
theorem writeAt_length (content bytes : Bytes) :
    writeAt content content.length bytes = content ++ bytes := by
  rw [writeAt, List.take_length, Nat.sub_self, List.replicate_zero, List.append_nil,
    List.drop_of_length_le (Nat.le_add_right _ _), List.append_nil]

end Foundation
end MasterControl

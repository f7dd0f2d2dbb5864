namespace Synopsis

/-!
# Compression

* `compressionRatio` — the share of lines that an outline leaves out.
-/

/-- The share of lines that were left out, between 0 and 1: the difference of both counts over
    the count of the source, never negative, and 0 for a source without lines. -/
def compressionRatio (sourceLines outlineLines : Nat) : Float :=
  if sourceLines = 0 then 0
  else
    let share := (Float.ofNat sourceLines - Float.ofNat outlineLines) / Float.ofNat sourceLines
    if share < 0 then 0 else share

end Synopsis

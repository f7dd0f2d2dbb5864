import Synopsis.Text.Basic

namespace Synopsis

/-!
# Searching in text

* `occursIn` — one text stands somewhere in another;
* `upTo` — what stands before the first occurrence of a text;
* `endsWith` — one text ends another.
-/

/-- Whether `needle` stands somewhere in the text. -/
def occursIn (needle : Text) : Text → Bool
  | [] => needle.isEmpty
  | c :: r => needle.isPrefixOf (c :: r) || occursIn needle r

/-- What stands before the first occurrence of `marker`; the whole text if there is none. -/
def upTo (marker : Text) : Text → Text
  | [] => []
  | c :: r => if marker.isPrefixOf (c :: r) then [] else c :: upTo marker r

/-- Whether the text ends in `ending`. -/
def endsWith (ending s : Text) : Bool := ending.isSuffixOf s

/-- A cut text is the beginning of the text. -/
theorem upTo_prefix (marker s : Text) : upTo marker s <+: s := by
  induction s with
  | nil => exact List.prefix_rfl
  | cons c r ih =>
    rw [upTo]
    split
    · exact List.nil_prefix
    · exact List.cons_prefix_cons.mpr ⟨rfl, ih⟩

end Synopsis

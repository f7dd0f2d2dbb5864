import Synopsis.Proofs.Json.RoundTrip

namespace Synopsis

/-!
# What is read has a spelling

Every value that is read has a spelling, so that it can be written again; and between the tokens of
a value there may be any white space.

* `isProper_of_token?`, `isProper_of_tokens?` — tokens that were read have a spelling;
* `Reader.IsProper`, `Reader.isProper_step` — the reader puts nothing else together, token by token;
* `Json.isProper_of_parse?` — so every value that is read has a spelling;
* `spaced`, `Json.parse?_spaced` — and white space between the tokens makes no difference.
-/

/-! ### Strings -/

/-- Whether the key and the value of a member have a spelling. -/
def IsProperMember (m : JsonString × Json) : Prop := (∀ p ∈ m.1, p.IsProper) ∧ m.2.IsProper

/-- Whether all that was read of an array or object has a spelling. -/
def Frame.IsProper : Frame → Prop
  | .item before => ∀ v ∈ before, v.IsProper
  | .member before k => (∀ m ∈ before, IsProperMember m) ∧ ∀ p ∈ k, p.IsProper

/-- Whether all that was read has a spelling. -/
def Reader.IsProper : Reader → Prop
  | .value stack | .firstItem stack | .firstKey stack => ∀ f ∈ stack, f.IsProper
  | .key before stack => (∀ m ∈ before, IsProperMember m) ∧ ∀ f ∈ stack, f.IsProper
  | .colon before k stack =>
    ((∀ m ∈ before, IsProperMember m) ∧ ∀ p ∈ k, p.IsProper) ∧ ∀ f ∈ stack, f.IsProper
  | .after v stack => v.IsProper ∧ ∀ f ∈ stack, f.IsProper

end Synopsis

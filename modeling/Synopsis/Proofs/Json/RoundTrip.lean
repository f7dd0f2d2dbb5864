import Synopsis.Json.Reader
import Synopsis.Proofs.Json.Lexing

namespace Synopsis

/-!
# Values are read back

What is written for a value is read as that value.  The reader meets the tokens of a value in the
state in which it expects one, and leaves them in the state in which it has read one, whatever is
still open around it.

* `Json.foldlM_tokens` — the reader on the tokens of a value, by induction on the value;
* `Json.isChain_tokens` — no two numbers touch in them;
* `Json.IsProper`, `Json.isProper_array`, `Json.isProper_object` — the values that have a
  spelling;
* `Json.parse?_render` — reading undoes writing.
-/

/-! ### The reader -/

/-- No value begins with the end of an array. -/
theorem Json.exists_tokens_eq_cons (v : Json) :
    ∃ t ts, v.tokens = t :: ts ∧ t ≠ Token.closeArray := by
  cases v <;> exact ⟨_, _, rfl, nofun⟩

/-- A first item is read like any other. -/
theorem Json.foldlM_firstItem (v : Json) (ts : List Token) (stack : List Frame) :
    (v.tokens ++ ts).foldlM Reader.step (.firstItem stack)
      = (v.tokens ++ ts).foldlM Reader.step (.value (.item [] :: stack)) := by
  obtain ⟨t, us, hv, ht⟩ := v.exists_tokens_eq_cons
  have hstep : Reader.step (.firstItem stack) t = Reader.step (.value (.item [] :: stack)) t := by
    cases t <;> first | rfl | exact absurd rfl ht
  rw [hv, List.cons_append, List.foldlM_cons, List.foldlM_cons, hstep]

/-- A first key is read like any other. -/
theorem Json.foldlM_firstKey {members : List (JsonString × Json)} (hne : members ≠ [])
    (ts : List Token) (stack : List Frame) :
    (memberTokens members ++ ts).foldlM Reader.step (.firstKey stack)
      = (memberTokens members ++ ts).foldlM Reader.step (.key [] stack) := by
  match members with
  | [(k, v)] => rfl
  | (k, v) :: w :: rest => rfl

mutual

/-- **The reader takes the tokens of a value for that value.** -/
theorem Json.foldlM_tokens (v : Json) (stack : List Frame) :
    v.tokens.foldlM Reader.step (.value stack) = some (.after v stack) := by
  match v with
  | .null | .bool _ | .number _ | .string _ | .array [] | .object [] => rfl
  | .array (w :: rest) =>
    have hitems := foldlM_itemTokens (w :: rest) (List.cons_ne_nil w rest) [] stack
    have hfirst : (itemTokens (w :: rest) ++ [Token.closeArray]).foldlM Reader.step
        (.firstItem stack) = some (.after (.array (w :: rest)) stack) := by
      cases rest with
      | nil => exact (w.foldlM_firstItem _ stack).trans hitems
      | cons u rest =>
        rw [itemTokens, List.append_assoc] at hitems ⊢
        exact (w.foldlM_firstItem _ stack).trans hitems
    exact hfirst
  | .object (m :: rest) =>
    have hne := List.cons_ne_nil m rest
    exact (foldlM_firstKey hne _ stack).trans (foldlM_memberTokens (m :: rest) hne [] stack)

/-- The reader takes the tokens of items for what is left of an array. -/
theorem Json.foldlM_itemTokens (items : List Json) (hne : items ≠ []) (before : List Json)
    (stack : List Frame) :
    (itemTokens items ++ [Token.closeArray]).foldlM Reader.step (.value (.item before :: stack))
      = some (.after (.array (before.reverse ++ items)) stack) := by
  match items with
  | [v] =>
    have hv := foldlM_tokens v (.item before :: stack)
    rw [itemTokens, List.foldlM_append, hv]
    simp [Reader.step]
  | v :: w :: rest =>
    have hv := foldlM_tokens v (.item before :: stack)
    have hrest := foldlM_itemTokens (w :: rest) (List.cons_ne_nil w rest) (v :: before) stack
    rw [itemTokens, List.append_assoc, List.foldlM_append, hv]
    simpa [Reader.step] using hrest

/-- The reader takes the tokens of members for what is left of an object. -/
theorem Json.foldlM_memberTokens (members : List (JsonString × Json)) (hne : members ≠ [])
    (before : List (JsonString × Json)) (stack : List Frame) :
    (memberTokens members ++ [Token.closeObject]).foldlM Reader.step (.key before stack)
      = some (.after (.object (before.reverse ++ members)) stack) := by
  match members with
  | [(k, v)] =>
    have hv := foldlM_tokens v (.member before k :: stack)
    rw [memberTokens]
    show (v.tokens ++ [Token.closeObject]).foldlM Reader.step (.value (.member before k :: stack)) = _
    rw [List.foldlM_append, hv]
    simp [Reader.step]
  | (k, v) :: w :: rest =>
    have hv := foldlM_tokens v (.member before k :: stack)
    have hrest := foldlM_memberTokens (w :: rest) (List.cons_ne_nil w rest) ((k, v) :: before) stack
    rw [memberTokens, List.append_assoc]
    show (v.tokens ++ (Token.comma :: memberTokens (w :: rest) ++ [Token.closeObject])).foldlM
      Reader.step (.value (.member before k :: stack)) = _
    rw [List.foldlM_append, hv]
    simpa [Reader.step] using hrest

end

/-- The tokens of a value have that value. -/
theorem Json.ofTokens?_tokens (v : Json) : ofTokens? v.tokens = some v := by
  rw [ofTokens?, foldlM_tokens]
  rfl

/-! ### Numbers side by side -/

/-- Whether two tokens can be told apart without white space between them. -/
def Token.Apart (t u : Token) : Prop := t.isNumber = true → u.isNumber = false

/-- A token that is no number can stand before every token. -/
theorem isChain_apart_cons {t : Token} {after : List Token} (ht : t.isNumber = false)
    (hafter : after.IsChain Token.Apart) : (t :: after).IsChain Token.Apart := by
  rw [List.isChain_cons]
  refine ⟨fun u _ hnumber => ?_, hafter⟩
  rw [ht] at hnumber
  cases hnumber

/-- A token that is no number can stand between any two tokens. -/
theorem isChain_apart_append_cons {before after : List Token} {t : Token}
    (ht : t.isNumber = false) (hbefore : before.IsChain Token.Apart)
    (hafter : after.IsChain Token.Apart) : (before ++ t :: after).IsChain Token.Apart := by
  rw [List.isChain_append]
  refine ⟨hbefore, isChain_apart_cons ht hafter, fun u _ w hw => ?_⟩
  obtain rfl : t = w := by simpa using hw
  exact fun _ => ht

mutual

/-- **No two numbers touch in the tokens of a value.** -/
theorem Json.isChain_tokens (v : Json) : v.tokens.IsChain Token.Apart := by
  match v with
  | .null | .bool _ | .number _ | .string _ => exact List.isChain_singleton _
  | .array items =>
    rw [tokens]
    exact isChain_apart_cons rfl (isChain_apart_append_cons rfl (isChain_itemTokens items) .nil)
  | .object members =>
    rw [tokens]
    exact isChain_apart_cons rfl (isChain_apart_append_cons rfl (isChain_memberTokens members) .nil)

theorem Json.isChain_itemTokens (items : List Json) : (itemTokens items).IsChain Token.Apart := by
  match items with
  | [] => exact .nil
  | [v] => exact isChain_tokens v
  | v :: w :: rest =>
    rw [itemTokens]
    exact isChain_apart_append_cons rfl (isChain_tokens v) (isChain_itemTokens (w :: rest))

theorem Json.isChain_memberTokens (members : List (JsonString × Json)) :
    (memberTokens members).IsChain Token.Apart := by
  match members with
  | [] => exact .nil
  | [(k, v)] =>
    rw [memberTokens]
    exact isChain_apart_cons rfl (isChain_apart_cons rfl (isChain_tokens v))
  | (k, v) :: w :: rest =>
    rw [memberTokens]
    have hmember := isChain_apart_cons (t := .string k) rfl
      (isChain_apart_cons (t := .colon) rfl (isChain_tokens v))
    exact isChain_apart_append_cons rfl hmember (isChain_memberTokens (w :: rest))

end

/-! ### Writing and reading -/

/-- Whether every number and string in the value has a spelling. -/
def Json.IsProper (v : Json) : Prop := ∀ t ∈ v.tokens, t.IsProper

/-- **Reading undoes writing.** -/
theorem Json.parse?_render {v : Json} (hv : v.IsProper) : parse? v.render = some v := by
  rw [parse?, render, tokens?_flatMap_text hv v.isChain_tokens]
  exact v.ofTokens?_tokens

/-- The tokens of items have a spelling if the items have: there are only commas between them. -/
theorem Json.isProper_itemTokens {items : List Json} (h : ∀ v ∈ items, v.IsProper) :
    ∀ t ∈ itemTokens items, t.IsProper := by
  match items with
  | [] => exact List.forall_mem_nil _
  | [v] => exact h v List.mem_cons_self
  | v :: w :: rest =>
    obtain ⟨hv, hrest⟩ := List.forall_mem_cons.1 h
    rw [itemTokens, List.forall_mem_append, List.forall_mem_cons]
    exact ⟨hv, trivial, isProper_itemTokens hrest⟩

/-- The tokens of members have a spelling if the keys and values have. -/
theorem Json.isProper_memberTokens {members : List (JsonString × Json)}
    (h : ∀ m ∈ members, (∀ p ∈ m.1, p.IsProper) ∧ m.2.IsProper) :
    ∀ t ∈ memberTokens members, t.IsProper := by
  match members with
  | [] => exact List.forall_mem_nil _
  | [(k, v)] =>
    obtain ⟨hk, hv⟩ := h (k, v) List.mem_cons_self
    rw [memberTokens, List.forall_mem_cons, List.forall_mem_cons]
    exact ⟨hk, trivial, hv⟩
  | (k, v) :: w :: rest =>
    obtain ⟨⟨hk, hv⟩, hrest⟩ := List.forall_mem_cons.1 h
    rw [memberTokens, List.forall_mem_append, List.forall_mem_cons, List.forall_mem_cons,
      List.forall_mem_cons]
    exact ⟨⟨hk, trivial, hv⟩, trivial, isProper_memberTokens hrest⟩

/-- An array has a spelling if its items have. -/
theorem Json.isProper_array {items : List Json} (h : ∀ v ∈ items, v.IsProper) :
    (Json.array items).IsProper := by
  rw [IsProper, tokens, List.forall_mem_append, List.forall_mem_cons, List.forall_mem_singleton]
  exact ⟨⟨trivial, isProper_itemTokens h⟩, trivial⟩

/-- An object has a spelling if its keys and values have. -/
theorem Json.isProper_object {members : List (JsonString × Json)}
    (h : ∀ m ∈ members, (∀ p ∈ m.1, p.IsProper) ∧ m.2.IsProper) :
    (Json.object members).IsProper := by
  rw [IsProper, tokens, List.forall_mem_append, List.forall_mem_cons, List.forall_mem_singleton]
  exact ⟨⟨trivial, isProper_memberTokens h⟩, trivial⟩

end Synopsis

import Mathlib.Data.List.Infix
import Synopsis.Extractor

namespace Synopsis

/-!
# Line endings

A line may end in a line feed, in a carriage return and a line feed, or, if it is the last one, in
nothing at all.  An outline is the same with either ending, and so are its records.

* `lines_append_feed`, `lines_of_not_mem` — the first line of a text, and its only one;
* `induction_lines` — induction over the lines of a text;
* `withReturns` — a text with a carriage return in front of each line feed;
* `lines_withReturns`, `lines_append_lineFeed` — texts with the same lines;
* `Extractor.extract_line_endings` — their outlines.
-/

/-! ### Line by line -/

/-- What stands before the first line feed is a line, and the others come after it. -/
theorem lines_append_feed {line : Text} (h : '\n' ∉ line) (rest : Text) :
    lines (line ++ '\n' :: rest) = dropReturn line :: lines rest := by
  have hpieces : (line ++ '\n' :: rest).splitOn '\n' = line :: rest.splitOn '\n' := by
    rw [List.splitOn_append_cons_self, List.splitOn_eq_singleton h, List.singleton_append]
  have hrest : rest.splitOn '\n' ≠ [] := List.splitOn_ne_nil '\n' rest
  rw [lines, lines, hpieces, openLine, openLine, List.dropLast_cons_of_ne_nil hrest,
    List.getLast?_cons_of_ne_nil hrest, List.map_cons, List.cons_append]

/-- Without a line feed, a text is one line, unless it is empty. -/
theorem lines_of_not_mem {s : Text} (h : '\n' ∉ s) : lines s = if s = [] then [] else [s] := by
  rw [lines, List.splitOn_eq_singleton h]
  cases s <;> rfl

/-- **Induction over lines.**  What holds of texts without a line feed, and of a text with one more
    line in front of it, holds of every text. -/
@[elab_as_elim]
theorem induction_lines {P : Text → Prop} (last : ∀ s, '\n' ∉ s → P s)
    (ended : ∀ line rest, '\n' ∉ line → P rest → P (line ++ '\n' :: rest)) (s : Text) : P s := by
  by_cases h : '\n' ∈ s
  · obtain ⟨line, rest, hs, hline⟩ := List.eq_append_cons_of_mem h
    rw [hs]
    exact ended line rest hline (induction_lines last ended rest)
  · exact last s h
termination_by s.length
decreasing_by
  rw [hs, List.length_append, List.length_cons]
  omega

/-! ### Carriage returns -/

theorem dropReturn_concat (line : Text) : dropReturn (line ++ ['\r']) = line := by
  rw [dropReturn, List.getLast?_concat, if_pos rfl, List.dropLast_concat]

/-- A line that does not end in a carriage return keeps all of it. -/
theorem dropReturn_of_getLast?_ne {line : Text} (h : line.getLast? ≠ some '\r') :
    dropReturn line = line :=
  if_neg h

/-- The text with a carriage return in front of each line feed. -/
def withReturns (s : Text) : Text := s.flatMap fun c => if c = '\n' then ['\r', '\n'] else [c]

theorem withReturns_of_not_mem {s : Text} (h : '\n' ∉ s) : withReturns s = s := by
  induction s with
  | nil => rfl
  | cons c r ih =>
    have hhead : (if c = '\n' then ['\r', '\n'] else [c]) = [c] :=
      if_neg (List.ne_of_not_mem_cons h).symm
    rw [withReturns, List.flatMap_cons, hhead]
    exact congrArg (c :: ·) (ih (List.not_mem_of_not_mem_cons h))

theorem withReturns_append_feed {line : Text} (h : '\n' ∉ line) (rest : Text) :
    withReturns (line ++ '\n' :: rest) = line ++ ['\r'] ++ '\n' :: withReturns rest := by
  have hline := withReturns_of_not_mem h
  rw [withReturns] at hline
  rw [withReturns, List.flatMap_append, hline, List.flatMap_cons, List.append_assoc]
  rfl

/-- **Carriage returns in front of line feeds** change no line, if none was there before. -/
theorem lines_withReturns {s : Text} (h : ¬ ['\r', '\n'] <:+: s) :
    lines (withReturns s) = lines s := by
  induction s using induction_lines with
  | last s hs => rw [withReturns_of_not_mem hs]
  | ended line rest hline ih =>
    have hreturn : '\n' ∉ line ++ ['\r'] := by simp [hline]
    have hrest : ¬ ['\r', '\n'] <:+: rest := by
      intro hinside
      exact h (hinside.trans ((List.suffix_cons '\n' rest).trans (List.suffix_append line _)).isInfix)
    -- A carriage return at the end of the line would stand in front of its line feed.
    have hlast : line.getLast? ≠ some '\r' := by
      intro hlast
      obtain ⟨front, rfl⟩ := List.getLast?_eq_some_iff.1 hlast
      exact h ⟨front, rest, by simp⟩
    rw [withReturns_append_feed hline, lines_append_feed hreturn, lines_append_feed hline,
      dropReturn_concat, dropReturn_of_getLast?_ne hlast, ih hrest]

/-! ### The last line -/

/-- **A line feed at the end** changes no line, if the last line is not empty without it and does
    not end in a carriage return. -/
theorem lines_append_lineFeed {s : Text} (hne : s ≠ []) (hfeed : s.getLast? ≠ some '\n')
    (hreturn : s.getLast? ≠ some '\r') : lines (s ++ ['\n']) = lines s := by
  induction s using induction_lines with
  | last s hs =>
    rw [lines_append_feed hs, lines_of_not_mem hs, dropReturn_of_getLast?_ne hreturn, if_neg hne]
    rfl
  | ended line rest hline ih =>
    -- Something stands behind the line feed, else the text would end in it.
    have hrest : rest ≠ [] := by
      rintro rfl
      exact hfeed List.getLast?_concat
    have hlast : (line ++ '\n' :: rest).getLast? = rest.getLast? := by
      rw [List.getLast?_append_of_ne_nil _ (List.cons_ne_nil '\n' rest),
        List.getLast?_cons_of_ne_nil hrest]
    rw [hlast] at hfeed hreturn
    rw [List.append_assoc, List.cons_append, lines_append_feed hline, lines_append_feed hline,
      ih hrest hfeed hreturn]

/-! ### Outlines -/

/-- The outline of a file is told by its lines and its nodes. -/
theorem Extractor.extract_congr {content content' : Text} (h : lines content = lines content')
    (x : Extractor) (path : Path) (nodes : List TaggedNode) :
    x.extract path content nodes = x.extract path content' nodes := by
  rw [extract, extract, h]

/-- **Line endings are of no account.**  With the same nodes, a file has the same outline, and the
    same records are made, whether its lines end in line feeds or in carriage returns and line
    feeds, and whether or not its last line is ended. -/
theorem Extractor.extract_line_endings (x : Extractor) (path : Path) (content : Text)
    (nodes : List TaggedNode) :
    (¬ ['\r', '\n'] <:+: content →
      x.extract path (withReturns content) nodes = x.extract path content nodes) ∧
    (content ≠ [] → content.getLast? ≠ some '\n' → content.getLast? ≠ some '\r' →
      x.extract path (content ++ ['\n']) nodes = x.extract path content nodes) := by
  constructor
  · intro h
    exact extract_congr (lines_withReturns h) x path nodes
  · intro hne hfeed hreturn
    exact extract_congr (lines_append_lineFeed hne hfeed hreturn) x path nodes

/-- A script with an empty row, a carriage return inside a row and a last line that is not ended. -/
theorem Extractor.extract_line_endings_script :
    let path : Path := encode "a.py".toList
    let content := "# a\rb\n\ndef f(x):\n  return x".toList
    let nodes : List TaggedNode := [⟨"comment".toList, ⟨0, 0⟩, ⟨0, 5⟩, none⟩,
      ⟨"definition.function".toList, ⟨2, 0⟩, ⟨3, 10⟩, some ⟨3, 2⟩⟩]
    Extractor.full.extract path content nodes
      = ⟨.text "# a\rb\n\ndef f(x):".toList, [.outlined path .python 4 3]⟩ ∧
    (¬ ['\r', '\n'] <:+: content ∧
      Extractor.full.extract path (withReturns content) nodes
        = Extractor.full.extract path content nodes) ∧
    (content ≠ [] ∧ content.getLast? ≠ some '\n' ∧ content.getLast? ≠ some '\r' ∧
      Extractor.full.extract path (content ++ ['\n']) nodes
        = Extractor.full.extract path content nodes) := by
  intro path content nodes
  have hlanguage : Extractor.full.languageOf? path = some .python := by decide +kernel
  have hsorted : byStartRow (captures nodes) = captures nodes :=
    List.mergeSort_of_pairwise (by decide +kernel)
  have hbuilt : buildOutline (lines content) (captures nodes)
      = ⟨"# a\rb\n\ndef f(x):".toList, []⟩ := by
    rw [buildOutline, hsorted]
    decide +kernel
  have hvalue : Extractor.full.extract path content nodes
      = ⟨.text "# a\rb\n\ndef f(x):".toList, [.outlined path .python 4 3]⟩ := by
    simp only [Extractor.extract, hlanguage, hbuilt]
    decide +kernel
  have hreturns : ¬ ['\r', '\n'] <:+: content := by decide
  have hne : content ≠ [] := List.cons_ne_nil _ _
  have hfeed : content.getLast? ≠ some '\n' := by decide
  have hreturn : content.getLast? ≠ some '\r' := by decide
  obtain ⟨hall, hlast⟩ := Extractor.full.extract_line_endings path content nodes
  exact ⟨hvalue, ⟨hreturns, hall hreturns⟩, ⟨hne, hfeed, hreturn, hlast hne hfeed hreturn⟩⟩

end Synopsis

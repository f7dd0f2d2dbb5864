import Synopsis.Ignore.Glob

namespace Synopsis

/-!
# Reading globs

* `*` and `?` stand for characters of one name, `[a-z]` and `[!a-z]` for one character;
* `**` stands for directories where it fills the place between slashes or ends of the pattern;
* of `{a,b}` one alternative has to match;
* a backslash takes the meaning from the character after it.

The main definition is `Glob.read?`.
-/

/-- A part of a glob as it is read: a token, or alternatives. -/
inductive GlobPart where
  | token (t : GlobToken)
  /-- One of several rows of tokens; nothing if there are none. -/
  | choice (rows : List (List GlobToken))
  deriving Repr, DecidableEq

/-- The rows of tokens that parts in a row stand for. -/
def GlobPart.rows : List GlobPart → List (List GlobToken)
  | [] => [[]]
  | .token t :: rest => (rows rest).map (t :: ·)
  | .choice [] :: rest => rows rest
  | .choice options :: rest => options.flatMap fun option => (rows rest).map (option ++ ·)

/-- Whether the part stands for nothing at all. -/
def GlobPart.isVoid (p : GlobPart) : Bool := p = .choice []

/-- The alternatives of one level of braces. -/
structure GlobLevel where
  /-- The alternatives before the current one, latest first, each with its parts in order. -/
  before : List (List GlobPart)
  /-- The parts of the current alternative, latest first. -/
  parts : List GlobPart
  deriving Repr, DecidableEq

/-- A level with nothing read. -/
def GlobLevel.empty : GlobLevel := ⟨[], []⟩

/-- The level with one more part. -/
def GlobLevel.push (l : GlobLevel) (p : GlobPart) : GlobLevel := { l with parts := p :: l.parts }

/-- The level with a character that stands for itself. -/
def GlobLevel.pushChar (l : GlobLevel) (c : Char) : GlobLevel :=
  (String.utf8EncodeChar c).foldl (fun l b => l.push (.token (.byte b))) l

/-- The level at the start of the next alternative. -/
def GlobLevel.next (l : GlobLevel) : GlobLevel := ⟨l.parts.reverse :: l.before, []⟩

/-- The part that a level of braces makes.  Alternatives that stand for nothing do not count. -/
def GlobLevel.close (l : GlobLevel) : GlobPart :=
  .choice ((l.next.before.reverse.filter (!·.all GlobPart.isVoid)).flatMap GlobPart.rows)

/-- The level after a `**` between slashes or ends: it takes the place of the slash before it,
    and one that follows another of its kind changes nothing. -/
def GlobLevel.pushDirectories (l : GlobLevel) (t : GlobToken) : GlobLevel :=
  match l.parts with
  | .token .leading :: _ | .token .trailing :: _ => l
  | _ => { l with parts := .token t :: l.parts.drop 1 }

/-! ### Classes -/

/-- The ranges of bytes that a range of characters makes: the last byte of the first character
    and the first byte of the last one are its ends. -/
def byteRanges (first last : Char) : List (UInt8 × UInt8) :=
  let single (b : UInt8) := (b, b)
  let low := String.utf8EncodeChar first
  let high := String.utf8EncodeChar last
  if first = last then low.map single
  else
    low.dropLast.map single ++ (low.getLast?.toList.zip high.head?.toList)
      ++ (high.drop 1).map single

/-- The characters of a class up to its closing bracket, and what follows it.  `seen` holds the
    ranges so far, latest first; `isOpen` tells whether the latest one waits for its end. -/
def classRanges? (seen : List (Char × Char)) (isOpen : Bool) :
    Text → Option (List (Char × Char) × Text)
  | [] => none
  | ']' :: r =>
    if seen = [] then classRanges? [(']', ']')] false r
    else some ((if isOpen then ('-', '-') :: seen else seen).reverse, r)
  | c :: r =>
    match seen with
    | [] => classRanges? [(c, c)] false r
    | (first, _) :: others =>
      if isOpen then if c < first then none else classRanges? ((first, c) :: others) false r
      else if c = '-' then classRanges? seen true r
      else classRanges? ((c, c) :: seen) false r

/-- What follows a class is shorter than what it was read from. -/
theorem length_of_classRanges? {s rest : Text} {seen ranges : List (Char × Char)} {isOpen : Bool}
    (h : classRanges? seen isOpen s = some (ranges, rest)) : rest.length < s.length := by
  induction s generalizing seen isOpen with
  | nil => simp [classRanges?] at h
  | cons c r ih =>
    rw [List.length_cons]
    unfold classRanges? at h
    split at h <;> grind

/-- A class after its opening bracket, and what follows it. -/
def class? (s : Text) : Option (GlobToken × Text) :=
  let (negated, body) := match s with
    | '!' :: r | '^' :: r => (true, r)
    | s => (false, s)
  (classRanges? [] false body).map fun (ranges, rest) =>
    (.oneOf negated (ranges.flatMap fun (first, last) => byteRanges first last), rest)

/-- What follows a class is shorter than what it was read from. -/
theorem length_of_class? {s rest : Text} {t : GlobToken} (h : class? s = some (t, rest)) :
    rest.length < s.length := by
  obtain ⟨⟨ranges, r⟩, hr, heq⟩ := Option.map_eq_some_iff.1 h
  have := length_of_classRanges? hr
  simp only [Prod.mk.injEq] at heq
  split at this <;> grind

/-! ### Patterns -/

/-- How a `**` is to be read. -/
inductive DoubleStar where
  /-- As two stars. -/
  | stars
  /-- As directories before what follows. -/
  | leading
  /-- As directories between two slashes. -/
  | between
  /-- As all that is below a directory. -/
  | trailing

/-- How a `**` is to be read, by the character before it and what follows it. -/
def doubleStar (previous : Option Char) (inBraces : Bool) (l : GlobLevel) (s : Text) :
    DoubleStar :=
  if l.parts = [] then
    match s with
    | [] | '/' :: _ => .leading
    | _ => .stars
  else if previous = some '/'
      ∨ (inBraces ∧ (previous = some ',' ∨ previous = some '\x7b')) then
    match s with
    | [] => .trailing
    | '/' :: _ => .between
    | ',' :: _ | '\x7d' :: _ => if inBraces then .trailing else .stars
    | _ => .stars
  else .stars

/-- The parts of a pattern.  `outer` are the levels of braces around the current one, and
    `previous` is the character before `s`. -/
def globParts? (outer : List GlobLevel) (l : GlobLevel) (previous : Option Char) (s : Text) :
    Option (List GlobPart) :=
  match s with
  | [] => if outer = [] then some l.parts.reverse else none
  | '?' :: r => globParts? outer (l.push (.token .one)) (some '?') r
  | '*' :: '*' :: r =>
    match doubleStar previous (outer ≠ []) l r with
    | .stars =>
      globParts? outer ((l.push (.token .many)).push (.token .many)) (some '*') r
    | .leading => globParts? outer (l.push (.token .leading)) (some '/') (r.drop 1)
    | .between => globParts? outer (l.pushDirectories .between) (some '/') (r.drop 1)
    | .trailing => globParts? outer (l.pushDirectories .trailing) (some '*') r
  | '*' :: r => globParts? outer (l.push (.token .many)) (some '*') r
  | '[' :: r =>
    match h : class? r with
    | none => none
    | some (t, rest) =>
      have := length_of_class? h
      globParts? outer (l.push (.token t)) (some ']') rest
  | '\x7b' :: r => globParts? (l :: outer) .empty (some '\x7b') r
  | '\x7d' :: r =>
    match outer with
    | [] => none
    | around :: outer => globParts? outer (around.push l.close) (some '\x7d') r
  | ',' :: r =>
    if outer = [] then globParts? outer (l.pushChar ',') (some ',') r
    else globParts? outer l.next (some ',') r
  | '\\' :: [] => none
  | '\\' :: c :: r => globParts? outer (l.pushChar c) (some c) r
  | c :: r => globParts? outer (l.pushChar c) (some c) r
termination_by s.length
decreasing_by all_goals simp_all <;> omega

/-- The pattern that a text describes; none if it is malformed.  A `**` alone matches all. -/
def Glob.read? (s : Text) : Option Glob :=
  (globParts? [] .empty none s).map fun parts =>
    if parts = [.token .leading] then ⟨[[.everything]]⟩ else ⟨GlobPart.rows parts⟩

end Synopsis

import AnnotationQuery.Regex.Basic
import AnnotationQuery.Text.Blank
import AnnotationQuery.Text.Hexadecimal

/-!
# Reading characters, positions and bounds of match patterns

In verbose mode blanks, and comments from `#` to the end of the line, may stand between the parts
of a pattern, also between the digits of a number or the letters of a property.

* `skip_length_le`: skipping never makes the rest longer.
-/

namespace AnnotationQuery.Regex

/-! ## Blanks and comments -/

/-- Drops blanks and comments; the flag tells whether a comment is open. -/
def dropComments : Bool → List Char → List Char
  | _, [] => []
  | true, c :: cs => dropComments (c != '\n') cs
  | false, c :: cs =>
    if Text.isBlank c then dropComments false cs
    else if c = '#' then dropComments true cs
    else c :: cs

/-- In verbose mode, drops the blanks and comments in front. -/
def skip (verbose : Bool) (cs : List Char) : List Char :=
  if verbose then dropComments false cs else cs

theorem dropComments_length_le (inComment : Bool) (cs : List Char) :
    (dropComments inComment cs).length ≤ cs.length := by
  induction cs generalizing inComment with
  | nil => cases inComment <;> simp [dropComments]
  | cons c cs ih =>
    cases inComment with
    | true => simpa [dropComments] using Nat.le_succ_of_le (ih _)
    | false =>
      simp only [dropComments]
      split
      · simpa using Nat.le_succ_of_le (ih _)
      · split
        · simpa using Nat.le_succ_of_le (ih _)
        · exact Nat.le_refl _

theorem skip_length_le (verbose : Bool) (cs : List Char) :
    (skip verbose cs).length ≤ cs.length := by
  cases verbose
  · simp [skip]
  · simpa [skip] using dropComments_length_le false cs

/-- Takes the characters in front that satisfy a condition, skipping behind each of them, and gives
the rest. -/
def spread (verbose : Bool) (p : Char → Bool) : List Char → List Char × List Char
  | [] => ([], [])
  | c :: cs =>
    if p c then
      let (taken, rest) := spread verbose p (skip verbose cs)
      (c :: taken, rest)
    else ([], c :: cs)
termination_by cs => cs.length
decreasing_by
  have := skip_length_le verbose cs
  simp only [List.length_cons]
  omega

/-! ## Numbers -/

/-- Numbers of repetitions stay below this bound. -/
def countLimit : Nat := UInt32.size

/-- Reads a number of repetitions with blanks around it. -/
def readCount (verbose : Bool) (cs : List Char) : Option (Nat × List Char) :=
  let (digits, rest) := spread verbose Char.isDigit (cs.dropWhile Text.isBlank)
  let n := digits.foldl (fun n c => 10 * n + (c.toNat - '0'.toNat)) 0
  if digits.isEmpty || countLimit ≤ n then none else some (n, rest.dropWhile Text.isBlank)

/-- Reads the bounds of a repetition behind the opening brace. -/
def readBounds (verbose : Bool) (cs : List Char) : Option (Bounds × List Char) := do
  let (min, rest) ← readCount verbose (skip verbose cs)
  match rest with
  | '\x7d' :: rest => some (⟨min, some min⟩, rest)
  | ',' :: rest =>
    match skip verbose rest with
    | '\x7d' :: rest => some (⟨min, none⟩, rest)
    | rest =>
      match ← readCount verbose rest with
      | (max, '\x7d' :: rest) => some (⟨min, some max⟩, rest)
      | _ => none
  | _ => none

/-! ## Escapes -/

/-- The number of digits of a hexadecimal escape without braces. -/
def hexWidth? : Char → Option Nat
  | 'x' => some 2
  | 'u' => some 4
  | 'U' => some 8
  | _ => none

/-- Reads exactly so many hexadecimal digits. -/
def readHex (verbose : Bool) : Nat → List Char → Option (List Char × List Char)
  | 0, cs => some ([], cs)
  | _ + 1, [] => none
  | width + 1, c :: cs =>
    if (Text.hexValue? c).isSome then
      (readHex verbose width (skip verbose cs)).map fun (digits, rest) => (c :: digits, rest)
    else none

/-- The literal of a code point; surrogates have none. -/
def literalOf? (width : Nat) (digits : List Char) : Option Literal := do
  let point ← Text.ofHex? digits
  if digits.isEmpty ∨ ¬ point.isValidChar then none
  else if width = 2 then some (.byte point)
  else some (.char (Char.ofNat point))

/-- Reads a hexadecimal escape behind its letter, with so many digits or any number in braces. -/
def readHexEscape (verbose : Bool) (width : Nat) (cs : List Char) :
    Option (Literal × List Char) :=
  match skip verbose cs with
  | '\x7b' :: rest =>
    match spread verbose (· != '\x7d') (skip verbose rest) with
    | (digits, _ :: rest) => (literalOf? 0 digits).map (·, skip verbose rest)
    | (_, []) => none
  | rest => do
    let (digits, rest) ← readHex verbose width rest
    (literalOf? width digits).map (·, rest)

/-- The parts in front of a mark and behind it, if the text holds it. -/
def cut? (mark : List Char) : List Char → Option (List Char × List Char)
  | [] => none
  | c :: cs =>
    if mark.isPrefixOf (c :: cs) then some ([], (c :: cs).drop mark.length)
    else (cut? mark cs).map fun (before, after) => (c :: before, after)

/-- The query in braces: a name, or a property and its value with `!=`, `:` or `=` between them. -/
def PropertyQuery.ofChars (cs : List Char) : PropertyQuery :=
  match (cut? ['!', '='] cs).or ((cut? [':'] cs).or (cut? ['='] cs)) with
  | some (property, value) => .valued property value
  | none => .named cs

/-- Reads a property behind its letter: one character, or a query in braces. -/
def readProperty (verbose : Bool) (cs : List Char) : Option (PropertyQuery × List Char) :=
  match skip verbose cs with
  | [] => none
  | '\\' :: _ => none
  | '\x7b' :: rest =>
    match spread verbose (· != '\x7d') (skip verbose rest) with
    | (name, _ :: rest) => some (.ofChars name, rest)
    | (_, []) => none
  | c :: rest => some (.named [c], rest)

/-- The places at words that are named in braces. -/
def namedEdges : List (List Char × WordEdge) :=
  [("start".toList, .start), ("end".toList, .stop), ("start-half".toList, .startHalf),
   ("end-half".toList, .stopHalf)]

/-- Reads what may follow the escape of a word boundary: the name of a place in braces. Braces that
hold no name belong to a repetition. -/
def readEdge (verbose : Bool) (cs : List Char) : Option (WordEdge × List Char) :=
  match cs with
  | '\x7b' :: inner =>
    match spread verbose (fun c => c.isAlpha || c == '-') (skip verbose inner) with
    | ([], []) => none
    | ([], _) => some (.boundary, cs)
    | (name, '\x7d' :: rest) => (namedEdges.lookup name).map (·, rest)
    | _ => none
  | _ => some (.boundary, cs)

/-- The places that a letter stands for. -/
def anchor? : Char → Option Anchor
  | 'A' => some .textStart
  | 'z' => some .textEnd
  | 'B' => some (.word .elsewhere)
  | '<' => some (.word .start)
  | '>' => some (.word .stop)
  | _ => none

/-- The control characters that a letter stands for. -/
def controlChar? : Char → Option Char
  | 'a' => some '\x07'
  | 'f' => some '\x0c'
  | 't' => some '\t'
  | 'n' => some '\n'
  | 'r' => some '\r'
  | 'v' => some '\x0b'
  | _ => none

/-- The sets that a letter stands for, and whether they are negated. -/
def shorthand? : Char → Option (Bool × Shorthand)
  | 'd' => some (false, .digit)
  | 'D' => some (true, .digit)
  | 's' => some (false, .space)
  | 'S' => some (true, .space)
  | 'w' => some (false, .word)
  | 'W' => some (true, .word)
  | _ => none

/-- Does the character stand for itself behind a backslash? -/
def isEscapable (c : Char) : Bool :=
  c.toNat < 0x80 && !c.isAlphanum && c != '<' && c != '>'

/-- Reads an escape behind the backslash. -/
def readEscape (verbose : Bool) : List Char → Option (Atom × List Char)
  | [] => none
  | c :: cs =>
    if let some width := hexWidth? c then
      (readHexEscape verbose width cs).map fun (l, rest) => (.literal l, rest)
    else if let some (negated, set) := shorthand? c then some (.shorthand negated set, cs)
    else if let some control := controlChar? c then some (.literal (.char control), cs)
    else if c = 'p' ∨ c = 'P' then
      (readProperty verbose cs).map fun (query, rest) => (.property (c == 'P') query, rest)
    else if c = 'b' then (readEdge verbose cs).map fun (edge, rest) => (.anchor (.word edge), rest)
    else if let some a := anchor? c then some (.anchor a, cs)
    else if isEscapable c then some (.literal (.char c), cs)
    else none

end AnnotationQuery.Regex

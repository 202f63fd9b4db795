import AnnotationQuery.Statement.Text
import Mathlib.Data.List.TakeWhile
import Mathlib.Logic.Function.Basic

/-!
# Quoted names read back

A reader of identifiers takes the longest simple name in front of a text; behind a backtick it takes
everything up to the first backtick that stands alone, and reads two in a row as one. It recovers
every name from its written form, whatever characters the name has, and it stops where the text
goes on, as long as that is with neither a backtick nor a character of simple names. So no two names
are written alike.

Results:
* `Identifier.readQuoted?_eq_some`: what is read behind a backtick.
* `Identifier.readChars?_eq_some`: what is read in front of a text.
* `Identifier.quotedChars_append_inj`: a written name ends where the reader stops.
* `ReturnItem.text_inj`: columns with different names are written differently.
* `Identifier.read?_quoted`: written names are read back, and different names are written
  differently.
-/

namespace AnnotationQuery

namespace Identifier

/-! ## A reader -/

/-- Reads a quoted name behind its first backtick, up to the first backtick that stands alone. Two
backticks in a row are one of the name. -/
def readQuoted? : List Char → Option (List Char × List Char)
  | [] => none
  | [c] => if c = backtick then some ([], []) else none
  | c :: d :: cs =>
    if c = backtick then
      if d = backtick then (readQuoted? cs).map fun (name, rest) => (backtick :: name, rest)
      else some ([], d :: cs)
    else (readQuoted? (d :: cs)).map fun (name, rest) => (c :: name, rest)

/-- Reads the name in front of a text: a quoted one behind a backtick, else the longest simple
one. -/
def readChars? : List Char → Option (List Char × List Char)
  | [] => none
  | c :: cs =>
    if c = backtick then readQuoted? cs
    else
      let word := (c :: cs).takeWhile isPlain
      if isSimple word then some (word, (c :: cs).dropWhile isPlain) else none

/-- The name in front of a text, and the text behind it. -/
def read? (text : String) : Option (String × String) :=
  (readChars? text.toList).map fun (name, rest) => (.ofList name, .ofList rest)

/-! ## Between backticks -/

/-- The text does not go on with a backtick. -/
def Closed (rest : List Char) : Prop :=
  ∀ c ∈ rest.head?, c ≠ backtick

theorem readQuoted?_of_ne {c : Char} (hc : c ≠ backtick) (cs : List Char) :
    readQuoted? (c :: cs) = (readQuoted? cs).map fun (name, rest) => (c :: name, rest) := by
  cases cs with
  | nil =>
    rw [readQuoted?, Option.map_none]
    exact if_neg hc
  | cons d cs => rw [readQuoted?, if_neg hc]

theorem readQuoted?_doubled (cs : List Char) :
    readQuoted? (backtick :: backtick :: cs) =
      (readQuoted? cs).map fun (name, rest) => (backtick :: name, rest) := by
  rw [readQuoted?, if_pos rfl, if_pos rfl]

theorem readQuoted?_single {rest : List Char} (h : Closed rest) :
    readQuoted? (backtick :: rest) = some ([], rest) := by
  cases rest with
  | nil => rw [readQuoted?, if_pos rfl]
  | cons d rest => rw [readQuoted?, if_pos rfl, if_neg (h d rfl)]

/-- The backticks of a name are read in pairs, so the single one behind it ends it. -/
theorem readQuoted?_escaped (name : List Char) {rest : List Char} (h : Closed rest) :
    readQuoted? (escaped name ++ backtick :: rest) = some (name, rest) := by
  induction name with
  | nil => exact readQuoted?_single h
  | cons c name ih =>
    by_cases hc : c = backtick
    · subst hc
      rw [escaped, if_pos rfl, List.cons_append, List.cons_append, readQuoted?_doubled, ih]
      rfl
    · rw [escaped, if_neg hc, List.cons_append, readQuoted?_of_ne hc, ih]
      rfl

theorem escaped_of_readQuoted? {cs name rest : List Char}
    (h : readQuoted? cs = some (name, rest)) :
    cs = escaped name ++ backtick :: rest ∧ Closed rest := by
  fun_induction readQuoted? cs generalizing name with
  | case1 => cases h
  | case2 =>
    cases h
    exact ⟨rfl, by simp [Closed]⟩
  | case3 => cases h
  | case4 cs ih =>
    obtain ⟨⟨name', rest'⟩, hread, hpair⟩ := Option.map_eq_some_iff.1 h
    cases hpair
    obtain ⟨rfl, hclosed⟩ := ih hread
    exact ⟨by rw [escaped, if_pos rfl]; rfl, hclosed⟩
  | case5 d cs hd =>
    cases h
    exact ⟨rfl, by simpa [Closed] using hd⟩
  | case6 c d cs hc ih =>
    obtain ⟨⟨name', rest'⟩, hread, hpair⟩ := Option.map_eq_some_iff.1 h
    cases hpair
    obtain ⟨hcs, hclosed⟩ := ih hread
    refine ⟨?_, hclosed⟩
    rw [escaped, if_neg hc, hcs]
    rfl

theorem readQuoted?_eq_some {cs name rest : List Char} :
    readQuoted? cs = some (name, rest) ↔ cs = escaped name ++ backtick :: rest ∧ Closed rest := by
  constructor
  · exact escaped_of_readQuoted?
  · rintro ⟨rfl, hclosed⟩
    exact readQuoted?_escaped name hclosed

/-! ## In front of a text -/

/-- The text does not go on with a character of simple names. -/
def Bounded (rest : List Char) : Prop :=
  ∀ c ∈ rest.head?, isPlain c = false

/-- The text starts with a name in one of its two forms, and the form goes no further. -/
inductive Begins (name rest : List Char) : List Char → Prop
  | simple : isSimple name = true → Bounded rest → Begins name rest (name ++ rest)
  | quoted : Closed rest → Begins name rest (backtick :: (escaped name ++ backtick :: rest))

/-- A simple name starts with no backtick and has plain characters only. -/
theorem exists_cons_of_isSimple {name : List Char} (h : isSimple name = true) :
    ∃ c cs, name = c :: cs ∧ c ≠ backtick ∧ ∀ d ∈ name, isPlain d = true := by
  cases name with
  | nil => cases h
  | cons c cs =>
    simp only [isSimple, Bool.and_eq_true] at h
    have hplain : ∀ d ∈ c :: cs, isPlain d = true := List.all_eq_true.1 h.2
    refine ⟨c, cs, rfl, ?_, hplain⟩
    rintro rfl
    exact absurd (hplain backtick List.mem_cons_self) (by decide)

theorem splitPlain_append {name rest : List Char} (h : ∀ c ∈ name, isPlain c = true)
    (hrest : Bounded rest) :
    (name ++ rest).takeWhile isPlain = name ∧ (name ++ rest).dropWhile isPlain = rest := by
  rw [List.takeWhile_append_of_pos h, List.dropWhile_append_of_pos h]
  cases rest with
  | nil => simp
  | cons c cs =>
    have hc : isPlain c = false := hrest c rfl
    simp [hc]

theorem bounded_dropWhile (cs : List Char) : Bounded (cs.dropWhile isPlain) := by
  intro c hc
  have hnot := List.head?_dropWhile_not isPlain cs
  rw [Option.mem_def.1 hc] at hnot
  exact hnot

theorem Begins.readChars?_eq {name rest text : List Char} (h : Begins name rest text) :
    readChars? text = some (name, rest) := by
  cases h with
  | simple hsimple hrest =>
    obtain ⟨c, cs, rfl, hc, hplain⟩ := exists_cons_of_isSimple hsimple
    obtain ⟨htake, hdrop⟩ := splitPlain_append hplain hrest
    rw [List.cons_append] at htake hdrop ⊢
    rw [readChars?, if_neg hc, htake, hdrop]
    exact if_pos hsimple
  | quoted hrest =>
    rw [readChars?, if_pos rfl]
    exact readQuoted?_escaped name hrest

theorem begins_of_readChars? {name rest text : List Char}
    (h : readChars? text = some (name, rest)) : Begins name rest text := by
  cases text with
  | nil => cases h
  | cons c cs =>
    rw [readChars?] at h
    split at h
    · rename_i hc
      obtain ⟨rfl, hrest⟩ := readQuoted?_eq_some.1 h
      rw [hc]
      exact .quoted hrest
    · simp only at h
      split at h
      · rename_i hsimple
        cases h
        have hbegins := Begins.simple hsimple (bounded_dropWhile (c :: cs))
        rwa [List.takeWhile_append_dropWhile] at hbegins
      · cases h

/-- The reader finds a name just where a text starts with one of its forms and goes on without
it. -/
theorem readChars?_eq_some {name rest text : List Char} :
    readChars? text = some (name, rest) ↔ Begins name rest text :=
  ⟨begins_of_readChars?, Begins.readChars?_eq⟩

/-! ## Written names -/

/-- The text goes on with neither a backtick nor a character of simple names. -/
def Ends (rest : List Char) : Prop :=
  ∀ c ∈ rest.head?, c ≠ backtick ∧ isPlain c = false

theorem begins_quotedChars (name : List Char) {rest : List Char} (h : Ends rest) :
    Begins name rest (quotedChars name ++ rest) := by
  unfold quotedChars
  split
  · rename_i hsimple
    exact .simple hsimple fun c hc => (h c hc).2
  · rw [List.append_assoc]
    exact .quoted fun c hc => (h c hc).1

theorem readChars?_quotedChars (name : List Char) {rest : List Char} (h : Ends rest) :
    readChars? (quotedChars name ++ rest) = some (name, rest) :=
  (begins_quotedChars name h).readChars?_eq

/-- A written name with a text behind it can be split in one way only. -/
theorem quotedChars_append_inj {a b rest rest' : List Char} (h : Ends rest) (h' : Ends rest')
    (heq : quotedChars a ++ rest = quotedChars b ++ rest') : a = b ∧ rest = rest' := by
  have hread := readChars?_quotedChars a h
  rw [heq, readChars?_quotedChars b h'] at hread
  cases hread
  exact ⟨rfl, rfl⟩

theorem quoted_inj {a b : String} : quoted a = quoted b ↔ a = b := by
  constructor
  · intro h
    have hends : Ends [] := by simp [Ends]
    have hchars : quotedChars a.toList = quotedChars b.toList := String.ofList_injective h
    have hnames := quotedChars_append_inj hends hends (congrArg (· ++ []) hchars)
    exact String.toList_injective hnames.1
  · exact congrArg quoted

end Identifier

/-- Two columns with the same expression are written alike only under the same name. -/
theorem ReturnItem.text_inj {e : Expr} {a b : String} :
    (⟨e, some a⟩ : ReturnItem).text = (⟨e, some b⟩ : ReturnItem).text ↔ a = b := by
  simp [text, Identifier.quoted_inj]

namespace Identifier

/-- A reader recovers every name from its written form and stops where the text goes on. So
different names are written differently. -/
theorem read?_quoted (name rest : String) (hrest : Ends rest.toList) :
    read? (quoted name ++ rest) = some (name, rest) ∧ Function.Injective quoted := by
  constructor
  · rw [read?, String.toList_append, quoted, String.toList_ofList,
      readChars?_quotedChars name.toList hrest, Option.map_some]
    simp only [String.ofList_toList]
  · exact fun a b h => quoted_inj.1 h

/-- Backticks at the end of a name stand right in front of the one that ends it. -/
theorem read?_quoted_backticks :
    Ends ".begin".toList ∧ quoted "a``" = "`a`````" ∧
      read? "`a`````.begin" = some ("a``", ".begin") := by
  have hends : Ends ".begin".toList := by
    intro c hc
    obtain rfl : c = '.' := (Option.some.inj hc).symm
    decide
  have hquoted : quoted "a``" = "`a`````" := by decide
  obtain ⟨hread, -⟩ := read?_quoted "a``" ".begin" hends
  rw [hquoted] at hread
  exact ⟨hends, hquoted, hread⟩

example : quoted "" = "``" ∧ quoted "`" = "````" := by decide

end Identifier

end AnnotationQuery

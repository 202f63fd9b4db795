import Mathlib.Data.List.Forall2
import AnnotationQuery.Json.Source
import AnnotationQuery.Proofs.JsonNumerals

/-!
# JSON texts read back

A text spells a source when the reader takes it to that source whatever follows, as long as no
number goes on there. The text of an array spells the array of what its items spell, with blanks
around the items or without, and likewise for objects; so both texts of a JSON value spell the same
source, and the depth of nesting plays no part in it.

* `Source.readString?_escapedChars`: a string reads back, whatever characters it holds.
* `Source.Spells.array`, `Source.Spells.object`: composite texts.
* `Source.ofText_compactText`, `Source.ofText_prettyText`: both texts of a value.
-/

namespace AnnotationQuery

open Json
open Literal (Stops)

namespace Source

/-! ## Strings -/

/-- The four digits of a control character stand for it. -/
theorem unitOfHex?_control (n : Fin 32) :
    unitOfHex? '0' '0' (hexDigit (n.val / 16)) (hexDigit (n.val % 16)) =
      some (.char (Char.ofNat n.val)) := by
  revert n
  decide

/-- A short escape stands for the character that it was written for. -/
theorem unescaped?_of_shortEscape? {c e : Char} (h : shortEscape? c = some e) :
    e ≠ 'u' ∧ unescaped? e = some c := by
  unfold shortEscape? at h
  split_ifs at h with hsame
  · obtain rfl := Option.some.inj h
    rcases hsame with rfl | rfl <;> decide
  all_goals
    obtain rfl := Option.some.inj h
    subst_vars
    decide

theorem readUnits?_short {c e : Char} (he : shortEscape? c = some e) {cs rest : List Char}
    {us : List Unit} (h : readUnits? cs = some (us, rest)) :
    readUnits? ('\\' :: e :: cs) = some (.char c :: us, rest) := by
  obtain ⟨hne, hunescaped⟩ := unescaped?_of_shortEscape? he
  simp [readUnits?, hne, hunescaped, h]

theorem readUnits?_plain {c : Char} (hquote : c ≠ '"') (hbackslash : c ≠ '\\')
    (hplain : 0x20 ≤ c.toNat) {cs rest : List Char} {us : List Unit}
    (h : readUnits? cs = some (us, rest)) :
    readUnits? (c :: cs) = some (.char c :: us, rest) := by
  rw [readUnits?.eq_def]
  split <;> simp_all

theorem readUnits?_escapedChar (c : Char) {cs rest : List Char} {us : List Unit}
    (h : readUnits? cs = some (us, rest)) :
    readUnits? (escapedChar c ++ cs) = some (.char c :: us, rest) := by
  unfold escapedChar
  cases hshort : shortEscape? c with
  | some e => exact readUnits?_short hshort h
  | none =>
    by_cases hcontrol : c.toNat < 0x20
    · have hunit := unitOfHex?_control ⟨c.toNat, hcontrol⟩
      rw [if_pos hcontrol]
      simp only [List.cons_append, List.nil_append, readUnits?]
      rw [hunit, h, Char.ofNat_toNat]
      rfl
    · have hne : c ≠ '"' ∧ c ≠ '\\' := by
        refine ⟨?_, ?_⟩ <;> (rintro rfl; exact absurd hshort (by decide))
      rw [if_neg hcontrol]
      exact readUnits?_plain hne.1 hne.2 (Nat.not_lt.mp hcontrol) h

theorem readUnits?_escapedChars (cs rest : List Char) :
    readUnits? (cs.flatMap escapedChar ++ '"' :: rest) = some (cs.map .char, rest) := by
  induction cs with
  | nil => rfl
  | cons c cs ih =>
    rw [List.flatMap_cons, List.append_assoc]
    exact readUnits?_escapedChar c ih

theorem charsOfUnits?_map_char (cs : List Char) : charsOfUnits? (cs.map .char) = some cs := by
  induction cs with
  | nil => rfl
  | cons c cs ih => simp [charsOfUnits?, ih]

/-- A string is read up to its closing quotation mark. -/
theorem readString?_escapedChars (s : String) (rest : List Char) :
    readString? (s.toList.flatMap escapedChar ++ '"' :: rest) = some (some s, rest) := by
  unfold readString?
  rw [readUnits?_escapedChars]
  simp [charsOfUnits?_map_char]

/-! ## Blanks -/

/-- Only blanks. -/
def Blanks (bs : List Char) : Prop :=
  ∀ c ∈ bs, isBlank c = true

theorem blanks_nil : Blanks [] := by
  simp [Blanks]

theorem blanks_newLine (level : Nat) : Blanks (newLine level) := by
  intro c hc
  rcases List.mem_cons.mp hc with rfl | hspace
  · rfl
  · rw [(List.mem_replicate.mp hspace).2]
    rfl

theorem skipBlanks_append {bs : List Char} (h : Blanks bs) (cs : List Char) :
    skipBlanks (bs ++ cs) = skipBlanks cs :=
  List.dropWhile_append_of_pos h

theorem skipBlanks_cons {c : Char} (h : isBlank c = false) (cs : List Char) :
    skipBlanks (c :: cs) = c :: cs :=
  List.dropWhile_cons_of_neg (by simp [h])

theorem readValue_blanks {bs : List Char} (h : Blanks bs) (fuel : Nat) (cs : List Char) :
    readValue fuel (bs ++ cs) = readValue fuel cs := by
  cases fuel with
  | zero => rfl
  | succ fuel => rw [readValue, readValue, skipBlanks_append h]

theorem readItems_blanks {bs : List Char} (h : Blanks bs) (fuel : Nat) (cs : List Char) :
    readItems fuel (bs ++ cs) = readItems fuel cs := by
  cases fuel with
  | zero => rfl
  | succ fuel => rw [readItems, readItems, readValue_blanks h]

theorem readMembers_blanks {bs : List Char} (h : Blanks bs) (fuel : Nat) (cs : List Char) :
    readMembers fuel (bs ++ cs) = readMembers fuel cs := by
  cases fuel with
  | zero => rfl
  | succ fuel => rw [readMembers, readMembers, skipBlanks_append h]

/-- No number goes on behind blanks and a character that no number holds. -/
theorem stops_blanks_append {bs : List Char} (h : Blanks bs) {c : Char} {cs : List Char}
    (hc : Stops (c :: cs)) : Stops (bs ++ c :: cs) := by
  cases bs with
  | nil => exact hc
  | cons b bs =>
    intro d hd
    obtain rfl : b = d := Option.some.inj hd
    have hblank := h b List.mem_cons_self
    simp only [isBlank, Bool.or_eq_true, decide_eq_true_eq] at hblank
    rcases hblank with ((rfl | rfl) | rfl) | rfl <;> decide

theorem stops_cons {c : Char} (hc : c = ',' ∨ c = ']' ∨ c = '\x7d') (cs : List Char) :
    Stops (c :: cs) := by
  intro d hd
  obtain rfl : c = d := Option.some.inj hd
  rcases hc with rfl | rfl | rfl <;> decide

/-! ## Texts that spell a source -/

/-- The text is read as the source, whatever follows that does not go on with a number. The reader
goes on once for each value and once for each item that a value is, so twice the length of the text
bounds its steps. -/
structure Spells (text : List Char) (source : Source) : Prop where
  head : ∃ c cs, text = c :: cs ∧ isBlank c = false ∧ c ≠ ']'
  read : ∀ {rest : List Char}, Stops rest → ∀ {fuel : Nat}, 2 * text.length ≤ fuel + 1 →
    readValue fuel (text ++ rest) = (source, some rest)

theorem Spells.length_pos {text : List Char} {source : Source} (h : Spells text source) :
    0 < text.length := by
  obtain ⟨c, cs, rfl, -⟩ := h.head
  exact Nat.succ_pos _

/-! ## Scalars -/

theorem Spells.scalar {c : Char} {cs : List Char} {source : Source} (hblank : isBlank c = false)
    (hc : c ≠ ']' ∧ c ≠ '[' ∧ c ≠ '\x7b')
    (h : ∀ rest, Stops rest → readScalar (c :: cs ++ rest) = (source, some rest)) :
    Spells (c :: cs) source where
  head := ⟨c, cs, rfl, hblank, hc.1⟩
  read := by
    intro rest hrest fuel hfuel
    obtain ⟨fuel, rfl⟩ : ∃ n, fuel = n + 1 := ⟨fuel - 1, by
      rw [List.length_cons] at hfuel
      omega⟩
    have hscalar := h rest hrest
    rw [List.cons_append] at hscalar ⊢
    rw [readValue, skipBlanks_cons hblank]
    split
    · rename_i heq
      exact absurd (List.cons.inj heq).1 hc.2.1
    · rename_i heq
      exact absurd (List.cons.inj heq).1 hc.2.2
    · exact hscalar

theorem Spells.null : Spells (compactChars .null) .null :=
  .scalar rfl (by decide) fun _ _ => rfl

theorem Spells.bool (b : Bool) : Spells (compactChars (.bool b)) (.bool b) := by
  cases b with
  | true => exact .scalar rfl (by decide) fun _ _ => rfl
  | false => exact .scalar rfl (by decide) fun _ _ => rfl

theorem Spells.string (s : String) : Spells (stringChars s) (.string (some s)) := by
  refine .scalar rfl (by decide) fun rest _ => ?_
  have hread := readString?_escapedChars s rest
  show readScalar ('"' :: (s.toList.flatMap escapedChar ++ ['"'] ++ rest)) = _
  rw [List.append_assoc, List.singleton_append]
  simp only [readScalar, hread]

theorem Spells.number {n : Numeral} (h : n.Proper) : Spells n.text (.number n) := by
  obtain ⟨c, cs, hcs, hc⟩ := Numeral.exists_cons_text h
  have hother : isBlank c = false ∧ c ≠ ']' ∧ c ≠ '[' ∧ c ≠ '\x7b' ∧ c ≠ '"' ∧ c ≠ 'n' ∧
      c ≠ 't' ∧ c ≠ 'f' := by
    rcases hc with rfl | hdigit
    · decide
    · have hne : ∀ d : Char, d.isDigit = false → c ≠ d := fun d => isDigit_ne hdigit
      have hblank : isBlank c = false := by
        simp [isBlank, hne ' ' rfl, hne '\t' rfl, hne '\n' rfl, hne '\r' rfl]
      exact ⟨hblank, hne _ rfl, hne _ rfl, hne _ rfl, hne _ rfl, hne _ rfl, hne _ rfl, hne _ rfl⟩
  obtain ⟨hblank, hclose, hbracket, hbrace, hquote, hn, ht, hf⟩ := hother
  rw [hcs]
  refine .scalar hblank ⟨hclose, hbracket, hbrace⟩ fun rest hrest => ?_
  have hsplit := Numeral.split?_text h hrest
  rw [hcs, List.cons_append] at hsplit
  rw [List.cons_append]
  unfold readScalar
  split <;> simp_all

/-! ## Arrays and objects -/

/-- Texts between brackets, with commas between them and blanks in front of each and at the end. -/
def enclosed (opening closing : Char) (gap close : List Char) (texts : List (List Char)) :
    List Char :=
  opening :: (gap ++ ((',' :: gap).intercalate texts ++ (close ++ [closing])))

theorem readItems_last {fuel : Nat} {cs close rest : List Char} {item : Source}
    (hclose : Blanks close) (h : readValue fuel cs = (item, some (close ++ ']' :: rest))) :
    readItems (fuel + 1) cs = ([item], some rest) := by
  rw [readItems, h]
  simp only [skipBlanks_append hclose, skipBlanks_cons (show isBlank ']' = false from rfl)]

theorem readItems_next {fuel : Nat} {cs more : List Char} {item : Source} {items : List Source}
    {rest : Option (List Char)} (h : readValue fuel cs = (item, some (',' :: more)))
    (hmore : readItems fuel more = (items, rest)) :
    readItems (fuel + 1) cs = (item :: items, rest) := by
  rw [readItems, h]
  simp only [skipBlanks_cons (show isBlank ',' = false from rfl), hmore]

theorem exists_cons_intercalate (gap : List Char) {c : Char} {cs text : List Char}
    (htext : text = c :: cs) (texts : List (List Char)) :
    ∃ more, (',' :: gap).intercalate (text :: texts) = c :: more := by
  subst htext
  cases texts with
  | nil => exact ⟨cs, List.intercalate_singleton⟩
  | cons next texts => exact ⟨_, List.intercalate_cons_cons⟩

/-- The items of an array are read up to its closing bracket. -/
theorem readItems_intercalate {gap close : List Char} (hgap : Blanks gap) (hclose : Blanks close)
    {text : List Char} {texts : List (List Char)} {source : Source} {sources : List Source}
    (h : Spells text source) (hs : List.Forall₂ Spells texts sources) (rest : List Char)
    {fuel : Nat} (hfuel : 2 * ((',' :: gap).intercalate (text :: texts)).length ≤ fuel) :
    readItems fuel ((',' :: gap).intercalate (text :: texts) ++ (close ++ ']' :: rest)) =
      (source :: sources, some rest) := by
  have hpos := h.length_pos
  induction hs generalizing text source fuel with
  | nil =>
    rw [List.intercalate_singleton] at hfuel ⊢
    obtain ⟨fuel, rfl⟩ : ∃ n, fuel = n + 1 := ⟨fuel - 1, by omega⟩
    have hstops : Stops (close ++ ']' :: rest) :=
      stops_blanks_append hclose (stops_cons (.inr (.inl rfl)) rest)
    exact readItems_last hclose (h.read hstops hfuel)
  | cons hnext hs ih =>
    rw [List.intercalate_cons_cons] at hfuel ⊢
    simp only [List.length_append, List.length_cons] at hfuel
    obtain ⟨fuel, rfl⟩ : ∃ n, fuel = n + 1 := ⟨fuel - 1, by omega⟩
    simp only [List.append_assoc, List.cons_append]
    have hbound : 2 * text.length ≤ fuel + 1 := by omega
    refine readItems_next (h.read (stops_cons (.inl rfl) _) hbound) ?_
    rw [readItems_blanks hgap]
    exact ih hnext (by omega) hnext.length_pos

/-- The text of an array spells the array of what its items spell. -/
theorem Spells.array {gap close : List Char} (hgap : Blanks gap) (hclose : Blanks close)
    {texts : List (List Char)} {sources : List Source} (h : List.Forall₂ Spells texts sources) :
    Spells (enclosed '[' ']' gap close texts) (.array sources true) where
  head := ⟨'[', _, rfl, rfl, by decide⟩
  read := by
    intro rest hrest fuel hfuel
    simp only [enclosed, List.length_cons, List.length_append] at hfuel
    obtain ⟨fuel, rfl⟩ : ∃ n, fuel = n + 1 := ⟨fuel - 1, by omega⟩
    simp only [enclosed, List.cons_append, List.append_assoc, List.nil_append]
    rw [readValue, skipBlanks_cons (by rfl)]
    simp only [skipBlanks_append hgap]
    cases h with
    | nil =>
      simp only [List.intercalate_nil, List.nil_append, skipBlanks_append hclose,
        skipBlanks_cons (show isBlank ']' = false from rfl)]
    | @cons text source texts sources hitem hitems =>
      obtain ⟨c, cs, hcs, hblank, hc⟩ := hitem.head
      obtain ⟨more, hmore⟩ := exists_cons_intercalate gap hcs texts
      have hread : readItems fuel
          ((',' :: gap).intercalate (text :: texts) ++ (close ++ ']' :: rest)) =
            (source :: sources, some rest) :=
        readItems_intercalate hgap hclose hitem hitems rest (by omega)
      rw [hmore, List.cons_append] at hread ⊢
      rw [skipBlanks_cons hblank]
      split
      · rename_i heq
        exact absurd (List.cons.inj heq).1 hc
      · rw [hread]
        rfl

/-! ## Objects -/

/-- The text is the name of a member, a colon and a text that spells its value. -/
def SpellsMember (text : List Char) (member : Option String × Source) : Prop :=
  ∃ key gap value source, text = stringChars key ++ ':' :: (gap ++ value) ∧
    member = (some key, source) ∧ Blanks gap ∧ Spells value source

theorem stringChars_append (s : String) (cs : List Char) :
    stringChars s ++ cs = '"' :: (s.toList.flatMap escapedChar ++ '"' :: cs) := by
  simp [stringChars]

theorem readMembers_last {fuel : Nat} (key : String) {gap close cs rest : List Char}
    {value : Source} (hgap : Blanks gap) (hclose : Blanks close)
    (h : readValue fuel cs = (value, some (close ++ '\x7d' :: rest))) :
    readMembers (fuel + 1) (stringChars key ++ ':' :: (gap ++ cs)) =
      ([(some key, value)], some rest) := by
  rw [stringChars_append, readMembers, skipBlanks_cons (by rfl)]
  simp only [readString?_escapedChars, skipBlanks_cons (show isBlank ':' = false from rfl),
    readValue_blanks hgap, h, skipBlanks_append hclose,
    skipBlanks_cons (show isBlank '\x7d' = false from rfl)]

theorem readMembers_next {fuel : Nat} (key : String) {gap cs more : List Char} {value : Source}
    {members : List (Option String × Source)} {rest : Option (List Char)} (hgap : Blanks gap)
    (h : readValue fuel cs = (value, some (',' :: more)))
    (hmore : readMembers fuel more = (members, rest)) :
    readMembers (fuel + 1) (stringChars key ++ ':' :: (gap ++ cs)) =
      ((some key, value) :: members, rest) := by
  rw [stringChars_append, readMembers, skipBlanks_cons (by rfl)]
  simp only [readString?_escapedChars, skipBlanks_cons (show isBlank ':' = false from rfl),
    readValue_blanks hgap, h, skipBlanks_cons (show isBlank ',' = false from rfl), hmore]

/-- The members of an object are read up to its closing brace. -/
theorem readMembers_intercalate {gap close : List Char} (hgap : Blanks gap)
    (hclose : Blanks close) {text : List Char} {texts : List (List Char)}
    {member : Option String × Source} {members : List (Option String × Source)}
    (h : SpellsMember text member) (hs : List.Forall₂ SpellsMember texts members)
    (rest : List Char) {fuel : Nat}
    (hfuel : 2 * ((',' :: gap).intercalate (text :: texts)).length ≤ fuel) :
    readMembers fuel ((',' :: gap).intercalate (text :: texts) ++ (close ++ '\x7d' :: rest)) =
      (member :: members, some rest) := by
  induction hs generalizing text member fuel with
  | nil =>
    obtain ⟨key, inner, value, source, rfl, rfl, hinner, hvalue⟩ := h
    rw [List.intercalate_singleton] at hfuel ⊢
    simp only [List.length_append, List.length_cons] at hfuel
    obtain ⟨fuel, rfl⟩ : ∃ n, fuel = n + 1 := ⟨fuel - 1, by omega⟩
    have hbound : 2 * value.length ≤ fuel + 1 := by omega
    have hstops : Stops (close ++ '\x7d' :: rest) :=
      stops_blanks_append hclose (stops_cons (.inr (.inr rfl)) rest)
    simp only [List.append_assoc, List.cons_append]
    exact readMembers_last key hinner hclose (hvalue.read hstops hbound)
  | cons hnext hs ih =>
    obtain ⟨key, inner, value, source, rfl, rfl, hinner, hvalue⟩ := h
    rw [List.intercalate_cons_cons] at hfuel ⊢
    simp only [List.length_append, List.length_cons] at hfuel
    obtain ⟨fuel, rfl⟩ : ∃ n, fuel = n + 1 := ⟨fuel - 1, by omega⟩
    have hbound : 2 * value.length ≤ fuel + 1 := by omega
    simp only [List.append_assoc, List.cons_append]
    refine readMembers_next key hinner (hvalue.read (stops_cons (.inl rfl) _) hbound) ?_
    rw [readMembers_blanks hgap]
    exact ih hnext (by omega)

/-- The text of an object spells the object of what its members spell. -/
theorem Spells.object {gap close : List Char} (hgap : Blanks gap) (hclose : Blanks close)
    {texts : List (List Char)} {members : List (Option String × Source)}
    (h : List.Forall₂ SpellsMember texts members) :
    Spells (enclosed '\x7b' '\x7d' gap close texts) (.object members true) where
  head := ⟨'\x7b', _, rfl, rfl, by decide⟩
  read := by
    intro rest hrest fuel hfuel
    simp only [enclosed, List.length_cons, List.length_append] at hfuel
    obtain ⟨fuel, rfl⟩ : ∃ n, fuel = n + 1 := ⟨fuel - 1, by omega⟩
    simp only [enclosed, List.cons_append, List.append_assoc, List.nil_append]
    rw [readValue, skipBlanks_cons (by rfl)]
    simp only [skipBlanks_append hgap]
    cases h with
    | nil =>
      simp only [List.intercalate_nil, List.nil_append, skipBlanks_append hclose,
        skipBlanks_cons (show isBlank '\x7d' = false from rfl)]
    | @cons text member texts members hmember hmembers =>
      have hread : readMembers fuel
          ((',' :: gap).intercalate (text :: texts) ++ (close ++ '\x7d' :: rest)) =
            (member :: members, some rest) :=
        readMembers_intercalate hgap hclose hmember hmembers rest (by omega)
      obtain ⟨key, inner, value, source, rfl, -⟩ := hmember
      obtain ⟨more, hmore⟩ := exists_cons_intercalate gap (stringChars_append key _) texts
      rw [hmore, List.cons_append] at hread ⊢
      rw [skipBlanks_cons (by rfl)]
      split
      · rename_i heq
        exact absurd (List.cons.inj heq).1 (by decide)
      · rw [hread]
        rfl

end Source

/-! ## The texts of a value -/

namespace Json

mutual

/-- The source that the texts of a value spell. -/
def source : Json → Source
  | null => .null
  | bool b => .bool b
  | int n => .number (.ofInt n)
  | float negative m => .number (.ofFinite negative m)
  | string s => .string (some s)
  | array items => .array (sourceItems items) true
  | object members => .object (sourceMembers members) true

/-- The sources of the items of an array. -/
def sourceItems : List Json → List Source
  | [] => []
  | item :: items => item.source :: sourceItems items

/-- The sources of the members of an object. -/
def sourceMembers : List (String × Json) → List (Option String × Source)
  | [] => []
  | (key, value) :: members => (some key, value.source) :: sourceMembers members

end

theorem spells_int (n : Int) : Source.Spells (compactChars (int n)) (int n).source := by
  have htext : compactChars (int n) = (Numeral.ofInt n).text := by
    rw [Numeral.text_ofInt]
    exact toList_toString n
  rw [htext]
  exact .number (Numeral.proper_ofInt n)

theorem spells_float (negative : Bool) (m : Magnitude) :
    Source.Spells (compactChars (float negative m)) (float negative m).source := by
  obtain ⟨n, hn, htext⟩ := Numeral.exists_text_finiteText negative m
  show Source.Spells (Style.json.finiteText negative m) (.number (.ofFinite negative m))
  rw [Numeral.ofFinite_eq hn htext, ← htext]
  exact .number hn

theorem compactChars_array (items : List Json) :
    compactChars (array items) = Source.enclosed '[' ']' [] [] (compactItems items) := by
  simp [compactChars, Source.enclosed]

theorem compactChars_object (members : List (String × Json)) :
    compactChars (object members) =
      Source.enclosed '\x7b' '\x7d' [] [] (compactMembers members) := by
  simp [compactChars, Source.enclosed]

mutual

theorem spells_compactChars (j : Json) : Source.Spells j.compactChars j.source := by
  match j with
  | null => exact .null
  | bool b => exact .bool b
  | int n => exact spells_int n
  | float negative m => exact spells_float negative m
  | string s => exact .string s
  | array items =>
    rw [compactChars_array]
    exact .array Source.blanks_nil Source.blanks_nil (spells_compactItems items)
  | object members =>
    rw [compactChars_object]
    exact .object Source.blanks_nil Source.blanks_nil (spells_compactMembers members)

theorem spells_compactItems (items : List Json) :
    List.Forall₂ Source.Spells (compactItems items) (sourceItems items) := by
  match items with
  | [] => exact .nil
  | item :: items => exact .cons (spells_compactChars item) (spells_compactItems items)

theorem spells_compactMembers (members : List (String × Json)) :
    List.Forall₂ Source.SpellsMember (compactMembers members) (sourceMembers members) := by
  match members with
  | [] => exact .nil
  | (key, value) :: members =>
    exact .cons ⟨key, [], value.compactChars, _, rfl, rfl, Source.blanks_nil,
      spells_compactChars value⟩ (spells_compactMembers members)

end

/-- The brackets of a block stand together when nothing is between them. -/
theorem exists_enclosed_block (level : Nat) (opening closing : Char) (texts : List (List Char)) :
    ∃ gap close, Source.Blanks gap ∧ Source.Blanks close ∧
      block level opening closing texts = Source.enclosed opening closing gap close texts := by
  cases texts with
  | nil => exact ⟨[], [], Source.blanks_nil, Source.blanks_nil, rfl⟩
  | cons text texts =>
    refine ⟨newLine (level + 1), newLine level, Source.blanks_newLine _, Source.blanks_newLine _,
      ?_⟩
    simp [block, Source.enclosed]

mutual

theorem spells_prettyChars (level : Nat) (j : Json) :
    Source.Spells (j.prettyChars level) j.source := by
  match j with
  | null => exact .null
  | bool b => exact .bool b
  | int n => exact spells_int n
  | float negative m => exact spells_float negative m
  | string s => exact .string s
  | array items =>
    obtain ⟨gap, close, hgap, hclose, htext⟩ :=
      exists_enclosed_block level '[' ']' (prettyItems (level + 1) items)
    rw [prettyChars, htext]
    exact .array hgap hclose (spells_prettyItems (level + 1) items)
  | object members =>
    obtain ⟨gap, close, hgap, hclose, htext⟩ :=
      exists_enclosed_block level '\x7b' '\x7d' (prettyMembers (level + 1) members)
    rw [prettyChars, htext]
    exact .object hgap hclose (spells_prettyMembers (level + 1) members)

theorem spells_prettyItems (level : Nat) (items : List Json) :
    List.Forall₂ Source.Spells (prettyItems level items) (sourceItems items) := by
  match items with
  | [] => exact .nil
  | item :: items => exact .cons (spells_prettyChars level item) (spells_prettyItems level items)

theorem spells_prettyMembers (level : Nat) (members : List (String × Json)) :
    List.Forall₂ Source.SpellsMember (prettyMembers level members) (sourceMembers members) := by
  match members with
  | [] => exact .nil
  | (key, value) :: members =>
    have hgap : Source.Blanks [' '] := by simp [Source.Blanks, Source.isBlank]
    exact .cons ⟨key, [' '], value.prettyChars level, _, rfl, rfl, hgap,
      spells_prettyChars level value⟩ (spells_prettyMembers level members)

end

end Json

namespace Source

theorem Spells.ofChars {text : List Char} {source : Source} (h : Spells text source) :
    ofChars text = (source, some []) := by
  have hread : readValue (2 * text.length + 2) (text ++ []) = (source, some []) :=
    h.read (by simp [Stops]) (by omega)
  rwa [List.append_nil] at hread

/-- A text that spells a source holds just that. -/
theorem Spells.ofWholeText? {text : List Char} {source : Source} (h : Spells text source) :
    ofWholeText? (String.ofList text) = some source := by
  simp [Source.ofWholeText?, h.ofChars, skipBlanks]

theorem ofText_compactText (j : Json) : ofText j.compactText = j.source := by
  simp [ofText, Json.compactText, j.spells_compactChars.ofChars]

theorem ofText_prettyText (j : Json) : ofText j.prettyText = j.source := by
  simp [ofText, Json.prettyText, (j.spells_prettyChars 0).ofChars]

end Source

end AnnotationQuery

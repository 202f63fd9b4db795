import AnnotationQuery.Proofs.LiteralTokens
import AnnotationQuery.Proofs.Results

/-!
# The grammar of literals

A literal is a word, a quoted string, a number token or a bracketed list of literals that are
separated by commas, with blanks around each of them. The grammar says which texts are literals and
which values they stand for. The reader accepts the texts of the grammar, blanks around them
allowed, and no others.

The reader's bound on its steps is no part of the grammar: `Reads` follows the reader rule by rule
without one. Every text has a result there, and that result is what the reader gives as soon as it
may take two steps for each character.

* `Value.Denotes`, `Value.TextDenotes`: the grammar.
* `Value.Reads`, `Value.exists_reads`: reading without a bound, and that it ends on every text.
* `Value.Reads.sound`, `Value.Denotes.reads`: what is read is what the grammar assigns, and back.
* `Value.parseLiteral_grammar`: parsing accepts just the grammar.
-/

namespace AnnotationQuery.Value

open Text Literal

/-! ## Grammar -/

mutual

/-- The text is one literal, without blanks around it, and stands for the value. -/
inductive Denotes : List Char → Value → Prop
  | word {text : List Char} {v : Value} (h : WordDenotes text v) : Denotes text v
  | string {body s : List Char} (h : StringDenotes body s) :
      Denotes (quote :: body ++ [quote]) (.string (String.ofList s))
  | float {token : List Char} {x : Binary64} (h : NumberToken token)
      (hfloat : ∃ c ∈ token, c = '.' ∨ IsExponentLetter c) (hread : Binary64.read? token = some x) :
      Denotes token (.float x)
  | int {token : List Char} {n : Int64} (h : NumberToken token)
      (hint : ∀ c ∈ token, ¬ (c = '.' ∨ IsExponentLetter c)) (hread : readInt64? token = some n) :
      Denotes token (.int n)
  | emptyList {blanks : List Char} (h : Blanks blanks) : Denotes ('[' :: blanks ++ [']']) (.list [])
  | list {text : List Char} {items : List Value} (h : ItemsDenote text items) :
      Denotes ('[' :: text ++ [']']) (.list items)

/-- The text is a sequence of literals with commas between them and stands for their values. -/
inductive ItemsDenote : List Char → List Value → Prop
  | last {before text after : List Char} {item : Value} (hbefore : Blanks before)
      (h : Denotes text item) (hafter : Blanks after) :
      ItemsDenote (before ++ text ++ after) [item]
  | next {before text after more : List Char} {item : Value} {items : List Value}
      (hbefore : Blanks before) (h : Denotes text item) (hafter : Blanks after)
      (hmore : ItemsDenote more items) :
      ItemsDenote (before ++ text ++ after ++ ',' :: more) (item :: items)

end

/-- The text is one literal with blanks around it and stands for the value. -/
def TextDenotes (cs : List Char) (v : Value) : Prop :=
  ∃ before text after, Blanks before ∧ Denotes text v ∧ Blanks after ∧ cs = before ++ text ++ after

/-! ## Reading without a bound -/

mutual

/-- What the reader ends with on a text, without a bound on its steps: one rule for each way that it
can go. -/
inductive Reads : List Char → Except LiteralFault (Value × List Char) → Prop
  | atEnd {cs : List Char} (h : trimStart cs = []) : Reads cs (.error .endOfText)
  | string {cs body s rest : List Char} (h : trimStart cs = quote :: body)
      (hread : readString? body = some (s, rest)) : Reads cs (.ok (.string (String.ofList s), rest))
  | openString {cs body : List Char} (h : trimStart cs = quote :: body)
      (hread : readString? body = none) : Reads cs (.error .openString)
  | emptyList {cs body rest : List Char} (h : trimStart cs = '[' :: body)
      (hclosed : trimStart body = ']' :: rest) : Reads cs (.ok (.list [], rest))
  | list {cs body : List Char} {result : Except LiteralFault (List Value × List Char)}
      (h : trimStart cs = '[' :: body) (hopen : ∀ rest, trimStart body ≠ ']' :: rest)
      (hitems : ReadsItems (trimStart body) result) :
      Reads cs (result.map fun (items, rest) => (.list items, rest))
  | number {cs tail : List Char} {c : Char} (h : trimStart cs = c :: tail)
      (hc : c = '-' ∨ c.isDigit = true) :
      Reads cs ((readNumber (splitNumber true (c :: tail)).1).map
        (·, (splitNumber true (c :: tail)).2))
  | word {cs tail : List Char} {c : Char} {result : Value × List Char}
      (h : trimStart cs = c :: tail) (hc : StartsWord c)
      (hread : readKeyword? (c :: tail) = some result) : Reads cs (.ok result)
  | unknown {cs tail : List Char} {c : Char} (h : trimStart cs = c :: tail) (hc : StartsWord c)
      (hread : readKeyword? (c :: tail) = none) : Reads cs (.error .unknown)

/-- What the reader ends with on the items of a list. -/
inductive ReadsItems : List Char → Except LiteralFault (List Value × List Char) → Prop
  | fault {cs : List Char} {fault : LiteralFault} (h : Reads cs (.error fault)) :
      ReadsItems cs (.error fault)
  | next {cs rest more : List Char} {item : Value}
      {result : Except LiteralFault (List Value × List Char)} (h : Reads cs (.ok (item, rest)))
      (hcomma : trimStart rest = ',' :: more) (hmore : ReadsItems more result) :
      ReadsItems cs (result.map fun (items, rest) => (item :: items, rest))
  | last {cs rest behind : List Char} {item : Value} (h : Reads cs (.ok (item, rest)))
      (hclosed : trimStart rest = ']' :: behind) : ReadsItems cs (.ok ([item], behind))
  | separator {cs rest : List Char} {item : Value} (h : Reads cs (.ok (item, rest)))
      (hcomma : ∀ more, trimStart rest ≠ ',' :: more)
      (hopen : ∀ behind, trimStart rest ≠ ']' :: behind) : ReadsItems cs (.error .badSeparator)

end

/-! ## The first character of a literal -/

theorem Denotes.exists_cons {text : List Char} {v : Value} (h : Denotes text v) :
    ∃ c tail, text = c :: tail ∧ isBlank c = false ∧ c ≠ ']' := by
  have hnumber {token : List Char} (htoken : NumberToken token) :
      ∃ c tail, token = c :: tail ∧ isBlank c = false ∧ c ≠ ']' := by
    obtain ⟨c, hhead, hc⟩ := htoken.start
    obtain ⟨tail, htail⟩ := List.head?_eq_some_iff.1 hhead
    obtain ⟨-, -, hclosing, hblank⟩ := ne_of_startsNumber hc
    exact ⟨c, tail, htail, hblank, hclosing⟩
  cases h with
  | word h =>
    obtain ⟨c, tail, htext, -, hc⟩ := h.exists_cons
    exact ⟨c, tail, htext, hc⟩
  | string h => exact ⟨quote, _, rfl, by decide, by decide⟩
  | float h => exact hnumber h
  | int h => exact hnumber h
  | emptyList h => exact ⟨'[', _, rfl, by decide, by decide⟩
  | list h => exact ⟨'[', _, rfl, by decide, by decide⟩

/-! ## What is read fits the grammar -/

theorem denotes_of_readNumber {token : List Char} {v : Value} (htoken : NumberToken token)
    (h : readNumber token = .ok v) : Denotes token v := by
  unfold readNumber at h
  cases hfloat : isFloatToken token with
  | true =>
    rw [hfloat, if_pos rfl] at h
    cases hread : Binary64.read? token with
    | none => rw [hread] at h; cases h
    | some x =>
      rw [hread] at h
      cases h
      exact .float htoken (isFloatToken_eq_true.1 hfloat) hread
  | false =>
    rw [hfloat, if_neg (by decide)] at h
    cases hread : readInt64? token with
    | none => rw [hread] at h; cases h
    | some n =>
      rw [hread] at h
      cases h
      refine .int htoken (fun c hc hletter => ?_) hread
      rw [isFloatToken_eq_true.2 ⟨c, hc, hletter⟩] at hfloat
      cases hfloat

theorem ItemsDenote.blanks_append {blanks text : List Char} {items : List Value}
    (h : ItemsDenote text items) (hblanks : Blanks blanks) :
    ItemsDenote (blanks ++ text) items := by
  cases h with
  | last hbefore h hafter =>
    rw [← List.append_assoc, ← List.append_assoc]
    exact .last (hblanks.append hbefore) h hafter
  | next hbefore h hafter hmore =>
    rw [← List.append_assoc, ← List.append_assoc, ← List.append_assoc]
    exact .next (hblanks.append hbefore) h hafter hmore

mutual

/-- What is read off a text is a literal behind blanks, and the value is its value. -/
theorem Reads.sound {cs rest : List Char} {v : Value}
    {result : Except LiteralFault (Value × List Char)} (h : Reads cs result)
    (hresult : result = .ok (v, rest)) :
    ∃ before text, Blanks before ∧ Denotes text v ∧ cs = before ++ text ++ rest := by
  obtain ⟨before, hbefore, hcs⟩ := exists_blanks cs
  suffices hread : ∃ text, Denotes text v ∧ trimStart cs = text ++ rest by
    obtain ⟨text, htext, htrim⟩ := hread
    exact ⟨before, text, hbefore, htext, by rw [List.append_assoc, ← htrim, ← hcs]⟩
  match h with
  | .atEnd _ => cases hresult
  | .openString _ _ => cases hresult
  | .unknown _ _ _ => cases hresult
  | .string htrim hread =>
    cases hresult
    obtain ⟨body, hbody, rfl⟩ := readString?_eq_some.1 hread
    exact ⟨_, .string hbody, by rw [htrim]; simp⟩
  | @Reads.emptyList _ body _ htrim hclosed =>
    cases hresult
    obtain ⟨blanks, hblanks, hbody⟩ := exists_blanks body
    exact ⟨_, .emptyList hblanks, by rw [htrim, hbody, hclosed]; simp⟩
  | @Reads.list _ body _ htrim _ hitems =>
    obtain ⟨⟨items, rest'⟩, hok, hpair⟩ := map_eq_ok hresult
    cases hpair
    obtain ⟨blanks, hblanks, hbody⟩ := exists_blanks body
    obtain ⟨text, htext, hitemsText⟩ := hitems.sound hok
    exact ⟨_, .list (htext.blanks_append hblanks), by rw [htrim, hbody, hitemsText]; simp⟩
  | .number htrim hc =>
    obtain ⟨number, hok, hpair⟩ := map_eq_ok hresult
    cases hpair
    exact ⟨_, denotes_of_readNumber (numberToken_splitNumber hc _) hok, by
      rw [htrim]; exact (splitNumber_sound true _).2⟩
  | .word htrim _ hread =>
    cases hresult
    obtain ⟨word, hword, htext⟩ := readKeyword?_eq_some.1 hread
    exact ⟨word, .word hword, by rw [htrim, htext]⟩

theorem ReadsItems.sound {cs rest : List Char} {items : List Value}
    {result : Except LiteralFault (List Value × List Char)} (h : ReadsItems cs result)
    (hresult : result = .ok (items, rest)) :
    ∃ text, ItemsDenote text items ∧ cs = text ++ ']' :: rest := by
  match h with
  | .fault _ => cases hresult
  | .separator _ _ _ => cases hresult
  | @ReadsItems.last _ tail _ _ hitem hclosed =>
    cases hresult
    obtain ⟨before, text, hbefore, htext, rfl⟩ := hitem.sound rfl
    obtain ⟨after, hafter, htail⟩ := exists_blanks tail
    exact ⟨_, .last hbefore htext hafter, by rw [htail, hclosed]; simp⟩
  | @ReadsItems.next _ tail _ _ _ hitem hcomma hmore =>
    obtain ⟨⟨items, rest'⟩, hok, hpair⟩ := map_eq_ok hresult
    cases hpair
    obtain ⟨before, text, hbefore, htext, rfl⟩ := hitem.sound rfl
    obtain ⟨after, hafter, htail⟩ := exists_blanks tail
    obtain ⟨more, hitems, rfl⟩ := hmore.sound hok
    exact ⟨_, .next hbefore htext hafter hitems, by rw [htail, hcomma]; simp⟩

end

theorem Reads.length_lt {cs rest : List Char} {v : Value}
    (h : Reads cs (.ok (v, rest))) : rest.length < cs.length := by
  obtain ⟨before, text, -, htext, rfl⟩ := h.sound rfl
  obtain ⟨c, tail, rfl, -⟩ := htext.exists_cons
  simp only [List.length_append, List.length_cons]
  omega

/-! ## The reader follows the rules -/

mutual

/-- A reader that may take two steps for each character ends as the rules say. -/
theorem Reads.readAt_eq {cs : List Char} {result : Except LiteralFault (Value × List Char)}
    (h : Reads cs result) {fuel : Nat} (hfuel : 2 * cs.length + 1 ≤ fuel) :
    readAt fuel cs = result := by
  obtain ⟨fuel, rfl⟩ : ∃ n, fuel = n + 1 := ⟨fuel - 1, by omega⟩
  have hlength := length_trimStart_le cs
  match h with
  | .atEnd htrim => simp only [readAt, htrim]
  | .string htrim hread => simp only [readAt, htrim, if_true, hread]
  | .openString htrim hread => simp only [readAt, htrim, if_true, hread]
  | .emptyList htrim hclosed =>
    simp only [readAt, htrim, if_neg (show '[' ≠ quote by decide), if_true, hclosed]
  | @Reads.list _ body _ htrim hopen hitems =>
    have hbody := length_trimStart_le body
    rw [htrim, List.length_cons] at hlength
    have hread : readItems fuel (trimStart body) = _ := hitems.readItems_eq (by omega)
    simp only [readAt, htrim, if_neg (show '[' ≠ quote by decide), if_true, hread]
  | .number htrim hc =>
    obtain ⟨hquote, hbracket, -⟩ := ne_of_startsNumber hc
    simp only [readAt, htrim, if_neg hquote, if_neg hbracket, if_pos hc]
  | .word htrim hc hread =>
    simp only [readAt, htrim, if_neg hc.1, if_neg hc.2.1, if_neg hc.2.2, hread]
  | .unknown htrim hc hread =>
    simp only [readAt, htrim, if_neg hc.1, if_neg hc.2.1, if_neg hc.2.2, hread]

theorem ReadsItems.readItems_eq {cs : List Char}
    {result : Except LiteralFault (List Value × List Char)}
    (h : ReadsItems cs result) {fuel : Nat} (hfuel : 2 * cs.length + 2 ≤ fuel) :
    readItems fuel cs = result := by
  obtain ⟨fuel, rfl⟩ : ∃ n, fuel = n + 1 := ⟨fuel - 1, by omega⟩
  match h with
  | .fault hitem =>
    rw [readItems, hitem.readAt_eq (by omega)]
    rfl
  | @ReadsItems.next _ rest _ _ _ hitem hcomma hmore =>
    have hrest := length_trimStart_le rest
    rw [hcomma, List.length_cons] at hrest
    have hcs := hitem.length_lt
    have hread : readItems fuel _ = _ := hmore.readItems_eq (by omega)
    rw [readItems, hitem.readAt_eq (by omega)]
    simp only [bind, Except.bind, hcomma, hread]
  | .last hitem hclosed =>
    rw [readItems, hitem.readAt_eq (by omega)]
    simp only [bind, Except.bind, hclosed]
  | .separator hitem hcomma hopen =>
    rw [readItems, hitem.readAt_eq (by omega)]
    simp only [bind, Except.bind]

end

/-! ## Reading ends -/

/-- One value is read if the items of a list are read off every shorter text. -/
theorem exists_reads_of_items {cs : List Char}
    (hitems : ∀ body : List Char, body.length < cs.length → ∃ result, ReadsItems body result) :
    ∃ result, Reads cs result := by
  have hlength := length_trimStart_le cs
  cases htrim : trimStart cs with
  | nil => exact ⟨_, .atEnd htrim⟩
  | cons c tail =>
    rw [htrim, List.length_cons] at hlength
    by_cases hquote : c = quote
    · subst hquote
      cases hread : readString? tail with
      | none => exact ⟨_, .openString htrim hread⟩
      | some pair => exact ⟨_, .string htrim hread⟩
    by_cases hbracket : c = '['
    · subst hbracket
      by_cases hclosed : ∃ rest, trimStart tail = ']' :: rest
      · obtain ⟨rest, hclosed⟩ := hclosed
        exact ⟨_, .emptyList htrim hclosed⟩
      · have htail := length_trimStart_le tail
        obtain ⟨result, hresult⟩ := hitems (trimStart tail) (by omega)
        exact ⟨_, .list htrim (fun rest h => hclosed ⟨rest, h⟩) hresult⟩
    by_cases hnumber : c = '-' ∨ c.isDigit = true
    · exact ⟨_, .number htrim hnumber⟩
    cases hread : readKeyword? (c :: tail) with
    | none => exact ⟨_, .unknown htrim ⟨hquote, hbracket, hnumber⟩ hread⟩
    | some pair => exact ⟨_, .word htrim ⟨hquote, hbracket, hnumber⟩ hread⟩

/-- Every item takes at least one character, so that the items behind it stand in a shorter text. -/
theorem exists_readsItems (cs : List Char) : ∃ result, ReadsItems cs result := by
  obtain ⟨result, hitem⟩ :=
    exists_reads_of_items fun body (_ : body.length < cs.length) => exists_readsItems body
  match result with
  | .error fault => exact ⟨_, .fault hitem⟩
  | .ok (item, rest) =>
    have hrest := hitem.length_lt
    have htrim := length_trimStart_le rest
    by_cases hcomma : ∃ more, trimStart rest = ',' :: more
    · obtain ⟨more, hcomma⟩ := hcomma
      have hmore : more.length < cs.length := by
        rw [hcomma, List.length_cons] at htrim
        omega
      obtain ⟨result, hmore⟩ := exists_readsItems more
      exact ⟨_, .next hitem hcomma hmore⟩
    by_cases hclosed : ∃ behind, trimStart rest = ']' :: behind
    · obtain ⟨behind, hclosed⟩ := hclosed
      exact ⟨_, .last hitem hclosed⟩
    exact ⟨_, .separator hitem (fun more h => hcomma ⟨more, h⟩) fun behind h => hclosed ⟨behind, h⟩⟩
termination_by cs.length

theorem exists_reads (cs : List Char) : ∃ result, Reads cs result :=
  exists_reads_of_items fun body _ => exists_readsItems body

/-! ## What fits the grammar is read -/

theorem Reads.of_trimStart {cs ds : List Char} {result : Except LiteralFault (Value × List Char)}
    (h : Reads cs result) (heq : trimStart ds = trimStart cs) : Reads ds result := by
  cases h with
  | atEnd h => exact .atEnd (heq.trans h)
  | string h hread => exact .string (heq.trans h) hread
  | openString h hread => exact .openString (heq.trans h) hread
  | emptyList h hclosed => exact .emptyList (heq.trans h) hclosed
  | list h hopen hitems => exact .list (heq.trans h) hopen hitems
  | number h hc => exact .number (heq.trans h) hc
  | word h hc hread => exact .word (heq.trans h) hc hread
  | unknown h hc hread => exact .unknown (heq.trans h) hc hread

theorem ReadsItems.of_trimStart {cs ds : List Char}
    {result : Except LiteralFault (List Value × List Char)}
    (h : ReadsItems cs result) (heq : trimStart ds = trimStart cs) : ReadsItems ds result := by
  cases h with
  | fault h => exact .fault (h.of_trimStart heq)
  | next h hcomma hmore => exact .next (h.of_trimStart heq) hcomma hmore
  | last h hclosed => exact .last (h.of_trimStart heq) hclosed
  | separator h hcomma hopen => exact .separator (h.of_trimStart heq) hcomma hopen

theorem Denotes.trimStart_append {text : List Char} {v : Value} (h : Denotes text v)
    (rest : List Char) : trimStart (text ++ rest) = text ++ rest := by
  obtain ⟨c, tail, rfl, hblank, -⟩ := h.exists_cons
  exact trimStart_eq_self hblank (tail ++ rest)

theorem ItemsDenote.trimStart_ne {text : List Char} {items : List Value}
    (h : ItemsDenote text items) (behind rest : List Char) :
    trimStart (text ++ behind) ≠ ']' :: rest := by
  have hitem {before literal : List Char} {v : Value} (hbefore : Blanks before)
      (hliteral : Denotes literal v) (tail : List Char) :
      trimStart (before ++ (literal ++ tail)) ≠ ']' :: rest := by
    rw [Text.trimStart_append hbefore, hliteral.trimStart_append]
    obtain ⟨c, cs, rfl, -, hc⟩ := hliteral.exists_cons
    exact fun heq => hc (List.cons.inj heq).1
  cases h with
  | last hbefore h hafter => simpa using hitem hbefore h _
  | next hbefore h hafter hmore => simpa using hitem hbefore h _

theorem reads_number {token rest : List Char} {v : Value} (htoken : NumberToken token)
    (hread : readNumber token = .ok v) (hrest : NumberEnds rest) :
    Reads (token ++ rest) (.ok (v, rest)) := by
  have htrim := (denotes_of_readNumber htoken hread).trimStart_append rest
  have hsplit := htoken.splitNumber_append hrest
  obtain ⟨c, hhead, hc⟩ := htoken.start
  obtain ⟨tail, rfl⟩ := List.head?_eq_some_iff.1 hhead
  rw [List.cons_append] at htrim hsplit ⊢
  have hreads := Reads.number htrim hc
  rw [hsplit, hread] at hreads
  exact hreads

mutual

/-- A literal is read off the front of a text that does not go on with a number. -/
theorem Denotes.reads {text rest : List Char} {v : Value} (h : Denotes text v)
    (hrest : NumberEnds rest) : Reads (text ++ rest) (.ok (v, rest)) := by
  have htrim := h.trimStart_append rest
  match h with
  | .word hword =>
    obtain ⟨c, tail, rfl, hc, -⟩ := hword.exists_cons
    exact .word htrim hc (readKeyword?_eq_some.2 ⟨_, hword, rfl⟩)
  | @Denotes.string body _ hbody =>
    have htext : quote :: body ++ [quote] ++ rest = quote :: (body ++ quote :: rest) := by simp
    rw [htext] at htrim ⊢
    exact .string htrim (hbody.readString?_append rest)
  | .float htoken hfloat hread =>
    refine reads_number htoken ?_ hrest
    rw [readNumber, if_pos (isFloatToken_eq_true.2 hfloat), hread]
  | .int htoken hint hread =>
    refine reads_number htoken ?_ hrest
    rw [readNumber, if_neg, hread]
    rw [isFloatToken_eq_true]
    rintro ⟨c, hmem, hc⟩
    exact hint c hmem hc
  | @Denotes.emptyList blanks hblanks =>
    have htext : '[' :: blanks ++ [']'] ++ rest = '[' :: (blanks ++ ']' :: rest) := by simp
    rw [htext] at htrim ⊢
    refine .emptyList htrim ?_
    rw [Text.trimStart_append hblanks, trimStart_eq_self (by decide)]
  | @Denotes.list text _ hitems =>
    have htext : '[' :: text ++ [']'] ++ rest = '[' :: (text ++ ']' :: rest) := by simp
    rw [htext] at htrim ⊢
    exact .list htrim (hitems.trimStart_ne _)
      ((hitems.reads rest).of_trimStart (trimStart_trimStart _))

theorem ItemsDenote.reads {text : List Char} {items : List Value} (h : ItemsDenote text items)
    (rest : List Char) : ReadsItems (text ++ ']' :: rest) (.ok (items, rest)) := by
  match h with
  | @ItemsDenote.last before text after _ hbefore hitem hafter =>
    have htext : before ++ text ++ after ++ ']' :: rest =
        before ++ (text ++ (after ++ ']' :: rest)) := by
      simp
    have hends : NumberEnds (after ++ ']' :: rest) :=
      (numberEnds_cons (by decide) rest).blanks_append hafter
    have hread := hitem.reads hends
    rw [htext]
    refine .last (hread.of_trimStart (Text.trimStart_append hbefore _)) ?_
    rw [Text.trimStart_append hafter, trimStart_eq_self (by decide)]
  | @ItemsDenote.next before text after more _ _ hbefore hitem hafter hmore =>
    have htext : before ++ text ++ after ++ ',' :: more ++ ']' :: rest =
        before ++ (text ++ (after ++ ',' :: (more ++ ']' :: rest))) := by
      simp
    have hends : NumberEnds (after ++ ',' :: (more ++ ']' :: rest)) :=
      (numberEnds_cons (by decide) _).blanks_append hafter
    have hread := hitem.reads hends
    rw [htext]
    refine .next (hread.of_trimStart (Text.trimStart_append hbefore _)) ?_ (hmore.reads rest)
    rw [Text.trimStart_append hafter, trimStart_eq_self (by decide)]

end

/-! ## Whole texts -/

theorem readLiteral_of_reads {text : String} {result : Except LiteralFault (Value × List Char)}
    (h : Reads text.toList result) :
    readLiteral text = result.bind fun (v, rest) =>
      if trimStart rest = [] then .ok v else .error .trailing := by
  have hread : readAt (2 * text.toList.length + 2) text.toList = result := h.readAt_eq (by omega)
  simp only [readLiteral, hread]
  rfl

theorem readLiteral_eq_ok {text : String} {v : Value} :
    readLiteral text = .ok v ↔ TextDenotes text.toList v := by
  constructor
  · intro h
    obtain ⟨result, hreads⟩ := exists_reads text.toList
    rw [readLiteral_of_reads hreads] at h
    match result with
    | .error fault => cases h
    | .ok (v', rest) =>
      simp only [Except.bind] at h
      split at h
      · rename_i hrest
        cases h
        obtain ⟨before, literal, hbefore, hliteral, htext⟩ := hreads.sound rfl
        exact ⟨before, literal, rest, hbefore, hliteral, trimStart_eq_nil.1 hrest, htext⟩
      · cases h
  · rintro ⟨before, literal, after, hbefore, hliteral, hafter, htext⟩
    have hreads : Reads text.toList (.ok (v, after)) := by
      have hends : NumberEnds (after ++ []) :=
        NumberEnds.blanks_append (by simp [NumberEnds]) hafter
      rw [List.append_nil] at hends
      rw [htext, List.append_assoc]
      exact (hliteral.reads hends).of_trimStart (Text.trimStart_append hbefore _)
    rw [readLiteral_of_reads hreads]
    simp only [Except.bind, if_pos (trimStart_eq_nil.2 hafter)]

theorem parseLiteral_eq_ok {text : String} {v : Value} :
    parseLiteral text = .ok v ↔ TextDenotes text.toList v := by
  rw [parseLiteral, mapError_eq_ok, readLiteral_eq_ok]

theorem parseLiteral_eq_error {text : String} {e : QueryError} :
    parseLiteral text = .error e ↔
      ∃ fault, readLiteral text = .error fault ∧ .literal text fault = e := by
  rw [parseLiteral, mapError_eq_error]

/-- The grammar assigns no text two values. -/
theorem TextDenotes.unique {cs : List Char} {v w : Value} (hv : TextDenotes cs v)
    (hw : TextDenotes cs w) : v = w := by
  rw [← String.toList_ofList (l := cs), ← readLiteral_eq_ok] at hv hw
  exact Except.ok.inj (hv.symm.trans hw)

/-- A text is accepted if and only if it is one literal of the grammar with blanks around it, and
stands for the value that the grammar assigns; every other text gives the error of literals. Reading
always ends: every text has a result without a bound on the steps, and that is what a reader with at
least two steps for each character gives. -/
theorem parseLiteral_grammar (text : String) :
    (∀ v, parseLiteral text = .ok v ↔ TextDenotes text.toList v) ∧
      ((¬ ∃ v, TextDenotes text.toList v) ↔
        ∃ fault, parseLiteral text = .error (.literal text fault)) ∧
      ∃ result, Reads text.toList result ∧
        ∀ fuel, 2 * text.toList.length + 1 ≤ fuel → readAt fuel text.toList = result := by
  refine ⟨fun v => parseLiteral_eq_ok, ?_, ?_⟩
  · simp only [← readLiteral_eq_ok, parseLiteral_eq_error]
    cases h : readLiteral text with
    | error fault => simp
    | ok v => simp
  · obtain ⟨result, hreads⟩ := exists_reads text.toList
    exact ⟨result, hreads, fun fuel hfuel => hreads.readAt_eq hfuel⟩

end AnnotationQuery.Value

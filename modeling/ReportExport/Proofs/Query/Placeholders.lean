import Mathlib
import ReportExport.Query.Select

/-!
# Placeholders line up with their bindings

A predicate's WHERE fragment is SQL text built from its column and its
operands: the column as a double-quoted identifier, the keywords of its
constructor, and a `?` for each operand. Read by SQL's lexical rules
(`Sql.lexemes`), the text is one identifier token named exactly as the column,
whatever characters the column holds, followed by those keywords, or the
constant `1 = 0` / `1 = 1` of an empty membership test. `Predicate.reading`
writes that reading down with each operand in the place of its `?`, and
`Predicate.lexemes_sql` and `Predicate.values_reading` state that the text reads
so and that the bindings are the operands in that order.

Queries collect fragments one predicate at a time. A predicate on a column the
whitelist does not name is refused and the query stays as it was; the others
add their fragment and their bindings. So after any run of such calls the
compiled bindings are the base's followed by the accepted predicates', and
binding the `?` tokens of the WHERE clause in order to the bindings after the
base's gives every predicate its own operands (`placeholders_follow_bindings`).

The lexer is a state machine that reads one character at a time. A run of
characters between blanks and the characters `?`, `(`, `)` and `,`, which are
tokens of their own, is a word; a quote opens an identifier (`"`) or a text
(`'`), in which a doubled quote stands for one. `Piece` and `Closed` name texts
whose lexemes stay the same whatever follows them after a blank, or whatever
follows them at all; each fragment is put together from such texts.
-/

namespace ReportExport

namespace Sql

/-! ## Reading SQL text -/

/-- The two quotes of SQL text: `"` around identifiers, `'` around texts. -/
inductive Quote where
  | double | single
  deriving DecidableEq, Repr

/-- The quote character. -/
def Quote.char : Quote → Char
  | .double => '"'
  | .single => '\''

/-- A token of SQL text. -/
inductive Lexeme where
  | ident (name : String)
  | text (value : String)
  | param
  | word (w : String)
  | punct (c : Char)
  | unclosed
  deriving DecidableEq, Repr

/-- The token a quoted run stands for, read from the characters between its quotes. -/
def Quote.lexeme : Quote → List Char → Lexeme
  | .double, body => .ident (String.ofList body)
  | .single, body => .text (String.ofList body)

/-- The characters that are tokens of their own. -/
def isMark (c : Char) : Bool := c = '?' || c = '(' || c = ')' || c = ','

/-- The characters that end a word. -/
def endsWord (c : Char) : Bool := c.isWhitespace || c = '"' || c = '\'' || isMark c

/-- The token a mark stands for: `?` is a parameter, the others punctuation. -/
def markLexeme (c : Char) : Lexeme := if c = '?' then .param else .punct c

/-- Where the lexer stands: between tokens, inside a word, inside a quoted run,
or just after a quote inside one, where a second quote doubles it. -/
inductive LexMode where
  | blank
  | word (acc : List Char)
  | quoted (q : Quote) (body : List Char)
  | closing (q : Quote) (body : List Char)

/-- Reading a character between tokens. -/
def startWith (c : Char) : List Lexeme × LexMode :=
  if c.isWhitespace then ([], .blank)
  else if c = '"' then ([], .quoted .double [])
  else if c = '\'' then ([], .quoted .single [])
  else if isMark c then ([markLexeme c], .blank)
  else ([], .word [c])

/-- The tokens a mode completes when the text ends. -/
def LexMode.finish : LexMode → List Lexeme
  | .blank => []
  | .word acc => [.word (String.ofList acc)]
  | .quoted _ _ => [.unclosed]
  | .closing q body => [q.lexeme body]

/-- Reading one character: the tokens it completes and the mode after it. -/
def LexMode.feed : LexMode → Char → List Lexeme × LexMode
  | .blank, c => startWith c
  | .word acc, c =>
    if endsWord c then (.word (String.ofList acc) :: (startWith c).1, (startWith c).2)
    else ([], .word (acc ++ [c]))
  | .quoted q body, c =>
    if c = q.char then ([], .closing q body) else ([], .quoted q (body ++ [c]))
  | .closing q body, c =>
    if c = q.char then ([], .quoted q (body ++ [q.char]))
    else (q.lexeme body :: (startWith c).1, (startWith c).2)

/-- The tokens of the rest of a text, read from a mode. -/
def LexMode.run : LexMode → List Char → List Lexeme
  | m, [] => m.finish
  | m, c :: cs => (m.feed c).1 ++ LexMode.run (m.feed c).2 cs

/-- The tokens of SQL text. -/
def lexemes (s : String) : List Lexeme := LexMode.blank.run s.toList

@[simp] theorem run_nil (m : LexMode) : m.run [] = m.finish := rfl

@[simp] theorem run_cons (m : LexMode) (c : Char) (cs : List Char) :
    m.run (c :: cs) = (m.feed c).1 ++ (m.feed c).2.run cs := rfl

theorem startWith_space : startWith ' ' = ([], .blank) := rfl

theorem startWith_char (q : Quote) : startWith q.char = ([], .quoted q []) := by
  cases q <;> rfl

theorem startWith_of_endsWord {c : Char} (inside : endsWord c = false) : startWith c = ([], .word [c]) := by
  simp only [endsWord, isMark, Bool.or_eq_false_iff, decide_eq_false_iff_not] at inside
  obtain ⟨⟨⟨blank, double⟩, single⟩, ⟨⟨param, opening⟩, closing⟩, comma⟩ := inside
  simp [startWith, blank, double, single, isMark, param, opening, closing, comma]

theorem startWith_of_isMark {c : Char} (mark : isMark c = true) : startWith c = ([markLexeme c], .blank) := by
  simp only [isMark, Bool.or_eq_true, decide_eq_true_eq] at mark
  rcases mark with ((rfl | rfl) | rfl) | rfl <;> rfl

/-- A blank ends every token but a quoted run. -/
theorem run_space {m : LexMode} (settled : ∀ q body, m ≠ .quoted q body) (t : List Char) :
    m.run (' ' :: t) = m.finish ++ LexMode.blank.run t := by
  have unquoted : ∀ q : Quote, ' ' ≠ q.char := by
    intro q
    cases q <;> decide
  cases m with
  | blank => simp [LexMode.feed, LexMode.finish, startWith_space]
  | word acc => simp [LexMode.feed, LexMode.finish, endsWord, startWith_space]
  | quoted q body => exact absurd rfl (settled q body)
  | closing q body => simp [LexMode.feed, LexMode.finish, unquoted q, startWith_space]

/-! ## Texts read the same whatever follows them -/

/-- A text whose tokens are `out`, and stay `out` when a blank and more text follow. -/
def Piece (p : List Char) (out : List Lexeme) : Prop :=
  LexMode.blank.run p = out ∧ ∀ t, LexMode.blank.run (p ++ ' ' :: t) = out ++ LexMode.blank.run t

/-- A text whose tokens are `out` whatever text follows it. -/
def Closed (p : List Char) (out : List Lexeme) : Prop :=
  ∀ t, LexMode.blank.run (p ++ t) = out ++ LexMode.blank.run t

section Algebra

variable {p q : List Char} {a b : List Lexeme}

theorem Piece.of_eq (h : Piece p a) (same : a = b) : Piece p b := same ▸ h

theorem Closed.piece (h : Closed p a) : Piece p a := by
  constructor
  · simpa [LexMode.finish] using h []
  · intro t
    rw [h, run_space (by simp)]
    rfl

theorem Closed.append (hp : Closed p a) (hq : Closed q b) : Closed (p ++ q) (a ++ b) := by
  intro t
  rw [List.append_assoc, hp, hq, List.append_assoc]

/-- Two pieces with a blank between them read as the one and then the other. -/
theorem Piece.join (hp : Piece p a) (hq : Piece q b) : Piece (p ++ ' ' :: q) (a ++ b) := by
  constructor
  · rw [hp.2, hq.1]
  · intro t
    rw [List.append_assoc, List.cons_append, hp.2, hq.2, List.append_assoc]

theorem closed_nil : Closed [] [] := fun _ => rfl

theorem closed_space : Closed [' '] [] := fun t => run_space (by simp) t

theorem closed_mark {c : Char} (mark : isMark c = true) : Closed [c] [markLexeme c] := by
  intro t
  rw [List.singleton_append, run_cons]
  simp [LexMode.feed, startWith_of_isMark mark]

theorem Closed.flatMap {α : Type} (xs : List α) {f : α → List Char} {g : α → List Lexeme}
    (each : ∀ x, Closed (f x) (g x)) : Closed (xs.flatMap f) (xs.flatMap g) := by
  induction xs with
  | nil => exact closed_nil
  | cons x xs ih => exact (each x).append ih

end Algebra

/-! ## Quoted runs -/

/-- The characters of a quoted run: each quote inside written twice. -/
def Quote.doubled (q : Quote) (s : List Char) : List Char :=
  s.flatMap fun c => if c = q.char then [q.char, q.char] else [c]

@[simp] theorem Quote.doubled_nil (q : Quote) : q.doubled [] = [] := rfl

@[simp] theorem Quote.doubled_cons (q : Quote) (c : Char) (s : List Char) :
    q.doubled (c :: s) = (if c = q.char then [q.char, q.char] else [c]) ++ q.doubled s := rfl

/-- Inside a quoted run, a doubled quote is one quote of the body, and the
first quote that is not doubled closes the run. -/
theorem run_doubled (q : Quote) (body s t : List Char) :
    (LexMode.quoted q body).run (q.doubled s ++ q.char :: t) = (LexMode.closing q (body ++ s)).run t := by
  induction s generalizing body with
  | nil => simp [LexMode.feed]
  | cons c s ih =>
    by_cases quote : c = q.char
    · subst quote
      simp only [Quote.doubled_cons, ite_true, List.cons_append, List.nil_append, run_cons, LexMode.feed]
      rw [ih]
      simp
    · simp only [Quote.doubled_cons, quote, ite_false, List.cons_append, List.nil_append, run_cons,
        LexMode.feed]
      rw [ih]
      simp

/-- A quoted run reads as one token whose body is the text inside, whatever
that text holds. -/
theorem piece_quoted (q : Quote) (s : List Char) : Piece (q.char :: (q.doubled s ++ [q.char])) [q.lexeme s] := by
  have opens : ∀ t, LexMode.blank.run (q.char :: (q.doubled s ++ [q.char]) ++ t) = (LexMode.closing q s).run t := by
    intro t
    rw [List.cons_append, List.append_assoc, List.singleton_append, run_cons]
    simp only [LexMode.feed, startWith_char, List.nil_append]
    rw [run_doubled, List.nil_append]
  constructor
  · simpa [LexMode.finish] using opens []
  · intro t
    rw [opens, run_space (by simp)]
    rfl

theorem toList_quoteIdentifier (name : String) :
    (quoteIdentifier name).toList = Quote.double.char :: (Quote.double.doubled name.toList ++ [Quote.double.char]) := by
  simp [quoteIdentifier, doubleQuoteChar, Quote.doubled, Quote.char]
  rfl

/-- A quoted identifier reads as one identifier token named exactly as the name. -/
theorem piece_quoteIdentifier (name : String) : Piece (quoteIdentifier name).toList [.ident name] := by
  rw [toList_quoteIdentifier]
  exact (piece_quoted .double name.toList).of_eq (by simp [Quote.lexeme])

/-- The literal `'\'` reads as the text `\`. -/
theorem piece_escape : Piece ['\'', '\\', '\''] [.text "\\"] :=
  (piece_quoted .single ['\\']).of_eq (by simp [Quote.lexeme])

/-! ## Words -/

/-- Text that reads as one word: not empty, and no character in it ends a word. -/
def isKeyword (w : String) : Bool := !w.toList.isEmpty && w.toList.all fun c => !endsWord c

theorem run_word (acc w t : List Char) (inside : ∀ c ∈ w, endsWord c = false) :
    (LexMode.word acc).run (w ++ t) = (LexMode.word (acc ++ w)).run t := by
  induction w generalizing acc with
  | nil => simp
  | cons c w ih =>
    have stays : endsWord c = false := inside c List.mem_cons_self
    rw [List.cons_append, run_cons]
    simp only [LexMode.feed, stays, Bool.false_eq_true, ite_false, List.nil_append]
    rw [ih _ fun d mem => inside d (List.mem_cons_of_mem c mem), List.append_assoc, List.singleton_append]

theorem piece_keyword (w : String) (keyword : isKeyword w = true) : Piece w.toList [.word w] := by
  simp only [isKeyword, Bool.and_eq_true, Bool.not_eq_true', List.isEmpty_eq_false_iff, List.all_eq_true,
    Bool.not_eq_true'] at keyword
  obtain ⟨present, inside⟩ := keyword
  obtain ⟨c, cs, spelled⟩ := List.exists_cons_of_ne_nil present
  have reads : ∀ t, LexMode.blank.run (w.toList ++ t) = (LexMode.word w.toList).run t := by
    intro t
    have first : endsWord c = false := inside c (by simp [spelled])
    rw [spelled, List.cons_append, run_cons]
    simp only [LexMode.feed, startWith_of_endsWord first, List.nil_append]
    rw [run_word [c] cs t fun d mem => inside d (by simp [spelled, mem])]
    rfl
  constructor
  · simpa [LexMode.finish] using reads []
  · intro t
    rw [reads, run_space (by simp)]
    simp [LexMode.finish]

/-! ## Binding values to placeholders -/

/-- The tokens with the values bound to their `?` in order; `none` unless
there is exactly one value for each `?`. -/
def bindParams : List Lexeme → List Json → Option (List (Lexeme ⊕ Json))
  | [], [] => some []
  | [], _ :: _ => none
  | .param :: _, [] => none
  | .param :: ls, v :: vs => (bindParams ls vs).map (.inr v :: ·)
  | l :: ls, vs => (bindParams ls vs).map (.inl l :: ·)

/-- A reading with its values replaced by `?`: the tokens of its text. -/
def unbind (xs : List (Lexeme ⊕ Json)) : List Lexeme := xs.map (Sum.elim id fun _ => .param)

/-- The values of a reading, in order. -/
def values (xs : List (Lexeme ⊕ Json)) : List Json := xs.filterMap Sum.getRight?

/-- A reading writes no `?` but in the place of a value. -/
def NoBareParams (xs : List (Lexeme ⊕ Json)) : Prop := ∀ l, Sum.inl l ∈ xs → l ≠ .param

@[simp] theorem unbind_nil : unbind [] = [] := rfl

@[simp] theorem unbind_cons (x : Lexeme ⊕ Json) (xs : List (Lexeme ⊕ Json)) :
    unbind (x :: xs) = Sum.elim id (fun _ => .param) x :: unbind xs := rfl

@[simp] theorem values_nil : values [] = [] := rfl

@[simp] theorem values_cons_inl (l : Lexeme) (xs : List (Lexeme ⊕ Json)) :
    values (.inl l :: xs) = values xs := rfl

@[simp] theorem values_cons_inr (v : Json) (xs : List (Lexeme ⊕ Json)) :
    values (.inr v :: xs) = v :: values xs := rfl

@[simp] theorem unbind_append (xs ys : List (Lexeme ⊕ Json)) : unbind (xs ++ ys) = unbind xs ++ unbind ys :=
  List.map_append

@[simp] theorem values_append (xs ys : List (Lexeme ⊕ Json)) : values (xs ++ ys) = values xs ++ values ys :=
  List.filterMap_append

theorem NoBareParams.append {xs ys : List (Lexeme ⊕ Json)} (left : NoBareParams xs) (right : NoBareParams ys) :
    NoBareParams (xs ++ ys) := by
  intro l mem
  rcases List.mem_append.mp mem with inLeft | inRight
  · exact left l inLeft
  · exact right l inRight

/-- Binding the values of a reading to the `?` of its text gives the reading back. -/
theorem bindParams_unbind {xs : List (Lexeme ⊕ Json)} (plain : NoBareParams xs) :
    bindParams (unbind xs) (values xs) = some xs := by
  induction xs with
  | nil => rfl
  | cons x xs ih =>
    have rest := ih fun l mem => plain l (List.mem_cons_of_mem x mem)
    cases x with
    | inr v => simp [bindParams, rest]
    | inl l =>
      have notParam : l ≠ .param := plain l List.mem_cons_self
      cases l <;> simp_all [bindParams]

/-- The text of a reading holds one `?` for each of its values. -/
theorem count_unbind {xs : List (Lexeme ⊕ Json)} (plain : NoBareParams xs) :
    (unbind xs).count .param = (values xs).length := by
  induction xs with
  | nil => rfl
  | cons x xs ih =>
    have rest := ih fun l mem => plain l (List.mem_cons_of_mem x mem)
    cases x with
    | inr v => simp [rest]
    | inl l =>
      have notParam : l ≠ .param := plain l List.mem_cons_self
      simp [notParam, rest]

end Sql

/-! ## The reading of a predicate -/

namespace Query

open Sql

namespace Predicate

/-- A predicate's fragment as SQL reads it, each operand in the place of its
`?`: the column as one identifier, then the keywords of the constructor; an
empty membership test reads as a constant comparison. -/
def reading : Predicate → List (Lexeme ⊕ Json)
  | .compare c op v => [.inl (.ident c), .inl (.word op.sql), .inr v]
  | .like c n a negated =>
    .inl (.ident c) :: (if negated then [.inl (.word "NOT")] else []) ++
      [.inl (.word "LIKE"), .inr (.str (likePattern n a)), .inl (.word "ESCAPE"), .inl (.text "\\")]
  | .member _ [] negated => [.inl (.word "1"), .inl (.word "="), .inl (.word (if negated then "1" else "0"))]
  | .member c (v :: vs) negated =>
    .inl (.ident c) :: (if negated then [.inl (.word "NOT")] else []) ++
      [.inl (.word "IN"), .inl (.punct '('), .inr v] ++
      vs.flatMap (fun w => [.inl (.punct ','), .inr w]) ++ [.inl (.punct ')')]
  | .between c lo hi => [.inl (.ident c), .inl (.word "BETWEEN"), .inr lo, .inl (.word "AND"), .inr hi]
  | .null c negated =>
    .inl (.ident c) :: .inl (.word "IS") :: (if negated then [.inl (.word "NOT")] else []) ++
      [.inl (.word "NULL")]

/-- The values of a membership test after the first, each after a comma. -/
theorem values_commas (vs : List Json) :
    values (vs.flatMap fun w => [.inl (.punct ','), .inr w]) = vs := by
  induction vs with
  | nil => rfl
  | cons v vs ih => simp [ih]

theorem unbind_commas (vs : List Json) :
    unbind (vs.flatMap fun w => [.inl (.punct ','), .inr w]) = vs.flatMap fun _ => [.punct ',', .param] := by
  induction vs with
  | nil => rfl
  | cons v vs ih => simp [ih]

theorem noBareParams_reading (p : Predicate) : NoBareParams p.reading := by
  unfold NoBareParams
  cases p with
  | member c vs negated =>
    cases vs with
    | nil => cases negated <;> simp [reading]
    | cons v vs =>
      -- past the keywords the list writes only commas and the closing bracket
      cases negated <;> simp [reading] <;> rintro l (⟨-, rfl⟩ | rfl) <;> simp
  | like c n a negated => cases negated <;> simp [reading]
  | null c negated => cases negated <;> simp [reading]
  | compare c op v => simp [reading]
  | between c lo hi => simp [reading]

/-- The values of a predicate's reading are its bindings, in order. -/
theorem values_reading (p : Predicate) : values p.reading = p.bindings := by
  cases p with
  | member c vs negated =>
    cases vs with
    | nil => cases negated <;> rfl
    | cons v vs =>
      cases negated <;> simp [reading, bindings, values_commas]
  | like c n a negated => cases negated <;> rfl
  | null c negated => cases negated <;> rfl
  | compare c op v => rfl
  | between c lo hi => rfl

theorem isKeyword_sql (op : CompareOp) : isKeyword op.sql = true := by
  cases op <;> decide

/-- The `?` of a non-empty list of values, with `, ` between them. -/
theorem toList_marks (v : Json) (vs : List Json) :
    (", ".intercalate ((v :: vs).map fun _ => "?")).toList = '?' :: vs.flatMap fun _ => [',', ' ', '?'] := by
  induction vs generalizing v with
  | nil => simp
  | cons w vs ih =>
    have rest := ih w
    rw [List.map_cons] at rest
    rw [List.map_cons, List.map_cons, String.intercalate_cons_cons, String.toList_append, String.toList_append,
      rest]
    simp

theorem closed_marks (vs : List Json) :
    Closed ('(' :: '?' :: (vs.flatMap fun _ => [',', ' ', '?']) ++ [')'])
      (.punct '(' :: .param :: (vs.flatMap fun _ => [.punct ',', .param]) ++ [.punct ')']) := by
  have each : ∀ _ : Json, Closed [',', ' ', '?'] [.punct ',', .param] := fun _ =>
    (closed_mark (c := ',') rfl).append (closed_space.append (closed_mark (c := '?') rfl))
  exact ((closed_mark (c := '(') rfl).append ((closed_mark (c := '?') rfl).append
    ((Closed.flatMap vs each).append (closed_mark (c := ')') rfl))))

/-- A predicate's fragment reads as its reading with a `?` for each operand. -/
theorem piece_sql (p : Predicate) : Piece p.sql.toList (unbind p.reading) := by
  have word : ∀ w : String, isKeyword w = true → Piece w.toList [.word w] := piece_keyword
  have mark : Piece ['?'] [.param] := (closed_mark (c := '?') rfl).piece
  cases p with
  | compare c op v =>
    have text : (Predicate.compare c op v).sql.toList =
        (quoteIdentifier c).toList ++ ' ' :: (op.sql.toList ++ ' ' :: ['?']) := by
      simp [sql]
    rw [text]
    exact ((piece_quoteIdentifier c).join ((word _ (isKeyword_sql op)).join mark)).of_eq rfl
  | like c n a negated =>
    cases negated
    · have text : (Predicate.like c n a false).sql.toList =
          (quoteIdentifier c).toList ++ ' ' :: ("LIKE".toList ++ ' ' :: (['?'] ++ ' ' ::
            ("ESCAPE".toList ++ ' ' :: ['\'', '\\', '\'']))) := by
        simp [sql]
      rw [text]
      exact ((piece_quoteIdentifier c).join ((word "LIKE" rfl).join (mark.join
        ((word "ESCAPE" rfl).join piece_escape)))).of_eq rfl
    · have text : (Predicate.like c n a true).sql.toList =
          (quoteIdentifier c).toList ++ ' ' :: ("NOT".toList ++ ' ' :: ("LIKE".toList ++ ' ' :: (['?'] ++ ' ' ::
            ("ESCAPE".toList ++ ' ' :: ['\'', '\\', '\''])))) := by
        simp [sql]
      rw [text]
      exact ((piece_quoteIdentifier c).join ((word "NOT" rfl).join ((word "LIKE" rfl).join (mark.join
        ((word "ESCAPE" rfl).join piece_escape))))).of_eq rfl
  | member c vs negated =>
    cases vs with
    | nil =>
      -- no values: the constant comparison, and no column at all
      cases negated
      · have text : (Predicate.member c [] false).sql.toList = "1".toList ++ ' ' :: ("=".toList ++ ' ' :: "0".toList) := by
          simp [sql]
        rw [text]
        exact ((word "1" rfl).join ((word "=" rfl).join (word "0" rfl))).of_eq rfl
      · have text : (Predicate.member c [] true).sql.toList = "1".toList ++ ' ' :: ("=".toList ++ ' ' :: "1".toList) := by
          simp [sql]
        rw [text]
        exact ((word "1" rfl).join ((word "=" rfl).join (word "1" rfl))).of_eq rfl
    | cons v vs =>
      have list := (closed_marks vs).piece
      cases negated
      · have text : (Predicate.member c (v :: vs) false).sql.toList =
            (quoteIdentifier c).toList ++ ' ' :: ("IN".toList ++ ' ' ::
              ('(' :: '?' :: (vs.flatMap fun _ => [',', ' ', '?']) ++ [')'])) := by
          rw [show (Predicate.member c (v :: vs) false).sql =
              quoteIdentifier c ++ " IN (" ++ ", ".intercalate ((v :: vs).map fun _ => "?") ++ ")" from rfl]
          simp only [String.toList_append, toList_marks]
          simp
        rw [text]
        exact ((piece_quoteIdentifier c).join ((word "IN" rfl).join list)).of_eq (by simp [reading, unbind_commas])
      · have text : (Predicate.member c (v :: vs) true).sql.toList =
            (quoteIdentifier c).toList ++ ' ' :: ("NOT".toList ++ ' ' :: ("IN".toList ++ ' ' ::
              ('(' :: '?' :: (vs.flatMap fun _ => [',', ' ', '?']) ++ [')']))) := by
          rw [show (Predicate.member c (v :: vs) true).sql =
              quoteIdentifier c ++ " NOT IN (" ++ ", ".intercalate ((v :: vs).map fun _ => "?") ++ ")" from rfl]
          simp only [String.toList_append, toList_marks]
          simp
        rw [text]
        exact ((piece_quoteIdentifier c).join ((word "NOT" rfl).join ((word "IN" rfl).join list))).of_eq
          (by simp [reading, unbind_commas])
  | between c lo hi =>
    have text : (Predicate.between c lo hi).sql.toList =
        (quoteIdentifier c).toList ++ ' ' :: ("BETWEEN".toList ++ ' ' :: (['?'] ++ ' ' ::
          ("AND".toList ++ ' ' :: ['?']))) := by
      simp [sql]
    rw [text]
    exact ((piece_quoteIdentifier c).join ((word "BETWEEN" rfl).join (mark.join
      ((word "AND" rfl).join mark)))).of_eq rfl
  | null c negated =>
    cases negated
    · have text : (Predicate.null c false).sql.toList =
          (quoteIdentifier c).toList ++ ' ' :: ("IS".toList ++ ' ' :: "NULL".toList) := by
        simp [sql]
      rw [text]
      exact ((piece_quoteIdentifier c).join ((word "IS" rfl).join (word "NULL" rfl))).of_eq rfl
    · have text : (Predicate.null c true).sql.toList =
          (quoteIdentifier c).toList ++ ' ' :: ("IS".toList ++ ' ' :: ("NOT".toList ++ ' ' :: "NULL".toList)) := by
        simp [sql]
      rw [text]
      exact ((piece_quoteIdentifier c).join ((word "IS" rfl).join ((word "NOT" rfl).join
        (word "NULL" rfl)))).of_eq rfl

/-- A predicate's fragment reads as its reading with a `?` for each operand. -/
theorem lexemes_sql (p : Predicate) : lexemes p.sql = unbind p.reading := (piece_sql p).1

end Predicate

/-! ## The WHERE clause -/

/-- The predicates' readings joined by `AND`: how a WHERE clause reads with
its values in place. -/
def joinReadings (ps : List Predicate) : List (Lexeme ⊕ Json) :=
  List.intercalate [.inl (.word "AND")] (ps.map Predicate.reading)

@[simp] theorem joinReadings_singleton (p : Predicate) : joinReadings [p] = p.reading := by
  simp [joinReadings]

theorem joinReadings_cons_cons (p p' : Predicate) (ps : List Predicate) :
    joinReadings (p :: p' :: ps) = p.reading ++ .inl (.word "AND") :: joinReadings (p' :: ps) := by
  simp [joinReadings, List.intercalate_cons_cons]

theorem noBareParams_joinReadings (ps : List Predicate) : NoBareParams (joinReadings ps) := by
  induction ps with
  | nil => intro l mem; cases mem
  | cons p ps ih =>
    cases ps with
    | nil => simpa using p.noBareParams_reading
    | cons p' ps =>
      have keyword : NoBareParams [.inl (.word "AND")] := by simp [NoBareParams]
      rw [joinReadings_cons_cons]
      exact p.noBareParams_reading.append (keyword.append ih)

theorem values_joinReadings (ps : List Predicate) : values (joinReadings ps) = ps.flatMap Predicate.bindings := by
  induction ps with
  | nil => rfl
  | cons p ps ih =>
    cases ps with
    | nil => simp [p.values_reading]
    | cons p' ps =>
      rw [joinReadings_cons_cons, values_append, values_cons_inl, ih, p.values_reading]
      simp

theorem toList_where_cons_cons (p p' : Predicate) (ps : List Predicate) :
    (" AND ".intercalate ((p :: p' :: ps).map Predicate.sql)).toList =
      p.sql.toList ++ ' ' :: ("AND".toList ++ ' ' :: (" AND ".intercalate ((p' :: ps).map Predicate.sql)).toList) := by
  rw [List.map_cons, List.map_cons, String.intercalate_cons_cons, String.toList_append, String.toList_append]
  simp

/-- A WHERE clause reads as its predicates' readings joined by `AND`, with a
`?` for each value. -/
theorem piece_where (ps : List Predicate) :
    Piece (" AND ".intercalate (ps.map Predicate.sql)).toList (unbind (joinReadings ps)) := by
  induction ps with
  | nil => exact closed_nil.piece
  | cons p ps ih =>
    cases ps with
    | nil => simpa using p.piece_sql
    | cons p' ps =>
      rw [toList_where_cons_cons, joinReadings_cons_cons, unbind_append, unbind_cons]
      exact p.piece_sql.join ((piece_keyword "AND" rfl).join ih)

/-- Binding the `?` of a WHERE clause in order to its bindings gives each
predicate its own values. -/
theorem bindParams_where (ps : List Predicate) :
    bindParams (lexemes (whereClause ps).1) (whereClause ps).2 = some (joinReadings ps) := by
  have lexed : lexemes (whereClause ps).1 = unbind (joinReadings ps) := (piece_where ps).1
  have bound : (whereClause ps).2 = values (joinReadings ps) := (values_joinReadings ps).symm
  rw [lexed, bound]
  exact bindParams_unbind (noBareParams_joinReadings ps)

/-! ## Runs of calls -/

/-- Whether a whitelist lets a column be filtered; without one every column may be. -/
def allows (whitelist : Option (List String)) (column : String) : Bool :=
  whitelist.all (·.contains column)

/-- Applies predicates one after another; a refused one leaves the query as it was. -/
def applyEach {σ : Type} (apply : σ → Predicate → Except CompileError σ) (start : σ) (ps : List Predicate) : σ :=
  ps.foldl (fun s p => (apply s p).toOption.getD s) start

section Runs

variable {σ : Type} {apply : σ → Predicate → Except CompileError σ} {s s' : σ} {p : Predicate}

@[simp] theorem applyEach_nil : applyEach apply s [] = s := rfl

theorem applyEach_cons_of_ok (accepted : apply s p = .ok s') (ps : List Predicate) :
    applyEach apply s (p :: ps) = applyEach apply s' ps := by
  simp [applyEach, accepted, Except.toOption]

/-- A refused call changes nothing. -/
theorem applyEach_cons_of_error {e : CompileError} (refused : apply s p = .error e) (ps : List Predicate) :
    applyEach apply s (p :: ps) = applyEach apply s ps := by
  simp [applyEach, refused, Except.toOption]

end Runs

namespace MemoryQuery

theorem apply_eq (q : MemoryQuery) (p : Predicate) :
    q.apply p = if allows q.columns p.column then .ok { q with predicates := q.predicates ++ [p] }
      else .error (.unknownColumn .memory p.column) := by
  obtain ⟨name, rows, columns, predicates⟩ := q
  cases columns <;> simp [apply, allows]

/-- After a run of calls a memory query holds, after its own predicates, those
its whitelist allowed, in order. -/
theorem applyEach_eq (q : MemoryQuery) (ps : List Predicate) :
    applyEach apply q ps = { q with predicates := q.predicates ++ ps.filter (allows q.columns ·.column) } := by
  induction ps generalizing q with
  | nil => simp
  | cons p ps ih =>
    by_cases allowed : allows q.columns p.column
    · rw [applyEach_cons_of_ok (by rw [apply_eq, if_pos allowed]), ih]
      simp [allowed]
    · rw [applyEach_cons_of_error (by rw [apply_eq, if_neg allowed]), ih]
      simp [allowed]

theorem bindings_compiled (q : MemoryQuery) : q.compiled.bindings = (whereClause q.predicates).2 := by
  unfold compiled
  split
  · next empty => simp [whereClause, List.isEmpty_iff.mp empty]
  · rfl

theorem sql_compiled (q : MemoryQuery) (present : q.predicates ≠ []) :
    q.compiled.sql = "SELECT * FROM " ++ q.name ++ " WHERE " ++ (whereClause q.predicates).1 := by
  unfold compiled
  rw [if_neg (by simpa using present)]

end MemoryQuery

namespace SelectQuery

theorem apply_eq (q : SelectQuery) (p : Predicate) :
    q.apply p = if allows q.filterable p.column then
        .ok { q with clauses := q.clauses ++ [p.sql], bindings := q.bindings ++ p.bindings }
      else .error (.unknownColumn .sqlite p.column) := by
  obtain ⟨base, baseBindings, orderBy, filterable, clauses, bindings⟩ := q
  cases filterable <;> simp [apply, allows]

/-- After a run of calls a select query holds, after its own clauses and
bindings, the fragments and bindings of the predicates its whitelist allowed,
in order. -/
theorem applyEach_eq (q : SelectQuery) (ps : List Predicate) :
    applyEach apply q ps =
      { q with clauses := q.clauses ++ (ps.filter (allows q.filterable ·.column)).map Predicate.sql,
               bindings := q.bindings ++ (ps.filter (allows q.filterable ·.column)).flatMap Predicate.bindings } := by
  induction ps generalizing q with
  | nil => simp
  | cons p ps ih =>
    by_cases allowed : allows q.filterable p.column
    · rw [applyEach_cons_of_ok (by rw [apply_eq, if_pos allowed]), ih]
      simp [allowed]
    · rw [applyEach_cons_of_error (by rw [apply_eq, if_neg allowed]), ih]
      simp [allowed]

theorem bindings_compiled (q : SelectQuery) : q.compiled.bindings = q.baseBindings ++ q.bindings := rfl

theorem sql_compiled (q : SelectQuery) (present : q.clauses ≠ []) :
    q.compiled.sql = "SELECT * FROM (" ++ q.base ++ ") AS source WHERE " ++ " AND ".intercalate q.clauses ++
      (q.orderBy.map (" ORDER BY " ++ ·)).getD "" := by
  unfold compiled
  rw [if_neg (by simpa using present)]
  cases q.orderBy <;> simp [String.append_assoc]

end SelectQuery

/-- Every predicate's fragment reads as its reading, with one `?` per binding
in the bindings' order; and after any run of calls, refused ones included, a
query's bindings are the base's followed by the accepted predicates' own, and
binding the `?` of its WHERE clause in order to them gives every predicate its
own values. -/
theorem placeholders_follow_bindings :
    (∀ p : Predicate, lexemes p.sql = unbind p.reading ∧ values p.reading = p.bindings ∧
      (lexemes p.sql).count .param = p.bindings.length) ∧
    (∀ (q : MemoryQuery) (ps : List Predicate),
      let accepted := ps.filter (allows q.columns ·.column)
      let q' := applyEach MemoryQuery.apply q ps
      q'.predicates = q.predicates ++ accepted ∧
      q'.compiled.bindings = q.compiled.bindings ++ accepted.flatMap Predicate.bindings ∧
      (q'.predicates ≠ [] →
        q'.compiled.sql = "SELECT * FROM " ++ q.name ++ " WHERE " ++ (whereClause q'.predicates).1) ∧
      bindParams (lexemes (whereClause q'.predicates).1) q'.compiled.bindings =
        some (joinReadings q'.predicates)) ∧
    (∀ (base : String) (baseBindings : List Json) (orderBy : Option String)
        (filterable : Option (List String)) (ps : List Predicate),
      let accepted := ps.filter (allows filterable ·.column)
      let q' := applyEach SelectQuery.apply ⟨base, baseBindings, orderBy, filterable, [], []⟩ ps
      q'.compiled.bindings = baseBindings ++ accepted.flatMap Predicate.bindings ∧
      (accepted ≠ [] → q'.compiled.sql = "SELECT * FROM (" ++ base ++ ") AS source WHERE " ++
        (whereClause accepted).1 ++ (orderBy.map (" ORDER BY " ++ ·)).getD "") ∧
      bindParams (lexemes (whereClause accepted).1) (q'.compiled.bindings.drop baseBindings.length) =
        some (joinReadings accepted)) := by
  refine ⟨fun p => ⟨p.lexemes_sql, p.values_reading, ?_⟩, fun q ps => ?_, fun base baseBindings orderBy filterable ps => ?_⟩
  · rw [p.lexemes_sql, count_unbind p.noBareParams_reading, p.values_reading]
  · dsimp only
    rw [MemoryQuery.applyEach_eq]
    refine ⟨rfl, ?_, fun present => MemoryQuery.sql_compiled _ present, ?_⟩
    · rw [MemoryQuery.bindings_compiled, MemoryQuery.bindings_compiled]
      simp [whereClause]
    · rw [MemoryQuery.bindings_compiled]
      exact bindParams_where _
  · dsimp only
    rw [SelectQuery.applyEach_eq]
    simp only [List.nil_append]
    refine ⟨rfl, fun present => ?_, ?_⟩
    · rw [SelectQuery.sql_compiled _ (by simpa using present)]
      rfl
    · rw [SelectQuery.bindings_compiled, List.drop_left]
      exact bindParams_where _

end Query

end ReportExport

import Flowsql.Sql.Reading
import Mathlib

/-!
# Splitting a script into statements

A script is cut at the semicolons that are code, and each piece becomes a statement without the whitespace around
it. A piece before a semicolon must hold more than whitespace and comments. What follows the last semicolon may hold
less, and is then no statement.
-/

namespace Flowsql.Sql.TextSplitter

structure SqlTextSplitError where
  statementIndex : Nat
  message : String
  deriving DecidableEq

/-- The characters for which `isspace` holds. -/
def isWhitespace (c : Char) : Bool :=
  c = ' ' || c = '\t' || c = '\n' || c = '\x0b' || c = '\x0c' || c = '\r'

def trim (text : List Char) : List Char :=
  (text.dropWhile isWhitespace).rdropWhile isWhitespace

/-- The statements found so far and the piece that is being read. -/
structure Reader where
  current : List Char
  hasContent : Bool
  statements : List (List Char)
  deriving DecidableEq

namespace Reader

def push (reader : Reader) (read : List Char) (content : Bool) : Reader :=
  { reader with current := reader.current ++ read, hasContent := reader.hasContent || content }

/-- A piece ends, at a semicolon or with the text. -/
def close (reader : Reader) : Except SqlTextSplitError Reader :=
  if reader.hasContent = false ∨ trim reader.current = [] then
    .error ⟨reader.statements.length, "empty SQL statement"⟩
  else
    .ok ⟨[], false, reader.statements ++ [trim reader.current]⟩

end Reader

/-- The loop of the splitter. -/
def readText : Mode → Reader → List Char → Except SqlTextSplitError (Mode × Reader)
  | .line, reader, ch :: rest =>
      readText (if ch = '\n' then .normal else .line) (reader.push [ch] false) rest
  | .block, reader, '*' :: '/' :: rest => readText .normal (reader.push ['*', '/'] false) rest
  | .block, reader, ch :: rest => readText .block (reader.push [ch] false) rest
  | .quoted quote, reader, [ch] =>
      .ok (if ch = quote then .normal else .quoted quote, reader.push [ch] true)
  | .quoted quote, reader, ch :: next :: rest =>
      -- A doubled quote is part of the text and does not count as content: its opening quote did.
      if ch = quote ∧ next = quote then readText (.quoted quote) (reader.push [ch, next] false) rest
      else readText (if ch = quote then .normal else .quoted quote) (reader.push [ch] true) (next :: rest)
  | .normal, reader, '-' :: '-' :: rest => readText .line (reader.push ['-', '-'] false) rest
  | .normal, reader, '/' :: '*' :: rest => readText .block (reader.push ['/', '*'] false) rest
  | .normal, reader, ch :: rest =>
      if isQuote ch then readText (.quoted ch) (reader.push [ch] true) rest
      else if ch = ';' then
        match reader.close with
        | .error err => .error err
        | .ok closed => readText .normal closed rest
      else readText .normal (reader.push [ch] (!isWhitespace ch)) rest
  | mode, reader, [] => .ok (mode, reader)

/-- What the splitter does behind the end of the text. -/
def finish (mode : Mode) (reader : Reader) : Except SqlTextSplitError (List (List Char)) :=
  if mode ≠ .normal then
    .error ⟨reader.statements.length, "unterminated quote or comment in sql_text"⟩
  else if reader.hasContent then
    if trim reader.current = [] then .error ⟨reader.statements.length, "empty SQL statement"⟩
    else .ok (reader.statements ++ [trim reader.current])
  else if reader.statements = [] then .error ⟨0, "sql_text is empty"⟩
  else .ok reader.statements

def splitSqlText (text : List Char) : Except SqlTextSplitError (List (List Char)) :=
  if trim text = [] then .error ⟨0, "sql_text is empty"⟩
  else
    match readText .normal ⟨[], false, []⟩ text with
    | .error err => .error err
    | .ok (mode, reader) => finish mode reader

/-! ## Pieces -/

/-- No semicolon of a piece is code. -/
def Uncut (mode : Mode) (piece : List Char) : Prop :=
  ∀ before after, piece = before ++ ';' :: after → lex mode before ≠ .normal

/-- Whether a text holds more than whitespace and comments. -/
def content : Mode → List Char → Bool
  | .normal, '-' :: '-' :: rest => content .line rest
  | .normal, '/' :: '*' :: rest => content .block rest
  | .normal, c :: rest => !isWhitespace c || content (if isQuote c then .quoted c else .normal) rest
  | .quoted _, _ => true
  | .line, c :: rest => content (if c = '\n' then .normal else .line) rest
  | .block, '*' :: '/' :: rest => content .normal rest
  | .block, _ :: rest => content .block rest
  | _, [] => false

/-- A text cut into the maximal pieces between the semicolons that are code. -/
structure Cut (text : List Char) where
  closed : List (List Char)
  tail : List Char
  joined : text = closed.flatMap (· ++ [';']) ++ tail
  code : ∀ piece ∈ closed, lex .normal piece = .normal
  uncut : ∀ piece ∈ closed ++ [tail], Uncut .normal piece

namespace Cut

variable {text : List Char}

def pieces (cut : Cut text) : List (List Char) :=
  cut.closed ++ [cut.tail]

end Cut

namespace Uncut

variable {mode : Mode} {piece : List Char}

/-- A piece is still uncut behind a part of it that leads to another mode. -/
theorem behind {next : Mode} (part : List Char) {rest : List Char} (uncut : Uncut mode (part ++ rest))
    (leads : ∀ before after, rest = before ++ after → lex mode (part ++ before) = lex next before) :
    Uncut next rest := by
  intro before after cut code
  exact uncut (part ++ before) after (by rw [cut, List.append_assoc]) ((leads before _ cut).trans code)

theorem of_no_semicolon (without : ';' ∉ piece) : Uncut mode piece := by
  intro before after cut
  exact absurd (by simp [cut]) without

end Uncut

/-- A marker that is not at the start of a text is not at the start of a first part of it. -/
theorem apart_of_append {first left right : Char} {rest before after : List Char} (split : rest = before ++ after)
    (apart : ∀ tail, first = left → rest = right :: tail → False) :
    ∀ tail, first = left → before = right :: tail → False := by
  rintro tail same rfl
  exact apart (tail ++ after) same (by rw [split, List.cons_append])

/-- What no marker lies across: the end of the text, or a text with a plain start. -/
def Bounds (after : List Char) : Prop :=
  ∀ c rest, after = c :: rest → isPlain c

namespace Bounds

variable {after : List Char}

theorem not_across (bounds : Bounds after) {first left right : Char} {rest : List Char}
    (apart : ∀ tail, first = left → rest = right :: tail → False) (marker : ¬ isPlain right) :
    ∀ tail, first = left → rest ++ after = right :: tail → False := by
  cases after with
  | nil => simpa using apart
  | cons c behind =>
      have plain := bounds c behind rfl
      exact Sql.not_across apart fun same => marker (same ▸ plain)

theorem lex_append (bounds : Bounds after) (mode : Mode) (before : List Char) :
    lex mode (before ++ after) = lex (lex mode before) after := by
  cases after with
  | nil => rw [List.append_nil, lex.eq_8]
  | cons c behind => exact Sql.lex_append mode before (bounds c behind rfl) behind

end Bounds

/-! ## Reading a piece -/

section Reading

attribute [local simp] lex content readText

variable (reader : Reader)

theorem push_push (first second : List Char) (left right : Bool) :
    (reader.push first left).push second right = reader.push (first ++ second) (left || right) := by
  simp [Reader.push, Bool.or_assoc]

theorem push_content (present : reader.hasContent = true) (read : List Char) (left right : Bool) :
    reader.push read left = reader.push read right := by
  simp [Reader.push, present]

theorem readText_nil (mode : Mode) : readText mode reader [] = .ok (mode, reader) := by
  cases mode <;> rfl

theorem readText_quote {quote : Char} (opens : isQuote quote = true) (rest : List Char) :
    readText .normal reader (quote :: rest) = readText (.quoted quote) (reader.push [quote] true) rest := by
  simp only [isQuote, Bool.or_eq_true, decide_eq_true_eq] at opens
  obtain (rfl | rfl) | rfl := opens <;> simp [isQuote]

/-- A doubled quote is read as if the quotes closed and opened again. -/
theorem readText_quoted {quote : Char} (opens : isQuote quote = true) (present : reader.hasContent = true)
    (first : Char) (rest : List Char) :
    readText (.quoted quote) reader (first :: rest) =
      readText (if first = quote then .normal else .quoted quote) (reader.push [first] true) rest := by
  cases rest with
  | nil => rw [readText_nil, readText]
  | cons next rest =>
      rw [readText]
      by_cases doubled : first = quote ∧ next = quote
      · obtain ⟨rfl, rfl⟩ := doubled
        rw [if_pos ⟨rfl, rfl⟩, if_pos rfl, readText_quote _ opens, push_push]
        exact congrArg (readText _ · rest) (push_content reader present _ _ _)
      · rw [if_neg doubled]

/-- In quotes, the quote is one and has counted as content. -/
def Opened (mode : Mode) : Prop :=
  ∀ quote, mode = .quoted quote → isQuote quote = true ∧ reader.hasContent = true

/-- A piece is read to its end. -/
theorem readText_piece {mode : Mode} {piece : List Char} (uncut : Uncut mode piece) (opened : Opened reader mode)
    {after : List Char} (bounds : Bounds after) :
    readText mode reader (piece ++ after) =
      readText (lex mode piece) (reader.push piece (content mode piece)) after := by
  fun_induction lex mode piece generalizing reader with
  | case1 rest ih =>
      have further : Uncut .line rest := uncut.behind ['-', '-'] fun _ _ _ => rfl
      rw [List.cons_append, List.cons_append, readText.eq_6, ih _ further (by rintro _ ⟨⟩), push_push, content.eq_1]
      rfl
  | case2 rest ih =>
      have further : Uncut .block rest := uncut.behind ['/', '*'] fun _ _ _ => rfl
      rw [List.cons_append, List.cons_append, readText.eq_7, ih _ further (by rintro _ ⟨⟩), push_push, content.eq_2]
      rfl
  | case3 first rest notLine notBlock ih =>
      have further : Uncut (if isQuote first then .quoted first else .normal) rest :=
        uncut.behind [first] fun _ _ cut =>
          lex.eq_3 _ _ (apart_of_append cut notLine) (apart_of_append cut notBlock)
      have other : first ≠ ';' := fun semicolon => uncut [] rest (by rw [semicolon]; rfl) rfl
      rw [List.cons_append, readText.eq_8 _ _ _ (bounds.not_across notLine (by simp [isPlain]))
        (bounds.not_across notBlock (by simp [isPlain])), content.eq_3 _ _ notLine notBlock, if_neg other]
      by_cases opens : isQuote first = true
      · simp only [if_pos opens] at ih further ⊢
        rw [ih _ further (by rintro _ ⟨⟩; exact ⟨opens, by simp [Reader.push]⟩), push_push, content.eq_4]
        simp
      · simp only [if_neg opens] at ih further ⊢
        rw [ih _ further (by rintro _ ⟨⟩), push_push]
        rfl
  | case4 quote first rest ih =>
      obtain ⟨opens, present⟩ := opened quote rfl
      have further : Uncut (if first = quote then .normal else .quoted quote) rest :=
        uncut.behind [first] fun _ _ _ => rfl
      rw [List.cons_append, readText_quoted reader opens present, ih _ further, push_push, content.eq_4]
      · simp
      · intro other same
        split at same
        · cases same
        · cases same
          exact ⟨opens, by simp [Reader.push]⟩
  | case5 first rest ih =>
      have further : Uncut (if first = '\n' then .normal else .line) rest := uncut.behind [first] fun _ _ _ => rfl
      rw [List.cons_append, readText.eq_1, ih _ further, push_push, content.eq_5]
      · rfl
      · intro quote same
        split at same <;> cases same
  | case6 rest ih =>
      have further : Uncut .normal rest := uncut.behind ['*', '/'] fun _ _ _ => rfl
      rw [List.cons_append, List.cons_append, readText.eq_2, ih _ further (by rintro _ ⟨⟩), push_push, content.eq_6]
      rfl
  | case7 first rest notEnd ih =>
      have further : Uncut .block rest :=
        uncut.behind [first] fun _ _ cut => lex.eq_7 _ _ (apart_of_append cut notEnd)
      rw [List.cons_append, readText.eq_3 _ _ _ (bounds.not_across notEnd (by simp [isPlain])), ih _ further (by rintro _ ⟨⟩),
        push_push, content.eq_7 _ _ notEnd]
      rfl
  | case8 mode =>
      have same : reader.push [] (content mode []) = reader := by
        cases mode with
        | quoted quote =>
            rw [push_content reader (opened quote rfl).2 [] _ false]
            simp [Reader.push]
        | normal | line | block => simp [Reader.push]
      rw [same, List.nil_append]

end Reading

/-! ## The whole text -/

/-- A text with a semicolon that is code has a first one. -/
theorem exists_first {text : List Char} (before after : List Char) (split : text = before ++ ';' :: after)
    (code : lex .normal before = .normal) :
    ∃ piece rest, text = piece ++ ';' :: rest ∧ Uncut .normal piece ∧ lex .normal piece = .normal := by
  by_cases uncut : Uncut .normal before
  · exact ⟨before, after, split, uncut, code⟩
  · simp only [Uncut, not_forall, not_not] at uncut
    obtain ⟨sooner, between, cut, code⟩ := uncut
    have shorter : sooner.length < before.length := by simp [cut]
    exact exists_first sooner (between ++ ';' :: after) (by simp [split, cut]) code
termination_by before.length

theorem uncut_or_first (text : List Char) :
    Uncut .normal text ∨
      ∃ piece rest, text = piece ++ ';' :: rest ∧ Uncut .normal piece ∧ lex .normal piece = .normal := by
  by_cases uncut : Uncut .normal text
  · exact .inl uncut
  · simp only [Uncut, not_forall, not_not] at uncut
    obtain ⟨before, after, split, code⟩ := uncut
    exact .inr (exists_first before after split code)

theorem close_ok {reader closed : Reader} (accepted : reader.close = .ok closed) :
    reader.hasContent = true ∧ closed = ⟨[], false, reader.statements ++ [trim reader.current]⟩ := by
  rw [Reader.close] at accepted
  split at accepted
  · exact nomatch accepted
  next closes =>
    push Not at closes
    cases accepted
    exact ⟨by simpa using closes.1, rfl⟩

theorem bounds_end : Bounds [] :=
  fun _ _ => nofun

theorem bounds_semicolon (rest : List Char) : Bounds (';' :: rest) := by
  rintro c _ ⟨⟩
  simp [isPlain]

theorem readText_semicolon (reader : Reader) (rest : List Char) :
    readText .normal reader (';' :: rest) =
      match reader.close with
      | .error err => .error err
      | .ok closed => readText .normal closed rest := by
  rw [readText.eq_8 _ _ _ (by simp) (by simp)]
  rfl

/-- Every text has its pieces. -/
theorem exists_cut (text : List Char) : Nonempty (Cut text) := by
  obtain uncut | ⟨piece, rest, split, uncut, code⟩ := uncut_or_first text
  · exact ⟨⟨[], text, rfl, by simp, by simpa using uncut⟩⟩
  · have shorter : rest.length < text.length := by
      simp only [split, List.length_append, List.length_cons]
      omega
    obtain ⟨cut⟩ := exists_cut rest
    refine ⟨⟨piece :: cut.closed, cut.tail, ?_, ?_, ?_⟩⟩
    · rw [split, List.flatMap_cons, List.append_assoc, ← cut.joined, List.append_assoc]
      rfl
    · simpa [code] using cut.code
    · simpa [uncut] using cut.uncut
termination_by text.length

/-- The loop closes the pieces in their order and leaves the last one open. -/
theorem readText_pieces {closed : List (List Char)} {tail : List Char}
    (code : ∀ piece ∈ closed, lex .normal piece = .normal) (uncut : ∀ piece ∈ closed ++ [tail], Uncut .normal piece)
    (statements : List (List Char)) {mode : Mode} {last : Reader}
    (run : readText .normal ⟨[], false, statements⟩ (closed.flatMap (· ++ [';']) ++ tail) = .ok (mode, last)) :
    (∀ piece ∈ closed, content .normal piece = true) ∧ mode = lex .normal tail ∧
      last = ⟨tail, content .normal tail, statements ++ closed.map trim⟩ := by
  induction closed generalizing statements with
  | nil =>
      have whole := readText_piece ⟨[], false, statements⟩ (uncut tail (by simp)) (fun _ => nofun) bounds_end
      rw [List.append_nil, readText_nil] at whole
      cases run.symm.trans whole
      exact ⟨by simp, rfl, by simp [Reader.push]⟩
  | cons piece closed ih =>
      have first := readText_piece ⟨[], false, statements⟩ (uncut piece (by simp)) (fun _ => nofun)
        (bounds_semicolon (closed.flatMap (· ++ [';']) ++ tail))
      rw [List.flatMap_cons, List.append_assoc, List.append_assoc] at run
      rw [code piece (by simp), readText_semicolon] at first
      have next := first.symm.trans run
      split at next
      · exact nomatch next
      next after closes =>
        obtain ⟨present, rfl⟩ := close_ok closes
        obtain ⟨filled, ended, rfl⟩ :=
          ih (fun other member => code other (by simp [member])) (fun other member => uncut other (by simp_all)) _ next
        exact ⟨by simpa [Reader.push] using ⟨present, filled⟩, ended, by simp [Reader.push]⟩

/-! ## Whitespace around a statement -/

theorem isPlain_whitespace {c : Char} (white : isWhitespace c = true) : isPlain c ∧ isQuote c = false := by
  simp only [isWhitespace, Bool.or_eq_true, decide_eq_true_eq] at white
  obtain ((((rfl | rfl) | rfl) | rfl) | rfl) | rfl := white <;> simp [isPlain, isQuote]

theorem trim_parts (text : List Char) :
    ∃ front back, text = front ++ (trim text ++ back) ∧ front.all isWhitespace ∧ back.all isWhitespace := by
  refine ⟨text.takeWhile isWhitespace, (text.dropWhile isWhitespace).rtakeWhile isWhitespace, ?_, ?_, ?_⟩
  · rw [trim, List.rdropWhile_append_rtakeWhile, List.takeWhile_append_dropWhile]
  · exact List.all_takeWhile
  · exact List.all_eq_true.mpr fun c member => List.mem_rtakeWhile_imp member

theorem trim_trim (text : List Char) : trim (trim text) = trim text := by
  have start : (trim text).dropWhile isWhitespace = trim text := by
    refine List.dropWhile_eq_self_iff.mpr fun nonempty white => ?_
    have front : trim text <+: text.dropWhile isWhitespace :=
      List.rdropWhile_prefix isWhitespace _
    have longer := nonempty.trans_le front.length_le
    exact List.dropWhile_get_zero_not isWhitespace text longer (by rwa [List.get_eq_getElem, ← front.getElem nonempty])
  rw [trim, start, trim, List.rdropWhile_idempotent]

section Whitespace

variable {white : List Char} (blank : white.all isWhitespace)
include blank

theorem bounds_white : Bounds white := by
  rintro c rest rfl
  exact (isPlain_whitespace (List.all_eq_true.mp blank c (List.mem_cons_self ..))).1

theorem read_behind_white (text : List Char) :
    lex .normal (white ++ text) = lex .normal text ∧ content .normal (white ++ text) = content .normal text := by
  induction white with
  | nil => exact ⟨rfl, rfl⟩
  | cons c white ih =>
      rw [List.all_cons, Bool.and_eq_true] at blank
      obtain ⟨plain, unquoted⟩ := isPlain_whitespace blank.1
      obtain ⟨leads, holds⟩ := ih blank.2
      have notLine : ∀ tail, c = '-' → white ++ text = '-' :: tail → False := fun _ same _ => plain.1 same
      have notBlock : ∀ tail, c = '/' → white ++ text = '*' :: tail → False := fun _ same _ => plain.2.1 same
      rw [List.cons_append, lex.eq_3 _ _ notLine notBlock, content.eq_3 _ _ notLine notBlock, unquoted]
      exact ⟨leads, by simpa [blank.1] using holds⟩

/-- Whitespace leaves a comment only by the end of a line. -/
theorem lex_white {mode : Mode} (quotes : ∀ quote, mode = .quoted quote → isQuote quote = true)
    (code : lex mode white = .normal) : mode = .normal ∨ mode = .line := by
  induction white generalizing mode with
  | nil => exact .inl ((lex.eq_8 mode).symm.trans code)
  | cons c white ih =>
      rw [List.all_cons, Bool.and_eq_true] at blank
      obtain ⟨plain, unquoted⟩ := isPlain_whitespace blank.1
      cases mode with
      | normal => exact .inl rfl
      | line => exact .inr rfl
      | block =>
          rw [lex.eq_7 _ _ fun _ same _ => plain.2.2 same] at code
          simpa using ih blank.2 (by nofun) code
      | quoted quote =>
          have other : c ≠ quote := by
            rintro rfl
            simp [quotes c rfl] at unquoted
          rw [lex.eq_4, if_neg other] at code
          simpa using ih blank.2 quotes code

theorem content_white {mode : Mode} (unquoted : ∀ quote, mode = .quoted quote → False) :
    content mode white = false := by
  induction white generalizing mode with
  | nil => exact content.eq_8 mode unquoted
  | cons c white ih =>
      rw [List.all_cons, Bool.and_eq_true] at blank
      obtain ⟨plain, noQuote⟩ := isPlain_whitespace blank.1
      cases mode with
      | normal =>
          rw [content.eq_3 _ _ (fun _ same _ => plain.1 same) (fun _ same _ => plain.2.1 same), noQuote, blank.1]
          exact ih blank.2 fun _ => nofun
      | line =>
          rw [content.eq_5]
          exact ih blank.2 fun quote same => by split at same <;> exact nomatch same
      | block =>
          rw [content.eq_7 _ _ fun _ same _ => plain.2.2 same]
          exact ih blank.2 fun _ => nofun
      | quoted quote => exact (unquoted quote rfl).elim

theorem content_before_white (mode : Mode) (text : List Char) :
    content mode (text ++ white) = content mode text := by
  have bounds := bounds_white blank
  fun_induction content mode text with
  | case1 rest ih => simpa [content] using ih
  | case2 rest ih => simpa [content] using ih
  | case3 c rest notLine notBlock ih =>
      rw [List.cons_append, content.eq_3 _ _ (bounds.not_across notLine (by simp [isPlain]))
        (bounds.not_across notBlock (by simp [isPlain])), ih]
  | case4 text quote => exact content.eq_4 _ _
  | case5 c rest ih => rw [List.cons_append, content.eq_5, ih]
  | case6 rest ih => simpa [content] using ih
  | case7 c rest notEnd ih =>
      rw [List.cons_append, content.eq_7 _ _ (bounds.not_across notEnd (by simp [isPlain])), ih]
  | case8 mode unquoted => exact content_white blank unquoted

end Whitespace

theorem lex_opened {mode : Mode} (text : List Char) (opened : ∀ quote, mode = .quoted quote → isQuote quote = true)
    (quote : Char) (ends : lex mode text = .quoted quote) : isQuote quote = true := by
  fun_induction lex mode text with
  | case1 rest ih => exact ih (by rintro _ ⟨⟩) ends
  | case2 rest ih => exact ih (by rintro _ ⟨⟩) ends
  | case3 first rest _ _ ih =>
      refine ih (fun other same => ?_) ends
      split at same
      next opens => cases same; exact opens
      next => cases same
  | case4 current first rest ih =>
      refine ih (fun other same => ?_) ends
      split at same
      · cases same
      · exact opened other same
  | case5 first rest ih => exact ih (fun other same => by split at same <;> cases same) ends
  | case6 rest ih => exact ih (by rintro _ ⟨⟩) ends
  | case7 first rest _ ih => exact ih (by rintro _ ⟨⟩) ends
  | case8 mode => exact opened quote ends

/-! ## Statements -/

theorem finish_ok {mode : Mode} {reader : Reader} {statements : List (List Char)}
    (accepted : finish mode reader = .ok statements) :
    mode = .normal ∧
      statements = reader.statements ++ if reader.hasContent then [trim reader.current] else [] := by
  rw [finish] at accepted
  split at accepted
  · exact nomatch accepted
  next ended =>
    refine ⟨not_not.mp ended, ?_⟩
    split at accepted
    next present =>
      split at accepted
      · exact nomatch accepted
      · cases accepted
        rw [if_pos present]
    next absent =>
      split at accepted
      · exact nomatch accepted
      · cases accepted
        rw [if_neg absent, List.append_nil]

theorem pieces_of_accepted {text : List Char} {statements : List (List Char)} (cut : Cut text)
    (accepted : splitSqlText text = .ok statements) :
    (∀ piece ∈ cut.closed, content .normal piece = true) ∧ lex .normal cut.tail = .normal ∧
      statements = (cut.pieces.filter (content .normal)).map trim := by
  rw [splitSqlText] at accepted
  split at accepted
  · exact nomatch accepted
  split at accepted
  · exact nomatch accepted
  next mode reader run =>
    obtain ⟨filled, ended, rfl⟩ := readText_pieces cut.code cut.uncut [] (cut.joined ▸ run)
    obtain ⟨normal, rfl⟩ := finish_ok accepted
    refine ⟨filled, ended.symm.trans normal, ?_⟩
    rw [Cut.pieces, List.filter_append, List.filter_eq_self.mpr filled, List.map_append]
    cases holds : content .normal cut.tail <;> simp [holds]

/-- A statement that does not end in a line comment is a script of its own. -/
theorem splitSqlText_trim {piece : List Char} (uncut : Uncut .normal piece) (code : lex .normal piece = .normal)
    (filled : content .normal piece = true) (ended : lex .normal (trim piece) ≠ .line) :
    splitSqlText (trim piece) = .ok [trim piece] := by
  obtain ⟨front, back, parts, before, behind⟩ := trim_parts piece
  have bounds := bounds_white behind
  have filled : content .normal (trim piece) = true := by
    rw [← filled, parts, (read_behind_white before _).2, content_before_white behind, ← parts]
  have code : lex .normal (trim piece) = .normal := by
    rw [parts, (read_behind_white before _).1, bounds.lex_append] at code
    exact (lex_white behind (lex_opened _ (by nofun)) code).resolve_right ended
  have uncut : Uncut .normal (trim piece) := by
    intro sooner after cut normal
    refine uncut (front ++ sooner) (after ++ back) ?_ ((read_behind_white before sooner).1.trans normal)
    rw [List.append_assoc, ← List.cons_append, ← List.append_assoc sooner, ← cut, ← parts]
  have nonempty : trim piece ≠ [] := fun empty => by simp [empty, content] at filled
  have run := readText_piece ⟨[], false, []⟩ uncut (fun _ => nofun) bounds_end
  rw [List.append_nil, readText_nil, code, filled] at run
  rw [splitSqlText, trim_trim, if_neg nonempty, run]
  simp [finish, Reader.push, trim_trim, nonempty]

/-- The statements of a script are its pieces without the whitespace around them, and only the last piece can hold
none. -/
theorem statements_of_script (text : List Char) (statements : List (List Char))
    (accepted : splitSqlText text = .ok statements) :
    Nonempty (Cut text) ∧ ∀ cut : Cut text,
      (∀ piece ∈ cut.closed, content .normal piece = true) ∧
      statements = (cut.pieces.filter (content .normal)).map trim ∧
      ∀ statement ∈ statements, lex .normal statement ≠ .line → splitSqlText statement = .ok [statement] := by
  refine ⟨exists_cut text, fun cut => ?_⟩
  obtain ⟨filled, code, rfl⟩ := pieces_of_accepted cut accepted
  refine ⟨filled, rfl, fun statement member ended => ?_⟩
  obtain ⟨piece, found, rfl⟩ := List.mem_map.mp member
  obtain ⟨found, holds⟩ := List.mem_filter.mp found
  refine splitSqlText_trim (cut.uncut piece found) ?_ holds ended
  obtain closed | rfl := by simpa [Cut.pieces] using found
  · exact cut.code piece closed
  · exact code

def script : List Char :=
  "SELECT ';' AS a -- x;\n;\n SELECT /* ; */ 2 ; -- done\n".toList

theorem statements_of_two :
    splitSqlText script = .ok ["SELECT ';' AS a -- x;".toList, "SELECT /* ; */ 2".toList] ∧
      splitSqlText "SELECT /* ; */ 2".toList = .ok ["SELECT /* ; */ 2".toList] := by
  have accepted : splitSqlText script = .ok ["SELECT ';' AS a -- x;".toList, "SELECT /* ; */ 2".toList] := by
    decide +kernel
  obtain ⟨⟨cut⟩, found⟩ := statements_of_script script _ accepted
  exact ⟨accepted, (found cut).2.2 _ (by simp) (by decide +kernel)⟩

/-- A comment behind the last semicolon is no statement, and a statement can end in a line comment that the splitter
does not accept at the end of a script. -/
theorem comments_left :
    (∃ cut : Cut "SELECT 1; -- done\n".toList,
      cut.pieces.map trim = ["SELECT 1".toList, "-- done".toList] ∧
        splitSqlText "SELECT 1; -- done\n".toList = .ok ["SELECT 1".toList]) ∧
    splitSqlText "SELECT 1 -- c\n; SELECT 2".toList = .ok ["SELECT 1 -- c".toList, "SELECT 2".toList] ∧
    splitSqlText "SELECT 1 -- c".toList = .error ⟨0, "unterminated quote or comment in sql_text"⟩ := by
  have uncut : ∀ piece ∈ ["SELECT 1".toList] ++ [" -- done\n".toList], Uncut .normal piece := by
    simp only [List.cons_append, List.nil_append, List.forall_mem_cons]
    exact ⟨.of_no_semicolon (by decide), .of_no_semicolon (by decide), by simp⟩
  exact ⟨⟨⟨_, _, by decide, by decide, uncut⟩, rfl, by decide +kernel⟩, by decide +kernel,
    by decide +kernel⟩

end Flowsql.Sql.TextSplitter

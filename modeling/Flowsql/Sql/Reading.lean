import Mathlib

/-!
# Reading SQL text

Text of SQL is code, apart from what stands between quotes and in comments. A comment runs from two dashes to the
end of the line, or from a slash and a star to the next star and slash.
-/

namespace Flowsql.Sql

inductive Mode where
  | normal
  /-- Behind an opening quote. -/
  | quoted (quote : Char)
  | line
  | block
  deriving DecidableEq

def isQuote (c : Char) : Bool :=
  c = '\'' || c = '"' || c = '\x60'

/-- Where a text leads from a mode. A doubled quote closes and opens again. -/
def lex : Mode → List Char → Mode
  | .normal, '-' :: '-' :: rest => lex .line rest
  | .normal, '/' :: '*' :: rest => lex .block rest
  | .normal, c :: rest => lex (if isQuote c then .quoted c else .normal) rest
  | .quoted quote, c :: rest => lex (if c = quote then .normal else .quoted quote) rest
  | .line, c :: rest => lex (if c = '\n' then .normal else .line) rest
  | .block, '*' :: '/' :: rest => lex .normal rest
  | .block, _ :: rest => lex .block rest
  | mode, [] => mode

/-- No character of a two-character marker. -/
def isPlain (c : Char) : Prop :=
  c ≠ '-' ∧ c ≠ '/' ∧ c ≠ '*'

/-- A marker does not lie across the end of a text where the next character is not its second. -/
theorem not_across {first left right c : Char} {rest after : List Char}
    (apart : ∀ tail, first = left → rest = right :: tail → False) (other : c ≠ right) :
    ∀ tail, first = left → rest ++ c :: after = right :: tail → False := by
  intro tail same joined
  cases rest with
  | nil => exact other (List.cons.inj joined).1
  | cons second rest => exact apart rest same (by rw [(List.cons.inj joined).1])

/-- Text is read in two parts where no marker lies across them. -/
theorem lex_append (mode : Mode) (before : List Char) {c : Char} (plain : isPlain c) (after : List Char) :
    lex mode (before ++ c :: after) = lex (lex mode before) (c :: after) := by
  fun_induction lex mode before with
  | case1 rest ih => simpa [lex] using ih
  | case2 rest ih => simpa [lex] using ih
  | case3 first rest notLine notBlock ih =>
      rw [List.cons_append, lex.eq_3 _ _ (not_across notLine plain.1) (not_across notBlock plain.2.2), ih]
  | case4 quote first rest ih => simpa [lex] using ih
  | case5 first rest ih => simpa [lex] using ih
  | case6 rest ih => simpa [lex] using ih
  | case7 first rest notEnd ih => rw [List.cons_append, lex.eq_7 _ _ (not_across notEnd plain.2.1), ih]
  | case8 mode => rfl

end Flowsql.Sql

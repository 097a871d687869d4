import Flowsql.Sql.Reading
import Mathlib

/-!
# The check of a WHERE clause

The check takes the comments out of a clause, without regard to quotes, and looks at the first place of each
forbidden word in what is left.
-/

namespace Flowsql.Sql.WhereClause

open Sql

/-! ## The check -/

/-- What the loop skips. -/
inductive Skip where
  | nothing
  | block
  | line
  deriving DecidableEq

/-- The loops that take out comments. The last character of a comment block without an end stays. -/
def strip : Skip → List Char → List Char
  | .nothing, '/' :: '*' :: rest => ' ' :: strip .block rest
  | .nothing, '-' :: '-' :: rest => ' ' :: strip .line rest
  | .nothing, c :: rest => c :: strip .nothing rest
  | .block, '*' :: '/' :: rest => strip .nothing rest
  | .block, [c] => [c]
  | .block, _ :: rest => strip .block rest
  | .line, c :: rest => if c = '\n' then c :: strip .nothing rest else strip .line rest
  | _, [] => []

def forbiddenWords : List (List Char) :=
  ["DROP", "DELETE", "INSERT", "UPDATE", "ALTER", "CREATE", "EXEC", "EXECUTE", "TRUNCATE", "GRANT", "REVOKE"].map
    String.toList

def forbiddenSymbols : List (List Char) :=
  ["--", "/*", "*/", ";"].map String.toList

/-- `find`: the character before the first place of a keyword, and what comes behind it. -/
def find (keyword : List Char) (before : Option Char) : List Char → Option (Option Char × List Char)
  | [] => none
  | c :: rest =>
      if keyword.isPrefixOf (c :: rest) then some (before, (c :: rest).drop keyword.length)
      else find keyword (some c) rest

/-- Whether a keyword makes the clause forbidden. -/
def forbids (upper keyword : List Char) : Bool :=
  match find keyword none upper with
  | none => false
  | some (before, after) =>
      if keyword.head?.any Char.isAlpha then !before.any Char.isAlphanum && !after.head?.any Char.isAlphanum else true

def upperOf (clause : List Char) : List Char :=
  (strip .nothing clause).map Char.toUpper

/-- `ValidateWhereClause`. -/
def validate (clause : List Char) : Bool :=
  !(forbiddenWords ++ forbiddenSymbols).any (forbids (upperOf clause))

/-! ## What is forbidden -/

def isWordChar (c : Char) : Bool :=
  c.isAlphanum || c = '_'

/-- A forbidden word of its own or a separator, in the code of the clause. -/
def Forbidden (clause : List Char) : Prop :=
  ∃ before found after, clause = before ++ found ++ after ∧ lex .normal before = .normal ∧
    (found = [';'] ∨ found.map Char.toUpper ∈ forbiddenWords ∧ before.getLast?.any isWordChar = false ∧
      after.head?.any isWordChar = false)

/-- A place where the check takes a word for one of its own. -/
structure WholeAt (text word before after : List Char) : Prop where
  place : text = before ++ word ++ after
  left : before.getLast?.any Char.isAlphanum = false
  right : after.head?.any Char.isAlphanum = false

/-- The first place of a word in a text is one of its own. -/
def FirstWhole (text word : List Char) : Prop :=
  ∃ before after, WholeAt text word before after ∧
    ∀ earlier later, text = earlier ++ word ++ later → before.length ≤ earlier.length

/-- The check sees a forbidden word or a symbol in what is left of the clause. -/
def Seen (clause : List Char) : Prop :=
  (∃ word ∈ forbiddenWords, FirstWhole (upperOf clause) word) ∨ ∃ symbol ∈ forbiddenSymbols, symbol <:+: upperOf clause

/-- No marker of a comment begins between quotes. -/
def markersOutside : Mode → List Char → Bool
  | .normal, '-' :: '-' :: rest => markersOutside .line rest
  | .normal, '/' :: '*' :: rest => markersOutside .block rest
  | .normal, c :: rest => markersOutside (if isQuote c then .quoted c else .normal) rest
  | .quoted quote, c :: rest =>
      !(['-', '-'].isPrefixOf (c :: rest)) && !(['/', '*'].isPrefixOf (c :: rest)) &&
        markersOutside (if c = quote then .normal else .quoted quote) rest
  | .line, c :: rest => markersOutside (if c = '\n' then .normal else .line) rest
  | .block, '*' :: '/' :: rest => markersOutside .normal rest
  | .block, _ :: rest => markersOutside .block rest
  | _, [] => true

/-- The markers of comments are in the code, and no forbidden word of its own comes earlier in a longer word. -/
def Plain (clause : List Char) : Prop :=
  markersOutside .normal clause = true ∧
    ∀ word ∈ forbiddenWords, (∃ before after, WholeAt (upperOf clause) word before after) →
      FirstWhole (upperOf clause) word

/-! ## The first place of a keyword -/

theorem find_spec {keyword : List Char} (some_ : keyword ≠ []) (text : List Char) (before : Option Char) :
    (find keyword before text = none → ¬keyword <:+: text) ∧
    ∀ previous after, find keyword before text = some (previous, after) →
      ∃ start, text = start ++ keyword ++ after ∧ previous = (start.getLast?).or before ∧
        ∀ earlier later, text = earlier ++ keyword ++ later → start.length ≤ earlier.length := by
  induction text generalizing before with
  | nil => exact ⟨fun _ inside => some_ (List.infix_nil.mp inside), fun _ _ wrong => nomatch wrong⟩
  | cons c rest ih =>
      unfold find
      split
      · rename_i here
        refine ⟨(fun wrong => nomatch wrong), fun previous after same => ?_⟩
        cases same
        have start := List.isPrefixOf_iff_prefix.mp here
        refine ⟨[], ?_, rfl, fun _ _ _ => Nat.zero_le _⟩
        rw [List.nil_append]
        exact (List.prefix_append_drop start)
      · rename_i elsewhere
        obtain ⟨absent, present⟩ := ih (some c)
        refine ⟨fun none_ inside => ?_, fun previous after same => ?_⟩
        · rcases List.infix_cons_iff.mp inside with start | inside
          · exact elsewhere (List.isPrefixOf_iff_prefix.mpr start)
          · exact absent none_ inside
        · obtain ⟨start, text, last, first⟩ := present previous after same
          refine ⟨c :: start, by rw [text]; rfl, ?_, fun earlier later joined => ?_⟩
          · rw [last, List.getLast?_cons]
            cases start.getLast? <;> rfl
          · cases earlier with
            | nil =>
                refine absurd (List.isPrefixOf_iff_prefix.mpr ?_) elsewhere
                rw [joined]
                exact List.prefix_append _ _
            | cons first_ earlier =>
                have := first earlier later (List.cons.inj joined).2
                exact Nat.succ_le_succ this

theorem forbids_word {text word : List Char} (mem : word ∈ forbiddenWords) :
    forbids text word = true ↔ FirstWhole text word := by
  have some_ : word ≠ [] ∧ word.head?.any Char.isAlpha = true := by
    revert word
    decide
  obtain ⟨absent, present⟩ := find_spec some_.1 text none
  unfold forbids
  split
  · rename_i none_
    refine ⟨(fun wrong => nomatch wrong), fun ⟨before, after, whole, _⟩ => ?_⟩
    exact absurd ⟨before, after, whole.place.symm⟩ (absent none_)
  · rename_i previous after found
    obtain ⟨start, text_, last, first⟩ := present previous after found
    rw [if_pos some_.2]
    rw [Option.or_none] at last
    subst last
    refine ⟨fun whole => ?_, fun ⟨before, after_, ⟨text__, left, right⟩, first_⟩ => ?_⟩
    · simp only [Bool.and_eq_true, Bool.not_eq_true'] at whole
      exact ⟨start, after, ⟨text_, whole.1, whole.2⟩, first⟩
    · have same : start.length = before.length :=
        Nat.le_antisymm (first before after_ text__) (first_ start after text_)
      rw [text_, List.append_assoc, List.append_assoc] at text__
      obtain ⟨rfl, rest⟩ := List.append_inj text__ same
      rw [List.append_cancel_left rest, left, right]
      rfl

theorem forbids_symbol {text symbol : List Char} (mem : symbol ∈ forbiddenSymbols) :
    forbids text symbol = true ↔ symbol <:+: text := by
  have some_ : symbol ≠ [] ∧ symbol.head?.any Char.isAlpha = false := by
    revert symbol
    decide
  obtain ⟨absent, present⟩ := find_spec some_.1 text none
  unfold forbids
  split
  · rename_i none_
    exact ⟨(fun wrong => nomatch wrong), fun inside => absurd inside (absent none_)⟩
  · rename_i previous after found
    obtain ⟨start, text_, -⟩ := present previous after found
    rw [if_neg (by rw [some_.2]; decide)]
    exact ⟨fun _ => ⟨start, after, text_.symm⟩, fun _ => rfl⟩

theorem validate_eq_false {clause : List Char} : validate clause = false ↔ Seen clause := by
  rw [validate, Bool.not_eq_false', List.any_eq_true, Seen]
  constructor
  · rintro ⟨keyword, mem, forbidden⟩
    rcases List.mem_append.mp mem with word | symbol
    · exact .inl ⟨keyword, word, (forbids_word word).mp forbidden⟩
    · exact .inr ⟨keyword, symbol, (forbids_symbol symbol).mp forbidden⟩
  · rintro (⟨word, mem, first⟩ | ⟨symbol, mem, inside⟩)
    · exact ⟨word, List.mem_append_left _ mem, (forbids_word mem).mpr first⟩
    · exact ⟨symbol, List.mem_append_right _ mem, (forbids_symbol mem).mpr inside⟩

/-! ## What the check leaves of a clause -/

/-- The loop that goes through the text of a mode. Quotes mean nothing to it. -/
def skipOf : Mode → Skip
  | .normal => .nothing
  | .quoted _ => .nothing
  | .line => .line
  | .block => .block

attribute [local simp] lex strip skipOf markersOutside

theorem strip_cons {c : Char} {rest : List Char} (line : ¬['-', '-'] <+: c :: rest) (block : ¬['/', '*'] <+: c :: rest) :
    strip .nothing (c :: rest) = c :: strip .nothing rest := by
  refine strip.eq_3 c rest (fun tail first second => ?_) fun tail first second => ?_
  · subst first second
    exact block ⟨tail, rfl⟩
  · subst first second
    exact line ⟨tail, rfl⟩

theorem strip_plain {c : Char} (plain : isPlain c) (rest : List Char) :
    strip .nothing (c :: rest) = c :: strip .nothing rest :=
  strip.eq_3 c rest (fun _ same => absurd same plain.2.1) fun _ same => absurd same plain.1

/-- What is left of a text whose markers are outside of quotes, up to a place in its code. -/
theorem strip_append {mode : Mode} {before : List Char} (ends : lex mode before = .normal) {c : Char}
    (plain : isPlain c) (after : List Char) (outside : markersOutside mode (before ++ c :: after) = true) :
    strip (skipOf mode) (before ++ c :: after) = strip (skipOf mode) before ++ strip .nothing (c :: after) := by
  fun_induction lex mode before with
  | case1 rest ih => simpa using ih ends (by simpa using outside)
  | case2 rest ih => simpa using ih ends (by simpa using outside)
  | case3 first rest notLine notBlock ih =>
      have across : ∀ tail, first = '-' → rest ++ c :: after = '-' :: tail → False := not_across notLine plain.1
      have across_ : ∀ tail, first = '/' → rest ++ c :: after = '*' :: tail → False := not_across notBlock plain.2.2
      rw [List.cons_append, markersOutside.eq_3 _ _ across across_] at outside
      have later := ih ends outside
      have skips : skipOf (if isQuote first = true then .quoted first else .normal) = .nothing := by
        split <;> rfl
      rw [skips] at later
      rw [skipOf, List.cons_append, strip.eq_3 _ _ across_ across, strip.eq_3 _ _ notBlock notLine, later]
      rfl
  | case4 quote first rest ih =>
      rw [List.cons_append, markersOutside, Bool.and_eq_true, Bool.and_eq_true] at outside
      obtain ⟨⟨line, block⟩, outside⟩ := outside
      have later := ih ends outside
      have skips : skipOf (if first = quote then .normal else .quoted quote) = .nothing := by
        split <;> rfl
      rw [skips] at later
      have line_ : ¬['-', '-'] <+: first :: (rest ++ c :: after) := fun wrong => by
        rw [List.isPrefixOf_iff_prefix.mpr wrong] at line
        cases line
      have block_ : ¬['/', '*'] <+: first :: (rest ++ c :: after) := fun wrong => by
        rw [List.isPrefixOf_iff_prefix.mpr wrong] at block
        cases block
      rw [skipOf, List.cons_append, strip_cons line_ block_, later, @strip_cons first rest]
      · rfl
      · exact fun wrong => line_ (wrong.trans ⟨c :: after, rfl⟩)
      · exact fun wrong => block_ (wrong.trans ⟨c :: after, rfl⟩)
  | case5 first rest ih =>
      have later := ih ends (by simpa using outside)
      rw [skipOf, List.cons_append, strip.eq_7, strip.eq_7]
      by_cases newline : first = '\n'
      · rw [if_pos newline] at later
        rw [if_pos newline, if_pos newline]
        exact congrArg (first :: ·) later
      · rw [if_neg newline] at later
        rw [if_neg newline, if_neg newline]
        exact later
  | case6 rest ih => simpa using ih ends (by simpa using outside)
  | case7 first rest notEnd ih =>
      have across : ∀ tail, first = '*' → rest ++ c :: after = '/' :: tail → False := not_across notEnd plain.2.1
      rw [List.cons_append, markersOutside.eq_7 _ _ across] at outside
      have later := ih ends outside
      have some_ : rest ≠ [] := by
        rintro rfl
        rw [lex] at ends
        cases ends
      rw [skipOf, List.cons_append, strip.eq_6 _ _ across (by simp), strip.eq_6 _ _ notEnd some_]
      exact later
  | case8 mode =>
      subst ends
      rfl

theorem strip_cases (c : Char) (rest : List Char) :
    strip .nothing (c :: rest) = c :: strip .nothing rest ∨ ∃ left, strip .nothing (c :: rest) = ' ' :: left := by
  by_cases line : ['-', '-'] <+: c :: rest
  · obtain ⟨tail, same⟩ := line
    exact .inr ⟨_, by rw [← same]; rfl⟩
  by_cases block : ['/', '*'] <+: c :: rest
  · obtain ⟨tail, same⟩ := block
    exact .inr ⟨_, by rw [← same]; rfl⟩
  · exact .inl (strip_cons line block)

theorem strip_eq_nil {text : List Char} (none_ : strip .nothing text = []) : text = [] := by
  cases text with
  | nil => rfl
  | cons c rest => rcases strip_cases c rest with same | ⟨left, same⟩ <;> cases same.symm.trans none_

/-- What is left of a text ends like the text, or with a blank. -/
theorem getLast?_strip (skip : Skip) (text : List Char) {last : Char} (ends : (strip skip text).getLast? = some last) :
    last = ' ' ∨ text.getLast? = some last := by
  have longer {first : Char} {rest : List Char} (found : last = ' ' ∨ rest.getLast? = some last) :
      last = ' ' ∨ (first :: rest).getLast? = some last :=
    found.imp_right fun found => by rw [List.getLast?_cons, found]; rfl
  -- A character stays in front of what is left of the rest.
  have stays {first : Char} {rest left : List Char} (ends : (first :: left).getLast? = some last)
      (ih : left.getLast? = some last → last = ' ' ∨ rest.getLast? = some last) :
      (first = last ∧ left = []) ∨ last = ' ' ∨ rest.getLast? = some last := by
    rw [List.getLast?_cons] at ends
    cases found : left.getLast? with
    | none =>
        rw [found] at ends
        exact .inl ⟨Option.some.inj ends, List.getLast?_eq_none_iff.mp found⟩
    | some value =>
        rw [found] at ends
        exact .inr (ih (found.trans ends))
  fun_induction strip skip text with
  | case1 rest ih =>
      rcases stays ends ih with ⟨same, -⟩ | later
      · exact .inl same.symm
      · exact longer (longer later)
  | case2 rest ih =>
      rcases stays ends ih with ⟨same, -⟩ | later
      · exact .inl same.symm
      · exact longer (longer later)
  | case3 first rest _ _ ih =>
      rcases stays ends ih with ⟨rfl, none_⟩ | later
      · rw [strip_eq_nil none_]
        exact .inr rfl
      · exact longer later
  | case4 rest ih => exact longer (longer (ih ends))
  | case5 first => exact .inr ends
  | case6 first rest _ _ ih => exact longer (ih ends)
  | case7 rest ih =>
      rcases stays ends ih with ⟨rfl, none_⟩ | later
      · rw [strip_eq_nil none_]
        exact .inr rfl
      · exact longer later
  | case8 first rest _ ih => exact longer (ih ends)
  | case9 skip => cases ends

theorem head?_strip (text : List Char) {first : Char} (begins : (strip .nothing text).head? = some first) :
    first = ' ' ∨ text.head? = some first := by
  cases text with
  | nil => cases begins
  | cons c rest =>
      rcases strip_cases c rest with same | ⟨left, same⟩ <;> rw [same] at begins
      · exact .inr begins
      · exact .inl (Option.some.inj begins).symm

theorem toUpper_of_not_alphanum {c : Char} (other : isWordChar c = false) : c.toUpper.isAlphanum = false := by
  have alphanum : c.isAlphanum = false := by
    simp only [isWordChar, Bool.or_eq_false_iff] at other
    exact other.1
  have lower : ¬(c.val ≥ 97 ∧ c.val ≤ 122) := by
    intro lower
    simp [Char.isAlphanum, Char.isAlpha, Char.isLower, lower] at alphanum
  have same : c.toUpper = c := by
    unfold Char.toUpper
    simp [lower]
  rw [same]
  exact alphanum

/-- A character next to a word of its own bounds it in what is left, too. -/
theorem any_alphanum {found left : Option Char} (other : found.any isWordChar = false)
    (same : ∀ c, left = some c → c = ' ' ∨ found = some c) : (left.map Char.toUpper).any Char.isAlphanum = false := by
  cases left with
  | none => rfl
  | some c =>
      rcases same c rfl with rfl | same
      · decide
      · rw [same] at other
        exact toUpper_of_not_alphanum other

theorem strip_found {found : List Char} (plain : ∀ c ∈ found, isPlain c) (after : List Char) :
    strip .nothing (found ++ after) = found ++ strip .nothing after := by
  induction found with
  | nil => rfl
  | cons c found ih =>
      rw [List.cons_append, strip_plain (plain c List.mem_cons_self),
        ih fun c mem => plain c (List.mem_cons_of_mem _ mem), List.cons_append]

theorem plain_of_word {found : List Char} (word : found.map Char.toUpper ∈ forbiddenWords) :
    found ≠ [] ∧ ∀ c ∈ found, isPlain c := by
  have letters : (forbiddenWords.all fun word =>
      !word.isEmpty && word.all fun c => c != '-' && c != '/' && c != '*') = true := by decide +kernel
  have read := List.all_eq_true.mp letters _ word
  simp only [Bool.and_eq_true, Bool.not_eq_true', List.isEmpty_eq_false_iff, List.all_eq_true, bne_iff_ne] at read
  obtain ⟨some_, plain⟩ := read
  refine ⟨fun none_ => some_ (by rw [none_]; rfl), fun c mem => ?_⟩
  have upper := plain _ (List.mem_map_of_mem mem)
  refine ⟨?_, ?_, ?_⟩ <;> rintro rfl
  · exact upper.1.1 rfl
  · exact upper.1.2 rfl
  · exact upper.2 rfl

/-- Where the markers are outside of quotes, whatever is forbidden is left. -/
theorem forbidden_left {clause : List Char} (forbidden : Forbidden clause)
    (outside : markersOutside .normal clause = true) :
    [';'] <:+: upperOf clause ∨
      ∃ word ∈ forbiddenWords, ∃ before after, WholeAt (upperOf clause) word before after := by
  obtain ⟨before, found, after, rfl, ends, kind⟩ := forbidden
  have plain : found ≠ [] ∧ ∀ c ∈ found, isPlain c := by
    rcases kind with rfl | ⟨word, -⟩
    · exact ⟨by simp, fun c mem => by simp [isPlain, List.mem_singleton.mp mem]⟩
    · exact plain_of_word word
  obtain ⟨c, rest, rfl⟩ := List.exists_cons_of_ne_nil plain.1
  have left : upperOf (before ++ c :: rest ++ after) =
      (strip .nothing before).map Char.toUpper ++ (c :: rest).map Char.toUpper ++
        (strip .nothing after).map Char.toUpper := by
    rw [List.append_assoc, List.cons_append] at outside ⊢
    have stripped := strip_append ends (plain.2 c List.mem_cons_self) (rest ++ after) outside
    rw [skipOf] at stripped
    rw [upperOf, stripped, ← List.cons_append, strip_found plain.2, List.map_append, List.map_append, List.append_assoc]
  rw [left]
  rcases kind with same | ⟨word, start, stop⟩
  · rw [same]
    exact .inl ⟨_, _, rfl⟩
  · refine .inr ⟨_, word, _, _, rfl, ?_, ?_⟩
    · rw [List.getLast?_map]
      exact any_alphanum start fun c => getLast?_strip .nothing before
    · rw [List.head?_map]
      exact any_alphanum stop fun c => head?_strip after

end Flowsql.Sql.WhereClause

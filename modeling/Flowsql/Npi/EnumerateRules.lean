import Flowsql.Npi.EnumerateMatch

/-!
# How rules are recognized

Rules that the recognizer of a set of ports can store keep their meaning: they have one offset and one length,
`*` comes first, and the values fit. The recognizer answers every packet with the meaning of its rules, and
remembers nothing of the packets.
-/

namespace Flowsql.Npi

/-! ## Texts -/

theorem isDigit_of_mem {number : Nat} {char : Char} (mem : char ∈ Nat.toDigits 10 number) :
    char.isDigit = true :=
  Nat.isDigit_of_mem_toDigits (by decide) (by decide) mem

theorem foldl_digits {chars : List Char} (digits : ∀ char ∈ chars, char.isDigit = true) (start : Nat) :
    chars.foldl (fun value digit => value * 10 + ((digit.toNat : Int) - '0'.toNat)) (start : Int) =
      (Nat.ofDigitChars 10 chars start : Nat) := by
  induction chars generalizing start with
  | nil => simp
  | cons char chars ih =>
      have low : '0'.toNat ≤ char.toNat := by
        have digit := digits char (.head _)
        simp only [Char.isDigit, Bool.and_eq_true, decide_eq_true_eq] at digit
        exact digit.1
      have step : (start : Int) * 10 + ((char.toNat : Int) - '0'.toNat) =
          ((10 * start + (char.toNat - '0'.toNat) : Nat) : Int) := by omega
      rw [List.foldl_cons, step, ih fun other mem => digits other (.tail _ mem), Nat.ofDigitChars_cons]

theorem parseNumber_digits {low high : Int} {number : Nat} (negative : low ≤ 0) (fits : (number : Int) ≤ high) :
    parseNumber low high (Nat.toDigits 10 number) = some (number : Int) := by
  rcases digits : Nat.toDigits 10 number with _ | ⟨char, chars⟩
  · exact absurd digits Nat.toDigits_ne_nil
  · have all : ∀ other ∈ char :: chars, other.isDigit = true := fun other mem =>
      isDigit_of_mem (digits ▸ mem)
    have value := foldl_digits all 0
    rw [← digits, Nat.ofDigitChars_ten_toDigits, digits] at value
    have digit := all char (.head _)
    have solid : char.isWhitespace = false := by
      by_contra blank
      simp only [Char.isWhitespace, Bool.not_eq_false, Bool.or_eq_true, decide_eq_true_eq] at blank
      rcases blank with ((rfl | rfl) | rfl) | rfl <;> cases digit
    have plain : char ≠ '-' ∧ char ≠ '+' := by
      constructor <;> rintro rfl <;> cases digit
    unfold parseNumber
    simp only [List.dropWhile_cons, solid, Bool.false_eq_true, if_false]
    have taken : (char :: chars).takeWhile Char.isDigit = char :: chars := by
      have kept := @List.takeWhile_append_of_pos _ Char.isDigit (char :: chars) [] all
      rwa [List.append_nil, List.takeWhile_nil, List.append_nil] at kept
    split
    · rename_i wrong
      exact absurd (List.cons.inj wrong).1 plain.1
    · rename_i wrong
      exact absurd (List.cons.inj wrong).1 plain.2
    · rw [taken]
      simp only [Nat.cast_zero] at value
      rw [value, List.head?_cons, if_neg fun wrong => plain.1 (Option.some.inj wrong), if_neg]
      rintro (none_ | small | large)
      · cases none_
      · omega
      · omega

theorem takeWhile_colon {chars rest : List Char} (free : ∀ char ∈ chars, char ≠ ':') :
    (chars ++ ':' :: rest).takeWhile (· ≠ ':') = chars := by
  rw [List.takeWhile_append_of_pos fun char mem => decide_eq_true (free char mem)]
  simp

theorem colon_not_digit {number : Nat} : ∀ char ∈ Nat.toDigits 10 number, char ≠ ':' := by
  rintro char mem rfl
  exact absurd (isDigit_of_mem mem) (by decide)

namespace Rule

variable {rule : Rule}

theorem valueText_colon : ∀ char ∈ rule.valueText, char ≠ ':' := by
  unfold valueText
  split
  · exact colon_not_digit
  · simp

/-- The numbers of the text fit into the types that they are parsed as. -/
structure Parses (rule : Rule) : Prop where
  value : ∀ value ∈ rule.value, value < 2 ^ 63
  offset : rule.offset < 2 ^ 31
  length : rule.length < 2 ^ 31

def parsed (rule : Rule) : EnumerateRule :=
  ⟨match rule.value with
    | some value => UInt64.ofInt value
    | none => -1, rule.offset, rule.length⟩

theorem split_text (parses : rule.Parses) : split2enumerateparameter rule.text = some rule.parsed := by
  have number : rule.text.toList.takeWhile (· ≠ ':') = rule.valueText := by
    rw [text, String.toList_ofList, takeWhile_colon valueText_colon]
  have behind : (rule.text.toList.drop rule.valueText.length).drop 1 =
      Nat.toDigits 10 rule.offset ++ ':' :: Nat.toDigits 10 rule.length := by
    rw [text, String.toList_ofList, List.drop_left]
    rfl
  have last : (Nat.toDigits 10 rule.offset ++ ':' :: Nat.toDigits 10 rule.length).drop
      ((Nat.toDigits 10 rule.offset).length + 1) = Nat.toDigits 10 rule.length := by
    rw [← List.drop_drop, List.drop_left]
    rfl
  have offset : parseNumber (-2 ^ 31) (2 ^ 31 - 1) (Nat.toDigits 10 rule.offset) = some (rule.offset : Int) :=
    parseNumber_digits (by decide) (by have := parses.offset; omega)
  have length : parseNumber (-2 ^ 31) (2 ^ 31 - 1) (Nat.toDigits 10 rule.length) = some (rule.length : Int) :=
    parseNumber_digits (by decide) (by have := parses.length; omega)
  have some_ : rule.valueText ≠ [] := by
    unfold valueText
    split
    · exact Nat.toDigits_ne_nil
    · exact List.cons_ne_nil _ _
  unfold split2enumerateparameter
  dsimp only
  rw [number, behind, takeWhile_colon colon_not_digit, last, offset, length, if_neg]
  · rcases known : rule.value with _ | value
    · simp [valueText, parsed, known]
    · have digits : rule.valueText = Nat.toDigits 10 value := by simp [valueText, known]
      have plain : ¬Nat.toDigits 10 value = ['*'] := by
        intro wrong
        have star : '*' ∈ Nat.toDigits 10 value := wrong ▸ List.mem_singleton_self _
        exact absurd (isDigit_of_mem star) (by decide)
      have parse : parseNumber (-2 ^ 63) (2 ^ 63 - 1) (Nat.toDigits 10 value) = some (value : Int) :=
        parseNumber_digits (by decide) (by have := parses.value value known; omega)
      simp only [digits, Option.bind_eq_bind, Option.bind_some, if_neg plain, parse, parsed, known]
      rfl
  · rintro (wrong | wrong | wrong)
    · exact some_ wrong
    · exact Nat.toDigits_ne_nil wrong
    · rw [List.length_append, List.length_cons] at wrong
      omega

end Rule

/-! ## One recognizer -/

/-- A number that fits into its integer is its own key. -/
theorem key_of_fits {integer number : Nat} (sizes : integer = 1 ∨ integer = 2 ∨ integer = 4 ∨ integer = 8)
    (fits : number < 256 ^ integer) (wide : integer = 8 → number < 2 ^ 31) :
    ((UInt64.ofInt number).toInt64.toInt32.toInt % 256 ^ integer).toNat = number := by
  have unsigned : UInt64.ofInt number = UInt64.ofNat number := by
    unfold UInt64.ofInt
    refine congrArg UInt64.ofNat ?_
    have small : number < 2 ^ 64 := by rcases sizes with rfl | rfl | rfl | rfl <;> omega
    omega
  have signed : (UInt64.ofNat number).toInt64 = Int64.ofNat number := by simp
  have key : (UInt64.ofInt number).toInt64.toInt32.toInt = (number : Int).bmod (2 ^ 32) := by
    rw [unsigned, signed, Int64.toInt32_ofNat']
    simp
  rw [key, Int.bmod_def]
  rcases sizes with rfl | rfl | rfl | rfl
  · split <;> omega
  · split <;> omega
  · split <;> omega
  · have := wide rfl
    split <;> omega

/-- Rules that one recognizer can store behind the first. -/
structure Storable (first : Rule × Int) (rest : List (Rule × Int)) : Prop where
  sizes : first.1.length = 1 ∨ first.1.length = 2 ∨ first.1.length = 4 ∨ first.1.length = 8
  offset : first.1.offset < 2 ^ 31
  same : ∀ entry ∈ rest, entry.1.offset = first.1.offset ∧ entry.1.length = first.1.length ∧ entry.1.value ≠ none
  values : ∀ entry ∈ first :: rest, ∀ value ∈ entry.1.value,
    value < 256 ^ first.1.length ∧ (first.1.length = 8 → value < 2 ^ 31) ∧ entry.2 ≠ 0

/-- The protocol of the last rule with a value. -/
def stored (rules : List (Rule × Int)) (number : Nat) : Option Int :=
  (rules.reverse.find? fun entry => entry.1.value = some number).map (·.2)

theorem stored_concat (rules : List (Rule × Int)) (entry : Rule × Int) (number : Nat) :
    stored (rules ++ [entry]) number = if entry.1.value = some number then some entry.2 else stored rules number := by
  unfold stored
  rw [List.reverse_append, List.reverse_singleton, List.singleton_append, List.find?_cons]
  split
  · rename_i found
    rw [if_pos (of_decide_eq_true found)]
    rfl
  · rename_i missed
    rw [if_neg (of_decide_eq_false missed)]

/-- The recognizer stores the rules, of which this is the first. -/
structure Stores (recognizer : EnumerateRecognizer) (first : Rule × Int) (rules : List (Rule × Int)) : Prop where
  position : recognizer.position = first.1.offset
  integer : recognizer.integer = first.1.length
  bytewidth : recognizer.bytewidth = first.1.length
  default_ : recognizer.default_ = if first.1.value = none then first.2 else 0
  entries : ∀ number, recognizer.entry number = (stored rules number).getD 0

variable {first entry : Rule × Int} {rest rules : List (Rule × Int)} {recognizer : EnumerateRecognizer}

theorem Storable.parses (storable : Storable first rest) (mem : entry ∈ first :: rest) : entry.1.Parses := by
  have sized : entry.1.length = first.1.length ∧ entry.1.offset = first.1.offset := by
    rcases List.mem_cons.mp mem with rfl | mem
    · exact ⟨rfl, rfl⟩
    · exact ⟨(storable.same entry mem).2.1, (storable.same entry mem).1⟩
  have sizes := storable.sizes
  refine ⟨fun value found => ?_, ?_, ?_⟩
  · obtain ⟨small, wide, -⟩ := storable.values entry mem value found
    rcases sizes with size | size | size | size <;> rw [size] at small
    · omega
    · omega
    · omega
    · have := wide size
      omega
  · rw [sized.2]
    exact storable.offset
  · omega

theorem entry_set (number : UInt64) (proid : Int) (key : Nat) :
    (recognizer.set number proid).entry key =
      if (number.toInt64.toInt32.toInt % 256 ^ recognizer.integer).toNat = key then proid
      else recognizer.entry key := by
  unfold EnumerateRecognizer.set EnumerateRecognizer.entry
  dsimp only
  rw [List.lookup_cons]
  by_cases same : (number.toInt64.toInt32.toInt % 256 ^ recognizer.integer).toNat = key
  · rw [if_pos same, same, beq_self_eq_true]
    rfl
  · rw [if_neg same, beq_eq_false_iff_ne.mpr (Ne.symm same)]

/-- The number of a value is not the one of `*`. -/
theorem number_ne {value : Nat} (small : value < 2 ^ 63) : UInt64.ofInt value ≠ -1 := by
  intro wrong
  have numbers := congrArg UInt64.toNat wrong
  unfold UInt64.ofInt at numbers
  have all : (-1 : UInt64).toNat = 2 ^ 64 - 1 := by decide
  rw [all, UInt64.toNat_ofNat'] at numbers
  omega

theorem create_stores (storable : Storable first rest) :
    ∃ recognizer, create first.1.parsed first.2 = some recognizer ∧ Stores recognizer first [first] := by
  have parses := storable.parses (.head _)
  have integer : (if first.1.parsed.length = 1 then some 1
      else if first.1.parsed.length = 2 then some 2
      else if first.1.parsed.length = 3 ∨ first.1.parsed.length = 4 then some 4
      else if 5 ≤ first.1.parsed.length ∧ first.1.parsed.length ≤ 8 then some 8
      else none : Option Nat) = some first.1.length := by
    unfold Rule.parsed
    rcases storable.sizes with size | size | size | size <;> rw [size] <;> rfl
  unfold create
  dsimp only
  rw [integer]
  refine ⟨_, rfl, ?_⟩
  dsimp only
  rcases known : first.1.value with _ | value
  · have star : first.1.parsed.number = -1 := by simp [Rule.parsed, known]
    rw [if_pos star]
    refine ⟨rfl, rfl, rfl, by simp [known], fun number => ?_⟩
    simp [stored, known, EnumerateRecognizer.entry]
  · have number : first.1.parsed.number = UInt64.ofInt value := by simp [Rule.parsed, known]
    obtain ⟨small, wide, -⟩ := storable.values first (.head _) value known
    rw [if_neg (number ▸ number_ne (parses.value value known))]
    refine ⟨rfl, rfl, rfl, by simp [known, EnumerateRecognizer.set], fun key => ?_⟩
    have nothing : stored [first] key = if first.1.value = some key then some first.2 else none :=
      stored_concat [] first key
    rw [entry_set, number, nothing, known]
    dsimp only
    rw [key_of_fits storable.sizes small wide]
    by_cases same : value = key <;> simp [same, EnumerateRecognizer.entry]

/-- A rule that is committed once more changes nothing. -/
theorem update_stores (storable : Storable first rest) (mem : entry ∈ rest)
    (stores : Stores recognizer first rules ∨ Stores recognizer first (rules ++ [entry])) :
    Stores (update entry.1.parsed entry.2 recognizer) first (rules ++ [entry]) := by
  obtain ⟨offset, length, some_⟩ := storable.same entry mem
  obtain ⟨value, known⟩ := Option.ne_none_iff_exists'.mp some_
  obtain ⟨small, wide, -⟩ := storable.values entry (.tail _ mem) value known
  have parses := storable.parses (.tail _ mem)
  have number : entry.1.parsed.number = UInt64.ofInt value := by simp [Rule.parsed, known]
  have fields : recognizer.position = first.1.offset ∧ recognizer.integer = first.1.length ∧
      recognizer.bytewidth = first.1.length ∧
      recognizer.default_ = if first.1.value = none then first.2 else 0 := by
    rcases stores with stores | stores <;>
      exact ⟨stores.position, stores.integer, stores.bytewidth, stores.default_⟩
  obtain ⟨position, integer, bytewidth, default_⟩ := fields
  have others (key : Nat) (other : value ≠ key) : recognizer.entry key = (stored rules key).getD 0 := by
    rcases stores with stores | stores
    · exact stores.entries key
    · rw [stores.entries, stored_concat, known, if_neg fun same => other (Option.some.inj same)]
  unfold update
  rw [if_pos ⟨number ▸ number_ne (parses.value value known),
    position.trans (by simp [Rule.parsed, offset]), bytewidth.trans (by simp [Rule.parsed, length])⟩]
  refine ⟨position, integer, bytewidth, default_, fun key => ?_⟩
  rw [entry_set, number, integer, key_of_fits storable.sizes small wide, stored_concat, known]
  by_cases same : value = key
  · simp [same]
  · rw [if_neg same, if_neg fun wrong => same (Option.some.inj wrong), others key same]

/-! ## Packets -/

theorem integerOf_lt (bytes : List UInt8) : integerOf bytes < 256 ^ bytes.length := by
  have bounded : ∀ number ∈ bytes.map UInt8.toNat, number < 256 := by
    intro number mem
    obtain ⟨byte, -, rfl⟩ := List.mem_map.mp mem
    exact byte.toNat_lt
  have less := Nat.ofDigits_lt_base_pow_length (by decide : 1 < 256) bounded
  rwa [List.length_map] at less

/-- Identifying a packet keeps what is stored. -/
theorem touch_stores (stores : Stores recognizer first rules) (number : Nat) :
    Stores (recognizer.touch number) first rules := by
  unfold EnumerateRecognizer.touch
  split
  · rename_i fresh
    refine ⟨stores.position, stores.integer, stores.bytewidth, stores.default_, fun other => ?_⟩
    rw [← stores.entries other]
    unfold EnumerateRecognizer.entry
    dsimp only
    rw [List.lookup_cons]
    by_cases same : other = number
    · rw [same, beq_self_eq_true, fresh.2]
      rfl
    · rw [beq_eq_false_iff_ne.mpr same]
  · exact stores

theorem find?_congr {α : Type} {left right : α → Bool} {values : List α}
    (same : ∀ value ∈ values, left value = right value) : values.find? left = values.find? right := by
  induction values with
  | nil => rfl
  | cons value values ih =>
      rw [List.find?_cons, List.find?_cons, same value (.head _), ih fun other mem => same other (.tail _ mem)]

theorem meaning_of_storable (storable : Storable first rest) (payload : List UInt8) :
    meaning (first :: rest) payload =
      if first.1.offset + first.1.length ≤ payload.length then
        match stored (first :: rest) (first.1.integer payload) with
        | some proid => proid
        | none => if first.1.value = none then first.2 else 0
      else 0 := by
  have sized : ∀ entry ∈ first :: rest, entry.1.offset = first.1.offset ∧ entry.1.length = first.1.length := by
    rw [List.forall_mem_cons]
    exact ⟨⟨rfl, rfl⟩, fun entry mem => ⟨(storable.same entry mem).1, (storable.same entry mem).2.1⟩⟩
  have read : ∀ entry ∈ first :: rest, entry.1.integer payload = first.1.integer payload := by
    intro entry mem
    unfold Rule.integer
    rw [(sized entry mem).1, (sized entry mem).2]
  by_cases long : first.1.offset + first.1.length ≤ payload.length
  · have valued : lastOf (·.value.isSome) payload (first :: rest) =
        stored (first :: rest) (first.1.integer payload) := by
      refine congrArg _ (find?_congr fun entry mem => ?_)
      have inside := List.mem_reverse.mp mem
      have applies : entry.1.Applies payload ↔ ∀ value ∈ entry.1.value, first.1.integer payload = value := by
        unfold Rule.Applies
        rw [(sized entry inside).1, (sized entry inside).2, read entry inside]
        exact and_iff_right long
      simp only [applies]
      cases entry.1.value <;> simp [eq_comm]
    have starred : lastOf (·.value.isNone) payload (first :: rest) =
        if first.1.value = none then some first.2 else none := by
      have behind : lastOf (·.value.isNone) payload rest = none := by
        unfold lastOf
        rw [Option.map_eq_none_iff, List.find?_eq_none]
        intro entry mem
        have some_ := (storable.same entry (List.mem_reverse.mp mem)).2.2
        simp [some_]
      have applies : first.1.value = none → first.1.Applies payload := by
        intro none_
        exact ⟨long, by simp [none_]⟩
      unfold lastOf at behind ⊢
      rw [Option.map_eq_none_iff] at behind
      rw [List.reverse_cons, List.find?_append, behind, Option.none_or, List.find?_singleton]
      by_cases none_ : first.1.value = none
      · simp [none_, applies none_]
      · simp [none_]
    rw [if_pos long]
    unfold meaning
    rw [valued, starred]
    cases stored (first :: rest) (first.1.integer payload) <;> split <;> rfl
  · rw [if_neg long]
    have none_ (kind : Rule → Bool) : lastOf kind payload (first :: rest) = none := by
      unfold lastOf
      rw [Option.map_eq_none_iff, List.find?_eq_none]
      intro entry mem
      have sizes := sized entry (List.mem_reverse.mp mem)
      simp [Rule.Applies, sizes.1, sizes.2, not_le.mp long]
    unfold meaning
    rw [none_, none_]
    rfl

/-- A packet is answered with the meaning of the rules, from its payload. -/
theorem identify_stores (storable : Storable first rest) (stores : Stores recognizer first (first :: rest))
    (packet : Packet) :
    ∃ answer next, recognizer.identify packet = some (answer, next) ∧ Stores next first (first :: rest) ∧
      (packet.data.length < 65536 → answer = meaning (first :: rest) packet.data) := by
  have length : packet.bytes.length - packet.payload = packet.data.length := (List.length_drop ..).symm
  have sum : (recognizer.position + recognizer.integer) % 2 ^ 64 =
      ((first.1.offset + first.1.length : Nat) : Int) := by
    have := storable.offset
    have := storable.sizes
    rw [stores.position, stores.integer]
    omega
  unfold EnumerateRecognizer.identify
  dsimp only
  rw [length, sum]
  by_cases fits : ((first.1.offset + first.1.length : Nat) : Int) ≤ (packet.data.length % 65536 : Nat)
  · have long : first.1.offset + first.1.length ≤ packet.data.length := by omega
    have read : readInteger packet.data recognizer.position recognizer.integer =
        some (first.1.integer packet.data) := by
      unfold readInteger
      rw [stores.position, stores.integer, Int.toNat_natCast, if_pos ⟨Int.natCast_nonneg _, long⟩]
      rfl
    have small : first.1.integer packet.data < 256 ^ first.1.length := by
      have less := integerOf_lt ((packet.data.drop first.1.offset).take first.1.length)
      rwa [List.length_take, List.length_drop, Nat.min_eq_left (by omega)] at less
    have number : first.1.integer packet.data * 2 ^ ((recognizer.integer : Int) - recognizer.bytewidth).toNat %
        256 ^ recognizer.integer / 2 ^ ((recognizer.integer : Int) - recognizer.bytewidth).toNat =
          first.1.integer packet.data := by
      rw [stores.integer, stores.bytewidth, Int.sub_self, Int.toNat_zero, Nat.pow_zero, Nat.mul_one,
        Nat.div_one, Nat.mod_eq_of_lt small]
    rw [if_pos fits, read, Option.map_some, number]
    refine ⟨_, _, rfl, touch_stores stores _, fun _ => ?_⟩
    rw [meaning_of_storable storable, if_pos long, stores.entries, stores.default_]
    rcases found : stored (first :: rest) (first.1.integer packet.data) with _ | proid
    · rfl
    · obtain ⟨entry, here, rfl⟩ := Option.map_eq_some_iff.mp found
      have inside := List.mem_reverse.mp (List.mem_of_find?_eq_some here)
      have value : entry.1.value = some (first.1.integer packet.data) := by simpa using List.find?_some here
      exact if_pos (storable.values entry inside _ value).2.2
  · rw [if_neg fits]
    refine ⟨0, recognizer, rfl, stores, fun short => ?_⟩
    rw [meaning_of_storable storable, if_neg]
    omega

/-! ## The engine -/

variable {builder : Builder} {engine : Engine} {number : Int} {rule : EnumerateRule} {index : Nat}

/-- The entries of the builder point to one recognizer. -/
structure Serves (engine : Engine) (builder : Builder) (index : Nat) (keeps : EnumerateRecognizer → Prop) :
    Prop where
  entries : ∀ target ∈ builder.targets, engine.entry target = some (.enumerate index)
  object : ∃ recognizer, engine.pool[index]? = some recognizer ∧ keeps recognizer

/-- The traversal updates the recognizer once for each entry. -/
theorem foldl_updateEntry (targets : List (Layer × UInt16)) (hits : Nat)
    (entries : ∀ target ∈ targets, engine.entry target = some (.enumerate index))
    (found : engine.pool[index]? = some recognizer) :
    (∀ target, (targets.foldl (Builder.updateEntry rule number) (engine, hits)).1.entry target =
      engine.entry target) ∧
    (targets.foldl (Builder.updateEntry rule number) (engine, hits)).1.pool[index]? =
      some ((update rule number)^[targets.length] recognizer) ∧
    (targets.foldl (Builder.updateEntry rule number) (engine, hits)).2 = hits + targets.length := by
  induction targets generalizing engine hits recognizer with
  | nil => exact ⟨fun _ => rfl, found, rfl⟩
  | cons first targets ih =>
      have touched (target : Layer × UInt16) := engine.entry_touch target first.1
      have here : Builder.updateEntry rule number (engine, hits) first =
          ({ engine.setTable first.1 (engine.bitmaper first.1) with
            pool := engine.pool.modify index (update rule number) }, hits + 1) := by
        have same := (touched first).trans (entries first (.head _))
        unfold Engine.entry at same
        unfold Builder.updateEntry
        dsimp only
        rw [same]
        rfl
      rw [List.foldl_cons, here]
      obtain ⟨same, last, count⟩ := @ih (update rule number recognizer)
        { engine.setTable first.1 (engine.bitmaper first.1) with
          pool := engine.pool.modify index (update rule number) } (hits + 1)
        (fun target mem => (touched target).trans (entries target (.tail _ mem)))
        (by rw [List.getElem?_modify_eq, found]; rfl)
      refine ⟨fun target => (same target).trans (touched target), last, ?_⟩
      rw [count, List.length_cons]
      omega

theorem commit_first (storable : Storable first rest)
    (free : ∀ target ∈ builder.targets, ∀ index, engine.entry target ≠ some (.enumerate index)) :
    ∃ after index, { builder with pattern := .enumerate first.1.text }.commit first.2 engine = some after ∧
      Serves after builder index fun recognizer => Stores recognizer first [first] := by
  obtain ⟨recognizer, created, stores⟩ := create_stores storable
  obtain ⟨hits, walked, count⟩ := @Builder.traversed first.2 engine first.1.parsed builder.targets 0
  have missed : hits = 0 := by
    by_contra met
    obtain ⟨target, mem, index, there⟩ := walked.met met
    exact free target mem index there
  unfold Builder.commit
  dsimp only
  rw [Rule.split_text (storable.parses (.head _)), Option.map_some]
  have same : { builder with pattern := .enumerate first.1.text }.targets = builder.targets := rfl
  rw [same]
  generalize builder.targets.foldl (Builder.updateEntry first.1.parsed first.2) (engine, 0) = outcome at *
  obtain ⟨updated, total⟩ := outcome
  obtain rfl : total = 0 := by
    rw [missed] at count
    exact count
  dsimp only
  rw [if_pos rfl, created]
  dsimp only
  refine ⟨_, updated.pool.length, rfl, ?_, recognizer, ?_, stores⟩
  · intro target mem
    exact Builder.build_registers _ mem
  · obtain ⟨pool, -⟩ := @Builder.build_keeps { builder with pattern := .enumerate first.1.text } first.2
      { updated with pool := updated.pool ++ [recognizer] } (some (.enumerate updated.pool.length))
    rw [pool, List.getElem?_concat_length]

theorem commit_next (storable : Storable first rest) (some_ : builder.targets ≠ []) (mem : entry ∈ rest)
    (serves : Serves engine builder index fun recognizer => Stores recognizer first rules) :
    ∃ after, { builder with pattern := .enumerate entry.1.text }.commit entry.2 engine = some after ∧
      Serves after builder index fun recognizer => Stores recognizer first (rules ++ [entry]) := by
  obtain ⟨recognizer, found, stores⟩ := serves.object
  obtain ⟨entries, object, count⟩ := @foldl_updateEntry recognizer engine entry.2 entry.1.parsed index
    builder.targets 0 serves.entries found
  have positive := List.length_pos_of_ne_nil some_
  have last : Stores ((update entry.1.parsed entry.2)^[builder.targets.length] recognizer) first
      (rules ++ [entry]) := by
    obtain ⟨more, length⟩ := Nat.exists_eq_succ_of_ne_zero positive.ne'
    rw [length, Function.iterate_succ_apply']
    refine update_stores storable mem ?_
    exact Function.Iterate.rec
      (fun recognizer => Stores recognizer first rules ∨ Stores recognizer first (rules ++ [entry]))
      (.inl stores) (fun _ kept => .inr (update_stores storable mem kept)) more
  unfold Builder.commit
  dsimp only
  rw [Rule.split_text (storable.parses (.tail _ mem)), Option.map_some]
  have same : { builder with pattern := .enumerate entry.1.text }.targets = builder.targets := rfl
  rw [same]
  generalize builder.targets.foldl (Builder.updateEntry entry.1.parsed entry.2) (engine, 0) = outcome at *
  obtain ⟨updated, total⟩ := outcome
  dsimp only at entries object count ⊢
  rw [if_neg (by omega)]
  exact ⟨updated, rfl, fun target mem => (entries target).trans (serves.entries target mem), _, object, last⟩

/-- Rules that can be stored are committed to one recognizer. -/
theorem commitAll_serves (storable : Storable first rest) (some_ : builder.targets ≠ [])
    (free : ∀ target ∈ builder.targets, ∀ index, engine.entry target ≠ some (.enumerate index)) :
    ∃ loaded index, commitAll builder (first :: rest) engine = some loaded ∧
      Serves loaded builder index fun recognizer => Stores recognizer first (first :: rest) := by
  have later : ∀ (others : List (Rule × Int)) (engine : Engine) (rules : List (Rule × Int)) (index : Nat),
      (∀ entry ∈ others, entry ∈ rest) →
      (Serves engine builder index fun recognizer => Stores recognizer first rules) →
      ∃ loaded, commitAll builder others engine = some loaded ∧
        Serves loaded builder index fun recognizer => Stores recognizer first (rules ++ others) := by
    intro others
    induction others with
    | nil =>
        intro engine rules index _ serves
        exact ⟨engine, rfl, by rwa [List.append_nil]⟩
    | cons entry others ih =>
        intro engine rules index inside serves
        obtain ⟨after, committed, next⟩ := commit_next storable some_ (inside entry (.head _)) serves
        obtain ⟨loaded, rest, last⟩ := ih after (rules ++ [entry]) index (fun other mem => inside other (.tail _ mem)) next
        refine ⟨loaded, ?_, by rwa [List.append_assoc] at last⟩
        unfold commitAll at rest ⊢
        rw [List.foldlM_cons, committed]
        exact rest
  obtain ⟨after, index, committed, serves⟩ := commit_first storable free
  obtain ⟨loaded, rest, last⟩ := later rest after [first] index (fun _ mem => mem) serves
  refine ⟨loaded, index, ?_, last⟩
  unfold commitAll at rest ⊢
  rw [List.foldlM_cons, committed]
  exact rest

/-- The packets of a run that are answered by the rules. -/
def Answered (rules : List (Rule × Int)) (request : (Layer × UInt16) × Packet) (answer : Int) : Prop :=
  request.2.data.length < 65536 → answer = meaning rules request.2.data

/-- Rules that one recognizer can store are recognized for every packet that their entries are selected for,
whatever packets came before, and no byte outside of a payload is read. -/
theorem rules_recognized (storable : Storable first rest) (some_ : builder.targets ≠ [])
    (free : ∀ target ∈ builder.targets, ∀ index, engine.entry target ≠ some (.enumerate index)) :
    ∃ loaded, commitAll builder (first :: rest) engine = some loaded ∧
      ∀ requests : List ((Layer × UInt16) × Packet), (∀ request ∈ requests, request.1 ∈ builder.targets) →
        ∃ answers after, loaded.identifyAll requests = some (answers, after) ∧
          List.Forall₂ (Answered (first :: rest)) requests answers := by
  obtain ⟨loaded, index, committed, serves⟩ := commitAll_serves storable some_ free
  refine ⟨loaded, committed, fun requests => ?_⟩
  clear committed
  induction requests generalizing loaded with
  | nil => exact fun _ => ⟨[], loaded, rfl, .nil⟩
  | cons request requests ih =>
      intro inside
      obtain ⟨target, packet⟩ := request
      obtain ⟨recognizer, found, stores⟩ := serves.object
      obtain ⟨answer, next, identified, kept, right⟩ := identify_stores storable stores packet
      have small : index < loaded.pool.length := (List.getElem?_eq_some_iff.mp found).1
      have served : Serves { loaded with pool := loaded.pool.set index next } builder index
          fun recognizer => Stores recognizer first (first :: rest) :=
        ⟨serves.entries, next, List.getElem?_set_self small, kept⟩
      obtain ⟨answers, after, rest_, all⟩ := ih _ served fun request mem => inside request (.tail _ mem)
      refine ⟨answer :: answers, after, ?_, .cons right all⟩
      unfold Engine.identifyAll Engine.identifyAt
      rw [serves.entries target (inside _ (.head _))]
      dsimp only
      rw [found]
      simp only [Option.bind_eq_bind, Option.bind_some, identified, Option.pure_def, rest_]

/-! ## Rules of one protocol number -/

/-- The entries of one protocol number at both network layers. -/
def icmpBuilder : Builder := { level := .l3, proports := [1] }

/-- Any type, and the echo request. -/
def icmpRules : List (Rule × Int) := [(⟨none, 0, 1⟩, 7), (⟨some 8, 0, 1⟩, 9)]

theorem icmp_recognized :
    ∃ loaded, commitAll icmpBuilder icmpRules {} = some loaded ∧
      ∀ requests : List ((Layer × UInt16) × Packet), (∀ request ∈ requests, request.1 ∈ icmpBuilder.targets) →
        ∃ answers after, loaded.identifyAll requests = some (answers, after) ∧
          List.Forall₂ (Answered icmpRules) requests answers := by
  refine rules_recognized ⟨.inl rfl, by decide, ?_, ?_⟩ (by decide) ?_
  · decide
  · intro entry mem value known
    simp only [List.mem_cons, List.not_mem_nil, or_false] at mem
    rcases mem with rfl | rfl
    · cases known
    · obtain rfl := Option.some.inj known
      decide
  · intro target _ index wrong
    cases wrong

/-- A rule for three bytes is read through four: a payload of three bytes has no protocol, although it has the
value of the rule. -/
theorem three_bytes_missed :
    ((commitAll icmpBuilder [(⟨some 1, 0, 3⟩, 5)] {}).bind fun loaded =>
      loaded.identifyAll [((.ipv4, 1), ⟨[1, 0, 0], 0, Nat.zero_le _⟩)]).map (·.1) = some [0] ∧
    meaning [(⟨some 1, 0, 3⟩, 5)] [1, 0, 0] = 5 := by
  constructor <;> decide +kernel

end Flowsql.Npi

import Mathlib

/-!
# The protocol engine

The features of protocol definitions are converted one after the other. One builder collects the level, the
ports and the pattern of a feature until it is committed to the tables of the engine.
-/

namespace Flowsql.Npi

/-- The layers that the builder and the tables use. `TOP` is `NONE`. -/
inductive Layer where
  | none
  | l2
  | ethernet
  | vlan
  | l3
  | ipv4
  | ipv6
  | l4
  | tcp
  | udp
  | sctp
  deriving DecidableEq

/-- `Item::eValue` with the values. -/
inductive ItemValue where
  | number (word : UInt16)
  | multiNumber (words : List UInt16)
  | enumerateString (text : String)
  | regexString (text : String)
  | invalid (text : String)
  deriving DecidableEq

structure Item where
  key : String
  value : ItemValue
  deriving DecidableEq

def keyTypes : List (String × Layer) :=
  [("l2.protocol", .l2), ("l3.protocol", .l3), ("ipv4.protocol", .ipv4), ("ipv6.protocol", .ipv6),
    ("tcp.port", .tcp), ("udp.port", .udp), ("l4.port", .l4), ("port", .l4), ("l2.payload.regex", .l2),
    ("l3.payload.regex", .l3), ("ipv4.payload.regex", .ipv4), ("ipv6.payload.regex", .ipv6),
    ("l4.payload.regex", .l4), ("tcp.payload.regex", .tcp), ("udp.payload.regex", .udp),
    ("payload.regex", .none), ("l2.payload.enumerate", .l2), ("l3.payload.enumerate", .l3),
    ("ipv4.payload.enumerate", .ipv4), ("ipv6.payload.enumerate", .ipv6), ("l4.payload.enumerate", .l4),
    ("tcp.payload.enumerate", .tcp), ("udp.payload.enumerate", .udp), ("payload.enumerate", .none)]

/-- `GetKeyType`. The answer for an unknown key is also the one for `TOP`. -/
def getKeyType (key : String) : Layer :=
  (keyTypes.lookup key).getD .none

/-! ## Enumerate recognizers -/

/-- An enumerate text as it was split: the value of `*` is `-1`. -/
structure EnumerateRule where
  number : UInt64
  offset : Int
  length : Int
  deriving DecidableEq

/-- `std::stoi` and `std::stoll` for the numbers of these bounds, which throw otherwise. -/
def parseNumber (low high : Int) (text : List Char) : Option Int :=
  let text := text.dropWhile Char.isWhitespace
  let digits : List Char := match text with
    | '-' :: rest | '+' :: rest => rest.takeWhile Char.isDigit
    | _ => text.takeWhile Char.isDigit
  let magnitude := digits.foldl (fun value digit => value * 10 + ((digit.toNat : Int) - '0'.toNat)) 0
  let value := if text.head? = some '-' then -magnitude else magnitude
  if digits = [] ∨ value < low ∨ high < value then none else some value

/-- `split2enumerateparameter`, without an answer where a number throws. -/
def split2enumerateparameter (text : String) : Option EnumerateRule :=
  let number := text.toList.takeWhile (· ≠ ':')
  let behind := (text.toList.drop number.length).drop 1
  let offset := behind.takeWhile (· ≠ ':')
  if number = [] ∨ offset = [] ∨ offset.length = behind.length then some ⟨0, 0, 0⟩
  else do
    let position ← parseNumber (-2 ^ 31) (2 ^ 31 - 1) offset
    let length ← parseNumber (-2 ^ 31) (2 ^ 31 - 1) (behind.drop (offset.length + 1))
    if number = ['*'] then return ⟨-1, position, length⟩
    else
      let value ← parseNumber (-2 ^ 63) (2 ^ 63 - 1) number
      return ⟨UInt64.ofInt value, position, length⟩

structure EnumerateRecognizer where
  position : Int
  /-- `sizeof(Integer)`. -/
  integer : Nat
  bytewidth : Int
  default_ : Int := 0
  /-- The entries, the latest first. -/
  enums : List (Nat × Int) := []
  deriving DecidableEq

namespace EnumerateRecognizer

/-- The key goes through `int32_t` and becomes an `Integer` again. An index beyond the 256 entries of the
smallest recognizer is undefined, and here wraps around. -/
def set (number : UInt64) (proid : Int) (recognizer : EnumerateRecognizer) : EnumerateRecognizer :=
  let key := (number.toInt64.toInt32.toInt % 256 ^ recognizer.integer).toNat
  { recognizer with enums := (key, proid) :: recognizer.enums }

end EnumerateRecognizer

/-- `EnumerateRecognizerPool::Create`. -/
def create (rule : EnumerateRule) (proid : Int) : Option EnumerateRecognizer :=
  let integer : Option Nat :=
    if rule.length = 1 then some 1
    else if rule.length = 2 then some 2
    else if rule.length = 3 ∨ rule.length = 4 then some 4
    else if 5 ≤ rule.length ∧ rule.length ≤ 8 then some 8
    else none
  integer.map fun integer =>
    let recognizer : EnumerateRecognizer :=
      { position := rule.offset, integer := integer, bytewidth := rule.length }
    if rule.number = -1 then { recognizer with default_ := proid } else recognizer.set rule.number proid

/-- `EnumerateRecognizerPool::Update`. -/
def update (rule : EnumerateRule) (proid : Int) (recognizer : EnumerateRecognizer) : EnumerateRecognizer :=
  if rule.number ≠ -1 ∧ recognizer.position = rule.offset ∧ recognizer.bytewidth = rule.length then
    recognizer.set rule.number proid
  else recognizer

/-! ## The engine -/

/-- What a table entry points to. -/
inductive Recognizer where
  | recognized (number : Int)
  | regex
  /-- An object of the pool. -/
  | enumerate (index : Nat)
  deriving DecidableEq

/-- What `RegexRecognizer::Regex` is given. -/
structure RegexEntry where
  text : String
  proports : List UInt16
  level : Layer
  number : Int

structure Engine where
  /-- The tables that exist, with null pointers. -/
  tables : Layer → Option (UInt16 → Option Recognizer) := fun _ => none
  pool : List EnumerateRecognizer := []
  regexes : List RegexEntry := []

namespace Engine

/-- `Bitmaper`, which makes a missing table. -/
def bitmaper (engine : Engine) (layer : Layer) : UInt16 → Option Recognizer :=
  (engine.tables layer).getD fun _ => none

def setTable (engine : Engine) (layer : Layer) (table : UInt16 → Option Recognizer) : Engine :=
  { engine with tables := Function.update engine.tables layer (some table) }

def set (reco : Recognizer) (engine : Engine) (target : Layer × UInt16) : Engine :=
  engine.setTable target.1 (Function.update (engine.bitmaper target.1) target.2 (some reco))

def setEmpty (reco : Recognizer) (engine : Engine) (layer : Layer) : Engine :=
  engine.setTable layer fun port => some ((engine.bitmaper layer port).getD reco)

end Engine

/-- The tables of a level. -/
def tablesOf : Layer → List Layer
  | .l2 => [.ethernet, .vlan]
  | .l3 => [.ipv4, .ipv6]
  | .l4 => [.tcp, .udp, .sctp]
  | .ipv4 => [.ipv4]
  | .ipv6 => [.ipv6]
  | .tcp => [.tcp]
  | .udp => [.udp]
  | .sctp => [.sctp]
  | .none | .ethernet | .vlan => []

def isTransport (level : Layer) : Bool :=
  level = .tcp ∨ level = .udp ∨ level = .sctp ∨ level = .l4

/-- `strtype_` and `string_`. -/
inductive Pattern where
  | none
  | enumerate (text : String)
  | regex (text : String)
  | other (text : String)
  deriving DecidableEq

structure Builder where
  level : Layer := .none
  proports : List UInt16 := []
  pattern : Pattern := .none
  deriving DecidableEq

namespace Builder

/-- The entries that the builder names, port by port. -/
def targets (builder : Builder) : List (Layer × UInt16) :=
  builder.proports.flatMap fun port => (tablesOf builder.level).map fun layer => (layer, port)

/-- `build`: a feature without a recognizer is recognized by its ports. -/
def build (builder : Builder) (number : Int) (reco : Option Recognizer) (engine : Engine) : Engine :=
  match reco with
  | some reco =>
      if isTransport builder.level ∧ builder.proports = [] then
        (tablesOf builder.level).foldl (Engine.setEmpty reco) engine
      else builder.targets.foldl (Engine.set reco) engine
  | none => builder.targets.foldl (Engine.set (.recognized number)) engine

/-- One entry that is traversed: its enumerate recognizer is updated and counted. -/
def updateEntry (rule : EnumerateRule) (number : Int) (state : Engine × Nat) (target : Layer × UInt16) :
    Engine × Nat :=
  let engine := state.1.setTable target.1 (state.1.bitmaper target.1)
  match engine.bitmaper target.1 target.2 with
  | some (.enumerate index) =>
      ({ engine with pool := engine.pool.modify index (update rule number) }, state.2 + 1)
  | _ => (engine, state.2)

/-- `Commit`, without an answer where a number of an enumerate text throws. -/
def commit (builder : Builder) (number : Int) (engine : Engine) : Option Engine :=
  match builder.pattern with
  | .regex text =>
      let built := builder.build number (some .regex) engine
      some { built with
        regexes := built.regexes ++ [⟨text, builder.proports, builder.level, number⟩] }
  | .enumerate text =>
      (split2enumerateparameter text).map fun rule =>
        let (updated, hits) := builder.targets.foldl (updateEntry rule number) (engine, 0)
        if hits = 0 then
          match create rule number with
          | some recognizer =>
              builder.build number (some (.enumerate updated.pool.length))
                { updated with pool := updated.pool ++ [recognizer] }
          | none => builder.build number none updated
        else updated
  | .none | .other _ => some (builder.build number none engine)

/-- `Level`, which fails for a second level. -/
def setLevel (level : Layer) (builder : Builder) : Option Builder :=
  if builder.level = .none then some { builder with level := level }
  else if builder.level ≠ level then none
  else some builder

def takeValue (value : ItemValue) (builder : Builder) : Builder :=
  match value with
  | .number word => { builder with proports := builder.proports ++ [word] }
  | .multiNumber words => { builder with proports := builder.proports ++ words }
  | .enumerateString text => { builder with pattern := .enumerate text }
  | .regexString text => { builder with pattern := .regex text }
  | .invalid text => { builder with pattern := .other text }

/-- The items of a feature, and whether the loop ends without an early return. -/
def takeItems : List Item → Builder → Bool × Builder
  | [], builder => (true, builder)
  | item :: items, builder =>
      if getKeyType item.key = .none then
        match item.value with
        | .regexString text => takeItems items { builder with pattern := .regex text }
        | _ => takeItems items builder
      else
        match builder.setLevel (getKeyType item.key) with
        | none => (false, builder)
        | some leveled => takeItems items (leveled.takeValue item.value)

end Builder

/-! ## Models -/

/-- The builder and the tables. -/
structure Loader where
  builder : Builder := {}
  engine : Engine := {}

structure Feature where
  number : Int
  items : List Item

/-- `Convert`: whether the feature is accepted, and what it leaves. Without an answer an exception leaves. -/
def convert (feature : Feature) (loader : Loader) : Option (Bool × Loader) :=
  match Builder.takeItems feature.items loader.builder with
  | (false, builder) => some (false, { loader with builder := builder })
  | (true, builder) =>
      (builder.commit feature.number loader.engine).map fun engine => (true, { engine := engine })

/-- All features of the definitions. -/
def load (features : List Feature) (loader : Loader) : Option Loader :=
  features.foldlM (fun loader feature => (convert feature loader).map (·.2)) loader

/-- `Ready`: the unknown recognizer fills the tables. -/
def Engine.ready (engine : Engine) : Engine :=
  { engine with
    tables := fun layer => (engine.tables layer).map fun table port =>
      some ((table port).getD (.recognized 0)) }

end Flowsql.Npi

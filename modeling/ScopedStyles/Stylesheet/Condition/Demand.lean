import ScopedStyles.Stylesheet.Reader

namespace ScopedStyles.Stylesheet

inductive Junction where
  | both
  | either
  deriving DecidableEq, Repr, Inhabited

namespace Junction

def word : Junction → String
  | both => "and"
  | either => "or"

def ofWord? (word : String) : Option Junction :=
  match word.toLower with
  | "and" => some both
  | "or" => some either
  | _ => none

end Junction

inductive Demand (α : Type) where
  | one (test : α)
  | negated (demand : Demand α)
  | joined (junction : Junction) (demands : List (Demand α))
  deriving Inhabited

namespace Demand

variable {α : Type}

mutual

def beq [BEq α] : Demand α → Demand α → Bool
  | one a, one b => a == b
  | negated a, negated b => beq a b
  | joined x as, joined y bs => x == y && beqAll as bs
  | _, _ => false

def beqAll [BEq α] : List (Demand α) → List (Demand α) → Bool
  | [], [] => true
  | a :: as, b :: bs => beq a b && beqAll as bs
  | _, _ => false

end

instance [BEq α] : BEq (Demand α) := ⟨beq⟩

mutual

def map {β : Type} (f : α → β) : Demand α → Demand β
  | one test => one (f test)
  | negated demand => negated (map f demand)
  | joined junction demands => joined junction (mapAll f demands)

def mapAll {β : Type} (f : α → β) : List (Demand α) → List (Demand β)
  | [] => []
  | demand :: rest => map f demand :: mapAll f rest

end

mutual

def tests : Demand α → List α
  | one test => [test]
  | negated demand => tests demand
  | joined _ demands => testsOfAll demands

def testsOfAll : List (Demand α) → List α
  | [] => []
  | demand :: rest => tests demand ++ testsOfAll rest

end

structure Wording (α : Type) where
  write : α → String
  needsParentheses : Option Junction → α → Bool
  opposite? : α → Option α
  dropsDouble : Bool

namespace Wording

def plain (write : α → String) : Wording α :=
  ⟨write, fun _ _ => false, fun _ => none, false⟩

end Wording

def parenthesized (needsParentheses : Bool) (text : String) : String :=
  if needsParentheses then "(" ++ text ++ ")" else text

def needsParentheses (wording : Wording α) (around : Option Junction) : Demand α → Bool
  | one test => wording.needsParentheses around test
  | negated _ => true
  | joined junction _ => around != some junction

mutual

def write (wording : Wording α) : Demand α → String
  | one test => wording.write test
  | negated (one test) =>
    match wording.opposite? test with
    | some other => wording.write other
    | none =>
      "not " ++ parenthesized (wording.needsParentheses none test) (wording.write test)
  | negated (negated demand) =>
    if wording.dropsDouble then write wording demand
    else "not (" ++ write wording (negated demand) ++ ")"
  | negated (joined junction demands) => "not (" ++ write wording (joined junction demands) ++ ")"
  | joined junction demands =>
    String.intercalate (" " ++ junction.word ++ " ") (writeAll wording junction demands)

def writeAll (wording : Wording α) (junction : Junction) : List (Demand α) → List String
  | [] => []
  | demand :: rest =>
    parenthesized (needsParentheses wording (some junction) demand) (write wording demand) ::
      writeAll wording junction rest

end

inductive Misreading where
  | early
  | wrong
  | refused
  deriving DecidableEq, Repr, Inhabited

end Demand

abbrev DemandReader := StateT (List Piece) (Except Demand.Misreading)

namespace DemandReader

variable {α : Type}

def lifted (reader : Reader α) : DemandReader α := do
  let pieces ← get
  if (Piece.dropSpace pieces).isEmpty then throw .early
  match reader.run pieces with
  | some (value, rest) =>
    set rest
    return value
  | none => throw .wrong

def attempt (reader : DemandReader α) : DemandReader (Option α) :=
  tryCatch (some <$> reader) fun _ => pure none

def within (content : List Piece) (reader : DemandReader α) : DemandReader α := do
  let (value, rest) ← (reader.run content : Except Demand.Misreading (α × List Piece))
  if !(Piece.dropSpace rest).isEmpty then throw .wrong
  return value

structure TestReader (α : Type) where
  inParentheses : DemandReader α
  call : String → List Piece → DemandReader α

def junction? : DemandReader (Option Junction) :=
  attempt do
    match Junction.ofWord? (← lifted Reader.ident) with
    | some junction => return junction
    | none => throw .wrong

def more (junction : Junction) (operand : DemandReader α) : Nat → DemandReader (List α)
  | 0 => return []
  | bound + 1 => do
    match ← attempt (lifted (Reader.word junction.word)) with
    | some () => return (← operand) :: (← more junction operand bound)
    | none => return []

mutual

def part (tests : TestReader α) : Nat → Piece → DemandReader (Demand α)
  | 0, _ => throw .wrong
  | depth + 1, .block '(' content =>
    within content do
      match ← attempt (demandWithin tests depth true) with
      | some demand => return demand
      | none => return .one (← tests.inParentheses)
  | _ + 1, .function name content => do return .one (← tests.call name.toLower content)
  | _, _ => throw .wrong

def demandWithin (tests : TestReader α) : Nat → Bool → DemandReader (Demand α)
  | 0, _ => throw .wrong
  | depth + 1, allowsEither => do
    let operand : DemandReader (Demand α) := do part tests depth (← lifted Reader.piece)
    match ← lifted Reader.piece with
    | .token (.ident name) =>
      if name.toLower != "not" then throw .wrong
      return .negated (← operand)
    | first =>
      let first ← part tests depth first
      match ← junction? with
      | none => return first
      | some junction =>
        if junction == .either && !allowsEither then throw .wrong
        let second ← operand
        let others ← more junction operand (← get).length
        return .joined junction (first :: second :: others)

end

def demand (tests : TestReader α) (allowsEither : Bool) : DemandReader (Demand α) := do
  demandWithin tests (2 * (Piece.depthOfAll (← get) + 2)) allowsEither

end DemandReader

end ScopedStyles.Stylesheet

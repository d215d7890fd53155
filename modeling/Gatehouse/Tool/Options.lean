import Gatehouse.Tool.Basic
import Gatehouse.Tool.Quoted

/-!
# Options of tools

Letters behind a dash, which may stand together, and words behind two dashes, which may be
cut short. Options can stand behind operands; two dashes alone end them.
-/

namespace Gatehouse.Tool

/-- The options that a tool has: letters, with whether each takes a value, and words for
letters. -/
structure OptionTable where
  letters : List (Char × Bool)
  words : List (String × Char)

/-- Arguments that are told apart: options with their values, and operands. -/
structure Options where
  given : List (Char × String) := []
  operands : List String := []
deriving DecidableEq, Repr

namespace Options

/-- Whether an option is given. -/
def has (options : Options) (letter : Char) : Bool := options.given.any (·.1 == letter)

/-- The value that an option is given last. -/
def value? (options : Options) (letter : Char) : Option String :=
  (options.given.reverse.find? (·.1 == letter)).map (·.2)

/-- The letters behind one dash; the last one may take what is left of the argument, or the next
argument, as its value. -/
def ofLetters (table : OptionTable) (rest : List String) (done : Options) :
    List Char → Except String (Options × List String)
  | [] => .ok (done, rest)
  | letter :: letters =>
    match table.letters.find? (·.1 == letter) with
    | none => .error ("invalid option -- '" ++ String.singleton letter ++ "'")
    | some (_, false) =>
      ofLetters table rest { done with given := done.given ++ [(letter, "")] } letters
    | some (_, true) =>
      match letters, rest with
      | [], [] => .error ("option requires an argument -- '" ++ String.singleton letter ++ "'")
      | [], value :: rest => .ok ({ done with given := done.given ++ [(letter, value)] }, rest)
      | value, rest =>
        .ok ({ done with given := done.given ++ [(letter, String.ofList value)] }, rest)

/-- A word behind two dashes, with its value behind a sign or in the next argument. -/
def ofWord (table : OptionTable) (rest : List String) (done : Options) (text : String) :
    Except String (Options × List String) :=
  let name := String.ofList (text.toList.takeWhile (· ≠ '='))
  let value? := match text.toList.dropWhile (· ≠ '=') with
    | _ :: value => some (String.ofList value)
    | [] => none
  let found := match table.words.find? (·.1 == name) with
    | some exact => [exact]
    | none => table.words.filter fun (word, _) => word.startsWith name
  match found with
  | [(word, letter)] =>
    let takes := table.letters.any (· == (letter, true))
    match takes, value?, rest with
    | false, none, _ => .ok ({ done with given := done.given ++ [(letter, "")] }, rest)
    | false, some _, _ => .error ("option '--" ++ word ++ "' doesn't allow an argument")
    | true, some value, _ => .ok ({ done with given := done.given ++ [(letter, value)] }, rest)
    | true, none, value :: rest =>
      .ok ({ done with given := done.given ++ [(letter, value)] }, rest)
    | true, none, [] => .error ("option '--" ++ word ++ "' requires an argument")
  | _ => .error ("unrecognized option '--" ++ text ++ "'")

/-- Arguments told apart; the fuel bounds their number. -/
def ofArguments (table : OptionTable) (done : Options) :
    Nat → List String → Except String Options
  | 0, _ => .ok done
  | _ + 1, [] => .ok done
  | fuel + 1, argument :: rest =>
    match argument.toList with
    | ['-', '-'] => .ok { done with operands := done.operands ++ rest }
    | '-' :: '-' :: text => do
      let (done, rest) ← ofWord table rest done (String.ofList text)
      ofArguments table done fuel rest
    | '-' :: first :: letters => do
      let (done, rest) ← ofLetters table rest done (first :: letters)
      ofArguments table done fuel rest
    | _ => ofArguments table { done with operands := done.operands ++ [argument] } fuel rest

/-- The options and operands of a tool. -/
def read (table : OptionTable) (arguments : List String) : Except String Options :=
  ofArguments table {} (arguments.length + 1) arguments

end Options

/-- The advice behind a report on how a tool was called. -/
def advice (name : String) : String := "Try '" ++ name ++ " --help' for more information.\n"

/-- The run of a tool that was called in a wrong way. -/
def misuse (name report : String) : ToolRun :=
  .fail 1 (name ++ ": " ++ report ++ "\n" ++ advice name)

end Gatehouse.Tool

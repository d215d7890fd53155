import Gatehouse.Environment
import Gatehouse.Journal
import Gatehouse.Text.Alphanumeric
import Gatehouse.Text.Blank
import Gatehouse.Text.Decimal
import Gatehouse.Text.Utf8

/-!
# Filters of the journal

Which records are shown. A filter is a list of rules, each for the targets that start
with a text, and perhaps only for records with a field of some name. The rule with the
longest start decides, before one without a field the one with a field, and of two that
are equal in this the later one. A target that no rule is for is not shown.

A rule may ask for a value of a field of a span, by a pattern. Which texts are patterns is
not a matter of filters: everything here is about any judge of that.
-/

namespace Gatehouse

/-- The least urgent level that is shown, or nothing at all. -/
abbrev Threshold := Option Level

namespace Threshold

/-- Whether a level is shown. -/
def admits : Threshold → Level → Bool
  | none, _ => false
  | some least, level => level.rank ≤ least.rank

/-- The threshold of a name, in letters of either case, or of a number. No record is less urgent
than the last level, so all that lies beyond it is the same. -/
def ofName? (name : String) : Option Threshold :=
  match Text.parseUnsigned64? name with
  | some 0 => some none
  | some 1 => some (some .error)
  | some 2 => some (some .warn)
  | some 3 => some (some .info)
  | some 4 | some 5 => some (some .debug)
  | some _ => none
  | none =>
    match name.map Char.toLower with
    | "off" => some none
    | "" | "error" => some (some .error)
    | "warn" => some (some .warn)
    | "info" => some (some .info)
    | "debug" | "trace" => some (some .debug)
    | _ => none

end Threshold

/-- What is shown of the targets that start with a text, and where a field is named, only of the
records that have it. -/
structure FilterRule where
  start : String
  field : Option String
  threshold : Threshold
deriving DecidableEq, Repr

/-- The rules of what is shown. -/
structure JournalFilter where
  rules : List FilterRule
deriving DecidableEq, Repr

/-- Why a text is no filter. Where a part of it begins or ends inside a character, nothing can be
made of it at all. -/
inductive FilterFault
  | unreadable
  | torn
deriving DecidableEq, Repr

namespace FilterRule

/-- The part of a text between two places, which are counted in octets and have to lie between
characters. -/
def part (text : String) (first last : Nat) : Except FilterFault String :=
  let octets := Text.Utf8.encode text
  match Text.Utf8.decode? (octets.take first),
      Text.Utf8.decode? ((octets.take last).drop first) with
  | some _, some part => .ok part
  | _, _ => .error .torn

/-- The part of a text from a place on. -/
def partFrom (text : String) (first : Nat) : Except FilterFault String :=
  part text first text.utf8ByteSize

/-- Whether a character can be the first one of a target or a level. -/
def canBegin (character : Char) : Bool :=
  Text.isAlphanumeric character || character == '-' || character == ':' || character == '_'

/-- The threshold at the end of a rule, of which `rest` is left from a place on. Without one all is
shown. -/
def thresholdAt (text : String) (place : Nat) (rest : List Char) : Except FilterFault Threshold :=
  match rest with
  | [] => .ok (some .debug)
  | '=' :: _ => do
    let level ← partFrom text (place + 1)
    if level.isEmpty then return some .debug
    else match Threshold.ofName? level with
      | some threshold => return threshold
      | none => .error .unreadable
  | _ => .error .unreadable

/-- The name that a condition on a field asks for, and the value, if it asks for one. -/
def condition (text : String) : String × Option String :=
  match (text.toList.splitOnP (· == '=')).map String.ofList with
  | name :: value :: _ => (name, some value)
  | _ => (text, none)

/-- Whether a value can be asked for. -/
def asksFor (isPattern : String → Bool) : Option String → Bool
  | none => true
  | some value => isPattern value

/-- The rule of a target and of the brackets behind it, of which `rest` is left from a place on. A
rule for what happens inside of a named span, or with a value in a field of a span, is one for
nothing: there are no spans. But a value that is no pattern cannot be asked for. -/
def bracketed (isPattern : String → Bool) (text target : String) (place : Nat)
    (rest : List Char) : Except FilterFault (Option FilterRule) := do
  let span := rest.takeWhile fun character => character != ']' && character != '\x7b'
  let behind := place + Text.Utf8.size span
  let name ← part text place behind
  match rest.drop span.length with
  | ']' :: rest =>
    let _ ← thresholdAt text (behind + 1) rest
    return none
  | '\x7b' :: rest =>
    let field := rest.takeWhile (· ≠ '\x7d')
    let last := behind + 1 + Text.Utf8.size field
    match rest.drop field.length with
    | '\x7d' :: rest =>
      let content ← part text (behind + 1) last
      let (field, value?) := condition content
      if content.isEmpty ∨ ¬ asksFor isPattern value? then .error .unreadable
      else match rest with
        | ']' :: rest =>
          let threshold ← thresholdAt text (last + 2) rest
          return if name.isEmpty ∧ value?.isNone then some ⟨target, some field, threshold⟩ else none
        | _ => .error .unreadable
    | _ => .error .unreadable
  | _ => .error .unreadable

/-- The rule of a text: a level, a target of which all is shown, or a target with a level or with
brackets. The parts are told apart without the blanks around the text, and then taken at the same
places from the text as it stands: blanks in front of it shift all of them. -/
def ofText (isPattern : String → Bool) (text : String) :
    Except FilterFault (Option FilterRule) :=
  let characters := (Text.trim text).toList
  match characters with
  | [] => .error .unreadable
  | '[' :: rest => bracketed isPattern text "" 1 rest
  | first :: _ =>
    if ¬ canBegin first then .error .unreadable
    else
      let name := characters.takeWhile fun character => character != '=' && character != '['
      let place := Text.Utf8.size name
      match characters.drop name.length with
      | [] =>
        match Threshold.ofName? text with
        | some threshold => .ok (some ⟨"", none, threshold⟩)
        | none => .ok (some ⟨text, none, some .debug⟩)
      | '[' :: rest => do
        let target ← part text 0 place
        bracketed isPattern text target (place + 1) rest
      | rest => do
        let target ← part text 0 place
        return some ⟨target, none, ← thresholdAt text place rest⟩

/-- Whether a rule is for a record. -/
def covers (rule : FilterRule) (record : Record) : Bool :=
  rule.start.toList.isPrefixOf record.target.toList &&
    match rule.field with
    | none => true
    | some name => name == "message" || record.fields.any (·.1 == name)

/-- Whether a rule decides where another one for the same record stands in front of it. -/
def precedes (rule earlier : FilterRule) : Bool :=
  if rule.start.utf8ByteSize ≠ earlier.start.utf8ByteSize then
    earlier.start.utf8ByteSize < rule.start.utf8ByteSize
  else match earlier.field, rule.field with
    | none, _ => true
    | some _, none => false
    | some held, some name => held ≤ name

end FilterRule

namespace JournalFilter

/-- Everything down to a level. -/
def downTo (level : Level) : JournalFilter := ⟨[⟨"", none, some level⟩]⟩

/-- The texts of rules: what stands between commas, unless it is empty. -/
def ruleTexts (text : String) : List String :=
  ((text.toList.splitOnP (· == ',')).map String.ofList).filter (· ≠ "")

/-- The filter of a text, and nothing is shown without any rules. The first rule that cannot be read
makes the whole text unusable. -/
def ofText (isPattern : String → Bool) (text : String) : Except FilterFault JournalFilter := do
  let rules ← (ruleTexts text).mapM (FilterRule.ofText isPattern)
  return ⟨rules.filterMap id⟩

/-- The filter that an environment asks for, if anything can be made of it. One that cannot be
read is none. -/
def ofEnvironment? (isPattern : String → Bool) (environment : Environment) :
    Option JournalFilter :=
  match (environment "RUST_LOG").map (ofText isPattern) with
  | some (.ok filter) => some filter
  | some (.error .torn) => none
  | some (.error .unreadable) | none => some (downTo .info)

/-- The rule that decides about a record. -/
def deciding? (filter : JournalFilter) (record : Record) : Option FilterRule :=
  filter.rules.foldl (fun best rule =>
    if ¬ rule.covers record then best
    else match best with
      | none => some rule
      | some held => if rule.precedes held then some rule else best)
    none

/-- Whether a record is shown. -/
def admits (filter : JournalFilter) (record : Record) : Bool :=
  match filter.deciding? record with
  | some rule => rule.threshold.admits record.level
  | none => false

end JournalFilter

end Gatehouse

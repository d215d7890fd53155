import Gatehouse.Hash.Sha256
import Gatehouse.Text.Hex
import Gatehouse.Text.Utf8

/-!
# Identifiers in commands

Values that come from a task reach a command only as identifiers over letters, digits
and hyphens, at most 63 long. The name of a container adds a hash of the raw value, so
two tasks whose identifiers look alike still get two containers.
-/

namespace Gatehouse.Sandbox

/-- The longest identifier. -/
def identifierLimit : Nat := 63

/-- The characters an identifier keeps. -/
def isIdentifierChar (character : Char) : Bool := character.isAlphanum || character == '-'

/-- The identifier of a raw value: a hyphen in the place of every other character. A value without
any character becomes a fixed word. -/
def sanitize (raw : String) : String :=
  let kept := (raw.toList.take identifierLimit).map fun character =>
    if isIdentifierChar character then character else '-'
  if kept.isEmpty then "task" else String.ofList kept

/-- The number of characters of a digest that are shown. -/
def digestPrefixLength : Nat := 16

/-- The front of a digest, for people who compare records; no image is chosen by it. -/
def digestPrefix (digest : String) : String :=
  String.ofList (digest.toList.take digestPrefixLength)

/-- What the name of every container begins with, so that it begins with a letter. -/
def containerPrefix : String := "tollgate-"

/-- The number of characters of an identifier in the name of a container. With its prefix, a hyphen
and the hash the name has at most 63 characters. -/
def containerStemLength : Nat := 45

/-- The number of octets of the hash in the name of a container. -/
def containerHashLength : Nat := 4

/-- The name of the container of a task. -/
def containerName (taskId : String) : String :=
  let stem := String.ofList ((sanitize taskId).toList.take containerStemLength)
  let hash := (Hash.sha256 (Text.Utf8.encode taskId)).take containerHashLength
  containerPrefix ++ stem ++ "-" ++ Text.Hex.encode hash

end Gatehouse.Sandbox

import SchemaMarkup.Text.Case
import SchemaMarkup.Text.Search

/-! Where files are: the names by which they are shown, and the address at which a database file
is opened. An address is a resource name, so some characters of a file name mean something
else in it.
-/

namespace SchemaMarkup.CommandLine

-----------------------------------------------------------------------------------------
-- File names
-----------------------------------------------------------------------------------------

/-- The slashes with which a shown path begins: two slashes are told apart from one, and more
of them count as one.
-/
def rootOf (path : List Char) : String :=
  match path with
  | '/' :: '/' :: '/' :: _ => "/"
  | '/' :: '/' :: _ => "//"
  | '/' :: _ => "/"
  | _ => ""

/-- A path as it is shown: without empty parts and without parts that stay where they are. -/
def shownPath (path : String) : String :=
  let parts := (Text.splitOn '/' path).filter fun p => p ≠ "" && p ≠ "."
  match rootOf path.toList ++ "/".intercalate parts with
  | "" => "."
  | shown => shown

/-- The ending of a file name from its last dot on, in lower case; a dot at either end of the
name begins no ending.
-/
def extension (path : String) : String :=
  let name := (path.toList.reverse.takeWhile (· ≠ '/')).reverse
  let after := (name.reverse.takeWhile (· ≠ '.')).reverse
  if after = [] || name.length ≤ after.length + 1 then ""
  else Text.lower (String.ofList ('.' :: after))

-----------------------------------------------------------------------------------------
-- Addresses of databases
-----------------------------------------------------------------------------------------

/-- The address of a database. -/
structure Address where
  /-- The file that holds the database, if the address names one. -/
  file? : Option String
  /-- Whether the file has to exist. Otherwise it is created, with an empty database. -/
  mustExist : Bool
deriving DecidableEq, Repr, Inhabited

/-- The value of a hexadecimal digit. -/
def hexValue? (b : UInt8) : Option UInt8 :=
  if '0'.toUInt8 ≤ b && b ≤ '9'.toUInt8 then some (b - '0'.toUInt8)
  else if 'a'.toUInt8 ≤ b && b ≤ 'f'.toUInt8 then some (b - 'a'.toUInt8 + 10)
  else if 'A'.toUInt8 ≤ b && b ≤ 'F'.toUInt8 then some (b - 'A'.toUInt8 + 10)
  else none

/-- The byte that a percent sign before two hexadecimal digits stands for. -/
def escapedByte? (b high low : UInt8) : Option UInt8 :=
  if b = '%'.toUInt8 then do return (← hexValue? high) * 16 + (← hexValue? low) else none

/-- Bytes with the escaped ones among them decoded. An escaped zero ends them. -/
def percentDecoded : List UInt8 → List UInt8
  | b :: high :: low :: rest =>
    match escapedByte? b high low with
    | some byte => if byte = 0 then [] else byte :: percentDecoded rest
    | none => b :: percentDecoded (high :: low :: rest)
  | bs => bs

/-- Whether a character ends the path in an address. -/
def endsAddressPath (c : Char) : Bool :=
  c = '#' || c = '?'

/-- The address under which the database file of a name is opened for reading. What follows a
number sign or a question mark is lost, together with the wish that the file be read only.
-/
def Address.ofPath (path : String) : Address :=
  let kept := String.ofList (path.toList.takeWhile (!endsAddressPath ·))
  { file? := String.fromUTF8? (percentDecoded kept.toUTF8.toList).toByteArray
    mustExist := !path.toList.any endsAddressPath }

end SchemaMarkup.CommandLine

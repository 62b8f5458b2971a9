import BoundSql.Text

/-! Universally unique identifiers: 128 bits, written as hyphenated lower case hexadecimal digits and
read in four spellings. -/
namespace BoundSql

abbrev Uuid := BitVec 128

namespace Uuid

open BoundSql.Text

/-- Hyphens after the eighth, twelfth, sixteenth and twentieth digit. -/
def hyphenated (ds : List Char) : List Char :=
  ds.take 8 ++ '-' :: (ds.drop 8).take 4 ++ '-' :: (ds.drop 12).take 4 ++
    '-' :: (ds.drop 16).take 4 ++ '-' :: ds.drop 20

def text (u : Uuid) : List Char := hyphenated (hexDigits 32 u.toNat)

def parseDigits? (text : List Char) : Option Uuid :=
  if text.length = 32 then (ofHexDigits? text 0).map (BitVec.ofNat 128) else none

def parseHyphenated? (text : List Char) : Option Uuid :=
  let ds := text.take 8 ++ (text.drop 9).take 4 ++ (text.drop 14).take 4 ++
    (text.drop 19).take 4 ++ text.drop 24
  if text = hyphenated ds then parseDigits? ds else none

def unbraced? (text : List Char) : Option (List Char) :=
  match text with
  | '\x7b' :: rest => if rest.getLast? = some '\x7d' then some rest.dropLast else none
  | _ => none

def unnamed? (text : List Char) : Option (List Char) :=
  if (text.take 9).map Char.toLower = "urn:uuid:".toList then some (text.drop 9) else none

/-- Plain digits, or hyphenated ones alone, in braces or behind `urn:uuid:`. -/
def parse? (text : List Char) : Option Uuid :=
  (parseDigits? text).or <| (parseHyphenated? text).or <|
    ((unbraced? text).bind parseHyphenated?).or <| (unnamed? text).bind parseHyphenated?

end Uuid
end BoundSql

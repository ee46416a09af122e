import StateTraces.Text.LowerCase

/-
Ways in which bytes write a text, and the names by which they are known. Letter case does not count
in a name, and neither does how its parts are separated.
-/

namespace StateTraces.Text

/-- A way to write texts. With a mark, a byte order mark in front does not belong to the text. -/
inductive Encoding where
  | utf8 (marked : Bool)
  | latin1
  | ascii
  deriving DecidableEq, Repr

namespace Encoding

/-- The names of the encodings, their parts separated by underscores. -/
def names : List (Encoding × List String) := [
    (.utf8 false, ["utf_8", "utf8", "u8", "utf", "utf8_ucs2", "utf8_ucs4", "cp65001"]),
    (.utf8 true, ["utf_8_sig"]),
    (.latin1, ["latin_1", "latin1", "latin", "l1", "8859", "iso8859", "iso8859_1", "iso_8859_1",
      "iso_8859_1_1987", "iso_ir_100", "csisolatin1", "cp819", "ibm819"]),
    (.ascii, ["ascii", "us_ascii", "us", "646", "iso646_us", "iso_646.irv_1991", "iso_ir_6",
      "ansi_x3.4_1968", "ansi_x3_4_1968", "ansi_x3.4_1986", "cp367", "ibm367", "csascii"])]

/-- A name in small letters, with one underscore wherever something separates its parts. -/
def normalized (name : String) : String :=
  let isPart (c : Char) := c.isAlphanum || c == '.'
  let pieces := (lower name).toList.splitBy fun a b => isPart a == isPart b
  let parts := (pieces.filter fun piece => piece.all isPart).map String.ofList
  "_".intercalate parts

def ofName? (name : String) : Option Encoding :=
  (names.find? fun r => r.2.contains (normalized name)).map Prod.fst

/-- The text that bytes write, if they write one. -/
def decode (e : Encoding) (bytes : List UInt8) : Option String :=
  match e with
  | .utf8 false => String.fromUTF8? ⟨bytes.toArray⟩
  | .utf8 true =>
    let rest := if bytes.take 3 = [0xef, 0xbb, 0xbf] then bytes.drop 3 else bytes
    String.fromUTF8? ⟨rest.toArray⟩
  | .latin1 => some (String.ofList (bytes.map fun b => Char.ofNat b.toNat))
  | .ascii =>
    if bytes.all (· < 128) then some (String.ofList (bytes.map fun b => Char.ofNat b.toNat))
    else none

end Encoding

end StateTraces.Text

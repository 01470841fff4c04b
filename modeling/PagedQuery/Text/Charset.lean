import PagedQuery.Text.CodePageData
import PagedQuery.Text.Utf8
import PagedQuery.Text.Utf16

/-!
Charsets: encodings under the names that messages give them. Text of a message is always read
leniently; what can go wrong is only that a mark is needed and missing.
-/
namespace PagedQuery.Text

/-- An encoding of one byte for each character, with the characters from number 128 on. -/
def singleByte (name : String) (upper : List Char) : Encoding where
  name := name
  piece b _ :=
    if b.toNat < 128 then .char (Char.ofNat b.toNat) 1
    else match upper[b.toNat - 128]? with
      | some c => if c = '\uFFFD' then .bad 1 .undefined else .char c 1
      | none => .bad 1 .undefined
  surrogate? _ := none

def ascii : Encoding := singleByte "ascii" []

def latin1 : Encoding := singleByte "latin-1" ((List.range 128).map fun n => Char.ofNat (128 + n))

inductive Charset
  | plain (e : Encoding)
  /-- UTF-8 after a mark, which may be missing. -/
  | utf8Marked
  /-- Units of `width` bytes after a mark that tells their order. -/
  | marked (width : Nat) (e : ByteOrder → Encoding)

namespace Charset

/-- A name in small letters, with one underscore for all that stands between its words. A point
belongs to a word. -/
def normalized (name : String) : String :=
  let step (acc : List Char × Bool) (c : Char) : List Char × Bool :=
    if c.isAlphanum || c = '.' then
      let gap := if acc.2 && !acc.1.isEmpty then ['_'] else []
      (acc.1 ++ gap ++ [c.toLower], false)
    else (acc.1, true)
  String.ofList (name.toList.foldl step ([], false)).1

/-- The encodings that are not code pages, with their other names. -/
def universal : List (String × List String × Charset) := [
  ("utf_8", ["cp65001", "u8", "utf", "utf8", "utf8_ucs2", "utf8_ucs4"], plain utf8),
  ("utf_8_sig", [], utf8Marked),
  ("utf_16", ["u16", "utf16"], marked 2 utf16),
  ("utf_16_be", ["unicodebigunmarked", "utf_16be"], plain (utf16 .big)),
  ("utf_16_le", ["unicodelittleunmarked", "utf_16le"], plain (utf16 .little)),
  ("utf_32", ["u32", "utf32"], marked 4 utf32),
  ("utf_32_be", ["utf_32be"], plain (utf32 .big)),
  ("utf_32_le", ["utf_32le"], plain (utf32 .little)),
  ("ascii",
    ["646", "ansi_x3.4_1968", "ansi_x3.4_1986", "ansi_x3_4_1968", "cp367", "csascii", "ibm367",
     "iso646_us", "iso_646.irv_1991", "iso_ir_6", "us", "us_ascii"],
    plain ascii),
  ("latin_1",
    ["8859", "cp819", "csisolatin1", "ibm819", "iso8859", "iso8859_1", "iso_8859_1",
     "iso_8859_1_1987", "iso_ir_100", "l1", "latin", "latin1"],
    plain latin1)]

/-- Whether a normalized name is one of an encoding's. In its other names a point may stand for
an underscore. -/
def isCalled (wanted name : String) (aliases : List String) : Bool :=
  wanted == name || aliases.contains wanted
    || aliases.contains (String.ofList (wanted.toList.map fun c => if c = '.' then '_' else c))

def ofName? (name : String) : Option Charset :=
  let wanted := normalized name
  match universal.find? fun (name, aliases, _) => isCalled wanted name aliases with
  | some (_, _, charset) => some charset
  | none =>
    (codePages.find? fun page => isCalled wanted page.name page.aliases).map fun page =>
      plain (singleByte page.name page.upper.toList)

def markNumber : Nat := 0xfeff

/-- The text in bytes, if the charset needs no mark or there is one. Bytes that are too few for a
mark need none. -/
def decode? (charset : Charset) (bytes : List UInt8) : Option (List Char) :=
  match charset with
  | plain e => some (e.decodeLenient 0 bytes)
  | utf8Marked =>
    let mark : List UInt8 := [0xef, 0xbb, 0xbf]
    if mark.isPrefixOf bytes then some (utf8.decodeLenient 0 (bytes.drop mark.length))
    else if bytes.isPrefixOf mark then some []
    else some (utf8.decodeLenient 0 bytes)
  | marked width e =>
    if bytes.length < width then some ((e .little).decodeLenient 0 bytes)
    else
      let order? := [ByteOrder.little, .big].find? fun order =>
        order.read? width bytes == some markNumber
      order?.map fun order => (e order).decodeLenient 0 (bytes.drop width)

end Charset
end PagedQuery.Text

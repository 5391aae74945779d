import StickyRouting.Json.Token
import StickyRouting.Store.File

/-!
Tables as files. A file has a line for each record, with the bytes of its key and of the record in
hexadecimal digits, under a first line that tells what the file is.
-/

set_option autoImplicit false

namespace StickyRouting.Store.FileFormat

def title : List Char := "sticky routing table".toList

def writeByte (byte : UInt8) : List Char := Text.Numeral.hex 2 byte.toNat

def writeBytes (bytes : List UInt8) : List Char := bytes.flatMap writeByte

def readBytes : List Char → Option (List UInt8)
  | [] => some []
  | a :: b :: rest => do
    let a ← Text.Numeral.hexDigit? a
    let b ← Text.Numeral.hexDigit? b
    (readBytes rest).map (UInt8.ofNat (16 * a + b) :: ·)
  | [_] => none

def writeRow (row : String × List UInt8) : List Char :=
  writeBytes (Text.Utf8.encode row.1.toList) ++ ' ' :: writeBytes row.2 ++ ['\n']

def readRow (line : List Char) : Option (String × List UInt8) :=
  match line.splitOn ' ' with
  | [key, record] => do some (← Text.Utf8.text? (← readBytes key), ← readBytes record)
  | _ => none

def write (table : Table) : List UInt8 :=
  Text.Utf8.encode (title ++ '\n' :: table.entries.flatMap writeRow)

def read (content : List UInt8) : File :=
  let rows : Option (List (String × List UInt8)) := do
    let chars ← Text.Utf8.allChars? (Text.Utf8.decode content)
    match chars.splitOn '\n' with
    | first :: lines => if first = title then (lines.filter (· != [])).mapM readRow else none
    | [] => none
  match rows with
  | some rows => .table (KeyMap.ofList rows)
  | none => .bytes content

end StickyRouting.Store.FileFormat

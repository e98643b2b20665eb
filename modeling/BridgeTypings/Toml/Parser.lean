import BridgeTypings.Text.Parser
import BridgeTypings.Toml.Document

namespace BridgeTypings.Toml

abbrev Parser (α : Type) : Type :=
  Text.Parser Empty α

namespace Parser

open Text.Parser

def isBlank (c : Char) : Bool :=
  c == ' ' || c == '\t'

def isPlain (c : Char) : Bool :=
  c == '\t' || (32 ≤ c.toNat && c.toNat != 127)

def isHexDigit (c : Char) : Bool :=
  c.isDigit || ('a' ≤ c && c ≤ 'f') || ('A' ≤ c && c ≤ 'F')

def blanks : Parser Unit := do
  let _ ← takeWhile isBlank

def newline : Parser Unit :=
  exact "\n" <|> exact "\r\n"

def comment : Parser Unit := do
  exact "#"
  let _ ← takeWhile isPlain

def lineEnd : Parser Unit := do
  blanks
  let _ ← maybe comment
  newline <|> atEnd

def digitsValue (base : Nat) (digits : List Char) : Nat :=
  digits.foldl (fun n c => n * base + digit c) 0
where
  digit (c : Char) : Nat :=
    if c.isDigit then c.toNat - '0'.toNat else c.toLower.toNat - 'a'.toNat + 10

def exactly (test : Char → Bool) : Nat → Parser (List Char)
  | 0 => return []
  | count + 1 => do
      let c ← one test
      return c :: (← exactly test count)

def codeEscape (count : Nat) : Parser Char := do
  let n := digitsValue 16 (← exactly isHexDigit count)
  require (n < 0xD800 || (0xE000 ≤ n && n < 0x110000))
  return Char.ofNat n

def simpleEscape? : Char → Option Char
  | 'b' => some (Char.ofNat 8)
  | 't' => some '\t'
  | 'n' => some '\n'
  | 'f' => some (Char.ofNat 12)
  | 'r' => some '\r'
  | '"' => some '"'
  | '\\' => some '\\'
  | _ => none

def escape : Parser Char := do
  exact "\\"
  let c ← one (fun _ => true)
  if c = 'u' then codeEscape 4
  else if c = 'U' then codeEscape 8
  else ofOption (simpleEscape? c)

def basicChar : Parser Char :=
  one (fun c => isPlain c && c != '"' && c != '\\')

def literalChar : Parser Char :=
  one (fun c => isPlain c && c != '\'')

def basicString : Parser String := do
  exact "\""
  let cs ← many (basicChar <|> escape)
  exact "\""
  return String.ofList cs

def literalString : Parser String := do
  exact "'"
  let cs ← many literalChar
  exact "'"
  return String.ofList cs

def continuation : Parser (List Char) := do
  exact "\\"
  blanks
  newline
  let _ ← many ((do let _ ← one isBlank) <|> newline)
  return []

def innerQuotes (quote : Char) : Parser (List Char) := do
  let qs ← takeWhile (· == quote)
  require (0 < qs.length && qs.length < 3)
  return qs

def closingQuotes (quote : Char) : Parser (List Char) := do
  let qs ← takeWhile (· == quote)
  require (3 ≤ qs.length && qs.length ≤ 5)
  return qs.drop 3

def multiline (quote : Char) (piece : Parser (List Char)) : Parser String := do
  exact (String.ofList [quote, quote, quote])
  let _ ← maybe newline
  let pieces ← many (piece <|> (do newline; return ['\n']) <|> innerQuotes quote)
  let last ← closingQuotes quote
  return String.ofList (pieces.flatten ++ last)

def multilineBasic : Parser String :=
  multiline '"' ((do return [← basicChar]) <|> continuation <|> (do return [← escape]))

def multilineLiteral : Parser String :=
  multiline '\'' (do return [← literalChar])

def string : Parser String :=
  multilineBasic <|> multilineLiteral <|> basicString <|> literalString

def isBareKeyChar (c : Char) : Bool :=
  c.isAlphanum || c == '_' || c == '-'

def simpleKey : Parser String :=
  basicString
    <|> literalString
    <|> (do return String.ofList (← many1 (one isBareKeyChar)))

def depthLimit : Nat := 79

def key : Parser (List String × String) := do
  let parts ← separated1 (do blanks; let k ← simpleKey; blanks; return k) (exact ".")
  require (parts.length ≤ depthLimit)
  return (parts.dropLast, parts.getLast?.getD "")

def digits (test : Char → Bool) : Parser (List Char) := do
  let first ← one test
  let rest ← many (one test <|> (do exact "_"; one test))
  return first :: rest

def sign : Parser Bool :=
  (do exact "-"; return true) <|> (do exact "+"; return false) <|> return false

def wholeDigits : Parser (List Char) := do
  let ds ← digits Char.isDigit
  require (ds.length = 1 || ds.head? != some '0')
  return ds

def radix (mark : String) (base : Nat) (test : Char → Bool) : Parser Int := do
  exact mark
  return (digitsValue base (← digits test) : Int)

def integer : Parser Int := do
  let n ← radix "0x" 16 isHexDigit
    <|> radix "0o" 8 (fun c => '0' ≤ c && c ≤ '7')
    <|> radix "0b" 2 (fun c => c == '0' || c == '1')
    <|> (do
      let negative ← sign
      let n := (digitsValue 10 (← wholeDigits) : Int)
      return if negative then -n else n)
  require (-Int.pow 2 63 ≤ n && n < Int.pow 2 63)
  return n

def exponent : Parser Int := do
  let _ ← one (fun c => c == 'e' || c == 'E')
  let negative ← sign
  let n := (digitsValue 10 (← digits Char.isDigit) : Int)
  return if negative then -n else n

def decimal : Parser Number.Decimal := do
  let negative ← sign
  let whole ← wholeDigits
  let fraction ← maybe (do exact "."; digits Char.isDigit)
  let power ← maybe exponent
  require (fraction.isSome || power.isSome)
  let part := fraction.getD []
  let d : Number.Decimal :=
    ⟨negative, digitsValue 10 (whole ++ part), power.getD 0 - part.length⟩
  require (negative || d.nearest != .infinite)
  return d

def float : Parser Float :=
  (do return .decimal (← decimal))
    <|> (do
      let negative ← sign
      (do exact "inf"; return .infinity negative) <|> (do exact "nan"; return .nan))

def field (count low high : Nat) : Parser Nat := do
  let n := digitsValue 10 (← exactly Char.isDigit count)
  require (low ≤ n && n ≤ high)
  return n

def padded (width n : Nat) : String :=
  let ds := Nat.toDigits 10 n
  String.ofList (List.replicate (width - ds.length) '0' ++ ds)

def daysInMonth (year month : Nat) : Nat :=
  if month = 2 then
    if year % 4 = 0 && (year % 100 != 0 || year % 400 = 0) then 29 else 28
  else if month = 4 || month = 6 || month = 9 || month = 11 then 30
  else 31

def date : Parser String := do
  let year ← field 4 0 9999
  exact "-"
  let month ← field 2 1 12
  exact "-"
  let day ← field 2 1 31
  require (day ≤ daysInMonth year month)
  return padded 4 year ++ "-" ++ padded 2 month ++ "-" ++ padded 2 day

def secondFraction : Parser String := do
  exact "."
  let ds ← many1 (one Char.isDigit)
  let shown := ((ds.take 9).reverse.dropWhile (· == '0')).reverse
  return if shown.isEmpty then "" else "." ++ String.ofList shown

def time : Parser String := do
  let hour ← field 2 0 23
  exact ":"
  let minute ← field 2 0 59
  exact ":"
  let second ← field 2 0 60
  let fraction ← maybe secondFraction
  return padded 2 hour ++ ":" ++ padded 2 minute ++ ":" ++ padded 2 second ++ fraction.getD ""

def offset : Parser String :=
  (do
    let _ ← one (fun c => c == 'Z' || c == 'z')
    return "Z")
    <|> (do
      let c ← one (fun c => c == '+' || c == '-')
      let hour ← field 2 0 23
      exact ":"
      let minute ← field 2 0 59
      let mark := if c = '-' && (hour != 0 || minute != 0) then "-" else "+"
      return mark ++ padded 2 hour ++ ":" ++ padded 2 minute)

def datetime : Parser String :=
  (do
    let day ← date
    let rest ← maybe (do
      let _ ← one (fun c => c == 'T' || c == 't' || c == ' ')
      let t ← time
      return "T" ++ t ++ (← maybe offset).getD "")
    return day ++ rest.getD "")
    <|> time

def spacing : Parser Unit := do
  let _ ← many ((do let _ ← one isBlank) <|> newline <|> comment)

def arrayOf (item : Parser Value) : Parser Value := do
  exact "["
  let items ← maybe (do
    let items ← separated1 (do spacing; let v ← item; spacing; return v) (exact ",")
    let _ ← maybe (exact ",")
    return items)
  spacing
  exact "]"
  return .array (items.getD [])

def addPairs : List ((List String × String) × Value) → Entries → Option Entries
  | [], entries => some entries
  | ((path, k), v) :: rest, entries => do
      addPairs rest (← addValue path k v ⟨.header, entries⟩)

def inlineTable (item : Parser Value) : Parser Value := do
  exact "\x7b"
  let pairs ← maybe (separated1
    (do
      let k ← key
      exact "="
      blanks
      let v ← item
      blanks
      return (k, v))
    (exact ","))
  blanks
  exact "\x7d"
  return .table (Node.entriesToValues (← ofOption (addPairs (pairs.getD []) [])))

def scalar : Parser Value :=
  (do return .string (← string))
    <|> (do return .datetime (← datetime))
    <|> (do return .float (← float))
    <|> (do return .integer (← integer))
    <|> (do exact "true"; return .boolean true)
    <|> (do exact "false"; return .boolean false)

def value : Nat → Parser Value
  | 0 => scalar
  | depth + 1 => scalar <|> arrayOf (value depth) <|> inlineTable (value depth)

def arrayHeader (d : Document) : Parser Document := do
  exact "[["
  let (path, k) ← key
  exact "]]"
  lineEnd
  ofOption (d.openArray path k)

def tableHeader (d : Document) : Parser Document := do
  exact "["
  let (path, k) ← key
  exact "]"
  lineEnd
  ofOption (d.openTable path k)

def keyValue (d : Document) : Parser Document := do
  let (path, k) ← key
  exact "="
  blanks
  let v ← value depthLimit
  lineEnd
  ofOption (d.add path k v)

def emptyLine (d : Document) : Parser Document := do
  newline <|> (do comment; newline <|> atEnd)
  return d

def line (d : Document) : Parser Document := do
  let d ← emptyLine d <|> arrayHeader d <|> tableHeader d <|> keyValue d
  blanks
  return d

def document : Parser Document := do
  blanks
  extended line Document.empty

end Parser

def parse (text : String) : Option Table :=
  let cs := text.toList
  let text := if cs.head? = some (Char.ofNat 0xFEFF) then String.ofList cs.tail else text
  (Parser.document.run? text).bind (fun p => p.value.toTable)

end BridgeTypings.Toml

import BridgeTypings.Text.Utf16

namespace BridgeTypings.Java.StringLiteral

def octalDigit? (c : Char) : Option Nat :=
  if '0' ≤ c && c ≤ '7' then some (c.toNat - '0'.toNat) else none

def hexDigit? (c : Char) : Option Nat :=
  if '0' ≤ c && c ≤ '9' then some (c.toNat - '0'.toNat)
  else if 'a' ≤ c && c ≤ 'f' then some (c.toNat - 'a'.toNat + 10)
  else if 'A' ≤ c && c ≤ 'F' then some (c.toNat - 'A'.toNat + 10)
  else none

def simpleEscape? : Char → Option Nat
  | 'b' => some 8
  | 't' => some 9
  | 'n' => some 10
  | 'f' => some 12
  | 'r' => some 13
  | 's' => some 32
  | '"' => some 34
  | '\'' => some 39
  | '\\' => some 92
  | _ => none

inductive Scan where
  | plain
  | escape
  | marks
  | hex (value digits : Nat)
  | octal (value digits : Nat)
deriving DecidableEq, Repr

def plainStep (c : Char) : Option (List Nat × Scan) :=
  if c = '"' || c = '\n' || c = '\r' then none
  else if c = '\\' then some ([], .escape)
  else some (Text.Utf16.units c, .plain)

def step : Scan → Char → Option (List Nat × Scan)
  | .plain, c => plainStep c
  | .escape, c =>
      if c = 'u' then some ([], .marks)
      else
        match simpleEscape? c, octalDigit? c with
        | some u, _ => some ([u], .plain)
        | none, some d => some ([], .octal d (if c ≤ '3' then 2 else 1))
        | none, none => none
  | .marks, c =>
      if c = 'u' then some ([], .marks)
      else (hexDigit? c).map (fun d => ([], .hex d 3))
  | .hex value digits, c =>
      (hexDigit? c).map (fun d =>
        if digits ≤ 1 then ([value * 16 + d], .plain) else ([], .hex (value * 16 + d) (digits - 1)))
  | .octal value digits, c =>
      match octalDigit? c with
      | some d =>
          if digits ≤ 1 then some ([value * 8 + d], .plain)
          else some ([], .octal (value * 8 + d) (digits - 1))
      | none => (plainStep c).map (fun r => (value :: r.1, r.2))

def finish : Scan → Option (List Nat)
  | .plain => some []
  | .octal value _ => some [value]
  | _ => none

def scan : Scan → List Char → Option (List Nat)
  | s, [] => finish s
  | s, c :: cs =>
      match step s c with
      | none => none
      | some (us, next) => (scan next cs).map (us ++ ·)

def inside : List Char → Option (List Char)
  | '"' :: '"' :: '"' :: _ => none
  | '"' :: rest => if rest.getLast? = some '"' then some rest.dropLast else none
  | _ => none

def decode (literal : String) : Option String := do
  let text ← inside literal.toList
  let units ← scan .plain text
  let cs ← Text.Utf16.decode units
  return String.ofList cs

end BridgeTypings.Java.StringLiteral

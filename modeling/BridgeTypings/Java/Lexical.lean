import BridgeTypings.Text.IdentifierChar
import BridgeTypings.Text.Pattern

namespace BridgeTypings.Java

def isBlank (c : Char) : Bool :=
  c == ' ' || (9 ≤ c.toNat && c.toNat ≤ 13)

def isNameStart (c : Char) : Bool :=
  Text.isXidStart c || c == '_' || c == '$'

def isNameChar (c : Char) : Bool :=
  Text.isXidContinue c || c == '_' || c == '$' || c == '¢'

/--
Where a scan of a gap stands. Inside a block comment it remembers the text from the comment's
opening on, and whether the last character was an asterisk.
-/
inductive Gap where
  | between
  | line
  | block (opening : List Char) (starred : Bool)

/--
The text behind a gap. A line comment ends at a line feed. A block comment that is never closed is
no comment, so the scan stops before it.
-/
def Gap.skip : Gap → List Char → List Char
  | .between, [] => []
  | .between, '/' :: '/' :: cs => skip .line cs
  | .between, '/' :: '*' :: cs => skip (.block ('/' :: '*' :: cs) false) cs
  | .between, c :: cs => if isBlank c then skip .between cs else c :: cs
  | .line, [] => []
  | .line, '\n' :: cs => skip .between cs
  | .line, _ :: cs => skip .line cs
  | .block opening _, [] => opening
  | .block opening starred, c :: cs =>
      if starred && c == '/' then skip .between cs else skip (.block opening (c == '*')) cs

def skipGap (cs : List Char) : List Char :=
  Gap.skip .between cs

inductive CommentScan where
  | between
  | line (text : List Char)
  | block (text : List Char) (starred : Bool)

def CommentScan.collect : CommentScan → List Char → List String
  | .between, [] => []
  | .between, '/' :: '/' :: cs => collect (.line ['/', '/']) cs
  | .between, '/' :: '*' :: cs => collect (.block ['*', '/'] false) cs
  | .between, _ :: cs => collect .between cs
  | .line text, [] => [String.ofList text.reverse]
  | .line text, '\n' :: cs => String.ofList text.reverse :: collect .between cs
  | .line text, c :: cs => collect (.line (c :: text)) cs
  | .block _ _, [] => []
  | .block text starred, c :: cs =>
      if starred && c == '/' then
        String.ofList (c :: text).reverse :: collect .between cs
      else collect (.block (c :: text) (c == '*')) cs

def commentsOf (gap : List Char) : List String :=
  CommentScan.collect .between gap

def word? : List Char → Option (String × List Char)
  | [] => none
  | c :: cs =>
      if isNameStart c then
        some (String.ofList (c :: cs.takeWhile isNameChar), cs.dropWhile isNameChar)
      else none

namespace Literal

open Text Pattern

def digit : Pattern :=
  .one Char.isDigit

def isHexDigit (c : Char) : Bool :=
  c.isDigit || ('a' ≤ c && c ≤ 'f') || ('A' ≤ c && c ≤ 'F')

def hexDigit : Pattern :=
  .one isHexDigit

def octalDigit : Pattern :=
  .one (fun c => '0' ≤ c && c ≤ '7')

def runs (d : Pattern) : Pattern :=
  separated (plus d) (char '_')

def decimal : Pattern :=
  .alt (char '0')
    (.seq (.one (fun c => '1' ≤ c && c ≤ '9'))
      (optional (.seq (optional (char '_')) (separated (plus digit) (plus (char '_'))))))

def longSuffix : Pattern :=
  optional (anyOf ['l', 'L'])

def floatSuffix : Pattern :=
  anyOf ['f', 'F', 'd', 'D']

def sign : Pattern :=
  optional (anyOf ['-', '+'])

def exponent : Pattern :=
  sequence [anyOf ['e', 'E'], sign, runs digit]

def hexMark : Pattern :=
  .seq (char '0') (anyOf ['x', 'X'])

def number : Pattern :=
  choice
    [.seq decimal longSuffix,
      sequence [hexMark, runs hexDigit, longSuffix],
      sequence [char '0', optional (anyOf ['o', 'O']), runs octalDigit, longSuffix],
      sequence [char '0', anyOf ['b', 'B'], runs (anyOf ['0', '1']), longSuffix],
      sequence [runs digit, char '.', optional (runs digit), optional exponent,
        optional floatSuffix],
      sequence [char '.', runs digit, optional exponent, optional floatSuffix],
      sequence [decimal, exponent, optional floatSuffix],
      sequence [decimal, optional exponent, floatSuffix],
      sequence [hexMark,
        .alt (.seq (runs hexDigit) (optional (char '.')))
          (sequence [optional (runs hexDigit), char '.', runs hexDigit]),
        optional (sequence [anyOf ['p', 'P'], sign, decimal, optional floatSuffix])]]

def character : Pattern :=
  sequence
    [char '\'',
      plus (.alt (.one (fun c => c != '\\' && c != '\'' && c != '\n'))
        (.seq (char '\\') (.one (fun _ => true)))),
      char '\'']

def escape : Pattern :=
  .seq (char '\\')
    (choice
      [.one (fun c => c != 'x' && c != 'u' && c != '\x7b' && !('0' ≤ c && c ≤ '7')),
        sequence [octalDigit, optional octalDigit, optional octalDigit],
        sequence [char 'x', hexDigit, hexDigit],
        sequence [char 'u', hexDigit, hexDigit, hexDigit, hexDigit],
        sequence [char 'u', char '\x7b', plus hexDigit, char '\x7d']])

end Literal

end BridgeTypings.Java

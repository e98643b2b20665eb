import BridgeTypings.Java.Lexical
import BridgeTypings.Java.Syntax
import BridgeTypings.Text.Parser

/-!
A parser for Java finds the classes and interfaces declared in what it reads. Every token may have a
gap before it and takes none behind it.
-/

namespace BridgeTypings.Java

abbrev Parser (α : Type) : Type :=
  Text.Parser TypeDeclaration α

namespace Parser

open Text.Parser

variable {α : Type}

def gap : Parser Unit :=
  fun cs => some ⟨(), [], skipGap cs⟩

def comments : Parser (List String) := do
  let (_, text) ← withText gap
  return commentsOf text.toList

def spelled (p : Parser α) : Parser (α × String) := do
  gap
  withText p

def symbol (text : String) : Parser Unit := do
  gap
  exact text

def symbolBefore (text : String) (stops : List Char) : Parser Unit := do
  symbol text
  require (!(← ahead (one stops.contains)))

def token (p : Text.Pattern) : Parser Unit := do
  gap
  pattern p

def word : Parser String :=
  fun cs => (word? (skipGap cs)).map (fun w => ⟨w.1, [], w.2⟩)

def keyword (text : String) : Parser Unit := do
  let w ← word
  require (w == text)

def keywordOf (texts : List String) : Parser String := do
  let w ← word
  require (texts.contains w)
  return w

def name (keywords : List String) : Parser String := do
  let w ← word
  require (!keywords.contains w)
  return w

def commaSeparated (p : Parser α) : Parser (List α) :=
  separated1 p (symbol ",")

def commaTerminated (p : Parser α) : Parser (List α) := do
  let items ← maybe (commaSeparated p)
  let _ ← maybe (symbol ",")
  return items.getD []

end Parser

end BridgeTypings.Java

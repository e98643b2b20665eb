import BridgeTypings.Text.Pattern

namespace BridgeTypings.Text

structure Parsed (ι α : Type) where
  value : α
  found : List ι
  rest : List Char

def Parser (ι α : Type) : Type :=
  List Char → Option (Parsed ι α)

namespace Parser

variable {ι α β : Type}

protected def pure (a : α) : Parser ι α :=
  fun cs => some ⟨a, [], cs⟩

protected def bind (p : Parser ι α) (f : α → Parser ι β) : Parser ι β :=
  fun cs =>
    match p cs with
    | none => none
    | some a =>
        match f a.value a.rest with
        | none => none
        | some b => some ⟨b.value, a.found ++ b.found, b.rest⟩

def fail : Parser ι α :=
  fun _ => none

protected def orElse (p : Parser ι α) (q : Unit → Parser ι α) : Parser ι α :=
  fun cs =>
    match p cs with
    | some a => some a
    | none => q () cs

instance : Monad (Parser ι) where
  pure := Parser.pure
  bind := Parser.bind

instance : OrElse (Parser ι α) := ⟨Parser.orElse⟩

def require (b : Bool) : Parser ι Unit :=
  if b then return () else fail

def ofOption : Option α → Parser ι α
  | none => fail
  | some a => return a

def maybe (p : Parser ι α) : Parser ι (Option α) :=
  (do return some (← p)) <|> return none

def ahead (p : Parser ι α) : Parser ι Bool :=
  fun cs => some ⟨(p cs).isSome, [], cs⟩

def repeated (p : Parser ι α) : Nat → Parser ι (List α)
  | 0 => return []
  | limit + 1 =>
      (do
        let a ← p
        let rest ← repeated p limit
        return a :: rest) <|> return []

def many (p : Parser ι α) : Parser ι (List α) :=
  fun cs => repeated p cs.length cs

def many1 (p : Parser ι α) : Parser ι (List α) := do
  let a ← p
  let rest ← many p
  return a :: rest

def separated1 (p : Parser ι α) (separator : Parser ι Unit) : Parser ι (List α) := do
  let a ← p
  let rest ← many (do separator; p)
  return a :: rest

def iterated (step : α → Parser ι α) : Nat → α → Parser ι α
  | 0, a => return a
  | limit + 1, a => (do iterated step limit (← step a)) <|> return a

def extended (step : α → Parser ι α) (a : α) : Parser ι α :=
  fun cs => iterated step cs.length a cs

def capture (p : Parser ι α) : Parser ι (α × List ι) :=
  fun cs =>
    match p cs with
    | none => none
    | some a => some ⟨(a.value, a.found), [], a.rest⟩

def report (items : List ι) : Parser ι Unit :=
  fun cs => some ⟨(), items, cs⟩

def stripFront : List Char → List Char → Option (List Char)
  | [], cs => some cs
  | _ :: _, [] => none
  | x :: xs, c :: cs => if x = c then stripFront xs cs else none

def exact (text : String) : Parser ι Unit :=
  fun cs => (stripFront text.toList cs).map (fun rest => ⟨(), [], rest⟩)

def one (test : Char → Bool) : Parser ι Char
  | [] => none
  | c :: cs => if test c then some ⟨c, [], cs⟩ else none

def takeWhile (test : Char → Bool) : Parser ι (List Char) :=
  fun cs => some ⟨cs.takeWhile test, [], cs.dropWhile test⟩

def pattern (p : Pattern) : Parser ι Unit :=
  fun cs => (p.longest cs).map (fun rest => ⟨(), [], rest⟩)

def withText (p : Parser ι α) : Parser ι (α × String) :=
  fun cs =>
    match p cs with
    | none => none
    | some a =>
        some ⟨(a.value, String.ofList (cs.take (cs.length - a.rest.length))), a.found, a.rest⟩

def atEnd : Parser ι Unit
  | [] => some ⟨(), [], []⟩
  | _ :: _ => none

def run? (p : Parser ι α) (text : String) : Option (Parsed ι α) :=
  (do let a ← p; atEnd; return a : Parser ι α) text.toList

end Parser

end BridgeTypings.Text

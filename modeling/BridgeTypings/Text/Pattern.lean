namespace BridgeTypings.Text

inductive Pattern where
  | never
  | empty
  | one (test : Char → Bool)
  | seq (p q : Pattern)
  | alt (p q : Pattern)
  | star (p : Pattern)

namespace Pattern

def nullable : Pattern → Bool
  | .never => false
  | .empty => true
  | .one _ => false
  | .seq p q => p.nullable && q.nullable
  | .alt p q => p.nullable || q.nullable
  | .star _ => true

def followedBy : Pattern → Pattern → Pattern
  | .never, _ => .never
  | .empty, q => q
  | p, q => .seq p q

def orElse : Pattern → Pattern → Pattern
  | .never, q => q
  | p, .never => p
  | p, q => .alt p q

def derivative (c : Char) : Pattern → Pattern
  | .never => .never
  | .empty => .never
  | .one f => if f c then .empty else .never
  | .seq p q =>
      let first := (p.derivative c).followedBy q
      if p.nullable then first.orElse (q.derivative c) else first
  | .alt p q => (p.derivative c).orElse (q.derivative c)
  | .star p => (p.derivative c).followedBy (.star p)

def longest : Pattern → List Char → Option (List Char)
  | p, [] => if p.nullable then some [] else none
  | p, c :: cs =>
      match p.derivative c with
      | .never => if p.nullable then some (c :: cs) else none
      | d =>
          match d.longest cs with
          | some rest => some rest
          | none => if p.nullable then some (c :: cs) else none

def char (c : Char) : Pattern :=
  .one (· == c)

def anyOf (cs : List Char) : Pattern :=
  .one cs.contains

def sequence : List Pattern → Pattern
  | [] => .empty
  | [p] => p
  | p :: ps => .seq p (sequence ps)

def choice : List Pattern → Pattern
  | [] => .never
  | [p] => p
  | p :: ps => .alt p (choice ps)

def optional (p : Pattern) : Pattern :=
  .alt .empty p

def plus (p : Pattern) : Pattern :=
  .seq p (.star p)

def separated (p separator : Pattern) : Pattern :=
  .seq p (.star (.seq separator p))

end Pattern

end BridgeTypings.Text

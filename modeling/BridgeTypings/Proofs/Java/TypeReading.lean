import BridgeTypings.Proofs.Java.Meaning
import BridgeTypings.Proofs.Java.Parsing.Sources
import BridgeTypings.Proofs.Java.Reading.Written

namespace BridgeTypings.Java

structure IsTypeAt (keywords : List String) (cs : List Char) (t : TypeSyntax) (rest : List Char) :
    Prop where
  written : ∃ depth, TypeAt (NestedTypeAt depth) keywords cs t rest
  stops : Stops rest

theorem read_congr {t t' : TypeSyntax} (h : t.Proper) (h' : t'.Proper) (hbare : t.bare = t'.bare) :
    t.read = t'.read := by
  have hmeaning (e : TypeExpr) : t.read = .ok e ↔ t'.read = .ok e := by
    rw [read_iff_meaning h, read_iff_meaning h', hbare]
  cases hread : t.read with
  | ok e => exact ((hmeaning e).1 hread).symm
  | error e =>
      obtain ⟨-, rfl⟩ := (failsIff_read t).error_iff.1 hread
      cases hread' : t'.read with
      | ok e' =>
          rw [(hmeaning e').2 hread'] at hread
          cases hread
      | error e' =>
          obtain ⟨-, rfl⟩ := (failsIff_read t').error_iff.1 hread'
          rfl

theorem IsTypeAt.gets {keywords : List String} {cs rest : List Char} {t : TypeSyntax}
    (h : IsTypeAt keywords cs t rest) {n : Nat} (hn : 2 * cs.length ≤ n) :
    Text.Parser.Gets (Parser.type (Nested.levels n) keywords) cs t rest := by
  obtain ⟨depth, hwritten⟩ := h.written
  exact Parser.gets_type (areRead_nested depth) hwritten hn h.stops

theorem IsTypeAt.proper {keywords : List String} {cs rest : List Char} {t : TypeSyntax}
    (h : IsTypeAt keywords cs t rest) : t.Proper := by
  obtain ⟨found, hfound⟩ := h.gets (Nat.le_refl _)
  exact (Parser.yields_type keywords).value hfound

theorem type_read_as_meant :
    (∀ t : TypeSyntax, t.Proper → ∀ e, t.read = .ok e ↔ Meaning t.bare e) ∧
      ∀ keywords keywords' cs cs' t t' rest rest', IsTypeAt keywords cs t rest →
        IsTypeAt keywords' cs' t' rest' → t.bare = t'.bare →
        t.Proper ∧ t.read = t'.read ∧ ∀ n, 2 * cs.length ≤ n →
          (∃ found, Parser.type (Nested.levels n) keywords cs = some ⟨t, found, rest⟩) ∧
            ∀ depth, BareTypeAt (NestedTypeAt depth) keywords cs t rest →
              ∃ found, Parser.bareType (Nested.levels n) keywords cs = some ⟨t, found, rest⟩ := by
  refine ⟨fun t ht => read_iff_meaning ht, ?_⟩
  intro keywords keywords' cs cs' t t' rest rest' h h' hbare
  refine ⟨h.proper, read_congr h.proper h'.proper hbare, fun n hn => ⟨h.gets hn, ?_⟩⟩
  intro depth hwritten
  exact Parser.gets_bareType (areRead_nested depth) hwritten hn h.stops

theorem symbolAt_here (text : String) (rest : List Char) :
    SymbolAt text (text.toList ++ rest) rest :=
  ⟨[], .nil, rfl⟩

theorem symbolAt_blank (text : String) (rest : List Char) :
    SymbolAt text (' ' :: (text.toList ++ rest)) rest :=
  ⟨[' '], .blank (by decide) .nil, rfl⟩

theorem closed_of_any {rest : List Char} (h : rest.head?.any isNameChar = false) :
    ∀ c ∈ rest.head?, isNameChar c = false := by
  intro c hc
  rw [Option.mem_def.1 hc] at h
  exact h

theorem wordAt_here {w : String} {rest : List Char} (hw : isIdentifier w = true)
    (hrest : rest.head?.any isNameChar = false) : WordAt w (w.toList ++ rest) rest :=
  ⟨hw, symbolAt_here w rest, closed_of_any hrest⟩

theorem wordAt_blank {w : String} {rest : List Char} (hw : isIdentifier w = true)
    (hrest : rest.head?.any isNameChar = false) : WordAt w (' ' :: (w.toList ++ rest)) rest :=
  ⟨hw, symbolAt_blank w rest, closed_of_any hrest⟩

theorem nameAt_here {w : String} {rest : List Char} (hw : isIdentifier w = true)
    (hrest : rest.head?.any isNameChar = false) (hdot : front rest ≠ some '.') :
    NameAt w (w.toList ++ rest) rest :=
  ⟨⟨w, [], .single hw⟩, symbolAt_here w rest, closed_of_any hrest, hdot⟩

theorem argumentsAt_empty (rest : List Char) : ArgumentsAt ('(' :: ')' :: rest) rest := by
  refine ⟨⟨['(', ')'], rfl⟩, fun n _ => ⟨[], ?_⟩⟩
  rcases n with _ | _ | n <;> rfl

def plainLayout (rest : List Char) : List Char :=
  "java".toList ++ (".".toList ++ ("List".toList ++ ("<".toList ++ ("?".toList ++ (' ' ::
    ("super".toList ++ (' ' :: ("int".toList ++ ("[".toList ++ ("]".toList ++ (">".toList ++
      ("[".toList ++ ("]".toList ++ rest)))))))))))))

def plainList : TypeSyntax :=
  .array (.dotted (.mk [] "java" none) [.mk [] "List" (some
    [.wildcard [] (some (.array (.primitive "int") [⟨[], none⟩]))])]) [⟨[], none⟩]

theorem plainLayout_written : IsTypeAt [] (plainLayout [' ', 'x']) plainList [' ', 'x'] where
  written := by
    refine ⟨1, .bare (.array (.dotted (wordAt_here ?_ ?_) ?_ .none
      (.cons (symbolAt_here "." _) .nil (wordAt_here ?_ ?_)
        (.arguments (symbolAt_here "<" _) ?argument .nil (symbolAt_here ">" _)) .nil))
      (.cons .nil (symbolAt_here "[" _) (symbolAt_here "]" _) .nil))⟩
    case argument =>
      refine .bounded .nil (symbolAt_here "?" _) (wordAt_blank ?_ ?_) ?_
        (.bare (.array (.primitive (wordAt_blank ?_ ?_) ?_)
          (.cons .nil (symbolAt_here "[" _) (symbolAt_here "]" _) .nil))) <;> decide +kernel
    all_goals decide +kernel
  stops := stops_of_front (c := 'x') rfl (by decide)

def annotatedLayout (rest : List Char) : List Char :=
  "java".toList ++ (['/', '*', '*', '/'] ++ (".".toList ++ (' ' :: ("@".toList ++ ("A".toList ++
    (' ' :: ("List".toList ++ ("<".toList ++ ("@".toList ++ ("B".toList ++ ('(' :: ')' ::
      ("?".toList ++ (' ' :: ("super".toList ++ (' ' :: ("int".toList ++ (' ' :: ("@".toList ++
        ("C".toList ++ (' ' :: ("[".toList ++ ("]".toList ++ (">".toList ++ ("[".toList ++
          (['/', '/', '\n'] ++ ("]".toList ++ rest))))))))))))))))))))))))))

def annotatedList : TypeSyntax :=
  .array (.dotted (.mk [] "java" none) [.mk ["A"] "List" (some
    [.wildcard ["B"] (some (.array (.primitive "int") [⟨["C"], none⟩]))])]) [⟨[], none⟩]

theorem annotatedLayout_written :
    IsTypeAt [] (annotatedLayout [' ', 'x']) annotatedList [' ', 'x'] where
  written := by
    have hcomment : IsGap ['/', '*', '*', '/'] := .block isCommentBody_nil .nil
    have hline : IsGap ['/', '/', '\n'] := .line List.not_mem_nil .nil
    refine ⟨1, .bare (.array (.dotted (wordAt_here ?_ ?_) ?_ .none
      (.cons ⟨_, hcomment, rfl⟩
        (.cons (.marker (symbolAt_blank "@" _) (nameAt_here ?_ ?_ ?_) ?_) .nil) (wordAt_blank ?_ ?_)
        (.arguments (symbolAt_here "<" _) ?argument .nil (symbolAt_here ">" _)) .nil))
      (.cons .nil (symbolAt_here "[" _) ⟨_, hline, rfl⟩ .nil))⟩
    case argument =>
      refine .bounded
        (.cons (.applied (symbolAt_here "@" _) (nameAt_here ?_ ?_ ?_) (argumentsAt_empty _)) .nil)
        (symbolAt_here "?" _) (wordAt_blank ?_ ?_) ?_
        (.bare (.array (.primitive (wordAt_blank ?_ ?_) ?_)
          (.cons (.cons (.marker (symbolAt_blank "@" _) (nameAt_here ?_ ?_ ?_) ?_) .nil)
            (symbolAt_blank "[" _) (symbolAt_here "]" _) .nil))) <;> decide +kernel
    all_goals decide +kernel
  stops := stops_of_front (c := 'x') rfl (by decide)

theorem type_read_as_meant_annotated :
    annotatedList.read =
        .ok (.named "List" (some [.primitive "int" [.unsized]]) none [.unsized]) ∧
      Meaning annotatedList.bare
        (.named "List" (some [.primitive "int" [.unsized]]) none [.unsized]) ∧
      annotatedList.read = plainList.read ∧ ∃ found,
        Parser.type (Nested.levels 100) [] (annotatedLayout [' ', 'x']) =
          some ⟨annotatedList, found, [' ', 'x']⟩ := by
  obtain ⟨hmeaning, hlayouts⟩ := type_read_as_meant
  obtain ⟨hproper, hsame, hread⟩ := hlayouts [] [] _ _ _ _ _ _ annotatedLayout_written
    plainLayout_written rfl
  have hok : annotatedList.read =
      .ok (.named "List" (some [.primitive "int" [.unsized]]) none [.unsized]) := rfl
  exact ⟨hok, (hmeaning _ hproper _).1 hok, hsame, (hread 100 (by decide +kernel)).1⟩

end BridgeTypings.Java

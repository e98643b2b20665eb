import BridgeTypings.Proofs.Java.StringLiteral.Decoding
import BridgeTypings.Proofs.Java.StringLiteral.Elements

namespace BridgeTypings.Java.StringLiteral

open Text

/--
A text that is one literal of the value, the symbols that it is translated to, and those of them
that delimit it or make up its escapes.
-/
inductive Denotes (raw value : String) : List Symbol → List Symbol → Prop
  | intro {opening closing : Symbol} {body parts : List Symbol} :
      Translates false raw.toList (opening :: (body ++ [closing])) →
      opening.Stands '"' → closing.Stands '"' →
      Elements Symbol.Stands body (value.toList.flatMap Utf16.units) parts →
      Denotes raw value (opening :: (body ++ [closing])) (opening :: (parts ++ [closing]))

theorem decode_eq_some_iff {raw value : String} :
    decode raw = some value ↔ ∃ text us, inside raw.toList = some text ∧ scan .plain text = some us ∧
      Utf16.decode us = some value.toList := by
  constructor
  · intro h
    obtain ⟨text, htext, h⟩ := Option.bind_eq_some_iff.1 h
    obtain ⟨us, hus, h⟩ := Option.bind_eq_some_iff.1 h
    obtain ⟨cs, hcs, h⟩ := Option.bind_eq_some_iff.1 h
    cases h
    exact ⟨text, us, htext, hus, by rwa [String.toList_ofList]⟩
  · rintro ⟨text, us, htext, hus, hcs⟩
    simp [decode, htext, hus, hcs]

theorem not_hexDigit_quote (d : Nat) : ¬ IsDigit 16 '"' d := fun hd =>
  absurd (hexDigit?_eq_some_iff.2 hd) nofun

section

variable {raw value : String} {symbols parts : List Symbol}

theorem Denotes.decode_eq (h : Denotes raw value symbols parts)
    (hparts : ∀ s ∈ parts, s.IsWritten) : decode raw = some value := by
  obtain ⟨ht, hopening, hclosing, helements⟩ := h
  obtain ⟨hpopening, hparts⟩ := List.forall_mem_cons.1 hparts
  obtain ⟨hpbody, hpclosing⟩ := List.forall_mem_append.1 hparts
  obtain rfl := hopening.writes hpopening
  obtain rfl := hclosing.writes (hpclosing _ List.mem_cons_self)
  obtain ⟨behind, hraw, hbehind⟩ := ht.of_ne (by decide)
  obtain ⟨text, last, odd, rfl, htext, hlast⟩ := hbehind.split
  obtain ⟨rest, rfl, -, hrest⟩ := translates_written_iff.1 hlast
  obtain rfl := translates_nil_symbols_iff.1 hrest
  have hitems := items_of_elements (helements.writes hpbody) htext
  have hscan := (@scan_eq_some_iff .plain trivial _ _).2 hitems
  have hinside : inside raw.toList = some text := by
    rw [hraw]
    exact inside_quoted (items_head hitems)
  exact decode_eq_some_iff.2 ⟨text, _, hinside, hscan, Utf16.decode_flatMap_units _⟩

theorem Denotes.isWritten (h : Denotes raw value symbols parts) (hslash : .escaped 92 ∉ symbols)
    (hdecode : decode raw = some value) : ∀ s ∈ parts, s.IsWritten := by
  obtain ⟨text, us, hinside, hscan, hus⟩ := decode_eq_some_iff.1 hdecode
  have hitems : Items text us := (@scan_eq_some_iff .plain trivial _ _).1 hscan
  obtain rfl := (Utf16.decode_eq_some_iff (lt_of_mem_items hitems)).1 hus
  obtain ⟨ht, -, -, helements⟩ := h
  rw [eq_quoted_of_inside hinside] at ht
  obtain ⟨behind, hsymbols, hbehind⟩ := ht.cons_of_ne (by decide)
  obtain ⟨rfl, rfl⟩ := List.cons.inj hsymbols
  -- The text ends with a quotation mark, so that the last symbol is one as well.
  have hclosing := hbehind.getLast? not_hexDigit_quote List.getLast?_concat
  rw [List.getLast?_concat] at hclosing
  obtain rfl := Option.some.inj hclosing
  obtain ⟨front, last, odd, htext, hfront, hlast⟩ := hbehind.split
  obtain ⟨rest, rfl, -, hrest⟩ := translates_written_iff.1 hlast
  obtain rfl := translates_nil_symbols_iff.1 hrest
  obtain rfl := (List.append_left_inj ['"']).1 htext
  obtain ⟨onePass, honePass⟩ := hitems.elements hfront
  simp only [List.mem_cons, List.mem_append, not_or] at hslash
  have hbody := (helements.length_le honePass hslash.2.1).2 rfl
  have hquote : (Symbol.written '"').IsWritten := ⟨'"', rfl⟩
  exact List.forall_mem_cons.2 ⟨hquote, List.forall_mem_append.2 ⟨hbody, by simpa using hquote⟩⟩

end

/--
A literal is read as its value if every delimiter and every part of an escape is written as such,
and, unless a unicode escape stands for a backslash, only then. With one, the two readings can meet
by chance, as in `"\u005c\'"`.
-/
theorem decode_of_denotes {raw value : String} {symbols parts : List Symbol}
    (h : Denotes raw value symbols parts) :
    ((∀ s ∈ parts, s.IsWritten) → decode raw = some value) ∧
      (.escaped 92 ∉ symbols → decode raw = some value → ∀ s ∈ parts, s.IsWritten) :=
  ⟨h.decode_eq, h.isWritten⟩

theorem decode_of_denotes_spelledDigit :
    Denotes "\"\\uu0041\\t\\47\\u0031\"" "A\t'1"
      [.written '"', .escaped 0x41, .written '\\', .written 't', .written '\\', .written '4',
        .written '7', .escaped 0x31, .written '"']
      [.written '"', .written '\\', .written 't', .written '\\', .written '4', .written '7',
        .written '"'] ∧
    decode "\"\\uu0041\\t\\47\\u0031\"" = some "A\t'1" := by
  have hletter : Number 16 0 ['0', '0', '4', '1'] 0x41 :=
    .cons (d := 0) ⟨by decide, .inl rfl⟩ (.cons (d := 0) ⟨by decide, .inl rfl⟩
      (.cons (d := 4) ⟨by decide, .inl rfl⟩ (.cons (d := 1) ⟨by decide, .inl rfl⟩ .nil)))
  have hdigit : Number 16 0 ['0', '0', '3', '1'] 0x31 :=
    .cons (d := 0) ⟨by decide, .inl rfl⟩ (.cons (d := 0) ⟨by decide, .inl rfl⟩
      (.cons (d := 3) ⟨by decide, .inl rfl⟩ (.cons (d := 1) ⟨by decide, .inl rfl⟩ .nil)))
  have hoctal : Number 8 0 ['4', '7'] 0o47 :=
    .cons (d := 4) ⟨by decide, .inl rfl⟩ (.cons (d := 7) ⟨by decide, .inl rfl⟩ .nil)
  have hplain (u : Nat) (hu : u ∉ [34, 92, 10, 13]) :
      ∀ c ∈ ['"', '\\', '\n', '\r'], ¬ (Symbol.escaped u).Stands c := by
    rintro c hc ⟨⟩
    exact hu (List.mem_map_of_mem (f := Char.toNat) hc)
  have hdigits : Translates false ['\\', 'u', '0', '0', '3', '1', '"'] [.escaped 0x31, .written '"'] :=
    @Translates.unicode 0 0x31 ['0', '0', '3', '1'] ['"'] _ rfl hdigit (.written (by decide) .nil)
  have htail : Translates false ['\\', 't', '\\', '4', '7', '\\', 'u', '0', '0', '3', '1', '"']
      [.written '\\', .written 't', .written '\\', .written '4', .written '7', .escaped 0x31,
        .written '"'] :=
    .written (by decide) (.written (by decide) (.written (by decide) (.written (by decide)
      (.written (by decide) hdigits))))
  have htranslates : Translates false "\"\\uu0041\\t\\47\\u0031\"".toList
      [.written '"', .escaped 0x41, .written '\\', .written 't', .written '\\', .written '4',
        .written '7', .escaped 0x31, .written '"'] :=
    .written (by decide) (@Translates.unicode 1 0x41 ['0', '0', '4', '1'] _ _ rfl hletter htail)
  have helements : Elements Symbol.Stands
      [.escaped 0x41, .written '\\', .written 't', .written '\\', .written '4', .written '7',
        .escaped 0x31]
      ("A\t'1".toList.flatMap Utf16.units)
      [.written '\\', .written 't', .written '\\', .written '4', .written '7'] :=
    .character (hplain _ (by decide)) (.escape .written .written (by decide)
      (.octal .written (.cons .written (.cons .written .nil)) hoctal (by decide) (.inl rfl)
        (.character (hplain _ (by decide)) .nil)))
  have hdenotes := Denotes.intro htranslates .written .written helements
  exact ⟨hdenotes, (decode_of_denotes hdenotes).1 (by simp [Symbol.IsWritten, Symbol.Writes])⟩

theorem decode_escapedBackslash :
    Denotes "\"\\u005cn\"" "\n" [.written '"', .escaped 92, .written 'n', .written '"']
      [.written '"', .escaped 92, .written 'n', .written '"'] ∧
    decode "\"\\u005cn\"" = some "\\n" ∧ "\\n" ≠ "\n" := by
  have hbackslash : Number 16 0 ['0', '0', '5', 'c'] 92 :=
    .cons (d := 0) ⟨by decide, .inl rfl⟩ (.cons (d := 0) ⟨by decide, .inl rfl⟩
      (.cons (d := 5) ⟨by decide, .inl rfl⟩ (.cons (d := 12) ⟨by decide, .inl rfl⟩ .nil)))
  have htail : Translates false ['n', '"'] [.written 'n', .written '"'] :=
    .written (by decide) (.written (by decide) .nil)
  have htranslates : Translates false "\"\\u005cn\"".toList
      [.written '"', .escaped 92, .written 'n', .written '"'] :=
    .written (by decide) (@Translates.unicode 0 92 ['0', '0', '5', 'c'] _ _ rfl hbackslash htail)
  have helements : Elements Symbol.Stands [.escaped 92, .written 'n']
      ("\n".toList.flatMap Utf16.units) [.escaped 92, .written 'n'] :=
    .escape (.escaped (c := '\\')) .written (by decide) .nil
  exact ⟨.intro htranslates .written .written helements, by decide +kernel, by decide⟩

end BridgeTypings.Java.StringLiteral

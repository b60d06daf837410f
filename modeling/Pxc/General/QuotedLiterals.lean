import Mathlib.Data.List.Basic

namespace Pxc
namespace General

/-!
# Quoted literals

A quoted literal ends at the first quote that is neither doubled nor escaped.
A doubled quote stands for one quote, and a backslash makes the next symbol
stand for one or two others.  Reading a literal gives its value and the text
that follows it.

A literal takes at least as many symbols as its value has, and one for the
closing quote.  It takes no more if and only if its symbols are its value, so
that a text of the least possible length is read back as what was put into it.
-/

universe u

/-- The symbols of a kind of literals.  An escape stands for two symbols only
if it stands for itself. -/
structure Quoting (A : Type u) where
  quote : A
  backslash : A
  escape : A → List A
  distinct : backslash ≠ quote
  escape_length : ∀ symbol, (escape symbol).length ≤ 2
  escape_self : ∀ symbol, (escape symbol).length = 2 → escape symbol = [backslash, symbol]

namespace Quoting

variable {A : Type u} [DecidableEq A] (quoting : Quoting A)

/-- Read the rest of a literal, up to its end. -/
def scan : List A → Option (List A × List A)
  | [] => none
  | symbol :: text =>
      if symbol = quoting.quote then
        match text with
        | [] => some ([], [])
        | next :: later =>
            if next = quoting.quote then
              (scan later).map fun (value, rest) => (quoting.quote :: value, rest)
            else some ([], next :: later)
      else if symbol = quoting.backslash then
        match text with
        | [] => none
        | next :: later =>
            (scan later).map fun (value, rest) => (quoting.escape next ++ value, rest)
      else (scan text).map fun (value, rest) => (symbol :: value, rest)

/-- The symbols of a literal are its value. -/
inductive Plain : List A → Prop where
  | nil : Plain []
  | symbol {symbol : A} {value : List A} (notQuote : symbol ≠ quoting.quote)
      (notBackslash : symbol ≠ quoting.backslash) (plain : Plain value) : Plain (symbol :: value)
  | escaped {symbol : A} {value : List A}
      (self : quoting.escape symbol = [quoting.backslash, symbol]) (plain : Plain value) :
      Plain (quoting.backslash :: symbol :: value)

variable {quoting}

/-- A literal takes its value's length and one symbol more, and no more only
if it is plain. -/
theorem scan_consumes {text value rest : List A}
    (scanned : quoting.scan text = some (value, rest)) :
    ∃ consumed, text = consumed ++ rest ∧ value.length + 1 ≤ consumed.length ∧
      (consumed.length = value.length + 1 →
        consumed = value ++ [quoting.quote] ∧ quoting.Plain value) := by
  fun_induction scan quoting text generalizing value rest with
  | case1 => cases scanned
  | case2 =>
      cases scanned
      exact ⟨[quoting.quote], rfl, Nat.le_refl 1, fun _ => ⟨rfl, .nil⟩⟩
  | case3 later inductionHypothesis =>
      rcases Option.map_eq_some_iff.mp scanned with ⟨⟨inner, after⟩, onwards, same⟩
      cases same
      rcases inductionHypothesis onwards with ⟨consumed, rfl, enough, _⟩
      refine ⟨quoting.quote :: quoting.quote :: consumed, rfl, ?_, fun tight => ?_⟩
      · simp only [List.length_cons]
        omega
      · simp only [List.length_cons] at tight
        omega
  | case4 next later notQuote =>
      cases scanned
      exact ⟨[quoting.quote], rfl, Nat.le_refl 1, fun _ => ⟨rfl, .nil⟩⟩
  | case5 => cases scanned
  | case6 next later _ inductionHypothesis =>
      rcases Option.map_eq_some_iff.mp scanned with ⟨⟨inner, after⟩, onwards, same⟩
      cases same
      rcases inductionHypothesis onwards with ⟨consumed, rfl, enough, plain⟩
      have short := quoting.escape_length next
      refine ⟨quoting.backslash :: next :: consumed, rfl, ?_, fun tight => ?_⟩
      · simp only [List.length_append, List.length_cons]
        omega
      · simp only [List.length_append, List.length_cons] at tight
        have self := quoting.escape_self next (by omega)
        rcases plain (by omega) with ⟨rfl, isPlain⟩
        rw [self]
        exact ⟨rfl, .escaped self isPlain⟩
  | case7 next later notQuote notBackslash inductionHypothesis =>
      rcases Option.map_eq_some_iff.mp scanned with ⟨⟨inner, after⟩, onwards, same⟩
      cases same
      rcases inductionHypothesis onwards with ⟨consumed, rfl, enough, plain⟩
      refine ⟨next :: consumed, rfl, Nat.succ_le_succ enough, fun tight => ?_⟩
      rcases plain (Nat.succ.inj tight) with ⟨rfl, isPlain⟩
      exact ⟨rfl, .symbol notQuote notBackslash isPlain⟩

/-- A plain literal is read up to its quote, unless another one follows. -/
theorem scan_plain {value : List A} (plain : quoting.Plain value) {rest : List A}
    (ends : rest.head? ≠ some quoting.quote) :
    quoting.scan (value ++ quoting.quote :: rest) = some (value, rest) := by
  induction plain with
  | nil =>
      cases rest with
      | nil => simp only [List.nil_append, scan, if_true]
      | cons next later =>
          have notQuote : next ≠ quoting.quote := fun same => ends (congrArg some same)
          simp only [List.nil_append, scan, if_true, if_neg notQuote]
  | symbol notQuote notBackslash _ inductionHypothesis =>
      rw [List.cons_append, scan.eq_def]
      simp only [if_neg notQuote, if_neg notBackslash, inductionHypothesis, Option.map_some]
  | escaped self _ inductionHypothesis =>
      rw [List.cons_append, List.cons_append, scan.eq_def]
      simp only [if_neg quoting.distinct, if_true, inductionHypothesis, Option.map_some, self,
        List.cons_append, List.nil_append]

omit [DecidableEq A] in
theorem plain_of_forall {value : List A}
    (ordinary : ∀ symbol ∈ value, symbol ≠ quoting.quote ∧ symbol ≠ quoting.backslash) :
    quoting.Plain value := by
  induction value with
  | nil => exact .nil
  | cons symbol rest inductionHypothesis =>
      have here := ordinary symbol List.mem_cons_self
      exact .symbol here.1 here.2
        (inductionHypothesis fun other member => ordinary other (List.mem_cons_of_mem _ member))

theorem dropPrefix_eq_some_iff {expected text rest : List A} :
    text.dropPrefix? expected = some rest ↔ text = expected ++ rest := by
  rw [List.dropPrefix?_eq_some_iff]
  constructor
  · rintro ⟨taken, rfl, same⟩
    rw [eq_of_beq same]
  · rintro rfl
    exact ⟨expected, rfl, beq_self_eq_true expected⟩

variable (quoting) in
/-- Read a text that consists of an opening, a literal, a joining text and a
literal, each up to its quote.  Nothing may follow. -/
def readTwo (opening joining text : List A) : Option (List A × List A) :=
  (text.dropPrefix? (opening ++ [quoting.quote])).bind fun afterOpening =>
    (quoting.scan afterOpening).bind fun (first, afterFirst) =>
      (afterFirst.dropPrefix? (joining ++ [quoting.quote])).bind fun afterJoining =>
        (quoting.scan afterJoining).bind fun (second, rest) =>
          if rest = [] then some (first, second) else none

variable (quoting) in
/-- The text of two values between quotes. -/
def writeTwo (opening joining first second : List A) : List A :=
  opening ++ [quoting.quote] ++ first ++ [quoting.quote] ++ joining ++ [quoting.quote] ++ second ++
    [quoting.quote]

theorem readTwo_eq_some_iff {opening joining text first second : List A} :
    quoting.readTwo opening joining text = some (first, second) ↔
      ∃ afterOpening afterJoining, text = opening ++ [quoting.quote] ++ afterOpening ∧
        quoting.scan afterOpening = some (first, joining ++ [quoting.quote] ++ afterJoining) ∧
        quoting.scan afterJoining = some (second, []) := by
  unfold readTwo
  constructor
  · intro read
    rcases Option.bind_eq_some_iff.mp read with ⟨afterOpening, opened, read⟩
    rcases Option.bind_eq_some_iff.mp read with ⟨⟨value, afterFirst⟩, scanned, read⟩
    rcases Option.bind_eq_some_iff.mp read with ⟨afterJoining, joined, read⟩
    rcases Option.bind_eq_some_iff.mp read with ⟨⟨valueToo, rest⟩, scannedToo, read⟩
    simp only [Option.ite_none_right_eq_some, Option.some.injEq, Prod.mk.injEq] at read
    rcases read with ⟨rfl, rfl, rfl⟩
    rw [dropPrefix_eq_some_iff.mp joined] at scanned
    exact ⟨afterOpening, afterJoining, dropPrefix_eq_some_iff.mp opened, scanned, scannedToo⟩
  · rintro ⟨afterOpening, afterJoining, rfl, scanned, scannedToo⟩
    rw [dropPrefix_eq_some_iff.mpr rfl]
    simp only [Option.bind_some, scanned, dropPrefix_eq_some_iff.mpr rfl, scannedToo, if_true]

/-- Two values are read back from their text if and only if both are plain. -/
theorem readTwo_writeTwo_iff {opening joining first second : List A}
    (apart : (joining ++ [quoting.quote]).head? ≠ some quoting.quote) :
    quoting.readTwo opening joining (quoting.writeTwo opening joining first second) =
      some (first, second) ↔ quoting.Plain first ∧ quoting.Plain second := by
  rw [readTwo_eq_some_iff]
  constructor
  · rintro ⟨afterOpening, afterJoining, text, scanned, scannedToo⟩
    rcases scan_consumes scanned with ⟨consumed, rfl, enough, plain⟩
    rcases scan_consumes scannedToo with ⟨consumedToo, rfl, enoughToo, plainToo⟩
    have length := congrArg List.length text
    simp only [writeTwo, List.length_append, List.length_singleton, List.length_nil] at length
    exact ⟨(plain (by omega)).2, (plainToo (by omega)).2⟩
  · rintro ⟨plain, plainToo⟩
    refine ⟨first ++ quoting.quote :: (joining ++ [quoting.quote] ++ (second ++ [quoting.quote])),
      second ++ [quoting.quote], ?_, ?_, ?_⟩
    · simp only [writeTwo, List.append_assoc, List.cons_append, List.nil_append]
    · apply scan_plain plain
      cases joining with
      | nil => exact absurd rfl apart
      | cons symbol others => exact apart
    · apply scan_plain plainToo
      intro nothing
      cases nothing

end Quoting

end General
end Pxc
